/-
# A file of lines

What `str.splitlines` makes of texts that are written one after the other with a newline behind
each.  A text without a line boundary is a line again (`splitLinesChars_joinLines`); a text with one
is cut at its first boundary, and what stands before it is a line (`splitLinesChars_cut`).
-/

import AiopsK8s.Lib.Text

namespace AiopsK8s
namespace Text

/-- The texts with a newline behind each. -/
def joinLines (lines : List (List Char)) : List Char := lines.flatMap (· ++ ['\n'])

theorem splitLinesChars_cons {c : Char} (hc : c ≠ '\r') (line rest : List Char) :
    splitLinesChars line (c :: rest) =
      if isLineBreak c then line :: splitLinesChars [] rest
      else splitLinesChars (line ++ [c]) rest := by
  rw [splitLinesChars]
  intro _ h
  exact absurd h hc

/-- Characters that are no boundaries go to the line. -/
theorem splitLinesChars_append {p : List Char} (hp : p.any isLineBreak = false)
    (line rest : List Char) : splitLinesChars line (p ++ rest) = splitLinesChars (line ++ p) rest := by
  induction p generalizing line with
  | nil => rw [List.nil_append, List.append_nil]
  | cons c p ih =>
      rw [List.any_cons, Bool.or_eq_false_iff] at hp
      have hc : c ≠ '\r' := by
        rintro rfl
        exact absurd hp.1 (by decide)
      rw [List.cons_append, splitLinesChars_cons hc, hp.1, if_neg Bool.false_ne_true, ih hp.2,
        List.append_assoc, List.singleton_append]

theorem splitLinesChars_newline (line rest : List Char) :
    splitLinesChars line ('\n' :: rest) = line :: splitLinesChars [] rest := by
  rw [splitLinesChars_cons (by decide), if_pos (by decide)]

/-- Every boundary ends the line. -/
theorem splitLinesChars_boundary {c : Char} (hc : isLineBreak c = true) (line rest : List Char) :
    ∃ lines, splitLinesChars line (c :: rest) = line :: lines := by
  by_cases hr : c = '\r'
  · subst hr
    rcases rest with _ | ⟨d, rest⟩
    · exact ⟨_, rfl⟩
    · by_cases hd : d = '\n'
      · subst hd
        exact ⟨_, rfl⟩
      · refine ⟨splitLinesChars [] (d :: rest), ?_⟩
        rw [splitLinesChars, if_pos hc]
        intro _ _ h
        exact absurd (List.cons.inj h).1 hd
  · exact ⟨_, by rw [splitLinesChars_cons hr, if_pos hc]⟩

/-- **Texts without a boundary are lines again.** -/
theorem splitLinesChars_joinLines {lines : List (List Char)}
    (h : ∀ l ∈ lines, l.any isLineBreak = false) (rest : List Char) :
    splitLinesChars [] (joinLines lines ++ rest) = lines ++ splitLinesChars [] rest := by
  induction lines with
  | nil => rfl
  | cons l lines ih =>
      have hl : joinLines (l :: lines) ++ rest = l ++ '\n' :: (joinLines lines ++ rest) := by
        simp [joinLines]
      rw [hl, splitLinesChars_append (h l List.mem_cons_self), splitLinesChars_newline,
        ih fun l' hl' => h l' (List.mem_cons_of_mem _ hl'), List.nil_append, List.cons_append]

/-- A text with a boundary, up to the first one. -/
theorem exists_first_break {l : List Char} (h : l.any isLineBreak = true) :
    ∃ p c q, l = p ++ c :: q ∧ p.any isLineBreak = false ∧ isLineBreak c = true := by
  induction l with
  | nil => cases h
  | cons c l ih =>
      by_cases hc : isLineBreak c = true
      · exact ⟨[], c, l, rfl, rfl, hc⟩
      · have hfalse := Bool.eq_false_of_not_eq_true hc
        rw [List.any_cons, hfalse, Bool.false_or] at h
        obtain ⟨p, d, q, rfl, hp, hd⟩ := ih h
        refine ⟨c :: p, d, q, rfl, ?_, hd⟩
        rw [List.any_cons, hfalse, hp]
        rfl

/-- **A text with a boundary is cut**: the part before its first boundary is a line. -/
theorem splitLinesChars_cut {lines post : List (List Char)} {l : List Char}
    (h : ∀ l ∈ lines, l.any isLineBreak = false) (hl : l.any isLineBreak = true) :
    ∃ p c q rest, l = p ++ c :: q ∧ isLineBreak c = true ∧
      splitLinesChars [] (joinLines (lines ++ l :: post)) = lines ++ p :: rest := by
  obtain ⟨p, c, q, rfl, hp, hc⟩ := exists_first_break hl
  obtain ⟨rest, hrest⟩ := splitLinesChars_boundary hc p (q ++ '\n' :: joinLines post)
  refine ⟨p, c, q, rest, rfl, hc, ?_⟩
  have hfile : joinLines (lines ++ (p ++ c :: q) :: post) =
      joinLines lines ++ (p ++ c :: (q ++ '\n' :: joinLines post)) := by
    simp [joinLines]
  rw [hfile, splitLinesChars_joinLines h, splitLinesChars_append hp, List.nil_append, hrest]

end Text
end AiopsK8s
