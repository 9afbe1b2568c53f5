/-
# Text: Python's `str.strip` and `str.splitlines`

`strip` removes the characters that `str.isspace` accepts from both ends.  A
text is *proper* when it is its own `strip` and not empty: this is what a
decoder of required text returns (`proper_strip`), and decoding such a text
again gives it back (`Proper.strip_eq`).
-/

import Mathlib.Data.List.DropRight
import Mathlib.Data.String.Basic

namespace AiopsK8s
namespace Text

/-- `str.isspace` on one character: the Unicode white space of the `bidirectional`
classes `WS`, `B`, `S` and of category `Zs`. -/
def isSpace (c : Char) : Bool :=
  let n := c.toNat
  (9 ≤ n && n ≤ 13) || (28 ≤ n && n ≤ 32) || n == 0x85 || n == 0xA0 || n == 0x1680 ||
    (0x2000 ≤ n && n ≤ 0x200A) || n == 0x2028 || n == 0x2029 || n == 0x202F || n == 0x205F ||
    n == 0x3000

/-- `str.strip` on the characters of a text. -/
def stripChars (l : List Char) : List Char := (l.dropWhile isSpace).rdropWhile isSpace

/-- `str.strip`. -/
def strip (s : String) : String := String.ofList (stripChars s.toList)

/-- `str.lower` on one character, as far as a comparison with an ASCII text can tell: of the
characters outside ASCII only the Kelvin sign has an ASCII lower case. -/
def lowerChar (c : Char) : Char := if c.toNat = 0x212A then 'k' else c.toLower

/-- `not s.strip()`. -/
def isBlank (s : String) : Bool := (stripChars s.toList).isEmpty

/-- The line boundaries of `str.splitlines`. -/
def isLineBreak (c : Char) : Bool :=
  let n := c.toNat
  (10 ≤ n && n ≤ 13) || (28 ≤ n && n ≤ 30) || n == 0x85 || n == 0x2028 || n == 0x2029

/-- The lines of a text that begins inside the line `line`: `\r\n` is one boundary, and
what follows the last boundary is a line only if it is not empty. -/
def splitLinesChars : List Char → List Char → List (List Char)
  | line, [] => if line.isEmpty then [] else [line]
  | line, '\r' :: '\n' :: rest => line :: splitLinesChars [] rest
  | line, c :: rest =>
    if isLineBreak c then line :: splitLinesChars [] rest
    else splitLinesChars (line ++ [c]) rest

/-- `str.splitlines`. -/
def splitLines (s : String) : List String := (splitLinesChars [] s.toList).map String.ofList

/-- A text that `strip` leaves alone and that is not empty. -/
def Proper (s : String) : Prop := strip s = s ∧ s ≠ ""

instance (s : String) : Decidable (Proper s) := inferInstanceAs (Decidable (_ ∧ _))

theorem dropWhile_idem (p : Char → Bool) (l : List Char) :
    (l.dropWhile p).dropWhile p = l.dropWhile p := by
  induction l with
  | nil => rfl
  | cons a l ih =>
      by_cases ha : p a
      · simpa [List.dropWhile_cons_of_pos ha] using ih
      · simp [List.dropWhile_cons_of_neg ha]

/-- Dropping from the right keeps a list that has nothing to drop on the left. -/
theorem dropWhile_rdropWhile (p : Char → Bool) (l : List Char) :
    ((l.dropWhile p).rdropWhile p).dropWhile p = (l.dropWhile p).rdropWhile p := by
  have hpre : (l.dropWhile p).rdropWhile p <+: l.dropWhile p := List.rdropWhile_prefix ..
  rcases hd : (l.dropWhile p).rdropWhile p with _ | ⟨a, m⟩
  · rfl
  · rw [hd] at hpre
    obtain ⟨t, ht⟩ := hpre
    have ha : ¬p a = true := by
      have := dropWhile_idem p l
      rw [← ht, List.cons_append] at this
      intro hpa
      rw [List.dropWhile_cons_of_pos hpa] at this
      have hlen := congrArg List.length this
      have hle := (List.dropWhile_sublist p (l := m ++ t)).length_le
      simp only [List.length_cons] at hlen
      omega
    rw [List.dropWhile_cons_of_neg ha]

@[simp] theorem stripChars_idem (l : List Char) : stripChars (stripChars l) = stripChars l := by
  unfold stripChars
  rw [dropWhile_rdropWhile, List.rdropWhile_idempotent]

@[simp] theorem strip_idem (s : String) : strip (strip s) = strip s := by
  simp [strip]

/-- A text that is not blank strips to a proper text. -/
theorem proper_strip {s : String} (h : strip s ≠ "") : Proper (strip s) := ⟨strip_idem s, h⟩

theorem Proper.strip_eq {s : String} (h : Proper s) : strip s = s := h.1

theorem Proper.ne_empty {s : String} (h : Proper s) : s ≠ "" := h.2

/-- A proper text is one that has a first and a last character, and neither is white space. -/
theorem proper_iff_ends {s : String} : Proper s ↔ s ≠ "" ∧
    (∀ c ∈ s.toList.head?, isSpace c = false) ∧ ∀ c ∈ s.toList.getLast?, isSpace c = false := by
  have hfirst : (∀ c ∈ s.toList.head?, isSpace c = false) ↔ s.toList.dropWhile isSpace = s.toList := by
    rcases s.toList with _ | ⟨a, l⟩
    · simp
    · by_cases ha : isSpace a = true
      · have hshort : (l.dropWhile isSpace).length ≤ l.length := (List.dropWhile_sublist _).length_le
        have hne : l.dropWhile isSpace ≠ a :: l := by
          intro heq
          rw [heq, List.length_cons] at hshort
          omega
        simp [List.dropWhile_cons_of_pos ha, ha, hne]
      · simp [List.dropWhile_cons_of_neg ha, ha]
  have hlast : (∀ c ∈ s.toList.getLast?, isSpace c = false) ↔
      s.toList.rdropWhile isSpace = s.toList := by
    rw [List.rdropWhile_eq_self_iff]
    rcases s.toList.eq_nil_or_concat with hnil | ⟨l, a, hl⟩
    · simp [hnil]
    · simp [hl]
  rw [hfirst, hlast]
  constructor
  · rintro ⟨hstrip, hne⟩
    have hchars : stripChars s.toList = s.toList := by
      have := congrArg String.toList hstrip
      rwa [strip, String.toList_ofList] at this
    refine ⟨hne, ?_, ?_⟩
    · rw [← hchars]
      exact dropWhile_rdropWhile isSpace s.toList
    · rw [← hchars]
      exact List.rdropWhile_idempotent _ _
  · rintro ⟨hne, hdrop, hrdrop⟩
    refine ⟨?_, hne⟩
    rw [strip, stripChars, hdrop, hrdrop, String.ofList_toList]

/-- A text in front of a proper text, when it has its own first character. -/
theorem Proper.append {a b : String} (ha : ∃ c l, a.toList = c :: l ∧ isSpace c = false)
    (hb : Proper b) : Proper (a ++ b) := by
  obtain ⟨c, l, hal, hc⟩ := ha
  obtain ⟨hne, _, hlast⟩ := proper_iff_ends.1 hb
  have hbl : b.toList ≠ [] := fun hnil => hne (String.toList_eq_nil_iff.1 hnil)
  refine proper_iff_ends.2 ⟨?_, ?_, ?_⟩
  · intro hempty
    have hlen := congrArg String.toList hempty
    simp [hal] at hlen
  · rw [String.toList_append, hal]
    simpa using hc
  · rw [String.toList_append, List.getLast?_append_of_ne_nil _ hbl]
    exact hlast

theorem isBlank_iff {s : String} : isBlank s = true ↔ strip s = "" := by
  unfold isBlank strip
  rw [List.isEmpty_iff]
  constructor
  · intro h
    rw [h]
  · intro h
    simpa using congrArg String.toList h

/-- A text is blank if it is all white space. -/
theorem isBlank_iff_forall {s : String} : isBlank s = true ↔ ∀ c ∈ s.toList, isSpace c = true := by
  unfold isBlank stripChars
  rw [List.isEmpty_iff, List.rdropWhile_eq_nil_iff]
  constructor
  · intro h
    rcases hrest : s.toList.dropWhile isSpace with - | ⟨c, rest⟩
    · exact List.dropWhile_eq_nil_iff.1 hrest
    · have hhead := List.head_dropWhile_not isSpace (l := s.toList) (by simp [hrest])
      simp only [hrest, List.head_cons] at hhead
      rw [h c (by simp [hrest])] at hhead
      cases hhead
  · intro h c hc
    exact h c ((List.dropWhile_sublist _).subset hc)

/-- A text that begins with one that is not blank. -/
theorem isBlank_append {a b : String} (h : isBlank a = false) : isBlank (a ++ b) = false := by
  rw [Bool.eq_false_iff] at h ⊢
  refine fun hblank => h (isBlank_iff_forall.2 fun c hc => isBlank_iff_forall.1 hblank c ?_)
  rw [String.toList_append]
  exact List.mem_append_left _ hc

end Text
end AiopsK8s
