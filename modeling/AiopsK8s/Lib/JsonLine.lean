/-
# The text of a document on one line

`line` is `json.dumps(value, ensure_ascii=False)`, with the separators of its default: a space
follows every comma and every colon.  A document is read back from it (`loads_line`) and no proper
prefix of the line of an object is a document (`loads_linePrefix`).

The writer escapes the control characters below the space, so of the line boundaries of
`str.splitlines` only U+0085, U+2028 and U+2029 can stand in a line, and they stand there where a
text or a key of the document has them (`any_isLineBreak_spacedChars`).
-/

import AiopsK8s.Lib.JsonPrefix

namespace AiopsK8s
namespace JsonText

variable (py : Python)

mutual

/-- `json.dumps` with the default separators, on the characters. -/
def spacedChars : Json → List Char
  | .null => dumpChars py .null
  | .bool b => dumpChars py (.bool b)
  | .int i => dumpChars py (.int i)
  | .float x => dumpChars py (.float x)
  | .str s => dumpChars py (.str s)
  | .arr [] => ['[', ']']
  | .arr (v :: vs) => '[' :: (spacedChars v ++ spacedItems vs)
  | .obj [] => ['{', '}']
  | .obj ((k, v) :: fs) => '{' :: (quote k ++ ':' :: ' ' :: (spacedChars v ++ spacedFields fs))

/-- The items after the first. -/
def spacedItems : List Json → List Char
  | [] => [']']
  | v :: vs => ',' :: ' ' :: (spacedChars v ++ spacedItems vs)

/-- The entries after the first. -/
def spacedFields : List (String × Json) → List Char
  | [] => ['}']
  | (k, v) :: fs =>
    ',' :: ' ' :: (quote k ++ ':' :: ' ' :: (spacedChars v ++ spacedFields fs))

end

/-- `json.dumps(value, ensure_ascii=False)`. -/
def line (value : Json) : String := String.ofList (spacedChars py value)

variable {py} {fl : Floats py}

/-! ### Reading a line back -/

/-- How the line of a value begins. -/
theorem spacedChars_cons {v : Json} (h : IsValue fl v) :
    ∃ c t, spacedChars py v = c :: t ∧ isWhitespace c = false ∧ c ≠ ']' := by
  match v, h with
  | .null, h => exact dumpChars_cons (v := .null) h
  | .bool b, h => exact dumpChars_cons (v := .bool b) h
  | .int i, h => exact dumpChars_cons (v := .int i) h
  | .float x, h => exact dumpChars_cons (v := .float x) h
  | .str s, h => exact dumpChars_cons (v := .str s) h
  | .arr [], _ => exact ⟨'[', _, rfl, by decide⟩
  | .arr (_ :: _), _ => exact ⟨'[', _, rfl, by decide⟩
  | .obj [], _ => exact ⟨'{', _, rfl, by decide⟩
  | .obj ((_, _) :: _), _ => exact ⟨'{', _, rfl, by decide⟩

/-- No white space is skipped in front of a value. -/
theorem skipWhitespace_spacedChars {v : Json} (h : IsValue fl v) (rest : List Char) :
    skipWhitespace (spacedChars py v ++ rest) = spacedChars py v ++ rest := by
  obtain ⟨c, t, hct, hspace, _⟩ := spacedChars_cons h
  rw [hct, List.cons_append]
  exact isWhitespace_false hspace _

/-- The space behind a comma or a colon is skipped. -/
theorem skipWhitespace_space (rest : List Char) :
    skipWhitespace (' ' :: rest) = skipWhitespace rest := by
  rw [skipWhitespace, List.dropWhile_cons_of_pos (by decide)]
  rfl

theorem skipWhitespace_space_quote (k : String) (rest : List Char) :
    skipWhitespace (' ' :: (quote k ++ rest)) = quote k ++ rest := by
  rw [skipWhitespace_space, skipWhitespace_quote]

theorem skipWhitespace_space_spacedChars {v : Json} (h : IsValue fl v) (rest : List Char) :
    skipWhitespace (' ' :: (spacedChars py v ++ rest)) = spacedChars py v ++ rest := by
  rw [skipWhitespace_space, skipWhitespace_spacedChars h]

/-- A value, read from its line with any fuel that the line gives. -/
def LineBack (py : Python) (v : Json) : Prop :=
  ∀ n r, (spacedChars py v).length ≤ n → Ends r →
    scanValue py n (spacedChars py v ++ r) = some (v, r)

/-- The line of a value is not empty, so there is fuel to scan it. -/
theorem exists_lineFuel {v : Json} (h : IsValue fl v) {n : ℕ}
    (hn : (spacedChars py v).length ≤ n) : ∃ m, n = m + 1 := by
  obtain ⟨c, t, hct, _⟩ := spacedChars_cons h
  rw [hct, List.length_cons] at hn
  exact ⟨n - 1, by omega⟩

mutual

/-- **A document is read back** from its line, whatever follows it. -/
theorem scanValue_spacedChars : ∀ v : Json, IsValue fl v → LineBack py v
  | .null, h => scanValue_dumpChars .null h
  | .bool b, h => scanValue_dumpChars (.bool b) h
  | .int i, h => scanValue_dumpChars (.int i) h
  | .float x, h => scanValue_dumpChars (.float x) h
  | .str s, h => scanValue_dumpChars (.str s) h
  | .arr [], h => by
      intro n r hn _
      obtain ⟨n, rfl⟩ := exists_lineFuel h hn
      rfl
  | .arr (v :: vs), h => by
      intro n r hn _
      obtain ⟨n, rfl⟩ := exists_lineFuel h hn
      rw [IsValue, AreValues] at h
      rw [spacedChars, List.length_cons] at hn
      obtain ⟨c, t, hct, -, hbracket⟩ := spacedChars_cons h.1
      have hskip := skipWhitespace_spacedChars h.1 (spacedItems py vs ++ r)
      have hitems := scanItems_spacedItems vs h.2 v (scanValue_spacedChars v h.1) n r (by omega)
      rw [hct, List.cons_append] at hskip
      rw [spacedChars, List.cons_append, List.append_assoc, hct, List.cons_append,
        scanValue_array hskip hbracket, ← List.cons_append, ← hct, hitems]
      rfl
  | .obj [], h => by
      intro n r hn _
      obtain ⟨n, rfl⟩ := exists_lineFuel h hn
      rfl
  | .obj ((k, v) :: fs), h => by
      intro n r hn _
      obtain ⟨n, rfl⟩ := exists_lineFuel h hn
      rw [IsValue, AreEntries] at h
      rw [spacedChars, List.length_cons] at hn
      have hpairs := scanPairs_spacedFields fs h.2.2 k v h.2.1 (scanValue_spacedChars v h.2.1) n r
        (by omega)
      have hupdate : Json.update [] ((k, v) :: fs) = (k, v) :: fs := Json.update_of_nodup h.1
      have hskip := skipWhitespace_quote k
        (':' :: ' ' :: (spacedChars py v ++ (spacedFields py fs ++ r)))
      rw [quote, List.cons_append] at hskip
      rw [spacedChars, List.cons_append, List.append_assoc, List.cons_append, List.cons_append,
        List.append_assoc, quote, List.cons_append, scanValue_object hskip (by decide),
        ← List.cons_append, ← quote, hpairs, Option.map_some, hupdate]

theorem scanItems_spacedItems : ∀ vs : List Json, AreValues fl vs →
    ∀ v, LineBack py v → ∀ n r, (spacedChars py v ++ spacedItems py vs).length ≤ n →
      scanItems py n (spacedChars py v ++ (spacedItems py vs ++ r)) = some (v :: vs, r)
  | [], _ => by
      intro v hv n r hn
      rw [List.length_append, spacedItems, List.length_singleton] at hn
      obtain ⟨n, rfl⟩ : ∃ m, n = m + 1 := ⟨n - 1, by omega⟩
      have hvalue := hv n (']' :: r) (by omega) (ends_cons (by decide) r)
      rw [spacedItems, List.singleton_append, scanItems, hvalue]
      rfl
  | w :: ws, h => by
      intro v hv n r hn
      rw [AreValues] at h
      rw [List.length_append, spacedItems, List.length_cons, List.length_cons] at hn
      obtain ⟨n, rfl⟩ : ∃ m, n = m + 1 := ⟨n - 1, by omega⟩
      have hitems := scanItems_spacedItems ws h.2 w (scanValue_spacedChars w h.1) n r (by omega)
      have hvalue := hv n (',' :: ' ' :: (spacedChars py w ++ (spacedItems py ws ++ r))) (by omega)
        (ends_cons (by decide) _)
      have hskip := skipWhitespace_space_spacedChars h.1 (spacedItems py ws ++ r)
      have hcomma : skipWhitespace (',' :: ' ' :: (spacedChars py w ++ (spacedItems py ws ++ r)))
          = ',' :: ' ' :: (spacedChars py w ++ (spacedItems py ws ++ r)) :=
        isWhitespace_false (by decide) _
      rw [spacedItems, List.cons_append, List.cons_append, List.append_assoc, scanItems, hvalue]
      simp only
      rw [hcomma]
      simp only
      rw [hskip, hitems]
      rfl

theorem scanPairs_spacedFields : ∀ fs : List (String × Json), AreEntries fl fs →
    ∀ k v, IsValue fl v → LineBack py v → ∀ n r,
      (quote k ++ ':' :: ' ' :: (spacedChars py v ++ spacedFields py fs)).length ≤ n →
      scanPairs py n (quote k ++ ':' :: ' ' :: (spacedChars py v ++ (spacedFields py fs ++ r)))
        = some ((k, v) :: fs, r)
  | [], _ => by
      intro k v hval hv n r hn
      simp only [List.length_append, List.length_cons, spacedFields, List.length_nil] at hn
      obtain ⟨n, rfl⟩ : ∃ m, n = m + 1 := ⟨n - 1, by omega⟩
      have hvalue := hv n ('}' :: r) (by omega) (ends_cons (by decide) r)
      rw [spacedFields, List.singleton_append]
      exact scanPairs_last (by omega) (skipWhitespace_space_spacedChars hval _) hvalue
  | (k', w) :: fs, h => by
      intro k v hval hv n r hn
      rw [AreEntries] at h
      simp only [List.length_append, List.length_cons, spacedFields] at hn
      obtain ⟨n, rfl⟩ : ∃ m, n = m + 1 := ⟨n - 1, by omega⟩
      have hpairs := scanPairs_spacedFields fs h.2 k' w h.1 (scanValue_spacedChars w h.1) n r
        (by simp only [List.length_append, List.length_cons]; omega)
      have hvalue := hv n
        (',' :: ' ' :: (quote k' ++ ':' :: ' ' :: (spacedChars py w ++ (spacedFields py fs ++ r))))
        (by omega) (ends_cons (by decide) _)
      have hscan := scanPairs_comma (k := k) (n := n) (by omega)
        (skipWhitespace_space_spacedChars hval _) hvalue (skipWhitespace_space_quote k' _)
      rw [hpairs, Option.map_some] at hscan
      rw [spacedFields, List.cons_append, List.cons_append, List.append_assoc, List.cons_append,
        List.cons_append, List.append_assoc]
      exact hscan

end

/-- **`json.loads` reads a document back** from its line. -/
theorem loads_line {v : Json} (h : IsValue fl v) : loads py (line py v) = some v := by
  have hskip := skipWhitespace_spacedChars h []
  have hscan := scanValue_spacedChars v h ((spacedChars py v).length + 1) [] (by omega) ends_nil
  rw [List.append_nil] at hskip hscan
  unfold loads line
  rw [String.toList_ofList, hskip, hscan]
  rfl

/-- **No proper prefix of the line of an object is a document.** -/
theorem loads_linePrefix {fs : List (String × Json)} (h : IsValue fl (.obj fs)) {p q : List Char}
    (htext : spacedChars py (.obj fs) = p ++ q) (hp : p ≠ []) (hq : q ≠ []) :
    loads py (String.ofList p) = none := by
  have hscan : ∀ n, (spacedChars py (.obj fs)).length ≤ n →
      scanValue py n (spacedChars py (.obj fs)) = some (.obj fs, []) := by
    intro n hn
    have hscan := scanValue_spacedChars (.obj fs) h n [] hn ends_nil
    rwa [List.append_nil] at hscan
  refine loads_prefix_of_scan ?_ htext hp hq hscan
  rcases fs with _ | ⟨⟨k, v⟩, fs⟩ <;> exact ⟨_, rfl⟩

/-! ### The line boundaries in a line -/

/-- A boundary of `str.splitlines` that `json.dumps` does not escape. -/
def isRawBreak (c : Char) : Bool := c.toNat == 0x85 || c.toNat == 0x2028 || c.toNat == 0x2029

mutual

/-- A text or a key of the value has such a boundary. -/
def hasRawBreak : Json → Bool
  | .str s => s.toList.any isRawBreak
  | .arr vs => hasRawItem vs
  | .obj fs => hasRawField fs
  | _ => false

def hasRawItem : List Json → Bool
  | [] => false
  | v :: vs => hasRawBreak v || hasRawItem vs

def hasRawField : List (String × Json) → Bool
  | [] => false
  | (k, v) :: fs => k.toList.any isRawBreak || (hasRawBreak v || hasRawField fs)

end

theorem isLineBreak_of_le {c : Char} (h : 32 ≤ c.toNat) : Text.isLineBreak c = isRawBreak c := by
  rw [Bool.eq_iff_iff]
  simp only [isRawBreak, Text.isLineBreak, Bool.or_eq_true, Bool.and_eq_true, decide_eq_true_eq,
    beq_iff_eq]
  omega

/-- The escape of a character has a boundary iff the character is one that is not escaped. -/
theorem any_isLineBreak_escapeChar (c : Char) :
    (escapeChar c).any Text.isLineBreak = isRawBreak c := by
  have hcontrol : ∀ d : ℕ, d < 16 → Text.isLineBreak (Nat.digitChar d) = false := by decide
  unfold escapeChar
  split_ifs with hquote hbackslash hn hr ht hb hf hlow
  · subst hquote
    decide
  · subst hbackslash
    decide
  · subst hn
    decide
  · subst hr
    decide
  · subst ht
    decide
  · simp only [isRawBreak, hb]
    decide
  · simp only [isRawBreak, hf]
    decide
  · have hraw : isRawBreak c = false := by
      rw [Bool.eq_false_iff, Ne, isRawBreak]
      simp only [Bool.or_eq_true, beq_iff_eq]
      omega
    rw [hraw]
    simp only [List.any_cons, List.any_nil, hcontrol _ (show c.toNat / 16 < 16 by omega),
      hcontrol _ (show c.toNat % 16 < 16 by omega)]
    decide
  · rw [List.any_cons, List.any_nil, Bool.or_false, isLineBreak_of_le (by omega)]

theorem any_isLineBreak_quote (s : String) :
    (quote s).any Text.isLineBreak = s.toList.any isRawBreak := by
  have hescaped : (s.toList.flatMap escapeChar).any Text.isLineBreak =
      s.toList.any isRawBreak := by
    induction s.toList with
    | nil => rfl
    | cons c cs ih =>
        rw [List.flatMap_cons, List.any_append, ih, any_isLineBreak_escapeChar, List.any_cons]
  have hquotes : Text.isLineBreak '"' = false := by decide
  rw [quote, List.any_cons, List.any_append, hescaped]
  simp [hquotes]

/-- The characters of a number are no boundaries. -/
theorem isLineBreak_of_isDigit {c : Char} (h : c.isDigit = true) : Text.isLineBreak c = false := by
  have hrange : 48 ≤ c.toNat ∧ c.toNat ≤ 57 := by
    simp only [Char.isDigit, Bool.and_eq_true, decide_eq_true_eq] at h
    exact ⟨h.1, h.2⟩
  rw [isLineBreak_of_le (by omega), Bool.eq_false_iff, Ne, isRawBreak]
  simp only [Bool.or_eq_true, beq_iff_eq]
  omega

theorem IntLiteral.any_isLineBreak {i : List Char} (h : IntLiteral i) :
    i.any Text.isLineBreak = false := by
  have hdigits : ∀ ds, NatLiteral ds → ds.any Text.isLineBreak = false := fun ds hds =>
    List.any_eq_false.2 fun c hc => by simp [isLineBreak_of_isDigit (hds.digits c hc)]
  rcases h with h | ⟨ds, rfl, h⟩
  · exact hdigits i h
  · rw [List.any_cons, hdigits ds h]
    decide

theorem FloatLiteral.any_isLineBreak {l : List Char} (h : FloatLiteral l) :
    l.any Text.isLineBreak = false := by
  obtain ⟨i, f, e, rfl, hi, hf, he, -⟩ := h
  have hdigits : ∀ ds : List Char, (∀ d ∈ ds, d.isDigit = true) →
      ds.any Text.isLineBreak = false := fun ds hds =>
    List.any_eq_false.2 fun c hc => by simp [isLineBreak_of_isDigit (hds c hc)]
  have hfrac : f.any Text.isLineBreak = false := by
    rcases hf with rfl | ⟨ds, rfl, -, hds⟩
    · rfl
    · rw [List.any_cons, hdigits ds hds]
      decide
  have hexp : e.any Text.isLineBreak = false := by
    rcases he with rfl | ⟨s, ds, rfl, hs, -, hds⟩
    · rfl
    · rw [List.any_cons, List.any_cons, hdigits ds hds]
      rcases hs with rfl | rfl <;> decide
  rw [List.any_append, List.any_append, hi.any_isLineBreak, hfrac, hexp]
  rfl

mutual

/-- **The line of a value has a boundary** iff a text or a key of the value has one that is not
escaped. -/
theorem any_isLineBreak_spacedChars : ∀ v : Json, IsValue fl v →
    (spacedChars py v).any Text.isLineBreak = hasRawBreak v
  | .null, _ => rfl
  | .bool true, _ => rfl
  | .bool false, _ => rfl
  | .int i, _ => (intLiteral_toString i).any_isLineBreak
  | .float (.finite q), h => (fl.literal q h).any_isLineBreak
  | .float .nan, _ => rfl
  | .float .posInf, _ => rfl
  | .float .negInf, _ => rfl
  | .str s, _ => any_isLineBreak_quote s
  | .arr [], _ => rfl
  | .arr (v :: vs), h => by
      rw [IsValue, AreValues] at h
      have hbracket : Text.isLineBreak '[' = false := by decide
      rw [spacedChars, List.any_cons, List.any_append, any_isLineBreak_spacedChars v h.1,
        any_isLineBreak_spacedItems vs h.2, hbracket, hasRawBreak, hasRawItem, Bool.false_or]
  | .obj [], _ => rfl
  | .obj ((k, v) :: fs), h => by
      rw [IsValue, AreEntries] at h
      have hpunctuation : Text.isLineBreak '{' = false ∧ Text.isLineBreak ':' = false ∧
          Text.isLineBreak ' ' = false := by decide
      rw [spacedChars, List.any_cons, List.any_append, List.any_cons, List.any_cons,
        List.any_append, any_isLineBreak_quote, any_isLineBreak_spacedChars v h.2.1,
        any_isLineBreak_spacedFields fs h.2.2, hpunctuation.1, hpunctuation.2.1,
        hpunctuation.2.2, hasRawBreak, hasRawField]
      simp only [Bool.false_or]

theorem any_isLineBreak_spacedItems : ∀ vs : List Json, AreValues fl vs →
    (spacedItems py vs).any Text.isLineBreak = hasRawItem vs
  | [], _ => rfl
  | v :: vs, h => by
      rw [AreValues] at h
      have hpunctuation : Text.isLineBreak ',' = false ∧ Text.isLineBreak ' ' = false := by decide
      rw [spacedItems, List.any_cons, List.any_cons, List.any_append,
        any_isLineBreak_spacedChars v h.1, any_isLineBreak_spacedItems vs h.2, hpunctuation.1,
        hpunctuation.2, hasRawItem]
      simp only [Bool.false_or]

theorem any_isLineBreak_spacedFields : ∀ fs : List (String × Json), AreEntries fl fs →
    (spacedFields py fs).any Text.isLineBreak = hasRawField fs
  | [], _ => rfl
  | (k, v) :: fs, h => by
      rw [AreEntries] at h
      have hpunctuation : Text.isLineBreak ',' = false ∧ Text.isLineBreak ':' = false ∧
          Text.isLineBreak ' ' = false := by decide
      rw [spacedFields, List.any_cons, List.any_cons, List.any_append, List.any_cons,
        List.any_cons, List.any_append, any_isLineBreak_quote, any_isLineBreak_spacedChars v h.1,
        any_isLineBreak_spacedFields fs h.2, hpunctuation.1, hpunctuation.2.1, hpunctuation.2.2,
        hasRawField]
      simp only [Bool.false_or]

end

end JsonText
end AiopsK8s
