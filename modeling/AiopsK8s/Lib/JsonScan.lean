/-
# A document is read back from its text

The scanner of `json.loads` on the text that `json.dumps` writes: one lemma for each kind of
token, on any text that goes on behind it, and one induction over the document
(`scanValue_dumpChars`).
-/

import AiopsK8s.Lib.JsonText
import Mathlib.Data.List.TakeDrop
import Mathlib.Tactic.IntervalCases

namespace AiopsK8s
namespace JsonText

variable {py : Python}

/-! ### Texts -/

theorem hexValue_digitChar {n : ℕ} (h : n < 16) : hexValue (Nat.digitChar n) = some n := by
  interval_cases n <;> decide

/-- The escape of a control character is read back. -/
theorem scanUnicode_control (py : Python) {c : Char} (h : c.toNat < 32) (r : List Char) :
    scanUnicode py ('0' :: '0' :: Nat.digitChar (c.toNat / 16) :: Nat.digitChar (c.toNat % 16) :: r)
      = some (c, r) := by
  have hfirst : hexValue (Nat.digitChar (c.toNat / 16)) = some (c.toNat / 16) :=
    hexValue_digitChar (by omega)
  have hsecond : hexValue (Nat.digitChar (c.toNat % 16)) = some (c.toNat % 16) :=
    hexValue_digitChar (by omega)
  have hzero : hexValue '0' = some 0 := by decide
  have hunit : scanUnit ('0' :: '0' :: Nat.digitChar (c.toNat / 16) ::
      Nat.digitChar (c.toNat % 16) :: r) = some (c.toNat, r) := by
    have hsum : ((0 * 16 + 0) * 16 + c.toNat / 16) * 16 + c.toNat % 16 = c.toNat := by omega
    simp only [scanUnit, hex4, hzero, hfirst, hsecond, bind, Option.bind, Option.map]
    rw [hsum]
  have hhigh : isHighSurrogate c.toNat = false := by
    simp only [isHighSurrogate, Bool.and_eq_false_iff, decide_eq_false_iff_not]
    omega
  have hlow : isLowSurrogate c.toNat = false := by
    simp only [isLowSurrogate, Bool.and_eq_false_iff, decide_eq_false_iff_not]
    omega
  unfold scanUnicode
  rw [hunit]
  simp only [hhigh, hlow, Bool.false_eq_true, if_false, Char.ofNat_toNat]

/-- One character of a text is read back from its escape. -/
theorem scanString_escapeChar (n : ℕ) (c : Char) (r : List Char) :
    scanString py (n + 1) (escapeChar c ++ r) = consChar c (scanString py n r) := by
  unfold escapeChar
  split_ifs with hquote hbackslash hn hr ht hb hf hcontrol
  · subst hquote
    rfl
  · subst hbackslash
    rfl
  · subst hn
    rfl
  · subst hr
    rfl
  · subst ht
    rfl
  · have hc : Char.ofNat 8 = c := by rw [← hb, Char.ofNat_toNat]
    rw [← hc]
    rfl
  · have hc : Char.ofNat 12 = c := by rw [← hf, Char.ofNat_toNat]
    rw [← hc]
    rfl
  · have hscan := scanUnicode_control py hcontrol r
    have hu : scanEscape py ('u' :: '0' :: '0' :: Nat.digitChar (c.toNat / 16) ::
        Nat.digitChar (c.toNat % 16) :: r) = some (c, r) := by
      rw [scanEscape, if_pos rfl, hscan]
    rw [List.cons_append, List.cons_append, List.cons_append, List.cons_append, List.cons_append,
      List.cons_append, List.nil_append, scanString, if_neg (by decide), if_pos rfl, hu]
  · rw [List.cons_append, List.nil_append, scanString, if_neg hquote, if_neg hbackslash,
      if_neg hcontrol]

/-- A text is read back from its quotation. -/
theorem scanString_quoted {cs : List Char} {n : ℕ} (h : cs.length < n) (r : List Char) :
    scanString py n (cs.flatMap escapeChar ++ '"' :: r) = some (cs, r) := by
  induction cs generalizing n with
  | nil =>
      obtain ⟨n, rfl⟩ : ∃ m, n = m + 1 := ⟨n - 1, by omega⟩
      rfl
  | cons c cs ih =>
      have hlen : cs.length + 1 < n := h
      obtain ⟨n, rfl⟩ : ∃ m, n = m + 1 := ⟨n - 1, by omega⟩
      rw [List.flatMap_cons, List.append_assoc, scanString_escapeChar, ih (by omega)]
      rfl

theorem length_flatMap_escapeChar (cs : List Char) :
    cs.length ≤ (cs.flatMap escapeChar).length := by
  induction cs with
  | nil => exact le_rfl
  | cons c cs ih =>
      have hc : 1 ≤ (escapeChar c).length := by
        unfold escapeChar
        split_ifs <;> simp
      rw [List.flatMap_cons, List.length_append, List.length_cons]
      omega

/-- A text is read back from its quotation, with the fuel that the quotation gives. -/
theorem scanString_quote (py : Python) {s : String} {n : ℕ} (h : (quote s).length ≤ n + 1) (r : List Char) :
    scanString py n (s.toList.flatMap escapeChar ++ '"' :: r) = some (s.toList, r) := by
  have hle := length_flatMap_escapeChar s.toList
  have hlen : (quote s).length = (s.toList.flatMap escapeChar).length + 2 := by
    simp [quote]
  exact scanString_quoted (by omega) r

/-! ### Numbers -/

/-- Where a number ends: the next character does not continue it. -/
def Ends (r : List Char) : Prop :=
  ∀ c t, r = c :: t → c.isDigit = false ∧ c ≠ '.' ∧ c ≠ 'e' ∧ c ≠ 'E'

theorem ends_nil : Ends [] := by
  intro c t h
  cases h

theorem ends_cons {c : Char} (h : c.isDigit = false ∧ c ≠ '.' ∧ c ≠ 'e' ∧ c ≠ 'E')
    (t : List Char) : Ends (c :: t) := by
  intro c' t' heq
  cases heq
  exact h

/-- Digits end where no digit follows. -/
theorem span_digits {ds r : List Char} (hds : ∀ c ∈ ds, c.isDigit = true)
    (hr : ∀ c t, r = c :: t → c.isDigit = false) : (ds ++ r).span Char.isDigit = (ds, r) := by
  rw [List.span_eq_takeWhile_dropWhile]
  have htail : r.takeWhile Char.isDigit = [] ∧ r.dropWhile Char.isDigit = r := by
    rcases r with _ | ⟨c, t⟩
    · exact ⟨rfl, rfl⟩
    · have hc : c.isDigit = false := hr c t rfl
      simp [hc]
  rw [List.takeWhile_append_of_pos hds, List.dropWhile_append_of_pos hds, htail.1, htail.2,
    List.append_nil]

/-- `0|[1-9]\d*`, as a literal. -/
def NatLiteral (ds : List Char) : Prop :=
  ds = ['0'] ∨ ∃ c t, ds = c :: t ∧ c ≠ '0' ∧ ∀ d ∈ ds, d.isDigit = true

/-- `-?(?:0|[1-9]\d*)`, as a literal. -/
def IntLiteral (i : List Char) : Prop := NatLiteral i ∨ ∃ ds, i = '-' :: ds ∧ NatLiteral ds

/-- A fraction, as a literal. -/
def FracLiteral (f : List Char) : Prop := ∃ ds, f = '.' :: ds ∧ ds ≠ [] ∧ ∀ d ∈ ds, d.isDigit = true

/-- The exponent that `repr` writes: it has a sign. -/
def ExpLiteral (e : List Char) : Prop :=
  ∃ s ds, e = 'e' :: s :: ds ∧ (s = '+' ∨ s = '-') ∧ ds ≠ [] ∧ ∀ d ∈ ds, d.isDigit = true

/-- A literal with a fraction or an exponent. -/
def FloatLiteral (l : List Char) : Prop :=
  ∃ i f e, l = i ++ f ++ e ∧ IntLiteral i ∧ (f = [] ∨ FracLiteral f) ∧ (e = [] ∨ ExpLiteral e) ∧
    (f ≠ [] ∨ e ≠ [])

theorem isDigit_zero : '0'.isDigit = true := by decide

theorem NatLiteral.digits {ds : List Char} (h : NatLiteral ds) : ∀ d ∈ ds, d.isDigit = true := by
  obtain rfl | ⟨c, t, rfl, _, hds⟩ := h
  · intro d hd
    rw [List.mem_singleton.1 hd]
    exact isDigit_zero
  · exact hds

theorem NatLiteral.exists_cons {ds : List Char} (h : NatLiteral ds) :
    ∃ c t, ds = c :: t ∧ c.isDigit = true := by
  have hds := h.digits
  obtain rfl | ⟨c, t, rfl, _, _⟩ := h
  · exact ⟨'0', [], rfl, isDigit_zero⟩
  · exact ⟨c, t, rfl, hds c List.mem_cons_self⟩

theorem scanNat_literal {ds r : List Char} (h : NatLiteral ds)
    (hr : ∀ c t, r = c :: t → c.isDigit = false) : scanNat (ds ++ r) = some (ds, r) := by
  obtain rfl | ⟨c, t, rfl, hc, hds⟩ := h
  · rfl
  · have hdigit : c.isDigit = true := hds c List.mem_cons_self
    rw [List.cons_append, scanNat, if_neg hc, if_pos hdigit, ← List.cons_append, span_digits hds hr]

theorem isDigit_ne {c : Char} (h : c.isDigit = true) :
    c ≠ '-' ∧ c ≠ '+' ∧ c ≠ '"' ∧ c ≠ '{' ∧ c ≠ '[' ∧ c ≠ ']' ∧ c ≠ '}' ∧ c ≠ '.' ∧
      isWhitespace c = false := by
  refine ⟨?_, ?_, ?_, ?_, ?_, ?_, ?_, ?_, ?_⟩
  case refine_9 =>
    by_contra hw
    rw [Bool.not_eq_false] at hw
    simp only [isWhitespace, Bool.or_eq_true, beq_iff_eq] at hw
    rcases hw with ((rfl | rfl) | rfl) | rfl <;> revert h <;> decide
  all_goals
    rintro rfl
    revert h
    decide

theorem scanInt_literal {i r : List Char} (h : IntLiteral i)
    (hr : ∀ c t, r = c :: t → c.isDigit = false) : scanInt (i ++ r) = some (i, r) := by
  rcases h with h | ⟨ds, rfl, h⟩
  · have hscan := scanNat_literal h hr
    obtain ⟨c, t, rfl, hc⟩ := h.exists_cons
    rw [List.cons_append, scanInt, if_neg (isDigit_ne hc).1]
    exact hscan
  · rw [List.cons_append, scanInt, if_pos rfl, scanNat_literal h hr]
    rfl

/-- A number without a fraction or an exponent. -/
theorem scanFrac_ends {r : List Char} (h : ∀ c t, r = c :: t → c ≠ '.') : scanFrac r = ([], r) := by
  rcases r with _ | ⟨c, t⟩
  · rfl
  · rw [scanFrac, if_neg fun hc => h c t rfl hc.1]

theorem scanExp_ends {r : List Char} (h : ∀ c t, r = c :: t → c ≠ 'e' ∧ c ≠ 'E') :
    scanExp r = ([], r) := by
  rcases r with _ | ⟨c, t⟩
  · rfl
  · have hc := h c t rfl
    rw [scanExp, if_neg fun he => he.elim hc.1 hc.2]

theorem scanFrac_literal {f r : List Char} (h : FracLiteral f)
    (hr : ∀ c t, r = c :: t → c.isDigit = false) : scanFrac (f ++ r) = (f, r) := by
  obtain ⟨ds, rfl, hne, hds⟩ := h
  have hspan := span_digits hds hr
  rw [List.cons_append, scanFrac, hspan, if_pos ⟨rfl, hne⟩]

theorem scanExp_literal {e r : List Char} (h : ExpLiteral e)
    (hr : ∀ c t, r = c :: t → c.isDigit = false) : scanExp (e ++ r) = (e, r) := by
  obtain ⟨s, ds, rfl, hs, hne, hds⟩ := h
  have hspan := span_digits hds hr
  have hsigned : scanSigned (s :: (ds ++ r)) = some (s :: ds, r) := by
    rw [scanSigned, if_pos hs, hspan, if_neg hne]
  rw [List.cons_append, List.cons_append, scanExp, if_pos (.inl rfl), hsigned]

/-- The literal of an integer. -/
theorem intLiteral_toString (i : ℤ) : IntLiteral (toString i).toList := by
  have hnat : ∀ n : ℕ, NatLiteral (Nat.toDigits 10 n) := by
    intro n
    have hdigits : ∀ d ∈ Nat.toDigits 10 n, d.isDigit = true :=
      fun d hd => Nat.isDigit_of_mem_toDigits (by omega) (by omega) hd
    rcases Nat.eq_zero_or_pos n with rfl | hn
    · left
      rfl
    · right
      have hhead : ∀ m : ℕ, 0 < m → ∃ c t, Nat.toDigits 10 m = c :: t ∧ c ≠ '0' := by
        intro m
        induction m using Nat.strong_induction_on with
        | h m ih =>
            intro hm
            by_cases hlt : m < 10
            · refine ⟨Nat.digitChar m, [], Nat.toDigits_of_lt_base hlt, ?_⟩
              interval_cases m <;> decide
            · obtain ⟨c, t, hct, hc⟩ := ih (m / 10) (by omega) (by omega)
              rw [Nat.toDigits_of_base_le (by omega) (by omega), hct]
              exact ⟨c, _, rfl, hc⟩
      obtain ⟨c, t, hct, hc⟩ := hhead n hn
      exact ⟨c, t, hct, hc, hdigits⟩
  rcases i with n | n
  · left
    have htext : (toString (Int.ofNat n)).toList = Nat.toDigits 10 n := by
      show (Nat.repr n).toList = _
      exact Nat.toList_repr
    rw [htext]
    exact hnat n
  · right
    refine ⟨Nat.toDigits 10 (n + 1), ?_, hnat (n + 1)⟩
    show ("-" ++ Nat.repr (n + 1)).toList = _
    rw [String.toList_append, Nat.toList_repr]
    rfl

theorem intOfLiteral_toString (i : ℤ) : intOfLiteral (toString i).toList = i := by
  rcases i with n | n
  · have htext : (toString (Int.ofNat n)).toList = Nat.toDigits 10 n := by
      show (Nat.repr n).toList = _
      exact Nat.toList_repr
    have hneg : ∀ ds, Nat.toDigits 10 n ≠ '-' :: ds := by
      intro ds hds
      have hmem : '-' ∈ Nat.toDigits 10 n := by rw [hds]; exact List.mem_cons_self
      have hdigit := Nat.isDigit_of_mem_toDigits (by omega) (by omega) hmem
      revert hdigit
      decide
    rw [htext]
    unfold intOfLiteral
    split
    · exact absurd (by assumption) (hneg _)
    · rw [Nat.ofDigitChars_ten_toDigits]
      rfl
  · have htext : (toString (Int.negSucc n)).toList = '-' :: Nat.toDigits 10 (n + 1) := by
      show ("-" ++ Nat.repr (n + 1)).toList = _
      rw [String.toList_append, Nat.toList_repr]
      rfl
    rw [htext, intOfLiteral, Nat.ofDigitChars_ten_toDigits]
    rfl

theorem scanNumber_int (i : ℤ) {r : List Char} (hr : Ends r) :
    scanNumber py ((toString i).toList ++ r) = some (.int i, r) := by
  have hint : scanInt ((toString i).toList ++ r) = some ((toString i).toList, r) :=
    scanInt_literal (intLiteral_toString i) fun c t h => (hr c t h).1
  have hfrac : scanFrac r = ([], r) := scanFrac_ends fun c t h => (hr c t h).2.1
  have hexp : scanExp r = ([], r) := scanExp_ends fun c t h => (hr c t h).2.2
  unfold scanNumber
  rw [hint]
  simp only [hfrac, hexp]
  rw [if_pos ⟨trivial, trivial⟩, intOfLiteral_toString]

theorem scanNumber_float {l : List Char} (hl : FloatLiteral l) {r : List Char} (hr : Ends r) :
    scanNumber py (l ++ r) = (py.floatOfText (String.ofList l)).map fun x => (.float x, r) := by
  obtain ⟨i, f, e, rfl, hi, hf, he, hne⟩ := hl
  have hdot : '.'.isDigit = false := by decide
  have hdigit : ∀ {x : List Char}, (x = [] ∨ ExpLiteral x) →
      ∀ c t, x ++ r = c :: t → c.isDigit = false := by
    intro x hx c t hct
    rcases hx with rfl | ⟨s, ds, rfl, _⟩
    · exact (hr c t hct).1
    · cases hct
      decide
  have hexp : scanExp (e ++ r) = (e, r) := by
    rcases he with rfl | he
    · exact scanExp_ends fun c t h => (hr c t h).2.2
    · exact scanExp_literal he fun c t h => (hr c t h).1
  have hfrac : scanFrac (f ++ (e ++ r)) = (f, e ++ r) := by
    rcases hf with rfl | hf
    · refine scanFrac_ends fun c t hct => ?_
      rcases he with rfl | ⟨s, ds, rfl, _⟩
      · exact (hr c t hct).2.1
      · cases hct
        decide
    · exact scanFrac_literal hf (hdigit he)
  have hint : scanInt (i ++ (f ++ (e ++ r))) = some (i, f ++ (e ++ r)) := by
    refine scanInt_literal hi fun c t hct => ?_
    rcases hf with rfl | ⟨ds, rfl, _⟩
    · exact hdigit he c t hct
    · cases hct
      exact hdot
  unfold scanNumber
  rw [List.append_assoc, List.append_assoc, hint]
  simp only [hfrac, hexp]
  rw [if_neg fun h => hne.elim (fun hf => hf h.1) fun he => he h.2, List.append_assoc]

/-! ### Documents -/

/-- What the language documents about the text of its floats. -/
structure Floats (py : Python) where
  /-- The rationals that a float denotes. -/
  IsFloat : ℚ → Prop
  literal : ∀ q, IsFloat q → FloatLiteral (py.repr (.number q)).toList
  parse : ∀ q, IsFloat q → py.floatOfText (py.repr (.number q)) = some (.finite q)
  /-- `float(value)` of an integer, `none` for an `OverflowError`. -/
  ofInt : ℤ → Option ℚ
  ofInt_isFloat : ∀ i q, ofInt i = some q → IsFloat q
  /-- An integer is not rounded to a float below `2⁵³`. -/
  ofInt_small : ∀ (i : ℤ) (q : ℚ), ofInt i = some q → |q| < 9007199254740992 → q = i

mutual

/-- A value that a program can hold: its numbers are floats and its mappings have each key once. -/
def IsValue (fl : Floats py) : Json → Prop
  | .float (.finite q) => fl.IsFloat q
  | .arr vs => AreValues fl vs
  | .obj fs => (fs.map Prod.fst).Nodup ∧ AreEntries fl fs
  | _ => True

def AreValues (fl : Floats py) : List Json → Prop
  | [] => True
  | v :: vs => IsValue fl v ∧ AreValues fl vs

def AreEntries (fl : Floats py) : List (String × Json) → Prop
  | [] => True
  | (_, v) :: fs => IsValue fl v ∧ AreEntries fl fs

end

theorem areValues_iff {fl : Floats py} {vs : List Json} : AreValues fl vs ↔ ∀ v ∈ vs, IsValue fl v := by
  induction vs with
  | nil => simp [AreValues]
  | cons v vs ih => rw [AreValues, ih, List.forall_mem_cons]

theorem areEntries_iff {fl : Floats py} {fs : List (String × Json)} :
    AreEntries fl fs ↔ ∀ f ∈ fs, IsValue fl f.2 := by
  induction fs with
  | nil => simp [AreEntries]
  | cons f fs ih =>
      obtain ⟨k, v⟩ := f
      rw [AreEntries, ih, List.forall_mem_cons]

theorem isWhitespace_false {c : Char} (h : isWhitespace c = false) (t : List Char) :
    skipWhitespace (c :: t) = c :: t := by
  simp [skipWhitespace, h]

theorem FloatLiteral.exists_cons {l : List Char} (h : FloatLiteral l) :
    ∃ c t, l = c :: t ∧ (c.isDigit = true ∨ c = '-') := by
  obtain ⟨i, f, e, rfl, hi, _⟩ := h
  rcases hi with hi | ⟨ds, rfl, _⟩
  · obtain ⟨c, t, rfl, hc⟩ := hi.exists_cons
    exact ⟨c, _, rfl, .inl hc⟩
  · exact ⟨'-', _, rfl, .inr rfl⟩

/-- How the text of a value begins. -/
theorem dumpChars_cons {fl : Floats py} {v : Json} (h : IsValue fl v) :
    ∃ c t, dumpChars py v = c :: t ∧ isWhitespace c = false ∧ c ≠ ']' := by
  have hnumber : ∀ {c : Char}, (c.isDigit = true ∨ c = '-') → isWhitespace c = false ∧ c ≠ ']' := by
    rintro c (hc | rfl)
    · have hne := isDigit_ne hc
      exact ⟨hne.2.2.2.2.2.2.2.2, hne.2.2.2.2.2.1⟩
    · decide
  match v, h with
  | .null, _ => exact ⟨'n', _, rfl, by decide⟩
  | .bool true, _ => exact ⟨'t', _, rfl, by decide⟩
  | .bool false, _ => exact ⟨'f', _, rfl, by decide⟩
  | .int i, _ =>
      rw [dumpChars]
      rcases intLiteral_toString i with hi | ⟨ds, hi, _⟩
      · obtain ⟨c, t, hct, hc⟩ := hi.exists_cons
        exact ⟨c, t, hct, hnumber (.inl hc)⟩
      · exact ⟨'-', ds, hi, hnumber (.inr rfl)⟩
  | .float (.finite q), h =>
      rw [IsValue] at h
      obtain ⟨c, t, hct, hc⟩ := (fl.literal q h).exists_cons
      exact ⟨c, t, hct, hnumber hc⟩
  | .float .nan, _ => exact ⟨'N', _, rfl, by decide⟩
  | .float .posInf, _ => exact ⟨'I', _, rfl, by decide⟩
  | .float .negInf, _ => exact ⟨'-', _, rfl, by decide⟩
  | .str s, _ => exact ⟨'"', _, rfl, by decide⟩
  | .arr [], _ => exact ⟨'[', _, rfl, by decide⟩
  | .arr (_ :: _), _ => exact ⟨'[', _, rfl, by decide⟩
  | .obj [], _ => exact ⟨'{', _, rfl, by decide⟩
  | .obj ((_, _) :: _), _ => exact ⟨'{', _, rfl, by decide⟩

/-- How a number begins. -/
def NumberStart (c : Char) (r : List Char) : Prop :=
  c.isDigit = true ∨ c = '-' ∧ ∃ d t, r = d :: t ∧ d.isDigit = true

/-- No constant begins as a number does. -/
theorem scanConstant_numberStart {c : Char} {r : List Char} (h : NumberStart c r) :
    scanConstant c r = none := by
  rcases h with hc | ⟨rfl, d, t, rfl, hd⟩
  · have hnone : constantAt c = none := by
      unfold constantAt
      split_ifs <;> first
        | rfl
        | (subst c
           revert hc
           decide)
    unfold scanConstant
    rw [hnone]
  · have hI : ¬ 'I' = d := by
      rintro rfl
      revert hd
      decide
    simp [scanConstant, constantAt, dropWord, hI]

theorem IntLiteral.numberStart {i : List Char} (h : IntLiteral i) (r : List Char) :
    ∃ c t, i ++ r = c :: t ∧ NumberStart c t := by
  rcases h with h | ⟨ds, rfl, h⟩
  · obtain ⟨c, t, rfl, hc⟩ := h.exists_cons
    exact ⟨c, t ++ r, rfl, .inl hc⟩
  · obtain ⟨c, t, rfl, hc⟩ := h.exists_cons
    exact ⟨'-', c :: t ++ r, rfl, .inr ⟨rfl, c, t ++ r, rfl, hc⟩⟩

/-- A value that begins as a number does is a number. -/
theorem scanValue_numberStart {c : Char} {r : List Char} (h : NumberStart c r) (n : ℕ) :
    scanValue py (n + 1) (c :: r) = scanNumber py (c :: r) := by
  have hne : c ≠ '"' ∧ c ≠ '{' ∧ c ≠ '[' := by
    rcases h with hc | ⟨rfl, _⟩
    · have hne := isDigit_ne hc
      exact ⟨hne.2.2.1, hne.2.2.2.1, hne.2.2.2.2.1⟩
    · decide
  rw [scanValue, if_neg hne.1, if_neg hne.2.1, if_neg hne.2.2, scanConstant_numberStart h,
    Option.none_or]

theorem scanValue_number {i : List Char} (h : IntLiteral i) (r : List Char) (n : ℕ) :
    scanValue py (n + 1) (i ++ r) = scanNumber py (i ++ r) := by
  obtain ⟨c, t, hct, hstart⟩ := h.numberStart r
  rw [hct, scanValue_numberStart hstart]

/-- An item, read with any fuel that its text gives. -/
def ReadBack (py : Python) (v : Json) : Prop :=
  ∀ n r, (dumpChars py v).length ≤ n → Ends r → scanValue py n (dumpChars py v ++ r) = some (v, r)

/-- The text of a value is not empty, so there is fuel to scan it. -/
theorem exists_fuel {fl : Floats py} {v : Json} (h : IsValue fl v) {n : ℕ}
    (hn : (dumpChars py v).length ≤ n) : ∃ m, n = m + 1 := by
  obtain ⟨c, t, hct, _⟩ := dumpChars_cons h
  rw [hct, List.length_cons] at hn
  exact ⟨n - 1, by omega⟩

theorem readBack_int {fl : Floats py} (i : ℤ) (h : IsValue fl (.int i)) : ReadBack py (.int i) := by
  intro n r hn hr
  obtain ⟨n, rfl⟩ := exists_fuel h hn
  rw [dumpChars, scanValue_number (intLiteral_toString i) r, scanNumber_int i hr]

theorem readBack_float {fl : Floats py} {q : ℚ} (h : fl.IsFloat q) :
    ReadBack py (.float (.finite q)) := by
  intro n r hn hr
  have hvalue : IsValue fl (.float (.finite q)) := h
  obtain ⟨n, rfl⟩ := exists_fuel hvalue hn
  have hlit := fl.literal q h
  have hscan : scanNumber py ((py.repr (.number q)).toList ++ r) = some (.float (.finite q), r) := by
    rw [scanNumber_float hlit hr, String.ofList_toList, fl.parse q h]
    rfl
  have htext : dumpChars py (.float (.finite q)) = (py.repr (.number q)).toList := rfl
  obtain ⟨i, f, e, hl, hi, _⟩ := hlit
  rw [htext]
  rw [hl, List.append_assoc, List.append_assoc] at hscan ⊢
  rw [scanValue_number hi, hscan]

theorem readBack_str {fl : Floats py} (s : String) (h : IsValue fl (.str s)) :
    ReadBack py (.str s) := by
  intro n r hn _
  obtain ⟨n, rfl⟩ := exists_fuel h hn
  rw [dumpChars] at hn ⊢
  have hscan := scanString_quote py hn r
  rw [quote, List.cons_append, scanValue, if_pos rfl, List.append_assoc, List.singleton_append,
    hscan, Option.map_some, String.ofList_toList]

/-- An entry and the closing brace. -/
theorem scanPairs_last {k : String} {v : Json} {n : ℕ} {rest text r : List Char}
    (hk : (quote k).length ≤ n + 1) (hrest : skipWhitespace rest = text)
    (hv : scanValue py n text = some (v, '}' :: r)) :
    scanPairs py (n + 1) (quote k ++ ':' :: rest) = some ([(k, v)], r) := by
  have hkey := scanString_quote py hk (':' :: rest)
  have hcolon : skipWhitespace (':' :: rest) = ':' :: rest := isWhitespace_false (by decide) _
  have hbrace : skipWhitespace ('}' :: r) = '}' :: r := isWhitespace_false (by decide) _
  rw [quote, List.cons_append, List.append_assoc, List.singleton_append, scanPairs, hkey]
  simp only
  rw [hcolon]
  simp only
  rw [hrest, hv]
  simp only
  rw [hbrace]
  simp only [String.ofList_toList]

/-- An entry and a comma. -/
theorem scanPairs_comma {k : String} {v : Json} {n : ℕ} {rest text r next : List Char}
    (hk : (quote k).length ≤ n + 1) (hrest : skipWhitespace rest = text)
    (hv : scanValue py n text = some (v, ',' :: r)) (hr : skipWhitespace r = next) :
    scanPairs py (n + 1) (quote k ++ ':' :: rest)
      = (scanPairs py n next).map fun p => ((k, v) :: p.1, p.2) := by
  have hkey := scanString_quote py hk (':' :: rest)
  have hcolon : skipWhitespace (':' :: rest) = ':' :: rest := isWhitespace_false (by decide) _
  have hcomma : skipWhitespace (',' :: r) = ',' :: r := isWhitespace_false (by decide) _
  rw [quote, List.cons_append, List.append_assoc, List.singleton_append, scanPairs, hkey]
  simp only
  rw [hcolon]
  simp only
  rw [hrest, hv]
  simp only
  rw [hcomma]
  simp only [hr, String.ofList_toList]

theorem skipWhitespace_quote (k : String) (rest : List Char) :
    skipWhitespace (quote k ++ rest) = quote k ++ rest := isWhitespace_false (by decide) _

/-- No white space is skipped in front of a value. -/
theorem skipWhitespace_dumpChars {fl : Floats py} {v : Json} (h : IsValue fl v) (rest : List Char) :
    skipWhitespace (dumpChars py v ++ rest) = dumpChars py v ++ rest := by
  obtain ⟨c, t, hct, hspace, _⟩ := dumpChars_cons h
  rw [hct, List.cons_append]
  exact isWhitespace_false hspace _

mutual

/-- **A document is read back** from its text, whatever follows it. -/
theorem scanValue_dumpChars {fl : Floats py} :
    ∀ v : Json, IsValue fl v → ReadBack py v
  | .null, h => by
      intro n r hn _
      obtain ⟨n, rfl⟩ := exists_fuel h hn
      rfl
  | .bool true, h => by
      intro n r hn _
      obtain ⟨n, rfl⟩ := exists_fuel h hn
      rfl
  | .bool false, h => by
      intro n r hn _
      obtain ⟨n, rfl⟩ := exists_fuel h hn
      rfl
  | .int i, h => readBack_int i h
  | .float (.finite _), h => readBack_float h
  | .float .nan, h => by
      intro n r hn _
      obtain ⟨n, rfl⟩ := exists_fuel h hn
      rfl
  | .float .posInf, h => by
      intro n r hn _
      obtain ⟨n, rfl⟩ := exists_fuel h hn
      rfl
  | .float .negInf, h => by
      intro n r hn _
      obtain ⟨n, rfl⟩ := exists_fuel h hn
      rfl
  | .str s, h => readBack_str s h
  | .arr [], h => by
      intro n r hn _
      obtain ⟨n, rfl⟩ := exists_fuel h hn
      rfl
  | .arr (v :: vs), h => by
      intro n r hn _
      obtain ⟨n, rfl⟩ := exists_fuel h hn
      rw [IsValue, AreValues] at h
      rw [dumpChars, List.length_cons] at hn
      obtain ⟨c, t, hct, _, hbracket⟩ := dumpChars_cons h.1
      have hskip := skipWhitespace_dumpChars h.1 (dumpItems py vs ++ r)
      have hitems := scanItems_dumpItems vs h.2 v h.1 (scanValue_dumpChars v h.1) n r (by omega)
      rw [dumpChars, List.cons_append, List.append_assoc, scanValue, if_neg (by decide),
        if_neg (by decide), if_pos rfl, hskip]
      split
      · rename_i heq
        rw [hct, List.cons_append] at heq
        cases heq
        exact absurd rfl hbracket
      · rw [hitems]
        rfl
  | .obj [], h => by
      intro n r hn _
      obtain ⟨n, rfl⟩ := exists_fuel h hn
      rfl
  | .obj ((k, v) :: fs), h => by
      intro n r hn _
      obtain ⟨n, rfl⟩ := exists_fuel h hn
      rw [IsValue, AreEntries] at h
      rw [dumpChars, List.length_cons] at hn
      have hpairs := scanPairs_dumpFields fs h.2.2 k v h.2.1 (scanValue_dumpChars v h.2.1) n r
        (by omega)
      have hupdate : Json.update [] ((k, v) :: fs) = (k, v) :: fs := Json.update_of_nodup h.1
      rw [dumpChars, List.cons_append, scanValue, if_neg (by decide), if_pos rfl, List.append_assoc,
        List.cons_append, List.append_assoc, skipWhitespace_quote]
      split
      · rename_i heq
        cases heq
      · rw [hpairs, Option.map_some, hupdate]

theorem scanItems_dumpItems {fl : Floats py} : ∀ vs : List Json, AreValues fl vs →
    ∀ v, IsValue fl v → ReadBack py v → ∀ n r, (dumpChars py v ++ dumpItems py vs).length ≤ n →
      scanItems py n (dumpChars py v ++ (dumpItems py vs ++ r)) = some (v :: vs, r)
  | [], _ => by
      intro v _ hv n r hn
      rw [List.length_append, dumpItems, List.length_singleton] at hn
      obtain ⟨n, rfl⟩ : ∃ m, n = m + 1 := ⟨n - 1, by omega⟩
      have hvalue := hv n (']' :: r) (by omega) (ends_cons (by decide) r)
      rw [dumpItems, List.singleton_append, scanItems, hvalue]
      rfl
  | w :: ws, h => by
      intro v _ hv n r hn
      rw [AreValues] at h
      rw [List.length_append, dumpItems, List.length_cons] at hn
      obtain ⟨n, rfl⟩ : ∃ m, n = m + 1 := ⟨n - 1, by omega⟩
      have hitems := scanItems_dumpItems ws h.2 w h.1 (scanValue_dumpChars w h.1) n r (by omega)
      have hvalue := hv n (',' :: (dumpChars py w ++ (dumpItems py ws ++ r))) (by omega)
        (ends_cons (by decide) _)
      have hskip := skipWhitespace_dumpChars h.1 (dumpItems py ws ++ r)
      have hcomma : skipWhitespace (',' :: (dumpChars py w ++ (dumpItems py ws ++ r)))
          = ',' :: (dumpChars py w ++ (dumpItems py ws ++ r)) := isWhitespace_false (by decide) _
      rw [dumpItems, List.cons_append, List.append_assoc, scanItems, hvalue]
      simp only
      rw [hcomma]
      simp only
      rw [hskip, hitems]
      rfl

theorem scanPairs_dumpFields {fl : Floats py} : ∀ fs : List (String × Json), AreEntries fl fs →
    ∀ k v, IsValue fl v → ReadBack py v → ∀ n r,
      (quote k ++ ':' :: (dumpChars py v ++ dumpFields py fs)).length ≤ n →
      scanPairs py n (quote k ++ ':' :: (dumpChars py v ++ (dumpFields py fs ++ r)))
        = some ((k, v) :: fs, r)
  | [], _ => by
      intro k v hval hv n r hn
      simp only [List.length_append, List.length_cons, dumpFields, List.length_nil] at hn
      obtain ⟨n, rfl⟩ : ∃ m, n = m + 1 := ⟨n - 1, by omega⟩
      have hvalue := hv n ('}' :: r) (by omega) (ends_cons (by decide) r)
      rw [dumpFields, List.singleton_append]
      exact scanPairs_last (by omega) (skipWhitespace_dumpChars hval _) hvalue
  | (k', w) :: fs, h => by
      intro k v hval hv n r hn
      rw [AreEntries] at h
      simp only [List.length_append, List.length_cons, dumpFields] at hn
      obtain ⟨n, rfl⟩ : ∃ m, n = m + 1 := ⟨n - 1, by omega⟩
      have hpairs := scanPairs_dumpFields fs h.2 k' w h.1 (scanValue_dumpChars w h.1) n r
        (by simp only [List.length_append, List.length_cons]; omega)
      have hvalue := hv n (',' :: (quote k' ++ ':' :: (dumpChars py w ++ (dumpFields py fs ++ r))))
        (by omega) (ends_cons (by decide) _)
      have hscan := scanPairs_comma (k := k) (n := n) (by omega) (skipWhitespace_dumpChars hval _)
        hvalue (skipWhitespace_quote k' _)
      rw [hpairs, Option.map_some] at hscan
      rw [dumpFields, List.cons_append, List.append_assoc, List.cons_append, List.append_assoc]
      exact hscan

end

/-- **`json.loads` reads a document back** from what `json.dumps` wrote, with white space behind
it or without. -/
theorem loads_dumps {fl : Floats py} {v : Json} (h : IsValue fl v) {r : List Char}
    (hr : ∀ c ∈ r, isWhitespace c = true) :
    loads py (String.ofList (dumpChars py v ++ r)) = some v := by
  have hskip := skipWhitespace_dumpChars h r
  have hend : skipWhitespace r = [] := by
    rw [skipWhitespace, List.dropWhile_eq_nil_iff]
    exact hr
  have hends : Ends r := by
    intro c t hct
    have hc : isWhitespace c = true := hr c (by rw [hct]; exact List.mem_cons_self)
    simp only [isWhitespace, Bool.or_eq_true, beq_iff_eq] at hc
    rcases hc with ((rfl | rfl) | rfl) | rfl <;> decide
  have hscan := scanValue_dumpChars v h ((dumpChars py v ++ r).length + 1) r
    (by rw [List.length_append]; omega) hends
  unfold loads
  rw [String.toList_ofList, hskip, hscan]
  simp only [hend, if_true]

end JsonText
end AiopsK8s
