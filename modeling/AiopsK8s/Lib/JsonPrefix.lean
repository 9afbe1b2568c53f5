/-
# More text behind a token

More text behind a token that has ended changes nothing: one lemma for each kind of token, and
one induction over the fuel of the scanner (`undisturbed`).  So a value that ends by itself is
followed in the longer text by the rest, and no proper prefix of a text that is scanned as an
object is a document (`loads_prefix_of_scan`).
-/

import AiopsK8s.Lib.JsonScan

namespace AiopsK8s
namespace JsonText

variable {py : Python}

/-! ### Texts, numbers and constants -/

theorem scanUnit_append {p r : List Char} {u : ℕ} (h : scanUnit p = some (u, r)) (q : List Char) :
    scanUnit (p ++ q) = some (u, r ++ q) := by
  unfold scanUnit at h
  split at h
  · rename_i a b c d t
    obtain ⟨v, hv, heq⟩ := Option.map_eq_some_iff.1 h
    cases heq
    simp only [List.cons_append, scanUnit, hv, Option.map_some]
  · cases h

theorem scanLow_append {p r : List Char} {u : ℕ} (h : scanLow p = some (u, r)) (q : List Char) :
    scanLow (p ++ q) = some (u, r ++ q) := by
  unfold scanLow at h
  split at h
  · rename_i t
    obtain ⟨hunit, hlow⟩ := Option.filter_eq_some_iff.1 h
    rw [List.cons_append, List.cons_append, scanLow, scanUnit_append hunit]
    exact Option.filter_eq_some_iff.2 ⟨rfl, hlow⟩
  · cases h

/-- Where a text ends by itself, no second half begins behind it. -/
theorem scanLow_append_eq_none {p : List Char} {n : ℕ} {x : List Char × List Char}
    (h : scanLow p = none) (hend : scanString py n p = some x) (q : List Char) :
    scanLow (p ++ q) = none := by
  rcases n with - | n
  · cases hend
  rcases p with - | ⟨c, p⟩
  · cases hend
  by_cases hc : c = '\\'
  · subst hc
    rw [scanString, if_neg (by decide), if_pos rfl] at hend
    rcases p with - | ⟨d, p⟩
    · cases hend
    by_cases hd : d = 'u'
    · subst hd
      rw [scanEscape, if_pos rfl, scanUnicode] at hend
      rcases hu : scanUnit p with - | ⟨u, r⟩
      · rw [hu] at hend
        cases hend
      · rw [scanLow, hu] at h
        rw [List.cons_append, List.cons_append, scanLow, scanUnit_append hu]
        rw [Option.filter_eq_none_iff] at h ⊢
        simpa using h
    · unfold scanLow
      split
      · rename_i heq
        exact absurd (List.cons.inj (List.cons.inj heq).2).1 hd
      · rfl
  · unfold scanLow
    split
    · rename_i heq
      exact absurd (List.cons.inj heq).1 hc
    · rfl

theorem scanUnicode_append {p r : List Char} {c : Char} (h : scanUnicode py p = some (c, r))
    {n : ℕ} {x : List Char × List Char} (hend : scanString py n r = some x) (q : List Char) :
    scanUnicode py (p ++ q) = some (c, r ++ q) := by
  unfold scanUnicode at h ⊢
  rcases hu : scanUnit p with _ | ⟨u, t⟩
  · rw [hu] at h
    cases h
  · rw [hu] at h
    rw [scanUnit_append hu]
    simp only at h ⊢
    split_ifs at h ⊢ with hhigh hlow
    · rcases hl : scanLow t with _ | ⟨u', t'⟩
      · rw [hl] at h
        obtain ⟨rfl, rfl⟩ := Prod.mk.inj (Option.some.inj h)
        rw [scanLow_append_eq_none hl hend]
      · rw [hl] at h
        obtain ⟨rfl, rfl⟩ := Prod.mk.inj (Option.some.inj h)
        rw [scanLow_append hl]
    · obtain ⟨rfl, rfl⟩ := Prod.mk.inj (Option.some.inj h)
      rfl
    · obtain ⟨rfl, rfl⟩ := Prod.mk.inj (Option.some.inj h)
      rfl

theorem scanEscape_append {p r : List Char} {c : Char} (h : scanEscape py p = some (c, r))
    {n : ℕ} {x : List Char × List Char} (hend : scanString py n r = some x) (q : List Char) :
    scanEscape py (p ++ q) = some (c, r ++ q) := by
  rcases p with _ | ⟨a, p⟩
  · cases h
  · rw [scanEscape] at h
    rw [List.cons_append, scanEscape]
    split_ifs at h ⊢ with hu
    · exact scanUnicode_append h hend q
    · obtain ⟨e, he, heq⟩ := Option.map_eq_some_iff.1 h
      cases heq
      rw [he]
      rfl

theorem consChar_eq_some {c : Char} {x : Option (List Char × List Char)} {t r : List Char} :
    consChar c x = some (t, r) ↔ ∃ t', x = some (t', r) ∧ t = c :: t' := by
  unfold consChar
  constructor
  · intro h
    obtain ⟨⟨t', r'⟩, hx, heq⟩ := Option.map_eq_some_iff.1 h
    cases heq
    exact ⟨t', hx, rfl⟩
  · rintro ⟨t', rfl, rfl⟩
    rfl

theorem scanString_append {n m : ℕ} {p t r : List Char} (h : scanString py n p = some (t, r))
    (hnm : n ≤ m) (q : List Char) : scanString py m (p ++ q) = some (t, r ++ q) := by
  induction n generalizing m p t r with
  | zero => cases h
  | succ n ih =>
      obtain ⟨m, rfl⟩ : ∃ k, m = k + 1 := ⟨m - 1, by omega⟩
      rcases p with _ | ⟨c, p⟩
      · cases h
      · rw [scanString] at h
        rw [List.cons_append, scanString]
        split_ifs at h ⊢ with hquote hbackslash hcontrol
        · cases h
          rfl
        · rcases he : scanEscape py p with _ | ⟨e, p'⟩
          · rw [he] at h
            cases h
          · rw [he] at h
            obtain ⟨t', ht', rfl⟩ := consChar_eq_some.1 h
            rw [scanEscape_append he ht']
            simp only
            rw [ih ht' (by omega)]
            rfl
        · obtain ⟨t', ht', rfl⟩ := consChar_eq_some.1 h
          rw [ih ht' (by omega)]
          rfl

theorem span_append {p ds r : List Char} (h : p.span Char.isDigit = (ds, r)) (hr : r ≠ [])
    (q : List Char) : (p ++ q).span Char.isDigit = (ds, r ++ q) := by
  rw [List.span_eq_takeWhile_dropWhile] at h ⊢
  cases h
  have hp : p.takeWhile Char.isDigit ++ p.dropWhile Char.isDigit = p := List.takeWhile_append_dropWhile
  have hlen : (p.takeWhile Char.isDigit).length ≠ p.length := by
    intro heq
    have hdrop : (p.dropWhile Char.isDigit).length = 0 := by
      have hsum := congrArg List.length hp
      rw [List.length_append] at hsum
      omega
    exact hr (List.length_eq_zero_iff.1 hdrop)
  rw [List.takeWhile_append, if_neg hlen, List.dropWhile_append,
    if_neg (by simpa [List.isEmpty_iff] using hr)]

theorem scanNat_append {p ds r : List Char} (h : scanNat p = some (ds, r)) (hr : r ≠ [])
    (q : List Char) : scanNat (p ++ q) = some (ds, r ++ q) := by
  rcases p with _ | ⟨c, p⟩
  · cases h
  · rw [scanNat] at h
    rw [List.cons_append, scanNat]
    split_ifs at h ⊢ with hzero hdigit
    · cases h
      rfl
    · have hspan := span_append (Option.some.inj h) hr q
      rw [← List.cons_append, hspan]

theorem scanInt_append {p i r : List Char} (h : scanInt p = some (i, r)) (hr : r ≠ [])
    (q : List Char) : scanInt (p ++ q) = some (i, r ++ q) := by
  rcases p with _ | ⟨c, p⟩
  · cases h
  · rw [scanInt] at h
    rw [List.cons_append, scanInt]
    split_ifs at h ⊢ with hminus
    · obtain ⟨⟨ds, r'⟩, hds, heq⟩ := Option.map_eq_some_iff.1 h
      cases heq
      rw [scanNat_append hds hr]
      rfl
    · rw [← List.cons_append]
      exact scanNat_append h hr q

theorem scanFrac_append {p : List Char} (hne : (scanFrac p).2 ≠ [])
    (hdot : ∀ t, (scanFrac p).2 ≠ '.' :: t) (q : List Char) :
    scanFrac (p ++ q) = ((scanFrac p).1, (scanFrac p).2 ++ q) := by
  rcases p with _ | ⟨c, p⟩
  · exact absurd rfl hne
  · rw [scanFrac] at hne hdot ⊢
    rw [List.cons_append, scanFrac]
    by_cases hc : c = '.'
    · subst hc
      by_cases hds : (p.span Char.isDigit).1 = []
      · rw [if_neg fun h => h.2 hds] at hdot
        exact absurd rfl (hdot p)
      · rw [if_pos ⟨rfl, hds⟩] at hne
        have hspan := span_append (Prod.mk.eta (p := p.span Char.isDigit)).symm hne q
        rw [hspan, if_pos ⟨rfl, hds⟩, if_pos ⟨rfl, hds⟩]
    · rw [if_neg fun h => hc h.1, if_neg fun h => hc h.1]
      rfl

theorem scanSigned_append {p s r : List Char} (h : scanSigned p = some (s, r)) (hr : r ≠ [])
    (q : List Char) : scanSigned (p ++ q) = some (s, r ++ q) := by
  rcases p with _ | ⟨c, p⟩
  · cases h
  · rw [scanSigned] at h
    rw [List.cons_append, scanSigned]
    split_ifs at h with hsign hds hdigit
    · cases h
      have hspan := span_append (Prod.mk.eta (p := p.span Char.isDigit)).symm hr q
      rw [if_pos hsign, hspan, if_neg hds]
    · have hspan := span_append (Option.some.inj h) hr q
      rw [if_neg hsign, if_pos hdigit, ← List.cons_append, hspan]

theorem scanExp_append {p : List Char} (hne : (scanExp p).2 ≠ [])
    (he : ∀ c t, (scanExp p).2 = c :: t → c ≠ 'e' ∧ c ≠ 'E') (q : List Char) :
    scanExp (p ++ q) = ((scanExp p).1, (scanExp p).2 ++ q) := by
  rcases p with _ | ⟨c, p⟩
  · exact absurd rfl hne
  · rw [scanExp] at hne he ⊢
    rw [List.cons_append, scanExp]
    by_cases hc : c = 'e' ∨ c = 'E'
    · rw [if_pos hc] at hne he ⊢
      rcases hs : scanSigned p with _ | ⟨s, r⟩
      · rw [hs] at he
        exact absurd hc fun h => h.elim (he c p rfl).1 (he c p rfl).2
      · rw [hs] at hne
        rw [if_pos hc, scanSigned_append hs hne]
    · rw [if_neg hc, if_neg hc]
      rfl

theorem scanFrac_nil {p : List Char} (h : (scanFrac p).1 = []) : (scanFrac p).2 = p := by
  rcases p with _ | ⟨c, p⟩
  · rfl
  · rw [scanFrac] at h ⊢
    split_ifs at h ⊢
    rfl

theorem scanExp_nil {p : List Char} (h : (scanExp p).1 = []) : (scanExp p).2 = p := by
  rcases p with _ | ⟨c, p⟩
  · rfl
  · rw [scanExp] at h ⊢
    split_ifs at h ⊢ with hc
    · rcases hs : scanSigned p with _ | ⟨s, r⟩
      · rfl
      · rw [hs] at h
        cases h
    · rfl

/-- The fraction that follows an integer begins with a point, the exponent with an `e`. -/
theorem scanNumber_append {p r : List Char} {v : Json} (h : scanNumber py p = some (v, r))
    (hne : r ≠ []) (hr : Ends r) (q : List Char) :
    scanNumber py (p ++ q) = some (v, r ++ q) := by
  unfold scanNumber at h
  rcases hi : scanInt p with _ | ⟨i, t⟩
  · rw [hi] at h
    cases h
  · rw [hi] at h
    simp only at h
    -- Where the exponent ends is where the number ends.
    have hrest : (scanExp (scanFrac t).2).2 = r := by
      split_ifs at h with hnil
      · cases h
        rw [scanExp_nil hnil.2, scanFrac_nil hnil.1]
      · obtain ⟨x, _, heq⟩ := Option.map_eq_some_iff.1 h
        cases heq
        rfl
    have hexp := scanExp_append (p := (scanFrac t).2) (by rw [hrest]; exact hne)
      (fun c u hcu => (hr c u (hrest ▸ hcu)).2.2) q
    have hfracne : (scanFrac t).2 ≠ [] := by
      intro hnil
      rw [hnil] at hrest
      exact hne hrest.symm
    have hdot : ∀ u, (scanFrac t).2 ≠ '.' :: u := by
      intro u hu
      have hexpu : scanExp ('.' :: u) = ([], '.' :: u) :=
        scanExp_ends fun c t hct => by cases hct; decide
      rw [hu, hexpu] at hrest
      exact (hr '.' u hrest.symm).2.1 rfl
    have hfrac := scanFrac_append hfracne hdot q
    have htne : t ≠ [] := by
      rintro rfl
      exact hfracne rfl
    unfold scanNumber
    rw [scanInt_append hi htne]
    simp only [hfrac, hexp, hrest]
    split_ifs at h ⊢ with hnil
    · cases h
      rfl
    · obtain ⟨x, hx, heq⟩ := Option.map_eq_some_iff.1 h
      cases heq
      rw [hx]
      rfl

theorem dropWord_append {w p r : List Char} (h : dropWord w p = some r) (q : List Char) :
    dropWord w (p ++ q) = some (r ++ q) := by
  induction w generalizing p with
  | nil =>
      cases h
      rfl
  | cons c w ih =>
      rcases p with _ | ⟨a, p⟩
      · cases h
      · rw [dropWord] at h
        rw [List.cons_append, dropWord]
        split_ifs at h ⊢
        exact ih h

theorem scanNumber_start {c : Char} {r : List Char} {x : Json × List Char}
    (h : scanNumber py (c :: r) = some x) : NumberStart c r := by
  have hnat : ∀ {a : Char} {p ds t : List Char}, scanNat (a :: p) = some (ds, t) →
      a.isDigit = true := by
    intro a p ds t h
    rw [scanNat] at h
    split_ifs at h with hzero hdigit
    · rw [hzero]
      exact isDigit_zero
    · exact hdigit
  unfold scanNumber at h
  rcases hi : scanInt (c :: r) with _ | ⟨i, t⟩
  · rw [hi] at h
    cases h
  · rw [scanInt] at hi
    split_ifs at hi with hminus
    · obtain ⟨⟨ds, r'⟩, hds, _⟩ := Option.map_eq_some_iff.1 hi
      rcases r with _ | ⟨d, u⟩
      · cases hds
      · exact .inr ⟨hminus, d, u, rfl, hnat hds⟩
    · exact .inl (hnat hi)

theorem NumberStart.append {c : Char} {r : List Char} (h : NumberStart c r) (q : List Char) :
    NumberStart c (r ++ q) := by
  rcases h with hc | ⟨hc, d, t, rfl, hd⟩
  · exact .inl hc
  · exact .inr ⟨hc, d, t ++ q, rfl, hd⟩

theorem scanConstant_append {c : Char} {p r : List Char} {v : Json}
    (h : scanConstant c p = some (v, r)) (q : List Char) :
    scanConstant c (p ++ q) = some (v, r ++ q) := by
  unfold scanConstant at h ⊢
  rcases hc : constantAt c with _ | ⟨word, value⟩
  · rw [hc] at h
    cases h
  · rw [hc] at h
    obtain ⟨r', hr', heq⟩ := Option.map_eq_some_iff.1 h
    cases heq
    simp only [dropWord_append hr', Option.map_some]

theorem skipWhitespace_append {p r : List Char} {c : Char} (h : skipWhitespace p = c :: r)
    (q : List Char) : skipWhitespace (p ++ q) = c :: (r ++ q) := by
  unfold skipWhitespace at h ⊢
  rw [List.dropWhile_append, h]
  rfl

theorem skipWhitespace_append_of_ne {p : List Char} (h : skipWhitespace p ≠ []) (q : List Char) :
    skipWhitespace (p ++ q) = skipWhitespace p ++ q := by
  rcases hp : skipWhitespace p with _ | ⟨c, t⟩
  · exact absurd hp h
  · rw [skipWhitespace_append hp, List.cons_append]

/-- A closing token or a comma, perhaps after white space, ends a number. -/
theorem ends_of_skipWhitespace {p r : List Char} {c : Char} (h : skipWhitespace p = c :: r)
    (hc : c = ',' ∨ c = ']' ∨ c = '}') : p ≠ [] ∧ Ends p := by
  rcases p with _ | ⟨a, p⟩
  · cases h
  · refine ⟨List.cons_ne_nil a p, ends_cons ?_ p⟩
    by_cases ha : isWhitespace a = true
    · simp only [isWhitespace, Bool.or_eq_true, beq_iff_eq] at ha
      rcases ha with ((rfl | rfl) | rfl) | rfl <;> decide
    · rw [isWhitespace_false (Bool.not_eq_true _ ▸ ha)] at h
      cases h
      rcases hc with rfl | rfl | rfl <;> decide

/-! ### Values -/

/-- What ends by itself, or by what follows it. -/
def Delimited (p r : List Char) : Prop := (r ≠ [] ∧ Ends r) ∨ ∃ t, p = '{' :: t

/-- The scanner of values with the fuel `n` is not disturbed by more text. -/
structure Undisturbed (py : Python) (n : ℕ) : Prop where
  value : ∀ {m p v r}, n ≤ m → scanValue py n p = some (v, r) → Delimited p r →
    ∀ q, scanValue py m (p ++ q) = some (v, r ++ q)
  pairs : ∀ {m p ps r}, n ≤ m → scanPairs py n p = some (ps, r) →
    ∀ q, scanPairs py m (p ++ q) = some (ps, r ++ q)
  items : ∀ {m p vs r}, n ≤ m → scanItems py n p = some (vs, r) →
    ∀ q, scanItems py m (p ++ q) = some (vs, r ++ q)

theorem scanPairs_nil (n : ℕ) : scanPairs py n [] = none := by
  cases n <;> rfl

theorem scanItems_nil (n : ℕ) : scanItems py n [] = none := by
  rcases n with _ | _ | n <;> rfl

/-- An object with entries. -/
theorem scanValue_object {c : Char} {p t : List Char} (hp : skipWhitespace p = c :: t)
    (hc : c ≠ '}') (n : ℕ) : scanValue py (n + 1) ('{' :: p)
      = (scanPairs py n (c :: t)).map fun p => (.obj (Json.update [] p.1), p.2) := by
  rw [scanValue, if_neg (by decide), if_pos rfl, hp]
  split
  · rename_i heq
    cases heq
    exact absurd rfl hc
  · rfl

/-- An array with items. -/
theorem scanValue_array {c : Char} {p t : List Char} (hp : skipWhitespace p = c :: t)
    (hc : c ≠ ']') (n : ℕ) : scanValue py (n + 1) ('[' :: p)
      = (scanItems py n (c :: t)).map fun p => (.arr p.1, p.2) := by
  rw [scanValue, if_neg (by decide), if_neg (by decide), if_pos rfl, hp]
  split
  · rename_i heq
    cases heq
    exact absurd rfl hc
  · rfl

namespace Undisturbed

variable {n m : ℕ} {p r : List Char}

theorem object (h : Undisturbed py n) {v : Json} (hnm : n ≤ m)
    (hv : scanValue py (n + 1) ('{' :: p) = some (v, r)) (q : List Char) :
    scanValue py (m + 1) ('{' :: (p ++ q)) = some (v, r ++ q) := by
  rcases hp : skipWhitespace p with _ | ⟨d, t⟩
  · rw [scanValue, if_neg (by decide), if_pos rfl, hp] at hv
    obtain ⟨x, hx, _⟩ := Option.map_eq_some_iff.1 hv
    rw [scanPairs_nil] at hx
    cases hx
  · have hq := skipWhitespace_append hp q
    by_cases hclose : d = '}'
    · subst hclose
      rw [scanValue, if_neg (by decide), if_pos rfl, hp] at hv
      rw [scanValue, if_neg (by decide), if_pos rfl, hq]
      cases hv
      rfl
    · rw [scanValue_object hp hclose] at hv
      rw [scanValue_object hq hclose]
      obtain ⟨⟨ps, r'⟩, hps, heq⟩ := Option.map_eq_some_iff.1 hv
      cases heq
      rw [← List.cons_append, h.pairs hnm hps]
      rfl

theorem array (h : Undisturbed py n) {v : Json} (hnm : n ≤ m)
    (hv : scanValue py (n + 1) ('[' :: p) = some (v, r)) (q : List Char) :
    scanValue py (m + 1) ('[' :: (p ++ q)) = some (v, r ++ q) := by
  rcases hp : skipWhitespace p with _ | ⟨d, t⟩
  · rw [scanValue, if_neg (by decide), if_neg (by decide), if_pos rfl, hp] at hv
    obtain ⟨x, hx, _⟩ := Option.map_eq_some_iff.1 hv
    rw [scanItems_nil] at hx
    cases hx
  · have hq := skipWhitespace_append hp q
    by_cases hclose : d = ']'
    · subst hclose
      rw [scanValue, if_neg (by decide), if_neg (by decide), if_pos rfl, hp] at hv
      rw [scanValue, if_neg (by decide), if_neg (by decide), if_pos rfl, hq]
      cases hv
      rfl
    · rw [scanValue_array hp hclose] at hv
      rw [scanValue_array hq hclose]
      obtain ⟨⟨vs, r'⟩, hvs, heq⟩ := Option.map_eq_some_iff.1 hv
      cases heq
      rw [← List.cons_append, h.items hnm hvs]
      rfl

theorem value_succ (h : Undisturbed py n) {v : Json} (hnm : n ≤ m)
    (hv : scanValue py (n + 1) p = some (v, r)) (hd : Delimited p r) (q : List Char) :
    scanValue py (m + 1) (p ++ q) = some (v, r ++ q) := by
  rcases p with _ | ⟨c, p⟩
  · cases hv
  · rw [List.cons_append]
    by_cases hbrace : c = '{'
    · subst hbrace
      exact h.object hnm hv q
    by_cases hbracket : c = '['
    · subst hbracket
      exact h.array hnm hv q
    rw [scanValue, if_neg hbrace, if_neg hbracket] at hv ⊢
    split_ifs at hv ⊢ with hquote
    · obtain ⟨⟨t, r'⟩, ht, heq⟩ := Option.map_eq_some_iff.1 hv
      cases heq
      rw [scanString_append ht hnm]
      rfl
    · rcases hc : scanConstant c p with _ | ⟨w, t⟩
      · rw [hc, Option.none_or] at hv
        have hstart := scanNumber_start hv
        have hends : r ≠ [] ∧ Ends r := by
          rcases hd with hd | ⟨t, ht⟩
          · exact hd
          · cases ht
            exact absurd rfl hbrace
        rw [scanConstant_numberStart (hstart.append q), Option.none_or, ← List.cons_append]
        exact scanNumber_append hv hends.1 hends.2 q
      · rw [hc] at hv
        cases hv
        rw [scanConstant_append hc]
        rfl

theorem items_succ (h : Undisturbed py n) {vs : List Json} (hnm : n ≤ m)
    (hvs : scanItems py (n + 1) p = some (vs, r)) (q : List Char) :
    scanItems py (m + 1) (p ++ q) = some (vs, r ++ q) := by
  rw [scanItems] at hvs ⊢
  rcases hv : scanValue py n p with _ | ⟨v, t⟩
  · rw [hv] at hvs
    cases hvs
  · rw [hv] at hvs
    simp only at hvs
    split at hvs
    · rename_i u hu
      cases hvs
      rw [h.value hnm hv (.inl (ends_of_skipWhitespace hu (.inr (.inl rfl))))]
      simp only [skipWhitespace_append hu]
    · rename_i u hu
      obtain ⟨⟨ws, r'⟩, hws, heq⟩ := Option.map_eq_some_iff.1 hvs
      cases heq
      rw [h.value hnm hv (.inl (ends_of_skipWhitespace hu (.inl rfl)))]
      have hne : skipWhitespace u ≠ [] := by
        intro hnil
        rw [hnil, scanItems_nil] at hws
        cases hws
      simp only [skipWhitespace_append hu, skipWhitespace_append_of_ne hne, h.items hnm hws,
        Option.map_some]
    · cases hvs

theorem pairs_succ (h : Undisturbed py n) {ps : List (String × Json)} (hnm : n ≤ m)
    (hps : scanPairs py (n + 1) p = some (ps, r)) (q : List Char) :
    scanPairs py (m + 1) (p ++ q) = some (ps, r ++ q) := by
  obtain ⟨p, rfl⟩ : ∃ t, p = '"' :: t := by
    by_contra hne
    have hnone : scanPairs py (n + 1) p = none := by
      rw [scanPairs]
      exact fun t ht => hne ⟨t, ht⟩
    rw [hnone] at hps
    cases hps
  rw [List.cons_append]
  rw [scanPairs] at hps ⊢
  rcases hk : scanString py n p with _ | ⟨key, t⟩
  · rw [hk] at hps
    cases hps
  · rw [hk] at hps
    rw [scanString_append hk hnm]
    simp only at hps ⊢
    split at hps
    · rename_i u hu
      rw [skipWhitespace_append hu]
      rcases hv : scanValue py n (skipWhitespace u) with _ | ⟨v, w⟩
      · rw [hv] at hps
        cases hps
      · have hne : skipWhitespace u ≠ [] := by
          intro hnil
          rw [hnil] at hv
          cases n <;> cases hv
        rw [hv] at hps
        simp only [skipWhitespace_append_of_ne hne] at hps ⊢
        split at hps
        · rename_i x hx
          cases hps
          rw [h.value hnm hv (.inl (ends_of_skipWhitespace hx (.inr (.inr rfl))))]
          simp only [skipWhitespace_append hx]
        · rename_i x hx
          obtain ⟨⟨ps', r'⟩, hps', heq⟩ := Option.map_eq_some_iff.1 hps
          cases heq
          have hne' : skipWhitespace x ≠ [] := by
            intro hnil
            rw [hnil, scanPairs_nil] at hps'
            cases hps'
          rw [h.value hnm hv (.inl (ends_of_skipWhitespace hx (.inl rfl)))]
          simp only [skipWhitespace_append hx, skipWhitespace_append_of_ne hne', h.pairs hnm hps',
            Option.map_some]
        · cases hps
    · cases hps

end Undisturbed

/-- **More text disturbs no value that has ended**, and more fuel neither. -/
theorem undisturbed (py : Python) (n : ℕ) : Undisturbed py n := by
  induction n with
  | zero =>
      refine ⟨?_, ?_, ?_⟩
      · intro m p v r _ h
        cases h
      · intro m p ps r _ h
        cases h
      · intro m p vs r _ h
        cases h
  | succ n ih =>
      have hsucc : ∀ {m}, n + 1 ≤ m → ∃ k, m = k + 1 ∧ n ≤ k := fun {m} h => ⟨m - 1, by omega, by omega⟩
      refine ⟨?_, ?_, ?_⟩
      · intro m p v r hm hv hd q
        obtain ⟨k, rfl, hk⟩ := hsucc hm
        exact ih.value_succ hk hv hd q
      · intro m p ps r hm hps q
        obtain ⟨k, rfl, hk⟩ := hsucc hm
        exact ih.pairs_succ hk hps q
      · intro m p vs r hm hvs q
        obtain ⟨k, rfl, hk⟩ := hsucc hm
        exact ih.items_succ hk hvs q

/-- **No proper prefix of a text that is scanned as an object is a document.** -/
theorem loads_prefix_of_scan {text p q : List Char} {v : Json} (hstart : ∃ t, text = '{' :: t)
    (htext : text = p ++ q) (hp : p ≠ []) (hq : q ≠ [])
    (hscan : ∀ n, text.length ≤ n → scanValue py n text = some (v, [])) :
    loads py (String.ofList p) = none := by
  obtain ⟨t, ht⟩ : ∃ t, p = '{' :: t := by
    obtain ⟨t, ht⟩ := hstart
    rcases p with _ | ⟨c, p⟩
    · exact absurd rfl hp
    · rw [ht, List.cons_append] at htext
      exact ⟨p, by rw [(List.cons.inj htext).1]⟩
  have hskip : skipWhitespace p = p := by
    rw [ht]
    exact isWhitespace_false (by decide) t
  unfold loads
  rw [String.toList_ofList, hskip]
  rcases hv : scanValue py (p.length + 1) p with _ | ⟨v', r⟩
  · rfl
  · -- The whole text would leave `r ++ q` behind, and it leaves nothing.
    exfalso
    have hlen : p.length + 1 ≤ (p ++ q).length + 1 := by simp
    have hlong := (undisturbed py (p.length + 1)).value hlen hv (.inr ⟨t, ht⟩) q
    have hwhole := hscan ((p ++ q).length + 1) (by rw [htext]; omega)
    rw [htext, hlong] at hwhole
    have hrest := congrArg Prod.snd (Option.some.inj hwhole)
    simp only [List.append_eq_nil_iff] at hrest
    exact hq hrest.2

end JsonText
end AiopsK8s
