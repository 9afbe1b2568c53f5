/-
# The sum of a list of floats

`sum` adds a list up from the left (`addUp`); since Python 3.12 it also collects what each addition
loses and adds it in the end (`compensated`, the algorithm of Neumaier).

Rounding keeps the order, so a list that is added up has no smaller sum when more terms are added to
it (`addUp_ge_of_sublist`).  The compensation is nearer to the exact sum and not monotone: the terms
that it has collected are rounded as well, and where the exact sum is half-way between two floats
one more term may turn it down.
-/

import AiopsK8s.Lib.Rounding

namespace AiopsK8s

namespace Binary64

open Round

/-- Digits that the float has anyway are not rounded. -/
theorem nearest_eq_self {q : ℚ} {n : ℤ} (h : q / ulp q = n) : nearest q = q := by
  rw [nearest, h, roundHalfEven_intCast, ← h, div_mul_cancel₀ _ (ulp_pos q).ne']

/-- A power of two is an integer multiple of a lower one. -/
theorem two_zpow_div {e e' : ℤ} (h : e' ≤ e) : ∃ n : ℤ, (2 : ℚ) ^ e / 2 ^ e' = n := by
  obtain ⟨k, hk⟩ := Int.eq_ofNat_of_zero_le (sub_nonneg.2 h)
  refine ⟨2 ^ k, ?_⟩
  rw [← zpow_sub₀ two_ne_zero, hk, zpow_natCast]
  push_cast
  rfl

/-- **What is rounded is a float.** -/
theorem nearest_nearest (q : ℚ) : nearest (nearest q) = nearest q := by
  rcases eq_or_ne q 0 with rfl | hq
  · rw [nearest_zero, nearest_zero]
  rcases eq_or_ne (nearest q) 0 with hzero | hr
  · rw [hzero, nearest_zero]
  obtain ⟨e, he, hulp⟩ := exists_ulp q
  obtain ⟨e', he', hulp'⟩ := exists_ulp (nearest q)
  have hmantissa : nearest q = roundHalfEven (q / 2 ^ e) * 2 ^ e := by rw [nearest, hulp]
  have hcast : ((2 : ℕ) : ℚ) = 2 := Nat.cast_ofNat
  have hdigits : |q| < 2 ^ (Int.log 2 |q| + 1) := by
    exact_mod_cast Int.lt_zpow_succ_log_self one_lt_two |q|
  rcases le_or_gt e' e with hle | hgt
  · obtain ⟨n, hn⟩ := two_zpow_div hle
    refine nearest_eq_self (n := roundHalfEven (q / 2 ^ e) * n) ?_
    rw [hulp', hmantissa, mul_div_assoc, hn]
    push_cast
    rfl
  · -- The rounding has reached the next binade: it is the power of two that begins it.
    obtain ⟨k, hk⟩ : ∃ k, max (Int.log 2 |q| + 1) (-1074) = k := ⟨_, rfl⟩
    have hbelow : |q| < 2 ^ k := hdigits.trans_le (zpow_le_zpow_right₀ one_le_two (by omega))
    have hupper : |nearest q| ≤ 2 ^ k := abs_nearest_le_two_zpow (by omega) hbelow
    have hlog : Int.log 2 |nearest q| ≤ k := by
      have hmono := Int.log_mono_right (b := 2) (abs_pos.2 hr) hupper
      rwa [← hcast, Int.log_zpow one_lt_two] at hmono
    have hlower : (2 : ℚ) ^ k ≤ |nearest q| := by
      have hself := Int.zpow_log_le_self one_lt_two (abs_pos.2 hr)
      rw [hcast] at hself
      exact (zpow_le_zpow_right₀ one_le_two (by omega)).trans hself
    have habs : |nearest q| = 2 ^ k := le_antisymm hupper hlower
    obtain ⟨n, hn⟩ := two_zpow_div (show e' ≤ k by omega)
    rcases abs_choice (nearest q) with hpos | hneg
    · refine nearest_eq_self (n := n) ?_
      rw [hulp', ← hn, ← habs, hpos]
    · refine nearest_eq_self (n := -n) ?_
      push_cast
      rw [hulp', ← hn, ← habs, hneg]
      ring

end Binary64

namespace PyFloat

open Binary64

/-- **Addition keeps the order.** -/
theorem add_ge {x x' y y' : PyFloat} (hx : x.Nonneg) (hy : y.Nonneg) (hxx : ge x' x = true)
    (hyy : ge y' y = true) : ge (add x' y') (add x y) = true := by
  have hle : ∀ {a b : PyFloat}, a.Nonneg → ge b a = true →
      (∃ p q, a = finite p ∧ b = finite q ∧ p ≤ q) ∨ b = posInf := by
    intro a b ha h
    rcases a with a | - | - | - <;> rcases b with b | - | - | - <;>
      simp [ge, lt, eq, Nonneg] at ha h ⊢
    rcases h with h | h
    · exact h.le
    · exact h.le
  have hsum : (add x y).Nonneg := hx.add hy
  have htop : ge posInf (add x y) = true := by
    generalize add x y = z at hsum ⊢
    cases z <;> first | rfl | exact False.elim hsum
  have hinf : ∀ {b : PyFloat}, ge b x = true ∨ ge b y = true → add posInf b = posInf := by
    intro b hb
    have hne : b ≠ nan ∧ b ≠ negInf := by
      rcases hb with hb | hb
      · refine ⟨(ne_nan_of_ge hb).1, ?_⟩
        rintro rfl
        rcases x with x | - | - | - <;> simp [ge, lt, eq, Nonneg] at hx hb
      · refine ⟨(ne_nan_of_ge hb).1, ?_⟩
        rintro rfl
        rcases y with y | - | - | - <;> simp [ge, lt, eq, Nonneg] at hy hb
    rcases b with b | - | - | - <;> simp [add] at hne ⊢
  rcases hle hx hxx with ⟨p, p', rfl, rfl, hp⟩ | rfl
  · rcases hle hy hyy with ⟨q, q', rfl, rfl, hq⟩ | rfl
    · exact ofExact_ge (by linarith)
    · exact htop
  · rw [hinf (.inr hyy)]
    exact htop

/-- A larger part of the same whole. -/
theorem ge_div {x x' y h : PyFloat} (hx : x.Nonneg) (hy : y.Nonneg) (hne : y ≠ finite 0)
    (hh : lt (finite 0) h = true) (hxx : ge x' x = true) (hge : ge (div x y) h = true) :
    ge (div x' y) h = true := by
  rcases y with y | - | - | -
  · have hpos : 0 < y := lt_of_le_of_ne hy fun heq => hne (by rw [heq])
    rcases x with x | - | - | -
    · rcases x' with x' | - | - | -
      · have hle : x ≤ x' := by
          simp only [ge, lt, eq, Bool.or_eq_true, decide_eq_true_eq] at hxx
          rcases hxx with hlt | ⟨-, heq⟩
          · exact hlt.le
          · exact (finite.inj heq).le
        exact ge_trans (ofExact_ge (div_le_div_of_nonneg_right hle hpos.le)) hge
      · exact absurd hxx (by simp [ge, lt, eq])
      · have hinf : div posInf (finite y) = posInf := by simp [div, infinityOf, hpos.le]
        rw [hinf]
        have hnan := (ne_nan_of_ge hge).2
        rcases h with h | - | - | - <;> first | rfl | exact absurd rfl hnan
      · exact absurd hxx (by simp [ge, lt, eq])
    · exact False.elim hx
    · obtain rfl : x' = posInf := by
        rcases x' with x' | - | - | - <;> simp [ge, lt, eq] at hxx ⊢
      exact hge
    · exact False.elim hx
  · exact False.elim hy
  · rcases x with x | - | - | -
    · have hzero : div (finite x) posInf = finite 0 := rfl
      rw [hzero, ge, lt_asymm hh, eq_comm] at hge
      have heq := (eq_iff.1 hge).2
      rw [heq, lt_self] at hh
      cases hh
    · exact False.elim hx
    · exact absurd hge (not_nan_ge h)
    · exact False.elim hx
  · exact False.elim hy

/-- `sum(values)` up to Python 3.11. -/
def addUp (values : List PyFloat) : PyFloat := values.foldl add (finite 0)

theorem add_add_zero (x y : PyFloat) : add (add x y) (finite 0) = add x y := by
  have hexact : ∀ q, add (ofExact q) (finite 0) = ofExact q := by
    intro q
    unfold ofExact
    split_ifs with hlimit
    · have hrange : |nearest q + 0| < limit := by
        rw [add_zero]
        exact (abs_nearest_le hlimit).trans_lt largest_lt_limit
      show (if |nearest q + 0| < limit then finite (nearest (nearest q + 0)) else _) = _
      rw [if_pos hrange, add_zero, nearest_nearest]
    · rfl
    · rfl
  rcases x with x | - | - | - <;> rcases y with y | - | - | - <;> first | rfl | exact hexact _

/-- More terms, no smaller sum, from a float on. -/
theorem foldl_add_ge {l l' : List PyFloat} (h : l.Sublist l') (hpos : ∀ x ∈ l', x.Nonneg)
    {s s' : PyFloat} (hs : s.Nonneg) (hss : ge s' s = true) (hfloat : add s (finite 0) = s) :
    ge (l'.foldl add s') (l.foldl add s) = true := by
  induction h generalizing s s' with
  | slnil => exact hss
  | @cons l l' a _ ih =>
      obtain ⟨ha, hpos⟩ := List.forall_mem_cons.1 hpos
      refine ih hpos hs ?_ hfloat
      have hzero : ge a (finite 0) = true := by
        rcases a with a | - | - | - <;> simp [ge, lt, eq, Nonneg] at ha ⊢
        exact ha.lt_or_eq
      rw [← hfloat]
      exact add_ge hs (le_refl (0 : ℚ)) hss hzero
  | @cons_cons l l' a _ ih =>
      obtain ⟨ha, hpos⟩ := List.forall_mem_cons.1 hpos
      exact ih hpos (hs.add ha) (add_ge hs ha hss (ge_self ha.ne_nan)) (add_add_zero s a)

/-- **Adding up is monotone**: more terms have no smaller sum. -/
theorem addUp_ge_of_sublist {l l' : List PyFloat} (h : l.Sublist l')
    (hpos : ∀ x ∈ l', x.Nonneg) : ge (addUp l') (addUp l) = true := by
  have hfloat : add (finite 0) (finite 0) = finite 0 := by decide +kernel
  exact foldl_add_ge h hpos (le_refl (0 : ℚ)) (ge_self (by simp)) hfloat

/-! ### With a compensation -/

/-- `abs(x)`. -/
def magnitude : PyFloat → PyFloat
  | finite x => finite |x|
  | negInf => posInf
  | x => x

/-- A step of the loop: the sum so far, and what the additions have lost. -/
def compensate (sum : PyFloat × PyFloat) (x : PyFloat) : PyFloat × PyFloat :=
  let total := add sum.1 x
  let lost :=
    if ge (magnitude sum.1) (magnitude x) then add (sub sum.1 total) x
    else add (sub x total) sum.1
  (total, add sum.2 lost)

/-- `sum(values)` from Python 3.12 on. -/
def compensated : List PyFloat → PyFloat
  | [] => finite 0
  | x :: values =>
      let sum := values.foldl compensate (x, finite 0)
      if sum.2 ≠ finite 0 ∧ sum.2.isFinite = true then add sum.1 sum.2 else sum.1

/-- `m · 2⁻⁵²`. -/
def units (m : ℚ) : PyFloat := finite (m * 2 ^ (-52 : ℤ))

/-- One more term turns the sum down. -/
example :
    lt (compensated [units 1, units (2 ^ (-52 : ℤ)), finite 3, units 5, units 7,
        units (2 ^ (-52 : ℤ))])
      (compensated [units 1, finite 3, units 5, units 7, units (2 ^ (-52 : ℤ))]) = true := by
  decide +kernel

end PyFloat
end AiopsK8s
