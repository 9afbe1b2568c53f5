/-
# Rounded arithmetic

A float operation rounds the exact result.  `Rounding` is what bounds and monotonicity need of
that: it keeps the order, the sign and the number one.  Exact arithmetic is such a rounding, and so
is that of binary64 as long as no result overflows (`binary64`).
-/

import AiopsK8s.Lib.Binary64

namespace AiopsK8s

/-- The rounding of a result. -/
structure Rounding where
  round : ℚ → ℚ
  mono : Monotone round
  neg : ∀ x, round (-x) = -round x
  one : round 1 = 1

namespace Rounding

/-- No rounding. -/
def exact : Rounding := ⟨id, monotone_id, fun _ => rfl, rfl⟩

variable (fl : Rounding)

/-- `x + y`. -/
def add (x y : ℚ) : ℚ := fl.round (x + y)

/-- `x - y`. -/
def sub (x y : ℚ) : ℚ := fl.round (x - y)

/-- `x * y`. -/
def mul (x y : ℚ) : ℚ := fl.round (x * y)

/-- `x / y`. -/
def div (x y : ℚ) : ℚ := fl.round (x / y)

/-- `round(x, 6)`. -/
def round6 (x : ℚ) : ℚ := fl.round (Round.round6 x)

variable {fl} {x x' y y' c : ℚ}

@[simp] theorem zero : fl.round 0 = 0 := by
  have h := fl.neg 0
  rw [neg_zero] at h
  linarith

theorem nonneg (h : 0 ≤ x) : 0 ≤ fl.round x := zero.symm.trans_le (fl.mono h)

theorem nonpos (h : x ≤ 0) : fl.round x ≤ 0 := (fl.mono h).trans_eq zero

theorem le_one (h : x ≤ 1) : fl.round x ≤ 1 := (fl.mono h).trans_eq fl.one

theorem neg_one_le (h : -1 ≤ x) : -1 ≤ fl.round x := by
  have hone := fl.neg 1
  rw [fl.one] at hone
  exact hone.symm.trans_le (fl.mono h)

theorem one_le (h : 1 ≤ x) : 1 ≤ fl.round x := fl.one.symm.trans_le (fl.mono h)

theorem mono_add (hx : x ≤ x') (hy : y ≤ y') : fl.add x y ≤ fl.add x' y' :=
  fl.mono (add_le_add hx hy)

theorem antitone_sub (hy : y ≤ y') : fl.sub x y' ≤ fl.sub x y :=
  fl.mono (sub_le_sub_left hy x)

theorem mono_mul (hc : 0 ≤ c) (h : x ≤ y) : fl.mul c x ≤ fl.mul c y :=
  fl.mono (mul_le_mul_of_nonneg_left h hc)

theorem zero_mul : fl.mul 0 x = 0 := by
  rw [mul, MulZeroClass.zero_mul, zero]

theorem mono_div (hc : 0 < c) (h : x ≤ y) : fl.div x c ≤ fl.div y c :=
  fl.mono (div_le_div_of_nonneg_right h hc.le)

theorem nonneg_div (hx : 0 ≤ x) (hy : 0 < y) : 0 ≤ fl.div x y := nonneg (div_nonneg hx hy.le)

theorem antitone_one_div (hx : 0 < x) (h : x ≤ y) : fl.div 1 y ≤ fl.div 1 x :=
  fl.mono (one_div_le_one_div_of_le hx h)

theorem round6_mono (h : x ≤ y) : fl.round6 x ≤ fl.round6 y := fl.mono (Round.round6_mono h)

theorem round6_nonpos (h : x ≤ 0) : fl.round6 x ≤ 0 := by
  have hgrid := Round.round6_le_grid (x := x) (n := 0) (by simpa using h)
  exact nonpos (by simpa using hgrid)

theorem round6_le_one (h : x ≤ 1) : fl.round6 x ≤ 1 := by
  have hgrid := Round.round6_le_grid (x := x) (n := 1000000) (by simpa using h)
  exact le_one (by simpa using hgrid)

theorem round6_neg_one : Round.round6 (-1) = -1 := by
  have h := Round.round6_grid (-1000000)
  norm_num at h
  exact h

theorem neg_one_le_round6 (h : -1 ≤ x) : -1 ≤ fl.round6 x :=
  neg_one_le (round6_neg_one.symm.trans_le (Round.round6_mono h))

end Rounding

namespace Binary64

open Round

/-- **Rounding to the even neighbour is odd.** -/
theorem roundHalfEven_neg (x : ℚ) : roundHalfEven (-x) = -roundHalfEven x := by
  have hle := Int.floor_le x
  have hlt := Int.lt_floor_add_one x
  rcases hle.eq_or_lt with heq | hpos
  · rw [← heq, ← Int.cast_neg, roundHalfEven_intCast, roundHalfEven_intCast]
  · have hfloor : ⌊-x⌋ = -⌊x⌋ - 1 := by
      rw [Int.floor_eq_iff]
      push_cast
      constructor <;> linarith
    unfold roundHalfEven
    dsimp only
    rw [hfloor]
    push_cast
    split_ifs <;> first | omega | (exfalso; linarith)

theorem ulp_neg (q : ℚ) : ulp (-q) = ulp q := by
  rw [ulp, ulp, abs_neg]

theorem nearest_neg (q : ℚ) : nearest (-q) = -nearest q := by
  rw [nearest, nearest, ulp_neg, neg_div, roundHalfEven_neg, Int.cast_neg, neg_mul]

/-- A power of two within the digits is not rounded below. -/
theorem two_zpow_le_nearest {q : ℚ} {k : ℤ} (hk : Int.log 2 |q| = k) (hnormal : -1022 ≤ k)
    (h : 2 ^ k ≤ q) : 2 ^ k ≤ nearest q := by
  obtain ⟨e, he, hulp⟩ := exists_ulp q
  obtain rfl : e = k - 52 := by omega
  have hu := two_zpow_pos (k - 52)
  have hpow : (2 : ℚ) ^ k = ((2 ^ 52 : ℤ) : ℚ) * 2 ^ (k - 52) := by
    have hadd := zpow_add₀ (two_ne_zero' ℚ) 52 (k - 52)
    rw [show 52 + (k - 52) = k by omega] at hadd
    rw [hadd]
    norm_num
  unfold nearest
  rw [hulp, hpow]
  refine mul_le_mul_of_nonneg_right ?_ hu.le
  rw [hpow, ← le_div_iff₀ hu] at h
  have hround := roundHalfEven_mono h
  rw [roundHalfEven_intCast] at hround
  exact_mod_cast hround

theorem nearest_mono_of_nonneg {x y : ℚ} (hx : 0 ≤ x) (h : x ≤ y) : nearest x ≤ nearest y := by
  rcases hx.eq_or_lt with rfl | hpos
  · rw [nearest_zero]
    exact nearest_nonneg h
  have habsx : |x| = x := abs_of_pos hpos
  have habsy : |y| = y := abs_of_pos (hpos.trans_le h)
  have hlog : Int.log 2 |x| ≤ Int.log 2 |y| := by
    rw [habsx, habsy]
    exact Int.log_mono_right hpos h
  obtain ⟨e, he, hulp⟩ := exists_ulp x
  obtain ⟨e', he', hulp'⟩ := exists_ulp y
  rcases lt_trichotomy e e' with hlt | rfl | hgt
  · -- The ulp grows from `x` to `y`: a power of two lies between them.
    obtain ⟨k, hk⟩ : ∃ k, Int.log 2 |y| = k := ⟨_, rfl⟩
    have hbelow : |x| < 2 ^ k := by
      have hlt : Int.log 2 |x| < k := by omega
      exact_mod_cast (Int.lt_zpow_iff_log_lt one_lt_two (abs_pos.2 hpos.ne')).2 hlt
    have habove : 2 ^ k ≤ y := by
      have hle := Int.zpow_log_le_self one_lt_two (hpos.trans_le h)
      rw [← habsy, hk, habsy] at hle
      exact_mod_cast hle
    have hleft := (le_abs_self _).trans (abs_nearest_le_two_zpow (by omega) hbelow)
    exact hleft.trans (two_zpow_le_nearest hk (by omega) habove)
  · have hu := two_zpow_pos e
    unfold nearest
    rw [hulp, hulp']
    refine mul_le_mul_of_nonneg_right ?_ hu.le
    exact_mod_cast roundHalfEven_mono (div_le_div_of_nonneg_right h hu.le)
  · omega

/-- **Rounding to binary64 keeps the order.** -/
theorem nearest_mono : Monotone nearest := by
  intro x y h
  rcases le_total 0 x with hx | hx
  · exact nearest_mono_of_nonneg hx h
  · rcases le_total 0 y with hy | hy
    · have hleft : 0 ≤ nearest (-x) := nearest_nonneg (by linarith)
      rw [nearest_neg] at hleft
      linarith [nearest_nonneg hy]
    · have hneg := nearest_mono_of_nonneg (x := -y) (y := -x) (by linarith) (by linarith)
      rw [nearest_neg, nearest_neg] at hneg
      linarith

end Binary64

/-- **The float of a larger result is at least as large**, also where it overflows. -/
theorem PyFloat.ofExact_ge {x y : ℚ} (h : x ≤ y) :
    PyFloat.ge (PyFloat.ofExact y) (PyFloat.ofExact x) = true := by
  unfold PyFloat.ofExact
  by_cases hx : |x| < Binary64.limit <;> by_cases hy : |y| < Binary64.limit
  · rw [if_pos hx, if_pos hy]
    have hle := Binary64.nearest_mono h
    rcases hle.lt_or_eq with hlt | heq
    · simp [PyFloat.ge, PyFloat.lt, hlt]
    · simp [PyFloat.ge, PyFloat.eq, heq]
  · have hpos : 0 < y := by
      by_contra hneg
      rw [abs_of_nonpos (not_lt.1 hneg), not_lt] at hy
      have hbound := (abs_lt.1 hx).1
      linarith
    rw [if_pos hx, if_neg hy, if_pos hpos]
    rfl
  · have hneg : ¬0 < x := by
      intro hpos
      rw [abs_of_pos hpos, not_lt] at hx
      have hbound := (abs_lt.1 hy).2
      linarith
    rw [if_neg hx, if_pos hy, if_neg hneg]
    rfl
  · rw [if_neg hx, if_neg hy]
    by_cases hpos : 0 < x
    · rw [if_pos hpos, if_pos (hpos.trans_le h)]
      rfl
    · rw [if_neg hpos]
      split <;> rfl

namespace PyFloat

/-! ### Bounds of float expressions -/

theorem ge_finite {x : PyFloat} {a : ℚ} :
    ge x (finite a) = true ↔ x = posInf ∨ ∃ q, x = finite q ∧ a ≤ q := by
  rcases x with x | - | - | - <;> simp [ge, lt, eq, le_iff_lt_or_eq]

theorem finite_ge {x : PyFloat} {b : ℚ} :
    ge (finite b) x = true ↔ x = negInf ∨ ∃ q, x = finite q ∧ q ≤ b := by
  rcases x with x | - | - | - <;> simp [ge, lt, eq, le_iff_lt_or_eq]

theorem infinityOf_ne_nan (negative : Bool) : infinityOf negative ≠ nan := by
  cases negative <;> simp [infinityOf]

theorem posInf_ge {x : PyFloat} (h : x ≠ nan) : ge posInf x = true := by
  cases x <;> first | rfl | exact absurd rfl h

theorem ge_negInf {x : PyFloat} (h : x ≠ nan) : ge x negInf = true := by
  cases x <;> first | rfl | exact absurd rfl h

variable {x y z : PyFloat} {a b c : ℚ}

/-- Between two bounds there is no infinity. -/
theorem exists_finite_of_bounds (h : ge x (finite a) = true) (h' : ge (finite b) x = true) :
    ∃ q, x = finite q := by
  rcases ge_finite.1 h with rfl | ⟨q, rfl, _⟩
  · simp [ge, lt, eq] at h'
  · exact ⟨q, rfl⟩

theorem add_finite_ne_nan (hx : x ≠ nan) (q : ℚ) : add x (finite q) ≠ nan := by
  rcases x with p | - | - | -
  · exact ofExact_ne_nan _
  · exact absurd rfl hx
  · simp [add]
  · simp [add]

theorem mul_finite_ne_nan (hx : x ≠ nan) (hc : 0 < c) : mul (finite c) x ≠ nan := by
  rcases x with p | - | - | -
  · exact ofExact_ne_nan _
  · exact absurd rfl hx
  · simp [mul, hc.ne', infinityOf_ne_nan]
  · simp [mul, hc.ne', infinityOf_ne_nan]

/-- **A sum is bounded by that of the bounds of its terms.** -/
theorem add_ge_bound (hx : ge x (finite a) = true) (hy : ge y (finite b) = true)
    (h : ge (add (finite a) (finite b)) z = true) : ge (add x y) z = true := by
  refine ge_trans ?_ h
  rcases ge_finite.1 hx with rfl | ⟨p, rfl, hp⟩ <;> rcases ge_finite.1 hy with rfl | ⟨q, rfl, hq⟩
  · exact posInf_ge (ofExact_ne_nan _)
  · exact posInf_ge (ofExact_ne_nan _)
  · exact posInf_ge (ofExact_ne_nan _)
  · exact ofExact_ge (add_le_add hp hq)

theorem add_le_bound (hx : ge (finite a) x = true) (hy : ge (finite b) y = true)
    (h : ge z (add (finite a) (finite b)) = true) : ge z (add x y) = true := by
  refine ge_trans h ?_
  rcases finite_ge.1 hx with rfl | ⟨p, rfl, hp⟩ <;> rcases finite_ge.1 hy with rfl | ⟨q, rfl, hq⟩
  · exact ge_negInf (ofExact_ne_nan _)
  · exact ge_negInf (ofExact_ne_nan _)
  · exact ge_negInf (ofExact_ne_nan _)
  · exact ofExact_ge (add_le_add hp hq)

theorem sub_ge_bound (hx : ge x (finite a) = true) (hy : ge (finite b) y = true)
    (h : ge (sub (finite a) (finite b)) z = true) : ge (sub x y) z = true := by
  refine add_ge_bound hx (b := -b) ?_ h
  rcases finite_ge.1 hy with rfl | ⟨q, rfl, hq⟩
  · rfl
  · exact ge_finite.2 (.inr ⟨-q, rfl, neg_le_neg hq⟩)

theorem sub_le_bound (hx : ge (finite a) x = true) (hy : ge y (finite b) = true)
    (h : ge z (sub (finite a) (finite b)) = true) : ge z (sub x y) = true := by
  refine add_le_bound hx (b := -b) ?_ h
  rcases ge_finite.1 hy with rfl | ⟨q, rfl, hq⟩
  · rfl
  · exact finite_ge.2 (.inr ⟨-q, rfl, neg_le_neg hq⟩)

/-- **A product with a positive weight is bounded by that of the bound.** -/
theorem mul_ge_bound (hc : 0 < c) (hx : ge x (finite a) = true)
    (h : ge (mul (finite c) (finite a)) z = true) : ge (mul (finite c) x) z = true := by
  refine ge_trans ?_ h
  rcases ge_finite.1 hx with rfl | ⟨p, rfl, hp⟩
  · have hinf : mul (finite c) posInf = posInf := by simp [mul, infinityOf, hc.ne', hc.le]
    rw [hinf]
    exact posInf_ge (ofExact_ne_nan _)
  · exact ofExact_ge (mul_le_mul_of_nonneg_left hp hc.le)

theorem mul_le_bound (hc : 0 < c) (hx : ge (finite a) x = true)
    (h : ge z (mul (finite c) (finite a)) = true) : ge z (mul (finite c) x) = true := by
  refine ge_trans h ?_
  rcases finite_ge.1 hx with rfl | ⟨p, rfl, hp⟩
  · have hinf : mul (finite c) negInf = negInf := by simp [mul, infinityOf, hc.ne', hc.le]
    rw [hinf]
    exact ge_negInf (ofExact_ne_nan _)
  · exact ofExact_ge (mul_le_mul_of_nonneg_left hp hc.le)

/-- A product of what is bounded is no infinity. -/
theorem exists_mul_finite (hc : 0 < c) (hx : ge x (finite a) = true)
    (hx' : ge (finite b) x = true) (ha : |c * a| < Binary64.limit)
    (hb : |c * b| < Binary64.limit) : ∃ q, mul (finite c) x = finite q := by
  have hexact : ∀ {p : ℚ}, |c * p| < Binary64.limit →
      mul (finite c) (finite p) = finite (Binary64.nearest (c * p)) := fun h => if_pos h
  refine exists_finite_of_bounds (a := Binary64.nearest (c * a)) (b := Binary64.nearest (c * b))
    (mul_ge_bound hc hx ?_) (mul_le_bound hc hx' ?_)
  · rw [hexact ha]
    exact ge_self (by simp)
  · rw [hexact hb]
    exact ge_self (by simp)

theorem round6_ne_nan (hx : x ≠ nan) : round6 x ≠ nan := by
  cases x <;> simp [round6] at hx ⊢

theorem round6_finite_ge {p q : ℚ} (h : p ≤ q) :
    ge (round6 (finite q)) (round6 (finite p)) = true :=
  ge_finite.2 (.inr ⟨_, rfl, Binary64.nearest_mono (Round.round6_mono h)⟩)

/-- **Six decimals are bounded by those of the bound.** -/
theorem round6_ge_bound (hx : ge x (finite a) = true) (h : ge (round6 (finite a)) z = true) :
    ge (round6 x) z = true := by
  refine ge_trans ?_ h
  rcases ge_finite.1 hx with rfl | ⟨p, rfl, hp⟩
  · rfl
  · exact round6_finite_ge hp

theorem round6_le_bound (hx : ge (finite a) x = true) (h : ge z (round6 (finite a)) = true) :
    ge z (round6 x) = true := by
  refine ge_trans h ?_
  rcases finite_ge.1 hx with rfl | ⟨p, rfl, hp⟩
  · rfl
  · exact round6_finite_ge hp

end PyFloat

/-- The rounding of a float operation that does not overflow. -/
def Rounding.binary64 : Rounding where
  round := Binary64.nearest
  mono := Binary64.nearest_mono
  neg := Binary64.nearest_neg
  one := by decide +kernel

end AiopsK8s
