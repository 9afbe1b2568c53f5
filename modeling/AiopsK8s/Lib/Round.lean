/-
# Rounding to six decimals

Python's `round(x, 6)` rounds to the nearest multiple of `10⁻⁶` and takes the
even one of two equally near multiples.  `roundHalfEven` is the rounding to an
integer and `round6` the scaled one, both over exact rationals.

Rounding is monotone (`round6_mono`) and keeps the multiples of `10⁻⁶`
(`round6_grid`), so a bound on that grid survives it (`round6_le_grid`).  A
bound off the grid does not: the value may be rounded up across it.
-/

import Mathlib.Data.Rat.Floor
import Mathlib.Algebra.Order.Floor.Ring
import Mathlib.Tactic.Linarith
import Mathlib.Tactic.NormNum
import Mathlib.Tactic.Positivity
import Mathlib.Tactic.FieldSimp
import Mathlib.Tactic.Ring

namespace AiopsK8s
namespace Round

/-- The nearest integer, the even one of two equally near ones. -/
def roundHalfEven (x : ℚ) : ℤ :=
  let lower := ⌊x⌋
  if x - lower < 1 / 2 then lower
  else if 1 / 2 < x - lower then lower + 1
  else if lower % 2 = 0 then lower else lower + 1

/-- `round(x, 6)`. -/
def round6 (x : ℚ) : ℚ := roundHalfEven (x * 1000000) / 1000000

theorem roundHalfEven_ge_floor (x : ℚ) : ⌊x⌋ ≤ roundHalfEven x := by
  unfold roundHalfEven
  dsimp only
  split_ifs <;> omega

theorem roundHalfEven_le_floor_add_one (x : ℚ) : roundHalfEven x ≤ ⌊x⌋ + 1 := by
  unfold roundHalfEven
  dsimp only
  split_ifs <;> omega

@[simp] theorem roundHalfEven_intCast (n : ℤ) : roundHalfEven (n : ℚ) = n := by
  simp [roundHalfEven]

theorem roundHalfEven_mono {x y : ℚ} (h : x ≤ y) : roundHalfEven x ≤ roundHalfEven y := by
  rcases (Int.floor_mono h).lt_or_eq with hlt | heq
  · have h₁ := roundHalfEven_le_floor_add_one x
    have h₂ := roundHalfEven_ge_floor y
    omega
  · unfold roundHalfEven
    dsimp only
    rw [← heq]
    have hsub : x - ⌊x⌋ ≤ y - ⌊x⌋ := by linarith
    split_ifs <;> first | omega | (exfalso; linarith)

theorem round6_mono {x y : ℚ} (h : x ≤ y) : round6 x ≤ round6 y := by
  unfold round6
  have := roundHalfEven_mono (show x * 1000000 ≤ y * 1000000 by linarith)
  have hc : (roundHalfEven (x * 1000000) : ℚ) ≤ roundHalfEven (y * 1000000) := by exact_mod_cast this
  linarith

/-- A multiple of `10⁻⁶` is its own rounding. -/
theorem round6_grid (n : ℤ) : round6 ((n : ℚ) / 1000000) = n / 1000000 := by
  unfold round6
  rw [div_mul_cancel₀ _ (by norm_num), roundHalfEven_intCast]

@[simp] theorem round6_zero : round6 0 = 0 := by
  simpa using round6_grid 0

theorem round6_nonneg {x : ℚ} (h : 0 ≤ x) : 0 ≤ round6 x := by
  simpa using round6_mono h

/-- A bound on the grid survives rounding. -/
theorem round6_le_grid {x : ℚ} {n : ℤ} (h : x ≤ n / 1000000) : round6 x ≤ n / 1000000 := by
  rw [← round6_grid n]
  exact round6_mono h

end Round
end AiopsK8s
