/-
# Arithmetic as a parameter

A computation with numbers is written once, over the operations it uses.  `floats` are those of the
interpreter and `exact` those of the rationals, so that what holds of the computation for every
arithmetic is told apart from what needs exact sums.

The operations that fail are those that convert between integers and numbers: beyond the range of a
float they raise.
-/

import AiopsK8s.Lib.Binary64

namespace AiopsK8s

/-- `sum` of a list of floats: added up from the left, since Python 3.12 with a compensation of the
rounding errors.  Known of it is that what is not negative has such a sum, and zeros the sum
zero. -/
structure Summation where
  sum : List PyFloat → PyFloat
  nonneg : ∀ values, (∀ x ∈ values, x.Nonneg) → (sum values).Nonneg
  zero : ∀ values, (∀ x ∈ values, x = .finite 0) → sum values = .finite 0

namespace Summation

theorem nonneg_foldl (values : List PyFloat) (total : PyFloat) (htotal : total.Nonneg)
    (h : ∀ x ∈ values, x.Nonneg) : (values.foldl PyFloat.add total).Nonneg := by
  induction values generalizing total with
  | nil => exact htotal
  | cons x values ih =>
      obtain ⟨hx, hvalues⟩ := List.forall_mem_cons.1 h
      exact ih _ (htotal.add hx) hvalues

theorem foldl_zero (values : List PyFloat) (h : ∀ x ∈ values, x = .finite 0) :
    values.foldl PyFloat.add (.finite 0) = .finite 0 := by
  induction values with
  | nil => rfl
  | cons x values ih =>
      obtain ⟨rfl, hvalues⟩ := List.forall_mem_cons.1 h
      have hadd : PyFloat.add (.finite 0) (.finite 0) = .finite 0 := by decide +kernel
      rw [List.foldl_cons, hadd]
      exact ih hvalues

/-- From the left, without a compensation. -/
def leftToRight : Summation where
  sum values := values.foldl PyFloat.add (.finite 0)
  nonneg values := nonneg_foldl values _ le_rfl
  zero := foldl_zero

end Summation

/-- The operations of a computation with numbers. -/
structure Arithmetic (F : Type) where
  /-- A literal. -/
  lit : ℚ → F
  add : F → F → F
  sub : F → F → F
  mul : F → F → F
  div : F → F → F
  neg : F → F
  /-- `x < y`. -/
  lt : F → F → Bool
  /-- `x == y`. -/
  eq : F → F → Bool
  /-- `sum(values)`. -/
  sum : List F → F
  /-- `x / count`. -/
  divCount : F → ℕ → F
  /-- `float(n)`. -/
  ofInt : ℤ → Option F
  /-- `n / count` of integers. -/
  ofQuotient : ℤ → ℕ → Option F
  /-- `round(x)`. -/
  roundInt : F → Option ℤ
  /-- `round(x, 6)`. -/
  round6 : F → F

namespace Arithmetic

variable {F : Type} (ar : Arithmetic F)

/-- `max(x, y)`. -/
def max (x y : F) : F := if ar.lt x y then y else x

/-- `min(x, y)`. -/
def min (x y : F) : F := if ar.lt y x then y else x

/-- `sum(values) / len(values)`. -/
def mean (values : List F) : F := ar.divCount (ar.sum values) values.length

/-- `sum(values) / len(values)` of integers. -/
def meanInt (values : List ℤ) : Option F := ar.ofQuotient values.sum values.length

/-- The floats of the interpreter.  How a list is summed is left open: it is added up from the left,
since Python 3.12 with a compensation of the rounding errors. -/
def floats (sum : List PyFloat → PyFloat) : Arithmetic PyFloat where
  lit := PyFloat.lit
  add := PyFloat.add
  sub := PyFloat.sub
  mul := PyFloat.mul
  div := PyFloat.div
  neg := PyFloat.neg
  lt := PyFloat.lt
  eq := PyFloat.eq
  sum := sum
  divCount x count := PyFloat.div x (.finite count)
  ofInt := PyFloat.ofInt
  ofQuotient := PyFloat.ofQuotient
  roundInt := PyFloat.roundInt
  round6 := PyFloat.round6

/-- Exact arithmetic with the roundings of the source. -/
def exact : Arithmetic ℚ where
  lit := id
  add x y := x + y
  sub x y := x - y
  mul x y := x * y
  div x y := x / y
  neg x := -x
  lt x y := x < y
  eq x y := x = y
  sum := List.sum
  divCount x count := x / count
  ofInt n := some n
  ofQuotient n count := some (n / count)
  roundInt x := some (Round.roundHalfEven x)
  round6 := Round.round6

end Arithmetic
end AiopsK8s
