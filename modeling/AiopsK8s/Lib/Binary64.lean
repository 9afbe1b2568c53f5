/-
# Floats

A Python `float` is an IEEE 754 double.  The exact result of an operation is rounded to the
nearest number of 53 binary digits, the even one of two equally near, and becomes an infinity
from `2¹⁰²⁴ - 2⁹⁷⁰` on, the midpoint above the largest float.  The sign of a zero is not kept.

What an operation is applied to may be beyond the range, what it returns is not: a rounded result
is at most the largest float (`abs_nearest_le`), and so is the integer it is rounded to
(`abs_roundHalfEven_nearest_le`), which therefore has a float again.
-/

import AiopsK8s.Lib.Json
import AiopsK8s.Lib.Round
import Mathlib.Data.Int.Log

namespace AiopsK8s
namespace Round

/-- Rounding does not pass an integer that is nearer than half. -/
theorem roundHalfEven_le_of_lt {x : ℚ} {n : ℤ} (h : x < n + 1 / 2) : roundHalfEven x ≤ n := by
  by_contra hlt
  have hfloor : ⌊x⌋ ≤ n := Int.lt_add_one_iff.1 (Int.floor_lt.2 (by push_cast; linarith))
  have hround := roundHalfEven_le_floor_add_one x
  have heq : ⌊x⌋ = n := by omega
  have hx : x - (⌊x⌋ : ℚ) < 1 / 2 := by
    rw [heq]
    linarith
  have hround' : roundHalfEven x = ⌊x⌋ := by
    unfold roundHalfEven
    exact if_pos hx
  omega

theorem le_roundHalfEven_of_lt {x : ℚ} {n : ℤ} (h : (n : ℚ) - 1 / 2 < x) :
    n ≤ roundHalfEven x := by
  by_contra hlt
  have hfloor := roundHalfEven_ge_floor x
  have hx : (n : ℚ) - 1 ≤ x := by
    linarith
  have hfloor' : n - 1 ≤ ⌊x⌋ := Int.le_floor.2 (by push_cast; exact hx)
  have heq : ⌊x⌋ = n - 1 := by omega
  have hlow : 1 / 2 < x - (⌊x⌋ : ℚ) := by
    rw [heq]
    push_cast
    linarith
  have hround : roundHalfEven x = ⌊x⌋ + 1 := by
    unfold roundHalfEven
    exact (if_neg (by linarith)).trans (if_pos hlow)
  omega

/-- **Half more than an integer bounds the rounding by it.** -/
theorem abs_roundHalfEven_le {x : ℚ} {n : ℤ} (h : |x| < n + 1 / 2) : |roundHalfEven x| ≤ n := by
  obtain ⟨hlow, hhigh⟩ := abs_lt.1 h
  refine abs_le.2 ⟨le_roundHalfEven_of_lt ?_, roundHalfEven_le_of_lt hhigh⟩
  push_cast
  linarith

end Round

namespace Binary64

open Round

/-- The distance of the floats around `q`. -/
def ulp (q : ℚ) : ℚ := 2 ^ max (Int.log 2 |q| - 52) (-1074)

/-- The number of 53 binary digits that is nearest to `q`. -/
def nearest (q : ℚ) : ℚ := roundHalfEven (q / ulp q) * ulp q

/-- The midpoint above the largest float, `2¹⁰²⁴ - 2⁹⁷⁰`: from here on a result is an infinity. -/
def limit : ℚ := (2 ^ 54 - 1) * 2 ^ (970 : ℤ)

/-- The largest float, `2¹⁰²⁴ - 2⁹⁷¹`. -/
def largest : ℚ := (2 ^ 53 - 1) * 2 ^ (971 : ℤ)

theorem two_zpow_pos (e : ℤ) : (0 : ℚ) < 2 ^ e := zpow_pos two_pos e

theorem two_zpow_971 : (2 : ℚ) ^ (971 : ℤ) = 2 * 2 ^ (970 : ℤ) := by
  rw [← zpow_one_add₀ two_ne_zero]
  rfl

theorem largest_lt_limit : largest < limit := by
  have hpos := two_zpow_pos 970
  unfold largest limit
  rw [two_zpow_971]
  generalize (2 : ℚ) ^ (970 : ℤ) = b at hpos ⊢
  linarith

theorem largest_nonneg : 0 ≤ largest := mul_nonneg (by norm_num) (two_zpow_pos 971).le

theorem one_le_largest : 1 ≤ largest :=
  one_le_mul_of_one_le_of_one_le (by norm_num) (one_le_zpow₀ one_le_two (by norm_num))

theorem exists_int_limit : ∃ n : ℤ, (n : ℚ) = limit := by
  have hpow : (2 : ℚ) ^ (970 : ℤ) = ((2 ^ 970 : ℤ) : ℚ) := by
    rw [Int.cast_pow, Int.cast_ofNat]
    exact zpow_natCast 2 970
  have h : (((2 ^ 54 - 1) * 2 ^ 970 : ℤ) : ℚ) = limit := by
    rw [limit, hpow, Int.cast_mul, Int.cast_sub, Int.cast_pow, Int.cast_ofNat, Int.cast_one]
  exact ⟨_, h⟩

theorem limit_lt : limit < 2 ^ (1024 : ℤ) := by
  have hpos := two_zpow_pos 970
  have hpow : (2 : ℚ) ^ (1024 : ℤ) = 2 ^ (54 : ℤ) * 2 ^ (970 : ℤ) := by
    rw [← zpow_add₀ two_ne_zero]
    rfl
  have hdigits : (2 : ℚ) ^ (54 : ℤ) = 2 ^ 54 := rfl
  unfold limit
  rw [hpow, hdigits]
  generalize (2 : ℚ) ^ (970 : ℤ) = b at hpos ⊢
  linarith

theorem ulp_pos (q : ℚ) : 0 < ulp q := two_zpow_pos _

@[simp] theorem nearest_zero : nearest 0 = 0 := by
  have hround : roundHalfEven (0 / ulp 0) = 0 := by
    rw [zero_div]
    exact_mod_cast roundHalfEven_intCast 0
  rw [nearest, hround, Int.cast_zero, zero_mul]

theorem nearest_nonneg {q : ℚ} (h : 0 ≤ q) : 0 ≤ nearest q := by
  have hu := ulp_pos q
  have hround : 0 ≤ roundHalfEven (q / ulp q) := by
    have hmono := roundHalfEven_mono (div_nonneg h hu.le)
    exact_mod_cast (roundHalfEven_intCast 0).symm.trans_le (by exact_mod_cast hmono)
  exact mul_nonneg (by exact_mod_cast hround) hu.le

/-- A quotient below a bound on the mantissa rounds to a mantissa within the bound. -/
theorem abs_mantissa_le {q u : ℚ} (hu : 0 < u) {n : ℤ} (h : |q| < (n + 1 / 2) * u) :
    |roundHalfEven (q / u) * u| ≤ n * u := by
  have hq : |q / u| < n + 1 / 2 := by
    rw [abs_div, abs_of_pos hu, div_lt_iff₀ hu]
    exact h
  have hm : (|roundHalfEven (q / u)| : ℚ) ≤ n := by exact_mod_cast abs_roundHalfEven_le hq
  rw [abs_mul, abs_of_pos hu]
  exact mul_le_mul_of_nonneg_right hm hu.le

/-- **A result within the range rounds to at most the largest float.** -/
theorem abs_nearest_le {q : ℚ} (h : |q| < limit) : |nearest q| ≤ largest := by
  have h970 := two_zpow_pos 970
  rcases eq_or_ne q 0 with rfl | hq
  · rw [nearest_zero, abs_zero, largest]
    exact mul_nonneg (by norm_num) (two_zpow_pos 971).le
  have hpos : 0 < |q| := abs_pos.2 hq
  have hcast : ((2 : ℕ) : ℚ) = 2 := Nat.cast_ofNat
  have hlog : Int.log 2 |q| < 1024 := by
    refine (Int.lt_zpow_iff_log_lt one_lt_two hpos).1 ?_
    rw [hcast]
    exact h.trans limit_lt
  have hdigits : |q| < 2 ^ (Int.log 2 |q| + 1) := by
    exact_mod_cast Int.lt_zpow_succ_log_self one_lt_two |q|
  obtain ⟨e, he⟩ : ∃ e, e = max (Int.log 2 |q| - 52) (-1074) := ⟨_, rfl⟩
  have hulp : ulp q = 2 ^ e := by rw [he]; rfl
  have hu := two_zpow_pos e
  unfold nearest
  rw [hulp]
  -- in the highest binade the bound on `q` is tighter than that on its digits
  rcases eq_or_ne e 971 with rfl | hne
  · have hmantissa : |q| < (((2 ^ 53 - 1 : ℤ) : ℚ) + 1 / 2) * 2 ^ (971 : ℤ) := by
      refine h.trans_eq ?_
      rw [limit, two_zpow_971]
      generalize (2 : ℚ) ^ (970 : ℤ) = b
      push_cast
      ring
    refine (abs_mantissa_le hu hmantissa).trans_eq ?_
    rw [largest]
    norm_num
  · have hle : e ≤ 970 := by omega
    have hq53 : |q| < 2 ^ (53 : ℤ) * 2 ^ e := by
      rw [← zpow_add₀ two_ne_zero]
      exact hdigits.trans_le (zpow_le_zpow_right₀ one_le_two (by omega))
    have h53 : (2 : ℚ) ^ (53 : ℤ) = ((2 ^ 53 : ℤ) : ℚ) := by norm_num
    have hmantissa : |q| < (((2 ^ 53 : ℤ) : ℚ) + 1 / 2) * 2 ^ e := by
      rw [← h53, add_mul]
      linarith
    have hpow : (2 : ℚ) ^ e ≤ 2 ^ (970 : ℤ) := zpow_le_zpow_right₀ one_le_two hle
    calc |(roundHalfEven (q / 2 ^ e) : ℚ) * 2 ^ e| ≤ ((2 ^ 53 : ℤ) : ℚ) * 2 ^ e :=
          abs_mantissa_le hu hmantissa
      _ ≤ ((2 ^ 53 : ℤ) : ℚ) * 2 ^ (970 : ℤ) :=
          mul_le_mul_of_nonneg_left hpow (by positivity)
      _ ≤ largest := by
          rw [largest, two_zpow_971]
          generalize (2 : ℚ) ^ (970 : ℤ) = b at h970 ⊢
          norm_num
          linarith

/-- The exponent of the last digit of `q`. -/
theorem exists_ulp (q : ℚ) : ∃ e : ℤ, e = max (Int.log 2 |q| - 52) (-1074) ∧ ulp q = 2 ^ e :=
  ⟨_, rfl, rfl⟩

/-- The digits of a number below a power of two. -/
theorem log_lt {q : ℚ} (hq : q ≠ 0) {k : ℤ} (h : |q| < 2 ^ k) : Int.log 2 |q| < k := by
  refine (Int.lt_zpow_iff_log_lt one_lt_two (abs_pos.2 hq)).1 ?_
  exact_mod_cast h

/-- **Rounding does not pass a power of two.** -/
theorem abs_nearest_le_two_zpow {q : ℚ} {k : ℤ} (hk : -1074 ≤ k) (h : |q| < 2 ^ k) :
    |nearest q| ≤ 2 ^ k := by
  rcases eq_or_ne q 0 with rfl | hq
  · rw [nearest_zero, abs_zero]
    exact (two_zpow_pos k).le
  obtain ⟨e, he, hulp⟩ := exists_ulp q
  have hlog := log_lt hq h
  obtain ⟨n, hn⟩ := Int.eq_ofNat_of_zero_le (show 0 ≤ k - e by omega)
  have hpow : (2 : ℚ) ^ k = ((2 ^ n : ℤ) : ℚ) * 2 ^ e := by
    rw [show k = n + e by omega, zpow_add₀ two_ne_zero, zpow_natCast]
    push_cast
    rfl
  have hu := two_zpow_pos e
  unfold nearest
  rw [hulp, hpow]
  refine abs_mantissa_le hu ?_
  rw [hpow] at h
  linarith

/-- **A fraction below one stays below one**, if it is not nearer to one than the floats are. -/
theorem nearest_lt_one {q : ℚ} (h₀ : 0 ≤ q) (h : q ≤ 1 - 2 ^ (-53 : ℤ)) : nearest q < 1 := by
  have hpos := two_zpow_pos (-53)
  rcases lt_or_ge q (2 ^ (-1 : ℤ)) with hlt | hge
  · have hle := abs_nearest_le_two_zpow (by norm_num) ((abs_of_nonneg h₀).trans_lt hlt)
    exact ((le_abs_self _).trans hle).trans_lt (by norm_num)
  · have hq : 0 < q := (two_zpow_pos _).trans_le hge
    have habs : |q| = q := abs_of_pos hq
    obtain ⟨e, he, hulp⟩ := exists_ulp q
    have hlow : -1 ≤ Int.log 2 |q| := by
      refine (Int.zpow_le_iff_le_log one_lt_two (abs_pos.2 hq.ne')).1 ?_
      rw [habs]
      exact_mod_cast hge
    have hhigh : Int.log 2 |q| < 0 := log_lt hq.ne' (by rw [habs, zpow_zero]; linarith)
    obtain rfl : e = -53 := by omega
    have hmantissa : |q| < (((2 ^ 53 - 1 : ℤ) : ℚ) + 1 / 2) * 2 ^ (-53 : ℤ) := by
      rw [habs]
      norm_num at h ⊢
      linarith
    have hle := abs_mantissa_le hpos hmantissa
    rw [← hulp] at hle
    refine ((le_abs_self _).trans hle).trans_lt ?_
    rw [hulp]
    norm_num

/-- The proper fractions of a count that is not beyond the digits of a float. -/
theorem nearest_div_eq_one_iff {a n : ℕ} (hn : 0 < n) (h : a ≤ n) (hlimit : n ≤ 2 ^ 53) :
    nearest ((a : ℚ) / n) = 1 ↔ a = n := by
  have hn' : (0 : ℚ) < n := by exact_mod_cast hn
  constructor
  · intro hone
    by_contra hne
    have hlt : (a : ℚ) + 1 ≤ n := by exact_mod_cast Nat.lt_of_le_of_ne h hne
    refine absurd hone (nearest_lt_one (by positivity) ?_).ne
    have hlimit' : (n : ℚ) ≤ 2 ^ 53 := by exact_mod_cast hlimit
    have hinv : (2 : ℚ) ^ (-53 : ℤ) ≤ 1 / n := by
      rw [zpow_neg, ← one_div]
      exact one_div_le_one_div_of_le hn' hlimit'
    have hquot : (a : ℚ) / n ≤ 1 - 1 / n := by
      rw [div_le_iff₀ hn', sub_mul, div_mul_cancel₀ _ hn'.ne']
      linarith
    linarith
  · rintro rfl
    rw [div_self hn'.ne']
    decide +kernel

/-- An integer within the digits of a float is a float. -/
theorem nearest_natCast {n : ℕ} (h : n < 2 ^ 53) : nearest n = n := by
  rcases Nat.eq_zero_or_pos n with rfl | hpos
  · simp
  have hn : (n : ℚ) ≠ 0 := by exact_mod_cast hpos.ne'
  obtain ⟨e, he, hulp⟩ := exists_ulp n
  have hlog : Int.log 2 |(n : ℚ)| < 53 := by
    refine log_lt hn ?_
    rw [abs_of_nonneg (by positivity)]
    exact_mod_cast h
  obtain ⟨m, hm⟩ := Int.eq_ofNat_of_zero_le (show 0 ≤ -e by omega)
  have hint : (n : ℚ) / 2 ^ e = ((n * 2 ^ m : ℤ) : ℚ) := by
    rw [show e = -(m : ℤ) by omega, zpow_neg, div_inv_eq_mul, zpow_natCast]
    push_cast
    rfl
  unfold nearest
  rw [hulp, hint, roundHalfEven_intCast, ← hint, div_mul_cancel₀ _ (two_zpow_pos e).ne']

end Binary64

/-- `float(value)` of an integer: an integer that rounds to `2¹⁰²⁴` or beyond raises
`OverflowError`. -/
@[irreducible] def Json.floatOfInt (i : ℤ) : Option ℚ :=
  if i.natAbs < 2 ^ 1024 - 2 ^ 970 then some (Binary64.nearest i) else none

theorem Json.floatOfInt_zero : floatOfInt 0 = some 0 := by
  have hpos : ∀ {m n : ℕ}, m < n → 0 < 2 ^ n - 2 ^ m := fun h =>
    Nat.sub_pos_of_lt (Nat.pow_lt_pow_right one_lt_two h)
  have hlt : 970 < 1024 := by decide
  unfold floatOfInt
  split
  · rw [Int.cast_zero, Binary64.nearest_zero]
  · rename_i h
    exact absurd (hpos hlt) h

namespace PyFloat

open Binary64 Round

/-- The float of an exact result. -/
def ofExact (q : ℚ) : PyFloat :=
  if |q| < limit then finite (nearest q) else if 0 < q then posInf else negInf

/-- `float(n)`; an integer beyond the range raises `OverflowError`. -/
def ofInt (n : ℤ) : Option PyFloat :=
  if |(n : ℚ)| < limit then some (finite (nearest n)) else none

/-- `n / count` of integers, where `count` is positive; a quotient beyond the range raises
`OverflowError`. -/
def ofQuotient (n : ℤ) (count : ℕ) : Option PyFloat :=
  if |(n : ℚ) / count| < limit then some (finite (nearest (n / count))) else none

/-- `x < y`. -/
def lt : PyFloat → PyFloat → Bool
  | finite x, finite y => x < y
  | finite _, posInf => true
  | negInf, finite _ => true
  | negInf, posInf => true
  | _, _ => false

/-- `x == y`: `nan` differs from itself. -/
def eq (x y : PyFloat) : Bool := x ≠ nan ∧ x = y

/-- `-x`. -/
def neg : PyFloat → PyFloat
  | finite x => finite (-x)
  | nan => nan
  | posInf => negInf
  | negInf => posInf

/-- `x + y`. -/
def add : PyFloat → PyFloat → PyFloat
  | finite x, finite y => ofExact (x + y)
  | nan, _ => nan
  | _, nan => nan
  | posInf, negInf => nan
  | negInf, posInf => nan
  | finite _, y => y
  | x, _ => x

/-- `x - y`. -/
def sub (x y : PyFloat) : PyFloat := add x (neg y)

/-- The infinity of a sign. -/
def infinityOf (negative : Bool) : PyFloat := if negative then negInf else posInf

/-- `x * y`. -/
def mul : PyFloat → PyFloat → PyFloat
  | finite x, finite y => ofExact (x * y)
  | nan, _ => nan
  | _, nan => nan
  | finite x, y => if x = 0 then nan else infinityOf ((x < 0) ≠ (y = negInf))
  | x, finite y => if y = 0 then nan else infinityOf ((y < 0) ≠ (x = negInf))
  | x, y => infinityOf ((x = negInf) ≠ (y = negInf))

/-- `x / y`, where `y` is not zero. -/
def div : PyFloat → PyFloat → PyFloat
  | finite x, finite y => ofExact (x / y)
  | nan, _ => nan
  | _, nan => nan
  | finite _, _ => finite 0
  | x, finite y => infinityOf ((y < 0) ≠ (x = negInf))
  | _, _ => nan

/-- `int(x)`: an infinity raises `OverflowError` and `nan` raises `ValueError`. -/
def toInt : PyFloat → Option ℤ
  | finite x => some (if x < 0 then ⌈x⌉ else ⌊x⌋)
  | _ => none

/-- `round(x)`, which raises as `int(x)` does. -/
def roundInt : PyFloat → Option ℤ
  | finite x => some (roundHalfEven x)
  | _ => none

/-- `round(x, 6)`.  A float that has no six decimals is its own rounding, so none is beyond the
range. -/
def round6 : PyFloat → PyFloat
  | finite x => finite (nearest (Round.round6 x))
  | x => x

/-- `f"{x:.3f}"`. -/
def fixed3 : PyFloat → String
  | finite x =>
    let n := (roundHalfEven (|x| * 1000)).toNat
    let decimals := toString (n % 1000)
    (if x < 0 then "-" else "") ++ toString (n / 1000) ++ "." ++
      String.ofList (List.replicate (3 - decimals.length) '0') ++ decimals
  | nan => "nan"
  | posInf => "inf"
  | negInf => "-inf"

/-- `f"{x:.2f}"`. -/
def fixed2 : PyFloat → String
  | finite x =>
    let n := (roundHalfEven (|x| * 100)).toNat
    let decimals := toString (n % 100)
    (if x < 0 then "-" else "") ++ toString (n / 100) ++ "." ++
      String.ofList (List.replicate (2 - decimals.length) '0') ++ decimals
  | nan => "nan"
  | posInf => "inf"
  | negInf => "-inf"

/-- A literal of the source. -/
def lit (q : ℚ) : PyFloat := finite (nearest q)

/-- `max(values)` of a list that starts with `x`. -/
def maximum (x : PyFloat) (values : List PyFloat) : PyFloat :=
  values.foldl (fun largest value => if lt largest value then value else largest) x

/-- `min(values)` of a list that starts with `x`. -/
def minimum (x : PyFloat) (values : List PyFloat) : PyFloat :=
  values.foldl (fun smallest value => if lt value smallest then value else smallest) x

/-- `isfinite(x)`. -/
def isFinite : PyFloat → Bool
  | finite _ => true
  | _ => false

theorem isFinite_iff {x : PyFloat} : x.isFinite = true ↔ ∃ q, x = finite q := by
  cases x <;> simp [isFinite]

/-- The rational of a finite float, and zero of the others. -/
def value : PyFloat → ℚ
  | finite q => q
  | _ => 0

/-- A finite float that is not negative. -/
def IsNumber (x : PyFloat) : Prop := ∃ q, 0 ≤ q ∧ x = finite q

theorem IsNumber.value_nonneg {x : PyFloat} (h : x.IsNumber) : 0 ≤ x.value := by
  obtain ⟨q, hq, rfl⟩ := h
  exact hq

theorem IsNumber.finite_value {x : PyFloat} (h : x.IsNumber) : finite x.value = x := by
  obtain ⟨q, _, rfl⟩ := h
  rfl

/-- A list is folded to one of its values by a choice between two. -/
theorem foldl_choice_mem {choose : PyFloat → PyFloat → PyFloat}
    (h : ∀ x y, choose x y = x ∨ choose x y = y) (x : PyFloat) (values : List PyFloat) :
    values.foldl choose x ∈ x :: values := by
  induction values generalizing x with
  | nil => exact List.mem_singleton.2 rfl
  | cons v values ih =>
      rw [List.foldl_cons]
      rcases List.mem_cons.1 (ih (choose x v)) with hx | hx
      · rw [hx]
        rcases h x v with hxv | hxv
        · rw [hxv]
          exact List.mem_cons_self
        · rw [hxv]
          exact List.mem_cons_of_mem _ List.mem_cons_self
      · exact List.mem_cons_of_mem _ (List.mem_cons_of_mem _ hx)

/-- The largest value is one of them. -/
theorem maximum_mem (x : PyFloat) (values : List PyFloat) : maximum x values ∈ x :: values := by
  refine foldl_choice_mem (fun x y => ?_) x values
  split
  · exact .inr rfl
  · exact .inl rfl

/-- The smallest value is one of them. -/
theorem minimum_mem (x : PyFloat) (values : List PyFloat) : minimum x values ∈ x :: values := by
  refine foldl_choice_mem (fun x y => ?_) x values
  split
  · exact .inr rfl
  · exact .inl rfl

theorem ofQuotient_eq_some {n : ℤ} {count : ℕ} {x : PyFloat} :
    ofQuotient n count = some x ↔
      |(n : ℚ) / count| < limit ∧ x = finite (nearest (n / count)) := by
  unfold ofQuotient
  split_ifs with h
  · simp [h, eq_comm]
  · simp [h]

/-- `0 ≤ x`. -/
def Nonneg : PyFloat → Prop
  | finite x => 0 ≤ x
  | posInf => True
  | _ => False

theorem nonneg_ofExact {q : ℚ} (h : 0 ≤ q) : Nonneg (ofExact q) := by
  unfold ofExact
  split_ifs with hlimit hpos
  · exact nearest_nonneg h
  · trivial
  · obtain rfl : q = 0 := le_antisymm (not_lt.1 hpos) h
    rw [abs_zero] at hlimit
    exact absurd (mul_pos (by norm_num) (two_zpow_pos 970)) hlimit

theorem Nonneg.add {x y : PyFloat} (hx : Nonneg x) (hy : Nonneg y) : Nonneg (add x y) := by
  rcases x with x | - | - | - <;> rcases y with y | - | - | - <;>
    first | exact hx.elim | exact hy.elim | trivial | exact nonneg_ofExact (add_nonneg hx hy)

theorem Nonneg.div_count {x : PyFloat} (hx : Nonneg x) (count : ℕ) :
    Nonneg (div x (finite count)) := by
  rcases x with x | - | - | -
  · exact nonneg_ofExact (div_nonneg hx (Nat.cast_nonneg count))
  · exact hx.elim
  · have hcount : ¬(count : ℚ) < 0 := not_lt.2 (Nat.cast_nonneg count)
    simp [div, infinityOf, Nonneg, hcount]
  · exact hx.elim

theorem Nonneg.mul_pos {x : PyFloat} (hx : Nonneg x) {c : ℚ} (hc : 0 < c) :
    Nonneg (mul x (finite c)) := by
  rcases x with x | - | - | -
  · exact nonneg_ofExact (mul_nonneg hx hc.le)
  · exact hx.elim
  · simp [mul, infinityOf, Nonneg, hc.ne', hc.le]
  · exact hx.elim

theorem Nonneg.div_pos {x : PyFloat} (hx : Nonneg x) {c : ℚ} (hc : 0 < c) :
    Nonneg (div x (finite c)) := by
  rcases x with x | - | - | -
  · exact nonneg_ofExact (div_nonneg hx hc.le)
  · exact hx.elim
  · simp [div, infinityOf, Nonneg, hc.le]
  · exact hx.elim

theorem Nonneg.ne_nan {x : PyFloat} (hx : Nonneg x) : x ≠ nan := by
  rintro rfl
  exact hx

theorem Nonneg.round6 {x : PyFloat} (hx : Nonneg x) : Nonneg (round6 x) := by
  rcases x with x | - | - | -
  · exact nearest_nonneg (Round.round6_nonneg hx)
  · exact hx.elim
  · trivial
  · exact hx.elim

/-- A quotient of integers that are not negative. -/
theorem nonneg_ofQuotient {n : ℤ} {count : ℕ} {x : PyFloat} (hn : 0 ≤ n)
    (h : ofQuotient n count = some x) : Nonneg x := by
  obtain ⟨-, rfl⟩ := ofQuotient_eq_some.1 h
  have hn' : (0 : ℚ) ≤ n := by exact_mod_cast hn
  exact nearest_nonneg (div_nonneg hn' (Nat.cast_nonneg count))

theorem ofInt_eq_some {n : ℤ} {x : PyFloat} :
    ofInt n = some x ↔ |(n : ℚ)| < limit ∧ x = finite (nearest n) := by
  unfold ofInt
  split_ifs with h
  · simp [h, eq_comm]
  · simp [h]

theorem nonneg_ofInt {n : ℤ} {x : PyFloat} (hn : 0 ≤ n) (h : ofInt n = some x) : Nonneg x := by
  obtain ⟨-, rfl⟩ := ofInt_eq_some.1 h
  exact nearest_nonneg (by exact_mod_cast hn)

/-- Not a negative number: a number from zero on, or `nan`. -/
def NotNeg : PyFloat → Prop
  | finite x => 0 ≤ x
  | negInf => False
  | _ => True

theorem Nonneg.notNeg {x : PyFloat} (hx : Nonneg x) : NotNeg x := by
  rcases x with x | - | - | -
  · exact hx
  · trivial
  · trivial
  · exact hx.elim

theorem isNumber_iff {x : PyFloat} : x.IsNumber ↔ NotNeg x ∧ x.isFinite = true := by
  rcases x with x | - | - | - <;> simp [IsNumber, NotNeg, isFinite]

theorem NotNeg.add {x y : PyFloat} (hx : NotNeg x) (hy : NotNeg y) : NotNeg (add x y) := by
  rcases x with x | - | - | - <;> rcases y with y | - | - | - <;>
    first
      | exact hx.elim
      | exact hy.elim
      | trivial
      | exact (nonneg_ofExact (add_nonneg hx hy)).notNeg

theorem NotNeg.mul {x y : PyFloat} (hx : NotNeg x) (hy : NotNeg y) : NotNeg (mul x y) := by
  rcases x with x | - | - | - <;> rcases y with y | - | - | -
  · exact (nonneg_ofExact (mul_nonneg hx hy)).notNeg
  · trivial
  · have hneg : ¬x < 0 := not_lt.2 hx
    by_cases hzero : x = 0 <;> simp [PyFloat.mul, infinityOf, NotNeg, hzero, hneg]
  · exact hy.elim
  · trivial
  · trivial
  · trivial
  · exact hy.elim
  · have hneg : ¬y < 0 := not_lt.2 hy
    by_cases hzero : y = 0 <;> simp [PyFloat.mul, infinityOf, NotNeg, hzero, hneg]
  · trivial
  · trivial
  · exact hy.elim
  all_goals exact hx.elim

theorem NotNeg.div {x y : PyFloat} (hx : NotNeg x) (hy : NotNeg y) : NotNeg (div x y) := by
  rcases x with x | - | - | - <;> rcases y with y | - | - | -
  · exact (nonneg_ofExact (div_nonneg hx hy)).notNeg
  · trivial
  · exact le_refl (0 : ℚ)
  · exact hy.elim
  · trivial
  · trivial
  · trivial
  · exact hy.elim
  · have hneg : ¬y < 0 := not_lt.2 hy
    simp [PyFloat.div, infinityOf, NotNeg, hneg]
  · trivial
  · trivial
  · exact hy.elim
  all_goals exact hx.elim

theorem NotNeg.round6 {x : PyFloat} (hx : NotNeg x) : NotNeg (round6 x) := by
  rcases x with x | - | - | -
  · exact nearest_nonneg (Round.round6_nonneg hx)
  · trivial
  · trivial
  · exact hx.elim

/-- Of two numbers, one of which is not above the other, the difference is not negative. -/
theorem notNeg_sub {x y : PyFloat} (hx : Nonneg x) (hy : Nonneg y) (h : lt x y = false) :
    NotNeg (sub x y) := by
  rcases x with x | - | - | - <;> rcases y with y | - | - | - <;>
    first | exact hx.elim | exact hy.elim | trivial | skip
  have hle : y ≤ x := by simpa [lt] using h
  exact (nonneg_ofExact (by linarith)).notNeg

/-- A float as an element of an ordered set, but for `nan`. -/
def extended : PyFloat → WithBot (WithTop ℚ)
  | finite x => ((x : WithTop ℚ) : WithBot (WithTop ℚ))
  | posInf => ((⊤ : WithTop ℚ) : WithBot (WithTop ℚ))
  | _ => ⊥

theorem lt_iff_extended {x y : PyFloat} (hx : x ≠ nan) (hy : y ≠ nan) :
    lt x y = true ↔ extended x < extended y := by
  cases x <;> cases y <;> simp [lt, extended] at hx hy ⊢
  exact WithBot.coe_lt_coe.2 (WithTop.coe_lt_top _)

theorem eq_iff_extended {x y : PyFloat} (hx : x ≠ nan) (hy : y ≠ nan) :
    eq x y = true ↔ extended x = extended y := by
  cases x <;> cases y <;> simp [eq, extended] at hx hy ⊢

/-- Of two floats that are not `nan`, one is below the other or they are equal. -/
theorem lt_or_eq_or_lt {x y : PyFloat} (hx : x ≠ nan) (hy : y ≠ nan) :
    lt x y = true ∨ eq x y = true ∨ lt y x = true := by
  rw [lt_iff_extended hx hy, eq_iff_extended hx hy, lt_iff_extended hy hx]
  exact lt_trichotomy (extended x) (extended y)

theorem lt_asymm {x y : PyFloat} (h : lt x y = true) : lt y x = false := by
  cases x <;> cases y <;> simp [lt] at h ⊢
  exact h.le

theorem eq_iff {x y : PyFloat} : eq x y = true ↔ x ≠ nan ∧ x = y := decide_eq_true_iff

/-- `x >= y`. -/
def ge (x y : PyFloat) : Bool := lt y x || eq y x

theorem ge_iff_extended {x y : PyFloat} (hx : x ≠ nan) (hy : y ≠ nan) :
    ge x y = true ↔ extended y ≤ extended x := by
  rw [ge, Bool.or_eq_true, lt_iff_extended hy hx, eq_iff_extended hy hx, le_iff_lt_or_eq]

/-- `nan` is at least nothing, and nothing is at least `nan`. -/
theorem ne_nan_of_ge {x y : PyFloat} (h : ge x y = true) : x ≠ nan ∧ y ≠ nan := by
  cases x <;> cases y <;> simp [ge, lt, eq] at h ⊢

theorem ge_of_not_lt {x y : PyFloat} (hx : x ≠ nan) (hy : y ≠ nan) (h : lt x y = false) :
    ge x y = true := by
  rw [ge_iff_extended hx hy, ← not_lt, ← lt_iff_extended hx hy, h]
  exact Bool.false_ne_true

theorem ge_self {x : PyFloat} (h : x ≠ nan) : ge x x = true := (ge_iff_extended h h).2 le_rfl

theorem not_nan_ge (x : PyFloat) : ¬ge nan x = true := fun h => (ne_nan_of_ge h).1 rfl

theorem not_ge_nan (x : PyFloat) : ¬ge x nan = true := fun h => (ne_nan_of_ge h).2 rfl

theorem ge_trans {x y z : PyFloat} (hxy : ge x y = true) (hyz : ge y z = true) :
    ge x z = true := by
  obtain ⟨hx, hy⟩ := ne_nan_of_ge hxy
  have hz := (ne_nan_of_ge hyz).2
  rw [ge_iff_extended hx hy] at hxy
  rw [ge_iff_extended hy hz] at hyz
  rw [ge_iff_extended hx hz]
  exact hyz.trans hxy

theorem eq_comm (x y : PyFloat) : eq x y = eq y x := by cases x <;> cases y <;> simp [eq, Eq.comm]

/-- `(x, …) < (y, …)` of tuples: they are compared by `rest` where `x == y`. -/
def ltThen (x y : PyFloat) (rest : Bool) : Bool := if eq x y then rest else lt x y

theorem ltThen_iff {x y : PyFloat} (hx : x ≠ nan) (hy : y ≠ nan) {rest : Bool} :
    ltThen x y rest = true ↔
      extended x < extended y ∨ (extended x = extended y ∧ rest = true) := by
  unfold ltThen
  split_ifs with heq
  · rw [eq_iff_extended hx hy] at heq
    simp [heq]
  · rw [eq_iff_extended hx hy] at heq
    simp [heq, lt_iff_extended hx hy]

@[simp] theorem lt_self (x : PyFloat) : lt x x = false := by cases x <;> simp [lt]

/-- `nan` is not compared. -/
theorem lt_nan (x : PyFloat) : lt x nan = false ∧ lt nan x = false := by
  cases x <;> exact ⟨rfl, rfl⟩

/-- A number from zero on, `nan` excluded. -/
theorem NotNeg.nonneg {x : PyFloat} (hx : NotNeg x) (hnan : x ≠ nan) : Nonneg x := by
  rcases x with x | - | - | -
  · exact hx
  · exact absurd rfl hnan
  · trivial
  · exact hx.elim

theorem Nonneg.maximum {x : PyFloat} {values : List PyFloat} (h : ∀ v ∈ x :: values, Nonneg v) :
    Nonneg (maximum x values) :=
  h _ (maximum_mem x values)

theorem ofExact_ne_nan (q : ℚ) : ofExact q ≠ nan := by
  unfold ofExact
  split_ifs <;> simp

theorem NotNeg.maximum {x : PyFloat} {values : List PyFloat} (h : ∀ v ∈ x :: values, NotNeg v) :
    NotNeg (maximum x values) :=
  h _ (maximum_mem x values)

theorem NotNeg.minimum {x : PyFloat} {values : List PyFloat} (h : ∀ v ∈ x :: values, NotNeg v) :
    NotNeg (minimum x values) :=
  h _ (minimum_mem x values)

/-- The largest of some numbers is not below the first. -/
theorem extended_le_maximum {x : PyFloat} {values : List PyFloat} (h : ∀ v ∈ x :: values, v ≠ nan) :
    extended x ≤ extended (maximum x values) := by
  induction values generalizing x with
  | nil => exact le_rfl
  | cons v values ih =>
      obtain ⟨hx, hvalues⟩ := List.forall_mem_cons.1 h
      obtain ⟨hv, hvalues⟩ := List.forall_mem_cons.1 hvalues
      show _ ≤ extended (maximum (if lt x v then v else x) values)
      split_ifs with hlt
      · exact ((lt_iff_extended hx hv).1 hlt).le.trans (ih (List.forall_mem_cons.2 ⟨hv, hvalues⟩))
      · exact ih (List.forall_mem_cons.2 ⟨hx, hvalues⟩)

/-- The smallest of some numbers is not above the first. -/
theorem extended_minimum_le {x : PyFloat} {values : List PyFloat} (h : ∀ v ∈ x :: values, v ≠ nan) :
    extended (minimum x values) ≤ extended x := by
  induction values generalizing x with
  | nil => exact le_rfl
  | cons v values ih =>
      obtain ⟨hx, hvalues⟩ := List.forall_mem_cons.1 h
      obtain ⟨hv, hvalues⟩ := List.forall_mem_cons.1 hvalues
      show extended (minimum (if lt v x then v else x) values) ≤ _
      split_ifs with hlt
      · exact (ih (List.forall_mem_cons.2 ⟨hv, hvalues⟩)).trans ((lt_iff_extended hv hx).1 hlt).le
      · exact ih (List.forall_mem_cons.2 ⟨hx, hvalues⟩)

/-- **The largest number is not below the smallest.** -/
theorem lt_maximum_minimum {x : PyFloat} {values : List PyFloat} (h : ∀ v ∈ x :: values, v ≠ nan) :
    lt (maximum x values) (minimum x values) = false := by
  by_contra hlt
  rw [Bool.not_eq_false,
    lt_iff_extended (h _ (maximum_mem x values)) (h _ (minimum_mem x values))] at hlt
  exact absurd hlt (not_lt.2 ((extended_minimum_le h).trans (extended_le_maximum h)))

/-- What is not negative is cut off at one to a number. -/
theorem Nonneg.minimum_one {x : PyFloat} (hx : Nonneg x) :
    ∃ q, minimum x [finite 1] = finite q ∧ 0 ≤ q ∧ q ≤ 1 := by
  rcases x with x | - | - | -
  · by_cases hlt : 1 < x
    · exact ⟨1, by simp [minimum, lt, hlt], zero_le_one, le_rfl⟩
    · exact ⟨x, by simp [minimum, lt, hlt], hx, not_lt.1 hlt⟩
  · exact hx.elim
  · exact ⟨1, rfl, zero_le_one, le_rfl⟩
  · exact hx.elim

/-- The product of two numbers that are not negative. -/
theorem nonneg_mul_finite {x y : ℚ} (hx : 0 ≤ x) (hy : 0 ≤ y) : Nonneg (mul (finite x) (finite y)) :=
  nonneg_ofExact (mul_nonneg hx hy)

/-- The largest float is an integer. -/
theorem largest_eq_intCast : ((((2 ^ 53 - 1) * 2 ^ 971 : ℕ) : ℤ) : ℚ) = largest := by
  have hpow : ((2 ^ 971 : ℕ) : ℚ) = 2 ^ (971 : ℤ) := by
    rw [Nat.cast_pow, Nat.cast_ofNat]
    rfl
  rw [Int.cast_natCast, Nat.cast_mul, hpow, largest]
  norm_num

/-- An integer up to the largest float has a float. -/
theorem exists_ofInt {n m : ℤ} (hm : |(m : ℚ)| ≤ largest) (h : |n| ≤ |m|) :
    ∃ x, ofInt n = some x := by
  have hn : |(n : ℚ)| < limit := by
    have hcast : |(n : ℚ)| ≤ |(m : ℚ)| := by exact_mod_cast h
    exact (hcast.trans hm).trans_lt largest_lt_limit
  exact ⟨_, if_pos hn⟩

/-- **A float that an operation returns is rounded to an integer that has a float.** -/
theorem abs_roundHalfEven_nearest_le {q : ℚ} (h : |q| < limit) :
    |(roundHalfEven (nearest q) : ℚ)| ≤ largest := by
  have hle := abs_nearest_le h
  rw [← largest_eq_intCast] at hle ⊢
  have hhalf : |nearest q| < ((((2 ^ 53 - 1) * 2 ^ 971 : ℕ) : ℤ) : ℚ) + 1 / 2 :=
    hle.trans_lt (lt_add_of_pos_right _ one_half_pos)
  have hround := abs_roundHalfEven_le hhalf
  exact_mod_cast hround

end PyFloat
end AiopsK8s
