/-
# Decimal texts

`str.isdecimal` and `int` of a text of decimal digits.  The digits are those of Unicode's
category Nd, which are taken from the interpreter as `Decimals.digit`; `int` refuses a
text of more than 4300 digits.
-/

import Mathlib.Data.String.Basic
import Mathlib.Order.Basic

namespace AiopsK8s

/-- The value of each decimal digit. -/
structure Decimals where
  digit : Char → Option ℕ

namespace Decimals

/-- The digits of ASCII. -/
def ascii : Decimals := ⟨fun c => if c.isDigit then some (c.toNat - '0'.toNat) else none⟩

variable (d : Decimals)

/-- `text.isdecimal()`. -/
def isDecimal (text : String) : Bool :=
  !text.toList.isEmpty && text.toList.all fun c => (d.digit c).isSome

/-- The number that a text of digits denotes. -/
def value (text : String) : ℕ :=
  text.toList.foldl (fun n c => 10 * n + (d.digit c).getD 0) 0

/-- `int(text)` of a decimal text, `none` for a `ValueError`. -/
def toInt (text : String) : Option ℤ :=
  if 4300 < text.toList.length then none else some (d.value text)

example : ascii.isDecimal "12" = true ∧ ascii.toInt "12" = some 12 ∧ ascii.isDecimal "-1" = false := by
  decide

end Decimals

/-- The digits of Unicode, among them those of ASCII. -/
structure UnicodeDecimals extends Decimals where
  digit_ascii : ∀ c, c.isDigit = true → digit c = some (c.toNat - '0'.toNat)

namespace UnicodeDecimals

/-- The digits of ASCII and no others. -/
def ascii : UnicodeDecimals where
  toDecimals := .ascii
  digit_ascii _ h := if_pos h

variable (d : UnicodeDecimals)

theorem isDigit_of_mem_toString {n : ℕ} {c : Char} (h : c ∈ (toString n).toList) :
    c.isDigit = true := by
  refine Nat.isDigit_of_mem_toDigits (by decide) le_rfl (b := 10) (n := n) ?_
  rwa [Nat.toString_eq_ofList_toDigits, String.toList_ofList] at h

/-- The text of a number is decimal. -/
theorem isDecimal_toString (n : ℕ) : d.isDecimal (toString n) = true := by
  rw [Decimals.isDecimal, Bool.and_eq_true, List.all_eq_true]
  refine ⟨by simp, fun c hc => ?_⟩
  rw [d.digit_ascii c (isDigit_of_mem_toString hc)]
  rfl

/-- **A number is read back from its own text.** -/
theorem value_toString (n : ℕ) : d.value (toString n) = n := by
  have hfold : ∀ (l : List Char) (m : ℕ), (∀ c ∈ l, c.isDigit = true) →
      l.foldl (fun n c => 10 * n + (d.digit c).getD 0) m = Nat.ofDigitChars 10 l m := by
    intro l
    induction l with
    | nil => exact fun m _ => rfl
    | cons c l ih =>
        intro m h
        obtain ⟨hc, hl⟩ := List.forall_mem_cons.1 h
        rw [List.foldl_cons, d.digit_ascii c hc, Nat.ofDigitChars_cons]
        exact ih _ hl
  rw [Decimals.value, hfold _ _ fun c hc => isDigit_of_mem_toString hc,
    Nat.toString_eq_ofList_toDigits, String.toList_ofList]
  exact Nat.ofDigitChars_ten_toDigits

/-- `int(str(n))` of a number of at most 4300 digits. -/
theorem toInt_toString {n : ℕ} (h : n < 10 ^ 4300) : d.toInt (toString n) = some (n : ℤ) := by
  have hlength : (toString n).toList.length ≤ 4300 := by
    rw [Nat.toString_eq_ofList_toDigits, String.toList_ofList]
    exact (Nat.length_toDigits_le_iff (Nat.one_lt_succ_succ 8) (Nat.succ_pos 4299)).2 h
  rw [Decimals.toInt, if_neg (not_lt.2 hlength), value_toString]

end UnicodeDecimals
end AiopsK8s
