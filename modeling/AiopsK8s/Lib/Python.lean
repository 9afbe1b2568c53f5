/-
# The interpreter's own conversions

What Python's run time computes and this development only uses: `repr` of the
values that are not text, `float` of a text and the Unicode tables.  They are the
fields of `Python`; `str`, `float` and `str.casefold` are built on them and are
exact where the language alone decides.

A text of Python may hold half a surrogate pair, which is no character of a
`String`.  A private character stands for it: like it, it is no letter, digit,
space or quote.  Which one is left open, so what holds for every choice holds for
one that the texts at hand do not use.
-/

import AiopsK8s.Lib.Json

namespace AiopsK8s

/-- A character of the private use area. -/
def IsPrivateUse (c : Char) : Prop := 0xE000 ≤ c.toNat ∧ c.toNat ≤ 0xF8FF

theorem isPrivateUse_ofNat (n : ℕ) : IsPrivateUse (Char.ofNat (0xE000 + n % 0x800)) := by
  have hlt : n % 0x800 < 0x800 := Nat.mod_lt _ (by decide)
  have hvalid : (0xE000 + n % 0x800).isValidChar := by
    right
    omega
  have hnat : (Char.ofNat (0xE000 + n % 0x800)).toNat = 0xE000 + n % 0x800 := by
    rw [Char.ofNat, dif_pos hvalid]
    rfl
  rw [IsPrivateUse, hnat]
  omega

/-- A character of the private use area for each half of a surrogate pair. -/
def privateUse (n : ℕ) : {c : Char // IsPrivateUse c} := ⟨_, isPrivateUse_ofNat n⟩

/-- The conversions that the embedding takes from the interpreter. -/
structure Python where
  /-- `repr` of a float, a list or a mapping. -/
  repr : Json → String
  /-- `float(text)`, `none` for a `ValueError`. -/
  floatOfText : String → Option PyFloat
  /-- The case folding of a character outside ASCII. -/
  foldChar : Char → List Char
  /-- What stands for half a surrogate pair. -/
  surrogate : ℕ → {c : Char // IsPrivateUse c} := privateUse

namespace Python

/-- The conversions for documents of ASCII texts and integers: no other is asked for. -/
def ascii : Python where
  repr _ := ""
  floatOfText _ := none
  foldChar c := [c]

/-- `str(value)`. -/
def str (py : Python) : Json → String
  | .null => "None"
  | .bool b => if b then "True" else "False"
  | .int i => toString i
  | .str s => s
  | v => py.repr v

/-- `str.casefold`. -/
def casefold (py : Python) (s : String) : String :=
  String.ofList (s.toList.flatMap fun c => if c.toNat < 128 then [c.toLower] else py.foldChar c)

/-- `text.rstrip(" .")`. -/
def rstripDots (s : String) : String :=
  String.ofList (s.toList.rdropWhile fun c => c == ' ' || c == '.')

end Python
end AiopsK8s
