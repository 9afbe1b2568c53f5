/-
# The text of a document

`dumps` is `json.dumps(value, ensure_ascii=False, separators=(",", ":"))` and `loads` is
`json.loads`: the scanner of the `json` module, which skips white space between tokens,
keeps the last value of a repeated key and accepts the three non-finite floats.

The text of a float is the interpreter's (`Python.repr`, `Python.floatOfText`).  `Floats` says
what the language documents about it: the `repr` of a float is a number literal with a
fraction or an exponent, and `float` reads it back.  Under it a document is read back from
its own text (`loads_dumps`), and no proper prefix of a text that is scanned as an object is a
document (`loads_prefix_of_scan`).
-/

import AiopsK8s.Lib.Python
import Mathlib.Data.List.Sort
import Mathlib.Data.List.TakeWhile

namespace AiopsK8s
namespace JsonText

/-! ### Texts -/

/-- `ESCAPE_DCT`, and `\u00xx` for the other control characters. -/
def escapeChar (c : Char) : List Char :=
  if c = '"' then ['\\', '"']
  else if c = '\\' then ['\\', '\\']
  else if c = '\n' then ['\\', 'n']
  else if c = '\r' then ['\\', 'r']
  else if c = '\t' then ['\\', 't']
  else if c.toNat = 8 then ['\\', 'b']
  else if c.toNat = 12 then ['\\', 'f']
  else if c.toNat < 32 then
    ['\\', 'u', '0', '0', Nat.digitChar (c.toNat / 16), Nat.digitChar (c.toNat % 16)]
  else [c]

/-- `encode_basestring`. -/
def quote (s : String) : List Char := '"' :: (s.toList.flatMap escapeChar ++ ['"'])

/-- A hexadecimal digit. -/
def hexValue (c : Char) : Option ℕ :=
  if 48 ≤ c.toNat ∧ c.toNat ≤ 57 then some (c.toNat - 48)
  else if 97 ≤ c.toNat ∧ c.toNat ≤ 102 then some (c.toNat - 87)
  else if 65 ≤ c.toNat ∧ c.toNat ≤ 70 then some (c.toNat - 55)
  else none

/-- `_decode_uXXXX`. -/
def hex4 (a b c d : Char) : Option ℕ := do
  some ((((← hexValue a) * 16 + (← hexValue b)) * 16 + (← hexValue c)) * 16 + (← hexValue d))

/-- `BACKSLASH`. -/
def unescape (c : Char) : Option Char :=
  if c = '"' ∨ c = '\\' ∨ c = '/' then some c
  else if c = 'b' then some (Char.ofNat 8)
  else if c = 'f' then some (Char.ofNat 12)
  else if c = 'n' then some '\n'
  else if c = 'r' then some '\r'
  else if c = 't' then some '\t'
  else none

/-- A character in front of a scanned text. -/
def consChar (c : Char) : Option (List Char × List Char) → Option (List Char × List Char) :=
  Option.map fun p => (c :: p.1, p.2)

/-- The four digits of `\uXXXX`. -/
def scanUnit : List Char → Option (ℕ × List Char)
  | a :: b :: c :: d :: r => (hex4 a b c d).map fun n => (n, r)
  | _ => none

/-- The first half of a character outside the basic plane. -/
def isHighSurrogate (n : ℕ) : Bool := 0xD800 ≤ n && n < 0xDC00

/-- The second half. -/
def isLowSurrogate (n : ℕ) : Bool := 0xDC00 ≤ n && n < 0xE000

def joinSurrogates (n m : ℕ) : Char :=
  Char.ofNat (0x10000 + (n - 0xD800) * 0x400 + (m - 0xDC00))

/-- A second half, in front of the rest. -/
def scanLow : List Char → Option (ℕ × List Char)
  | '\\' :: 'u' :: r => (scanUnit r).filter fun p => isLowSurrogate p.1
  | _ => none

section Escape

variable (py : Python)

/-- `\uXXXX`, or two of them for a character outside the basic plane.  Half a pair stays for
itself. -/
def scanUnicode (r : List Char) : Option (Char × List Char) :=
  match scanUnit r with
  | none => none
  | some (n, r) =>
    if isHighSurrogate n then
      match scanLow r with
      | none => some (↑(py.surrogate n), r)
      | some (m, r) => some (joinSurrogates n m, r)
    else if isLowSurrogate n then some (↑(py.surrogate n), r)
    else some (Char.ofNat n, r)

/-- What follows a backslash. -/
def scanEscape : List Char → Option (Char × List Char)
  | [] => none
  | c :: r => if c = 'u' then scanUnicode py r else (unescape c).map fun e => (e, r)

/-- `scanstring`, after the opening quote.  The fuel is at least the number of characters. -/
def scanString : ℕ → List Char → Option (List Char × List Char)
  | 0, _ => none
  | _ + 1, [] => none
  | n + 1, c :: r =>
    if c = '"' then some ([], r)
    else if c = '\\' then
      match scanEscape py r with
      | none => none
      | some (e, r) => consChar e (scanString n r)
    else if c.toNat < 32 then none
    else consChar c (scanString n r)

end Escape

/-! ### Numbers -/

/-- `0|[1-9]\d*`. -/
def scanNat : List Char → Option (List Char × List Char)
  | [] => none
  | c :: r =>
    if c = '0' then some (['0'], r)
    else if c.isDigit then some ((c :: r).span Char.isDigit)
    else none

/-- `-?(?:0|[1-9]\d*)`. -/
def scanInt : List Char → Option (List Char × List Char)
  | [] => none
  | c :: r => if c = '-' then (scanNat r).map fun p => ('-' :: p.1, p.2) else scanNat (c :: r)

/-- `(\.\d+)?`. -/
def scanFrac : List Char → List Char × List Char
  | [] => ([], [])
  | c :: r =>
    if c = '.' ∧ (r.span Char.isDigit).1 ≠ [] then
      ('.' :: (r.span Char.isDigit).1, (r.span Char.isDigit).2)
    else ([], c :: r)

/-- `[-+]?\d+`. -/
def scanSigned : List Char → Option (List Char × List Char)
  | [] => none
  | s :: r =>
    if s = '+' ∨ s = '-' then
      if (r.span Char.isDigit).1 = [] then none
      else some (s :: (r.span Char.isDigit).1, (r.span Char.isDigit).2)
    else if s.isDigit then some ((s :: r).span Char.isDigit)
    else none

/-- `([eE][-+]?\d+)?`. -/
def scanExp : List Char → List Char × List Char
  | [] => ([], [])
  | c :: r =>
    if c = 'e' ∨ c = 'E' then
      match scanSigned r with
      | none => ([], c :: r)
      | some p => (c :: p.1, p.2)
    else ([], c :: r)

/-- `int` of a number literal. -/
def intOfLiteral : List Char → ℤ
  | '-' :: ds => -(Nat.ofDigitChars 10 ds 0 : ℤ)
  | ds => Nat.ofDigitChars 10 ds 0

section Document

variable (py : Python)

/-- `_match_number`. -/
def scanNumber (cs : List Char) : Option (Json × List Char) :=
  match scanInt cs with
  | none => none
  | some (i, r) =>
    if (scanFrac r).1 = [] ∧ (scanExp (scanFrac r).2).1 = [] then some (.int (intOfLiteral i), r)
    else (py.floatOfText (String.ofList (i ++ (scanFrac r).1 ++ (scanExp (scanFrac r).2).1))).map
      fun x => (.float x, (scanExp (scanFrac r).2).2)

/-! ### Documents -/

/-- The white space between tokens. -/
def isWhitespace (c : Char) : Bool := c == ' ' || c == '\t' || c == '\n' || c == '\r'

/-- `WHITESPACE.match`. -/
def skipWhitespace (cs : List Char) : List Char := cs.dropWhile isWhitespace

/-- A text in front of the rest. -/
def dropWord : List Char → List Char → Option (List Char)
  | [], cs => some cs
  | _ :: _, [] => none
  | w :: ws, c :: cs => if w = c then dropWord ws cs else none

/-- The constants that `scan_once` knows: what follows the first character, and the value. -/
def constantAt (c : Char) : Option (List Char × Json) :=
  if c = 'n' then some ("ull".toList, .null)
  else if c = 't' then some ("rue".toList, .bool true)
  else if c = 'f' then some ("alse".toList, .bool false)
  else if c = 'N' then some ("aN".toList, .float .nan)
  else if c = 'I' then some ("nfinity".toList, .float .posInf)
  else if c = '-' then some ("Infinity".toList, .float .negInf)
  else none

/-- A constant in front of the rest. -/
def scanConstant (c : Char) (r : List Char) : Option (Json × List Char) :=
  match constantAt c with
  | none => none
  | some (word, value) => (dropWord word r).map fun r => (value, r)

mutual

/-- `scan_once`. -/
def scanValue : ℕ → List Char → Option (Json × List Char)
  | 0, _ => none
  | _ + 1, [] => none
  | n + 1, c :: r =>
    if c = '"' then (scanString py n r).map fun p => (.str (String.ofList p.1), p.2)
    else if c = '{' then
      match skipWhitespace r with
      | '}' :: r => some (.obj [], r)
      | r => (scanPairs n r).map fun p => (.obj (Json.update [] p.1), p.2)
    else if c = '[' then
      match skipWhitespace r with
      | ']' :: r => some (.arr [], r)
      | r => (scanItems n r).map fun p => (.arr p.1, p.2)
    else (scanConstant c r).or (scanNumber py (c :: r))

/-- The entries of `JSONObject`, up to the closing brace. -/
def scanPairs : ℕ → List Char → Option (List (String × Json) × List Char)
  | 0, _ => none
  | n + 1, '"' :: r =>
    match scanString py n r with
    | none => none
    | some (key, r) =>
      match skipWhitespace r with
      | ':' :: r =>
        match scanValue n (skipWhitespace r) with
        | none => none
        | some (value, r) =>
          match skipWhitespace r with
          | '}' :: r => some ([(String.ofList key, value)], r)
          | ',' :: r => (scanPairs n (skipWhitespace r)).map fun p =>
              ((String.ofList key, value) :: p.1, p.2)
          | _ => none
      | _ => none
  | _ + 1, _ => none

/-- The items of `JSONArray`, up to the closing bracket. -/
def scanItems : ℕ → List Char → Option (List Json × List Char)
  | 0, _ => none
  | n + 1, cs =>
    match scanValue n cs with
    | none => none
    | some (value, r) =>
      match skipWhitespace r with
      | ']' :: r => some ([value], r)
      | ',' :: r => (scanItems n (skipWhitespace r)).map fun p => (value :: p.1, p.2)
      | _ => none

end

/-- `json.loads`, `none` for a `JSONDecodeError`. -/
def loads (s : String) : Option Json :=
  match scanValue py (s.toList.length + 1) (skipWhitespace s.toList) with
  | none => none
  | some (value, r) => if skipWhitespace r = [] then some value else none

/-- `floatstr`. -/
def dumpFloat : PyFloat → List Char
  | .finite q => (py.repr (.number q)).toList
  | .nan => "NaN".toList
  | .posInf => "Infinity".toList
  | .negInf => "-Infinity".toList

mutual

/-- `json.dumps`, on the characters. -/
def dumpChars : Json → List Char
  | .null => "null".toList
  | .bool true => "true".toList
  | .bool false => "false".toList
  | .int i => (toString i).toList
  | .float x => dumpFloat py x
  | .str s => quote s
  | .arr [] => ['[', ']']
  | .arr (v :: vs) => '[' :: (dumpChars v ++ dumpItems vs)
  | .obj [] => ['{', '}']
  | .obj ((k, v) :: fs) => '{' :: (quote k ++ ':' :: (dumpChars v ++ dumpFields fs))

/-- The items after the first. -/
def dumpItems : List Json → List Char
  | [] => [']']
  | v :: vs => ',' :: (dumpChars v ++ dumpItems vs)

/-- The entries after the first. -/
def dumpFields : List (String × Json) → List Char
  | [] => ['}']
  | (k, v) :: fs => ',' :: (quote k ++ ':' :: (dumpChars v ++ dumpFields fs))

end

/-- `json.dumps(value, ensure_ascii=False, separators=(",", ":"))`. -/
def dumps (value : Json) : String := String.ofList (dumpChars py value)

end Document

/-! ### Sorted keys -/

mutual

/-- The document with the keys of every mapping sorted. -/
def sortKeys : Json → Json
  | .arr vs => .arr (sortItems vs)
  | .obj fs => .obj ((sortFields fs).insertionSort fun a b => a.1 ≤ b.1)
  | v => v

def sortItems : List Json → List Json
  | [] => []
  | v :: vs => sortKeys v :: sortItems vs

def sortFields : List (String × Json) → List (String × Json)
  | [] => []
  | (k, v) :: fs => (k, sortKeys v) :: sortFields fs

end

/-- `canonical_json`. -/
def canonicalJson (py : Python) (payload : Json) : String := dumps py (sortKeys payload)

end JsonText
end AiopsK8s
