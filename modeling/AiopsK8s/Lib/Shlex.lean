/-
# Splitting a command line

`shlex.split`: a text is read character by character, outside a word, inside a word, inside
quotation marks or after a backslash.  A backslash escapes any character outside quotation marks,
inside double ones only the mark and the backslash, and inside single ones nothing; neither marks
nor escapes may be left open.  Nothing is a comment.

Words without a special character are read back from their line (`split_intercalate`).
-/

import Mathlib.Data.String.Basic
import Mathlib.Tactic.Common

namespace AiopsK8s
namespace Shlex

/-- `shlex.whitespace`. -/
def isWhitespace (c : Char) : Bool := c == ' ' || c == '\t' || c == '\r' || c == '\n'

/-- `shlex.quotes`. -/
def isQuote (c : Char) : Bool := c == '\'' || c == '"'

/-- `shlex.state`, with the token so far.  A word may have no characters: then it was quoted. -/
inductive LexState where
  | blank
  | word (token : List Char)
  | quoted (mark : Char) (token : List Char)
  | escaped (mark : Option Char) (token : List Char)

/-- What an escaped character adds: inside double quotation marks the backslash stays, unless it
escapes the mark or itself. -/
def escapedChars (mark : Option Char) (c : Char) : List Char :=
  match mark with
  | none => [c]
  | some mark => if c ≠ '\\' ∧ c ≠ mark then ['\\', c] else [c]

/-- The state after a character was escaped. -/
def afterEscape (mark : Option Char) (token : List Char) : LexState :=
  match mark with
  | none => .word token
  | some mark => .quoted mark token

/-- `read_token`, until the end of the text. -/
def scan : LexState → List Char → Except String (List String)
  | .blank, [] => .ok []
  | .blank, c :: rest =>
    if isWhitespace c then scan .blank rest
    else if c = '\\' then scan (.escaped none []) rest
    else if isQuote c then scan (.quoted c []) rest
    else scan (.word [c]) rest
  | .word token, [] => .ok [String.ofList token]
  | .word token, c :: rest =>
    if isWhitespace c then (String.ofList token :: ·) <$> scan .blank rest
    else if isQuote c then scan (.quoted c token) rest
    else if c = '\\' then scan (.escaped none token) rest
    else scan (.word (token ++ [c])) rest
  | .quoted _ _, [] => .error "No closing quotation"
  | .quoted mark token, c :: rest =>
    if c = mark then scan (.word token) rest
    else if c = '\\' ∧ mark = '"' then scan (.escaped (some mark) token) rest
    else scan (.quoted mark (token ++ [c])) rest
  | .escaped _ _, [] => .error "No escaped character"
  | .escaped mark token, c :: rest =>
    scan (afterEscape mark (token ++ escapedChars mark c)) rest

/-- `shlex.split(text)`. -/
def split (text : String) : Except String (List String) := scan .blank text.toList

/-! ### Words without special characters -/

/-- A character that is none of white space, quotation mark and backslash. -/
def IsPlain (c : Char) : Prop := isWhitespace c = false ∧ isQuote c = false ∧ c ≠ '\\'

instance decidableIsPlain (c : Char) : Decidable (IsPlain c) :=
  inferInstanceAs (Decidable (_ ∧ _))

/-- A word that a line holds as it is. -/
def IsWord (word : String) : Prop := word ≠ "" ∧ ∀ c ∈ word.toList, IsPlain c

instance decidableIsWord (word : String) : Decidable (IsWord word) :=
  @instDecidableAnd _ _ inferInstance (List.decidableBAll _ _)

theorem scan_word_append {token chars rest : List Char} (h : ∀ c ∈ chars, IsPlain c) :
    scan (.word token) (chars ++ rest) = scan (.word (token ++ chars)) rest := by
  induction chars generalizing token with
  | nil => rw [List.nil_append, List.append_nil]
  | cons c chars ih =>
      obtain ⟨⟨hspace, hquote, hescape⟩, hchars⟩ := List.forall_mem_cons.1 h
      rw [List.cons_append, scan, if_neg (Bool.eq_false_iff.1 hspace),
        if_neg (Bool.eq_false_iff.1 hquote), if_neg hescape, ih hchars, List.append_assoc]
      rfl

/-- A word at the beginning of a line. -/
theorem scan_blank_append {word : String} {rest : List Char} (h : IsWord word) :
    scan .blank (word.toList ++ rest) = scan (.word word.toList) rest := by
  obtain ⟨hne, hplain⟩ := h
  rcases hchars : word.toList with - | ⟨c, chars⟩
  · exact absurd (String.toList_eq_nil_iff.1 hchars) hne
  · rw [hchars] at hplain
    obtain ⟨⟨hspace, hquote, hescape⟩, hrest⟩ := List.forall_mem_cons.1 hplain
    rw [List.cons_append, scan, if_neg (Bool.eq_false_iff.1 hspace), if_neg hescape,
      if_neg (Bool.eq_false_iff.1 hquote), scan_word_append hrest]
    rfl

/-- **A line of words is split into its words.** -/
theorem split_intercalate {words : List String} (h : ∀ word ∈ words, IsWord word) :
    split (" ".intercalate words) = .ok words := by
  suffices hscan : scan .blank (" ".intercalate words).toList = .ok words from hscan
  induction words with
  | nil => rfl
  | cons word words ih =>
      obtain ⟨hword, hwords⟩ := List.forall_mem_cons.1 h
      rcases words with - | ⟨next, words⟩
      · have hchars : (" ".intercalate [word]).toList = word.toList ++ [] := by
          rw [List.append_nil]
          rfl
        rw [hchars, scan_blank_append hword, scan, String.ofList_toList]
      · have hchars : (" ".intercalate (word :: next :: words)).toList =
            word.toList ++ ' ' :: (" ".intercalate (next :: words)).toList := by
          simp
        have hspace : isWhitespace ' ' = true := rfl
        rw [hchars, scan_blank_append hword, scan, if_pos hspace, String.ofList_toList, ih hwords]
        rfl

end Shlex
end AiopsK8s
