/-
# Decoding documents

The planning code reads documents with a handful of helpers: `_mapping`,
`_sequence`, `_text`, `_float` and `_int`.  `partition_models` and
`partition_coordination` raise `invalid_contract` from them, `partition_context`
raises `invalid_system_snapshot`; a `Decoder` carries that code.  What a helper
accepts comes back with the property it checked, so a decoded value carries its own
well-formedness.

`float` of an integer that is too large raises `OverflowError`, and `str` of a value with
an integer of more than 4300 digits raises `ValueError`; no helper catches either.

`Runtime` adds to the interpreter's conversions the ones that the planning code
alone uses: the canonical JSON text of a document, SHA-256, `%g` and `int` of a text, and
`sum` of floats and `sorted`, which leave open what Python does.
-/

import AiopsK8s.Lib.Arithmetic
import AiopsK8s.Lib.Effect
import AiopsK8s.Lib.Python
import AiopsK8s.Lib.Sorting

namespace AiopsK8s
namespace Partition

open Effect

/-- The exceptions of the planning code. -/
inductive PartitionError where
  | contract (code message : String)
  | overflow
  | value
  | key
  | type
  deriving DecidableEq, Repr

/-- A lower-case SHA-256 digest in hexadecimal. -/
def IsHexDigest (s : String) : Prop :=
  s.toList.length = 64 ∧ ∀ c ∈ s.toList, c ∈ "0123456789abcdef".toList

theorem isHexDigest_of_all {s : String} (hlength : s.toList.length = 64)
    (hall : s.toList.all (· ∈ "0123456789abcdef".toList) = true) : IsHexDigest s :=
  ⟨hlength, fun c hc => of_decide_eq_true (List.all_eq_true.1 hall c hc)⟩

/-- The conversions and library functions that planning uses. -/
structure Runtime extends Python where
  /-- `canonical_json(payload)`. -/
  canonicalJson : Json → String
  /-- `hashlib.sha256(text.encode("utf-8")).hexdigest()`. -/
  sha256 : String → String
  sha256_hex : ∀ s, IsHexDigest (sha256 s)
  /-- `f"{value:g}"`. -/
  formatG : ℚ → String
  /-- `int(text)`, `none` for a `ValueError`. -/
  intOfText : String → Option ℤ
  /-- `repr` of a tuple. -/
  reprTuple : List Json → String
  /-- `sum` of floats. -/
  summation : Summation
  /-- `sorted`. -/
  sorter : Sorting.Sorter

namespace Runtime

/-- The digest of a document. -/
def digest (rt : Runtime) (payload : Json) : String := rt.sha256 (rt.canonicalJson payload)

end Runtime

/-- A digest is a proper text. -/
theorem IsHexDigest.proper {s : String} (h : IsHexDigest s) : Text.Proper s := by
  have hspace : ∀ c ∈ s.toList, Text.isSpace c = false := by
    intro c hc
    have hall : ∀ d ∈ "0123456789abcdef".toList, Text.isSpace d = false := by simp [Text.isSpace]
    exact hall c (h.2 c hc)
  have hfirst : s.toList.dropWhile Text.isSpace = s.toList := by
    rw [List.dropWhile_eq_self_iff]
    intro hlen
    simpa using hspace _ (List.getElem_mem hlen)
  have hlast : s.toList.rdropWhile Text.isSpace = s.toList := by
    rw [List.rdropWhile_eq_self_iff]
    intro hne
    simpa using hspace _ (List.getLast_mem hne)
  refine ⟨?_, ?_⟩
  · rw [Text.strip, Text.stripChars, hfirst, hlast, String.ofList_toList]
  · intro hs
    have hlen := h.1
    simp [hs] at hlen

/-- `float(value)`, `none` for a `TypeError` or a `ValueError`. -/
def pyFloat (py : Python) : Json → Except PartitionError (Option PyFloat)
  | .bool b => .ok (some (.finite (if b then 1 else 0)))
  | .int i =>
      match Json.floatOfInt i with
      | some q => .ok (some (.finite q))
      | none => .error .overflow
  | .float x => .ok (some x)
  | .str s => .ok (py.floatOfText s)
  | _ => .ok none

/-- `str(value or "")`. -/
def strOrEmpty (py : Python) (value : Json) : String :=
  if value.truthy then py.str value else ""

/-- `str(value or "").strip()`. -/
def strippedText (py : Python) (value : Json) : String := Text.strip (strOrEmpty py value)

theorem strippedText_str (py : Python) (s : String) : strippedText py (.str s) = Text.strip s := by
  rw [strippedText, strOrEmpty]
  by_cases hs : s = ""
  · rw [hs]
    rfl
  · rw [if_pos (by simpa [Json.truthy] using hs)]
    rfl

/-- A proper text is read back as it is. -/
theorem strippedText_proper {py : Python} {s : String} (h : Text.Proper s) :
    strippedText py (.str s) = s := by
  rw [strippedText_str]
  exact h.strip_eq

/-- `str(value or "").strip()`, which raises when `str` does. -/
def stripped (py : Python) (value : Json) :
    Except PartitionError {s : String // s ≠ "" → Text.Proper s} :=
  if value.hasLongInteger then .error .value
  else .ok ⟨strippedText py value, fun h => Text.proper_strip h⟩

theorem stripped_proper {py : Python} {s : String} (h : Text.Proper s) :
    stripped py (.str s) = .ok ⟨s, fun _ => h⟩ := by
  have hs : strippedText py (.str s) = s := strippedText_proper h
  have hlong : (Json.str s).hasLongInteger = false := rfl
  rw [stripped, hlong]
  simp only [hs]
  rfl

/-- `value is not True` raises. -/
def requireTrue (value : Json) (error : PartitionError) : Except PartitionError Unit :=
  match value with
  | .bool true => .ok ()
  | _ => .error error

/-- A least value and its text in messages. -/
structure Minimum where
  value : ℚ
  text : String

namespace Minimum

def zero : Minimum := ⟨0, "0.0"⟩

def millionth : Minimum := ⟨1 / 1000000, "1e-06"⟩

end Minimum

/-- The helpers of one module, with the code of its contract errors. -/
structure Decoder where
  code : String

/-- The helpers of `partition_models` and `partition_coordination`. -/
def contract : Decoder := ⟨"invalid_contract"⟩

/-- The helpers of `partition_context`. -/
def snapshot : Decoder := ⟨"invalid_system_snapshot"⟩

/-! What a decoded value satisfies, by name: the records of several modules carry these proofs. -/

theorem proper_val (s : {s : String // Text.Proper s}) : Text.Proper s.1 := s.2

theorem all_proper_val (l : {l : List String // ∀ s ∈ l, Text.Proper s}) :
    ∀ s ∈ l.1, Text.Proper s := l.2

theorem nonneg_val (i : {i : ℤ // 0 ≤ i}) : 0 ≤ i.1 := i.2

theorem one_le_val (i : {i : ℤ // 1 ≤ i}) : 1 ≤ i.1 := i.2

theorem nonneg_number (q : {q : ℚ // Minimum.zero.value ≤ q}) : 0 ≤ q.1 := q.2

theorem nodup_of_not {α : Type} {l : List α} (h : ¬¬l.Nodup) : l.Nodup := not_not.1 h

namespace Decoder

variable (d : Decoder) (py : Python)

/-- Raise a contract error. -/
def fail {α : Type} (message : String) : Except PartitionError α := .error (.contract d.code message)

/-- `_mapping`. -/
def mapping (value : Json) (field : String) : Except PartitionError (List (String × Json)) :=
  match value with
  | .obj fields => .ok fields
  | _ => d.fail s!"{field} must be an object"

/-- `_sequence`. -/
def sequence (value : Json) (field : String) : Except PartitionError (List Json) :=
  match value with
  | .arr items => .ok items
  | _ => d.fail s!"{field} must be an array"

/-- `_text`. -/
def text (value : Json) (field : String) : Except PartitionError {s : String // Text.Proper s} := do
  let s ← stripped py value
  if h : s.1 = "" then d.fail s!"{field} is required" else .ok ⟨s.1, s.2 h⟩

/-- `_float`. -/
def float (value : Json) (field : String) (minimum : Minimum) :
    Except PartitionError {q : ℚ // minimum.value ≤ q} :=
  match value with
  | .bool _ => d.fail s!"{field} must be numeric"
  | value => do
      match ← pyFloat py value with
      | none => d.fail s!"{field} must be numeric"
      | some (.finite q) =>
          if h : minimum.value ≤ q then .ok ⟨q, h⟩
          else d.fail s!"{field} must be at least {minimum.text}"
      | some _ => d.fail s!"{field} must be at least {minimum.text}"

/-- `partition_models._int`. -/
def int (value : Json) (field : String) (minimum : ℤ) :
    Except PartitionError {i : ℤ // minimum ≤ i} :=
  match value with
  | .int i =>
      if h : minimum ≤ i then .ok ⟨i, h⟩ else d.fail s!"{field} must be at least {minimum}"
  | _ => d.fail s!"{field} must be an integer"

/-- `partition_context._int`. -/
def intOfAtLeast (value : Json) (field : String) (minimum : ℤ) :
    Except PartitionError {i : ℤ // minimum ≤ i} :=
  match value with
  | .int i =>
      if h : minimum ≤ i then .ok ⟨i, h⟩
      else d.fail s!"{field} must be an integer of at least {minimum}"
  | _ => d.fail s!"{field} must be an integer of at least {minimum}"

variable {d py} {field : String}

@[simp] theorem mapping_obj (fields : List (String × Json)) :
    d.mapping (.obj fields) field = .ok fields := rfl

@[simp] theorem sequence_arr (items : List Json) : d.sequence (.arr items) field = .ok items := rfl

/-- A proper text is decoded to itself. -/
theorem text_proper {s : String} (h : Text.Proper s) : d.text py (.str s) field = .ok ⟨s, h⟩ := by
  simp only [text, stripped_proper h, bind, Except.bind, dif_neg h.ne_empty]

theorem float_number {m : Minimum} {q : ℚ} (h : m.value ≤ q) :
    d.float py (Json.number q) field m = .ok ⟨q, h⟩ := by
  simp only [float, Json.number, pyFloat, bind, Except.bind, dif_pos h]

theorem float_millionth {q : ℚ} (h : 1 / 1000000 ≤ q) :
    d.float py (Json.number q) field .millionth = .ok ⟨q, h⟩ :=
  float_number (m := .millionth) h

theorem float_zero {q : ℚ} (h : 0 ≤ q) : d.float py (Json.number q) field .zero = .ok ⟨q, h⟩ :=
  float_number (m := .zero) h

theorem float_isNumber {x : PyFloat} (h : x.IsNumber) :
    d.float py (.float x) field .zero = .ok ⟨x.value, h.value_nonneg⟩ := by
  obtain ⟨q, hq, rfl⟩ := h
  exact float_zero hq

theorem isNumber_of_float {x : PyFloat} {q : {q : ℚ // Minimum.zero.value ≤ q}}
    (h : d.float py (.float x) field .zero = .ok q) : x.IsNumber := by
  cases x with
  | finite x =>
      simp only [float, pyFloat, bind, Except.bind] at h
      split_ifs at h with hx
      · exact ⟨x, hx, rfl⟩
      · cases h
  | posInf => cases h
  | negInf => cases h
  | nan => cases h

theorem int_int {minimum i : ℤ} (h : minimum ≤ i) :
    d.int (.int i) field minimum = .ok ⟨i, h⟩ := by
  simp [int, h]

theorem intOfAtLeast_int {minimum i : ℤ} (h : minimum ≤ i) :
    d.intOfAtLeast (.int i) field minimum = .ok ⟨i, h⟩ := by
  simp [intOfAtLeast, h]

end Decoder

/-- The first value that occurred before, for `_require_unique`. -/
def firstDuplicate {α : Type} [DecidableEq α] : List α → List α → Option α
  | _, [] => none
  | seen, a :: l => if a ∈ seen then some a else firstDuplicate (a :: seen) l

/-- `partition_models._require_unique`. -/
def requireUnique {α : Type} [DecidableEq α] (shown : α → String) (values : List α) (code : String) :
    Except PartitionError Unit :=
  match firstDuplicate [] values with
  | some value => .error (.contract code s!"duplicate value: {shown value}")
  | none => .ok ()

theorem firstDuplicate_eq_none {α : Type} [DecidableEq α] {seen l : List α} :
    firstDuplicate seen l = none ↔ l.Nodup ∧ ∀ a ∈ l, a ∉ seen := by
  induction l generalizing seen with
  | nil => simp [firstDuplicate]
  | cons a l ih =>
      unfold firstDuplicate
      split_ifs with ha
      · simp [ha]
      · rw [ih]
        constructor
        · rintro ⟨hnodup, hnew⟩
          refine ⟨List.nodup_cons.2 ⟨fun hal => hnew a hal List.mem_cons_self, hnodup⟩, ?_⟩
          intro b hb
          rcases List.mem_cons.1 hb with rfl | hb
          · exact ha
          · exact fun hs => hnew b hb (List.mem_cons_of_mem _ hs)
        · rintro ⟨hnodup, hnew⟩
          obtain ⟨hal, hnodup⟩ := List.nodup_cons.1 hnodup
          refine ⟨hnodup, fun b hb hs => ?_⟩
          rcases List.mem_cons.1 hs with rfl | hs
          · exact hal hb
          · exact hnew b (List.mem_cons_of_mem _ hb) hs

@[simp] theorem requireUnique_eq_ok {α : Type} [DecidableEq α] {shown : α → String} {values : List α}
    {code : String} : requireUnique shown values code = .ok () ↔ values.Nodup := by
  have h : firstDuplicate [] values = none ↔ values.Nodup ∧ ∀ a ∈ values, a ∉ [] :=
    firstDuplicate_eq_none
  unfold requireUnique
  rcases hd : firstDuplicate [] values with _ | a
  · simpa using (h.1 hd).1
  · rw [hd] at h
    simpa using fun hn => absurd (h.2 ⟨hn, by simp⟩) (by simp)

end Partition
end AiopsK8s
