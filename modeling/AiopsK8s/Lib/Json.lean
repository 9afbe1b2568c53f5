/-
# Dynamically typed values

`Json` is what `json.load` returns: a text, a number, a truth value, `None`, a
list or a string-keyed mapping.  Integers are unbounded; a finite float is the
rational it denotes, and the three non-finite floats are kept apart because
`json.load` accepts them.

A mapping is the list of its entries; `get` reads a key as `dict.get` does, and
`ofFields` writes the mapping a `to_dict` method builds.
-/

import Mathlib.Algebra.Order.Ring.Rat
import AiopsK8s.Lib.Text

namespace AiopsK8s

/-- A Python `float`: the rational a finite one denotes, or a non-finite one. -/
inductive PyFloat where
  | finite (q : ℚ)
  | nan
  | posInf
  | negInf
  deriving DecidableEq, Repr

/-- A value `json.load` returns. -/
inductive Json where
  | null
  | bool (b : Bool)
  | int (i : ℤ)
  | float (x : PyFloat)
  | str (s : String)
  | arr (items : List Json)
  | obj (fields : List (String × Json))
  deriving Repr

namespace Json

/-- `bool(value)`. -/
def truthy : Json → Bool
  | null => false
  | bool b => b
  | int i => i != 0
  | float x => x != .finite 0
  | str s => s != ""
  | arr items => !items.isEmpty
  | obj fields => !fields.isEmpty

/-- `mapping.get(key)`, with the default `None`. -/
def get (fields : List (String × Json)) (key : String) : Json :=
  (fields.lookup key).getD null

/-- `mapping.get(key, default)`. -/
def getD (fields : List (String × Json)) (key : String) (default : Json) : Json :=
  (fields.lookup key).getD default

/-- `mapping[key] = value`: the place of a key does not change. -/
def set : List (String × Json) → String → Json → List (String × Json)
  | [], key, value => [(key, value)]
  | (k, v) :: fields, key, value =>
    if k = key then (key, value) :: fields else (k, v) :: set fields key value

/-- `mapping.update(entries)`. -/
def update (fields entries : List (String × Json)) : List (String × Json) :=
  entries.foldl (fun fields entry => set fields entry.1 entry.2) fields

/-- `key in mapping`. -/
def hasKey (fields : List (String × Json)) (key : String) : Bool := (fields.lookup key).isSome

/-- `str(value)` of an integer of more than 4300 digits raises `ValueError`. -/
@[irreducible] def isLongInteger (i : ℤ) : Bool := decide (10 ^ 4300 ≤ i.natAbs)

mutual

/-- An integer in the value is too long for `str`. -/
def hasLongInteger : Json → Bool
  | int i => isLongInteger i
  | arr items => hasLongItem items
  | obj fields => hasLongField fields
  | _ => false

def hasLongItem : List Json → Bool
  | [] => false
  | item :: items => hasLongInteger item || hasLongItem items

def hasLongField : List (String × Json) → Bool
  | [] => false
  | (_, value) :: fields => hasLongInteger value || hasLongField fields

end

/-- A finite `float`. -/
def number (q : ℚ) : Json := float (.finite q)

/-- `None`, or a value. -/
def ofOption {α : Type} (f : α → Json) : Option α → Json
  | none => null
  | some a => f a

/-- A list of values. -/
def ofList {α : Type} (f : α → Json) (l : List α) : Json := arr (l.map f)

/-- A list of texts. -/
def texts (l : List String) : Json := ofList str l

@[simp] theorem get_cons_self (k : String) (v : Json) (fs : List (String × Json)) :
    get ((k, v) :: fs) k = v := by
  simp [get]

theorem get_cons_ne {k k' : String} (h : k' ≠ k) (v : Json) (fs : List (String × Json)) :
    get ((k, v) :: fs) k' = get fs k' := by
  have hb : (k' == k) = false := by simpa using h
  simp [get, List.lookup_cons, hb]

@[simp] theorem getD_cons_self (k : String) (v d : Json) (fs : List (String × Json)) :
    getD ((k, v) :: fs) k d = v := by
  simp [getD]

theorem getD_cons_ne {k k' : String} (h : k' ≠ k) (v d : Json) (fs : List (String × Json)) :
    getD ((k, v) :: fs) k' d = getD fs k' d := by
  have hb : (k' == k) = false := by simpa using h
  simp [getD, List.lookup_cons, hb]

@[simp] theorem lookup_set_self (fs : List (String × Json)) (k : String) (v : Json) :
    (set fs k v).lookup k = some v := by
  induction fs with
  | nil => simp [set]
  | cons f fs ih =>
      obtain ⟨a, b⟩ := f
      by_cases ha : a = k
      · simp [set, ha]
      · have hne : (k == a) = false := by simpa using fun h => ha h.symm
        simp only [set, ha, if_false, List.lookup_cons, hne]
        exact ih

theorem lookup_set_ne {k k' : String} (hne : k' ≠ k) (fs : List (String × Json)) (v : Json) :
    (set fs k v).lookup k' = fs.lookup k' := by
  have hb : (k' == k) = false := by simpa using hne
  induction fs with
  | nil => simp [set, List.lookup_cons, hb]
  | cons f fs ih =>
      obtain ⟨a, b⟩ := f
      by_cases ha : a = k
      · simp [set, ha, List.lookup_cons, hb]
      · simp [set, ha, List.lookup_cons, ih]

@[simp] theorem get_set_self (fs : List (String × Json)) (k : String) (v : Json) :
    get (set fs k v) k = v := by
  simp [get]

theorem get_set_ne {k k' : String} (hne : k' ≠ k) (fs : List (String × Json)) (v : Json) :
    get (set fs k v) k' = get fs k' := by
  simp [get, lookup_set_ne hne]

/-- An update leaves the keys it does not mention. -/
theorem lookup_update_ne {k : String} {entries : List (String × Json)}
    (h : ∀ e ∈ entries, k ≠ e.1) (fs : List (String × Json)) :
    (update fs entries).lookup k = fs.lookup k := by
  unfold update
  induction entries generalizing fs with
  | nil => rfl
  | cons e entries ih =>
      rw [List.foldl_cons, ih fun e' he' => h e' (List.mem_cons_of_mem _ he'),
        lookup_set_ne (h e List.mem_cons_self)]

theorem set_of_notMem {fs : List (String × Json)} {k : String} (h : k ∉ fs.map Prod.fst) (v : Json) :
    set fs k v = fs ++ [(k, v)] := by
  induction fs with
  | nil => rfl
  | cons f fs ih =>
      obtain ⟨a, b⟩ := f
      simp only [List.map_cons, List.mem_cons, not_or] at h
      rw [set, if_neg fun ha => h.1 ha.symm, ih h.2, List.cons_append]

/-- A mapping of new keys is added as it is. -/
theorem update_of_nodup {fs entries : List (String × Json)}
    (h : ((fs ++ entries).map Prod.fst).Nodup) : update fs entries = fs ++ entries := by
  unfold update
  induction entries generalizing fs with
  | nil => simp
  | cons e entries ih =>
      have hnew : e.1 ∉ fs.map Prod.fst := by
        rw [List.map_append, List.nodup_append] at h
        exact fun hmem => h.2.2 e.1 hmem e.1 (by simp) rfl
      rw [List.foldl_cons, set_of_notMem hnew, ih (by simpa using h)]
      simp

end Json
end AiopsK8s
