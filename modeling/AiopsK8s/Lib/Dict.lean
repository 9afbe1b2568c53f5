/-
# Dictionaries

A Python `dict` is the list of its items in insertion order: assigning to a key keeps its place,
so no key occurs twice (`nodup_keys_ofEntries`), and what a key was assigned last is what is read
(`lookup_update`).
-/

import Mathlib.Data.List.Nodup

namespace AiopsK8s
namespace Dict

variable {κ α : Type} [DecidableEq κ]

/-- `d[key] = value`. -/
def set : List (κ × α) → κ → α → List (κ × α)
  | [], key, value => [(key, value)]
  | (k, v) :: d, key, value => if k = key then (key, value) :: d else (k, v) :: set d key value

/-- `d.update(entries)`, and `d | entries`. -/
def update (d entries : List (κ × α)) : List (κ × α) :=
  entries.foldl (fun d entry => set d entry.1 entry.2) d

/-- `dict(entries)`. -/
def ofEntries (entries : List (κ × α)) : List (κ × α) := update [] entries

theorem lookup_cons (d : List (κ × α)) (key : κ) (value : α) (k : κ) :
    ((key, value) :: d).lookup k = if k = key then some value else d.lookup k := by
  by_cases hk : k = key
  · subst hk
    simp
  · have hb : (k == key) = false := by simpa using hk
    simp [List.lookup_cons, hb, hk]

theorem lookup_eq_none {d : List (κ × α)} {k : κ} : d.lookup k = none ↔ k ∉ d.map Prod.fst := by
  induction d with
  | nil => simp
  | cons item d ih =>
      obtain ⟨a, v⟩ := item
      rw [lookup_cons, List.map_cons, List.mem_cons, not_or, ← ih]
      by_cases hk : k = a <;> simp [hk]

/-- `{k: f(k) for k in keys}`. -/
theorem lookup_map_self (f : κ → α) (keys : List κ) (k : κ) :
    (keys.map fun key => (key, f key)).lookup k = if k ∈ keys then some (f k) else none := by
  induction keys with
  | nil => rfl
  | cons key keys ih =>
      rw [List.map_cons, lookup_cons, ih]
      by_cases hk : k = key <;> simp [hk]

theorem lookup_set (d : List (κ × α)) (key : κ) (value : α) (k : κ) :
    (set d key value).lookup k = if k = key then some value else d.lookup k := by
  induction d with
  | nil => rw [set, lookup_cons]
  | cons item d ih =>
      obtain ⟨a, v⟩ := item
      by_cases ha : a = key
      · subst ha
        rw [set, if_pos rfl, lookup_cons, lookup_cons]
        split_ifs <;> rfl
      · rw [set, if_neg ha, lookup_cons, lookup_cons, ih]
        by_cases hk : k = a
        · subst hk
          simp [ha]
        · simp [hk]

/-- **The last assignment of a key is what is read.** -/
theorem lookup_update (d entries : List (κ × α)) (k : κ) :
    (update d entries).lookup k = (entries.reverse.lookup k).or (d.lookup k) := by
  unfold update
  induction entries generalizing d with
  | nil => simp
  | cons entry entries ih =>
      obtain ⟨a, v⟩ := entry
      rw [List.foldl_cons, ih, lookup_set, List.reverse_cons, List.lookup_append, Option.or_assoc,
        lookup_cons]
      by_cases hk : k = a <;> simp [hk]

theorem lookup_ofEntries (entries : List (κ × α)) (k : κ) :
    (ofEntries entries).lookup k = entries.reverse.lookup k := by
  simp [ofEntries, lookup_update]

/-- A key that is assigned is read. -/
theorem exists_lookup_ofEntries {entries : List (κ × α)} {k : κ}
    (h : k ∈ entries.map Prod.fst) : ∃ v, (ofEntries entries).lookup k = some v := by
  rw [lookup_ofEntries, ← Option.ne_none_iff_exists', ne_eq, lookup_eq_none, not_not,
    List.map_reverse, List.mem_reverse]
  exact h

theorem mem_keys_set {d : List (κ × α)} {key k : κ} {value : α} :
    k ∈ (set d key value).map Prod.fst ↔ k = key ∨ k ∈ d.map Prod.fst := by
  induction d with
  | nil => simp [set]
  | cons item d ih =>
      obtain ⟨a, v⟩ := item
      by_cases ha : a = key
      · simp [set, ha]
      · rw [set, if_neg ha, List.map_cons, List.mem_cons, ih, List.map_cons, List.mem_cons]
        tauto

theorem nodup_keys_set {d : List (κ × α)} (h : (d.map Prod.fst).Nodup) (key : κ) (value : α) :
    ((set d key value).map Prod.fst).Nodup := by
  induction d with
  | nil => simp [set]
  | cons item d ih =>
      obtain ⟨a, v⟩ := item
      obtain ⟨ha, hd⟩ := List.nodup_cons.1 h
      by_cases hkey : a = key
      · subst hkey
        rw [set, if_pos rfl]
        exact List.nodup_cons.2 ⟨ha, hd⟩
      · rw [set, if_neg hkey]
        refine List.nodup_cons.2 ⟨fun hmem => ?_, ih hd⟩
        rcases mem_keys_set.1 hmem with h | h
        · exact hkey h
        · exact ha h

theorem nodup_keys_update {d : List (κ × α)} (h : (d.map Prod.fst).Nodup)
    (entries : List (κ × α)) : ((update d entries).map Prod.fst).Nodup := by
  unfold update
  induction entries generalizing d with
  | nil => exact h
  | cons entry entries ih =>
      rw [List.foldl_cons]
      exact ih (nodup_keys_set h entry.1 entry.2)

/-- **No key of a dictionary occurs twice.** -/
theorem nodup_keys_ofEntries (entries : List (κ × α)) :
    ((ofEntries entries).map Prod.fst).Nodup :=
  nodup_keys_update (d := []) List.nodup_nil entries

/-- An item of a dictionary is what its key reads. -/
theorem mem_iff_lookup {d : List (κ × α)} (h : (d.map Prod.fst).Nodup) {k : κ} {v : α} :
    (k, v) ∈ d ↔ d.lookup k = some v := by
  induction d with
  | nil => simp
  | cons item d ih =>
      obtain ⟨a, w⟩ := item
      obtain ⟨ha, hd⟩ := List.nodup_cons.1 h
      rw [lookup_cons]
      by_cases hk : k = a
      · subst hk
        have hnot : (k, v) ∉ d := fun hmem => ha (List.mem_map.2 ⟨_, hmem, rfl⟩)
        simp [hnot, eq_comm]
      · rw [if_neg hk, List.mem_cons, ← ih hd]
        simp [hk]

theorem set_of_notMem {d : List (κ × α)} {key : κ} (h : key ∉ d.map Prod.fst) (value : α) :
    set d key value = d ++ [(key, value)] := by
  induction d with
  | nil => rfl
  | cons item d ih =>
      obtain ⟨a, w⟩ := item
      rw [List.map_cons, List.mem_cons, not_or] at h
      rw [set, if_neg fun ha => h.1 ha.symm, ih h.2, List.cons_append]

theorem update_of_nodup {d entries : List (κ × α)} (h : ((d ++ entries).map Prod.fst).Nodup) :
    update d entries = d ++ entries := by
  unfold update
  induction entries generalizing d with
  | nil => simp
  | cons entry entries ih =>
      have hnew : entry.1 ∉ d.map Prod.fst := by
        rw [List.map_append, List.nodup_append] at h
        exact fun hmem => h.2.2 entry.1 hmem entry.1 (by simp) rfl
      rw [List.foldl_cons, set_of_notMem hnew, ih (by simpa using h)]
      simp

/-- A dictionary of entries with distinct keys holds these entries. -/
theorem ofEntries_of_nodup {entries : List (κ × α)} (h : (entries.map Prod.fst).Nodup) :
    ofEntries entries = entries := update_of_nodup h

/-! ### What overwriting loses -/

/-- The last entry of a key is an entry. -/
theorem mem_of_lookup_reverse {entries : List (κ × α)} {k : κ} {v : α}
    (h : entries.reverse.lookup k = some v) : (k, v) ∈ entries := by
  have hmem : ∀ {l : List (κ × α)}, l.lookup k = some v → (k, v) ∈ l := by
    intro l
    induction l with
    | nil => intro h; cases h
    | cons item l ih =>
        obtain ⟨a, w⟩ := item
        rw [lookup_cons]
        intro h
        split_ifs at h with hk
        · rw [hk, Option.some.inj h]
          exact List.mem_cons_self
        · exact List.mem_cons_of_mem _ (ih h)
  exact List.mem_reverse.1 (hmem h)

/-- Every key of the entries has a last entry. -/
theorem exists_lookup_reverse {entries : List (κ × α)} {e : κ × α} (h : e ∈ entries) :
    ∃ v, entries.reverse.lookup e.1 = some v := by
  rw [← lookup_ofEntries]
  exact exists_lookup_ofEntries (List.mem_map_of_mem h)

/-- An item of a dictionary is the last entry of its key. -/
theorem mem_ofEntries {entries : List (κ × α)} {k : κ} {v : α} :
    (k, v) ∈ ofEntries entries ↔ entries.reverse.lookup k = some v := by
  rw [mem_iff_lookup (nodup_keys_ofEntries entries), lookup_ofEntries]

/-- **No entry is overwritten by another** exactly where the entries of a key agree. -/
theorem forall_mem_ofEntries_iff {entries : List (κ × α)} :
    (∀ e ∈ entries, e ∈ ofEntries entries) ↔
      ∀ e ∈ entries, ∀ f ∈ entries, e.1 = f.1 → e.2 = f.2 := by
  constructor
  · rintro h ⟨k, v⟩ he ⟨k', w⟩ hf hk
    obtain rfl : k = k' := hk
    have hv := mem_ofEntries.1 (h _ he)
    rw [mem_ofEntries.1 (h _ hf)] at hv
    exact (Option.some.inj hv).symm
  · rintro h ⟨k, v⟩ he
    obtain ⟨w, hw⟩ := exists_lookup_reverse he
    rw [mem_ofEntries, hw]
    exact congrArg some (h (k, w) (mem_of_lookup_reverse hw) (k, v) he rfl)

end Dict
end AiopsK8s
