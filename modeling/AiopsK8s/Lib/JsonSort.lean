/-
# Documents with sorted keys

`canonical_json` sorts the keys of every mapping.  A mapping has each key once, so reading a key
does not depend on the order (`get_sortedFields`), a sorted document is sorted already
(`sortKeys_idem`), and two documents have one canonical text only if they are the same mappings
(`canonicalJson_inj`).
-/

import AiopsK8s.Lib.JsonPrefix

namespace AiopsK8s
namespace JsonText

/-- The entries of a mapping in the order of their keys, with their values sorted. -/
def sortedFields (fs : List (String × Json)) : List (String × Json) :=
  (sortFields fs).insertionSort fun a b => a.1 ≤ b.1

theorem sortKeys_obj (fs : List (String × Json)) : sortKeys (.obj fs) = .obj (sortedFields fs) := rfl

theorem sortItems_eq_map (vs : List Json) : sortItems vs = vs.map sortKeys := by
  induction vs with
  | nil => rfl
  | cons v vs ih => rw [sortItems, ih, List.map_cons]

theorem sortFields_eq_map (fs : List (String × Json)) :
    sortFields fs = fs.map fun f => (f.1, sortKeys f.2) := by
  induction fs with
  | nil => rfl
  | cons f fs ih =>
      obtain ⟨k, v⟩ := f
      rw [sortFields, ih, List.map_cons]

theorem sortedFields_perm (fs : List (String × Json)) :
    (sortedFields fs).Perm (fs.map fun f => (f.1, sortKeys f.2)) := by
  rw [← sortFields_eq_map]
  exact List.perm_insertionSort _ _

theorem keys_sortedFields_perm (fs : List (String × Json)) :
    ((sortedFields fs).map Prod.fst).Perm (fs.map Prod.fst) := by
  have hperm := (sortedFields_perm fs).map Prod.fst
  rwa [List.map_map] at hperm

theorem nodup_keys_sortedFields {fs : List (String × Json)} (h : (fs.map Prod.fst).Nodup) :
    ((sortedFields fs).map Prod.fst).Nodup :=
  (keys_sortedFields_perm fs).nodup_iff.2 h

/-! ### Reading a key -/

theorem lookup_eq_some_iff {fs : List (String × Json)} (h : (fs.map Prod.fst).Nodup) {k : String}
    {v : Json} : fs.lookup k = some v ↔ (k, v) ∈ fs := by
  induction fs with
  | nil => simp
  | cons f fs ih =>
      obtain ⟨a, b⟩ := f
      rw [List.map_cons, List.nodup_cons] at h
      by_cases ha : k = a
      · subst ha
        have hnot : ∀ w, (k, w) ∉ fs := fun w hw => h.1 (List.mem_map.2 ⟨(k, w), hw, rfl⟩)
        rw [List.lookup_cons, beq_self_eq_true]
        constructor
        · intro hb
          rw [Option.some.inj hb]
          exact List.mem_cons_self
        · intro hmem
          rcases List.mem_cons.1 hmem with heq | hmem
          · rw [(Prod.mk.inj heq).2]
          · exact absurd hmem (hnot v)
      · have hne : (k == a) = false := by simpa using ha
        rw [List.lookup_cons, hne]
        simp only
        rw [ih h.2, List.mem_cons]
        constructor
        · exact .inr
        · rintro (heq | hmem)
          · exact absurd (Prod.mk.inj heq).1 ha
          · exact hmem

/-- Reading a key does not depend on the order of the entries. -/
theorem lookup_perm {fs gs : List (String × Json)} (h : fs.Perm gs) (hfs : (fs.map Prod.fst).Nodup)
    (k : String) : fs.lookup k = gs.lookup k := by
  have hgs : (gs.map Prod.fst).Nodup := (h.map Prod.fst).nodup_iff.1 hfs
  refine Option.ext fun v => ?_
  rw [lookup_eq_some_iff hfs, lookup_eq_some_iff hgs, h.mem_iff]

theorem lookup_map_sortKeys (fs : List (String × Json)) (k : String) :
    (fs.map fun f => (f.1, sortKeys f.2)).lookup k = (fs.lookup k).map sortKeys := by
  induction fs with
  | nil => rfl
  | cons f fs ih =>
      obtain ⟨a, b⟩ := f
      rw [List.map_cons, List.lookup_cons, List.lookup_cons]
      rcases ha : k == a with _ | _
      · exact ih
      · rfl

theorem lookup_sortedFields {fs : List (String × Json)} (h : (fs.map Prod.fst).Nodup) (k : String) :
    (sortedFields fs).lookup k = (fs.lookup k).map sortKeys := by
  rw [lookup_perm (sortedFields_perm fs) (nodup_keys_sortedFields h), lookup_map_sortKeys]

/-- **A key of a sorted mapping is read as before**, with its value sorted. -/
theorem get_sortedFields {fs : List (String × Json)} (h : (fs.map Prod.fst).Nodup) (k : String) :
    Json.get (sortedFields fs) k = sortKeys (Json.get fs k) := by
  rw [Json.get, Json.get, lookup_sortedFields h]
  cases fs.lookup k <;> rfl

/-- A mapping of texts and numbers is read the same after sorting. -/
theorem get_sortedFields_of_leaves {fs : List (String × Json)} (h : (fs.map Prod.fst).Nodup)
    (hleaf : ∀ f ∈ fs, sortKeys f.2 = f.2) (k : String) :
    Json.get (sortedFields fs) k = Json.get fs k := by
  rw [get_sortedFields h, Json.get]
  rcases hv : fs.lookup k with _ | v
  · rfl
  · exact hleaf (k, v) ((lookup_eq_some_iff h).1 hv)

/-! ### Sorting twice -/

instance : IsTrans (String × Json) fun a b => a.1 ≤ b.1 := ⟨fun _ _ _ hab hbc => le_trans hab hbc⟩

instance : Std.Total (α := String × Json) fun a b => a.1 ≤ b.1 := ⟨fun a b => le_total a.1 b.1⟩

theorem pairwise_sortedFields (fs : List (String × Json)) :
    (sortedFields fs).Pairwise fun a b => a.1 ≤ b.1 := List.pairwise_insertionSort _ _

/-- A mapping of sorted values, in the order of its keys, is what sorting it gives. -/
theorem sortedFields_eq_self {fs : List (String × Json)} (h : fs.Pairwise fun a b => a.1 ≤ b.1)
    (hvalues : ∀ f ∈ fs, sortKeys f.2 = f.2) : sortedFields fs = fs := by
  have hmap : sortFields fs = fs := by
    rw [sortFields_eq_map]
    conv_rhs => rw [← List.map_id fs]
    refine List.map_congr_left fun f hf => ?_
    rw [hvalues f hf]
    rfl
  rw [sortedFields, hmap]
  exact h.insertionSort_eq

mutual

theorem sortKeys_idem : ∀ v : Json, sortKeys (sortKeys v) = sortKeys v
  | .null => rfl
  | .bool _ => rfl
  | .int _ => rfl
  | .float _ => rfl
  | .str _ => rfl
  | .arr vs => by rw [sortKeys, sortKeys, sortItems_idem vs]
  | .obj fs => by
      rw [sortKeys_obj, sortKeys_obj]
      refine congrArg Json.obj (sortedFields_eq_self (pairwise_sortedFields fs) fun f hf => ?_)
      have hmem := (sortedFields_perm fs).mem_iff.1 hf
      obtain ⟨g, hg, rfl⟩ := List.mem_map.1 hmem
      exact sortKeys_idem_entries fs g hg

theorem sortItems_idem : ∀ vs : List Json, sortItems (sortItems vs) = sortItems vs
  | [] => rfl
  | v :: vs => by rw [sortItems, sortItems, sortKeys_idem v, sortItems_idem vs]

theorem sortKeys_idem_entries :
    ∀ fs : List (String × Json), ∀ f ∈ fs, sortKeys (sortKeys f.2) = sortKeys f.2
  | [], _, hf => by cases hf
  | (k, v) :: fs, f, hf => by
      rcases List.mem_cons.1 hf with rfl | hf
      · exact sortKeys_idem v
      · exact sortKeys_idem_entries fs f hf

end

/-! ### Equal mappings -/

/-- Mappings with the same values under each key have the same entries. -/
theorem perm_of_lookup {fs gs : List (String × Json)} (hfs : (fs.map Prod.fst).Nodup)
    (hgs : (gs.map Prod.fst).Nodup) (h : ∀ k, fs.lookup k = gs.lookup k) : fs.Perm gs := by
  refine (List.perm_ext_iff_of_nodup hfs.of_map hgs.of_map).2 fun f => ?_
  obtain ⟨k, v⟩ := f
  rw [← lookup_eq_some_iff hfs, ← lookup_eq_some_iff hgs, h k]

/-- The order of the entries does not matter once they are sorted. -/
theorem insertionSort_keys_eq {fs gs : List (String × Json)} (hfs : (fs.map Prod.fst).Nodup)
    (h : fs.Perm gs) : fs.insertionSort (fun a b => a.1 ≤ b.1)
      = gs.insertionSort fun a b => a.1 ≤ b.1 := by
  have hperm : (fs.insertionSort fun a b => a.1 ≤ b.1).Perm
      (gs.insertionSort fun a b => a.1 ≤ b.1) :=
    ((List.perm_insertionSort _ fs).trans h).trans (List.perm_insertionSort _ gs).symm
  refine hperm.eq_of_pairwise ?_ (List.pairwise_insertionSort _ fs) (List.pairwise_insertionSort _ gs)
  intro a b ha hb hab hba
  have hb' : b ∈ fs := h.mem_iff.2 ((List.mem_insertionSort _).1 hb)
  exact List.inj_on_of_nodup_map hfs ((List.mem_insertionSort _).1 ha) hb' (le_antisymm hab hba)

/-- **Two mappings are the same document** when they have the same values under each key. -/
theorem sortKeys_obj_eq_iff {fs gs : List (String × Json)} (hfs : (fs.map Prod.fst).Nodup)
    (hgs : (gs.map Prod.fst).Nodup) : sortKeys (.obj fs) = sortKeys (.obj gs) ↔
      ∀ k, (fs.lookup k).map sortKeys = (gs.lookup k).map sortKeys := by
  have hkeys : ∀ {l : List (String × Json)}, (l.map Prod.fst).Nodup →
      ((sortFields l).map Prod.fst).Nodup := by
    intro l hl
    rw [sortFields_eq_map, List.map_map]
    exact hl
  have hlookup : ∀ (l : List (String × Json)) (k : String),
      (sortFields l).lookup k = (l.lookup k).map sortKeys := by
    intro l k
    rw [sortFields_eq_map, lookup_map_sortKeys]
  constructor
  · intro h k
    have hsorted : sortedFields fs = sortedFields gs := Json.obj.inj h
    rw [← lookup_sortedFields hfs, ← lookup_sortedFields hgs, hsorted]
  · intro h
    have hperm : (sortFields fs).Perm (sortFields gs) :=
      perm_of_lookup (hkeys hfs) (hkeys hgs) fun k => by rw [hlookup, hlookup, h k]
    rw [sortKeys_obj, sortKeys_obj, sortedFields, sortedFields,
      insertionSort_keys_eq (hkeys hfs) hperm]

/-- Two mappings written with the same keys in the same order. -/
theorem sortKeys_obj_congr {fs gs : List (String × Json)}
    (h : List.Forall₂ (fun f g => f.1 = g.1 ∧ sortKeys f.2 = sortKeys g.2) fs gs) :
    sortKeys (.obj fs) = sortKeys (.obj gs) := by
  have hfields : sortFields fs = sortFields gs := by
    induction h with
    | nil => rfl
    | cons hfg _ ih =>
        rw [sortFields, sortFields, ih, hfg.1, hfg.2]
  rw [sortKeys_obj, sortKeys_obj, sortedFields, sortedFields, hfields]

/-- **A mapping of leaves with its keys sorted.** -/
theorem sortKeys_obj_map {α : Type} {f : α → Json} (h : ∀ a, sortKeys (f a) = f a)
    (entries : List (String × α)) : sortKeys (.obj (entries.map fun e => (e.1, f e.2)))
      = .obj ((entries.insertionSort fun a b => a.1 ≤ b.1).map fun e => (e.1, f e.2)) := by
  have hleaves : sortFields (entries.map fun e => (e.1, f e.2)) = entries.map fun e => (e.1, f e.2) := by
    rw [sortFields_eq_map, List.map_map]
    exact List.map_congr_left fun e _ => Prod.ext rfl (h e.2)
  have hsort : (entries.insertionSort fun a b => a.1 ≤ b.1).map (fun e => (e.1, f e.2))
      = (entries.map fun e => (e.1, f e.2)).insertionSort fun a b => a.1 ≤ b.1 :=
    List.map_insertionSort _ _ _ _ fun _ _ _ _ => Iff.rfl
  rw [sortKeys_obj, sortedFields, hleaves, hsort]

theorem sortKeys_texts (l : List String) : sortKeys (.texts l) = .texts l := by
  rw [Json.texts, Json.ofList, sortKeys, sortItems_eq_map, List.map_map]
  rfl

/-! ### The canonical text -/

section Values

variable {py : Python} {fl : Floats py}

theorem isValue_arr {vs : List Json} : IsValue fl (.arr vs) ↔ ∀ v ∈ vs, IsValue fl v := by
  rw [IsValue, areValues_iff]

theorem isValue_obj {fs : List (String × Json)} :
    IsValue fl (.obj fs) ↔ (fs.map Prod.fst).Nodup ∧ ∀ f ∈ fs, IsValue fl f.2 := by
  rw [IsValue, areEntries_iff]

mutual

theorem isValue_sortKeys : ∀ v : Json, IsValue fl v → IsValue fl (sortKeys v)
  | .null, h => h
  | .bool _, h => h
  | .int _, h => h
  | .float _, h => h
  | .str _, h => h
  | .arr vs, h => by
      rw [sortKeys, IsValue]
      rw [IsValue] at h
      exact areValues_sortItems vs h
  | .obj fs, h => by
      rw [IsValue] at h
      rw [sortKeys_obj, isValue_obj]
      refine ⟨nodup_keys_sortedFields h.1, fun f hf => ?_⟩
      have hmem := (sortedFields_perm fs).mem_iff.1 hf
      obtain ⟨g, hg, rfl⟩ := List.mem_map.1 hmem
      exact isValue_sortKeys_entries fs h.2 g hg

theorem areValues_sortItems : ∀ vs : List Json, AreValues fl vs → AreValues fl (sortItems vs)
  | [], _ => trivial
  | v :: vs, h => by
      rw [AreValues] at h
      exact ⟨isValue_sortKeys v h.1, areValues_sortItems vs h.2⟩

theorem isValue_sortKeys_entries : ∀ fs : List (String × Json), AreEntries fl fs →
    ∀ f ∈ fs, IsValue fl (sortKeys f.2)
  | [], _, _, hf => by cases hf
  | (k, v) :: fs, h, f, hf => by
      rw [AreEntries] at h
      rcases List.mem_cons.1 hf with rfl | hf
      · exact isValue_sortKeys v h.1
      · exact isValue_sortKeys_entries fs h.2 f hf

end

/-- A document is read back from its canonical text, with its keys sorted. -/
theorem loads_canonicalJson {v : Json} (h : IsValue fl v) {s : String}
    (hs : ∀ c ∈ s.toList, isWhitespace c = true) :
    loads py (canonicalJson py v ++ s) = some (sortKeys v) := by
  have htext : canonicalJson py v ++ s = String.ofList (dumpChars py (sortKeys v) ++ s.toList) := by
    rw [String.ofList_append, String.ofList_toList]
    rfl
  rw [htext]
  exact loads_dumps (isValue_sortKeys v h) hs

/-- **One canonical text, one document.** -/
theorem canonicalJson_inj {v w : Json} (hv : IsValue fl v) (hw : IsValue fl w) :
    canonicalJson py v = canonicalJson py w ↔ sortKeys v = sortKeys w := by
  constructor
  · intro h
    have hread := loads_canonicalJson hv (s := "") (by simp)
    rw [h, loads_canonicalJson hw (by simp)] at hread
    exact (Option.some.inj hread).symm
  · intro h
    rw [canonicalJson, canonicalJson, h]

end Values

/-! ### Equality of values -/

mutual

/-- The document with every number as the rational it denotes. -/
def numeric : Json → Json
  | .bool b => .number (if b then 1 else 0)
  | .int i => .number i
  | .arr vs => .arr (numericItems vs)
  | .obj fs => .obj (numericFields fs)
  | v => v

def numericItems : List Json → List Json
  | [] => []
  | v :: vs => numeric v :: numericItems vs

def numericFields : List (String × Json) → List (String × Json)
  | [] => []
  | (k, v) :: fs => (k, numeric v) :: numericFields fs

end

/-- What `==` compares: numbers by their values and mappings by their keys. -/
def normal (v : Json) : Json := sortKeys (numeric v)

/-- `v == w`. -/
def SameValue (v w : Json) : Prop := normal v = normal w

theorem numericFields_eq_map (fs : List (String × Json)) :
    numericFields fs = fs.map fun f => (f.1, numeric f.2) := by
  induction fs with
  | nil => rfl
  | cons f fs ih =>
      obtain ⟨k, v⟩ := f
      rw [numericFields, ih, List.map_cons]

theorem lookup_numericFields (fs : List (String × Json)) (k : String) :
    (numericFields fs).lookup k = (fs.lookup k).map numeric := by
  rw [numericFields_eq_map]
  induction fs with
  | nil => rfl
  | cons f fs ih =>
      obtain ⟨a, b⟩ := f
      rw [List.map_cons, List.lookup_cons, List.lookup_cons]
      rcases ha : k == a with _ | _
      · exact ih
      · rfl

/-- **Equal mappings have equal values under each key.** -/
theorem sameValue_obj_iff {fs gs : List (String × Json)} (hfs : (fs.map Prod.fst).Nodup)
    (hgs : (gs.map Prod.fst).Nodup) : SameValue (.obj fs) (.obj gs) ↔
      ∀ k, (fs.lookup k).map normal = (gs.lookup k).map normal := by
  have hkeys : ∀ {l : List (String × Json)}, (l.map Prod.fst).Nodup →
      ((numericFields l).map Prod.fst).Nodup := by
    intro l hl
    rw [numericFields_eq_map, List.map_map]
    exact hl
  have hlookup : ∀ (l : List (String × Json)) (k : String),
      ((numericFields l).lookup k).map sortKeys = (l.lookup k).map normal := by
    intro l k
    rw [lookup_numericFields, Option.map_map]
    rfl
  rw [SameValue, normal, normal, numeric, numeric, sortKeys_obj_eq_iff (hkeys hfs) (hkeys hgs)]
  simp only [hlookup]

theorem get_eq_of_lookup {fs : List (String × Json)} {k : String} {v : Json}
    (h : fs.lookup k = some v) : Json.get fs k = v := by
  rw [Json.get, h]
  rfl

/-- What a mapping of values has under a key is a value. -/
theorem isValue_get {py : Python} {fl : Floats py} {fs : List (String × Json)}
    (h : IsValue fl (.obj fs)) (k : String) : IsValue fl (Json.get fs k) := by
  rw [isValue_obj] at h
  rcases hv : fs.lookup k with _ | v
  · rw [Json.get, hv]
    trivial
  · rw [get_eq_of_lookup hv]
    exact h.2 (k, v) ((lookup_eq_some_iff h.1).1 hv)

theorem isValue_texts {py : Python} {fl : Floats py} (l : List String) :
    IsValue fl (.texts l) := by
  rw [Json.texts, Json.ofList, isValue_arr]
  intro v hv
  obtain ⟨s, _, rfl⟩ := List.mem_map.1 hv
  trivial

theorem exists_lookup {fs : List (String × Json)} {k : String} (h : k ∈ fs.map Prod.fst) :
    ∃ v, fs.lookup k = some v := by
  induction fs with
  | nil => cases h
  | cons f fs ih =>
      obtain ⟨a, b⟩ := f
      by_cases hk : k = a
      · exact ⟨b, by rw [List.lookup_cons, hk, beq_self_eq_true]⟩
      · have hne : (k == a) = false := by simpa using hk
        rw [List.lookup_cons, hne]
        exact ih ((List.mem_cons.1 h).resolve_left hk)

theorem lookup_eq_none {fs : List (String × Json)} {k : String} (h : k ∉ fs.map Prod.fst) :
    fs.lookup k = none := by
  rcases hv : fs.lookup k with _ | v
  · rfl
  · induction fs with
    | nil => cases hv
    | cons f fs ih =>
        obtain ⟨a, b⟩ := f
        rw [List.map_cons, List.mem_cons, not_or] at h
        have hne : (k == a) = false := by simpa using h.1
        rw [List.lookup_cons, hne] at hv
        exact ih h.2 hv

/-- Mappings with the same keys are equal when the values under each key are. -/
theorem sameValue_obj_of_get {fs gs : List (String × Json)} (hfs : (fs.map Prod.fst).Nodup)
    (hgs : (gs.map Prod.fst).Nodup) (hkeys : ∀ k, k ∈ fs.map Prod.fst ↔ k ∈ gs.map Prod.fst)
    (h : ∀ k ∈ fs.map Prod.fst, SameValue (Json.get fs k) (Json.get gs k)) :
    SameValue (.obj fs) (.obj gs) := by
  refine (sameValue_obj_iff hfs hgs).2 fun k => ?_
  by_cases hk : k ∈ fs.map Prod.fst
  · obtain ⟨v, hv⟩ := exists_lookup hk
    obtain ⟨w, hw⟩ := exists_lookup ((hkeys k).1 hk)
    have hsame := h k hk
    rw [get_eq_of_lookup hv, get_eq_of_lookup hw] at hsame
    rw [hv, hw, Option.map_some, Option.map_some, hsame]
  · rw [lookup_eq_none hk, lookup_eq_none fun hmem => hk ((hkeys k).2 hmem)]

/-- The values under a key of equal mappings. -/
theorem SameValue.get {fs gs : List (String × Json)} (h : SameValue (.obj fs) (.obj gs))
    (hfs : (fs.map Prod.fst).Nodup) (hgs : (gs.map Prod.fst).Nodup) (k : String) :
    SameValue (Json.get fs k) (Json.get gs k) := by
  have hk := (sameValue_obj_iff hfs hgs).1 h k
  unfold Json.get
  rcases hv : fs.lookup k with _ | v <;> rcases hw : gs.lookup k with _ | w
  · rfl
  · rw [hv, hw] at hk
    cases hk
  · rw [hv, hw] at hk
    cases hk
  · rw [hv, hw] at hk
    exact Option.some.inj hk

theorem sameValue_number {i : ℤ} {q : ℚ} : SameValue (.int i) (.number q) ↔ (i : ℚ) = q := by
  rw [SameValue, normal, normal]
  constructor
  · intro h
    have hfinite : PyFloat.finite (i : ℚ) = PyFloat.finite q := Json.float.inj h
    exact PyFloat.finite.inj hfinite
  · intro h
    rw [numeric, h]
    rfl

end JsonText
end AiopsK8s
