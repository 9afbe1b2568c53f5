/-
# What is decoded from the document of an artifact

`_validate` says what `save` has checked (`Accepted`), check by check.  Every check passes again
on the document that `save` writes, with the keys of its mappings sorted, so `from_dict` accepts
that document; what it returns is the artifact with every numeric entry as a float
(`fromDict_document`).
-/

import AiopsK8s.Learning.Artifact

namespace AiopsK8s
namespace Learning

open Effect JsonText
open AiopsK8s.Partition (PartitionError IsHexDigest featureOrder)

/-! ### Numbers -/

section Numbers

variable {py : Python} {fl : Floats py}

/-- The number that `_number` returns. -/
def asNumber (fl : Floats py) : Json → Option ℚ
  | .int i => fl.ofInt i
  | .float (.finite q) => some q
  | _ => none

/-- An entry as `from_dict` stores it. -/
def asFloat (fl : Floats py) (v : Json) : Json :=
  match asNumber fl v with
  | some q => .number q
  | none => v

/-- A numeric entry that is a float. -/
def IsFloatEntry (v : Json) : Prop := ∃ x, v = .float x

theorem number_eq_ok {v : Json} {field : String} {q : ℚ} :
    number fl v field = .ok q ↔ asNumber fl v = some q := by
  unfold number asNumber
  split
  · rename_i i
    rcases hi : fl.ofInt i with _ | r <;> simp [hi]
  · simp
  · rename_i x hx
    rcases x with q' | _ | _ | _
    · exact absurd rfl (hx q')
    all_goals simp
  · rename_i h1 h2 h3
    split
    · exact absurd rfl (h1 _)
    · exact absurd rfl (h2 _)
    · simp

theorem asFloat_of_number {v : Json} {q : ℚ} (h : asNumber fl v = some q) :
    asFloat fl v = .number q := by
  unfold asFloat
  rw [h]

theorem asNumber_asFloat {v : Json} {q : ℚ} (h : asNumber fl v = some q) :
    asNumber fl (asFloat fl v) = some q := by
  rw [asFloat_of_number h]
  rfl

/-- An entry that is stored as it was is a float. -/
theorem asFloat_eq_self_iff {v : Json} {q : ℚ} (h : asNumber fl v = some q) :
    asFloat fl v = v ↔ IsFloatEntry v := by
  rw [asFloat_of_number h]
  constructor
  · intro heq
    exact ⟨.finite q, heq.symm⟩
  · rintro ⟨x, rfl⟩
    rcases x with r | _ | _ | _
    · cases h
      rfl
    all_goals cases h

theorem sortKeys_of_number {v : Json} {q : ℚ} (h : asNumber fl v = some q) : sortKeys v = v := by
  rcases v with _ | _ | _ | _ | _ | _ | _
  case int => rfl
  case float => rfl
  all_goals cases h

theorem isFloat_of_number {v : Json} {q : ℚ} (h : asNumber fl v = some q) (hv : IsValue fl v) :
    fl.IsFloat q := by
  rcases v with _ | _ | i | x | _ | _ | _
  case int => exact fl.ofInt_isFloat i q h
  case float =>
    rcases x with r | _ | _ | _
    · cases h
      exact hv
    all_goals cases h
  all_goals cases h

/-- Entries that are all numbers. -/
def AreNumbers (fl : Floats py) (vs : List Json) : Prop := ∀ v ∈ vs, ∃ q, asNumber fl v = some q

theorem numberTuple_eq_ok {vs : List Json} (h : AreNumbers fl vs) (field : String) :
    numberTuple fl (.arr vs) field = .ok (vs.map (asFloat fl)) := by
  refine mapM_of_forall₂ (List.forall₂_map_right_iff.2 (List.forall₂_same.2 fun v hv => ?_))
  obtain ⟨q, hq⟩ := h v hv
  rw [number_eq_ok.2 hq, asFloat_of_number hq]
  rfl

theorem sortItems_of_numbers {vs : List Json} (h : AreNumbers fl vs) : sortItems vs = vs := by
  rw [sortItems_eq_map]
  conv_rhs => rw [← List.map_id vs]
  refine List.map_congr_left fun v hv => ?_
  obtain ⟨q, hq⟩ := h v hv
  exact sortKeys_of_number hq

theorem map_asFloat_eq_self_iff {vs : List Json} (h : AreNumbers fl vs) :
    vs.map (asFloat fl) = vs ↔ ∀ v ∈ vs, IsFloatEntry v := by
  induction vs with
  | nil => simp
  | cons v vs ih =>
      obtain ⟨q, hq⟩ := h v List.mem_cons_self
      have hrest : AreNumbers fl vs := fun w hw => h w (List.mem_cons_of_mem v hw)
      rw [List.map_cons, List.cons.injEq, ih hrest, asFloat_eq_self_iff hq, List.forall_mem_cons]

/-! ### Vectors, ranges and mappings -/

/-- The numbers of a vector that passes. -/
theorem areNumbers_of_validateVector {vs : List Json} {field : String} {positive : Bool}
    (h : validateVector fl vs field positive = .ok ()) : AreNumbers fl vs := by
  obtain ⟨_, _, h⟩ := bind_eq_ok h
  intro v hv
  obtain ⟨q, hq, _⟩ := bind_eq_ok (forM_eq_ok.1 h v hv)
  exact ⟨q, number_eq_ok.1 hq⟩

/-- A vector passes with its entries as they are stored. -/
theorem validateVector_asFloat {vs : List Json} {field : String} {positive : Bool}
    (h : validateVector fl vs field positive = .ok ()) :
    validateVector fl (vs.map (asFloat fl)) field positive = .ok () := by
  have hnumbers := areNumbers_of_validateVector h
  unfold validateVector at h ⊢
  rw [checks_seq] at h ⊢
  rw [List.length_map]
  refine ⟨h.1, forM_eq_ok.2 fun w hw => ?_⟩
  obtain ⟨v, hv, rfl⟩ := List.mem_map.1 hw
  obtain ⟨q, hq⟩ := hnumbers v hv
  have hpass := forM_eq_ok.1 h.2 v hv
  rw [number_eq_ok.2 hq] at hpass
  rw [number_eq_ok.2 (asNumber_asFloat hq)]
  exact hpass

/-- The entries of a mapping with their values as they are stored. -/
def floatFields (fl : Floats py) (fs : Fields) : Fields := fs.map fun f => (f.1, asFloat fl f.2)

/-- A mapping from names to numbers. -/
def AreNumberFields (fl : Floats py) (fs : Fields) : Prop :=
  ∀ f ∈ fs, ∃ q, asNumber fl f.2 = some q

/-- An entry that `_numeric_mapping` accepts. -/
def IsNumericEntry (fl : Floats py) (field : String) (f : String × Json) : Prop :=
  checkText f.1 s!"{field} key" = .ok () ∧ ∃ q, asNumber fl f.2 = some q

theorem numericEntry_eq_ok {field : String} {f g : String × Json} :
    numericEntry fl field f = .ok g ↔ IsNumericEntry fl field f ∧ g = (f.1, asFloat fl f.2) := by
  constructor
  · intro h
    obtain ⟨_, htext, h⟩ := bind_eq_ok h
    obtain ⟨q, hq, h⟩ := bind_eq_ok h
    cases h
    have hnumber := number_eq_ok.1 hq
    exact ⟨⟨htext, q, hnumber⟩, by rw [asFloat_of_number hnumber]⟩
  · rintro ⟨⟨htext, q, hq⟩, rfl⟩
    rw [numericEntry, htext, number_eq_ok.2 hq, asFloat_of_number hq]
    rfl

theorem numericMapping_eq_ok {fs result : Fields} {field : String} :
    numericMapping fl (.obj fs) field = .ok result ↔
      (∀ f ∈ fs, IsNumericEntry fl field f) ∧ result = floatFields fl fs :=
  mapM_eq_ok_iff fun _ _ => numericEntry_eq_ok

theorem sameKeys_iff {fs : Fields} {names : List String} :
    SameKeys fs names ↔ ∀ k, k ∈ fs.map Prod.fst ↔ k ∈ names := by
  constructor
  · rintro ⟨h1, h2⟩ k
    refine ⟨fun hk => ?_, h2 k⟩
    obtain ⟨f, hf, rfl⟩ := List.mem_map.1 hk
    exact h1 f hf
  · intro h
    exact ⟨fun f hf => (h f.1).1 (List.mem_map_of_mem hf), fun k hk => (h k).2 hk⟩

theorem sameKeys_sortedFields {fs : Fields} {names : List String} :
    SameKeys (sortedFields fs) names ↔ SameKeys fs names := by
  rw [sameKeys_iff, sameKeys_iff]
  refine forall_congr' fun k => ?_
  rw [(keys_sortedFields_perm fs).mem_iff]

theorem keys_floatFields (fs : Fields) : (floatFields fl fs).map Prod.fst = fs.map Prod.fst := by
  rw [floatFields, List.map_map]
  rfl

theorem validationMetrics_eq_ok {fs result : Fields} {field : String} :
    validationMetrics fl (.obj fs) field = .ok result ↔
      ((∀ f ∈ fs, IsNumericEntry fl field f) ∧ SameKeys fs validationMetricKeys) ∧
        result = floatFields fl fs := by
  have hkeys : ∀ gs : Fields, SameKeys (floatFields fl gs) validationMetricKeys ↔
      SameKeys gs validationMetricKeys := by
    intro gs
    rw [sameKeys_iff, sameKeys_iff, keys_floatFields]
  constructor
  · intro h
    obtain ⟨metrics, hmetrics, h⟩ := bind_eq_ok h
    obtain ⟨_, hsame, h⟩ := bind_eq_ok h
    obtain ⟨hentries, rfl⟩ := numericMapping_eq_ok.1 hmetrics
    cases h
    exact ⟨⟨hentries, (hkeys fs).1 (not_not.1 (rejectIf_eq_ok.1 hsame))⟩, rfl⟩
  · rintro ⟨⟨hentries, hsame⟩, rfl⟩
    unfold validationMetrics
    rw [numericMapping_eq_ok.2 ⟨hentries, rfl⟩]
    have hcheck : rejectIf (¬SameKeys (floatFields fl fs) validationMetricKeys) (invalidArtifact
        s!"{field} keys must exactly match the validation_metrics keys") = .ok () :=
      rejectIf_eq_ok.2 (not_not.2 ((hkeys fs).2 hsame))
    simp only [bind, Except.bind]
    rw [hcheck]
    rfl

/-- What is accepted is accepted with its entries as they are stored, in any order. -/
theorem isNumericEntry_floatFields {fs gs : Fields} {field : String}
    (h : ∀ f ∈ fs, IsNumericEntry fl field f) (hperm : gs.Perm (floatFields fl fs)) :
    ∀ g ∈ gs, IsNumericEntry fl field g := by
  intro g hg
  obtain ⟨f, hf, rfl⟩ := List.mem_map.1 (hperm.mem_iff.1 hg)
  obtain ⟨htext, q, hq⟩ := h f hf
  exact ⟨htext, q, asNumber_asFloat hq⟩

/-- A mapping of numbers is sorted by its keys alone. -/
theorem sortedFields_of_numbers {fs : Fields} (h : AreNumberFields fl fs) :
    (sortedFields fs).Perm fs := by
  have hmap : fs.map (fun f => (f.1, sortKeys f.2)) = fs := by
    conv_rhs => rw [← List.map_id fs]
    refine List.map_congr_left fun f hf => ?_
    obtain ⟨q, hq⟩ := h f hf
    rw [sortKeys_of_number hq]
    rfl
  have hperm := sortedFields_perm fs
  rwa [hmap] at hperm

/-! ### Feature ranges -/

/-- A range that passes. -/
def IsRange (fl : Floats py) (v : Json) : Prop :=
  ∃ lower upper l u, v = .arr [lower, upper] ∧ asNumber fl lower = some l ∧
    asNumber fl upper = some u ∧ l ≤ u

/-- A range as it is stored. -/
def floatPair (fl : Floats py) : Json → Json
  | .arr vs => .arr (vs.map (asFloat fl))
  | v => v

theorem unpackPair_number {v : Json} {pair : Json × Json} {f g : String} {l u : ℚ}
    (hpair : unpackPair v = .ok pair) (hl : number fl pair.1 f = .ok l)
    (hu : number fl pair.2 g = .ok u) : v = .arr [pair.1, pair.2] := by
  unfold unpackPair at hpair
  split at hpair
  · cases hpair
    rfl
  · cases hpair
  · split at hpair <;> cases hpair
    cases hl
  · cases hpair
    cases hl
  · cases hpair
  · cases hpair

theorem validateFeatureRanges_eq_ok {ranges : Fields} :
    validateFeatureRanges fl ranges = .ok () ↔
      SameKeys ranges featureOrder ∧ ∀ name ∈ featureOrder, IsRange fl (Json.get ranges name) := by
  have hrange : ∀ name, (do
      let pair ← unpackPair (Json.get ranges name)
      let lower ← number fl pair.1 s!"training_feature_ranges.{name}[0]"
      let upper ← number fl pair.2 s!"training_feature_ranges.{name}[1]"
      rejectIf (upper < lower)
        (invalidArtifact "training feature range minimum exceeds maximum")) = .ok () ↔
      IsRange fl (Json.get ranges name) := by
    intro name
    constructor
    · intro h
      obtain ⟨pair, hpair, h⟩ := bind_eq_ok h
      obtain ⟨l, hl, h⟩ := bind_eq_ok h
      obtain ⟨u, hu, h⟩ := bind_eq_ok h
      exact ⟨pair.1, pair.2, l, u, unpackPair_number hpair hl hu, number_eq_ok.1 hl,
        number_eq_ok.1 hu, not_lt.1 (rejectIf_eq_ok.1 h)⟩
    · rintro ⟨lower, upper, l, u, hv, hl, hu, hle⟩
      rw [hv, unpackPair]
      simp only [bind, Except.bind]
      rw [number_eq_ok.2 hl]
      simp only
      rw [number_eq_ok.2 hu]
      exact rejectIf_eq_ok.2 (not_lt.2 hle)
  unfold validateFeatureRanges
  rw [checks_seq, rejectIf_eq_ok, not_not, forM_eq_ok]
  exact and_congr Iff.rfl (forall₂_congr fun name _ => hrange name)

theorem IsRange.floatPair {v : Json} (h : IsRange fl v) : IsRange fl (floatPair fl v) := by
  obtain ⟨lower, upper, l, u, rfl, hl, hu, hle⟩ := h
  exact ⟨asFloat fl lower, asFloat fl upper, l, u, rfl, asNumber_asFloat hl, asNumber_asFloat hu, hle⟩

theorem IsRange.sortKeys {v : Json} (h : IsRange fl v) : sortKeys v = v := by
  obtain ⟨lower, upper, l, u, rfl, hl, hu, _⟩ := h
  rw [JsonText.sortKeys, sortItems, sortItems, sortItems, sortKeys_of_number hl,
    sortKeys_of_number hu]

/-- The entries of a range. -/
def pairEntries : Json → List Json
  | .arr vs => vs
  | _ => []

theorem IsRange.floatPair_eq_self_iff {v : Json} (h : IsRange fl v) :
    Learning.floatPair fl v = v ↔ ∀ w ∈ pairEntries v, IsFloatEntry w := by
  obtain ⟨lower, upper, l, u, rfl, hl, hu, _⟩ := h
  have hnumbers : AreNumbers fl [lower, upper] := by
    intro w hw
    rcases List.mem_pair.1 hw with rfl | rfl
    · exact ⟨l, hl⟩
    · exact ⟨u, hu⟩
  have hmap := map_asFloat_eq_self_iff hnumbers
  exact ⟨fun heq => hmap.1 (Json.arr.inj heq), fun hall => congrArg Json.arr (hmap.2 hall)⟩

/-- A mapping that gives each name a value. -/
theorem lookup_map_names {names : List String} {F : String → Json} {name : String}
    (h : name ∈ names) : (names.map fun n => (n, F n)).lookup name = some (F name) := by
  induction names with
  | nil => cases h
  | cons n names ih =>
      rw [List.map_cons, List.lookup_cons]
      by_cases hn : name = n
      · subst hn
        rw [beq_self_eq_true]
      · have hb : (name == n) = false := by simpa using hn
        rw [hb]
        exact ih ((List.mem_cons.1 h).resolve_left hn)

theorem get_map_names {names : List String} {F : String → Json} {name : String}
    (h : name ∈ names) : Json.get (names.map fun n => (n, F n)) name = F name := by
  rw [Json.get, lookup_map_names h]
  rfl

theorem keys_map_names (names : List String) (F : String → Json) :
    (names.map fun n => (n, F n)).map Prod.fst = names := by
  rw [List.map_map]
  exact List.map_id names

/-- The ranges as `from_dict` stores them. -/
def floatRanges (fl : Floats py) (ranges : Fields) : Fields :=
  featureOrder.map fun name => (name, floatPair fl (Json.get ranges name))

theorem featureRanges_eq_ok {gs ranges : Fields} (hkeys : SameKeys gs featureOrder)
    (hranges : ∀ name ∈ featureOrder, IsRange fl (Json.get ranges name))
    (hgs : ∀ name ∈ featureOrder, Json.get gs name = Json.get ranges name) :
    featureRanges fl (.obj gs) = .ok (floatRanges fl ranges) := by
  have hall : featureOrder.mapM (featureRange fl gs) = .ok (floatRanges fl ranges) := by
    refine mapM_of_forall₂ (List.forall₂_map_right_iff.2 (List.forall₂_same.2 fun name hname => ?_))
    obtain ⟨lower, upper, l, u, hv, hl, hu, _⟩ := hranges name hname
    rw [featureRange, hgs name hname, hv]
    simp only [bind, Except.bind]
    rw [number_eq_ok.2 hl]
    simp only
    rw [number_eq_ok.2 hu, floatPair, List.map_cons, List.map_cons, List.map_nil,
      asFloat_of_number hl, asFloat_of_number hu]
    rfl
  unfold featureRanges
  simp only [bind, Except.bind, rejectIf_eq_ok.2 (not_not.2 hkeys)]
  exact hall

/-! ### The provenance -/

theorem integer_eq_ok {v : Json} {field : String} {minimum i : ℤ} :
    integer v field minimum = .ok i ↔ v = .int i ∧ minimum ≤ i := by
  unfold integer
  split
  · rename_i j
    split_ifs with hlt
    · simp only [Json.int.injEq, false_iff, not_and, not_le]
      rintro rfl
      exact hlt
    · simp only [Except.ok.injEq, Json.int.injEq]
      constructor
      · rintro rfl
        exact ⟨rfl, not_lt.1 hlt⟩
      · exact fun h => h.1
  · rename_i hv
    simp only [reduceCtorEq, false_iff, not_and]
    intro h
    exact absurd h (hv i)

theorem boundedNumber_eq_ok {v : Json} {field bounds : String} {minimum maximum q : ℚ} :
    boundedNumber fl v field minimum maximum bounds = .ok q ↔
      asNumber fl v = some q ∧ minimum ≤ q ∧ q ≤ maximum := by
  constructor
  · intro h
    obtain ⟨r, hr, h⟩ := bind_eq_ok h
    obtain ⟨_, hbounds, h⟩ := bind_eq_ok h
    cases h
    exact ⟨number_eq_ok.1 hr, not_not.1 (rejectIf_eq_ok.1 hbounds)⟩
  · rintro ⟨hq, hbounds⟩
    unfold boundedNumber
    rw [number_eq_ok.2 hq]
    simp only [bind, Except.bind]
    rw [rejectIf_eq_ok.2 (not_not.2 hbounds)]
    rfl

/-- What the fields of `eligibility_thresholds` hold. -/
structure HoldsThresholds (fl : Floats py) (fs : Fields) (t : Thresholds) : Prop where
  keys : SameKeys fs thresholdFields
  minimumObservedSamples :
    Json.get fs "minimum_observed_samples" = .int t.minimumObservedSamples ∧
      1 ≤ t.minimumObservedSamples
  minimumIndependentGroups :
    Json.get fs "minimum_independent_groups" = .int t.minimumIndependentGroups ∧
      1 ≤ t.minimumIndependentGroups
  maximumHoldoutMae : asNumber fl (Json.get fs "maximum_holdout_mae") = some t.maximumHoldoutMae ∧
    0 ≤ t.maximumHoldoutMae ∧ t.maximumHoldoutMae ≤ 2
  minimumSpearmanCorrelation :
    asNumber fl (Json.get fs "minimum_spearman_correlation") = some t.minimumSpearmanCorrelation ∧
      0 ≤ t.minimumSpearmanCorrelation ∧ t.minimumSpearmanCorrelation ≤ 1
  minimumSelectionConfidence :
    asNumber fl (Json.get fs "minimum_selection_confidence") = some t.minimumSelectionConfidence ∧
      0 ≤ t.minimumSelectionConfidence ∧ t.minimumSelectionConfidence ≤ 1
  maximumOodFeatureRatio :
    asNumber fl (Json.get fs "maximum_ood_feature_ratio") = some t.maximumOodFeatureRatio ∧
      0 ≤ t.maximumOodFeatureRatio ∧ t.maximumOodFeatureRatio ≤ 1

theorem thresholds_eq_ok {v : Json} {t : Thresholds} :
    thresholds fl v = .ok t ↔ ∃ fs, v = .obj fs ∧ HoldsThresholds fl fs t := by
  constructor
  · intro h
    unfold thresholds at h
    split at h
    · rename_i fs
      obtain ⟨_, hkeys, h⟩ := bind_eq_ok h
      obtain ⟨samples, hsamples, h⟩ := bind_eq_ok h
      obtain ⟨groups, hgroups, h⟩ := bind_eq_ok h
      obtain ⟨mae, hmae, h⟩ := bind_eq_ok h
      obtain ⟨spearman, hspearman, h⟩ := bind_eq_ok h
      obtain ⟨confidence, hconfidence, h⟩ := bind_eq_ok h
      obtain ⟨ratio, hratio, h⟩ := bind_eq_ok h
      cases h
      exact ⟨fs, rfl, not_not.1 (rejectIf_eq_ok.1 hkeys), integer_eq_ok.1 hsamples,
        integer_eq_ok.1 hgroups, boundedNumber_eq_ok.1 hmae, boundedNumber_eq_ok.1 hspearman,
        boundedNumber_eq_ok.1 hconfidence, boundedNumber_eq_ok.1 hratio⟩
    · cases h
  · rintro ⟨fs, rfl, h⟩
    unfold thresholds
    simp only [bind, Except.bind, rejectIf_eq_ok.2 (not_not.2 h.keys),
      integer_eq_ok.2 h.minimumObservedSamples, integer_eq_ok.2 h.minimumIndependentGroups,
      boundedNumber_eq_ok.2 h.maximumHoldoutMae, boundedNumber_eq_ok.2 h.minimumSpearmanCorrelation,
      boundedNumber_eq_ok.2 h.minimumSelectionConfidence,
      boundedNumber_eq_ok.2 h.maximumOodFeatureRatio]
    rfl

theorem text_eq_ok {v : Json} {field s : String} :
    text v field = .ok s ↔ v = .str s ∧ checkText s field = .ok () := by
  constructor
  · intro h
    unfold text at h
    split at h
    · obtain ⟨_, htext, h⟩ := bind_eq_ok h
      cases h
      exact ⟨rfl, htext⟩
    · cases h
  · rintro ⟨rfl, htext⟩
    simp only [text, bind, Except.bind, htext]
    rfl

/-- A lineage hash that passes. -/
def IsLineageHash (s : String) : Prop :=
  checkText s "training_provenance.training_lineage_group_hashes[]" = .ok () ∧
    validateSha256 s "training_provenance.training_lineage_group_hashes[]" = .ok ()

theorem lineageHash_eq_ok {v : Json} {s : String} :
    lineageHash v = .ok s ↔ v = .str s ∧ IsLineageHash s := by
  constructor
  · intro h
    obtain ⟨s', hs', h⟩ := bind_eq_ok h
    obtain ⟨_, hsha, h⟩ := bind_eq_ok h
    cases h
    obtain ⟨rfl, htext⟩ := text_eq_ok.1 hs'
    exact ⟨rfl, htext, hsha⟩
  · rintro ⟨rfl, htext, hsha⟩
    have hs := text_eq_ok (v := .str s).2 ⟨rfl, htext⟩
    simp only [lineageHash, bind, Except.bind, hs, hsha]
    rfl

theorem lineageHashes_eq_ok {v : Json} {hashes : List String} :
    lineageHashes v = .ok hashes ↔ v = .texts hashes ∧ (∀ s ∈ hashes, IsLineageHash s) ∧
      hashes.Pairwise (· ≤ ·) ∧ hashes.Nodup := by
  constructor
  · intro h
    unfold lineageHashes at h
    split at h
    · rename_i items
      obtain ⟨hashes', hitems, h⟩ := bind_eq_ok h
      obtain ⟨_, hsorted, h⟩ := bind_eq_ok h
      cases h
      have hsorted := rejectIf_eq_ok.1 hsorted
      rw [not_or, not_not, not_not] at hsorted
      obtain ⟨rfl, hall⟩ := (mapM_eq_ok_iff_map fun _ _ => lineageHash_eq_ok).1 hitems
      exact ⟨rfl, hall, hsorted⟩
    · cases h
  · rintro ⟨rfl, hhashes, hsorted⟩
    have hitems : (hashes.map Json.str).mapM lineageHash = .ok hashes :=
      mapM_map_ok fun s hs => lineageHash_eq_ok.2 ⟨rfl, hhashes s hs⟩
    have hcheck : ¬(¬hashes.Pairwise (· ≤ ·) ∨ ¬hashes.Nodup) := by
      rw [not_or, not_not, not_not]
      exact hsorted
    simp only [lineageHashes, Json.texts, Json.ofList, bind, Except.bind, hitems,
      rejectIf_eq_ok.2 hcheck]
    rfl

theorem provenanceSeed_eq_ok {v : Json} {i : ℤ} : provenanceSeed v = .ok i ↔ v = .int i := by
  unfold provenanceSeed
  split
  · simp
  · rename_i hv
    constructor
    · intro h
      cases h
    · exact fun h => absurd h (hv i)

/-- What the fields of `training_provenance` hold. -/
structure HoldsProvenance (fl : Floats py) (fs : Fields) (p : Provenance) : Prop where
  keys : SameKeys fs provenanceFields
  seed : Json.get fs "seed" = .int p.seed
  ridgeAlpha : asNumber fl (Json.get fs "ridge_alpha") = some p.ridgeAlpha ∧ 0 < p.ridgeAlpha
  holdoutTestFraction :
    asNumber fl (Json.get fs "holdout_test_fraction") = some p.holdoutTestFraction ∧
      0 < p.holdoutTestFraction ∧ p.holdoutTestFraction < 1
  thresholds : ∃ ts, Json.get fs "eligibility_thresholds" = .obj ts ∧
    HoldsThresholds fl ts p.thresholds
  lineageGroupHashes :
    Json.get fs "training_lineage_group_hashes" = .texts p.lineageGroupHashes ∧
      (∀ s ∈ p.lineageGroupHashes, IsLineageHash s) ∧ p.lineageGroupHashes.Pairwise (· ≤ ·) ∧
      p.lineageGroupHashes.Nodup

theorem trainingProvenance_eq_ok {fs : Fields} {p : Provenance} :
    trainingProvenance fl (.obj fs) = .ok p ↔ HoldsProvenance fl fs p := by
  constructor
  · intro h
    obtain ⟨_, hkeys, h⟩ := bind_eq_ok h
    obtain ⟨seed, hseed, h⟩ := bind_eq_ok h
    obtain ⟨alpha, halpha, h⟩ := bind_eq_ok h
    obtain ⟨_, hpositive, h⟩ := bind_eq_ok h
    obtain ⟨fraction, hfraction, h⟩ := bind_eq_ok h
    obtain ⟨_, hbetween, h⟩ := bind_eq_ok h
    obtain ⟨ts, hts, h⟩ := bind_eq_ok h
    obtain ⟨hashes, hhashes, h⟩ := bind_eq_ok h
    cases h
    exact ⟨not_not.1 (rejectIf_eq_ok.1 hkeys), provenanceSeed_eq_ok.1 hseed,
      ⟨number_eq_ok.1 halpha, not_le.1 (rejectIf_eq_ok.1 hpositive)⟩,
      ⟨number_eq_ok.1 hfraction, not_not.1 (rejectIf_eq_ok.1 hbetween)⟩,
      thresholds_eq_ok.1 hts, lineageHashes_eq_ok.1 hhashes⟩
  · intro h
    simp only [trainingProvenance, bind, Except.bind, rejectIf_eq_ok.2 (not_not.2 h.keys),
      provenanceSeed_eq_ok.2 h.seed, number_eq_ok.2 h.ridgeAlpha.1,
      rejectIf_eq_ok.2 (not_le.2 h.ridgeAlpha.2), number_eq_ok.2 h.holdoutTestFraction.1,
      rejectIf_eq_ok.2 (not_not.2 h.holdoutTestFraction.2), thresholds_eq_ok.2 h.thresholds,
      lineageHashes_eq_ok.2 h.lineageGroupHashes]
    rfl

theorem HoldsThresholds.toDict {ts gs : Fields} {t : Thresholds} (h : HoldsThresholds fl ts t)
    (hkeys : SameKeys gs thresholdFields) (hget : ∀ k, Json.get gs k = Json.get t.toDict k) :
    HoldsThresholds fl gs t where
  keys := hkeys
  minimumObservedSamples :=
    ⟨by simp [hget, Thresholds.toDict], h.minimumObservedSamples.2⟩
  minimumIndependentGroups :=
    ⟨by simp [hget, Thresholds.toDict, Json.get_cons_ne], h.minimumIndependentGroups.2⟩
  maximumHoldoutMae :=
    ⟨by simp [hget, Thresholds.toDict, Json.get_cons_ne, asNumber, Json.number],
      h.maximumHoldoutMae.2⟩
  minimumSpearmanCorrelation :=
    ⟨by simp [hget, Thresholds.toDict, Json.get_cons_ne, asNumber, Json.number],
      h.minimumSpearmanCorrelation.2⟩
  minimumSelectionConfidence :=
    ⟨by simp [hget, Thresholds.toDict, Json.get_cons_ne, asNumber, Json.number],
      h.minimumSelectionConfidence.2⟩
  maximumOodFeatureRatio :=
    ⟨by simp [hget, Thresholds.toDict, Json.get_cons_ne, asNumber, Json.number],
      h.maximumOodFeatureRatio.2⟩

theorem sameKeys_self (fs : Fields) : SameKeys fs (fs.map Prod.fst) :=
  sameKeys_iff.2 fun _ => Iff.rfl

theorem Thresholds.nodup_keys (t : Thresholds) : (t.toDict.map Prod.fst).Nodup := by
  simp [Thresholds.toDict]

theorem Provenance.nodup_keys (p : Provenance) : (p.toDict.map Prod.fst).Nodup := by
  simp [Provenance.toDict]

theorem sortKeys_texts (l : List String) : sortKeys (.texts l) = .texts l := by
  have hleaf : l.map (sortKeys ∘ Json.str) = l.map Json.str := List.map_congr_left fun _ _ => rfl
  rw [Json.texts, Json.ofList, sortKeys, sortItems_eq_map, List.map_map, hleaf]

/-- The normalised provenance is decoded to itself, sorted or not. -/
theorem HoldsProvenance.toDict {fs gs : Fields} {p : Provenance} (h : HoldsProvenance fl fs p)
    (hgs : gs = p.toDict ∨ gs = sortedFields p.toDict) : HoldsProvenance fl gs p := by
  obtain ⟨ts, _, hthresholds⟩ := h.thresholds
  have hsorted : ∀ k, Json.get (sortedFields p.thresholds.toDict) k
      = Json.get p.thresholds.toDict k := by
    refine get_sortedFields_of_leaves p.thresholds.nodup_keys ?_
    simp [Thresholds.toDict, sortKeys, Json.number]
  have hkeys : SameKeys gs provenanceFields := by
    rcases hgs with rfl | rfl
    · exact sameKeys_self p.toDict
    · exact sameKeys_sortedFields.2 (sameKeys_self p.toDict)
  have hget : ∀ k, Json.get gs k = Json.get p.toDict k ∨
      Json.get gs k = sortKeys (Json.get p.toDict k) := by
    intro k
    rcases hgs with rfl | rfl
    · exact .inl rfl
    · exact .inr (get_sortedFields p.nodup_keys k)
  have hleaf : ∀ {k v}, Json.get p.toDict k = v → sortKeys v = v → Json.get gs k = v := by
    intro k v hv hsame
    rcases hget k with hk | hk
    · rw [hk, hv]
    · rw [hk, hv, hsame]
  refine ⟨hkeys, ?_, ⟨?_, h.ridgeAlpha.2⟩, ⟨?_, h.holdoutTestFraction.2⟩, ?_,
    ⟨?_, h.lineageGroupHashes.2⟩⟩
  · exact hleaf (by simp [Provenance.toDict]) rfl
  · rw [hleaf (v := .number p.ridgeAlpha) (by simp [Provenance.toDict, Json.get_cons_ne]) rfl]
    rfl
  · rw [hleaf (v := .number p.holdoutTestFraction)
      (by simp [Provenance.toDict, Json.get_cons_ne]) rfl]
    rfl
  · have hthresholdsKeys : SameKeys p.thresholds.toDict thresholdFields :=
      sameKeys_self p.thresholds.toDict
    have hvalue : Json.get p.toDict "eligibility_thresholds" = .obj p.thresholds.toDict := by
      simp [Provenance.toDict, Json.get_cons_ne]
    rcases hget "eligibility_thresholds" with hk | hk
    · exact ⟨p.thresholds.toDict, by rw [hk, hvalue],
        hthresholds.toDict hthresholdsKeys fun _ => rfl⟩
    · exact ⟨sortedFields p.thresholds.toDict, by rw [hk, hvalue]; rfl,
        hthresholds.toDict (sameKeys_sortedFields.2 hthresholdsKeys) hsorted⟩
  · exact hleaf (by simp [Provenance.toDict, Json.get_cons_ne]) (sortKeys_texts _)

end Numbers

/-! ### Acceptance -/

namespace PartitionRankerModelArtifact

variable {py : Python} {fl : Floats py} {sha256 : String → String}

/-- What `_validate` has checked. -/
structure Accepted (fl : Floats py) (a : PartitionRankerModelArtifact) (p : Provenance) : Prop where
  schemaVersion : a.schemaVersion = modelArtifactSchemaVersion
  modelType : checkText a.modelType "model_type" = .ok ()
  modelVersion : validateModelVersion a.modelVersion = .ok ()
  trainedAt : checkText a.trainedAt "trained_at" = .ok ()
  trainingScope : checkText a.trainingScope "training_scope" = .ok ()
  featureSchemaVersion : a.featureSchemaVersion = Partition.featureSchemaVersion
  featureOrder : a.featureOrder = Partition.featureOrder
  trainingDatasetHash : validateSha256 a.trainingDatasetHash "training_dataset_hash" = .ok ()
  sampleCount : 0 ≤ a.sampleCount
  groupCount : 0 ≤ a.groupCount
  featureMean : validateVector fl a.featureMean "feature_mean" false = .ok ()
  featureScale : validateVector fl a.featureScale "feature_scale" true = .ok ()
  coefficients : validateVector fl a.coefficients "coefficients" false = .ok ()
  intercept : ∃ q, asNumber fl a.intercept = some q
  rangeKeys : SameKeys a.trainingFeatureRanges Partition.featureOrder
  ranges : ∀ name ∈ Partition.featureOrder, IsRange fl (Json.get a.trainingFeatureRanges name)
  metrics : ∀ f ∈ a.validationMetrics, IsNumericEntry fl "validation_metrics" f
  metricKeys : SameKeys a.validationMetrics validationMetricKeys
  policy : ∀ f ∈ a.confidencePolicy, IsNumericEntry fl "confidence_policy" f
  provenance : HoldsProvenance fl a.trainingProvenance p
  groups : a.groupCount = p.lineageGroupHashes.length

theorem validate_eq_ok {requireHash : Bool} {a : PartitionRankerModelArtifact} {p : Provenance} :
    validate fl requireHash a = .ok p ↔ Accepted fl a p ∧
      (requireHash = true → validateSha256 a.artifactHash "artifact_hash" = .ok ()) := by
  constructor
  · intro h
    obtain ⟨_, h1, h⟩ := bind_eq_ok h
    obtain ⟨_, h2, h⟩ := bind_eq_ok h
    obtain ⟨_, h3, h⟩ := bind_eq_ok h
    obtain ⟨_, h4, h⟩ := bind_eq_ok h
    obtain ⟨_, h5, h⟩ := bind_eq_ok h
    obtain ⟨_, h6, h⟩ := bind_eq_ok h
    obtain ⟨_, h7, h⟩ := bind_eq_ok h
    obtain ⟨_, h8, h⟩ := bind_eq_ok h
    obtain ⟨_, h9, h⟩ := bind_eq_ok h
    obtain ⟨_, h10, h⟩ := bind_eq_ok h
    obtain ⟨_, h11, h⟩ := bind_eq_ok h
    obtain ⟨_, h12, h⟩ := bind_eq_ok h
    obtain ⟨_, h13, h⟩ := bind_eq_ok h
    obtain ⟨intercept, h14, h⟩ := bind_eq_ok h
    obtain ⟨_, h15, h⟩ := bind_eq_ok h
    obtain ⟨metrics, h16, h⟩ := bind_eq_ok h
    obtain ⟨policy, h17, h⟩ := bind_eq_ok h
    obtain ⟨p', h18, h⟩ := bind_eq_ok h
    obtain ⟨_, h19, h⟩ := bind_eq_ok h
    obtain ⟨hsample, hsamples⟩ := integer_eq_ok.1 h9
    obtain ⟨hgroup, hgroups⟩ := integer_eq_ok.1 h10
    cases hsample
    cases hgroup
    have hranges := validateFeatureRanges_eq_ok.1 h15
    have hmetrics := (validationMetrics_eq_ok.1 h16).1
    have hp : p' = p ∧ (requireHash = true → validateSha256 a.artifactHash "artifact_hash" = .ok ()) := by
      cases requireHash
      · cases h
        exact ⟨rfl, fun h => by cases h⟩
      · obtain ⟨_, h20, h⟩ := bind_eq_ok h
        cases h
        exact ⟨rfl, fun _ => h20⟩
    obtain ⟨rfl, hhash⟩ := hp
    exact ⟨⟨not_not.1 (rejectIf_eq_ok.1 h1), h2, h3, h4, h5, not_not.1 (rejectIf_eq_ok.1 h6),
      not_not.1 (rejectIf_eq_ok.1 h7), h8, hsamples, hgroups, h11, h12, h13,
      ⟨intercept, number_eq_ok.1 h14⟩, hranges.1, hranges.2, hmetrics.1, hmetrics.2,
      (numericMapping_eq_ok.1 h17).1, trainingProvenance_eq_ok.1 h18,
      not_not.1 (rejectIf_eq_ok.1 h19)⟩, hhash⟩
  · rintro ⟨h, hhash⟩
    obtain ⟨q, hq⟩ := h.intercept
    have hsample : integer (.int a.sampleCount) "sample_count" 0 = .ok a.sampleCount :=
      integer_eq_ok.2 ⟨rfl, h.sampleCount⟩
    have hgroup : integer (.int a.groupCount) "group_count" 0 = .ok a.groupCount :=
      integer_eq_ok.2 ⟨rfl, h.groupCount⟩
    unfold validate
    simp only [bind, Except.bind, rejectIf_eq_ok.2 (not_not.2 h.schemaVersion), h.modelType,
      h.modelVersion, h.trainedAt, h.trainingScope, rejectIf_eq_ok.2 (not_not.2 h.featureSchemaVersion),
      rejectIf_eq_ok.2 (not_not.2 h.featureOrder), h.trainingDatasetHash, hsample, hgroup,
      h.featureMean, h.featureScale, h.coefficients, number_eq_ok.2 hq,
      validateFeatureRanges_eq_ok.2 ⟨h.rangeKeys, h.ranges⟩,
      validationMetrics_eq_ok.2 ⟨⟨h.metrics, h.metricKeys⟩, rfl⟩,
      numericMapping_eq_ok.2 ⟨h.policy, rfl⟩, trainingProvenance_eq_ok.2 h.provenance,
      rejectIf_eq_ok.2 (not_not.2 h.groups)]
    cases requireHash
    · rfl
    · simp only [if_true, hhash rfl]
      rfl

/-! ### What `from_dict` returns -/

/-- The artifact with its numbers as `from_dict` stores them. -/
def asFloats (fl : Floats py) (a : PartitionRankerModelArtifact) (p : Provenance) :
    PartitionRankerModelArtifact :=
  { a with
    featureMean := a.featureMean.map (asFloat fl)
    featureScale := a.featureScale.map (asFloat fl)
    coefficients := a.coefficients.map (asFloat fl)
    intercept := asFloat fl a.intercept
    trainingFeatureRanges := floatRanges fl a.trainingFeatureRanges
    validationMetrics := floatFields fl (sortedFields a.validationMetrics)
    confidencePolicy := floatFields fl (sortedFields a.confidencePolicy)
    trainingProvenance := p.toDict }

/-- The document that `save` writes. -/
def document (a : PartitionRankerModelArtifact) (p : Provenance) : Fields :=
  a.hashedFields p ++ [("artifact_hash", .str a.artifactHash)]

variable {a : PartitionRankerModelArtifact} {p : Provenance}

theorem areNumberFields_of_entries {fs : Fields} {field : String}
    (h : ∀ f ∈ fs, IsNumericEntry fl field f) : AreNumberFields fl fs := fun f hf => (h f hf).2

/-- Sorting a mapping of accepted entries keeps them. -/
theorem isNumericEntry_sortedFields {fs : Fields} {field : String}
    (h : ∀ f ∈ fs, IsNumericEntry fl field f) :
    ∀ f ∈ sortedFields fs, IsNumericEntry fl field f := fun f hf =>
  h f ((sortedFields_of_numbers (areNumberFields_of_entries h)).mem_iff.1 hf)

/-- **What was accepted is accepted as it is stored.** -/
theorem Accepted.asFloats (h : Accepted fl a p) : Accepted fl (asFloats fl a p) p := by
  obtain ⟨q, hq⟩ := h.intercept
  exact { h with
    featureMean := validateVector_asFloat h.featureMean
    featureScale := validateVector_asFloat h.featureScale
    coefficients := validateVector_asFloat h.coefficients
    intercept := ⟨q, asNumber_asFloat hq⟩
    rangeKeys := sameKeys_iff.2 fun k => by
      show k ∈ (floatRanges fl a.trainingFeatureRanges).map Prod.fst ↔ _
      rw [floatRanges, keys_map_names]
    ranges := fun name hname => by
      show IsRange fl (Json.get (floatRanges fl a.trainingFeatureRanges) name)
      rw [floatRanges, get_map_names hname]
      exact (h.ranges name hname).floatPair
    metrics := isNumericEntry_floatFields (isNumericEntry_sortedFields h.metrics) (.refl _)
    metricKeys := by
      have hkeys := sameKeys_sortedFields.2 h.metricKeys
      rw [sameKeys_iff] at hkeys ⊢
      intro k
      rw [← hkeys k]
      show k ∈ (floatFields fl _).map Prod.fst ↔ _
      rw [keys_floatFields]
    policy := isNumericEntry_floatFields (isNumericEntry_sortedFields h.policy) (.refl _)
    provenance := h.provenance.toDict (.inl rfl) }

theorem checkText_eq_ok {s field : String} : checkText s field = .ok () ↔ s ≠ "" ∧ s = Text.strip s := by
  unfold checkText
  rw [checks_seq, rejectIf_eq_ok, rejectIf_eq_ok, not_not]

theorem checkText_of_sha256 {s field : String} (h : validateSha256 s field = .ok ()) (field' : String) :
    checkText s field' = .ok () := by
  obtain ⟨_, htext, _⟩ := bind_eq_ok h
  exact checkText_eq_ok.2 (checkText_eq_ok.1 htext)

theorem checkText_of_version {s : String} (h : validateModelVersion s = .ok ()) :
    checkText s "model_version" = .ok () := by
  obtain ⟨_, htext, _⟩ := bind_eq_ok h
  exact htext

theorem keys_document (a : PartitionRankerModelArtifact) (p : Provenance) :
    (a.document p).map Prod.fst = artifactFields := rfl

theorem nodup_artifactFields : artifactFields.Nodup := by decide

theorem nodup_featureOrder : Partition.featureOrder.Nodup := by simp [Partition.featureOrder]

/-- The feature names are texts that `_text` accepts. -/
theorem textTuple_featureOrder :
    textTuple (.texts Partition.featureOrder) "feature_order" = .ok Partition.featureOrder := by
  have hproper : ∀ s ∈ Partition.featureOrder, s ≠ "" ∧ s = Text.strip s := by decide +kernel
  exact mapM_map_ok fun s hs => text_eq_ok.2 ⟨rfl, checkText_eq_ok.2 (hproper s hs)⟩

/-- A value of the document, read from the sorted document. -/
theorem get_document (a : PartitionRankerModelArtifact) (p : Provenance) {k : String} {v : Json}
    (h : Json.get (a.document p) k = v) :
    Json.get (sortedFields (a.document p)) k = sortKeys v := by
  rw [get_sortedFields (by rw [keys_document]; exact nodup_artifactFields), h]

/-- **`from_dict` accepts the document** of an accepted artifact, and stores its numbers as
floats. -/
theorem fromDict_document (h : Accepted fl a p)
    (hhash : validateSha256 a.artifactHash "artifact_hash" = .ok ()) :
    fromDict fl (sortedFields (a.document p)) = .ok (asFloats fl a p) := by
  have hkeys : SameKeys (sortedFields (a.document p)) artifactFields :=
    sameKeys_sortedFields.2 (sameKeys_self (a.document p))
  have hmean := areNumbers_of_validateVector h.featureMean
  have hscale := areNumbers_of_validateVector h.featureScale
  have hcoefficients := areNumbers_of_validateVector h.coefficients
  obtain ⟨q, hq⟩ := h.intercept
  have htext : ∀ {k s : String}, Json.get (a.document p) k = .str s → checkText s k = .ok () →
      text (Json.get (sortedFields (a.document p)) k) k = .ok s := by
    intro k s hk hs
    rw [get_document a p hk]
    exact text_eq_ok.2 ⟨rfl, hs⟩
  have hinteger : ∀ {k : String} {i : ℤ}, Json.get (a.document p) k = .int i → 0 ≤ i →
      integer (Json.get (sortedFields (a.document p)) k) k 0 = .ok i := by
    intro k i hk hi
    rw [get_document a p hk]
    exact integer_eq_ok.2 ⟨rfl, hi⟩
  have hvector : ∀ {k : String} {vs : List Json}, Json.get (a.document p) k = .arr vs →
      AreNumbers fl vs → numberTuple fl (Json.get (sortedFields (a.document p)) k) k
        = .ok (vs.map (Learning.asFloat fl)) := by
    intro k vs hk hvs
    rw [get_document a p hk, sortKeys, sortItems_of_numbers hvs]
    exact numberTuple_eq_ok hvs k
  have hschema := htext (k := "schema_version") rfl (checkText_eq_ok.2 (by rw [h.schemaVersion]; decide))
  have htype := htext (k := "model_type") rfl h.modelType
  have hversion := htext (k := "model_version") rfl (checkText_of_version h.modelVersion)
  have hfeatureSchema := htext (k := "feature_schema_version") rfl
    (checkText_eq_ok.2 (by rw [h.featureSchemaVersion]; decide))
  have htrained := htext (k := "trained_at") rfl h.trainedAt
  have hdataset := htext (k := "training_dataset_hash") rfl
    (checkText_of_sha256 h.trainingDatasetHash _)
  have hscope := htext (k := "training_scope") rfl h.trainingScope
  have hartifact := htext (k := "artifact_hash") rfl (checkText_of_sha256 hhash _)
  have hsample := hinteger (k := "sample_count") rfl h.sampleCount
  have hgroup := hinteger (k := "group_count") rfl h.groupCount
  have horder : textTuple (Json.get (sortedFields (a.document p)) "feature_order") "feature_order"
      = .ok a.featureOrder := by
    rw [get_document a p (k := "feature_order") (v := .texts a.featureOrder) rfl, sortKeys_texts, h.featureOrder]
    exact textTuple_featureOrder
  have hmeans := hvector (k := "feature_mean") rfl hmean
  have hscales := hvector (k := "feature_scale") rfl hscale
  have hcoeffs := hvector (k := "coefficients") rfl hcoefficients
  have hintercept : number fl (Json.get (sortedFields (a.document p)) "intercept") "intercept"
      = .ok q := by
    rw [get_document a p (k := "intercept") (v := a.intercept) rfl, sortKeys_of_number hq]
    exact number_eq_ok.2 hq
  have hfeatureRanges : featureRanges fl
      (Json.get (sortedFields (a.document p)) "training_feature_ranges")
        = .ok (floatRanges fl a.trainingFeatureRanges) := by
    have hnames : ((Partition.featureOrder.map fun name =>
        (name, Json.get a.trainingFeatureRanges name)).map Prod.fst) = Partition.featureOrder :=
      keys_map_names _ _
    rw [get_document a p (k := "training_feature_ranges") (v := .obj (Partition.featureOrder.map fun
      name => (name, Json.get a.trainingFeatureRanges name))) rfl, sortKeys_obj]
    refine featureRanges_eq_ok ?_ h.ranges fun name hname => ?_
    · rw [sameKeys_sortedFields, sameKeys_iff, hnames]
      exact fun _ => Iff.rfl
    · rw [get_sortedFields (by rw [hnames]; exact nodup_featureOrder), get_map_names hname,
        (h.ranges name hname).sortKeys]
  have hmetrics : Learning.validationMetrics fl
      (Json.get (sortedFields (a.document p)) "validation_metrics") "validation_metrics"
        = .ok (floatFields fl (sortedFields a.validationMetrics)) := by
    rw [get_document a p (k := "validation_metrics") (v := .obj a.validationMetrics) rfl, sortKeys_obj]
    exact validationMetrics_eq_ok.2 ⟨⟨isNumericEntry_sortedFields h.metrics,
      sameKeys_sortedFields.2 h.metricKeys⟩, rfl⟩
  have hpolicy : numericMapping fl
      (Json.get (sortedFields (a.document p)) "confidence_policy") "confidence_policy"
        = .ok (floatFields fl (sortedFields a.confidencePolicy)) := by
    rw [get_document a p (k := "confidence_policy") (v := .obj a.confidencePolicy) rfl, sortKeys_obj]
    exact numericMapping_eq_ok.2 ⟨isNumericEntry_sortedFields h.policy, rfl⟩
  have hprovenance : Learning.trainingProvenance fl
      (Json.get (sortedFields (a.document p)) "training_provenance") = .ok p := by
    rw [get_document a p (k := "training_provenance") (v := .obj p.toDict) rfl, sortKeys_obj]
    exact trainingProvenance_eq_ok.2 (h.provenance.toDict (.inr rfl))
  have hvalid : validate fl true (asFloats fl a p) = .ok p :=
    validate_eq_ok.2 ⟨h.asFloats, fun _ => hhash⟩
  have hunknown : ¬∃ f ∈ sortedFields (a.document p), f.1 ∉ artifactFields := by
    rintro ⟨f, hf, hnew⟩
    exact hnew (hkeys.1 f hf)
  have hmissing : ¬∃ name ∈ artifactFields, name ∉ (sortedFields (a.document p)).map Prod.fst := by
    rintro ⟨name, hname, hnew⟩
    exact hnew (hkeys.2 name hname)
  rw [asFloats, asFloat_of_number hq] at hvalid ⊢
  unfold fromDict
  simp only [bind, Except.bind, rejectIf_eq_ok.2 hunknown, rejectIf_eq_ok.2 hmissing, hschema, htype,
    hversion, hfeatureSchema, htrained, hdataset, hscope, hsample, hgroup, horder, hmeans, hscales,
    hcoeffs, hintercept, hfeatureRanges, hmetrics, hpolicy, hprovenance, hartifact, hvalid]
  rfl

end PartitionRankerModelArtifact

end Learning
end AiopsK8s
