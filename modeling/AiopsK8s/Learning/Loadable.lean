/-
# When a saved artifact can be loaded

`save` hashes the artifact as it is in memory, and `get` hashes what it has decoded, where every
number is a float.  An integer among the entries is written `1`, decoded to `1.0` and hashed as
`1.0`, so the digests differ and `get` rejects the file that `save` wrote.

`get_save_iff` is that this is the only way to lose an artifact: `get` returns the artifact that
was saved exactly when no numeric entry is an integer.  The provenance is the exception; its
numbers are decoded before they are hashed, so only a rounded integer is not the same number.
-/

import AiopsK8s.Learning.Registry
import Mathlib.Tactic.Linarith
import Mathlib.Tactic.NormNum

namespace AiopsK8s
namespace Learning

open Effect JsonText
open AiopsK8s.Partition (PartitionError IsHexDigest)

section Values

variable {py : Python} {fl : Floats py}

theorem isValue_asFloat {v : Json} (h : IsValue fl v) : IsValue fl (asFloat fl v) := by
  unfold asFloat
  split
  · rename_i q hq
    exact isFloat_of_number hq h
  · exact h

theorem lookup_floatFields (fs : Fields) (k : String) :
    (floatFields fl fs).lookup k = (fs.lookup k).map (asFloat fl) := by
  induction fs with
  | nil => rfl
  | cons f fs ih =>
      obtain ⟨a, b⟩ := f
      rw [floatFields, List.map_cons, List.lookup_cons, List.lookup_cons]
      rcases ha : k == a with _ | _
      · exact ih
      · rfl

/-- A mapping of numbers and its stored form are one document when the numbers are floats. -/
theorem sortKeys_floatFields_iff {fs : Fields} (hnodup : (fs.map Prod.fst).Nodup)
    (h : AreNumberFields fl fs) :
    sortKeys (.obj (floatFields fl (sortedFields fs))) = sortKeys (.obj fs) ↔
      ∀ f ∈ fs, IsFloatEntry f.2 := by
  have hsorted := nodup_keys_sortedFields hnodup
  rw [sortKeys_obj_eq_iff (by rw [keys_floatFields]; exact hsorted) hnodup]
  have hvalue : ∀ k v, fs.lookup k = some v →
      (((floatFields fl (sortedFields fs)).lookup k).map sortKeys = (fs.lookup k).map sortKeys ↔
        IsFloatEntry v) := by
    intro k v hv
    obtain ⟨q, hq⟩ := h (k, v) ((lookup_eq_some_iff hnodup).1 hv)
    have hq' : asNumber fl v = some q := hq
    rw [lookup_floatFields, lookup_sortedFields hnodup, hv]
    simp only [Option.map_some, Option.some_inj]
    rw [sortKeys_of_number hq', sortKeys_of_number (asNumber_asFloat hq'), asFloat_eq_self_iff hq']
  constructor
  · intro hall f hf
    have hf' : fs.lookup f.1 = some f.2 := (lookup_eq_some_iff hnodup).2 hf
    exact (hvalue f.1 f.2 hf').1 (hall f.1)
  · intro hall k
    rcases hv : fs.lookup k with _ | v
    · rw [lookup_floatFields, lookup_sortedFields hnodup, hv]
      rfl
    · rw [← hv]
      exact (hvalue k v hv).2 (hall (k, v) ((lookup_eq_some_iff hnodup).1 hv))

end Values

namespace PartitionRankerModelArtifact

variable {py : Python} {fl : Floats py} {a : PartitionRankerModelArtifact} {p : Provenance}

/-- The fields are values that a program can hold. -/
structure IsPython (fl : Floats py) (a : PartitionRankerModelArtifact) : Prop where
  featureMean : ∀ v ∈ a.featureMean, IsValue fl v
  featureScale : ∀ v ∈ a.featureScale, IsValue fl v
  coefficients : ∀ v ∈ a.coefficients, IsValue fl v
  intercept : IsValue fl a.intercept
  trainingFeatureRanges : IsValue fl (.obj a.trainingFeatureRanges)
  validationMetrics : IsValue fl (.obj a.validationMetrics)
  confidencePolicy : IsValue fl (.obj a.confidencePolicy)
  trainingProvenance : IsValue fl (.obj a.trainingProvenance)

theorem isValue_provenance (hpy : IsValue fl (.obj a.trainingProvenance))
    (h : HoldsProvenance fl a.trainingProvenance p) : IsValue fl (.obj p.toDict) := by
  obtain ⟨ts, hts, hthresholds⟩ := h.thresholds
  have htspy : IsValue fl (.obj ts) := by
    rw [← hts]
    exact isValue_get hpy _
  have hnumber : ∀ {fs : Fields} {k : String} {q : ℚ}, IsValue fl (.obj fs) →
      asNumber fl (Json.get fs k) = some q → IsValue fl (.number q) := by
    intro fs k q hfs hq
    exact isFloat_of_number hq (isValue_get hfs k)
  have hthresholdsValue : IsValue fl (.obj p.thresholds.toDict) := by
    rw [isValue_obj]
    refine ⟨p.thresholds.nodup_keys, ?_⟩
    simp only [Thresholds.toDict, List.forall_mem_cons]
    exact ⟨trivial, trivial, hnumber htspy hthresholds.maximumHoldoutMae.1,
      hnumber htspy hthresholds.minimumSpearmanCorrelation.1,
      hnumber htspy hthresholds.minimumSelectionConfidence.1,
      hnumber htspy hthresholds.maximumOodFeatureRatio.1, fun f hf => (List.not_mem_nil hf).elim⟩
  rw [isValue_obj]
  refine ⟨p.nodup_keys, ?_⟩
  simp only [Provenance.toDict, List.forall_mem_cons]
  exact ⟨trivial, hnumber hpy h.ridgeAlpha.1, hnumber hpy h.holdoutTestFraction.1, hthresholdsValue,
    isValue_texts _, fun f hf => (List.not_mem_nil hf).elim⟩

theorem isValue_hashedFields (hpy : IsPython fl a) (h : HoldsProvenance fl a.trainingProvenance p) :
    IsValue fl (.obj (a.hashedFields p)) := by
  have hranges : IsValue fl (.obj (Partition.featureOrder.map fun name =>
      (name, Json.get a.trainingFeatureRanges name))) := by
    rw [isValue_obj, keys_map_names]
    refine ⟨nodup_featureOrder, fun f hf => ?_⟩
    obtain ⟨name, _, rfl⟩ := List.mem_map.1 hf
    exact isValue_get hpy.trainingFeatureRanges name
  rw [isValue_obj]
  refine ⟨by simp [hashedFields], ?_⟩
  simp only [hashedFields, List.forall_mem_cons]
  exact ⟨trivial, trivial, trivial, trivial, trivial, trivial, trivial, trivial, trivial,
    isValue_texts _, isValue_arr.2 hpy.featureMean, isValue_arr.2 hpy.featureScale,
    isValue_arr.2 hpy.coefficients, hpy.intercept, hranges, hpy.validationMetrics,
    hpy.confidencePolicy, isValue_provenance hpy.trainingProvenance h,
    fun f hf => (List.not_mem_nil hf).elim⟩

theorem IsPython.asFloats (hpy : IsPython fl a) (h : Accepted fl a p) :
    IsPython fl (asFloats fl a p) := by
  have hvector : ∀ {vs : List Json}, (∀ v ∈ vs, IsValue fl v) →
      ∀ v ∈ vs.map (asFloat fl), IsValue fl v := by
    intro vs hvs v hv
    obtain ⟨w, hw, rfl⟩ := List.mem_map.1 hv
    exact isValue_asFloat (hvs w hw)
  have hmapping : ∀ {fs : Fields}, IsValue fl (.obj fs) →
      IsValue fl (.obj (floatFields fl (sortedFields fs))) := by
    intro fs hfs
    have hsorted : IsValue fl (.obj (sortedFields fs)) := isValue_sortKeys (.obj fs) hfs
    rw [isValue_obj] at hsorted ⊢
    refine ⟨by rw [keys_floatFields]; exact hsorted.1, fun f hf => ?_⟩
    obtain ⟨g, hg, rfl⟩ := List.mem_map.1 hf
    exact isValue_asFloat (hsorted.2 g hg)
  refine ⟨hvector hpy.featureMean, hvector hpy.featureScale, hvector hpy.coefficients,
    isValue_asFloat hpy.intercept, ?_, hmapping hpy.validationMetrics, hmapping hpy.confidencePolicy,
    isValue_provenance hpy.trainingProvenance h.provenance⟩
  show IsValue fl (.obj (floatRanges fl a.trainingFeatureRanges))
  rw [isValue_obj, floatRanges, keys_map_names]
  refine ⟨nodup_featureOrder, fun f hf => ?_⟩
  obtain ⟨name, hname, rfl⟩ := List.mem_map.1 hf
  have hvalue := isValue_get hpy.trainingFeatureRanges name
  obtain ⟨lower, upper, l, u, hv, _⟩ := h.ranges name hname
  rw [hv] at hvalue ⊢
  exact isValue_arr.2 (hvector (isValue_arr.1 hvalue))

/-! ### The digest -/

/-- Every numeric entry is a float. -/
structure AllFloats (a : PartitionRankerModelArtifact) : Prop where
  featureMean : ∀ v ∈ a.featureMean, IsFloatEntry v
  featureScale : ∀ v ∈ a.featureScale, IsFloatEntry v
  coefficients : ∀ v ∈ a.coefficients, IsFloatEntry v
  intercept : IsFloatEntry a.intercept
  trainingFeatureRanges : ∀ f ∈ a.trainingFeatureRanges, ∀ v ∈ pairEntries f.2, IsFloatEntry v
  validationMetrics : ∀ f ∈ a.validationMetrics, IsFloatEntry f.2
  confidencePolicy : ∀ f ∈ a.confidencePolicy, IsFloatEntry f.2

/-- The ranges as `to_dict` writes them. -/
theorem sortKeys_ranges_iff (hpy : IsPython fl a) (h : Accepted fl a p) :
    sortKeys (.obj (Partition.featureOrder.map fun name =>
        (name, Json.get (floatRanges fl a.trainingFeatureRanges) name)))
      = sortKeys (.obj (Partition.featureOrder.map fun name =>
        (name, Json.get a.trainingFeatureRanges name))) ↔
      ∀ f ∈ a.trainingFeatureRanges, ∀ v ∈ pairEntries f.2, IsFloatEntry v := by
  have hnodup : (a.trainingFeatureRanges.map Prod.fst).Nodup :=
    (isValue_obj.1 hpy.trainingFeatureRanges).1
  have hkeys : ∀ F : String → Json,
      ((Partition.featureOrder.map fun name => (name, F name)).map Prod.fst).Nodup := by
    intro F
    rw [keys_map_names]
    exact nodup_featureOrder
  have hrange : ∀ name ∈ Partition.featureOrder,
      Json.get (floatRanges fl a.trainingFeatureRanges) name
        = floatPair fl (Json.get a.trainingFeatureRanges name) := by
    intro name hname
    rw [floatRanges, get_map_names hname]
  constructor
  · intro heq f hf v hv
    have hname : f.1 ∈ Partition.featureOrder := h.rangeKeys.1 f hf
    have hget : Json.get a.trainingFeatureRanges f.1 = f.2 :=
      get_eq_of_lookup ((lookup_eq_some_iff hnodup).2 hf)
    have hfield := (sortKeys_obj_eq_iff (hkeys _) (hkeys _)).1 heq f.1
    rw [lookup_map_names hname, lookup_map_names hname, Option.map_some, Option.map_some,
      Option.some_inj, hrange f.1 hname, (h.ranges f.1 hname).floatPair.sortKeys,
      (h.ranges f.1 hname).sortKeys] at hfield
    have hall := (h.ranges f.1 hname).floatPair_eq_self_iff.1 hfield
    rw [hget] at hall
    exact hall v hv
  · intro hall
    have hmap : (Partition.featureOrder.map fun name =>
        (name, Json.get (floatRanges fl a.trainingFeatureRanges) name))
          = Partition.featureOrder.map fun name =>
            (name, Json.get a.trainingFeatureRanges name) := by
      refine List.map_congr_left fun name hname => ?_
      obtain ⟨v, hv⟩ := exists_lookup (h.rangeKeys.2 name hname)
      have hmem := (lookup_eq_some_iff hnodup).1 hv
      have hfloats := hall (name, v) hmem
      rw [hrange name hname, (h.ranges name hname).floatPair_eq_self_iff.2]
      rw [get_eq_of_lookup hv]
      exact hfloats
    rw [hmap]

/-- **The two hashed documents are one document** exactly when every entry is a float. -/
theorem sortKeys_hashedFields_iff (hpy : IsPython fl a) (h : Accepted fl a p) :
    sortKeys (.obj ((asFloats fl a p).hashedFields p)) = sortKeys (.obj (a.hashedFields p)) ↔
      AllFloats a := by
  have hmean := map_asFloat_eq_self_iff (areNumbers_of_validateVector h.featureMean)
  have hscale := map_asFloat_eq_self_iff (areNumbers_of_validateVector h.featureScale)
  have hcoefficients := map_asFloat_eq_self_iff (areNumbers_of_validateVector h.coefficients)
  have hmetrics := sortKeys_floatFields_iff (isValue_obj.1 hpy.validationMetrics).1
    (areNumberFields_of_entries h.metrics)
  have hpolicy := sortKeys_floatFields_iff (isValue_obj.1 hpy.confidencePolicy).1
    (areNumberFields_of_entries h.policy)
  have hranges := sortKeys_ranges_iff hpy h
  have hintercept : sortKeys (asFloat fl a.intercept) = sortKeys a.intercept ↔
      IsFloatEntry a.intercept := by
    obtain ⟨q, hq⟩ := h.intercept
    rw [sortKeys_of_number hq, sortKeys_of_number (asNumber_asFloat hq), asFloat_eq_self_iff hq]
  have hvector : ∀ {vs : List Json} {field : String} {positive : Bool},
      validateVector fl vs field positive = .ok () →
      sortKeys (.arr (vs.map (asFloat fl))) = sortKeys (.arr vs) → vs.map (asFloat fl) = vs := by
    intro vs field positive hvs heq
    rw [sortKeys, sortKeys, sortItems_of_numbers (areNumbers_of_validateVector hvs),
      sortItems_of_numbers (areNumbers_of_validateVector (validateVector_asFloat hvs))] at heq
    exact Json.arr.inj heq
  constructor
  · intro heq
    have hkeys : ∀ b : PartitionRankerModelArtifact, ((b.hashedFields p).map Prod.fst).Nodup := by
      intro b
      simp [hashedFields]
    have hfield : ∀ {k : String} {v w : Json}, ((asFloats fl a p).hashedFields p).lookup k = some v →
        (a.hashedFields p).lookup k = some w → sortKeys v = sortKeys w := by
      intro k v w hv hw
      have hk := (sortKeys_obj_eq_iff (hkeys _) (hkeys _)).1 heq k
      rw [hv, hw] at hk
      exact Option.some.inj hk
    exact ⟨hmean.1 (hvector h.featureMean (hfield (k := "feature_mean") rfl rfl)),
      hscale.1 (hvector h.featureScale (hfield (k := "feature_scale") rfl rfl)),
      hcoefficients.1 (hvector h.coefficients (hfield (k := "coefficients") rfl rfl)),
      hintercept.1 (hfield (k := "intercept") rfl rfl),
      hranges.1 (hfield (k := "training_feature_ranges") rfl rfl),
      hmetrics.1 (hfield (k := "validation_metrics") rfl rfl),
      hpolicy.1 (hfield (k := "confidence_policy") rfl rfl)⟩
  · intro hall
    refine sortKeys_obj_congr ?_
    simp only [hashedFields, List.forall₂_cons, List.Forall₂.nil, true_and, and_true]
    refine ⟨rfl, rfl, rfl, rfl, rfl, rfl, rfl, rfl, rfl, rfl, ?_, ?_, ?_, hintercept.2 hall.intercept,
      hranges.2 hall.trainingFeatureRanges, hmetrics.2 hall.validationMetrics,
      hpolicy.2 hall.confidencePolicy⟩
    · exact congrArg (fun vs => sortKeys (.arr vs)) (hmean.2 hall.featureMean)
    · exact congrArg (fun vs => sortKeys (.arr vs)) (hscale.2 hall.featureScale)
    · exact congrArg (fun vs => sortKeys (.arr vs)) (hcoefficients.2 hall.coefficients)

/-! ### The saved and the loaded artifact -/

/-- The fields of an artifact. -/
def attributes (a : PartitionRankerModelArtifact) : Fields :=
  [("schema_version", .str a.schemaVersion), ("model_type", .str a.modelType),
    ("model_version", .str a.modelVersion), ("feature_schema_version", .str a.featureSchemaVersion),
    ("trained_at", .str a.trainedAt), ("training_dataset_hash", .str a.trainingDatasetHash),
    ("training_scope", .str a.trainingScope), ("sample_count", .int a.sampleCount),
    ("group_count", .int a.groupCount), ("feature_order", .texts a.featureOrder),
    ("feature_mean", .arr a.featureMean), ("feature_scale", .arr a.featureScale),
    ("coefficients", .arr a.coefficients), ("intercept", a.intercept),
    ("training_feature_ranges", .obj a.trainingFeatureRanges),
    ("validation_metrics", .obj a.validationMetrics), ("confidence_policy", .obj a.confidencePolicy),
    ("training_provenance", .obj a.trainingProvenance), ("artifact_hash", .str a.artifactHash)]

/-- `a == b`: the fields are equal, numbers by their values. -/
def SameArtifact (a b : PartitionRankerModelArtifact) : Prop :=
  SameValue (.obj a.attributes) (.obj b.attributes)

/-- The integer of `ridge_alpha`, if it is one, is a float. -/
def ExactRidgeAlpha (fl : Floats py) (a : PartitionRankerModelArtifact) : Prop :=
  ∀ i, Json.get a.trainingProvenance "ridge_alpha" = .int i → fl.ofInt i = some (i : ℚ)

theorem nodup_attributes (a : PartitionRankerModelArtifact) : (a.attributes.map Prod.fst).Nodup := by
  simp [attributes]

/-- A number and its stored form, where an integer is not rounded. -/
theorem sameValue_of_number {v : Json} {q : ℚ} (h : asNumber fl v = some q)
    (hint : ∀ i : ℤ, v = .int i → (i : ℚ) = q) : SameValue (.number q) v := by
  rcases v with _ | _ | i | x | _ | _ | _
  case int => exact (sameValue_number.2 (hint i rfl)).symm
  case float =>
    rcases x with r | _ | _ | _
    · cases h
      rfl
    all_goals cases h
  all_goals cases h

/-- A number in a range below `2⁵³` and its stored form. -/
theorem sameValue_of_bounded {v : Json} {q maximum : ℚ} (h : asNumber fl v = some q)
    (hq : 0 ≤ q ∧ q ≤ maximum) (hmaximum : maximum ≤ 2) : SameValue (.number q) v := by
  refine sameValue_of_number h fun i hi => ?_
  subst hi
  have hsmall : |q| < 9007199254740992 := by
    rw [abs_of_nonneg hq.1]
    linarith [hq.2]
  exact (fl.ofInt_small i q h hsmall).symm

/-- The provenance that `from_dict` stores is the one in memory, unless `ridge_alpha` is an
integer that is rounded. -/
theorem sameValue_provenance (hpy : IsPython fl a) (h : HoldsProvenance fl a.trainingProvenance p) :
    SameValue (.obj p.toDict) (.obj a.trainingProvenance) ↔ ExactRidgeAlpha fl a := by
  have hnodup := (isValue_obj.1 hpy.trainingProvenance).1
  have hgetAlpha : Json.get p.toDict "ridge_alpha" = .number p.ridgeAlpha := rfl
  constructor
  · intro hsame i hi
    have halpha := hsame.get p.nodup_keys hnodup "ridge_alpha"
    have hnumber := h.ridgeAlpha.1
    rw [hgetAlpha, hi] at halpha
    rw [hi] at hnumber
    have heq : (i : ℚ) = p.ridgeAlpha := sameValue_number.1 halpha.symm
    rw [heq]
    exact hnumber
  · intro hexact
    have hkeys := sameKeys_iff.1 h.keys
    obtain ⟨ts, hts, hthresholds⟩ := h.thresholds
    have htsnodup : (ts.map Prod.fst).Nodup := by
      have hvalue := isValue_get hpy.trainingProvenance "eligibility_thresholds"
      rw [hts] at hvalue
      exact (isValue_obj.1 hvalue).1
    have hthresholdsSame : SameValue (.obj p.thresholds.toDict) (.obj ts) := by
      have htskeys := sameKeys_iff.1 hthresholds.keys
      refine sameValue_obj_of_get p.thresholds.nodup_keys htsnodup (fun k => (htskeys k).symm)
        fun k hk => ?_
      simp only [Thresholds.toDict, List.map_cons, List.map_nil, List.mem_cons, List.not_mem_nil,
        or_false] at hk
      rcases hk with rfl | rfl | rfl | rfl | rfl | rfl
      · rw [hthresholds.minimumObservedSamples.1]
        rfl
      · rw [hthresholds.minimumIndependentGroups.1]
        rfl
      · exact sameValue_of_bounded hthresholds.maximumHoldoutMae.1 hthresholds.maximumHoldoutMae.2
          le_rfl
      · exact sameValue_of_bounded hthresholds.minimumSpearmanCorrelation.1
          hthresholds.minimumSpearmanCorrelation.2 (by norm_num)
      · exact sameValue_of_bounded hthresholds.minimumSelectionConfidence.1
          hthresholds.minimumSelectionConfidence.2 (by norm_num)
      · exact sameValue_of_bounded hthresholds.maximumOodFeatureRatio.1
          hthresholds.maximumOodFeatureRatio.2 (by norm_num)
    refine sameValue_obj_of_get p.nodup_keys hnodup (fun k => (hkeys k).symm) fun k hk => ?_
    simp only [Provenance.toDict, List.map_cons, List.map_nil, List.mem_cons, List.not_mem_nil,
      or_false] at hk
    rcases hk with rfl | rfl | rfl | rfl | rfl
    · rw [h.seed]
      rfl
    · refine sameValue_of_number h.ridgeAlpha.1 fun i hi => ?_
      have hnumber := h.ridgeAlpha.1
      rw [hi, asNumber, hexact i hi] at hnumber
      exact Option.some.inj hnumber
    · exact sameValue_of_bounded h.holdoutTestFraction.1
        ⟨h.holdoutTestFraction.2.1.le, h.holdoutTestFraction.2.2.le⟩ (by norm_num)
    · rw [hts]
      exact hthresholdsSame
    · rw [h.lineageGroupHashes.1]
      rfl

theorem sameValue_obj_congr {fs gs : Fields}
    (h : List.Forall₂ (fun f g => f.1 = g.1 ∧ SameValue f.2 g.2) fs gs) :
    SameValue (.obj fs) (.obj gs) := by
  have hfields : sortFields (numericFields fs) = sortFields (numericFields gs) := by
    induction h with
    | nil => rfl
    | cons hfg _ ih =>
        rw [numericFields, numericFields, sortFields, sortFields, ih, hfg.1]
        exact congrArg (fun v => (_, v) :: _) hfg.2
  rw [SameValue, normal, normal, numeric, numeric, sortKeys_obj, sortKeys_obj, sortedFields,
    sortedFields, hfields]

/-- The mappings of numbers that `from_dict` stores are the ones in memory. -/
theorem sameValue_floatFields {fs : Fields} (hnodup : (fs.map Prod.fst).Nodup)
    (h : AreNumberFields fl fs) (hfloats : ∀ f ∈ fs, IsFloatEntry f.2) :
    SameValue (.obj (floatFields fl (sortedFields fs))) (.obj fs) := by
  have hsorted := nodup_keys_sortedFields hnodup
  refine (sameValue_obj_iff (by rw [keys_floatFields]; exact hsorted) hnodup).2 fun k => ?_
  rw [lookup_floatFields, lookup_sortedFields hnodup]
  rcases hv : fs.lookup k with _ | v
  · rfl
  · have hmem := (lookup_eq_some_iff hnodup).1 hv
    obtain ⟨q, hq⟩ := h (k, v) hmem
    have hq' : asNumber fl v = some q := hq
    simp only [Option.map_some]
    rw [sortKeys_of_number hq', (asFloat_eq_self_iff hq').2 (hfloats (k, v) hmem)]

/-- **The loaded artifact is the saved one** when every entry is a float, up to the rounding of
`ridge_alpha`. -/
theorem sameArtifact_asFloats_iff (hpy : IsPython fl a) (h : Accepted fl a p) (hall : AllFloats a) :
    SameArtifact (asFloats fl a p) a ↔ ExactRidgeAlpha fl a := by
  have hprovenance := sameValue_provenance hpy h.provenance
  constructor
  · intro hsame
    exact hprovenance.1 (hsame.get (nodup_attributes _) (nodup_attributes _) "training_provenance")
  · intro hexact
    have hmean : (asFloats fl a p).featureMean = a.featureMean :=
      (map_asFloat_eq_self_iff (areNumbers_of_validateVector h.featureMean)).2 hall.featureMean
    have hscale : (asFloats fl a p).featureScale = a.featureScale :=
      (map_asFloat_eq_self_iff (areNumbers_of_validateVector h.featureScale)).2 hall.featureScale
    have hcoefficients : (asFloats fl a p).coefficients = a.coefficients :=
      (map_asFloat_eq_self_iff (areNumbers_of_validateVector h.coefficients)).2 hall.coefficients
    have hintercept : (asFloats fl a p).intercept = a.intercept := by
      obtain ⟨q, hq⟩ := h.intercept
      exact (asFloat_eq_self_iff hq).2 hall.intercept
    have hnodup := (isValue_obj.1 hpy.trainingFeatureRanges).1
    have hranges : SameValue (.obj (floatRanges fl a.trainingFeatureRanges))
        (.obj a.trainingFeatureRanges) := by
      have hkeys := sameKeys_iff.1 h.rangeKeys
      have hnames : (floatRanges fl a.trainingFeatureRanges).map Prod.fst = Partition.featureOrder :=
        keys_map_names _ _
      refine sameValue_obj_of_get (by rw [hnames]; exact nodup_featureOrder) hnodup
        (fun k => by rw [hnames]; exact (hkeys k).symm) fun k hk => ?_
      rw [hnames] at hk
      obtain ⟨v, hv⟩ := exists_lookup (h.rangeKeys.2 k hk)
      have hfloats := hall.trainingFeatureRanges (k, v) ((lookup_eq_some_iff hnodup).1 hv)
      have hrange := h.ranges k hk
      rw [floatRanges, get_map_names hk, get_eq_of_lookup hv]
      rw [get_eq_of_lookup hv] at hrange
      rw [hrange.floatPair_eq_self_iff.2 hfloats]
      rfl
    refine sameValue_obj_congr ?_
    simp only [attributes, List.forall₂_cons, List.Forall₂.nil, true_and, and_true, hmean, hscale,
      hcoefficients, hintercept]
    exact ⟨rfl, rfl, rfl, rfl, rfl, rfl, rfl, rfl, rfl, rfl, rfl, rfl, rfl, rfl, hranges,
      sameValue_floatFields (isValue_obj.1 hpy.validationMetrics).1
        (areNumberFields_of_entries h.metrics) hall.validationMetrics,
      sameValue_floatFields (isValue_obj.1 hpy.confidencePolicy).1
        (areNumberFields_of_entries h.policy) hall.confidencePolicy, hprovenance.2 hexact, rfl⟩

/-! ### The registry -/

/-- The text that is hashed. -/
def hashedText (py : Python) (a : PartitionRankerModelArtifact) (p : Provenance) : String :=
  canonicalJson py (.obj (a.hashedFields p))

/-- The digests of the document in memory and of the decoded one collide only if the documents
are one text. -/
def DigestsApart (fl : Floats py) (sha256 : String → String) (a : PartitionRankerModelArtifact) :
    Prop :=
  ∀ p, Learning.trainingProvenance fl (.obj a.trainingProvenance) = .ok p →
    sha256 (hashedText py (asFloats fl a p) p) = sha256 (hashedText py a p) →
    hashedText py (asFloats fl a p) p = hashedText py a p

variable {sha256 : String → String}

theorem validate_of_accepted (h : Accepted fl a p) : validate fl false a = .ok p :=
  validate_eq_ok.2 ⟨h, fun hfalse => by cases hfalse⟩

theorem withComputedHash_eq_ok {saved : PartitionRankerModelArtifact}
    (h : a.withComputedHash fl sha256 = .ok saved) :
    ∃ p, Accepted fl a p ∧ saved = { a with artifactHash := sha256 (hashedText py a p) } := by
  obtain ⟨p, hp, h⟩ := bind_eq_ok h
  obtain ⟨hash, hhash, h⟩ := bind_eq_ok h
  cases h
  rw [computedHash, hp] at hhash
  cases hhash
  exact ⟨p, (validate_eq_ok.1 hp).1, rfl⟩

theorem validateSha256_of_hex {s : String} (h : IsHexDigest s) (field : String) :
    validateSha256 s field = .ok () := by
  have hproper := h.proper
  unfold validateSha256
  rw [checks_seq, checkText_eq_ok, rejectIf_eq_ok, not_not]
  exact ⟨⟨hproper.2, hproper.1.symm⟩, h⟩

/-- The digest of an artifact is checked against its own document. -/
theorem verifyHash_eq (h : Accepted fl a p)
    (hhash : validateSha256 a.artifactHash "artifact_hash" = .ok ()) :
    a.verifyHash fl sha256 = rejectIf (a.artifactHash ≠ sha256 (hashedText py a p))
      (invalidArtifact "artifact hash does not match its canonical payload") := by
  have hvalid : validate fl true a = .ok p := validate_eq_ok.2 ⟨h, fun _ => hhash⟩
  unfold verifyHash
  simp only [computedHash, validate_of_accepted h, hvalid, bind, Except.bind, pure, Except.pure]
  rfl

end PartitionRankerModelArtifact

namespace PartitionRankerRepository

open PartitionRankerModelArtifact

variable {py : Python} {fl : Floats py} {sha256 : String → String}
  {r r' : PartitionRankerRepository} {a saved : PartitionRankerModelArtifact} {p : Provenance}

theorem withComputedHash_of_accepted (h : Accepted fl a p) :
    a.withComputedHash fl sha256 = .ok { a with artifactHash := sha256 (hashedText py a p) } := by
  unfold withComputedHash
  simp only [computedHash, validate_of_accepted h, bind, Except.bind, pure, Except.pure]
  rfl

/-- `save` accepts what `_validate` accepts, under a safe path. -/
theorem save_of_accepted (h : Accepted fl a p) (hpath : r.checkPath a.modelVersion = .ok ()) :
    ∃ r', r.save fl sha256 a = .ok r' := by
  have hsaved : Accepted fl { a with artifactHash := sha256 (hashedText py a p) } p := { h with }
  have hdict := validate_of_accepted hsaved
  unfold save
  rw [withComputedHash_of_accepted h]
  simp only [bind, Except.bind, hpath, toDict, hdict, pure, Except.pure]
  exact ⟨_, rfl⟩

/-- What `save` leaves in the registry. -/
theorem save_eq_ok (h : r.save fl sha256 a = .ok r') :
    ∃ p, Accepted fl a p ∧ ∃ saved, saved = { a with artifactHash := sha256 (hashedText py a p) } ∧
      a.withComputedHash fl sha256 = .ok saved ∧ r'.checkPath a.modelVersion = .ok () ∧
      r'.files a.modelVersion = some (canonicalJson py (.obj (saved.document p)) ++ "\n") := by
  obtain ⟨saved, hsaved, h⟩ := bind_eq_ok h
  obtain ⟨_, hpath, h⟩ := bind_eq_ok h
  obtain ⟨payload, hpayload, h⟩ := bind_eq_ok h
  cases h
  obtain ⟨p, hp, rfl⟩ := withComputedHash_eq_ok hsaved
  obtain ⟨p', hp', hpayload⟩ := bind_eq_ok hpayload
  cases hpayload
  have hacc : Accepted fl { a with artifactHash := sha256 (hashedText py a p) } p := { hp with }
  rw [validate_of_accepted hacc] at hp'
  cases hp'
  exact ⟨p, hp, _, rfl, hsaved, hpath, if_pos rfl⟩

/-- `get` decodes the document that `save` wrote and checks its digest. -/
theorem get_document (hpath : r.checkPath a.modelVersion = .ok ()) (hpy : IsPython fl a)
    (h : Accepted fl a p) (hhash : validateSha256 a.artifactHash "artifact_hash" = .ok ())
    (hfile : r.files a.modelVersion = some (canonicalJson py (.obj (a.document p)) ++ "\n")) :
    r.get fl sha256 a.modelVersion = (do
      (asFloats fl a p).verifyHash fl sha256
      return asFloats fl a p) := by
  have hvalue : IsValue fl (.obj (a.document p)) := by
    have hhashed := isValue_obj.1 (isValue_hashedFields hpy h.provenance)
    rw [isValue_obj, keys_document]
    refine ⟨nodup_artifactFields, fun f hf => ?_⟩
    rcases List.mem_append.1 hf with hf | hf
    · exact hhashed.2 f hf
    · rw [List.mem_singleton.1 hf]
      trivial
  have hread : readJson py (r.files a.modelVersion) = .ok (sortedFields (a.document p)) := by
    have hload := loads_canonicalJson (s := "\n") hvalue (by simp [isWhitespace])
    rw [hfile]
    unfold readJson
    rw [Option.bind_some, hload]
    rfl
  unfold get
  rw [hpath]
  simp only [bind, Except.bind]
  rw [hread]
  simp only
  rw [fromDict_document h hhash]

/-- After `save`, `get` decodes the saved artifact and checks its digest. -/
theorem get_save (hhex : ∀ s, IsHexDigest (sha256 s)) (hpy : IsPython fl a)
    (hsaved : a.withComputedHash fl sha256 = .ok saved) (hsave : r.save fl sha256 a = .ok r') :
    ∃ p, Accepted fl a p ∧ r'.get fl sha256 a.modelVersion = (do
      rejectIf (sha256 (hashedText py a p) ≠ sha256 (hashedText py (asFloats fl a p) p))
        (invalidArtifact "artifact hash does not match its canonical payload")
      return asFloats fl saved p) := by
  obtain ⟨p, hp, saved', hsaved', hcomputed, hpath, hfile⟩ := save_eq_ok hsave
  rw [hsaved] at hcomputed
  obtain rfl : saved = saved' := Except.ok.inj hcomputed
  have hversion : saved.modelVersion = a.modelVersion := by rw [hsaved']
  have hhash : validateSha256 saved.artifactHash "artifact_hash" = .ok () := by
    rw [hsaved']
    exact validateSha256_of_hex (hhex _) _
  have haccepted : Accepted fl saved p := by
    rw [hsaved']
    exact { hp with }
  have hsavedPy : IsPython fl saved := by
    rw [hsaved']
    exact { hpy with }
  refine ⟨p, hp, ?_⟩
  rw [← hversion] at hpath hfile ⊢
  rw [get_document hpath hsavedPy haccepted hhash hfile, verifyHash_eq haccepted.asFloats hhash]
  rw [hsaved']
  rfl

/-- The decoded document has the digest of the saved one when the entries are floats. -/
theorem digest_eq_iff (hpy : IsPython fl a) (h : Accepted fl a p)
    (hapart : DigestsApart fl sha256 a) :
    sha256 (hashedText py a p) = sha256 (hashedText py (asFloats fl a p) p) ↔ AllFloats a := by
  have htexts : hashedText py (asFloats fl a p) p = hashedText py a p ↔ AllFloats a :=
    (canonicalJson_inj (isValue_hashedFields (hpy.asFloats h) h.asFloats.provenance)
      (isValue_hashedFields hpy h.provenance)).trans (sortKeys_hashedFields_iff hpy h)
  rw [← htexts]
  constructor
  · intro heq
    exact hapart p (trainingProvenance_eq_ok.2 h.provenance) heq.symm
  · intro heq
    rw [heq]

/-- **A saved artifact can be loaded exactly when its entries are floats.**  `get` returns an
artifact equal to the one that was saved, with its digest, if and only if no entry of the vectors,
the intercept, the ranges, the metrics and the policy is an integer, and `ridge_alpha`, if it is
an integer, is not rounded. -/
theorem get_save_iff (hhex : ∀ s, IsHexDigest (sha256 s)) (hpy : IsPython fl a)
    (hapart : DigestsApart fl sha256 a) (hsaved : a.withComputedHash fl sha256 = .ok saved)
    (hsave : r.save fl sha256 a = .ok r') :
    (∃ b, r'.get fl sha256 a.modelVersion = .ok b ∧ SameArtifact b saved ∧
      b.artifactHash = saved.artifactHash) ↔ AllFloats a ∧ ExactRidgeAlpha fl a := by
  obtain ⟨p, hp, hget⟩ := get_save hhex hpy hsaved hsave
  obtain ⟨p', hp', hsaved'⟩ := withComputedHash_eq_ok hsaved
  have hdigest := digest_eq_iff hpy hp hapart
  have hsame : AllFloats a → (SameArtifact (asFloats fl saved p) saved ↔ ExactRidgeAlpha fl a) := by
    intro hall
    have haccepted : Accepted fl saved p := by
      rw [hsaved']
      exact { hp with }
    have hsavedPy : IsPython fl saved := by
      rw [hsaved']
      exact { hpy with }
    have hallSaved : AllFloats saved := by
      rw [hsaved']
      exact { hall with }
    rw [sameArtifact_asFloats_iff hsavedPy haccepted hallSaved, hsaved']
    rfl
  rw [hget]
  constructor
  · rintro ⟨b, hb, hbsaved, _⟩
    obtain ⟨_, hok, hb⟩ := bind_eq_ok hb
    cases hb
    have hall := hdigest.1 (not_not.1 (rejectIf_eq_ok.1 hok))
    exact ⟨hall, (hsame hall).1 hbsaved⟩
  · rintro ⟨hall, hexact⟩
    refine ⟨asFloats fl saved p, ?_, (hsame hall).2 hexact, rfl⟩
    rw [rejectIf_eq_ok.2 (not_not.2 (hdigest.2 hall))]
    rfl

/-! ### An artifact of the smallest numbers -/

/-- The floats `0.0`, `0.5` and `1.0`. -/
def halves : Python where
  repr
    | .float (.finite q) => if q = 0 then "0.0" else if q = 1 then "1.0" else "0.5"
    | _ => ""
  floatOfText s :=
    if s = "0.0" then some (.finite 0)
    else if s = "1.0" then some (.finite 1)
    else if s = "0.5" then some (.finite (1 / 2))
    else none
  foldChar c := [c]

/-- A literal of one digit on either side of the point. -/
theorem floatLiteral_of_digits {c d : Char} (hc : c.isDigit = true) (hd : d.isDigit = true) :
    FloatLiteral [c, '.', d] := by
  refine ⟨[c], ['.', d], [], rfl, .inl ?_, .inr ⟨[d], rfl, by simp, by simpa using hd⟩, .inl rfl,
    .inl (by simp)⟩
  by_cases hzero : c = '0'
  · rw [hzero]
    exact .inl rfl
  · exact .inr ⟨c, [], rfl, hzero, by simpa using hc⟩

def halvesFloats : Floats halves where
  IsFloat q := q = 0 ∨ q = 1 ∨ q = 1 / 2
  literal := by
    rintro q (rfl | rfl | rfl)
    · exact floatLiteral_of_digits (c := '0') (d := '0') (by decide) (by decide)
    · exact floatLiteral_of_digits (c := '1') (d := '0') (by decide) (by decide)
    · have hhalf : halves.repr (.number (1 / 2)) = "0.5" := by simp [halves, Json.number]
      rw [hhalf]
      exact floatLiteral_of_digits (c := '0') (d := '5') (by decide) (by decide)
  parse := by
    rintro q (rfl | rfl | rfl)
    · rfl
    · rfl
    · simp [halves, Json.number]
  ofInt i := if i = 0 then some 0 else if i = 1 then some 1 else none
  ofInt_isFloat := by
    intro i q h
    split_ifs at h <;> cases h
    · exact .inl rfl
    · exact .inr (.inl rfl)
  ofInt_small := by
    intro i q h _
    split_ifs at h with hzero hone <;> cases h
    · rw [hzero]
      rfl
    · rw [hone]
      rfl

/-- A digest that tells one text from the others. -/
def digestOf (s t : String) : String :=
  String.ofList (List.replicate 64 (if t = s then '0' else '1'))

theorem digestOf_hex (s t : String) : IsHexDigest (digestOf s t) := by
  unfold digestOf IsHexDigest
  rw [String.toList_ofList, List.length_replicate]
  refine ⟨rfl, fun c hc => ?_⟩
  rw [List.eq_of_mem_replicate hc]
  split_ifs <;> decide

theorem digestOf_eq_self {s t : String} (h : digestOf s t = digestOf s s) : t = s := by
  by_contra hne
  rw [digestOf, digestOf, if_neg hne, if_pos rfl] at h
  revert h
  decide

/-- The provenance of a fit without samples. -/
def noSamples : Provenance where
  seed := 0
  ridgeAlpha := 1
  holdoutTestFraction := 1 / 2
  thresholds :=
    { minimumObservedSamples := 1
      minimumIndependentGroups := 1
      maximumHoldoutMae := 1
      minimumSpearmanCorrelation := 1 / 2
      minimumSelectionConfidence := 1 / 2
      maximumOodFeatureRatio := 1 / 2 }
  lineageGroupHashes := []

/-- A model that predicts its intercept. -/
def constantModel (intercept : Json) : PartitionRankerModelArtifact where
  schemaVersion := modelArtifactSchemaVersion
  modelType := "ridge_reward_regressor"
  modelVersion := "v1"
  featureSchemaVersion := Partition.featureSchemaVersion
  trainedAt := "2024-01-01T00:00:00+00:00"
  trainingDatasetHash := digestOf "" ""
  trainingScope := "synthetic"
  sampleCount := 0
  groupCount := 0
  featureOrder := Partition.featureOrder
  featureMean := Partition.featureOrder.map fun _ => .number 0
  featureScale := Partition.featureOrder.map fun _ => .number 1
  coefficients := Partition.featureOrder.map fun _ => .number 0
  intercept
  trainingFeatureRanges := Partition.featureOrder.map fun name => (name, .arr [.number 0, .number 1])
  validationMetrics := validationMetricKeys.map fun name => (name, .number 0)
  confidencePolicy := []
  trainingProvenance := noSamples.toDict
  artifactHash := ""

theorem validateVector_constant {q : ℚ} {field : String} {positive : Bool}
    (h : positive = true → 0 < q) :
    validateVector halvesFloats (Partition.featureOrder.map fun _ => .number q) field positive
      = .ok () := by
  unfold validateVector
  rw [checks_seq, rejectIf_eq_ok, List.length_map]
  refine ⟨not_not.2 rfl, forM_eq_ok.2 fun v hv => ?_⟩
  obtain ⟨_, _, rfl⟩ := List.mem_map.1 hv
  exact rejectIf_eq_ok.2 fun hbad => not_lt.2 hbad.2 (h hbad.1)

theorem accepted_constantModel {intercept : Json} {q : ℚ}
    (h : asNumber halvesFloats intercept = some q) :
    Accepted halvesFloats (constantModel intercept) noSamples where
  schemaVersion := rfl
  modelType := checkText_eq_ok (s := "ridge_reward_regressor").2 (by decide)
  modelVersion := by
    show validateModelVersion "v1" = .ok ()
    unfold validateModelVersion
    rw [checks_seq, checkText_eq_ok, rejectIf_eq_ok]
    decide
  trainedAt := checkText_eq_ok (s := "2024-01-01T00:00:00+00:00").2 (by decide)
  trainingScope := checkText_eq_ok (s := "synthetic").2 (by decide)
  featureSchemaVersion := rfl
  featureOrder := rfl
  trainingDatasetHash := validateSha256_of_hex (digestOf_hex _ _) _
  sampleCount := le_rfl
  groupCount := le_rfl
  featureMean := validateVector_constant (by simp)
  featureScale := validateVector_constant (by simp)
  coefficients := validateVector_constant (by simp)
  intercept := ⟨q, h⟩
  rangeKeys := sameKeys_iff.2 fun k => by
    show k ∈ List.map Prod.fst (List.map _ _) ↔ _
    rw [keys_map_names]
  ranges name hname := by
    show IsRange _ (Json.get (List.map _ _) name)
    rw [get_map_names hname]
    exact ⟨_, _, 0, 1, rfl, rfl, rfl, by norm_num⟩
  metrics f hf := by
    obtain ⟨name, hname, rfl⟩ := List.mem_map.1 hf
    have hproper : ∀ s ∈ validationMetricKeys, s ≠ "" ∧ s = Text.strip s := by decide +kernel
    exact ⟨checkText_eq_ok.2 (hproper name hname), 0, rfl⟩
  metricKeys := sameKeys_iff.2 fun k => by
    show k ∈ List.map Prod.fst (List.map _ _) ↔ _
    rw [keys_map_names]
  policy f hf := by cases hf
  provenance := by
    have hhalf : (0 : ℚ) < 1 / 2 ∧ (1 / 2 : ℚ) < 1 := by norm_num
    have hone : (0 : ℚ) < 1 ∧ (1 : ℚ) ≤ 2 := by norm_num
    exact ⟨sameKeys_self _, rfl, ⟨rfl, hone.1⟩, ⟨rfl, hhalf⟩,
      ⟨_, rfl, sameKeys_self _, ⟨rfl, le_rfl⟩, ⟨rfl, le_rfl⟩, ⟨rfl, hone.1.le, hone.2⟩,
        ⟨rfl, hhalf.1.le, hhalf.2.le⟩, ⟨rfl, hhalf.1.le, hhalf.2.le⟩, ⟨rfl, hhalf.1.le, hhalf.2.le⟩⟩,
      rfl, by simp [noSamples], by simp [noSamples], by simp [noSamples]⟩
  groups := rfl

theorem isValue_half : IsValue halvesFloats (.number (1 / 2)) := Or.inr (Or.inr rfl)

theorem isValue_zero : IsValue halvesFloats (.number 0) := Or.inl rfl

theorem isValue_one : IsValue halvesFloats (.number 1) := Or.inr (Or.inl rfl)

theorem isPython_constantModel {intercept : Json} (h : IsValue halvesFloats intercept) :
    IsPython halvesFloats (constantModel intercept) := by
  have hvector : ∀ {v : Json}, IsValue halvesFloats v →
      ∀ w ∈ Partition.featureOrder.map fun _ => v, IsValue halvesFloats w := by
    intro v hv w hw
    obtain ⟨_, _, rfl⟩ := List.mem_map.1 hw
    exact hv
  have hmapping : ∀ {names : List String} {v : Json}, names.Nodup → IsValue halvesFloats v →
      IsValue halvesFloats (.obj (names.map fun name => (name, v))) := by
    intro names v hnames hv
    rw [isValue_obj, keys_map_names]
    refine ⟨hnames, fun f hf => ?_⟩
    obtain ⟨_, _, rfl⟩ := List.mem_map.1 hf
    exact hv
  have hthresholds : IsValue halvesFloats (.obj noSamples.thresholds.toDict) := by
    rw [isValue_obj]
    refine ⟨noSamples.thresholds.nodup_keys, ?_⟩
    simp only [Thresholds.toDict, List.forall_mem_cons]
    exact ⟨trivial, trivial, isValue_one, isValue_half, isValue_half, isValue_half,
      fun f hf => (List.not_mem_nil hf).elim⟩
  refine ⟨hvector isValue_zero, hvector isValue_one, hvector isValue_zero, h,
    hmapping nodup_featureOrder ?_, hmapping (by decide) isValue_zero, ?_, ?_⟩
  · rw [isValue_arr]
    simpa using ⟨isValue_zero, isValue_one⟩
  · exact isValue_obj.2 ⟨List.nodup_nil, fun f hf => by cases hf⟩
  · show IsValue halvesFloats (.obj noSamples.toDict)
    rw [isValue_obj]
    refine ⟨noSamples.nodup_keys, ?_⟩
    simp only [Provenance.toDict, List.forall_mem_cons]
    exact ⟨trivial, isValue_one, isValue_half, hthresholds, isValue_texts _,
      fun f hf => (List.not_mem_nil hf).elim⟩

theorem allFloats_constantModel {intercept : Json} :
    AllFloats (constantModel intercept) ↔ IsFloatEntry intercept := by
  have hvector : ∀ q : ℚ, ∀ w ∈ Partition.featureOrder.map fun _ => Json.number q,
      IsFloatEntry w := by
    intro q w hw
    obtain ⟨_, _, rfl⟩ := List.mem_map.1 hw
    exact ⟨_, rfl⟩
  refine ⟨fun h => h.intercept, fun h => ⟨hvector 0, hvector 1, hvector 0, h, ?_, ?_, ?_⟩⟩
  · intro f hf v hv
    obtain ⟨_, _, rfl⟩ := List.mem_map.1 hf
    rcases List.mem_pair.1 hv with rfl | rfl
    · exact ⟨_, rfl⟩
    · exact ⟨_, rfl⟩
  · intro f hf
    obtain ⟨_, _, rfl⟩ := List.mem_map.1 hf
    exact ⟨_, rfl⟩
  · intro f hf
    cases hf

theorem provenance_constantModel {intercept : Json} {p : Provenance}
    (h : Learning.trainingProvenance halvesFloats (.obj (constantModel intercept).trainingProvenance)
      = .ok p) : p = noSamples := by
  have haccepted : Accepted halvesFloats (constantModel (.int 0)) noSamples :=
    accepted_constantModel rfl
  have hsame := trainingProvenance_eq_ok.2 haccepted.provenance
  exact Except.ok.inj (h.symm.trans hsame)

/-- A registry without models. -/
def emptyRegistry : PartitionRankerRepository := ⟨fun _ => none, fun _ => false⟩

theorem checkPath_emptyRegistry : emptyRegistry.checkPath "v1" = .ok () := by
  unfold checkPath validateModelVersion
  rw [checks_seq, checks_seq, checkText_eq_ok, rejectIf_eq_ok, rejectIf_eq_ok]
  decide

/-- The intercept `0.0` is loaded. -/
theorem floatIntercept_loads :
    ∃ saved r', (constantModel (.number 0)).withComputedHash halvesFloats (digestOf "") = .ok saved ∧
      emptyRegistry.save halvesFloats (digestOf "") (constantModel (.number 0)) = .ok r' ∧
      ∃ b, r'.get halvesFloats (digestOf "") "v1" = .ok b ∧ SameArtifact b saved ∧
        b.artifactHash = saved.artifactHash := by
  have haccepted : Accepted halvesFloats (constantModel (.number 0)) noSamples :=
    accepted_constantModel rfl
  have hpy := isPython_constantModel isValue_zero
  have hall : AllFloats (constantModel (.number 0)) := allFloats_constantModel.2 ⟨_, rfl⟩
  have hapart : DigestsApart halvesFloats (digestOf "") (constantModel (.number 0)) := by
    intro p hp _
    obtain rfl := provenance_constantModel hp
    have hdecoded := isValue_hashedFields (hpy.asFloats haccepted) haccepted.asFloats.provenance
    rw [hashedText, hashedText,
      canonicalJson_inj hdecoded (isValue_hashedFields hpy haccepted.provenance)]
    exact (sortKeys_hashedFields_iff hpy haccepted).2 hall
  obtain ⟨r', hsave⟩ : ∃ r', emptyRegistry.save halvesFloats (digestOf "") (constantModel (.number 0))
      = .ok r' := save_of_accepted haccepted checkPath_emptyRegistry
  refine ⟨_, r', withComputedHash_of_accepted haccepted, hsave, ?_⟩
  refine (get_save_iff (digestOf_hex "") hpy hapart (withComputedHash_of_accepted haccepted)
    hsave).2 ⟨hall, ?_⟩
  intro i hi
  cases hi

/-- The intercept `1` is saved, and `get` rejects the file: it hashes `1.0`. -/
theorem intIntercept_lost :
    ∃ sha256 : String → String, (∀ s, IsHexDigest (sha256 s)) ∧
      IsPython halvesFloats (constantModel (.int 1)) ∧
      DigestsApart halvesFloats sha256 (constantModel (.int 1)) ∧
      ∃ r', emptyRegistry.save halvesFloats sha256 (constantModel (.int 1)) = .ok r' ∧
        r'.get halvesFloats sha256 "v1" = .error
          (invalidArtifact "artifact hash does not match its canonical payload") := by
  have haccepted : Accepted halvesFloats (constantModel (.int 1)) noSamples :=
    accepted_constantModel rfl
  have hpy : IsPython halvesFloats (constantModel (.int 1)) := isPython_constantModel trivial
  let memory := hashedText halves (constantModel (.int 1)) noSamples
  have hapart : DigestsApart halvesFloats (digestOf memory) (constantModel (.int 1)) := by
    intro p hp heq
    obtain rfl := provenance_constantModel hp
    exact digestOf_eq_self heq
  obtain ⟨r', hsave⟩ : ∃ r', emptyRegistry.save halvesFloats (digestOf memory)
      (constantModel (.int 1)) = .ok r' := save_of_accepted haccepted checkPath_emptyRegistry
  refine ⟨digestOf memory, digestOf_hex memory, hpy, hapart, r', hsave, ?_⟩
  obtain ⟨p, hp, hget⟩ := get_save (digestOf_hex memory) hpy
    (withComputedHash_of_accepted haccepted) hsave
  have hnot : ¬ AllFloats (constantModel (.int 1)) := by
    rw [allFloats_constantModel]
    rintro ⟨x, hx⟩
    cases hx
  have hdigest := mt (digest_eq_iff hpy hp hapart).1 hnot
  show r'.get halvesFloats (digestOf memory) (constantModel (.int 1)).modelVersion = _
  rw [hget, rejectIf, if_pos hdigest]
  rfl

end PartitionRankerRepository

end Learning
end AiopsK8s
