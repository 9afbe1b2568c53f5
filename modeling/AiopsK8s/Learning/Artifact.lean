/-
# The artifact of a trained ranker

`PartitionRankerModelArtifact` and `PartitionRankerRepository` of
`partition_ranker_repository.py`.  The annotations say `float`, and the validation admits an
integer as well, so a numeric entry is any value here, and `_number` decides.  A tuple is an
array.

The registry is the text of each `<version>/model.json`, and which of the paths go through a
link.
-/

import AiopsK8s.Lib.JsonSort
import AiopsK8s.Partition.Decode
import AiopsK8s.Partition.Features

namespace AiopsK8s
namespace Learning

open Effect JsonText
open AiopsK8s.Partition (PartitionError IsHexDigest featureOrder featureSchemaVersion)

/-- A mapping. -/
abbrev Fields := List (String × Json)

/-- `MODEL_ARTIFACT_SCHEMA_VERSION`. -/
def modelArtifactSchemaVersion : String := "partition-ranker-model-v2"

/-- `VALIDATION_METRIC_KEYS`. -/
def validationMetricKeys : List String :=
  ["holdout_mae", "mae", "rmse", "spearman_correlation", "candidate_selection_agreement",
    "candidate_selection_agreement_available", "learned_regret", "learned_regret_available",
    "baseline_regret", "baseline_regret_available", "ranking_group_count", "quality_eligible",
    "deployment_eligible"]

/-- `_ARTIFACT_FIELDS`. -/
def artifactFields : List String :=
  ["schema_version", "model_type", "model_version", "feature_schema_version", "trained_at",
    "training_dataset_hash", "training_scope", "sample_count", "group_count", "feature_order",
    "feature_mean", "feature_scale", "coefficients", "intercept", "training_feature_ranges",
    "validation_metrics", "confidence_policy", "training_provenance", "artifact_hash"]

/-- The fields of `training_provenance`. -/
def provenanceFields : List String :=
  ["seed", "ridge_alpha", "holdout_test_fraction", "eligibility_thresholds",
    "training_lineage_group_hashes"]

/-- The fields of `eligibility_thresholds`. -/
def thresholdFields : List String :=
  ["minimum_observed_samples", "minimum_independent_groups", "maximum_holdout_mae",
    "minimum_spearman_correlation", "minimum_selection_confidence", "maximum_ood_feature_ratio"]

/-- `set(mapping) == set(names)`. -/
def SameKeys (fields : Fields) (names : List String) : Prop :=
  (∀ f ∈ fields, f.1 ∈ names) ∧ ∀ name ∈ names, name ∈ fields.map Prod.fst

instance (fields : Fields) (names : List String) : Decidable (SameKeys fields names) :=
  inferInstanceAs (Decidable (_ ∧ _))

/-- `PartitionContractError("invalid_model_artifact", …)`. -/
def invalidArtifact (message : String) : PartitionError := .contract "invalid_model_artifact" message

/-! ### Checks -/

/-- `_text` of a text. -/
def checkText (value field : String) : Except PartitionError Unit := do
  rejectIf (value = "") (invalidArtifact s!"{field} is required")
  rejectIf (value ≠ Text.strip value)
    (invalidArtifact s!"{field} must not contain leading or trailing whitespace")

/-- `_text`. -/
def text (value : Json) (field : String) : Except PartitionError String :=
  match value with
  | .str s => do
      checkText s field
      return s
  | _ => .error (invalidArtifact s!"{field} is required")

/-- The drive of a path without separators: `PureWindowsPath(version).drive`. -/
def hasDrive (version : String) : Bool :=
  match version.toList with
  | _ :: c :: _ => c == ':'
  | _ => false

/-- `_validate_model_version`. -/
def validateModelVersion (version : String) : Except PartitionError Unit := do
  checkText version "model_version"
  rejectIf ('/' ∈ version.toList ∨ '\\' ∈ version.toList ∨ hasDrive version = true ∨
      version ∈ [".", ".."] ∨ version ≠ Python.rstripDots version)
    (invalidArtifact "model_version must be a single safe registry segment")

instance (s : String) : Decidable (IsHexDigest s) :=
  @instDecidableAnd _ _ _ (List.decidableBAll (· ∈ "0123456789abcdef".toList) s.toList)

/-- `_validate_sha256`. -/
def validateSha256 (value field : String) : Except PartitionError Unit := do
  checkText value field
  rejectIf (¬IsHexDigest value)
    (invalidArtifact s!"{field} must be a lowercase SHA-256 hex digest")

/-- `_integer`. -/
def integer (value : Json) (field : String) (minimum : ℤ) : Except PartitionError ℤ :=
  match value with
  | .int i =>
      if i < minimum then
        .error (invalidArtifact s!"{field} must be an integer of at least {minimum}")
      else .ok i
  | _ => .error (invalidArtifact s!"{field} must be an integer of at least {minimum}")

/-- `_text_tuple`. -/
def textTuple (value : Json) (field : String) : Except PartitionError (List String) :=
  match value with
  | .arr items => items.mapM fun item => text item s!"{field}[]"
  | _ => .error (invalidArtifact s!"{field} must be an array")

section Numbers

variable {py : Python} (fl : Floats py)

/-- `_number`. -/
def number (value : Json) (field : String) : Except PartitionError ℚ :=
  match value with
  | .int i =>
      match fl.ofInt i with
      | some q => .ok q
      | none => .error .overflow
  | .float (.finite q) => .ok q
  | .float _ => .error (invalidArtifact s!"{field} must be finite")
  | _ => .error (invalidArtifact s!"{field} must be numeric")

/-- `_bounded_number`, with the texts of its bounds. -/
def boundedNumber (value : Json) (field : String) (minimum maximum : ℚ) (bounds : String) :
    Except PartitionError ℚ := do
  let q ← number fl value field
  rejectIf (¬(minimum ≤ q ∧ q ≤ maximum)) (invalidArtifact s!"{field} must be between {bounds}")
  return q

/-- `_number_tuple`, the numbers as they are stored. -/
def numberTuple (value : Json) (field : String) : Except PartitionError (List Json) :=
  match value with
  | .arr items => items.mapM fun item => do return .number (← number fl item s!"{field}[]")
  | _ => .error (invalidArtifact s!"{field} must be an array")

/-- `_validate_vector`. -/
def validateVector (values : List Json) (field : String) (positive : Bool) :
    Except PartitionError Unit := do
  rejectIf (values.length ≠ featureOrder.length)
    (invalidArtifact s!"{field} must match the fixed feature order")
  values.forM fun value => do
    let q ← number fl value field
    rejectIf (positive = true ∧ q ≤ 0) (invalidArtifact s!"{field} values must be positive")

/-- `lower, upper = value`. -/
def unpackPair : Json → Except PartitionError (Json × Json)
  | .arr [lower, upper] => .ok (lower, upper)
  | .arr _ => .error .value
  | .str s =>
      match s.toList with
      | [a, b] => .ok (.str (String.singleton a), .str (String.singleton b))
      | _ => .error .value
  | .obj [lower, upper] => .ok (.str lower.1, .str upper.1)
  | .obj _ => .error .value
  | _ => .error .type

/-- `_validate_feature_ranges`. -/
def validateFeatureRanges (ranges : Fields) : Except PartitionError Unit := do
  rejectIf (¬SameKeys ranges featureOrder)
    (invalidArtifact "training feature ranges must match the fixed feature order")
  featureOrder.forM fun name => do
    let pair ← unpackPair (Json.get ranges name)
    let lower ← number fl pair.1 s!"training_feature_ranges.{name}[0]"
    let upper ← number fl pair.2 s!"training_feature_ranges.{name}[1]"
    rejectIf (upper < lower) (invalidArtifact "training feature range minimum exceeds maximum")

/-- The range of one feature in `_feature_ranges`. -/
def featureRange (fields : Fields) (name : String) : Except PartitionError (String × Json) :=
  match Json.get fields name with
  | .arr [lower, upper] => do
      let lower ← number fl lower s!"training_feature_ranges.{name}[0]"
      let upper ← number fl upper s!"training_feature_ranges.{name}[1]"
      return (name, .arr [.number lower, .number upper])
  | _ => .error (invalidArtifact s!"training_feature_ranges.{name} must contain two values")

/-- `_feature_ranges`. -/
def featureRanges (value : Json) : Except PartitionError Fields :=
  match value with
  | .obj fields => do
      rejectIf (¬SameKeys fields featureOrder)
        (invalidArtifact "training feature ranges must match the fixed feature order")
      featureOrder.mapM (featureRange fl fields)
  | _ => .error (invalidArtifact "training_feature_ranges must be an object")

/-- One entry of `_numeric_mapping`. -/
def numericEntry (field : String) (entry : String × Json) : Except PartitionError (String × Json) := do
  checkText entry.1 s!"{field} key"
  return (entry.1, .number (← number fl entry.2 s!"{field}.{entry.1}"))

/-- `_numeric_mapping`. -/
def numericMapping (value : Json) (field : String) : Except PartitionError Fields :=
  match value with
  | .obj fields => fields.mapM (numericEntry fl field)
  | _ => .error (invalidArtifact s!"{field} must be an object")

/-- `_validation_metrics`. -/
def validationMetrics (value : Json) (field : String) : Except PartitionError Fields := do
  let metrics ← numericMapping fl value field
  rejectIf (¬SameKeys metrics validationMetricKeys)
    (invalidArtifact s!"{field} keys must exactly match the validation_metrics keys")
  return metrics

/-- `eligibility_thresholds`. -/
structure Thresholds where
  minimumObservedSamples : ℤ
  minimumIndependentGroups : ℤ
  maximumHoldoutMae : ℚ
  minimumSpearmanCorrelation : ℚ
  minimumSelectionConfidence : ℚ
  maximumOodFeatureRatio : ℚ
  deriving DecidableEq

def Thresholds.toDict (t : Thresholds) : Fields :=
  [("minimum_observed_samples", .int t.minimumObservedSamples),
    ("minimum_independent_groups", .int t.minimumIndependentGroups),
    ("maximum_holdout_mae", .number t.maximumHoldoutMae),
    ("minimum_spearman_correlation", .number t.minimumSpearmanCorrelation),
    ("minimum_selection_confidence", .number t.minimumSelectionConfidence),
    ("maximum_ood_feature_ratio", .number t.maximumOodFeatureRatio)]

/-- What `_training_provenance` returns. -/
structure Provenance where
  seed : ℤ
  ridgeAlpha : ℚ
  holdoutTestFraction : ℚ
  thresholds : Thresholds
  lineageGroupHashes : List String
  deriving DecidableEq

/-- `_training_provenance_to_dict`, after its decoding. -/
def Provenance.toDict (p : Provenance) : Fields :=
  [("seed", .int p.seed), ("ridge_alpha", .number p.ridgeAlpha),
    ("holdout_test_fraction", .number p.holdoutTestFraction),
    ("eligibility_thresholds", .obj p.thresholds.toDict),
    ("training_lineage_group_hashes", .texts p.lineageGroupHashes)]

/-- The path of a threshold in messages. -/
def thresholdPath (name : String) : String := s!"training_provenance.eligibility_thresholds.{name}"

/-- The thresholds in `_training_provenance`. -/
def thresholds (value : Json) : Except PartitionError Thresholds :=
  match value with
  | .obj fields => do
      rejectIf (¬SameKeys fields thresholdFields)
        (invalidArtifact "training_provenance.eligibility_thresholds are unsupported")
      let ratio (name : String) (maximum : ℚ) (bounds : String) :=
        boundedNumber fl (Json.get fields name) (thresholdPath name) 0 maximum bounds
      return {
        minimumObservedSamples := ← integer (Json.get fields "minimum_observed_samples")
          (thresholdPath "minimum_observed_samples") 1
        minimumIndependentGroups := ← integer (Json.get fields "minimum_independent_groups")
          (thresholdPath "minimum_independent_groups") 1
        maximumHoldoutMae := ← ratio "maximum_holdout_mae" 2 "0.0 and 2.0"
        minimumSpearmanCorrelation := ← ratio "minimum_spearman_correlation" 1 "0.0 and 1.0"
        minimumSelectionConfidence := ← ratio "minimum_selection_confidence" 1 "0.0 and 1.0"
        maximumOodFeatureRatio := ← ratio "maximum_ood_feature_ratio" 1 "0.0 and 1.0" }
  | _ => .error (invalidArtifact "training_provenance.eligibility_thresholds are unsupported")

/-- `_validated_lineage_hash`. -/
def lineageHash (value : Json) : Except PartitionError String := do
  let s ← text value "training_provenance.training_lineage_group_hashes[]"
  validateSha256 s "training_provenance.training_lineage_group_hashes[]"
  return s

/-- The lineage hashes in `_training_provenance`. -/
def lineageHashes (value : Json) : Except PartitionError (List String) :=
  match value with
  | .arr items => do
      let hashes ← items.mapM lineageHash
      rejectIf (¬hashes.Pairwise (· ≤ ·) ∨ ¬hashes.Nodup)
        (invalidArtifact "training provenance lineage hashes must be sorted and unique")
      return hashes
  | _ => .error (invalidArtifact
      "training_provenance.training_lineage_group_hashes must be an array")

/-- The seed in `_training_provenance`. -/
def provenanceSeed (value : Json) : Except PartitionError ℤ :=
  match value with
  | .int i => .ok i
  | _ => .error (invalidArtifact "training_provenance.seed must be an integer")

/-- `_training_provenance`. -/
def trainingProvenance (value : Json) : Except PartitionError Provenance :=
  match value with
  | .obj fields => do
      rejectIf (¬SameKeys fields provenanceFields)
        (invalidArtifact "training_provenance fields are unsupported")
      let seed ← provenanceSeed (Json.get fields "seed")
      let ridgeAlpha ← number fl (Json.get fields "ridge_alpha") "training_provenance.ridge_alpha"
      rejectIf (ridgeAlpha ≤ 0)
        (invalidArtifact "training_provenance.ridge_alpha must be positive")
      let holdoutTestFraction ← number fl (Json.get fields "holdout_test_fraction")
        "training_provenance.holdout_test_fraction"
      rejectIf (¬(0 < holdoutTestFraction ∧ holdoutTestFraction < 1))
        (invalidArtifact "training_provenance.holdout_test_fraction must be between 0 and 1")
      let thresholds ← thresholds fl (Json.get fields "eligibility_thresholds")
      let lineageGroupHashes ← lineageHashes (Json.get fields "training_lineage_group_hashes")
      return { seed, ridgeAlpha, holdoutTestFraction, thresholds, lineageGroupHashes }
  | _ => .error (invalidArtifact "training_provenance must be an object")

end Numbers

/-! ### The artifact -/

/-- `PartitionRankerModelArtifact`. -/
structure PartitionRankerModelArtifact where
  schemaVersion : String
  modelType : String
  modelVersion : String
  featureSchemaVersion : String
  trainedAt : String
  trainingDatasetHash : String
  trainingScope : String
  sampleCount : ℤ
  groupCount : ℤ
  featureOrder : List String
  featureMean : List Json
  featureScale : List Json
  coefficients : List Json
  intercept : Json
  trainingFeatureRanges : Fields
  validationMetrics : Fields
  confidencePolicy : Fields
  trainingProvenance : Fields
  artifactHash : String

namespace PartitionRankerModelArtifact

section Methods

variable {py : Python} (fl : Floats py) (sha256 : String → String)

/-- `_validate`, which also decodes the provenance. -/
def validate (requireHash : Bool) (a : PartitionRankerModelArtifact) :
    Except PartitionError Provenance := do
  rejectIf (a.schemaVersion ≠ modelArtifactSchemaVersion)
    (invalidArtifact "unsupported artifact schema version")
  checkText a.modelType "model_type"
  validateModelVersion a.modelVersion
  checkText a.trainedAt "trained_at"
  checkText a.trainingScope "training_scope"
  rejectIf (a.featureSchemaVersion ≠ Partition.featureSchemaVersion)
    (invalidArtifact "feature schema version does not match partition-feature-v1")
  rejectIf (a.featureOrder ≠ Partition.featureOrder)
    (invalidArtifact "feature order does not match partition-feature-v1")
  validateSha256 a.trainingDatasetHash "training_dataset_hash"
  let _ ← integer (.int a.sampleCount) "sample_count" 0
  let _ ← integer (.int a.groupCount) "group_count" 0
  validateVector fl a.featureMean "feature_mean" false
  validateVector fl a.featureScale "feature_scale" true
  validateVector fl a.coefficients "coefficients" false
  let _ ← number fl a.intercept "intercept"
  validateFeatureRanges fl a.trainingFeatureRanges
  let _ ← Learning.validationMetrics fl (.obj a.validationMetrics) "validation_metrics"
  let _ ← numericMapping fl (.obj a.confidencePolicy) "confidence_policy"
  let provenance ← Learning.trainingProvenance fl (.obj a.trainingProvenance)
  rejectIf (a.groupCount ≠ provenance.lineageGroupHashes.length)
    (invalidArtifact "group_count must equal the unique training lineage group hashes")
  if requireHash then validateSha256 a.artifactHash "artifact_hash"
  return provenance

/-- The fields of `to_dict` that are hashed: all but the last. -/
def hashedFields (a : PartitionRankerModelArtifact) (provenance : Provenance) : Fields :=
  [("schema_version", .str a.schemaVersion), ("model_type", .str a.modelType),
    ("model_version", .str a.modelVersion), ("feature_schema_version", .str a.featureSchemaVersion),
    ("trained_at", .str a.trainedAt), ("training_dataset_hash", .str a.trainingDatasetHash),
    ("training_scope", .str a.trainingScope), ("sample_count", .int a.sampleCount),
    ("group_count", .int a.groupCount), ("feature_order", .texts a.featureOrder),
    ("feature_mean", .arr a.featureMean), ("feature_scale", .arr a.featureScale),
    ("coefficients", .arr a.coefficients), ("intercept", a.intercept),
    ("training_feature_ranges", .obj (Partition.featureOrder.map fun name =>
      (name, Json.get a.trainingFeatureRanges name))),
    ("validation_metrics", .obj a.validationMetrics), ("confidence_policy", .obj a.confidencePolicy),
    ("training_provenance", .obj provenance.toDict)]

/-- `to_dict`. -/
def toDict (a : PartitionRankerModelArtifact) : Except PartitionError Fields := do
  let provenance ← validate fl false a
  return a.hashedFields provenance ++ [("artifact_hash", .str a.artifactHash)]

/-- `_computed_hash`. -/
def computedHash (a : PartitionRankerModelArtifact) : Except PartitionError String := do
  let provenance ← validate fl false a
  return sha256 (canonicalJson py (.obj (a.hashedFields provenance)))

/-- `with_computed_hash`. -/
def withComputedHash (a : PartitionRankerModelArtifact) :
    Except PartitionError PartitionRankerModelArtifact := do
  let _ ← validate fl false a
  return { a with artifactHash := ← computedHash fl sha256 a }

/-- `verify_hash`. -/
def verifyHash (a : PartitionRankerModelArtifact) : Except PartitionError Unit := do
  let _ ← validate fl true a
  let hash ← computedHash fl sha256 a
  rejectIf (a.artifactHash ≠ hash)
    (invalidArtifact "artifact hash does not match its canonical payload")

/-- `from_dict`. -/
def fromDict (payload : Fields) : Except PartitionError PartitionRankerModelArtifact := do
  rejectIf (∃ f ∈ payload, f.1 ∉ artifactFields)
    (invalidArtifact "unknown artifact fields are not allowed")
  rejectIf (∃ name ∈ artifactFields, name ∉ payload.map Prod.fst)
    (invalidArtifact "required artifact fields are missing")
  let artifact : PartitionRankerModelArtifact := {
    schemaVersion := ← text (Json.get payload "schema_version") "schema_version"
    modelType := ← text (Json.get payload "model_type") "model_type"
    modelVersion := ← text (Json.get payload "model_version") "model_version"
    featureSchemaVersion := ← text (Json.get payload "feature_schema_version")
      "feature_schema_version"
    trainedAt := ← text (Json.get payload "trained_at") "trained_at"
    trainingDatasetHash := ← text (Json.get payload "training_dataset_hash") "training_dataset_hash"
    trainingScope := ← text (Json.get payload "training_scope") "training_scope"
    sampleCount := ← integer (Json.get payload "sample_count") "sample_count" 0
    groupCount := ← integer (Json.get payload "group_count") "group_count" 0
    featureOrder := ← textTuple (Json.get payload "feature_order") "feature_order"
    featureMean := ← numberTuple fl (Json.get payload "feature_mean") "feature_mean"
    featureScale := ← numberTuple fl (Json.get payload "feature_scale") "feature_scale"
    coefficients := ← numberTuple fl (Json.get payload "coefficients") "coefficients"
    intercept := .number (← number fl (Json.get payload "intercept") "intercept")
    trainingFeatureRanges := ← featureRanges fl (Json.get payload "training_feature_ranges")
    validationMetrics := ← Learning.validationMetrics fl (Json.get payload "validation_metrics")
      "validation_metrics"
    confidencePolicy := ← numericMapping fl (Json.get payload "confidence_policy")
      "confidence_policy"
    trainingProvenance :=
      (← Learning.trainingProvenance fl (Json.get payload "training_provenance")).toDict
    artifactHash := ← text (Json.get payload "artifact_hash") "artifact_hash" }
  let _ ← validate fl true artifact
  return artifact

end Methods

end PartitionRankerModelArtifact

/-! ### The registry -/

/-- `PartitionRankerRepository`: the text of each `<version>/model.json`, and whether a link lies
on the path to it. -/
structure PartitionRankerRepository where
  files : String → Option String
  linked : String → Bool

namespace PartitionRankerRepository

variable {py : Python} (fl : Floats py) (sha256 : String → String)

/-- `_model_path`. -/
def checkPath (r : PartitionRankerRepository) (modelVersion : String) :
    Except PartitionError Unit := do
  validateModelVersion modelVersion
  rejectIf (r.linked modelVersion = true)
    (invalidArtifact "registry path must not contain a symlink")

/-- `save`. -/
def save (r : PartitionRankerRepository) (artifact : PartitionRankerModelArtifact) :
    Except PartitionError PartitionRankerRepository := do
  let verified ← artifact.withComputedHash fl sha256
  r.checkPath verified.modelVersion
  let payload ← verified.toDict fl
  let contents := canonicalJson py (.obj payload) ++ "\n"
  return { r with files := fun version =>
    if version = verified.modelVersion then some contents else r.files version }

/-- `_read_json`. -/
def readJson (py : Python) (contents : Option String) : Except PartitionError Fields :=
  match contents.bind (loads py) with
  | none => .error (.contract "model_not_found"
      "model artifact could not be read from the registry")
  | some (.obj fields) => .ok fields
  | some _ => .error (invalidArtifact "artifact must be an object")

/-- `get`. -/
def get (r : PartitionRankerRepository) (modelVersion : String) :
    Except PartitionError PartitionRankerModelArtifact := do
  r.checkPath modelVersion
  let payload ← readJson py (r.files modelVersion)
  let artifact ← PartitionRankerModelArtifact.fromDict fl payload
  artifact.verifyHash fl sha256
  return artifact

end PartitionRankerRepository

end Learning
end AiopsK8s
