/-
# The strategies of a policy

`PartitionStrategyRegistry.default`: the strategies that a policy document describes.  Every policy
has the strategy for inference; the ones for training and for federated learning may be left out.
The registry keeps each under the type and the modes that it supports (`standard_ofPolicy`).
-/

import AiopsK8s.Lib.Summation
import AiopsK8s.Partition.Strategies
import Mathlib.Data.List.Sort

namespace AiopsK8s
namespace Partition

open Effect Text

/-- The helpers of `partition_strategies`. -/
def policyDecoder : Decoder := ⟨"invalid_partition_policy"⟩

namespace Decoder

variable (d : Decoder) (rt : Runtime)

/-- `_fraction`. -/
def fraction (value : Json) (field : String) : Except PartitionError {q : ℚ // 0 ≤ q ∧ q ≤ 1} :=
  match value with
  | .bool _ => d.fail s!"{field} must be numeric"
  | value => do
      match ← pyFloat rt.toPython value with
      | none => d.fail s!"{field} must be numeric"
      | some (.finite q) =>
          if h : 0 ≤ q ∧ q ≤ 1 then .ok ⟨q, h⟩ else d.fail s!"{field} must be between 0.0 and 1.0"
      | some _ => d.fail s!"{field} must be between 0.0 and 1.0"

/-- `_text_tuple`. -/
def textTuple (value : Json) (field : String) : Except PartitionError (List String) := do
  let items ← d.texts rt.toPython (← d.sequence value field) s!"{field}[]"
  rejectIf (items.1 = [] ∨ ¬items.1.Nodup) (.contract d.code s!"{field} must contain unique values")
  return items.1

/-- The weights of `_objective_weights`, one for each required name. -/
def fractions (objectives : List (String × Json)) (field : String) :
    (required : List String) → Except PartitionError {l : List (String × ℚ) // l.map Prod.fst = required}
  | [] => .ok ⟨[], rfl⟩
  | name :: required => do
      let weight ← d.fraction rt (Json.get objectives name) s!"{field}.{name}"
      let weights ← fractions objectives field required
      .ok ⟨(name, weight.1) :: weights.1, congrArg (List.cons name) weights.2⟩

/-- `_objective_weights`. -/
def objectiveWeights (value : Json) (required : List String) (field : String) :
    Except PartitionError {l : List (String × ℚ) // l.map Prod.fst = required} := do
  let objectives ← d.mapping value field
  let weights ← d.fractions rt objectives field required
  let total := rt.summation.sum (weights.1.map fun w => .finite w.2)
  rejectIf (PyFloat.lt (.lit (1 / 1000000000)) (total.sub (.finite 1)).magnitude = true)
    (.contract d.code "strategy objective weights must sum to 1.0")
  return weights

/-- One of the boundaries of `_boundary_tuple`. -/
def boundary (field : String) : Json → Except PartitionError ℕ
  | .int i => if 1 ≤ i then .ok i.toNat else d.fail s!"{field} must contain positive integers"
  | _ => d.fail s!"{field} must contain positive integers"

/-- `_boundary_tuple`. -/
def boundaryTuple (value : Json) (field : String) : Except PartitionError (List ℕ) := do
  let boundaries ← (← d.sequence value field).mapM (d.boundary field)
  rejectIf (¬boundaries.Nodup) (.contract d.code s!"{field} must contain unique values")
  return boundaries.insertionSort (· ≤ ·)

end Decoder

/-- The name of the version of a strategy. -/
def strategyVersionOf (strategyId policyVersion : String) : String := s!"{strategyId}:{policyVersion}"

/-- Where the policy of a strategy is. -/
def policyPath (strategyId : String) : String := s!"strategy_policies.{strategyId}"

/-- The confidence of a policy. -/
structure ConfidencePolicy where
  base : ℚ
  missingForecastPenalty : ℚ

/-- The figures of `confidence` that every strategy reads. -/
def ConfidencePolicy.fromDict (rt : Runtime) (confidence : List (String × Json)) :
    Except PartitionError ConfidencePolicy := do
  let base ← policyDecoder.fraction rt (Json.get confidence "base") "confidence.base"
  let missing ← policyDecoder.fraction rt (Json.get confidence "missing_forecast_penalty")
    "confidence.missing_forecast_penalty"
  return ⟨base.1, missing.1⟩

/-- `legacy_input_penalty`. -/
def legacyInputPenalty (rt : Runtime) (confidence : List (String × Json)) :
    Except PartitionError ℚ := do
  let penalty ← policyDecoder.fraction rt (Json.get confidence "legacy_input_penalty")
    "confidence.legacy_input_penalty"
  return penalty.1

theorem proper_inferenceVersion {version : String} (h : Proper version) :
    Proper (strategyVersionOf "inference-partition-v1" version) :=
  Proper.append ⟨'i', "nference-partition-v1:".toList, rfl, by decide⟩ h

theorem proper_trainingVersion {version : String} (h : Proper version) :
    Proper (strategyVersionOf "training-partition-v1" version) :=
  Proper.append ⟨'t', "raining-partition-v1:".toList, rfl, by decide⟩ h

theorem proper_federatedVersion {version : String} (h : Proper version) :
    Proper (strategyVersionOf "federated-full-model-v1" version) :=
  Proper.append ⟨'f', "ederated-full-model-v1:".toList, rfl, by decide⟩ h

namespace PartitionStrategyRegistry

/-- The strategy for inference of `default`. -/
def inferenceStrategy (rt : Runtime) (policy : List (String × Json))
    (version : {s : String // Proper s}) (confidence : List (String × Json)) :
    Except PartitionError InferencePartitionStrategy := do
  let modes ← policyDecoder.textTuple rt (Json.get policy "supported_modes")
    (policyPath "inference-partition-v1" ++ ".supported_modes")
  let weights ← policyDecoder.objectiveWeights rt (Json.get policy "objectives")
    ["latency", "memory_pressure", "communication"]
    (policyPath "inference-partition-v1" ++ ".objectives")
  let figures ← ConfidencePolicy.fromDict rt confidence
  let legacy ← legacyInputPenalty rt confidence
  return {
    strategyId := "inference-partition-v1"
    strategyVersion := strategyVersionOf "inference-partition-v1" version.1
    policyVersion := version.1
    supportedModes := modes
    objectiveWeights := weights.1
    baseConfidence := figures.base
    missingForecastPenalty := figures.missingForecastPenalty
    legacyInputPenalty := legacy
    strategyVersion_proper := proper_inferenceVersion version.2 }

/-- `_training_strategy`. -/
def trainingStrategy (rt : Runtime) (policy : List (String × Json))
    (version : {s : String // Proper s}) (confidence : List (String × Json)) :
    Except PartitionError TrainingPartitionStrategy := do
  let modes ← policyDecoder.textTuple rt (Json.get policy "supported_modes")
    (policyPath "training-partition-v1" ++ ".supported_modes")
  let weights ← policyDecoder.objectiveWeights rt (Json.get policy "objectives")
    trainingObjectives (policyPath "training-partition-v1" ++ ".objectives")
  let boundaries ← policyDecoder.boundaryTuple
    (Json.getD policy "forbidden_split_boundaries" (.arr []))
    (policyPath "training-partition-v1" ++ ".forbidden_split_boundaries")
  let figures ← ConfidencePolicy.fromDict rt confidence
  let legacy ← legacyInputPenalty rt confidence
  return {
    strategyId := "training-partition-v1"
    strategyVersion := strategyVersionOf "training-partition-v1" version.1
    policyVersion := version.1
    supportedModes := modes
    objectiveWeights := weights.1
    forbiddenSplitBoundaries := boundaries
    baseConfidence := figures.base
    missingForecastPenalty := figures.missingForecastPenalty
    legacyInputPenalty := legacy
    strategyVersion_proper := proper_trainingVersion version.2
    objectiveWeights_named := weights.2 }

/-- `_federated_strategy`. -/
def federatedStrategy (rt : Runtime) (policy : List (String × Json))
    (version : {s : String // Proper s}) (confidence : List (String × Json)) :
    Except PartitionError FederatedFullModelStrategy := do
  let weights ← policyDecoder.objectiveWeights rt (Json.get policy "objectives")
    trainingObjectives (policyPath "federated-full-model-v1" ++ ".objectives")
  let figures ← ConfidencePolicy.fromDict rt confidence
  return {
    strategyId := "federated-full-model-v1"
    strategyVersion := strategyVersionOf "federated-full-model-v1" version.1
    policyVersion := version.1
    objectiveWeights := weights.1
    baseConfidence := figures.base
    missingForecastPenalty := figures.missingForecastPenalty
    strategyVersion_proper := proper_federatedVersion version.2
    objectiveWeights_named := weights.2 }

/-- A strategy that a policy may leave out. -/
def optionalStrategy {α : Type} (policies : List (String × Json)) (strategyId : String)
    (build : List (String × Json) → Except PartitionError α) : Except PartitionError (Option α) :=
  match Json.get policies strategyId with
  | .null => .ok none
  | value => do return some (← build (← policyDecoder.mapping value (policyPath strategyId)))

/-- The entries of a registry. -/
def entriesOf (inference : InferencePartitionStrategy) (training : Option TrainingPartitionStrategy)
    (federated : Option FederatedFullModelStrategy) : List (String × String × PartitionStrategy) :=
  inference.supportedModes.map (fun mode => ("inference", mode, .inference inference)) ++
    (match training with
      | some s => s.supportedModes.map fun mode => ("training", mode, .training s)
      | none => []) ++
    (match federated with
      | some s => [("training", "federated_learning", .federated s)]
      | none => [])

/-- `PartitionStrategyRegistry.default`, of the document that the policy file holds. -/
def ofPolicy (rt : Runtime) (payload : Json) : Except PartitionError PartitionStrategyRegistry := do
  let payload ← policyDecoder.mapping payload "policy"
  let version ← policyDecoder.text rt.toPython (Json.get payload "version") "version"
  let policies ← policyDecoder.mapping (Json.get payload "strategy_policies") "strategy_policies"
  let policy ← policyDecoder.mapping (Json.get policies "inference-partition-v1")
    (policyPath "inference-partition-v1")
  let confidence ← policyDecoder.mapping (Json.get payload "confidence") "confidence"
  let inference ← inferenceStrategy rt policy version confidence
  let training ← optionalStrategy policies "training-partition-v1" fun policy =>
    trainingStrategy rt policy version confidence
  let federated ← optionalStrategy policies "federated-full-model-v1" fun policy =>
    federatedStrategy rt policy version confidence
  return ⟨entriesOf inference training federated⟩

/-- What the entry of a strategy says of it. -/
def StandardEntry : String × String × PartitionStrategy → Prop
  | (planType, mode, .inference s) =>
      planType = "inference" ∧ mode ∈ s.supportedModes ∧ s.strategyId = "inference-partition-v1"
  | (planType, mode, .training s) =>
      planType = "training" ∧ mode ∈ s.supportedModes ∧ s.strategyId = "training-partition-v1"
  | (planType, mode, .federated s) =>
      planType = "training" ∧ mode = "federated_learning" ∧ s.strategyId = "federated-full-model-v1"

/-- A registry that holds each strategy under its own type and modes. -/
def Standard (registry : PartitionStrategyRegistry) : Prop :=
  ∀ entry ∈ registry.entries, StandardEntry entry

section OfPolicy

variable {rt : Runtime} {policy confidence : List (String × Json)} {version : {s : String // Proper s}}

theorem inferenceStrategy_id {s : InferencePartitionStrategy}
    (h : inferenceStrategy rt policy version confidence = .ok s) :
    s.strategyId = "inference-partition-v1" := by
  obtain ⟨_, _, h⟩ := bind_eq_ok h
  obtain ⟨_, _, h⟩ := bind_eq_ok h
  obtain ⟨_, _, h⟩ := bind_eq_ok h
  obtain ⟨_, _, h⟩ := bind_eq_ok h
  obtain rfl := Except.ok.inj h
  rfl

theorem trainingStrategy_id {s : TrainingPartitionStrategy}
    (h : trainingStrategy rt policy version confidence = .ok s) :
    s.strategyId = "training-partition-v1" := by
  obtain ⟨_, _, h⟩ := bind_eq_ok h
  obtain ⟨_, _, h⟩ := bind_eq_ok h
  obtain ⟨_, _, h⟩ := bind_eq_ok h
  obtain ⟨_, _, h⟩ := bind_eq_ok h
  obtain ⟨_, _, h⟩ := bind_eq_ok h
  obtain rfl := Except.ok.inj h
  rfl

theorem federatedStrategy_id {s : FederatedFullModelStrategy}
    (h : federatedStrategy rt policy version confidence = .ok s) :
    s.strategyId = "federated-full-model-v1" := by
  obtain ⟨_, _, h⟩ := bind_eq_ok h
  obtain ⟨_, _, h⟩ := bind_eq_ok h
  obtain rfl := Except.ok.inj h
  rfl

/-- An optional strategy comes from its own policy. -/
theorem exists_of_optionalStrategy {α : Type} {policies : List (String × Json)} {strategyId : String}
    {build : List (String × Json) → Except PartitionError α} {s : α}
    (h : optionalStrategy policies strategyId build = .ok (some s)) :
    ∃ policy, build policy = .ok s := by
  unfold optionalStrategy at h
  split at h
  · cases h
  · obtain ⟨policy, _, h⟩ := bind_eq_ok h
    obtain ⟨built, hbuilt, h⟩ := bind_eq_ok h
    obtain rfl := Option.some.inj (Except.ok.inj h)
    exact ⟨policy, hbuilt⟩

/-- **The registry of a policy holds each strategy under its own type and modes.** -/
theorem standard_ofPolicy {payload : Json} {registry : PartitionStrategyRegistry}
    (h : ofPolicy rt payload = .ok registry) : registry.Standard := by
  obtain ⟨_, _, h⟩ := bind_eq_ok h
  obtain ⟨_, _, h⟩ := bind_eq_ok h
  obtain ⟨_, _, h⟩ := bind_eq_ok h
  obtain ⟨_, _, h⟩ := bind_eq_ok h
  obtain ⟨_, _, h⟩ := bind_eq_ok h
  obtain ⟨inference, hinference, h⟩ := bind_eq_ok h
  obtain ⟨training, htraining, h⟩ := bind_eq_ok h
  obtain ⟨federated, hfederated, h⟩ := bind_eq_ok h
  obtain rfl := Except.ok.inj h
  intro entry hentry
  rcases List.mem_append.1 hentry with hentry | hentry
  · rcases List.mem_append.1 hentry with hentry | hentry
    · obtain ⟨mode, hmode, rfl⟩ := List.mem_map.1 hentry
      exact ⟨rfl, hmode, inferenceStrategy_id hinference⟩
    · cases training with
      | none => cases hentry
      | some s =>
          obtain ⟨mode, hmode, rfl⟩ := List.mem_map.1 hentry
          obtain ⟨_, hbuilt⟩ := exists_of_optionalStrategy htraining
          exact ⟨rfl, hmode, trainingStrategy_id hbuilt⟩
  · cases federated with
    | none => cases hentry
    | some s =>
        obtain rfl := List.mem_singleton.1 hentry
        obtain ⟨_, hbuilt⟩ := exists_of_optionalStrategy hfederated
        exact ⟨rfl, rfl, federatedStrategy_id hbuilt⟩

end OfPolicy

/-- A strategy that a registry resolves is one of its entries. -/
theorem mem_of_resolve {registry : PartitionStrategyRegistry} {planType mode : String}
    {strategy : PartitionStrategy} (h : registry.resolve planType mode = .ok strategy) :
    (planType, mode, strategy) ∈ registry.entries := by
  unfold resolve at h
  split at h
  · rename_i entry hfind
    obtain rfl := Except.ok.inj h
    have hentry := List.find?_some hfind
    rw [decide_eq_true_iff] at hentry
    obtain ⟨rfl, rfl⟩ := hentry
    exact List.mem_of_find?_eq_some hfind
  · cases h

end PartitionStrategyRegistry

end Partition
end AiopsK8s
