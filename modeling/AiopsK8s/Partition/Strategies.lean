/-
# Partition strategies

`partition_strategies`: what a strategy intends for a request.  The three strategies of the source
differ in the plan type and the modes they support, in the boundaries they forbid and in the texts
of their contracts; a request is planned by the first registered one for its type and mode.

A strategy carries what `PartitionStrategyRegistry.default` has checked of the policy that the
planner relies on: its version is a proper text, and the weights of a training objective are named.
-/

import AiopsK8s.Partition.Common

namespace AiopsK8s
namespace Partition

open Effect Text

/-- What a strategy intends for a request. -/
structure PartitionIntent where
  strategyId : String
  strategyVersion : String
  allowedPartitionMethods : List String
  allowedSplitBoundaries : List ℕ
  forbiddenSplitBoundaries : List ℕ
  graphRequirements : List String
  memoryRules : List String
  communicationRules : List String
  optimizationObjectives : List String
  assumptions : List String
  warnings : List String
  objectiveWeights : List (String × ℚ)
  strategyVersion_proper : Proper strategyVersion

/-- The objectives of a training plan. -/
def trainingObjectives : List String :=
  ["step_time", "load_balance", "memory_pressure", "communication", "resilience"]

/-- `InferencePartitionStrategy`. -/
structure InferencePartitionStrategy where
  strategyId : String
  strategyVersion : String
  policyVersion : String
  supportedModes : List String
  objectiveWeights : List (String × ℚ)
  baseConfidence : ℚ
  missingForecastPenalty : ℚ
  legacyInputPenalty : ℚ
  strategyVersion_proper : Proper strategyVersion

/-- `TrainingPartitionStrategy`. -/
structure TrainingPartitionStrategy where
  strategyId : String
  strategyVersion : String
  policyVersion : String
  supportedModes : List String
  objectiveWeights : List (String × ℚ)
  forbiddenSplitBoundaries : List ℕ
  baseConfidence : ℚ
  missingForecastPenalty : ℚ
  legacyInputPenalty : ℚ
  strategyVersion_proper : Proper strategyVersion
  objectiveWeights_named : objectiveWeights.map Prod.fst = trainingObjectives

/-- `FederatedFullModelStrategy`. -/
structure FederatedFullModelStrategy where
  strategyId : String
  strategyVersion : String
  policyVersion : String
  objectiveWeights : List (String × ℚ)
  baseConfidence : ℚ
  missingForecastPenalty : ℚ
  strategyVersion_proper : Proper strategyVersion
  objectiveWeights_named : objectiveWeights.map Prod.fst = trainingObjectives

/-- `PartitionStrategy`. -/
inductive PartitionStrategy where
  | inference (strategy : InferencePartitionStrategy)
  | training (strategy : TrainingPartitionStrategy)
  | federated (strategy : FederatedFullModelStrategy)

/-- `strategy_not_supported` of `build_partition_intent`. -/
def strategyNotSupported (strategyId planType mode : String) : PartitionError :=
  .contract "strategy_not_supported" s!"strategy {strategyId} does not support {planType}/{mode}"

/-- `optimization_objectives`. -/
def optimizationObjectives (rt : Runtime) (weights : List (String × ℚ)) : List String :=
  weights.map fun (name, weight) => s!"predicted_{name}:{rt.formatG weight}"

/-- The confidence that is left without a forecast: a difference of floats between zero and one. -/
def forecastConfidence (request : NormalizedPartitionRequest) (base missingForecast : ℚ) : ℚ :=
  if request.workloadForecast.isSome then base else Binary64.nearest (base - missingForecast)

/-- The confidence that is left without a forecast and for a legacy request. -/
def planningConfidence (request : NormalizedPartitionRequest) (base missingForecast legacy : ℚ) : ℚ :=
  let confidence := forecastConfidence request base missingForecast
  if request.legacyInput then Binary64.nearest (confidence - legacy) else confidence

/-- `assumptions` of an intent. -/
def intentAssumptions (rt : Runtime) (request : NormalizedPartitionRequest) (policyVersion : String)
    (confidence : ℚ) : List String :=
  [s!"approved_execution_mode:{request.approvedExecutionMode.name}",
    s!"approved_model_version:{request.approvedModelVersion}",
    s!"context_snapshot_id:{request.contextSnapshotId}",
    s!"context_snapshot_hash:{request.contextSnapshotHash}",
    s!"input_signature:{request.inputSignature}",
    s!"policy_version:{policyVersion}",
    s!"planning_confidence:{rt.formatG (max confidence 0)}"]

/-- `workload_forecast_missing` of the warnings. -/
def forecastWarnings (request : NormalizedPartitionRequest) : List String :=
  if request.workloadForecast.isSome then []
  else ["workload_forecast_missing: confidence reduced"]

/-- `legacy_input` of the warnings. -/
def legacyWarnings (request : NormalizedPartitionRequest) : List String :=
  if request.legacyInput then ["legacy_input: confidence reduced"] else []

/-- `InferencePartitionStrategy.build_partition_intent`. -/
def InferencePartitionStrategy.buildPartitionIntent (s : InferencePartitionStrategy) (rt : Runtime)
    (request : NormalizedPartitionRequest) : Except PartitionError PartitionIntent := do
  let mode := request.approvedExecutionMode.name
  rejectIf (request.planType ≠ "inference" ∨ mode ∉ s.supportedModes)
    (strategyNotSupported s.strategyId request.planType mode)
  return {
    strategyId := s.strategyId
    strategyVersion := s.strategyVersion
    allowedPartitionMethods := [mode]
    allowedSplitBoundaries := List.range' 1 (request.layers.length - 1)
    forbiddenSplitBoundaries := [0, request.layers.length]
    graphRequirements := ["forward_only_dag", "adjacent_partition_edges_only"]
    memoryRules := ["per_partition_parameter_bytes", "per_partition_working_memory_bytes",
      "per_partition_peak_activation_bytes"]
    communicationRules := ["forward_activation_transfer_only", "adjacent_partition_transfer_only"]
    optimizationObjectives := optimizationObjectives rt s.objectiveWeights
    assumptions := intentAssumptions rt request s.policyVersion
      (planningConfidence request s.baseConfidence s.missingForecastPenalty s.legacyInputPenalty)
    warnings := forecastWarnings request ++ legacyWarnings request
    objectiveWeights := s.objectiveWeights
    strategyVersion_proper := s.strategyVersion_proper }

/-- `TrainingPartitionStrategy.build_partition_intent`. -/
def TrainingPartitionStrategy.buildPartitionIntent (s : TrainingPartitionStrategy) (rt : Runtime)
    (request : NormalizedPartitionRequest) : Except PartitionError PartitionIntent := do
  let mode := request.approvedExecutionMode.name
  rejectIf (request.planType ≠ "training" ∨ mode ∉ s.supportedModes)
    (strategyNotSupported s.strategyId request.planType mode)
  let layerCount := request.layers.length
  let forbidden := s.forbiddenSplitBoundaries.filter fun boundary =>
    0 < boundary ∧ boundary < layerCount
  return {
    strategyId := s.strategyId
    strategyVersion := s.strategyVersion
    allowedPartitionMethods := [mode]
    allowedSplitBoundaries := (List.range' 1 (layerCount - 1)).filter (· ∉ forbidden)
    forbiddenSplitBoundaries := 0 :: forbidden ++ [layerCount]
    graphRequirements := ["phase_distinct_training_dag",
      "forward_backward_gradient_aggregation_edges", "adjacent_partition_edges_only"]
    memoryRules := ["per_partition_parameter_bytes", "per_partition_working_memory_bytes",
      "per_partition_peak_activation_bytes", "checkpoint_boundary_memory"]
    communicationRules := ["forward_activation_transfer", "backward_gradient_transfer",
      "aggregation_transfer"]
    optimizationObjectives := optimizationObjectives rt s.objectiveWeights
    assumptions := intentAssumptions rt request s.policyVersion
      (planningConfidence request s.baseConfidence s.missingForecastPenalty s.legacyInputPenalty)
    warnings := forecastWarnings request ++ legacyWarnings request
    objectiveWeights := s.objectiveWeights
    strategyVersion_proper := s.strategyVersion_proper }

/-- `FederatedFullModelStrategy.build_partition_intent`: a legacy request costs no confidence. -/
def FederatedFullModelStrategy.buildPartitionIntent (s : FederatedFullModelStrategy) (rt : Runtime)
    (request : NormalizedPartitionRequest) : Except PartitionError PartitionIntent := do
  let mode := request.approvedExecutionMode.name
  rejectIf (request.planType ≠ "training" ∨ mode ≠ "federated_learning")
    (strategyNotSupported s.strategyId request.planType mode)
  return {
    strategyId := s.strategyId
    strategyVersion := s.strategyVersion
    allowedPartitionMethods := [mode]
    allowedSplitBoundaries := []
    forbiddenSplitBoundaries := List.range (request.layers.length + 1)
    graphRequirements := ["full_model_replica_per_participant", "participant_to_aggregator_edges"]
    memoryRules := ["full_model_parameter_bytes_per_participant",
      "full_model_working_memory_per_participant", "full_model_peak_activation_per_participant"]
    communicationRules := ["remote_model_update_transfer", "aggregation_transfer"]
    optimizationObjectives := optimizationObjectives rt s.objectiveWeights
    assumptions := intentAssumptions rt request s.policyVersion
      (forecastConfidence request s.baseConfidence s.missingForecastPenalty)
    warnings := forecastWarnings request
    objectiveWeights := s.objectiveWeights
    strategyVersion_proper := s.strategyVersion_proper }

namespace PartitionStrategy

def strategyId : PartitionStrategy → String
  | inference s => s.strategyId
  | training s => s.strategyId
  | federated s => s.strategyId

def strategyVersion : PartitionStrategy → String
  | inference s => s.strategyVersion
  | training s => s.strategyVersion
  | federated s => s.strategyVersion

/-- `PartitionStrategy.build_partition_intent`. -/
def buildPartitionIntent (rt : Runtime) (request : NormalizedPartitionRequest) :
    PartitionStrategy → Except PartitionError PartitionIntent
  | inference s => s.buildPartitionIntent rt request
  | training s => s.buildPartitionIntent rt request
  | federated s => s.buildPartitionIntent rt request

end PartitionStrategy

/-- `PartitionStrategyRegistry`. -/
structure PartitionStrategyRegistry where
  entries : List (String × String × PartitionStrategy)

/-- `PartitionStrategyRegistry.resolve`. -/
def PartitionStrategyRegistry.resolve (registry : PartitionStrategyRegistry)
    (planType mode : String) : Except PartitionError PartitionStrategy :=
  match registry.entries.find? fun entry => entry.1 = planType ∧ entry.2.1 = mode with
  | some entry => .ok entry.2.2
  | none => .error (.contract "strategy_not_supported"
      s!"no partition strategy supports {planType}/{mode}")

end Partition
end AiopsK8s
