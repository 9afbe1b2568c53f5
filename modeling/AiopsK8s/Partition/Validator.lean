/-
# The validator of partition plans

`partition_validator`: the rules that a plan must satisfy before it is handed over, decided from
the request and the plan alone.  Every rule that fails adds its error, in the order of the source;
an error is reported once, and a plan without errors is accepted.

`max` of the layers of an empty partition raises `ValueError`, so the validator may raise.
-/

import AiopsK8s.Lib.Dfs
import AiopsK8s.Lib.Dict
import AiopsK8s.Partition.Strategies

namespace AiopsK8s
namespace Partition

open Effect Text

/-- `INFERENCE_FORWARD_EDGE_TYPES`. -/
def inferenceForwardEdgeTypes : List String := ["forward", "pipeline", "cache_transfer"]

/-- The partitions that follow each other. -/
def PartitionCandidate.consecutive (c : PartitionCandidate) :
    List (LogicalPartition × LogicalPartition) := c.partitions.zip c.partitions.tail

/-- `_has_inference_forward_chain`. -/
def hasInferenceForwardChain (selected : PartitionCandidate) : Bool :=
  selected.consecutive.all fun (source, target) =>
    selected.graphEdges.any fun edge =>
      edge.sourcePartition = source.partitionId ∧ edge.targetPartition = target.partitionId ∧
        edge.edgeType ∈ inferenceForwardEdgeTypes

/-- Two sets, given by their elements, are equal. -/
def SameElements {α : Type} (l m : List α) : Prop := l ⊆ m ∧ m ⊆ l

instance {α : Type} [DecidableEq α] (l m : List α) : Decidable (SameElements l m) :=
  inferInstanceAs (Decidable (_ ∧ _))

/-- `predicted_inference_throughput_capacity`. -/
def predictedInferenceThroughputCapacity (plan : CoordinationPlan) (selected : PartitionCandidate) :
    Except PartitionError (Option PyFloat) :=
  match plan with
  | .training _ => .ok none
  | .inference plan =>
      match Json.get plan.concurrencyPolicy "max_requests" with
      | .int maxRequests =>
          if maxRequests ≤ 0 ∨ selected.estimatedTotalLatencyMs.isFinite = false ∨
              PyFloat.lt (.finite 0) selected.estimatedTotalLatencyMs = false then .ok none
          else
            match PyFloat.ofInt maxRequests with
            | none => .error .overflow
            | some requests =>
                .ok (some ((requests.mul (.finite 1000)).div selected.estimatedTotalLatencyMs))
      | _ => .ok none

/-- `predicted_snapshot_availability_feasibility` of a selected candidate: `1.0` or `0.0`. -/
def predictedSnapshotAvailabilityFeasibility (roundPlan : RoundPlan)
    (selected : PartitionCandidate) : ℚ :=
  let devices := roundPlan.devices.map (·.deviceId)
  let linkPairs := roundPlan.networkLinks.map (·.pair)
  if selected.partitions.any fun p => p.deviceId ∉ devices ∨ p.deviceId ∉ roundPlan.participants then 0
  else if ¬SameElements (selected.graphNodes.map fun n => (n.partitionId, n.deviceId))
      (selected.partitions.map fun p => (p.partitionId, p.deviceId)) ∨
      hasInferenceForwardChain selected = false then 0
  else if selected.consecutive.any fun (source, target) =>
      source.deviceId ≠ target.deviceId ∧ (source.deviceId, target.deviceId) ∉ linkPairs then 0
  else 1

/-- `PartitionValidationResult`. -/
structure PartitionValidationResult where
  valid : Bool
  errors : List String
  checkedRules : List String

namespace PartitionPlanValidator

/-- `TRAINING_GRAPH_MODES`. -/
def trainingGraphModes : List String :=
  ["federated_learning", "pipeline_parallel", "split_learning", "hybrid_partition"]

/-- `CHECKED_RULES`. -/
def checkedRules : List String :=
  ["plan_identity", "approved_mode_provenance", "layer_coverage", "partition_devices",
    "memory_capacity", "execution_graph_nodes", "execution_graph_dag", "network_links",
    "job_constraints"]

/-- `V2_CHECKED_RULES`. -/
def v2CheckedRules : List String :=
  checkedRules ++ ["coordination_approval_provenance", "v2_plan_identity", "strategy_identity",
    "input_snapshot", "deterministic_signature", "strategy_graph_contract"]

/-- The error of a rule that fails. -/
def failing (p : Prop) [Decidable p] (error : String) : List String := if p then [error] else []

/-- `_result`. -/
def result (errors checkedRules : List String) : PartitionValidationResult :=
  ⟨errors.eraseDups.isEmpty, errors.eraseDups, checkedRules⟩

/-- `plan.plan_type == "training"`. -/
def isTrainingPlan (plan : PartitionExecutionPlan) : Bool := plan.planType = "training"

/-- The rules on the identity of the plan and on its approval. -/
def identityErrors (roundPlan : RoundPlan) (plan : PartitionExecutionPlan) : List String :=
  failing (plan.jobId ≠ roundPlan.jobId) "job_id_mismatch" ++
    failing (plan.modelId ≠ roundPlan.modelId) "model_id_mismatch" ++
    failing (plan.approvedExecutionMode ≠ roundPlan.executionMode.name)
      "approved_execution_mode_mismatch" ++
    failing (roundPlan.executionMode.approved = false ∨ roundPlan.executionMode.approvedBy = "" ∨
      roundPlan.executionMode.approvalRef = "") "approved_mode_provenance_missing"

/-- Every partition of a federated plan is a replica of the model, one for each participant. -/
def fullModelReplicas (roundPlan : RoundPlan) (plan : PartitionExecutionPlan)
    (selected : PartitionCandidate) : Bool :=
  plan.planType = "training" ∧ plan.approvedExecutionMode = "federated_learning" ∧
    selected.partitions.length = roundPlan.participants.length ∧
    ∀ partition ∈ selected.partitions, partition.layerNames = roundPlan.layers.map (·.name)

/-- The rule on the layers that the partitions cover. -/
def coverageErrors (roundPlan : RoundPlan) (plan : PartitionExecutionPlan)
    (selected : PartitionCandidate) : List String :=
  failing (fullModelReplicas roundPlan plan selected = false ∧
      selected.partitions.flatMap (·.layerNames) ≠ roundPlan.layers.map (·.name))
    "layer_coverage_mismatch"

/-- The rules on a partition: the pass of the loop over `selected.partitions`. -/
def partitionErrors (roundPlan : RoundPlan) (partition : LogicalPartition) :
    Except PartitionError (List String) :=
  let layers := Dict.ofEntries (roundPlan.layers.map fun layer => (layer.name, layer))
  let devices := Dict.ofEntries (roundPlan.devices.map fun device => (device.deviceId, device))
  let empty := failing (partition.layerNames = []) s!"empty_partition:{partition.partitionId}"
  match devices.lookup partition.deviceId with
  | none => .ok (empty ++ [s!"unknown_partition_device:{partition.deviceId}"])
  | some device =>
      if partition.deviceId ∉ roundPlan.participants then
        .ok (empty ++ [s!"unknown_partition_device:{partition.deviceId}"])
      else
        match partition.layerNames.mapM fun name => layers.lookup name with
        | none => .ok (empty ++ [s!"unknown_partition_layer:{partition.partitionId}"])
        | some assigned => do
            let expectedMemory ← memoryDemand assigned
            let allowedMemory ← allowedMemory device roundPlan.constraints
            return empty ++
              failing (partition.memoryDemandBytes ≠ expectedMemory)
                s!"memory_demand_mismatch:{partition.partitionId}" ++
              failing (allowedMemory < expectedMemory)
                s!"memory_capacity_exceeded:{partition.deviceId}"

/-- `_graph_node_partitions`. -/
def graphNodePartitions (plan : PartitionExecutionPlan) :
    List LogicalPartition → List (String × LogicalPartition)
  | [] => []
  | first :: rest =>
      let partitions := first :: rest
      if isTrainingPlan plan = false then
        Dict.ofEntries (partitions.map fun p => (p.partitionId, p))
      else if plan.approvedExecutionMode = "federated_learning" then
        Dict.ofEntries (partitions.map (fun p => (p.partitionId, p)) ++ [("aggregation", first)])
      else
        Dict.ofEntries (partitions.flatMap (fun p =>
          [(s!"{p.partitionId}:forward", p), (s!"{p.partitionId}:backward", p)]) ++
          [("aggregation", first)])

/-- The identifiers of the nodes. -/
def nodeIds (selected : PartitionCandidate) : List String :=
  selected.graphNodes.map (·.partitionId)

/-- The rule on the nodes of the graph. -/
def nodeErrors (plan : PartitionExecutionPlan) (selected : PartitionCandidate) : List String :=
  failing (¬SameElements (selected.graphNodes.map fun n => (n.partitionId, n.deviceId))
      ((graphNodePartitions plan selected.partitions).map fun item => (item.1, item.2.deviceId)))
    "graph_node_partition_mismatch"

/-- `_has_required_network_link`. -/
def hasRequiredNetworkLink (roundPlan : RoundPlan) (plan : PartitionExecutionPlan)
    (sourceDevice targetDevice edgeType : String) : Bool :=
  let linkPairs := roundPlan.networkLinks.map (·.pair)
  sourceDevice = targetDevice ∨ (sourceDevice, targetDevice) ∈ linkPairs ∨
    (isTrainingPlan plan ∧ edgeType = "backward" ∧ (targetDevice, sourceDevice) ∈ linkPairs)

/-- Both ends of an edge are nodes. -/
def EdgeKnown (selected : PartitionCandidate) (edge : ExecutionGraphEdge) : Prop :=
  edge.sourcePartition ∈ nodeIds selected ∧ edge.targetPartition ∈ nodeIds selected

instance (selected : PartitionCandidate) (edge : ExecutionGraphEdge) :
    Decidable (EdgeKnown selected edge) := inferInstanceAs (Decidable (_ ∧ _))

/-- The rules on an edge: the pass of the loop over `selected.graph_edges`. -/
def edgeErrors (roundPlan : RoundPlan) (plan : PartitionExecutionPlan)
    (selected : PartitionCandidate) (edge : ExecutionGraphEdge) : List String :=
  if ¬EdgeKnown selected edge then ["graph_edge_unknown_node"]
  else
    let nodePartitions := graphNodePartitions plan selected.partitions
    match nodePartitions.lookup edge.sourcePartition, nodePartitions.lookup edge.targetPartition with
    | some source, some target =>
        failing (hasRequiredNetworkLink roundPlan plan source.deviceId target.deviceId edge.edgeType
            = false)
          s!"missing_network_link:{source.deviceId}->{target.deviceId}"
    | _, _ => ["graph_edge_unknown_partition"]

/-- The edges that a training plan must have. -/
def expectedTrainingEdges (mode : String) (partitions : List LogicalPartition) :
    List (String × String × String) :=
  if mode = "federated_learning" then
    partitions.tail.map fun p => (p.partitionId, "aggregation", "aggregation")
  else
    (partitions.zip partitions.tail).map (fun (source, target) =>
      (s!"{source.partitionId}:forward", s!"{target.partitionId}:forward", "forward")) ++
    (partitions.zip partitions.tail).map (fun (source, target) =>
      (s!"{target.partitionId}:backward", s!"{source.partitionId}:backward", "backward")) ++
    match partitions.head?, partitions.getLast? with
    | some first, some last =>
        [(s!"{last.partitionId}:forward", s!"{last.partitionId}:backward", "gradient"),
          (s!"{first.partitionId}:backward", "aggregation", "aggregation")]
    | _, _ => []

/-- `_validate_training_graph_contract`. -/
def trainingGraphErrors (mode : String) (selected : PartitionCandidate) : List String :=
  if mode ∉ trainingGraphModes then ["training_graph_mode_not_supported"]
  else
    failing (¬SameElements
        (selected.graphEdges.map fun e => (e.sourcePartition, e.targetPartition, e.edgeType))
        (expectedTrainingEdges mode selected.partitions))
      (if mode = "federated_learning" then "federated_aggregation_graph_contract_mismatch"
        else "training_graph_phase_contract_mismatch")

/-- The successors of every node, in the order in which the nodes are listed.  An edge with an
unknown end is not entered. -/
def adjacency (selected : PartitionCandidate) : List (String × List String) :=
  (nodeIds selected).dedup.map fun node =>
    (node, (selected.graphEdges.filter fun edge =>
      EdgeKnown selected edge ∧ edge.sourcePartition = node).map (·.targetPartition))

/-- `_has_cycle`. -/
def hasCycle (adjacency : List (String × List String)) : Option Bool :=
  Dfs.hasCycle (adjacency.map Prod.fst) fun node => (adjacency.lookup node).getD []

/-- The rule on the total of the transfers. -/
def transferErrors (constraints : PartitionConstraints) (selected : PartitionCandidate) :
    List String :=
  match constraints.maxTransferBytes with
  | none => []
  | some limit => failing (limit < selected.totalTransferBytes) "max_transfer_bytes_exceeded"

/-- The rule on the latency of the job. -/
def latencyErrors (limit : Option ℚ) (selected : PartitionCandidate) : List String :=
  match limit with
  | none => []
  | some limit => failing (PyFloat.lt (.finite limit) selected.estimatedTotalLatencyMs = true)
      "latency_slo_exceeded"

/-- The rules on a selected candidate that come before the one on the transfers. -/
def candidateErrors (roundPlan : RoundPlan) (plan : PartitionExecutionPlan)
    (selected : PartitionCandidate) : Except PartitionError (List String) := do
  let partitionErrors ← selected.partitions.mapM (partitionErrors roundPlan)
  return failing (plan.valid = false ∨ selected.valid = false) "selected_plan_not_valid" ++
    coverageErrors roundPlan plan selected ++
    failing (¬(selected.partitions.map (·.partitionId)).Nodup) "duplicate_partition_id" ++
    partitionErrors.flatten ++
    nodeErrors plan selected ++
    selected.graphEdges.flatMap (edgeErrors roundPlan plan selected) ++
    (if isTrainingPlan plan then trainingGraphErrors plan.approvedExecutionMode selected else []) ++
    failing (hasCycle (adjacency selected) = some true) "execution_graph_cycle" ++
    latencyErrors roundPlan.constraints.maxEndToEndLatencyMs selected

/-- `_validate_legacy`, as far as its errors. -/
def legacyErrors (roundPlan : RoundPlan) (plan : PartitionExecutionPlan) :
    Except PartitionError (List String) :=
  match plan.selectedCandidate with
  | none => .ok (identityErrors roundPlan plan ++ ["selected_candidate_required"])
  | some selected => do
      let errors ← candidateErrors roundPlan plan selected
      return identityErrors roundPlan plan ++ errors ++
        transferErrors roundPlan.constraints selected

/-- `_validate_legacy`. -/
def validateLegacy (roundPlan : RoundPlan) (plan : PartitionExecutionPlan) :
    Except PartitionError PartitionValidationResult := do
  return result (← legacyErrors roundPlan plan) checkedRules

/-- The rules on the approval of the request and on the identity of a plan for it. -/
def provenanceErrors (request : PartitionPlanningRequest) (normalized : NormalizedPartitionRequest)
    (plan : PartitionExecutionPlan) : List String :=
  failing (request.envelope.approvedBy = "" ∨ request.envelope.approvalRef = "")
      "approval_provenance_missing" ++
    (match request.approvedExecutionMode with
      | none => ["approved_mode_provenance_missing"]
      | some mode =>
          if mode.approved = false ∨ mode.approvedBy = "" ∨ mode.approvalRef = "" then
            ["approved_mode_provenance_missing"]
          else failing (plan.approvedExecutionMode ≠ mode.name) "approved_execution_mode_mismatch") ++
    failing (plan.planType ≠ normalized.planType) "strategy_plan_type_mismatch" ++
    failing (plan.approvedModelVersion ≠ normalized.approvedModelVersion)
      "approved_model_version_mismatch" ++
    failing (plan.inputSnapshotId ≠ normalized.contextSnapshotId) "input_snapshot_id_mismatch" ++
    failing (plan.inputSnapshotHash ≠ normalized.contextSnapshotHash) "input_snapshot_hash_mismatch"

/-- The rules on the strategy of a plan. -/
def strategyErrors (registry : PartitionStrategyRegistry) (normalized : NormalizedPartitionRequest)
    (plan : PartitionExecutionPlan) : Except PartitionError (List String) :=
  match registry.resolve normalized.planType normalized.approvedExecutionMode.name with
  | .error (.contract code _) => .ok [code]
  | .error error => .error error
  | .ok strategy => .ok (failing (plan.strategyId ≠ strategy.strategyId) "strategy_id_mismatch" ++
      failing (plan.strategyVersion ≠ strategy.strategyVersion) "strategy_version_mismatch")

/-- `_validate_inference_graph_contract`. -/
def inferenceGraphErrors (selected : PartitionCandidate) : List String :=
  failing (∃ edge ∈ selected.graphEdges, edge.edgeType ∉ inferenceForwardEdgeTypes)
      "inference_graph_forward_contract_mismatch" ++
    failing (hasInferenceForwardChain selected = false) "inference_graph_forward_path_missing"

/-- `_validate_inference_slas` of a selected candidate. -/
def inferenceSlaErrors (request : PartitionPlanningRequest) (roundPlan : RoundPlan)
    (selected : PartitionCandidate) : Except PartitionError (List String) := do
  let capacity ← predictedInferenceThroughputCapacity request.plan selected
  match request.plan with
  -- A training plan has no `availability_target`: `AttributeError`.
  | .training _ => .error .type
  | .inference plan =>
      let throughput := match capacity with
        | none => ["predicted_throughput_unverifiable"]
        | some capacity => failing (PyFloat.lt capacity plan.minimumThroughputRps = true)
            "predicted_throughput_capacity_exceeded"
      return latencyErrors (some plan.latencySloMs) selected ++ throughput ++
        failing (predictedSnapshotAvailabilityFeasibility roundPlan selected
          < plan.availabilityTarget) "snapshot_availability_target_not_met"

/-- The rules on an inference plan. -/
def inferenceErrors (request : PartitionPlanningRequest) (roundPlan : RoundPlan)
    (plan : PartitionExecutionPlan) : Except PartitionError (List String) :=
  match plan.selectedCandidate with
  | none => .ok ["predicted_throughput_unverifiable", "snapshot_availability_unverifiable"]
  | some selected => do
      let slas ← inferenceSlaErrors request roundPlan selected
      return inferenceGraphErrors selected ++ slas

/-- `_deterministic_signature`. -/
def deterministicSignature (rt : Runtime) (inputSignature : String) (plan : PartitionExecutionPlan) :
    String :=
  rt.digest (signaturePayload inputSignature plan.strategyId plan.strategyVersion
    plan.policyVersion plan.selection plan.selectedCandidate)

/-- The rules of `_validate_v2` that come after those of `_validate_legacy`. -/
def v2Errors (rt : Runtime) (registry : PartitionStrategyRegistry)
    (request : PartitionPlanningRequest) (normalized : NormalizedPartitionRequest)
    (plan : PartitionExecutionPlan) : Except PartitionError (List String) := do
  let strategy ← strategyErrors registry normalized plan
  let inference ←
    if normalized.planType = "inference" then inferenceErrors request normalized.roundPlan plan
    else .ok []
  return provenanceErrors request normalized plan ++ strategy ++ inference ++
    failing (plan.deterministicSignature = "" ∨ plan.deterministicSignature
      ≠ deterministicSignature rt normalized.inputSignature plan) "deterministic_signature_mismatch"

/-- `_validate_v2`. -/
def validateV2 (rt : Runtime) (registry : PartitionStrategyRegistry)
    (request : PartitionPlanningRequest) (plan : PartitionExecutionPlan) :
    Except PartitionError PartitionValidationResult :=
  match PartitionCommonProcessor.process rt request with
  | .error (.contract code _) => .ok (result [code] v2CheckedRules)
  | .error error => .error error
  | .ok normalized => do
      let legacy ← validateLegacy normalized.roundPlan plan
      return result (legacy.errors ++ (← v2Errors rt registry request normalized plan))
        v2CheckedRules

/-- `FederatedRoundPlan | PartitionPlanningRequest`. -/
inductive ValidationRequest where
  | legacy (roundPlan : FederatedRoundPlan)
  | v2 (request : PartitionPlanningRequest)

/-- `PartitionPlanValidator.validate`. -/
def validate (rt : Runtime) (registry : PartitionStrategyRegistry) (request : ValidationRequest)
    (plan : PartitionExecutionPlan) : Except PartitionError PartitionValidationResult :=
  match request with
  | .legacy roundPlan => validateLegacy roundPlan.toRoundPlan plan
  | .v2 request => validateV2 rt registry request plan

end PartitionPlanValidator

end Partition
end AiopsK8s
