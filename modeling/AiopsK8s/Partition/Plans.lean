/-
# Partition plans

The records of `partition_models` and `partition_ranking_models` that describe an answer: the
partitions of a candidate and its execution graph, the ranking that selected it and the plan that
carries both.  A plan is decoded, edited and rebuilt by hand, so its records hold plain values and
nothing is assumed of them; the parts of `to_dict` that a signature covers are here as well.

The figures of a plan are floats, which may be infinite or `nan` where the planner made it; a plan
whose figures are known to be finite has rational ones.
-/

import AiopsK8s.Partition.Models

namespace AiopsK8s
namespace Partition

/-- The layers that one device runs. -/
structure LogicalPartition (F : Type := PyFloat) where
  partitionId : String
  deviceId : String
  layerNames : List String
  computeUnits : F
  memoryDemandBytes : ℤ
  deriving DecidableEq

/-- The partition with other figures. -/
def LogicalPartition.map {F G : Type} (f : F → G) (p : LogicalPartition F) : LogicalPartition G :=
  ⟨p.partitionId, p.deviceId, p.layerNames, f p.computeUnits, p.memoryDemandBytes⟩

def LogicalPartition.toDict (p : LogicalPartition) : List (String × Json) :=
  [("partition_id", .str p.partitionId), ("device_id", .str p.deviceId),
    ("layer_names", .texts p.layerNames), ("compute_units", .float p.computeUnits),
    ("memory_demand_bytes", .int p.memoryDemandBytes)]

/-- A node of the execution graph. -/
structure ExecutionGraphNode where
  partitionId : String
  deviceId : String
  deriving DecidableEq

def ExecutionGraphNode.toDict (n : ExecutionGraphNode) : List (String × Json) :=
  [("partition_id", .str n.partitionId), ("device_id", .str n.deviceId)]

/-- A transfer between two nodes of the execution graph. -/
structure ExecutionGraphEdge (F : Type := PyFloat) where
  sourcePartition : String
  targetPartition : String
  transferBytes : ℤ
  estimatedTransferMs : F
  edgeType : String
  deriving DecidableEq

/-- The transfer with another time. -/
def ExecutionGraphEdge.map {F G : Type} (f : F → G) (e : ExecutionGraphEdge F) :
    ExecutionGraphEdge G :=
  ⟨e.sourcePartition, e.targetPartition, e.transferBytes, f e.estimatedTransferMs, e.edgeType⟩

def ExecutionGraphEdge.toDict (e : ExecutionGraphEdge) : List (String × Json) :=
  [("source_partition", .str e.sourcePartition), ("target_partition", .str e.targetPartition),
    ("transfer_bytes", .int e.transferBytes),
    ("estimated_transfer_ms", .float e.estimatedTransferMs), ("edge_type", .str e.edgeType)]

/-- A way to split the model, with its estimates. -/
structure PartitionCandidate (F : Type := PyFloat) where
  splitPoints : List ℤ
  partitions : List (LogicalPartition F)
  graphNodes : List ExecutionGraphNode
  graphEdges : List (ExecutionGraphEdge F)
  estimatedComputeMs : F
  estimatedTransferMs : F
  estimatedTotalLatencyMs : F
  totalTransferBytes : ℤ
  maximumMemoryPressure : F
  valid : Bool
  rejectionReasons : List String
  score : F
  estimatedStepTimeMs : F
  gradientTransferBytes : ℤ
  maximumLoadImbalance : F
  predictedResilienceRisk : F
  deriving DecidableEq

/-- The candidate with other figures. -/
def PartitionCandidate.map {F G : Type} (f : F → G) (c : PartitionCandidate F) :
    PartitionCandidate G where
  splitPoints := c.splitPoints
  partitions := c.partitions.map (·.map f)
  graphNodes := c.graphNodes
  graphEdges := c.graphEdges.map (·.map f)
  estimatedComputeMs := f c.estimatedComputeMs
  estimatedTransferMs := f c.estimatedTransferMs
  estimatedTotalLatencyMs := f c.estimatedTotalLatencyMs
  totalTransferBytes := c.totalTransferBytes
  maximumMemoryPressure := f c.maximumMemoryPressure
  valid := c.valid
  rejectionReasons := c.rejectionReasons
  score := f c.score
  estimatedStepTimeMs := f c.estimatedStepTimeMs
  gradientTransferBytes := c.gradientTransferBytes
  maximumLoadImbalance := f c.maximumLoadImbalance
  predictedResilienceRisk := f c.predictedResilienceRisk

def PartitionCandidate.toDict (c : PartitionCandidate) : List (String × Json) :=
  [("split_points", .ofList .int c.splitPoints),
    ("partitions", .ofList (fun p => .obj p.toDict) c.partitions),
    ("graph_nodes", .ofList (fun n => .obj n.toDict) c.graphNodes),
    ("graph_edges", .ofList (fun e => .obj e.toDict) c.graphEdges),
    ("estimated_compute_ms", .float c.estimatedComputeMs),
    ("estimated_transfer_ms", .float c.estimatedTransferMs),
    ("estimated_total_latency_ms", .float c.estimatedTotalLatencyMs),
    ("total_transfer_bytes", .int c.totalTransferBytes),
    ("maximum_memory_pressure", .float c.maximumMemoryPressure), ("valid", .bool c.valid),
    ("rejection_reasons", .texts c.rejectionReasons), ("score", .float c.score),
    ("estimated_step_time_ms", .float c.estimatedStepTimeMs),
    ("gradient_transfer_bytes", .int c.gradientTransferBytes),
    ("maximum_load_imbalance", .float c.maximumLoadImbalance),
    ("predicted_resilience_risk", .float c.predictedResilienceRisk)]

/-- How the candidate of a plan is chosen. -/
inductive SelectionMode where
  | deterministic
  | shadow
  | learnedGuarded
  deriving DecidableEq

/-- `SelectionMode.value`. -/
def SelectionMode.value : SelectionMode → String
  | deterministic => "deterministic"
  | shadow => "shadow"
  | learnedGuarded => "learned_guarded"

/-- The place of a candidate in a ranking. -/
structure CandidateRankingEntry where
  candidateKey : String
  baselineScore : PyFloat
  predictedReward : Option PyFloat
  predictionConfidence : Option PyFloat
  rank : ℤ
  eligible : Bool
  warnings : List String
  featureContributions : List (String × PyFloat)
  deriving DecidableEq

/-- A ranking and what it selected. -/
structure CandidateSelection where
  mode : SelectionMode
  activeRankerId : String
  activeRankerVersion : String
  baselineSelectedCandidateKey : Option String
  learnedSelectedCandidateKey : Option String
  finalSelectedCandidateKey : Option String
  modelVersion : Option String
  modelArtifactHash : Option String
  featureSchemaVersion : String
  entries : List CandidateRankingEntry
  confidence : PyFloat
  fallbackUsed : Bool
  fallbackReason : Option String
  rationale : List String
  deriving DecidableEq

/-- `CandidateSelection.signature_provenance`. -/
def CandidateSelection.signatureProvenance (s : CandidateSelection) : List (String × Json) :=
  [("mode", .str s.mode.value), ("active_ranker_id", .str s.activeRankerId),
    ("active_ranker_version", .str s.activeRankerVersion),
    ("model_artifact_hash", .ofOption .str s.modelArtifactHash),
    ("final_selected_candidate_key", .ofOption .str s.finalSelectedCandidateKey)]

/-- A plan. -/
structure PartitionExecutionPlan (F : Type := PyFloat) where
  planId : String
  jobId : String
  modelId : String
  approvedExecutionMode : String
  policyVersion : String
  selectedCandidate : Option (PartitionCandidate F)
  alternativeCandidates : List (PartitionCandidate F)
  rationale : String
  valid : Bool
  humanReviewRequired : Bool
  errors : List String
  planVersion : ℤ
  parentPlanId : Option String
  planType : String
  approvedModelVersion : String
  strategyId : String
  strategyVersion : String
  inputSnapshotId : String
  inputSnapshotHash : String
  assumptions : List String
  warnings : List String
  confidence : ℚ
  deterministicSignature : String
  handoffStatus : String
  selection : Option CandidateSelection
  deriving DecidableEq

namespace PartitionExecutionPlan

/-- The fields that `PartitionExecutionPlan` fills by default. -/
def legacy {F : Type} (planId jobId modelId approvedExecutionMode policyVersion : String) :
    PartitionExecutionPlan F where
  planId := planId
  jobId := jobId
  modelId := modelId
  approvedExecutionMode := approvedExecutionMode
  policyVersion := policyVersion
  selectedCandidate := none
  alternativeCandidates := []
  rationale := ""
  valid := false
  humanReviewRequired := false
  errors := []
  planVersion := 1
  parentPlanId := none
  planType := "inference"
  approvedModelVersion := "legacy"
  strategyId := "legacy-partition-v1"
  strategyVersion := "1.0"
  inputSnapshotId := "legacy-snapshot"
  inputSnapshotHash := ""
  assumptions := []
  warnings := []
  confidence := 0
  deterministicSignature := ""
  handoffStatus := "not_ready"
  selection := none

/-- `PartitionExecutionPlan.safe_failure`. -/
def safeFailure (planId jobId modelId approvedExecutionMode policyVersion : String)
    (errors : List String) (alternatives : List PartitionCandidate)
    (selection : Option CandidateSelection) : PartitionExecutionPlan :=
  { legacy planId jobId modelId approvedExecutionMode policyVersion with
    alternativeCandidates := alternatives
    rationale := "No feasible partition plan; human review is required."
    humanReviewRequired := true
    errors := errors
    selection := selection }

end PartitionExecutionPlan

/-- The document whose digest signs a plan: `signature_payload` of the planner and of the
validator. -/
def signaturePayload (inputSignature strategyId strategyVersion policyVersion : String)
    (selection : Option CandidateSelection) (selected : Option PartitionCandidate) : Json :=
  .obj [("input_signature", .str inputSignature), ("strategy_id", .str strategyId),
    ("strategy_version", .str strategyVersion), ("policy_version", .str policyVersion),
    ("signature_version", .str "partition-selection-v2"),
    ("selection", .ofOption (fun s => .obj s.signatureProvenance) selection),
    ("selected_candidate", .ofOption (fun c => .obj c.toDict) selected)]

end Partition
end AiopsK8s
