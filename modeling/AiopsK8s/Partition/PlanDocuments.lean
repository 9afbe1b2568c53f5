/-
# Documents of a plan

`from_dict` and `to_dict` of a plan and of its parts, in `partition_models` and
`partition_ranking_models`.  A plan is written into the report that is persisted, and feedback,
validation and the repository decode it again.

The records of `Partition.Plans` hold plain values; what a decoder checks of their texts and integers
is their `IsReadable`.  Of the figures of a candidate it demands that they are finite and not negative,
while those of a ranking may be any float.  So a readable plan is read back from its own document
exactly where the figures of its candidates are such numbers, and is otherwise refused with a contract
error (`fromDict_toDict_iff`).
-/

import AiopsK8s.Partition.Conversions
import AiopsK8s.Partition.Feedback

namespace AiopsK8s
namespace Partition

open Effect Raising Text
open RepartitionDirective (iterate textOf intOf textOf_str)

/-! ### Refusals -/

section Refusals

variable {α β : Type} {x : Except PartitionError α} {f : α → Except PartitionError β} {a : α}

/-- A step that returns. -/
theorem raises_of_step (hx : x = .ok a) (hf : RaisesContract (f a)) : RaisesContract (x >>= f) := by
  rw [hx]
  exact hf

/-- A float is refused with a contract error. -/
theorem raises_float {d : Decoder} {py : Python} {x : PyFloat} {field : String} {minimum : Minimum} :
    RaisesContract (d.float py (.float x) field minimum) :=
  (covers_float _ _).2 (List.forall_mem_singleton.2 fun _ h => by cases h)

/-- Records are refused one by one. -/
theorem raises_records {decode : List (String × Json) → Except PartitionError α}
    {toDict : α → List (String × Json)} {field : String} {l : List α}
    (h : ∀ a ∈ l, RaisesContract (decode (toDict a))) :
    RaisesContract (contract.records decode (l.map fun a => .obj (toDict a)) field) := by
  refine Raises.mapM fun item hitem => ?_
  obtain ⟨a, ha, rfl⟩ := List.mem_map.1 hitem
  exact h a ha

end Refusals

/-! ### Candidates -/

namespace LogicalPartition

/-- `LogicalPartition.from_dict`. -/
def fromDict (py : Python) (payload : List (String × Json)) :
    Except PartitionError LogicalPartition := do
  let partitionId ← contract.text py (Json.get payload "partition_id") "partition_id"
  let deviceId ← contract.text py (Json.get payload "device_id") "device_id"
  let layerNames ← contract.texts py
    (← contract.sequence (Json.get payload "layer_names") "layer_names") "layer_names[]"
  let computeUnits ← contract.float py (Json.get payload "compute_units") "compute_units" .zero
  let memoryDemandBytes ← contract.int (Json.get payload "memory_demand_bytes")
    "memory_demand_bytes" 0
  return ⟨partitionId.1, deviceId.1, layerNames.1, .finite computeUnits.1, memoryDemandBytes.1⟩

/-- What `from_dict` checks of the texts and the bytes of a partition. -/
structure IsReadable (p : LogicalPartition) : Prop where
  partitionId : Proper p.partitionId
  deviceId : Proper p.deviceId
  layerNames : ∀ name ∈ p.layerNames, Proper name
  memoryDemandBytes : 0 ≤ p.memoryDemandBytes

variable {py : Python} {payload : List (String × Json)} {p : LogicalPartition}

theorem fromDict_toDict (h : p.IsReadable) (hunits : p.computeUnits.IsNumber) :
    fromDict py p.toDict = .ok p := by
  simp [fromDict, toDict, Json.get_cons_ne, Json.texts, Json.ofList,
    Decoder.text_proper h.partitionId, Decoder.text_proper h.deviceId,
    Decoder.texts_str h.layerNames, Decoder.float_isNumber hunits, hunits.finite_value,
    Decoder.int_int h.memoryDemandBytes, bind, Except.bind, pure, Except.pure]

theorem raises_toDict (h : p.IsReadable) : RaisesContract (fromDict py p.toDict) := by
  refine raises_of_step (Decoder.text_proper h.partitionId) ?_
  refine raises_of_step (Decoder.text_proper h.deviceId) ?_
  refine raises_of_step rfl (raises_of_step (Decoder.texts_str h.layerNames) ?_)
  refine raises_float.bind fun _ => ?_
  exact raises_of_step (Decoder.int_int h.memoryDemandBytes) (raises_ok _)

/-- What is decoded again is a number. -/
theorem isNumber_of_fromDict {p' : LogicalPartition} (h : fromDict py p.toDict = .ok p') :
    p.computeUnits.IsNumber := by
  obtain ⟨_, _, h⟩ := bind_eq_ok h
  obtain ⟨_, _, h⟩ := bind_eq_ok h
  obtain ⟨_, _, h⟩ := bind_eq_ok h
  obtain ⟨_, _, h⟩ := bind_eq_ok h
  obtain ⟨_, hunits, _⟩ := bind_eq_ok h
  exact Decoder.isNumber_of_float hunits

end LogicalPartition

namespace ExecutionGraphNode

/-- `ExecutionGraphNode.from_dict`. -/
def fromDict (py : Python) (payload : List (String × Json)) :
    Except PartitionError ExecutionGraphNode := do
  let partitionId ← contract.text py (Json.get payload "partition_id") "partition_id"
  let deviceId ← contract.text py (Json.get payload "device_id") "device_id"
  return ⟨partitionId.1, deviceId.1⟩

/-- What `from_dict` checks of a node. -/
structure IsReadable (n : ExecutionGraphNode) : Prop where
  partitionId : Proper n.partitionId
  deviceId : Proper n.deviceId

variable {py : Python} {payload : List (String × Json)} {n : ExecutionGraphNode}

theorem fromDict_toDict (h : n.IsReadable) : fromDict py n.toDict = .ok n := by
  simp [fromDict, toDict, Json.get_cons_ne, Decoder.text_proper h.partitionId,
    Decoder.text_proper h.deviceId, bind, Except.bind, pure, Except.pure]

end ExecutionGraphNode

namespace ExecutionGraphEdge

/-- The edge types of a document. -/
def edgeTypes : List String := ["forward", "backward", "gradient", "aggregation"]

/-- `ExecutionGraphEdge.from_dict`. -/
def fromDict (py : Python) (payload : List (String × Json)) :
    Except PartitionError ExecutionGraphEdge := do
  let edgeType ← contract.text py (Json.getD payload "edge_type" (.str "forward")) "edge_type"
  rejectIf (edgeType.1 ∉ edgeTypes) (.contract "invalid_contract"
    "edge_type must be forward, backward, gradient, or aggregation")
  let sourcePartition ← contract.text py (Json.get payload "source_partition") "source_partition"
  let targetPartition ← contract.text py (Json.get payload "target_partition") "target_partition"
  let transferBytes ← contract.int (Json.get payload "transfer_bytes") "transfer_bytes" 0
  let estimatedTransferMs ← contract.float py (Json.get payload "estimated_transfer_ms")
    "estimated_transfer_ms" .zero
  return ⟨sourcePartition.1, targetPartition.1, transferBytes.1, .finite estimatedTransferMs.1,
    edgeType.1⟩

/-- What `from_dict` checks of the texts and the bytes of an edge. -/
structure IsReadable (e : ExecutionGraphEdge) : Prop where
  sourcePartition : Proper e.sourcePartition
  targetPartition : Proper e.targetPartition
  transferBytes : 0 ≤ e.transferBytes
  edgeType : e.edgeType ∈ edgeTypes

variable {py : Python} {payload : List (String × Json)} {e : ExecutionGraphEdge}

theorem proper_edgeType {s : String} (h : s ∈ edgeTypes) : Proper s := by
  revert s
  decide

theorem fromDict_toDict (h : e.IsReadable) (hms : e.estimatedTransferMs.IsNumber) :
    fromDict py e.toDict = .ok e := by
  have htype : rejectIf (e.edgeType ∉ edgeTypes) (.contract "invalid_contract"
      "edge_type must be forward, backward, gradient, or aggregation" : PartitionError) = .ok () :=
    rejectIf_eq_ok.2 (not_not.2 h.edgeType)
  simp [fromDict, toDict, Json.get_cons_ne, Json.getD_cons_ne,
    Decoder.text_proper (proper_edgeType h.edgeType), Decoder.text_proper h.sourcePartition,
    Decoder.text_proper h.targetPartition, Decoder.int_int h.transferBytes,
    Decoder.float_isNumber hms, hms.finite_value, htype, bind, Except.bind, pure, Except.pure]

theorem raises_toDict (h : e.IsReadable) : RaisesContract (fromDict py e.toDict) := by
  refine raises_of_step (Decoder.text_proper (proper_edgeType h.edgeType)) ?_
  refine raises_of_step (rejectIf_eq_ok.2 (not_not.2 h.edgeType)) ?_
  refine raises_of_step (Decoder.text_proper h.sourcePartition) ?_
  refine raises_of_step (Decoder.text_proper h.targetPartition) ?_
  refine raises_of_step (Decoder.int_int h.transferBytes) ?_
  exact raises_float.bind fun _ => raises_ok _

theorem isNumber_of_fromDict {e' : ExecutionGraphEdge} (h : fromDict py e.toDict = .ok e') :
    e.estimatedTransferMs.IsNumber := by
  obtain ⟨_, _, h⟩ := bind_eq_ok h
  obtain ⟨_, _, h⟩ := bind_eq_ok h
  obtain ⟨_, _, h⟩ := bind_eq_ok h
  obtain ⟨_, _, h⟩ := bind_eq_ok h
  obtain ⟨_, _, h⟩ := bind_eq_ok h
  obtain ⟨_, hms, _⟩ := bind_eq_ok h
  exact Decoder.isNumber_of_float hms

end ExecutionGraphEdge

namespace PartitionCandidate

/-- `_int(item, "split_points[]", minimum=1)`. -/
def splitPoint (item : Json) : Except PartitionError ℤ := do
  return (← contract.int item "split_points[]" 1).1

variable (rt : Runtime)

/-- `PartitionCandidate.from_dict`. -/
def fromDict (payload : List (String × Json)) : Except PartitionError PartitionCandidate := do
  let splitPoints ←
    (← contract.sequence (Json.get payload "split_points") "split_points").mapM splitPoint
  let partitions ← contract.records (LogicalPartition.fromDict rt.toPython)
    (← contract.sequence (Json.get payload "partitions") "partitions") "partitions[]"
  let graphNodes ← contract.records (ExecutionGraphNode.fromDict rt.toPython)
    (← contract.sequence (Json.get payload "graph_nodes") "graph_nodes") "graph_nodes[]"
  let graphEdges ← contract.records (ExecutionGraphEdge.fromDict rt.toPython)
    (← contract.sequence (Json.get payload "graph_edges") "graph_edges") "graph_edges[]"
  let estimatedComputeMs ← contract.float rt.toPython (Json.get payload "estimated_compute_ms")
    "estimated_compute_ms" .zero
  let estimatedTransferMs ← contract.float rt.toPython (Json.get payload "estimated_transfer_ms")
    "estimated_transfer_ms" .zero
  let estimatedTotalLatencyMs ← contract.float rt.toPython
    (Json.get payload "estimated_total_latency_ms") "estimated_total_latency_ms" .zero
  let totalTransferBytes ← contract.int (Json.get payload "total_transfer_bytes")
    "total_transfer_bytes" 0
  let maximumMemoryPressure ← contract.float rt.toPython
    (Json.get payload "maximum_memory_pressure") "maximum_memory_pressure" .zero
  let rejectionReasons ← (← contract.sequence
    (Json.getD payload "rejection_reasons" (.arr [])) "rejection_reasons").mapM (textOf rt)
  let score ← contract.float rt.toPython (Json.get payload "score") "score" .zero
  let estimatedStepTimeMs ← contract.float rt.toPython
    (Json.getD payload "estimated_step_time_ms" (.number 0)) "estimated_step_time_ms" .zero
  let gradientTransferBytes ← contract.int (Json.getD payload "gradient_transfer_bytes" (.int 0))
    "gradient_transfer_bytes" 0
  let maximumLoadImbalance ← contract.float rt.toPython
    (Json.getD payload "maximum_load_imbalance" (.number 0)) "maximum_load_imbalance" .zero
  let predictedResilienceRisk ← contract.float rt.toPython
    (Json.getD payload "predicted_resilience_risk" (.number 0)) "predicted_resilience_risk" .zero
  return {
    splitPoints := splitPoints
    partitions := partitions
    graphNodes := graphNodes
    graphEdges := graphEdges
    estimatedComputeMs := .finite estimatedComputeMs.1
    estimatedTransferMs := .finite estimatedTransferMs.1
    estimatedTotalLatencyMs := .finite estimatedTotalLatencyMs.1
    totalTransferBytes := totalTransferBytes.1
    maximumMemoryPressure := .finite maximumMemoryPressure.1
    valid := (Json.get payload "valid").truthy
    rejectionReasons := rejectionReasons
    score := .finite score.1
    estimatedStepTimeMs := .finite estimatedStepTimeMs.1
    gradientTransferBytes := gradientTransferBytes.1
    maximumLoadImbalance := .finite maximumLoadImbalance.1
    predictedResilienceRisk := .finite predictedResilienceRisk.1 }

/-- What `from_dict` checks of the texts and the integers of a candidate. -/
structure IsReadable (c : PartitionCandidate) : Prop where
  splitPoints : ∀ point ∈ c.splitPoints, 1 ≤ point
  partitions : ∀ p ∈ c.partitions, p.IsReadable
  graphNodes : ∀ n ∈ c.graphNodes, n.IsReadable
  graphEdges : ∀ e ∈ c.graphEdges, e.IsReadable
  totalTransferBytes : 0 ≤ c.totalTransferBytes
  gradientTransferBytes : 0 ≤ c.gradientTransferBytes

variable {rt} {payload : List (String × Json)} {c : PartitionCandidate}

theorem mapM_splitPoint {l : List ℤ} (h : ∀ point ∈ l, 1 ≤ point) :
    (l.map Json.int).mapM splitPoint = .ok l := by
  refine mapM_map_ok fun point hpoint => ?_
  rw [splitPoint, Decoder.int_int (h point hpoint)]
  rfl

theorem mapM_textOf (l : List String) : (l.map Json.str).mapM (textOf rt) = .ok l :=
  mapM_map_ok fun _ _ => rfl

theorem fromDict_toDict (h : c.IsReadable) (hfigures : c.Figures PyFloat.IsNumber) :
    fromDict rt c.toDict = .ok c := by
  simp [-List.mapM_map, fromDict, toDict, Json.get_cons_ne, Json.getD_cons_ne, Json.texts,
    Json.ofList, mapM_splitPoint h.splitPoints, mapM_textOf,
    Decoder.records_toDict fun p hp => LogicalPartition.fromDict_toDict (h.partitions p hp)
      (hfigures.computeUnits p hp),
    Decoder.records_toDict fun n hn => ExecutionGraphNode.fromDict_toDict (h.graphNodes n hn),
    Decoder.records_toDict fun e he => ExecutionGraphEdge.fromDict_toDict (h.graphEdges e he)
      (hfigures.edgeTransferMs e he),
    Decoder.float_isNumber hfigures.estimatedComputeMs, hfigures.estimatedComputeMs.finite_value,
    Decoder.float_isNumber hfigures.estimatedTransferMs, hfigures.estimatedTransferMs.finite_value,
    Decoder.float_isNumber hfigures.estimatedTotalLatencyMs,
    hfigures.estimatedTotalLatencyMs.finite_value, Decoder.int_int h.totalTransferBytes,
    Decoder.float_isNumber hfigures.maximumMemoryPressure,
    hfigures.maximumMemoryPressure.finite_value, Decoder.float_isNumber hfigures.score,
    hfigures.score.finite_value, Decoder.float_isNumber hfigures.estimatedStepTimeMs,
    hfigures.estimatedStepTimeMs.finite_value, Decoder.int_int h.gradientTransferBytes,
    Decoder.float_isNumber hfigures.maximumLoadImbalance,
    hfigures.maximumLoadImbalance.finite_value,
    Decoder.float_isNumber hfigures.predictedResilienceRisk,
    hfigures.predictedResilienceRisk.finite_value, Json.truthy, bind, Except.bind, pure, Except.pure]

theorem raises_toDict (h : c.IsReadable) : RaisesContract (fromDict rt c.toDict) := by
  refine raises_of_step rfl (raises_of_step (mapM_splitPoint h.splitPoints) ?_)
  refine raises_of_step rfl ((raises_records fun p hp =>
    LogicalPartition.raises_toDict (h.partitions p hp)).bind fun _ => ?_)
  refine raises_of_step rfl (raises_of_step (Decoder.records_toDict fun n hn =>
    ExecutionGraphNode.fromDict_toDict (h.graphNodes n hn)) ?_)
  refine raises_of_step rfl ((raises_records fun e he =>
    ExecutionGraphEdge.raises_toDict (h.graphEdges e he)).bind fun _ => ?_)
  refine raises_float.bind fun _ => raises_float.bind fun _ => raises_float.bind fun _ => ?_
  refine raises_of_step (Decoder.int_int h.totalTransferBytes) ?_
  refine raises_float.bind fun _ => ?_
  refine raises_of_step rfl (raises_of_step (mapM_textOf c.rejectionReasons) ?_)
  refine raises_float.bind fun _ => raises_float.bind fun _ => ?_
  refine raises_of_step (Decoder.int_int h.gradientTransferBytes) ?_
  exact raises_float.bind fun _ => raises_float.bind fun _ => raises_ok _

/-- The records of a list are decoded one by one. -/
theorem exists_of_records {α : Type} {decode : List (String × Json) → Except PartitionError α}
    {toDict : α → List (String × Json)} {field : String} {l l' : List α}
    (h : contract.records decode (l.map fun a => .obj (toDict a)) field = .ok l') {a : α}
    (ha : a ∈ l) : ∃ a', decode (toDict a) = .ok a' := by
  obtain ⟨a', _, h⟩ := exists_mem_of_mapM h (List.mem_map_of_mem ha)
  exact ⟨a', h⟩

/-- **What is decoded again has figures that are numbers.** -/
theorem figures_of_fromDict {c' : PartitionCandidate} (h : fromDict rt c.toDict = .ok c') :
    c.Figures PyFloat.IsNumber := by
  obtain ⟨_, _, h⟩ := bind_eq_ok h
  obtain ⟨_, _, h⟩ := bind_eq_ok h
  obtain ⟨_, hitems, h⟩ := bind_eq_ok h
  obtain rfl := Except.ok.inj hitems
  obtain ⟨_, hpartitions, h⟩ := bind_eq_ok h
  obtain ⟨_, _, h⟩ := bind_eq_ok h
  obtain ⟨_, _, h⟩ := bind_eq_ok h
  obtain ⟨_, hitems, h⟩ := bind_eq_ok h
  obtain rfl := Except.ok.inj hitems
  obtain ⟨_, hedges, h⟩ := bind_eq_ok h
  obtain ⟨_, hcompute, h⟩ := bind_eq_ok h
  obtain ⟨_, htransfer, h⟩ := bind_eq_ok h
  obtain ⟨_, hlatency, h⟩ := bind_eq_ok h
  obtain ⟨_, _, h⟩ := bind_eq_ok h
  obtain ⟨_, hpressure, h⟩ := bind_eq_ok h
  obtain ⟨_, _, h⟩ := bind_eq_ok h
  obtain ⟨_, _, h⟩ := bind_eq_ok h
  obtain ⟨_, hscore, h⟩ := bind_eq_ok h
  obtain ⟨_, hstep, h⟩ := bind_eq_ok h
  obtain ⟨_, _, h⟩ := bind_eq_ok h
  obtain ⟨_, himbalance, h⟩ := bind_eq_ok h
  obtain ⟨_, hrisk, _⟩ := bind_eq_ok h
  refine ⟨fun p hp => ?_, fun e he => ?_, Decoder.isNumber_of_float hcompute,
    Decoder.isNumber_of_float htransfer, Decoder.isNumber_of_float hlatency,
    Decoder.isNumber_of_float hpressure, Decoder.isNumber_of_float hscore,
    Decoder.isNumber_of_float hstep, Decoder.isNumber_of_float himbalance,
    Decoder.isNumber_of_float hrisk⟩
  · obtain ⟨_, h⟩ := exists_of_records hpartitions hp
    exact LogicalPartition.isNumber_of_fromDict h
  · obtain ⟨_, h⟩ := exists_of_records hedges he
    exact ExecutionGraphEdge.isNumber_of_fromDict h

end PartitionCandidate

/-! ### Rankings -/

section Helpers

variable (rt : Runtime)

/-- `payload[key]`. -/
def required (payload : List (String × Json)) (key : String) : Except PartitionError Json :=
  match payload.lookup key with
  | some value => .ok value
  | none => .error .key

/-- `float(value)`. -/
def floatOf (py : Python) : Json → Except PartitionError PyFloat
  | .bool b => .ok (.finite (if b then 1 else 0))
  | .int i =>
      match PyFloat.ofInt i with
      | some x => .ok x
      | none => .error .overflow
  | .float x => .ok x
  | .str s =>
      match py.floatOfText s with
      | some x => .ok x
      | none => .error .value
  | _ => .error .type

/-- `_optional_float`. -/
def optionalFloat (py : Python) : Json → Except PartitionError (Option PyFloat)
  | .null => .ok none
  | value => do return some (← floatOf py value)

/-- `_optional_text`. -/
def optionalText : Json → Except PartitionError (Option String)
  | .null => .ok none
  | value => do
      let text := strip (← textOf rt value)
      return if text = "" then none else some text

/-- `_mapping` of `partition_ranking_models`. -/
def rankingMapping : Json → Except PartitionError (List (String × Json))
  | .obj fields => .ok fields
  | _ => .error .value

/-- An array; anything else is a `ValueError`. -/
def rankingSequence : Json → Except PartitionError (List Json)
  | .arr items => .ok items
  | _ => .error .value

/-- `_feature_contribution`. -/
def featureContribution (value : Json) : Except PartitionError (String × PyFloat) := do
  match ← rankingSequence value with
  | [name, figure] => do
      let name ← textOf rt name
      let figure ← floatOf rt.toPython figure
      return (name, figure)
  | _ => .error .value

variable {rt}

theorem required_cons_self (key : String) (value : Json) (fields : List (String × Json)) :
    required ((key, value) :: fields) key = .ok value := by
  simp [required]

theorem required_cons_ne {k key : String} (h : key ≠ k) (value : Json)
    (fields : List (String × Json)) :
    required ((k, value) :: fields) key = required fields key := by
  simp [required, List.lookup_cons, beq_false_of_ne h]

theorem optionalText_ofOption {o : Option String} (h : ∀ s ∈ o, Proper s) :
    optionalText rt (.ofOption .str o) = .ok o := by
  rcases o with _ | s
  · rfl
  · have hs := h s rfl
    simp [optionalText, Json.ofOption, textOf_str, hs.strip_eq, hs.ne_empty, bind, Except.bind,
      pure, Except.pure]

theorem optionalFloat_ofOption {py : Python} (o : Option PyFloat) :
    optionalFloat py (.ofOption .float o) = .ok o := by
  rcases o with _ | q <;> rfl

end Helpers

/-- The mode of a text: `SelectionMode(text)`. -/
def SelectionMode.ofText (text : String) : Except PartitionError SelectionMode :=
  match [SelectionMode.deterministic, .shadow, .learnedGuarded].find? (·.value = text) with
  | some mode => .ok mode
  | none => .error .value

theorem SelectionMode.ofText_value (mode : SelectionMode) : ofText mode.value = .ok mode := by
  cases mode <;> rfl

namespace CandidateRankingEntry

/-- `CandidateRankingEntry.to_dict`. -/
def toDict (e : CandidateRankingEntry) : List (String × Json) :=
  [("candidate_key", .str e.candidateKey), ("baseline_score", .float e.baselineScore),
    ("predicted_reward", .ofOption .float e.predictedReward),
    ("prediction_confidence", .ofOption .float e.predictionConfidence), ("rank", .int e.rank),
    ("eligible", .bool e.eligible), ("warnings", .texts e.warnings),
    ("feature_contributions", .ofList (fun c => .arr [.str c.1, .float c.2])
      e.featureContributions)]

variable (rt : Runtime)

/-- `CandidateRankingEntry.from_dict`. -/
def fromDict (payload : List (String × Json)) : Except PartitionError CandidateRankingEntry := do
  let contributions ← rankingSequence (Json.getD payload "feature_contributions" (.arr []))
  let candidateKey ← textOf rt (← required payload "candidate_key")
  let baselineScore ← floatOf rt.toPython (← required payload "baseline_score")
  let predictedReward ← optionalFloat rt.toPython (Json.get payload "predicted_reward")
  let predictionConfidence ← optionalFloat rt.toPython (Json.get payload "prediction_confidence")
  let rank ← intOf rt (← required payload "rank")
  let eligible ← required payload "eligible"
  let warnings ← (← iterate (Json.getD payload "warnings" (.arr []))).mapM (textOf rt)
  let featureContributions ← contributions.mapM (featureContribution rt)
  return {
    candidateKey := candidateKey
    baselineScore := baselineScore
    predictedReward := predictedReward
    predictionConfidence := predictionConfidence
    rank := rank
    eligible := eligible.truthy
    warnings := warnings
    featureContributions := featureContributions }

variable {rt}

theorem mapM_featureContribution (l : List (String × PyFloat)) :
    (l.map fun c => Json.arr [.str c.1, .float c.2]).mapM (featureContribution rt) = .ok l :=
  mapM_map_ok fun _ _ => rfl

/-- An entry of a ranking is read back from its own document. -/
theorem fromDict_toDict (e : CandidateRankingEntry) : fromDict rt e.toDict = .ok e := by
  have hscore : floatOf rt.toPython (.float e.baselineScore) = .ok e.baselineScore := rfl
  have hrank : intOf rt (.int e.rank) = .ok e.rank := rfl
  simp [-List.mapM_map, fromDict, toDict, Json.get_cons_ne, Json.getD_cons_ne, required_cons_self,
    required_cons_ne, Json.texts, Json.ofList, rankingSequence, iterate, textOf_str, hscore,
    optionalFloat_ofOption, hrank, PartitionCandidate.mapM_textOf, mapM_featureContribution,
    Json.truthy, bind, Except.bind, pure, Except.pure]

end CandidateRankingEntry

namespace CandidateSelection

/-- `CandidateSelection.to_dict`. -/
def toDict (s : CandidateSelection) : List (String × Json) :=
  [("mode", .str s.mode.value), ("active_ranker_id", .str s.activeRankerId),
    ("active_ranker_version", .str s.activeRankerVersion),
    ("baseline_selected_candidate_key", .ofOption .str s.baselineSelectedCandidateKey),
    ("learned_selected_candidate_key", .ofOption .str s.learnedSelectedCandidateKey),
    ("final_selected_candidate_key", .ofOption .str s.finalSelectedCandidateKey),
    ("model_version", .ofOption .str s.modelVersion),
    ("model_artifact_hash", .ofOption .str s.modelArtifactHash),
    ("feature_schema_version", .str s.featureSchemaVersion),
    ("entries", .ofList (fun e => .obj e.toDict) s.entries), ("confidence", .float s.confidence),
    ("fallback_used", .bool s.fallbackUsed),
    ("fallback_reason", .ofOption .str s.fallbackReason), ("rationale", .texts s.rationale)]

variable (rt : Runtime)

/-- `CandidateRankingEntry.from_dict(_mapping(item, "entries[]"))`. -/
def entryOf (item : Json) : Except PartitionError CandidateRankingEntry := do
  CandidateRankingEntry.fromDict rt (← rankingMapping item)

/-- `CandidateSelection.from_dict`. -/
def fromDict (payload : List (String × Json)) : Except PartitionError CandidateSelection := do
  let entries ← rankingSequence (Json.getD payload "entries" (.arr []))
  let mode ← SelectionMode.ofText (← textOf rt (← required payload "mode"))
  let activeRankerId ← textOf rt (← required payload "active_ranker_id")
  let activeRankerVersion ← textOf rt (← required payload "active_ranker_version")
  let baseline ← optionalText rt (Json.get payload "baseline_selected_candidate_key")
  let learned ← optionalText rt (Json.get payload "learned_selected_candidate_key")
  let final ← optionalText rt (Json.get payload "final_selected_candidate_key")
  let modelVersion ← optionalText rt (Json.get payload "model_version")
  let modelArtifactHash ← optionalText rt (Json.get payload "model_artifact_hash")
  let featureSchemaVersion ← textOf rt (← required payload "feature_schema_version")
  let entries ← entries.mapM (entryOf rt)
  let confidence ← floatOf rt.toPython (← required payload "confidence")
  let fallbackUsed ← required payload "fallback_used"
  let fallbackReason ← optionalText rt (Json.get payload "fallback_reason")
  let rationale ← (← iterate (Json.getD payload "rationale" (.arr []))).mapM (textOf rt)
  return {
    mode := mode
    activeRankerId := activeRankerId
    activeRankerVersion := activeRankerVersion
    baselineSelectedCandidateKey := baseline
    learnedSelectedCandidateKey := learned
    finalSelectedCandidateKey := final
    modelVersion := modelVersion
    modelArtifactHash := modelArtifactHash
    featureSchemaVersion := featureSchemaVersion
    entries := entries
    confidence := confidence
    fallbackUsed := fallbackUsed.truthy
    fallbackReason := fallbackReason
    rationale := rationale }

/-- What `from_dict` makes of the texts of a selection that may be missing. -/
structure IsReadable (s : CandidateSelection) : Prop where
  baseline : ∀ key ∈ s.baselineSelectedCandidateKey, Proper key
  learned : ∀ key ∈ s.learnedSelectedCandidateKey, Proper key
  final : ∀ key ∈ s.finalSelectedCandidateKey, Proper key
  modelVersion : ∀ version ∈ s.modelVersion, Proper version
  modelArtifactHash : ∀ hash ∈ s.modelArtifactHash, Proper hash
  fallbackReason : ∀ reason ∈ s.fallbackReason, Proper reason

variable {rt} {payload : List (String × Json)} {s : CandidateSelection}

theorem mapM_entryOf (l : List CandidateRankingEntry) :
    (l.map fun e => Json.obj e.toDict).mapM (entryOf rt) = .ok l :=
  mapM_map_ok fun e _ => CandidateRankingEntry.fromDict_toDict e

theorem fromDict_toDict (h : s.IsReadable) : fromDict rt s.toDict = .ok s := by
  have hconfidence : floatOf rt.toPython (.float s.confidence) = .ok s.confidence := rfl
  simp [-List.mapM_map, fromDict, toDict, Json.get_cons_ne, Json.getD_cons_ne, required_cons_self,
    required_cons_ne, Json.texts, Json.ofList, rankingSequence, iterate, textOf_str,
    SelectionMode.ofText_value, hconfidence, optionalText_ofOption h.baseline,
    optionalText_ofOption h.learned, optionalText_ofOption h.final,
    optionalText_ofOption h.modelVersion, optionalText_ofOption h.modelArtifactHash,
    optionalText_ofOption h.fallbackReason, PartitionCandidate.mapM_textOf, mapM_entryOf,
    Json.truthy, bind, Except.bind, pure, Except.pure]

end CandidateSelection

/-! ### Plans -/

namespace PartitionExecutionPlan

/-- `PartitionExecutionPlan.to_dict`. -/
def toDict (p : PartitionExecutionPlan) : List (String × Json) :=
  [("plan_id", .str p.planId), ("job_id", .str p.jobId), ("model_id", .str p.modelId),
    ("approved_execution_mode", .str p.approvedExecutionMode),
    ("policy_version", .str p.policyVersion),
    ("selected_candidate", .ofOption (fun c => .obj c.toDict) p.selectedCandidate),
    ("alternative_candidates", .ofList (fun c => .obj c.toDict) p.alternativeCandidates),
    ("rationale", .str p.rationale), ("valid", .bool p.valid),
    ("human_review_required", .bool p.humanReviewRequired), ("errors", .texts p.errors),
    ("plan_version", .int p.planVersion), ("parent_plan_id", .ofOption .str p.parentPlanId),
    ("plan_type", .str p.planType), ("approved_model_version", .str p.approvedModelVersion),
    ("strategy_id", .str p.strategyId), ("strategy_version", .str p.strategyVersion),
    ("input_snapshot_id", .str p.inputSnapshotId),
    ("input_snapshot_hash", .str p.inputSnapshotHash), ("assumptions", .texts p.assumptions),
    ("warnings", .texts p.warnings), ("confidence", .number p.confidence),
    ("deterministic_signature", .str p.deterministicSignature),
    ("handoff_status", .str p.handoffStatus),
    ("selection", .ofOption (fun s => .obj s.toDict) p.selection)]

/-- A record that may be `None`. -/
def optionalRecord {α : Type} (decode : List (String × Json) → Except PartitionError α)
    (field : String) : Json → Except PartitionError (Option α)
  | .null => .ok none
  | value => do return some (← decode (← contract.mapping value field))

/-- The parent of a plan: `str(value or "").strip() or None`. -/
def parentOf (py : Python) : Json → Except PartitionError (Option String)
  | .null => .ok none
  | value => do
      let parent ← stripped py value
      return if parent.1 = "" then none else some parent.1

variable (rt : Runtime)

/-- `str(value or default)`. -/
def textOr (value : Json) (default : String) : Except PartitionError String :=
  if value.truthy then textOf rt value else .ok default

/-- `tuple(str(item) for item in _sequence(payload.get(key, []), key))`. -/
def textsOf (payload : List (String × Json)) (key : String) : Except PartitionError (List String) := do
  (← contract.sequence (Json.getD payload key (.arr [])) key).mapM (textOf rt)

/-- `PartitionExecutionPlan.from_dict`. -/
def fromDict (payload : List (String × Json)) : Except PartitionError PartitionExecutionPlan := do
  let planId ← contract.text rt.toPython (Json.get payload "plan_id") "plan_id"
  let jobId ← contract.text rt.toPython (Json.get payload "job_id") "job_id"
  let modelId ← contract.text rt.toPython (Json.get payload "model_id") "model_id"
  let approvedExecutionMode ← contract.text rt.toPython
    (Json.get payload "approved_execution_mode") "approved_execution_mode"
  let policyVersion ← contract.text rt.toPython (Json.get payload "policy_version")
    "policy_version"
  let selectedCandidate ← optionalRecord (PartitionCandidate.fromDict rt) "selected_candidate"
    (Json.get payload "selected_candidate")
  let alternativeCandidates ← contract.records (PartitionCandidate.fromDict rt)
    (← contract.sequence (Json.getD payload "alternative_candidates" (.arr []))
      "alternative_candidates") "alternative_candidates[]"
  let rationale ← textOr rt (Json.get payload "rationale") ""
  let errors ← textsOf rt payload "errors"
  let planVersion ← contract.int (Json.getD payload "plan_version" (.int 1)) "plan_version" 1
  let parentPlanId ← parentOf rt.toPython (Json.get payload "parent_plan_id")
  let planType ← textOr rt (Json.get payload "plan_type") "inference"
  let approvedModelVersion ← textOr rt (Json.get payload "approved_model_version") "legacy"
  let strategyId ← textOr rt (Json.get payload "strategy_id") "legacy-partition-v1"
  let strategyVersion ← textOr rt (Json.get payload "strategy_version") "1.0"
  let inputSnapshotId ← textOr rt (Json.get payload "input_snapshot_id") "legacy-snapshot"
  let inputSnapshotHash ← textOr rt (Json.get payload "input_snapshot_hash") ""
  let assumptions ← textsOf rt payload "assumptions"
  let warnings ← textsOf rt payload "warnings"
  let confidence ← contract.float rt.toPython (Json.getD payload "confidence" (.number 0))
    "confidence" .zero
  let deterministicSignature ← textOr rt (Json.get payload "deterministic_signature") ""
  let handoffStatus ← textOr rt (Json.get payload "handoff_status") "not_ready"
  let selection ← optionalRecord (CandidateSelection.fromDict rt) "selection"
    (Json.get payload "selection")
  return {
    planId := planId.1
    jobId := jobId.1
    modelId := modelId.1
    approvedExecutionMode := approvedExecutionMode.1
    policyVersion := policyVersion.1
    selectedCandidate := selectedCandidate
    alternativeCandidates := alternativeCandidates
    rationale := rationale
    valid := (Json.get payload "valid").truthy
    humanReviewRequired := (Json.get payload "human_review_required").truthy
    errors := errors
    planVersion := planVersion.1
    parentPlanId := parentPlanId
    planType := planType
    approvedModelVersion := approvedModelVersion
    strategyId := strategyId
    strategyVersion := strategyVersion
    inputSnapshotId := inputSnapshotId
    inputSnapshotHash := inputSnapshotHash
    assumptions := assumptions
    warnings := warnings
    confidence := confidence.1
    deterministicSignature := deterministicSignature
    handoffStatus := handoffStatus
    selection := selection }

/-- What `from_dict` checks of a plan, and the texts that it never leaves empty. -/
structure IsReadable (p : PartitionExecutionPlan) : Prop where
  planId : Proper p.planId
  jobId : Proper p.jobId
  modelId : Proper p.modelId
  approvedExecutionMode : Proper p.approvedExecutionMode
  policyVersion : Proper p.policyVersion
  selectedCandidate : ∀ c ∈ p.selectedCandidate, c.IsReadable
  alternativeCandidates : ∀ c ∈ p.alternativeCandidates, c.IsReadable
  planVersion : 1 ≤ p.planVersion
  parentPlanId : ∀ parent ∈ p.parentPlanId, Proper parent
  planType : p.planType ≠ ""
  approvedModelVersion : p.approvedModelVersion ≠ ""
  strategyId : p.strategyId ≠ ""
  strategyVersion : p.strategyVersion ≠ ""
  inputSnapshotId : p.inputSnapshotId ≠ ""
  confidence : 0 ≤ p.confidence
  handoffStatus : p.handoffStatus ≠ ""
  selection : ∀ s ∈ p.selection, s.IsReadable

variable {rt} {payload : List (String × Json)} {p : PartitionExecutionPlan}

section Helpers

variable {α : Type} {decode : List (String × Json) → Except PartitionError α} {field : String}
  {value : Json}

theorem optionalRecord_ofOption {toDict : α → List (String × Json)} {o : Option α}
    (h : ∀ a ∈ o, decode (toDict a) = .ok a) :
    optionalRecord decode field (.ofOption (fun a => .obj (toDict a)) o) = .ok o := by
  rcases o with _ | a
  · rfl
  · simp [optionalRecord, Json.ofOption, h a rfl, bind, Except.bind, pure, Except.pure]

theorem parentOf_ofOption {py : Python} {o : Option String} (h : ∀ parent ∈ o, Proper parent) :
    parentOf py (.ofOption .str o) = .ok o := by
  rcases o with _ | s
  · rfl
  · have hs := h s rfl
    simp [parentOf, Json.ofOption, stripped_proper hs, hs.ne_empty, bind, Except.bind, pure,
      Except.pure]

theorem textOr_str {default s : String} (h : s = "" → default = "") :
    textOr rt (.str s) default = .ok s := by
  unfold textOr
  split_ifs with htruthy
  · rfl
  · have hs : s = "" := by simpa [Json.truthy] using htruthy
    rw [hs, h hs]

end Helpers

theorem fromDict_toDict (h : p.IsReadable) (hfigures : p.Figures PyFloat.IsNumber) :
    fromDict rt p.toDict = .ok p := by
  have hselected : optionalRecord (PartitionCandidate.fromDict rt) "selected_candidate"
      (.ofOption (fun c => .obj c.toDict) p.selectedCandidate) = .ok p.selectedCandidate :=
    optionalRecord_ofOption fun c hc => PartitionCandidate.fromDict_toDict (h.selectedCandidate c hc)
      (hfigures.selectedCandidate c hc)
  have halternatives : contract.records (PartitionCandidate.fromDict rt)
      (p.alternativeCandidates.map fun c => .obj c.toDict) "alternative_candidates[]" =
        .ok p.alternativeCandidates :=
    Decoder.records_toDict fun c hc =>
      PartitionCandidate.fromDict_toDict (h.alternativeCandidates c hc)
        (hfigures.alternativeCandidates c hc)
  have hselection : optionalRecord (CandidateSelection.fromDict rt) "selection"
      (.ofOption (fun s => .obj s.toDict) p.selection) = .ok p.selection :=
    optionalRecord_ofOption fun s hs => CandidateSelection.fromDict_toDict (h.selection s hs)
  simp [-List.mapM_map, fromDict, toDict, textsOf, Json.get_cons_ne, Json.getD_cons_ne, Json.texts,
    Json.ofList, Decoder.text_proper h.planId, Decoder.text_proper h.jobId,
    Decoder.text_proper h.modelId, Decoder.text_proper h.approvedExecutionMode,
    Decoder.text_proper h.policyVersion, hselected, halternatives, hselection,
    PartitionCandidate.mapM_textOf, Decoder.int_int h.planVersion,
    parentOf_ofOption h.parentPlanId, Decoder.float_zero h.confidence, textOr_str, h.planType,
    h.approvedModelVersion, h.strategyId, h.strategyVersion, h.inputSnapshotId, h.handoffStatus,
    Json.truthy, bind, Except.bind, pure, Except.pure]

theorem figures_of_fromDict {p' : PartitionExecutionPlan} (h : fromDict rt p.toDict = .ok p') :
    p.Figures PyFloat.IsNumber := by
  obtain ⟨_, _, h⟩ := bind_eq_ok h
  obtain ⟨_, _, h⟩ := bind_eq_ok h
  obtain ⟨_, _, h⟩ := bind_eq_ok h
  obtain ⟨_, _, h⟩ := bind_eq_ok h
  obtain ⟨_, _, h⟩ := bind_eq_ok h
  obtain ⟨_, hselected, h⟩ := bind_eq_ok h
  obtain ⟨_, hitems, h⟩ := bind_eq_ok h
  obtain rfl := Except.ok.inj hitems
  obtain ⟨_, halternatives, _⟩ := bind_eq_ok h
  refine ⟨fun c hc => ?_, fun c hc => ?_⟩
  · have hdocument : Json.get p.toDict "selected_candidate" = .obj c.toDict := by
      show Json.ofOption (fun c : PartitionCandidate => .obj c.toDict) p.selectedCandidate = _
      rw [hc]
      rfl
    rw [hdocument] at hselected
    obtain ⟨_, hfields, hselected⟩ := bind_eq_ok hselected
    obtain rfl := Except.ok.inj hfields
    obtain ⟨_, h, _⟩ := bind_eq_ok hselected
    exact PartitionCandidate.figures_of_fromDict h
  · obtain ⟨_, h⟩ := PartitionCandidate.exists_of_records halternatives hc
    exact PartitionCandidate.figures_of_fromDict h

theorem raises_toDict (h : p.IsReadable) : RaisesContract (fromDict rt p.toDict) := by
  have htext : ∀ s default, RaisesContract (textOr rt (.str s) default) := by
    intro s default
    unfold textOr
    split_ifs
    · exact raises_ok _
    · exact raises_ok _
  have htexts : ∀ l : List String, RaisesContract ((l.map Json.str).mapM (textOf rt)) := by
    intro l
    rw [PartitionCandidate.mapM_textOf]
    exact raises_ok _
  have hselected : RaisesContract (optionalRecord (PartitionCandidate.fromDict rt)
      "selected_candidate" (.ofOption (fun c => .obj c.toDict) p.selectedCandidate)) := by
    rcases hc : p.selectedCandidate with _ | c
    · exact raises_ok _
    · exact raises_of_step rfl ((PartitionCandidate.raises_toDict
        (h.selectedCandidate c hc)).bind fun _ => raises_ok _)
  refine raises_of_step (Decoder.text_proper h.planId) ?_
  refine raises_of_step (Decoder.text_proper h.jobId) ?_
  refine raises_of_step (Decoder.text_proper h.modelId) ?_
  refine raises_of_step (Decoder.text_proper h.approvedExecutionMode) ?_
  refine raises_of_step (Decoder.text_proper h.policyVersion) ?_
  refine Raises.bind hselected fun _ => ?_
  refine raises_of_step rfl ((raises_records fun c hc =>
    PartitionCandidate.raises_toDict (h.alternativeCandidates c hc)).bind fun _ => ?_)
  refine (htext p.rationale _).bind fun _ => (htexts p.errors).bind fun _ => ?_
  refine raises_of_step (Decoder.int_int h.planVersion) ?_
  refine raises_of_step (parentOf_ofOption h.parentPlanId) ?_
  refine (htext p.planType _).bind fun _ => (htext p.approvedModelVersion _).bind fun _ => ?_
  refine (htext p.strategyId _).bind fun _ => (htext p.strategyVersion _).bind fun _ => ?_
  refine (htext p.inputSnapshotId _).bind fun _ => (htext p.inputSnapshotHash _).bind fun _ => ?_
  refine (htexts p.assumptions).bind fun _ => (htexts p.warnings).bind fun _ => ?_
  refine raises_of_step (Decoder.float_zero h.confidence) ?_
  refine (htext p.deterministicSignature _).bind fun _ => (htext p.handoffStatus _).bind fun _ => ?_
  exact raises_of_step (optionalRecord_ofOption fun s hs =>
    CandidateSelection.fromDict_toDict (h.selection s hs)) (raises_ok _)

/-- **A readable plan is read back from its own document exactly where its figures are numbers**; where
they are not, the document is refused. -/
theorem fromDict_toDict_iff (h : p.IsReadable) :
    (fromDict rt p.toDict = .ok p ↔ p.Figures PyFloat.IsNumber) ∧
      (¬p.Figures PyFloat.IsNumber →
        ∃ code message, fromDict rt p.toDict = .error (.contract code message)) := by
  refine ⟨⟨figures_of_fromDict, fromDict_toDict h⟩, fun hnot => ?_⟩
  rcases hread : fromDict rt p.toDict with e | p'
  · have hcontract := raises_toDict h e hread
    cases e with
    | contract code message => exact ⟨code, message, rfl⟩
    | _ => exact absurd hcontract id
  · exact absurd (figures_of_fromDict hread) hnot

end PartitionExecutionPlan

end Partition
end AiopsK8s
