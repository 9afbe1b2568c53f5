/-
# The planner

`model_partition_agent`: the candidates of a round plan and the plan that selects one.  A candidate
places a run of layers on every participant; the loop over the participants is a map that places
one run (`place`), the loop over the neighbours a map that joins two of them (`hop`), and what the
source sums up in the loops is summed up over the results.  A training candidate replaces the graph
by one with a backward pass and an aggregation, and a federated one places the whole model on every
participant.

The estimates are floats: they overflow to infinity, and a training candidate with an infinite time
has an imbalance that is not a number.  An integer that has no float, or a quotient of integers that
has none, raises `OverflowError`, and then no plan is returned.
-/

import AiopsK8s.Lib.Combinations
import AiopsK8s.Partition.Ranking

namespace AiopsK8s
namespace Partition

open Effect Text

/-- `ModelPartitionPolicy`, with the figures that planning reads, which are finite here. -/
structure ModelPartitionPolicy where
  version : String
  latencyWeight : ℚ
  memoryPressureWeight : ℚ
  communicationWeight : ℚ
  latencyReferenceMs : ℚ
  transferReferenceBytes : ℤ
  maxReplanAttempts : ℤ

/-- What a replanning leaves out: the keyword arguments of `_plan`. -/
structure Exclusions where
  excludedDevices : List String
  excludedLinks : List (String × String)
  excludedSplits : List (List ℤ)
  memoryLimits : List (String × ℤ)

/-- Nothing is left out. -/
def Exclusions.none : Exclusions := ⟨[], [], [], []⟩

namespace ModelPartitionOrchestrationAgent

/-- `max(values, default=0.0)`. -/
def maxOrZero : List PyFloat → PyFloat
  | [] => .finite 0
  | value :: values => PyFloat.maximum value values

/-- `min(values, default=0.0)`. -/
def minOrZero : List PyFloat → PyFloat
  | [] => .finite 0
  | value :: values => PyFloat.minimum value values

/-- `total += value` over the values. -/
def accumulate (values : List PyFloat) : PyFloat := values.foldl PyFloat.add (.finite 0)

/-- `(maximum - minimum) / maximum`, or zero. -/
def loadImbalance (computeMs : List PyFloat) : PyFloat :=
  if maxOrZero computeMs = .finite 0 then .finite 0
  else ((maxOrZero computeMs).sub (minOrZero computeMs)).div (maxOrZero computeMs)

/-- `n / m` of integers, where `m` is positive. -/
def intQuotient (n m : ℤ) : Except PartitionError PyFloat :=
  match PyFloat.ofQuotient n m.toNat with
  | none => .error .overflow
  | some quotient => .ok quotient

/-- `units / rate * 1000.0`. -/
def milliseconds (units : PyFloat) (rate : ℚ) : PyFloat :=
  (units.div (.finite rate)).mul (.finite 1000)

/-! ### Placing layers -/

/-- A run of layers on a device, with what the loop collects about it. -/
structure Placement where
  partition : LogicalPartition
  computeMs : PyFloat
  memoryPressure : PyFloat
  rejectionReasons : List String

/-- The devices of a round plan by name. -/
def devicesOf (roundPlan : RoundPlan) : List (String × ResourceDevice) :=
  Dict.ofEntries (roundPlan.devices.map fun device => (device.deviceId, device))

/-- The links of a round plan by their ends. -/
def linksOf (roundPlan : RoundPlan) : List ((String × String) × NetworkLink) :=
  Dict.ofEntries (roundPlan.networkLinks.map fun link => (link.pair, link))

/-- Why a memory demand is rejected on a device. -/
def memoryReasons (limits : List (String × ℤ)) (deviceId : String) (allowedMemory demand : ℤ) :
    List String :=
  (if allowedMemory < demand then [s!"memory_capacity_exceeded:{deviceId}"] else []) ++
  (match limits.lookup deviceId with
    | some limit => if limit < demand then [s!"memory_replan_not_improved:{deviceId}"] else []
    | none => [])

section Placing

variable (rt : Runtime)

/-- The pass of the loop over the participants. -/
def place (roundPlan : RoundPlan) (limits : List (String × ℤ)) (index : ℕ) (deviceId : String)
    (layers : List ModelLayer) : Except PartitionError Placement := do
  match (devicesOf roundPlan).lookup deviceId with
  | none => .error .key
  | some device =>
      let demand ← memoryDemand layers
      let computeUnits := rt.summation.sum (layers.map fun layer => .finite layer.computeUnits)
      let memoryPressure ← intQuotient demand (max 1 device.memoryAvailableBytes)
      let allowedMemory ← allowedMemory device roundPlan.constraints
      return {
        partition := ⟨s!"partition-{index + 1}", deviceId, layers.map (·.name), computeUnits, demand⟩
        computeMs := milliseconds computeUnits device.computeUnitsPerSecond
        memoryPressure := memoryPressure
        rejectionReasons := memoryReasons limits deviceId allowedMemory demand }

/-- The layers between the boundaries `0`, the split points and the end. -/
def runs (layers : List ModelLayer) (splitPoints : List ℕ) : List (List ModelLayer) :=
  let boundaries := 0 :: splitPoints ++ [layers.length]
  (boundaries.zip boundaries.tail).map fun (start, stop) => (layers.drop start).take (stop - start)

/-- The placements of all participants. -/
def placements (roundPlan : RoundPlan) (limits : List (String × ℤ)) (participants : List String)
    (runs : List (List ModelLayer)) : Except PartitionError (List Placement) :=
  (participants.zip runs).zipIdx.mapM fun item =>
    place rt roundPlan limits item.2 item.1.1 item.1.2

end Placing

/-! ### Joining neighbours -/

/-- What the loop over the neighbours collects about two of them. -/
inductive Hop where
  | joined (edge : ExecutionGraphEdge) (transferMs : PyFloat)
  | rejected (reason : String)

/-- The edge of a hop. -/
def Hop.edge : Hop → Option ExecutionGraphEdge
  | joined edge _ => some edge
  | rejected _ => none

/-- The time of a hop that is not rejected. -/
def Hop.transferMs : Hop → Option PyFloat
  | joined _ ms => some ms
  | rejected _ => none

/-- Why a hop is rejected. -/
def Hop.reason : Hop → Option String
  | joined _ _ => none
  | rejected reason => some reason

/-- `link.latency_ms + bytes / link.bandwidth_bytes_per_second * 1000.0`. -/
def transferTime (link : NetworkLink) (bytes : ℤ) : Except PartitionError PyFloat :=
  match PyFloat.ofInt bytes with
  | none => .error .overflow
  | some bytes =>
      .ok ((PyFloat.finite link.latencyMs).add (milliseconds bytes link.bandwidthBytesPerSecond))

/-- The hop between two partitions: `bytes` go over the link between their devices. -/
def hop (roundPlan : RoundPlan) (excludedLinks : List (String × String))
    (source target : LogicalPartition) (targetNode : String) (edgeType : String) (bytes : ℤ) :
    Except PartitionError Hop :=
  let pair := (source.deviceId, target.deviceId)
  if pair ∈ excludedLinks then .ok (.rejected s!"failed_network_link:{pair.1}->{pair.2}")
  else
    match (linksOf roundPlan).lookup pair with
    | none => .ok (.rejected s!"missing_network_link:{pair.1}->{pair.2}")
    | some link => do
        let ms ← transferTime link bytes
        return .joined ⟨source.partitionId, targetNode, bytes, ms.round6, edgeType⟩ ms

/-- The hops between neighbours: the last layer before a boundary is passed on. -/
def hops (roundPlan : RoundPlan) (excludedLinks : List (String × String)) (splitPoints : List ℕ)
    (partitions : List LogicalPartition) : Except PartitionError (List Hop) :=
  ((partitions.zip partitions.tail).zip splitPoints).mapM fun ((source, target), boundary) =>
    match roundPlan.layers[boundary - 1]? with
    -- `IndexError`: no boundary of `_plan` lies outside the model.
    | none => .error .key
    | some layer => hop roundPlan excludedLinks source target target.partitionId "forward"
        layer.activationBytes

/-! ### Scores -/

/-- `weight * figure`. -/
def weighted (weight : ℚ) (figure : PyFloat) : PyFloat := (PyFloat.finite weight).mul figure

/-- `min(figure, 1.0)`. -/
def capped (figure : PyFloat) : PyFloat := PyFloat.minimum figure [.finite 1]

/-- `_score`. -/
def score (policy : ModelPartitionPolicy) (latencyMs memoryPressure : PyFloat) (transferBytes : ℤ) :
    Except PartitionError PyFloat := do
  let communication ← intQuotient transferBytes policy.transferReferenceBytes
  return (((weighted policy.latencyWeight
      (capped (latencyMs.div (.finite policy.latencyReferenceMs)))).add
    (weighted policy.memoryPressureWeight (capped memoryPressure))).add
    (weighted policy.communicationWeight (capped communication))).round6

/-- `weights[name]`. -/
def weightOf (intent : PartitionIntent) (name : String) : Except PartitionError ℚ :=
  match (Dict.ofEntries intent.objectiveWeights).lookup name with
  | none => .error .key
  | some weight => .ok weight

/-- `_score_training`. -/
def scoreTraining (policy : ModelPartitionPolicy) (stepTimeMs loadImbalance memoryPressure : PyFloat)
    (transferBytes : ℤ) (resilienceRisk : PyFloat) (intent : PartitionIntent) :
    Except PartitionError PyFloat := do
  let communication ← intQuotient transferBytes policy.transferReferenceBytes
  let stepTimeWeight ← weightOf intent "step_time"
  let loadBalanceWeight ← weightOf intent "load_balance"
  let memoryPressureWeight ← weightOf intent "memory_pressure"
  let communicationWeight ← weightOf intent "communication"
  let resilienceWeight ← weightOf intent "resilience"
  return (((((weighted stepTimeWeight
      (capped (stepTimeMs.div (.finite policy.latencyReferenceMs)))).add
    (weighted loadBalanceWeight loadImbalance)).add
    (weighted memoryPressureWeight (capped memoryPressure))).add
    (weighted communicationWeight (capped communication))).add
    (weighted resilienceWeight resilienceRisk)).round6

/-- `_predicted_resilience_risk`. -/
def predictedResilienceRisk (rt : Runtime) (computeMs : List PyFloat) (participants : ℕ) : PyFloat :=
  if computeMs = [] ∨ participants = 0 then .finite 0
  else
    let total := rt.summation.sum computeMs
    let workload := if PyFloat.ge (.finite 0) total then .finite 0
      else (maxOrZero computeMs).div total
    -- the quotient of the counts is at most one
    let used := PyFloat.finite (Binary64.nearest ((min computeMs.length participants : ℕ) / participants))
    let device := (PyFloat.finite 1).sub used
    PyFloat.minimum (PyFloat.maximum (PyFloat.maximum workload [device]) [.finite 0]) [.finite 1]

/-! ### Candidates -/

/-- What the graph of a candidate amounts to. -/
structure GraphSummary where
  nodes : List ExecutionGraphNode
  edges : List ExecutionGraphEdge
  transferMs : PyFloat
  transferBytes : ℤ
  stepTimeMs : PyFloat
  gradientBytes : ℤ
  loadImbalance : PyFloat

/-- The graph of an inference candidate. -/
def forwardGraph (partitions : List LogicalPartition) (hops : List Hop) : GraphSummary where
  nodes := partitions.map fun p => ⟨p.partitionId, p.deviceId⟩
  edges := hops.filterMap Hop.edge
  transferMs := accumulate (hops.filterMap Hop.transferMs)
  transferBytes := ((hops.filterMap Hop.edge).map (·.transferBytes)).sum
  stepTimeMs := .finite 0
  gradientBytes := 0
  loadImbalance := .finite 0

section Building

variable (rt : Runtime)

/-- `_build_training_graph`, of the first and the last of the partitions. -/
def buildTrainingGraph (partitions : List LogicalPartition) (first last : LogicalPartition)
    (forward : GraphSummary) (computeMs : List PyFloat) : GraphSummary where
  nodes := partitions.map (fun p => ⟨s!"{p.partitionId}:forward", p.deviceId⟩) ++
    partitions.reverse.map (fun p => ⟨s!"{p.partitionId}:backward", p.deviceId⟩) ++
    [⟨"aggregation", first.deviceId⟩]
  edges := forward.edges.map (fun e => ⟨s!"{e.sourcePartition}:forward",
      s!"{e.targetPartition}:forward", e.transferBytes, e.estimatedTransferMs, "forward"⟩) ++
    [⟨s!"{last.partitionId}:forward", s!"{last.partitionId}:backward", forward.transferBytes,
      .finite 0, "gradient"⟩] ++
    forward.edges.reverse.map (fun e => ⟨s!"{e.targetPartition}:backward",
      s!"{e.sourcePartition}:backward", e.transferBytes, e.estimatedTransferMs, "backward"⟩) ++
    [⟨s!"{first.partitionId}:backward", "aggregation", forward.transferBytes, .finite 0,
      "aggregation"⟩]
  transferMs := forward.transferMs.mul (.finite 2)
  transferBytes := forward.transferBytes * 2 + forward.transferBytes
  stepTimeMs := ((rt.summation.sum computeMs).mul (.finite 2)).add
    (forward.transferMs.mul (.finite 2))
  gradientBytes := forward.transferBytes
  loadImbalance := loadImbalance computeMs

/-- The graph of a candidate: with an intent it is a training candidate. -/
def graphOf (intent : Option PartitionIntent) (partitions : List LogicalPartition)
    (hops : List Hop) (computeMs : List PyFloat) : GraphSummary :=
  match intent, partitions.head?, partitions.getLast? with
  | some _, some first, some last =>
      buildTrainingGraph rt partitions first last (forwardGraph partitions hops) computeMs
  | _, _, _ => forwardGraph partitions hops

/-- Why the limits of a job reject a candidate. -/
def limitReasons (constraints : PartitionConstraints) (transferBytes : ℤ) (latencyMs : PyFloat) :
    List String :=
  (if ∃ limit ∈ constraints.maxTransferBytes, limit < transferBytes then
    ["max_transfer_bytes_exceeded"] else []) ++
  (if ∃ limit ∈ constraints.maxEndToEndLatencyMs, PyFloat.lt (.finite limit) latencyMs = true then
    ["latency_slo_exceeded"] else [])

/-- The score of a candidate. -/
def candidateScore (policy : ModelPartitionPolicy) (intent : Option PartitionIntent)
    (graph : GraphSummary) (latencyMs pressure risk : PyFloat) : Except PartitionError PyFloat :=
  match intent with
  | none => score policy latencyMs pressure graph.transferBytes
  | some intent => scoreTraining policy graph.stepTimeMs graph.loadImbalance pressure
      graph.transferBytes risk intent

/-- `_build_candidate`. -/
def buildCandidate (policy : ModelPartitionPolicy) (roundPlan : RoundPlan)
    (participants : List String) (splitPoints : List ℕ) (exclusions : Exclusions)
    (intent : Option PartitionIntent) : Except PartitionError PartitionCandidate := do
  let placed ← placements rt roundPlan exclusions.memoryLimits participants
    (runs roundPlan.layers splitPoints)
  let partitions := placed.map (·.partition)
  let computeMs := placed.map (·.computeMs)
  let hops ← hops roundPlan exclusions.excludedLinks splitPoints partitions
  let graph := graphOf rt intent partitions hops computeMs
  let risk := if intent.isSome then predictedResilienceRisk rt computeMs participants.length
    else .finite 0
  let latencyMs := if intent.isSome then graph.stepTimeMs
    else (accumulate computeMs).add graph.transferMs
  let pressure := maxOrZero (placed.map (·.memoryPressure))
  let reasons := placed.flatMap (·.rejectionReasons) ++ hops.filterMap Hop.reason ++
    limitReasons roundPlan.constraints graph.transferBytes latencyMs
  let score ← candidateScore policy intent graph latencyMs pressure risk
  return {
    splitPoints := splitPoints.map Int.ofNat
    partitions := partitions
    graphNodes := graph.nodes
    graphEdges := graph.edges
    estimatedComputeMs := (accumulate computeMs).round6
    estimatedTransferMs := graph.transferMs.round6
    estimatedTotalLatencyMs := latencyMs.round6
    totalTransferBytes := graph.transferBytes
    maximumMemoryPressure := pressure.round6
    valid := reasons.isEmpty
    rejectionReasons := reasons
    score := score
    estimatedStepTimeMs := graph.stepTimeMs.round6
    gradientTransferBytes := graph.gradientBytes
    maximumLoadImbalance := graph.loadImbalance.round6
    predictedResilienceRisk := risk.round6 }

/-- `_build_federated_full_model_candidate`. -/
def buildFederatedFullModelCandidate (policy : ModelPartitionPolicy) (roundPlan : RoundPlan)
    (participants : List String) (exclusions : Exclusions) (intent : PartitionIntent) :
    Except PartitionError PartitionCandidate := do
  let placed ← placements rt roundPlan exclusions.memoryLimits participants
    (participants.map fun _ => roundPlan.layers)
  let partitions := placed.map (·.partition)
  let computeMs := placed.map (·.computeMs)
  match partitions with
  | [] => .error .key
  | aggregator :: remote =>
      let parameterBytes := (roundPlan.layers.map (·.parameterBytes)).sum
      let hops ← remote.mapM fun partition => hop roundPlan exclusions.excludedLinks partition
        aggregator "aggregation" "aggregation" parameterBytes
      let edges := hops.filterMap Hop.edge
      let transferBytes := (edges.map (·.transferBytes)).sum
      let transferMs := maxOrZero (hops.filterMap Hop.transferMs)
      let stepTimeMs := (maxOrZero computeMs).add transferMs
      let pressure := maxOrZero (placed.map (·.memoryPressure))
      let risk := predictedResilienceRisk rt computeMs participants.length
      let reasons := placed.flatMap (·.rejectionReasons) ++ hops.filterMap Hop.reason ++
        limitReasons roundPlan.constraints transferBytes stepTimeMs
      let score ← scoreTraining policy stepTimeMs (loadImbalance computeMs) pressure transferBytes
        risk intent
      return {
        splitPoints := []
        partitions := partitions
        graphNodes := partitions.map (fun p => ⟨p.partitionId, p.deviceId⟩) ++
          [⟨"aggregation", aggregator.deviceId⟩]
        graphEdges := edges
        estimatedComputeMs := (maxOrZero computeMs).round6
        estimatedTransferMs := transferMs.round6
        estimatedTotalLatencyMs := stepTimeMs.round6
        totalTransferBytes := transferBytes
        maximumMemoryPressure := pressure.round6
        valid := reasons.isEmpty
        rejectionReasons := reasons
        score := score
        estimatedStepTimeMs := stepTimeMs.round6
        gradientTransferBytes := transferBytes
        maximumLoadImbalance := (loadImbalance computeMs).round6
        predictedResilienceRisk := risk.round6 }

end Building

/-! ### Plans -/

/-- `_safe_failure`. -/
def safeFailure (policy : ModelPartitionPolicy) (planId : String) (roundPlan : RoundPlan)
    (errors : List String) (alternatives : List PartitionCandidate)
    (selection : Option CandidateSelection) : PartitionExecutionPlan :=
  .safeFailure planId roundPlan.jobId roundPlan.modelId roundPlan.executionMode.name policy.version
    errors alternatives selection

/-- A valid plan. -/
def selectedPlan (policy : ModelPartitionPolicy) (planId : String) (roundPlan : RoundPlan)
    (selected : PartitionCandidate) (alternatives : List PartitionCandidate) (rationale : String)
    (selection : CandidateSelection) : PartitionExecutionPlan :=
  { (PartitionExecutionPlan.legacy planId roundPlan.jobId roundPlan.modelId
      roundPlan.executionMode.name policy.version : PartitionExecutionPlan) with
    selectedCandidate := some selected
    alternativeCandidates := alternatives
    rationale := rationale
    valid := true
    selection := some selection }

/-- The participants that are not left out. -/
def survivors (roundPlan : RoundPlan) (exclusions : Exclusions) : List String :=
  roundPlan.participants.filter (· ∉ exclusions.excludedDevices)

/-- `candidate_intent`. -/
def candidateIntent (normalized : NormalizedPartitionRequest) (intent : PartitionIntent) :
    Option PartitionIntent :=
  if normalized.planType = "training" then some intent else none

/-- A split is considered: it is not excluded, and a training split has no forbidden boundary. -/
def Considered (normalized : NormalizedPartitionRequest) (intent : PartitionIntent)
    (exclusions : Exclusions) (splitPoints : List ℕ) : Prop :=
  splitPoints.map Int.ofNat ∉ exclusions.excludedSplits ∧
    (normalized.planType = "training" → ∀ boundary ∈ splitPoints,
      boundary ∉ intent.forbiddenSplitBoundaries)

instance (normalized : NormalizedPartitionRequest) (intent : PartitionIntent)
    (exclusions : Exclusions) (splitPoints : List ℕ) :
    Decidable (Considered normalized intent exclusions splitPoints) :=
  inferInstanceAs (Decidable (_ ∧ _))

/-- `candidate_splits`. -/
def candidateSplits (roundPlan : RoundPlan) (normalized : NormalizedPartitionRequest)
    (intent : PartitionIntent) (exclusions : Exclusions) : List (List ℕ) :=
  (combinations (List.range' 1 (roundPlan.layers.length - 1))
    ((survivors roundPlan exclusions).length - 1)).filter
      fun splitPoints => Considered normalized intent exclusions splitPoints

/-- `candidates`. -/
def candidates (rt : Runtime) (policy : ModelPartitionPolicy) (roundPlan : RoundPlan)
    (normalized : NormalizedPartitionRequest) (intent : PartitionIntent) (exclusions : Exclusions) :
    Except PartitionError (List PartitionCandidate) :=
  (candidateSplits roundPlan normalized intent exclusions).mapM fun splitPoints =>
    buildCandidate rt policy roundPlan (survivors roundPlan exclusions) splitPoints exclusions
      (candidateIntent normalized intent)

/-- `_plan_federated_full_model`. -/
def planFederatedFullModel (rt : Runtime) (policy : ModelPartitionPolicy) (planId : String)
    (roundPlan : RoundPlan) (participants : List String) (exclusions : Exclusions)
    (normalized : NormalizedPartitionRequest) (intent : PartitionIntent) :
    Except PartitionError PartitionExecutionPlan := do
  if participants.length < 2 ∨ roundPlan.layers = [] then
    return safeFailure policy planId roundPlan ["insufficient_participants_after_failure"] [] none
  else
    let candidate ←
      buildFederatedFullModelCandidate rt policy roundPlan participants exclusions intent
    let selection := GuardedCandidateSelector.selectDeterministic rt ⟨normalized, intent⟩ [candidate]
    let rationale := "Selected one approved full-model replica per participant with " ++
      "remote updates directed to the coordination aggregator."
    match selection.finalSelectedCandidateKey with
    | none =>
        return safeFailure policy planId roundPlan ["no_feasible_partition"] [candidate] selection
    | some _ => return selectedPlan policy planId roundPlan candidate [] rationale selection

/-- The plan that a selection among candidates amounts to. -/
def planOfSelection (rt : Runtime) (policy : ModelPartitionPolicy) (planId : String)
    (roundPlan : RoundPlan) (strategyVersion : String) (candidates : List PartitionCandidate)
    (selection : CandidateSelection) : PartitionExecutionPlan :=
  let byKey := Dict.ofEntries (candidates.map fun c => (candidateKey rt strategyVersion c, c))
  let ordered := selection.entries.filterMap fun entry => byKey.lookup entry.candidateKey
  match selection.finalSelectedCandidateKey.bind fun key => byKey.lookup key with
  | none => safeFailure policy planId roundPlan ["no_feasible_partition"] ordered selection
  | some selected => selectedPlan policy planId roundPlan selected (ordered.filter (· ≠ selected))
      ("Selected the feasible candidate with the lowest versioned " ++
        "latency, memory-pressure, and communication score.") selection

/-- `_plan`, in deterministic mode. -/
def plan (rt : Runtime) (policy : ModelPartitionPolicy) (planId : String) (roundPlan : RoundPlan)
    (exclusions : Exclusions) (normalized : NormalizedPartitionRequest) (intent : PartitionIntent) :
    Except PartitionError PartitionExecutionPlan := do
  let participants := survivors roundPlan exclusions
  if intent.strategyId = "federated-full-model-v1" then
    planFederatedFullModel rt policy planId roundPlan participants exclusions normalized intent
  else if participants.length < 2 ∨ roundPlan.layers.length < participants.length then
    return safeFailure policy planId roundPlan ["insufficient_participants_after_failure"] [] none
  else
    let candidates ← candidates rt policy roundPlan normalized intent exclusions
    let selection := GuardedCandidateSelector.selectDeterministic rt ⟨normalized, intent⟩ candidates
    return planOfSelection rt policy planId roundPlan intent.strategyVersion candidates selection

end ModelPartitionOrchestrationAgent

end Partition
end AiopsK8s
