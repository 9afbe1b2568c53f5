/-
# The reward of a plan

`partition_evaluator`: `PartitionPlanEvaluator.evaluate` scores a plan from the metrics that were
observed when it ran, if they are complete, and from the predictions of its candidate otherwise.

Every float operation is rounded by a `Rounding`; an evaluator carries what the loaders of its
policy and of its strategies have checked.  The reward is in range, not positive for an invalid
plan, and no greater for greater observed figures.  A training plan is scored by the predicted step
time of its candidate all the same, also where the evidence is called observed (`rewardLaws_iff`).
-/

import AiopsK8s.Lib.Rounding
import AiopsK8s.Partition.Acceptance
import AiopsK8s.Partition.Agent

namespace AiopsK8s
namespace Partition

open Effect Text PartitionPlanValidator

/-- How an evaluation fails. -/
inductive EvaluationError where
  | partition (error : PartitionError)
  | value (text : String)
  | overflow
  | zeroDivision
  deriving DecidableEq

namespace EvaluationError

/-- An error of planning. -/
def lift {α : Type} (r : Except PartitionError α) : Except EvaluationError α :=
  r.mapError .partition

end EvaluationError

/-! ### Runtime evidence -/

/-- `datetime.fromisoformat`: the texts that it reads, among them a time in UTC. -/
structure IsoFormat where
  reads : String → Bool
  reads_utc : reads "2026-01-01T00:00:00+00:00" = true

/-- `value.replace("Z", "+00:00")`. -/
def withOffset (value : String) : String :=
  String.ofList (value.toList.flatMap fun c => if c = 'Z' then "+00:00".toList else [c])

/-- `ObservedPartitionMetrics`.  Its floats are finite: `_runtime_float` raises for the others. -/
structure ObservedPartitionMetrics where
  latencyMs : ℚ
  maximumMemoryPressure : ℚ
  totalTransferBytes : ℤ
  source : String
  observedAt : String
  runtimeOutcomeRef : String

/-- `_runtime_float`. -/
def runtimeFloat (value : ℚ) (field : String) : Except EvaluationError Unit :=
  rejectIf (value < 0) (.value s!"runtime evidence {field} must be finite and nonnegative")

/-- `_runtime_transfer_bytes`. -/
def runtimeTransferBytes (value : ℤ) : Except EvaluationError Unit :=
  match Json.floatOfInt value with
  | none => .error .overflow
  | some number => runtimeFloat number "total_transfer_bytes"

namespace ObservedPartitionMetrics

variable (iso : IsoFormat) (m : ObservedPartitionMetrics)

/-- `_validate_runtime_metrics`. -/
def validate : Except EvaluationError Unit := do
  runtimeFloat m.latencyMs "latency_ms"
  runtimeFloat m.maximumMemoryPressure "maximum_memory_pressure"
  runtimeTransferBytes m.totalTransferBytes

/-- `is_complete_runtime_evidence`. -/
def isCompleteRuntimeEvidence : Except EvaluationError Bool := do
  m.validate
  rejectIf (strip m.observedAt ≠ "" ∧ iso.reads (withOffset (strip m.observedAt)) = false)
    (.value "runtime evidence observed_at must be ISO-8601")
  return strip m.source ≠ "" && strip m.observedAt ≠ "" && strip m.runtimeOutcomeRef ≠ ""

/-- The metrics are complete. -/
def Complete : Prop := m.isCompleteRuntimeEvidence iso = .ok true

end ObservedPartitionMetrics

/-- The observed metrics, where they are complete. -/
def runtimeEvidence (iso : IsoFormat) :
    Option ObservedPartitionMetrics → Except EvaluationError (Option ObservedPartitionMetrics)
  | none => .ok none
  | some m => do
      let complete ← m.isCompleteRuntimeEvidence iso
      return if complete then some m else none

/-- The figures that a plan is scored by. -/
structure Evidence where
  latencyMs : ℚ
  memoryPressure : ℚ
  transferBytes : ℤ
  evidenceLevel : String
  estimated : Bool
  label : String

/-- The evidence of `evaluate`: observed, predicted, or that of no feasible plan. -/
def evidenceOf (policy : ModelPartitionPolicy) (runtime : Option ObservedPartitionMetrics)
    (selected : Option (PartitionCandidate ℚ)) : Evidence :=
  match runtime with
  | some observed => ⟨max 0 observed.latencyMs, max 0 observed.maximumMemoryPressure,
      max 0 observed.totalTransferBytes, "observed", false, "Observed reward (runtime evidence)"⟩
  | none =>
    match selected with
    | some candidate => ⟨candidate.estimatedTotalLatencyMs, candidate.maximumMemoryPressure,
        candidate.totalTransferBytes, "predicted", true, "Estimated reward (predicted evidence)"⟩
    | none => ⟨policy.latencyReferenceMs, 1, policy.transferReferenceBytes, "predicted", true,
        "Estimated reward (no feasible plan)"⟩

/-! ### The evaluator -/

/-- `objective_weights` of a strategy. -/
def PartitionStrategy.objectiveWeights : PartitionStrategy → List (String × ℚ)
  | .inference s => s.objectiveWeights
  | .training s => s.objectiveWeights
  | .federated s => s.objectiveWeights

/-- `PartitionPlanEvaluator`, whose policy and strategies were loaded: `from_dict` has checked the
references and `_fraction` the weights. -/
structure PartitionPlanEvaluator where
  policy : ModelPartitionPolicy
  strategyRegistry : PartitionStrategyRegistry
  latencyReference_pos : 0 < policy.latencyReferenceMs
  transferReference_pos : 0 < policy.transferReferenceBytes
  weights_nonneg : ∀ entry ∈ strategyRegistry.entries, ∀ weight ∈ entry.2.2.objectiveWeights,
    0 ≤ weight.2

/-- `PartitionEvaluation`. -/
structure PartitionEvaluation where
  reward : ℚ
  evidenceLevel : String
  estimated : Bool
  label : String
  policyVersion : String
  components : List (String × ℚ)
  metrics : List (String × Json)
  confidence : ℚ
  strategyId : String

/-- The weights of a training objective. -/
structure TrainingWeights where
  stepTime : ℚ
  loadBalance : ℚ
  memoryPressure : ℚ
  communication : ℚ
  resilience : ℚ

/-- The weights of an inference objective. -/
structure InferenceWeights where
  latency : ℚ
  memoryPressure : ℚ
  communication : ℚ

/-- `_clamp`. -/
def clamp (value : ℚ) : ℚ := max 0 (min 1 value)

/-- `weights[name]`. -/
def readWeight (weights : List (String × ℚ)) (name : String) : Except EvaluationError ℚ :=
  match weights.lookup name with
  | none => .error (.partition .key)
  | some weight => .ok weight

namespace PartitionPlanEvaluator

variable (fl : Rounding) (e : PartitionPlanEvaluator) (iso : IsoFormat) (rt : Runtime)
variable (request : ValidationRequest) (plan : PartitionExecutionPlan ℚ)

/-- `_strategy_weights`. -/
def strategyWeights : Except EvaluationError (List (String × ℚ)) :=
  match request with
  | .v2 request => do
      let normalized ← EvaluationError.lift (PartitionCommonProcessor.process rt request)
      let strategy ← EvaluationError.lift (e.strategyRegistry.resolve normalized.planType
        normalized.approvedExecutionMode.name)
      let intent ← EvaluationError.lift (strategy.buildPartitionIntent rt normalized)
      return Dict.ofEntries intent.objectiveWeights
  | .legacy _ => .ok [("step_time", fl.round (35 / 100)), ("load_balance", fl.round (20 / 100)),
      ("memory_pressure", fl.round (20 / 100)), ("communication", fl.round (15 / 100)),
      ("resilience", fl.round (10 / 100))]

/-- The weights that `_evaluate_training` reads. -/
def trainingWeights : Except EvaluationError TrainingWeights := do
  let weights ← e.strategyWeights fl rt request
  return ⟨← readWeight weights "step_time", ← readWeight weights "load_balance",
    ← readWeight weights "memory_pressure", ← readWeight weights "communication",
    ← readWeight weights "resilience"⟩

/-- The weights that `_evaluate_inference` reads. -/
def inferenceWeights : Except EvaluationError InferenceWeights := do
  let weights ← e.strategyWeights fl rt request
  return ⟨← readWeight weights "latency", ← readWeight weights "memory_pressure",
    ← readWeight weights "communication"⟩

/-- `_round_plan`. -/
def roundPlan : Except EvaluationError RoundPlan :=
  match request with
  | .legacy roundPlan => .ok roundPlan.toRoundPlan
  | .v2 request => do
      return (← EvaluationError.lift (PartitionCommonProcessor.process rt request)).roundPlan

/-- `1.0 / (1.0 + quotient)`. -/
def efficiency (quotient : ℚ) : Except EvaluationError ℚ :=
  if fl.add 1 quotient = 0 then .error .zeroDivision else .ok (fl.div 1 (fl.add 1 quotient))

/-- The efficiency of a figure that a reference is the measure of. -/
def latencyOfReference (latencyMs : ℚ) : Except EvaluationError ℚ :=
  efficiency fl (fl.div latencyMs e.policy.latencyReferenceMs)

/-- `communication_efficiency`. -/
def communicationEfficiency (transferBytes : ℤ) : Except EvaluationError ℚ :=
  efficiency fl (fl.div transferBytes e.policy.transferReferenceBytes)

/-- `latency_efficiency`. -/
def latencyEfficiency (limit : Option ℚ) (latencyMs : ℚ) : Except EvaluationError ℚ :=
  match limit with
  | some limit => .ok (clamp (fl.sub 1 (fl.div latencyMs limit)))
  | none => e.latencyOfReference fl latencyMs

/-- `memory_safety`. -/
def memorySafety (memoryPressure : ℚ) : ℚ := clamp (fl.sub 1 memoryPressure)

/-- The reward of an inference plan. -/
def inferenceReward (constraint latency memory communication : ℚ) : Except EvaluationError ℚ :=
  match request with
  | .v2 _ => do
      let weights ← e.inferenceWeights fl rt request
      return fl.add (fl.add (fl.mul weights.latency latency)
        (fl.mul weights.memoryPressure memory)) (fl.mul weights.communication communication)
  | .legacy _ => .ok (fl.add (fl.add (fl.add (fl.mul (fl.round (40 / 100)) constraint)
      (fl.mul (fl.round (25 / 100)) latency)) (fl.mul (fl.round (20 / 100)) memory))
        (fl.mul (fl.round (15 / 100)) communication))

/-- `_evaluate_inference`. -/
def evaluateInference (roundPlan : RoundPlan) (constraint latencyMs memoryPressure : ℚ)
    (transferBytes : ℤ) : Except EvaluationError (List (String × ℚ) × ℚ) := do
  let latency ← e.latencyEfficiency fl roundPlan.constraints.maxEndToEndLatencyMs latencyMs
  let communication ← e.communicationEfficiency fl transferBytes
  let reward ← e.inferenceReward fl rt request constraint latency (memorySafety fl memoryPressure)
    communication
  return ([("constraint_satisfaction", fl.round6 constraint),
    ("latency_efficiency", fl.round6 latency),
    ("memory_safety", fl.round6 (memorySafety fl memoryPressure)),
    ("communication_efficiency", fl.round6 communication)], reward)

/-- `step_time_ms` of `_evaluate_training`. -/
def stepTimeMs : ℚ :=
  match plan.selectedCandidate with
  | none => e.policy.latencyReferenceMs
  | some candidate => candidate.estimatedStepTimeMs

/-- `load_balance`. -/
def loadBalance : ℚ :=
  clamp (fl.sub 1 (match plan.selectedCandidate with
    | none => 1
    | some candidate => candidate.maximumLoadImbalance))

/-- `_clamp(resilience)`. -/
def resilience : ℚ :=
  clamp (match plan.selectedCandidate with
    | none => 0
    | some candidate => fl.sub 1 candidate.predictedResilienceRisk)

/-- The reward of a training plan. -/
def trainingReward (weights : TrainingWeights) (stepTime balance memory communication
    resilience : ℚ) : ℚ :=
  fl.add (fl.add (fl.add (fl.add (fl.mul weights.stepTime stepTime)
    (fl.mul weights.loadBalance balance)) (fl.mul weights.memoryPressure memory))
      (fl.mul weights.communication communication)) (fl.mul weights.resilience resilience)

/-- `_evaluate_training`. -/
def evaluateTraining (constraint memoryPressure : ℚ) (transferBytes : ℤ) :
    Except EvaluationError (List (String × ℚ) × ℚ) := do
  let stepTime ← e.latencyOfReference fl (e.stepTimeMs plan)
  let communication ← e.communicationEfficiency fl transferBytes
  let weights ← e.trainingWeights fl rt request
  return ([("constraint_satisfaction", fl.round6 constraint),
    ("step_time_efficiency", fl.round6 stepTime), ("load_balance", fl.round6 (loadBalance fl plan)),
    ("memory_safety", fl.round6 (memorySafety fl memoryPressure)),
    ("communication_efficiency", fl.round6 communication),
    ("resilience", fl.round6 (resilience fl plan))],
    trainingReward fl weights stepTime (loadBalance fl plan) (memorySafety fl memoryPressure)
      communication (resilience fl plan))

/-- The components and the weighted sum, by the type of the plan. -/
def scored (roundPlan : RoundPlan) (constraint latencyMs memoryPressure : ℚ) (transferBytes : ℤ) :
    Except EvaluationError (List (String × ℚ) × ℚ) :=
  if plan.planType = "training" then
    e.evaluateTraining fl rt request plan constraint memoryPressure transferBytes
  else e.evaluateInference fl rt request roundPlan constraint latencyMs memoryPressure transferBytes

/-- The throughput metrics of `_add_inference_planning_metrics`. -/
def throughputMetrics : Option PyFloat → List (String × Json)
  | none => [("throughput_capacity_evidence", .str "unverifiable")]
  | some capacity => [("predicted_throughput_capacity_rps", .float capacity.round6),
      ("throughput_capacity_evidence", .str "predicted")]

/-- The availability metrics of `_add_inference_planning_metrics`. -/
def availabilityMetrics (roundPlan : RoundPlan) : List (String × Json) :=
  match plan.selectedCandidate with
  | none => [("availability_evidence", .str "unverifiable")]
  | some candidate => [("predicted_snapshot_availability_feasibility",
        .number (predictedSnapshotAvailabilityFeasibility roundPlan (candidate.map .finite))),
      ("availability_evidence", .str "predicted_snapshot_feasibility")]

/-- `predicted_inference_throughput_capacity`. -/
def throughputCapacity (request : PartitionPlanningRequest) : Except EvaluationError (Option PyFloat) :=
  match plan.selectedCandidate with
  | none => .ok none
  | some candidate =>
      EvaluationError.lift
        (predictedInferenceThroughputCapacity request.plan (candidate.map .finite))

/-- `_add_inference_planning_metrics`, for a planning request and an inference plan. -/
def planningMetrics (roundPlan : RoundPlan) : Except EvaluationError (List (String × Json)) :=
  match request with
  | .legacy _ => .ok []
  | .v2 request =>
    if plan.planType = "inference" then do
      let capacity ← throughputCapacity plan request
      return throughputMetrics capacity ++ availabilityMetrics plan roundPlan
    else .ok []

/-- `metrics` of an evaluation, less the planning metrics. -/
def evidenceMetrics (evidence : Evidence) (runtime : Option ObservedPartitionMetrics) :
    List (String × Json) :=
  [("latency_ms", .number (fl.round6 evidence.latencyMs)),
    ("maximum_memory_pressure", .number (fl.round6 evidence.memoryPressure)),
    ("total_transfer_bytes", .int evidence.transferBytes)] ++
  match runtime with
  | none => []
  | some observed => [("source", .str observed.source), ("observed_at", .str observed.observedAt),
      ("runtime_outcome_ref", .str observed.runtimeOutcomeRef)]

/-- The reward that is returned for a weighted sum. -/
def finalReward (valid : Bool) (reward : ℚ) : ℚ :=
  fl.round6 (max (-1) (min 1 (if valid then reward else min 0 reward)))

/-- `evaluate`. -/
def evaluate (validation : PartitionValidationResult) (observed : Option ObservedPartitionMetrics) :
    Except EvaluationError PartitionEvaluation := do
  let roundPlan ← roundPlan rt request
  let runtime ← runtimeEvidence iso observed
  let evidence := evidenceOf e.policy runtime plan.selectedCandidate
  let valid := validation.valid && plan.valid
  let (components, reward) ← e.scored fl rt request plan roundPlan (if valid then 1 else -1)
    evidence.latencyMs evidence.memoryPressure evidence.transferBytes
  let planning ← planningMetrics request plan roundPlan
  return {
    reward := finalReward fl valid reward
    evidenceLevel := evidence.evidenceLevel
    estimated := evidence.estimated
    label := evidence.label
    policyVersion := e.policy.version
    components := components
    metrics := evidenceMetrics fl evidence runtime ++ planning
    confidence := plan.confidence
    strategyId := plan.strategyId }

/-! ### What holds of every rounding -/

section Range

variable {fl} {reward reward' : ℚ} {valid : Bool}

theorem finalReward_bounds : -1 ≤ finalReward fl valid reward ∧ finalReward fl valid reward ≤ 1 :=
  ⟨Rounding.neg_one_le_round6 (le_max_left _ _),
    Rounding.round6_le_one (max_le (by norm_num) (min_le_left _ _))⟩

theorem finalReward_nonpos (h : valid = false) : finalReward fl valid reward ≤ 0 := by
  rw [h]
  exact Rounding.round6_nonpos (max_le (by norm_num) ((min_le_right _ _).trans (min_le_left _ _)))

theorem finalReward_mono (h : reward ≤ reward') :
    finalReward fl valid reward ≤ finalReward fl valid reward' := by
  refine Rounding.round6_mono (max_le_max le_rfl (min_le_min le_rfl ?_))
  split_ifs
  · exact h
  · exact min_le_min le_rfl h

theorem clamp_nonneg (x : ℚ) : 0 ≤ clamp x := le_max_left _ _

theorem clamp_mono {x y : ℚ} (h : x ≤ y) : clamp x ≤ clamp y :=
  max_le_max le_rfl (min_le_min le_rfl h)

theorem memorySafety_antitone {x y : ℚ} (h : x ≤ y) : memorySafety fl y ≤ memorySafety fl x :=
  clamp_mono (Rounding.antitone_sub h)

/-- The efficiency of a greater quotient is no greater. -/
theorem efficiency_antitone {x y a b : ℚ} (hx : 0 ≤ x) (h : x ≤ y) (ha : efficiency fl x = .ok a)
    (hb : efficiency fl y = .ok b) : b ≤ a := by
  unfold efficiency at ha hb
  split_ifs at ha hb
  obtain rfl := Except.ok.inj ha
  obtain rfl := Except.ok.inj hb
  refine Rounding.antitone_one_div ?_ (Rounding.mono_add le_rfl h)
  exact one_pos.trans_le (Rounding.one_le (by linarith))

end Range

/-! ### The weights -/

section Weights

variable {fl e rt request}

theorem lift_eq_ok {α : Type} {r : Except PartitionError α} {a : α}
    (h : EvaluationError.lift r = .ok a) : r = .ok a := by
  rcases r with error | b
  · cases h
  · exact congrArg Except.ok (Except.ok.inj h)

/-- An intent has the weights of its strategy. -/
theorem objectiveWeights_eq {strategy : PartitionStrategy} {normalized : NormalizedPartitionRequest}
    {intent : PartitionIntent} (h : strategy.buildPartitionIntent rt normalized = .ok intent) :
    intent.objectiveWeights = strategy.objectiveWeights := by
  cases strategy with
  | inference s =>
    obtain ⟨⟨⟩, -, h⟩ := bind_eq_ok h
    exact congrArg PartitionIntent.objectiveWeights (Except.ok.inj h).symm
  | training s =>
    obtain ⟨⟨⟩, -, h⟩ := bind_eq_ok h
    exact congrArg PartitionIntent.objectiveWeights (Except.ok.inj h).symm
  | federated s =>
    obtain ⟨⟨⟩, -, h⟩ := bind_eq_ok h
    exact congrArg PartitionIntent.objectiveWeights (Except.ok.inj h).symm

/-- **No weight is negative.** -/
theorem strategyWeights_nonneg {weights : List (String × ℚ)}
    (h : e.strategyWeights fl rt request = .ok weights) {name : String} {weight : ℚ}
    (hweight : readWeight weights name = .ok weight) : 0 ≤ weight := by
  have hlookup : weights.lookup name = some weight := by
    unfold readWeight at hweight
    split at hweight
    · cases hweight
    · rename_i found hfound
      rw [hfound, Except.ok.inj hweight]
  cases request with
  | legacy _ =>
    obtain rfl := Except.ok.inj h
    have hmem := List.mem_reverse.1 (Dict.mem_of_lookup_reverse
      ((congrArg (List.lookup name) (List.reverse_reverse _)).trans hlookup))
    have hall : ∀ w ∈ [("step_time", fl.round (35 / 100)), ("load_balance", fl.round (20 / 100)),
        ("memory_pressure", fl.round (20 / 100)), ("communication", fl.round (15 / 100)),
        ("resilience", fl.round (10 / 100))], 0 ≤ w.2 := by
      simp only [List.forall_mem_cons]
      exact ⟨Rounding.nonneg (by norm_num), Rounding.nonneg (by norm_num),
        Rounding.nonneg (by norm_num), Rounding.nonneg (by norm_num),
        Rounding.nonneg (by norm_num), List.forall_mem_nil _⟩
    exact hall _ hmem
  | v2 request =>
    obtain ⟨normalized, -, h⟩ := bind_eq_ok h
    obtain ⟨strategy, hstrategy, h⟩ := bind_eq_ok h
    obtain ⟨intent, hintent, h⟩ := bind_eq_ok h
    obtain rfl := Except.ok.inj h
    have hweights := objectiveWeights_eq (lift_eq_ok hintent)
    have hfound := lift_eq_ok hstrategy
    unfold PartitionStrategyRegistry.resolve at hfound
    split at hfound
    · rename_i entry hentry
      obtain rfl := Except.ok.inj hfound
      rw [Dict.lookup_ofEntries] at hlookup
      have hmem := Dict.mem_of_lookup_reverse hlookup
      rw [hweights] at hmem
      exact e.weights_nonneg entry (List.mem_of_find?_eq_some hentry) _ hmem
    · cases hfound

theorem inferenceWeights_nonneg {weights : InferenceWeights}
    (h : e.inferenceWeights fl rt request = .ok weights) :
    0 ≤ weights.latency ∧ 0 ≤ weights.memoryPressure ∧ 0 ≤ weights.communication := by
  obtain ⟨dict, hdict, h⟩ := bind_eq_ok h
  obtain ⟨latency, hlatency, h⟩ := bind_eq_ok h
  obtain ⟨memory, hmemory, h⟩ := bind_eq_ok h
  obtain ⟨communication, hcommunication, h⟩ := bind_eq_ok h
  obtain rfl := Except.ok.inj h
  exact ⟨strategyWeights_nonneg hdict hlatency, strategyWeights_nonneg hdict hmemory,
    strategyWeights_nonneg hdict hcommunication⟩

theorem trainingWeights_nonneg {weights : TrainingWeights}
    (h : e.trainingWeights fl rt request = .ok weights) :
    0 ≤ weights.stepTime ∧ 0 ≤ weights.loadBalance ∧ 0 ≤ weights.memoryPressure ∧
      0 ≤ weights.communication ∧ 0 ≤ weights.resilience := by
  obtain ⟨dict, hdict, h⟩ := bind_eq_ok h
  obtain ⟨stepTime, hstepTime, h⟩ := bind_eq_ok h
  obtain ⟨balance, hbalance, h⟩ := bind_eq_ok h
  obtain ⟨memory, hmemory, h⟩ := bind_eq_ok h
  obtain ⟨communication, hcommunication, h⟩ := bind_eq_ok h
  obtain ⟨resilience, hresilience, h⟩ := bind_eq_ok h
  obtain rfl := Except.ok.inj h
  exact ⟨strategyWeights_nonneg hdict hstepTime, strategyWeights_nonneg hdict hbalance,
    strategyWeights_nonneg hdict hmemory, strategyWeights_nonneg hdict hcommunication,
    strategyWeights_nonneg hdict hresilience⟩

end Weights

/-! ### The laws of the reward -/

section Sums

variable {fl e rt request plan}

/-- A weighted sum of an inference plan falls with its efficiencies. -/
theorem inferenceReward_antitone {constraint latency latency' memory memory' communication
    communication' r r' : ℚ} (hlatency : latency' ≤ latency) (hmemory : memory' ≤ memory)
    (hcommunication : communication' ≤ communication)
    (h : e.inferenceReward fl rt request constraint latency memory communication = .ok r)
    (h' : e.inferenceReward fl rt request constraint latency' memory' communication' = .ok r') :
    r' ≤ r := by
  cases request with
  | legacy _ =>
    obtain rfl := Except.ok.inj h
    obtain rfl := Except.ok.inj h'
    have hlit : ∀ x : ℚ, 0 ≤ x → 0 ≤ fl.round x := fun x => Rounding.nonneg
    refine Rounding.mono_add (Rounding.mono_add (Rounding.mono_add le_rfl ?_) ?_) ?_
    · exact Rounding.mono_mul (hlit _ (by norm_num)) hlatency
    · exact Rounding.mono_mul (hlit _ (by norm_num)) hmemory
    · exact Rounding.mono_mul (hlit _ (by norm_num)) hcommunication
  | v2 _ =>
    obtain ⟨weights, hweights, h⟩ := bind_eq_ok h
    obtain ⟨weights', hweights', h'⟩ := bind_eq_ok h'
    obtain rfl := Except.ok.inj (hweights.symm.trans hweights')
    obtain rfl := Except.ok.inj h
    obtain rfl := Except.ok.inj h'
    obtain ⟨hl, hm, hc⟩ := inferenceWeights_nonneg hweights
    exact Rounding.mono_add (Rounding.mono_add (Rounding.mono_mul hl hlatency)
      (Rounding.mono_mul hm hmemory)) (Rounding.mono_mul hc hcommunication)

theorem communicationEfficiency_antitone {bytes bytes' : ℤ} {a b : ℚ} (hbytes : 0 ≤ bytes)
    (h : bytes ≤ bytes') (ha : e.communicationEfficiency fl bytes = .ok a)
    (hb : e.communicationEfficiency fl bytes' = .ok b) : b ≤ a := by
  have hreference : (0 : ℚ) < e.policy.transferReferenceBytes := by
    exact_mod_cast e.transferReference_pos
  refine efficiency_antitone (Rounding.nonneg_div (by exact_mod_cast hbytes) hreference) ?_ ha hb
  exact Rounding.mono_div hreference (by exact_mod_cast h)

theorem latencyEfficiency_antitone {limit : Option ℚ} (hlimit : ∀ l ∈ limit, 0 < l)
    {latency latency' a b : ℚ} (hlatency : 0 ≤ latency) (h : latency ≤ latency')
    (ha : e.latencyEfficiency fl limit latency = .ok a)
    (hb : e.latencyEfficiency fl limit latency' = .ok b) : b ≤ a := by
  rcases limit with - | limit
  · refine efficiency_antitone (Rounding.nonneg_div hlatency e.latencyReference_pos) ?_ ha hb
    exact Rounding.mono_div e.latencyReference_pos h
  · obtain rfl := Except.ok.inj ha
    obtain rfl := Except.ok.inj hb
    exact clamp_mono (Rounding.antitone_sub (Rounding.mono_div (hlimit limit rfl) h))

/-- **The weighted sum falls with the figures**, whichever formula it is. -/
theorem scored_antitone {roundPlan : RoundPlan} {constraint latency latency' pressure pressure' : ℚ}
    {bytes bytes' : ℤ} {s s' : List (String × ℚ) × ℚ} (hlatency : 0 ≤ latency)
    (hbytes : 0 ≤ bytes) (hlatencies : latency ≤ latency') (hpressures : pressure ≤ pressure')
    (htransfers : bytes ≤ bytes')
    (h : e.scored fl rt request plan roundPlan constraint latency pressure bytes = .ok s)
    (h' : e.scored fl rt request plan roundPlan constraint latency' pressure' bytes' = .ok s') :
    s'.2 ≤ s.2 := by
  have hmemory : memorySafety fl pressure' ≤ memorySafety fl pressure :=
    memorySafety_antitone hpressures
  unfold scored at h h'
  split_ifs at h h'
  · obtain ⟨stepTime, hstepTime, h⟩ := bind_eq_ok h
    obtain ⟨communication, hcommunication, h⟩ := bind_eq_ok h
    obtain ⟨weights, hweights, h⟩ := bind_eq_ok h
    obtain ⟨stepTime', hstepTime', h'⟩ := bind_eq_ok h'
    obtain ⟨communication', hcommunication', h'⟩ := bind_eq_ok h'
    obtain ⟨weights', hweights', h'⟩ := bind_eq_ok h'
    obtain rfl := Except.ok.inj (hstepTime.symm.trans hstepTime')
    obtain rfl := Except.ok.inj (hweights.symm.trans hweights')
    obtain rfl := Except.ok.inj h
    obtain rfl := Except.ok.inj h'
    have hefficiency :=
      communicationEfficiency_antitone hbytes htransfers hcommunication hcommunication'
    obtain ⟨-, -, hm, hc, -⟩ := trainingWeights_nonneg hweights
    exact Rounding.mono_add (Rounding.mono_add (Rounding.mono_add le_rfl
      (Rounding.mono_mul hm hmemory)) (Rounding.mono_mul hc hefficiency)) le_rfl
  · obtain ⟨latencyEff, hlatencyEff, h⟩ := bind_eq_ok h
    obtain ⟨communication, hcommunication, h⟩ := bind_eq_ok h
    obtain ⟨reward, hreward, h⟩ := bind_eq_ok h
    obtain ⟨latencyEff', hlatencyEff', h'⟩ := bind_eq_ok h'
    obtain ⟨communication', hcommunication', h'⟩ := bind_eq_ok h'
    obtain ⟨reward', hreward', h'⟩ := bind_eq_ok h'
    obtain rfl := Except.ok.inj h
    obtain rfl := Except.ok.inj h'
    have hlimit : ∀ l ∈ roundPlan.constraints.maxEndToEndLatencyMs, 0 < l := fun l hl =>
      lt_of_lt_of_le (by norm_num) (roundPlan.constraints.latency_min l hl)
    exact inferenceReward_antitone
      (latencyEfficiency_antitone hlimit hlatency hlatencies hlatencyEff hlatencyEff') hmemory
      (communicationEfficiency_antitone hbytes htransfers hcommunication hcommunication') hreward
      hreward'

end Sums

end PartitionPlanEvaluator

/-- The plan with other predictions of the latency and the step time of its candidate. -/
def PartitionExecutionPlan.withTimes (plan : PartitionExecutionPlan ℚ) (latencyMs stepTimeMs : ℚ) :
    PartitionExecutionPlan ℚ :=
  { plan with selectedCandidate := plan.selectedCandidate.map fun candidate =>
      { candidate with
        estimatedTotalLatencyMs := latencyMs
        estimatedStepTimeMs := stepTimeMs } }

namespace PartitionPlanEvaluator

variable (fl : Rounding) (e : PartitionPlanEvaluator) (iso : IsoFormat) (rt : Runtime)
variable (request : ValidationRequest) (plan : PartitionExecutionPlan ℚ)
variable (validation : PartitionValidationResult)

/-- What a reward of observed metrics should satisfy. -/
structure RewardLaws : Prop where
  returns : ∀ observed, observed.Complete iso → ∃ evaluation,
    e.evaluate fl iso rt request plan validation (some observed) = .ok evaluation
  bounded : ∀ observed, observed.Complete iso → ∀ evaluation,
    e.evaluate fl iso rt request plan validation (some observed) = .ok evaluation →
      -1 ≤ evaluation.reward ∧ evaluation.reward ≤ 1
  nonpos : ∀ observed, observed.Complete iso → ∀ evaluation,
    e.evaluate fl iso rt request plan validation (some observed) = .ok evaluation →
      validation.valid = false ∨ plan.valid = false → evaluation.reward ≤ 0
  antitone : ∀ observed observed', observed.Complete iso → observed'.Complete iso →
    observed.latencyMs ≤ observed'.latencyMs →
    observed.maximumMemoryPressure ≤ observed'.maximumMemoryPressure →
    observed.totalTransferBytes ≤ observed'.totalTransferBytes → ∀ evaluation evaluation',
      e.evaluate fl iso rt request plan validation (some observed) = .ok evaluation →
      e.evaluate fl iso rt request plan validation (some observed') = .ok evaluation' →
        evaluation'.reward ≤ evaluation.reward
  observedOnly : ∀ observed, observed.Complete iso →
    ∀ latencyMs stepTimeMs latencyMs' stepTimeMs' evaluation evaluation',
      e.evaluate fl iso rt request (plan.withTimes latencyMs stepTimeMs) validation
        (some observed) = .ok evaluation →
      e.evaluate fl iso rt request (plan.withTimes latencyMs' stepTimeMs') validation
        (some observed) = .ok evaluation' → evaluation'.reward = evaluation.reward

/-- An evaluation does not raise: the request is normalised, the objective has the weights of the
type of the plan, and the predictions of the candidate can be divided by. -/
structure Evaluates : Prop where
  normalized : ∃ roundPlan, PartitionPlanEvaluator.roundPlan rt request = .ok roundPlan
  training : plan.planType = "training" → (∃ weights, e.trainingWeights fl rt request = .ok weights) ∧
    fl.add 1 (fl.div (e.stepTimeMs plan) e.policy.latencyReferenceMs) ≠ 0
  inference : plan.planType ≠ "training" → ∀ v2, request = .v2 v2 →
    ∃ weights, e.inferenceWeights fl rt request = .ok weights
  throughput : plan.planType = "inference" → ∀ v2, request = .v2 v2 →
    ∃ capacity, throughputCapacity plan v2 = .ok capacity

/-- A training plan is scored by the predicted step time of its candidate. -/
def ScoresStepTime : Prop :=
  plan.planType = "training" ∧ plan.selectedCandidate ≠ none ∧
    ∃ weights, e.trainingWeights .exact rt request = .ok weights ∧ weights.stepTime ≠ 0

section Laws

variable {fl e iso rt request plan validation}

/-- **The evaluation of complete metrics.** -/
theorem evaluate_eq_ok {observed : ObservedPartitionMetrics} (hcomplete : observed.Complete iso)
    {evaluation : PartitionEvaluation}
    (h : e.evaluate fl iso rt request plan validation (some observed) = .ok evaluation) :
    ∃ roundPlan s, PartitionPlanEvaluator.roundPlan rt request = .ok roundPlan ∧
      e.scored fl rt request plan roundPlan (if validation.valid && plan.valid then 1 else -1)
        (max 0 observed.latencyMs) (max 0 observed.maximumMemoryPressure)
        (max 0 observed.totalTransferBytes) = .ok s ∧
      evaluation.reward = finalReward fl (validation.valid && plan.valid) s.2 := by
  obtain ⟨roundPlan, hroundPlan, h⟩ := bind_eq_ok h
  obtain ⟨runtime, hruntime, h⟩ := bind_eq_ok h
  obtain ⟨complete, hobserved, hruntime⟩ := bind_eq_ok hruntime
  obtain rfl := Except.ok.inj (hobserved.symm.trans hcomplete)
  obtain rfl := Except.ok.inj hruntime
  obtain ⟨s, hs, h⟩ := bind_eq_ok h
  obtain ⟨planning, -, h⟩ := bind_eq_ok h
  obtain rfl := Except.ok.inj h
  exact ⟨roundPlan, s, hroundPlan, hs, rfl⟩

/-- A plan is evaluated where it is scored. -/
theorem exists_evaluation {observed : ObservedPartitionMetrics} (hcomplete : observed.Complete iso)
    {roundPlan : RoundPlan} (hroundPlan : PartitionPlanEvaluator.roundPlan rt request = .ok roundPlan)
    {metrics : List (String × Json)}
    (hmetrics : planningMetrics request plan roundPlan = .ok metrics)
    {s : List (String × ℚ) × ℚ}
    (hs : e.scored fl rt request plan roundPlan (if validation.valid && plan.valid then 1 else -1)
      (max 0 observed.latencyMs) (max 0 observed.maximumMemoryPressure)
      (max 0 observed.totalTransferBytes) = .ok s) :
    ∃ evaluation, e.evaluate fl iso rt request plan validation (some observed) = .ok evaluation ∧
      evaluation.reward = finalReward fl (validation.valid && plan.valid) s.2 := by
  have hruntime : runtimeEvidence iso (some observed) = .ok (some observed) := by
    show (observed.isCompleteRuntimeEvidence iso >>= fun complete =>
      .ok (if complete then some observed else none)) = _
    rw [show observed.isCompleteRuntimeEvidence iso = .ok true from hcomplete]
    rfl
  unfold evaluate
  rw [hroundPlan, hruntime]
  simp only [bind, Except.bind, evidenceOf]
  rw [hs]
  simp only [hmetrics]
  exact ⟨_, rfl, rfl⟩

theorem planningMetrics_training (htraining : plan.planType = "training") {roundPlan : RoundPlan} :
    planningMetrics request plan roundPlan = .ok [] := by
  cases request with
  | legacy _ => rfl
  | v2 request =>
    unfold planningMetrics
    rw [htraining]
    exact if_neg (by decide)

/-- The efficiency of a quotient that is not negative is a number. -/
theorem efficiency_isOk {x : ℚ} (hx : 0 ≤ x) : ∃ a, efficiency fl x = .ok a := by
  have hone : 1 ≤ fl.add 1 x := Rounding.one_le (by linarith)
  exact ⟨_, if_neg (by linarith)⟩

theorem communicationEfficiency_isOk {bytes : ℤ} (hbytes : 0 ≤ bytes) :
    ∃ a, e.communicationEfficiency fl bytes = .ok a := by
  have hreference : (0 : ℚ) < e.policy.transferReferenceBytes := by
    exact_mod_cast e.transferReference_pos
  exact efficiency_isOk (Rounding.nonneg_div (by exact_mod_cast hbytes) hreference)

theorem latencyEfficiency_isOk {limit : Option ℚ} {latency : ℚ} (hlatency : 0 ≤ latency) :
    ∃ a, e.latencyEfficiency fl limit latency = .ok a := by
  rcases limit with - | limit
  · exact efficiency_isOk (Rounding.nonneg_div hlatency e.latencyReference_pos)
  · exact ⟨_, rfl⟩

/-- A plan is scored where its weights can be read. -/
theorem scored_isOk (hevaluates : e.Evaluates fl rt request plan) {roundPlan : RoundPlan}
    {constraint latency pressure : ℚ} {bytes : ℤ} (hlatency : 0 ≤ latency) (hbytes : 0 ≤ bytes) :
    ∃ s, e.scored fl rt request plan roundPlan constraint latency pressure bytes = .ok s := by
  obtain ⟨communication, hcommunication⟩ : ∃ a, e.communicationEfficiency fl bytes = .ok a :=
    communicationEfficiency_isOk hbytes
  unfold scored
  by_cases htraining : plan.planType = "training"
  · obtain ⟨⟨weights, hweights⟩, hstep⟩ := hevaluates.training htraining
    have hstepTime : e.latencyOfReference fl (e.stepTimeMs plan) = .ok _ := if_neg hstep
    rw [if_pos htraining]
    unfold evaluateTraining
    rw [hstepTime, hcommunication, hweights]
    exact ⟨_, rfl⟩
  · obtain ⟨efficiency, hefficiency⟩ : ∃ a,
        e.latencyEfficiency fl roundPlan.constraints.maxEndToEndLatencyMs latency = .ok a :=
      latencyEfficiency_isOk hlatency
    have hreward : ∃ reward, e.inferenceReward fl rt request constraint efficiency
        (memorySafety fl pressure) communication = .ok reward := by
      cases request with
      | legacy _ => exact ⟨_, rfl⟩
      | v2 v2 =>
        obtain ⟨weights, hweights⟩ := hevaluates.inference htraining v2 rfl
        unfold inferenceReward
        simp only [hweights]
        exact ⟨_, rfl⟩
    obtain ⟨reward, hreward⟩ := hreward
    rw [if_neg htraining]
    unfold evaluateInference
    rw [hefficiency, hcommunication]
    simp only [bind, Except.bind, hreward]
    exact ⟨_, rfl⟩

/-- **When complete metrics are evaluated.** -/
theorem evaluate_isOk_iff {observed : ObservedPartitionMetrics}
    (hcomplete : observed.Complete iso) :
    (∃ evaluation, e.evaluate fl iso rt request plan validation (some observed) = .ok evaluation) ↔
      e.Evaluates fl rt request plan := by
  constructor
  · rintro ⟨evaluation, h⟩
    obtain ⟨roundPlan, hroundPlan, h⟩ := bind_eq_ok h
    obtain ⟨runtime, -, h⟩ := bind_eq_ok h
    obtain ⟨s, hs, h⟩ := bind_eq_ok h
    obtain ⟨planning, hplanning, -⟩ := bind_eq_ok h
    refine ⟨⟨roundPlan, hroundPlan⟩, ?_, ?_, ?_⟩
    · intro htraining
      unfold scored at hs
      rw [if_pos htraining] at hs
      obtain ⟨stepTime, hstepTime, hs⟩ := bind_eq_ok hs
      obtain ⟨communication, -, hs⟩ := bind_eq_ok hs
      obtain ⟨weights, hweights, -⟩ := bind_eq_ok hs
      refine ⟨⟨weights, hweights⟩, fun hzero => ?_⟩
      have hraises : e.latencyOfReference fl (e.stepTimeMs plan) = .error .zeroDivision :=
        if_pos hzero
      rw [hraises] at hstepTime
      cases hstepTime
    · rintro htraining v2 rfl
      unfold scored at hs
      rw [if_neg htraining] at hs
      obtain ⟨latency, -, hs⟩ := bind_eq_ok hs
      obtain ⟨communication, -, hs⟩ := bind_eq_ok hs
      obtain ⟨reward, hreward, -⟩ := bind_eq_ok hs
      obtain ⟨weights, hweights, -⟩ := bind_eq_ok hreward
      exact ⟨weights, hweights⟩
    · rintro hinference v2 rfl
      unfold planningMetrics at hplanning
      simp only [if_pos hinference] at hplanning
      obtain ⟨capacity, hcapacity, -⟩ := bind_eq_ok hplanning
      exact ⟨capacity, hcapacity⟩
  · intro hevaluates
    obtain ⟨roundPlan, hroundPlan⟩ := hevaluates.normalized
    have hmetrics : ∃ metrics, planningMetrics request plan roundPlan = .ok metrics := by
      cases request with
      | legacy _ => exact ⟨_, rfl⟩
      | v2 v2 =>
        unfold planningMetrics
        by_cases hinference : plan.planType = "inference"
        · obtain ⟨capacity, hcapacity⟩ := hevaluates.throughput hinference v2 rfl
          simp only [if_pos hinference, hcapacity]
          exact ⟨_, rfl⟩
        · exact ⟨_, if_neg hinference⟩
    obtain ⟨metrics, hmetrics⟩ := hmetrics
    obtain ⟨s, hs⟩ : ∃ s, e.scored fl rt request plan roundPlan
        (if validation.valid && plan.valid then 1 else -1) (max 0 observed.latencyMs)
        (max 0 observed.maximumMemoryPressure) (max 0 observed.totalTransferBytes) = .ok s :=
      scored_isOk hevaluates (le_max_left _ _) (le_max_left _ _)
    obtain ⟨evaluation, hevaluation, -⟩ := exists_evaluation hcomplete hroundPlan hmetrics hs
    exact ⟨evaluation, hevaluation⟩

/-- **Only the step time of a training plan gets into its reward.** -/
theorem scored_withTimes (hscores : ¬e.ScoresStepTime rt request plan) {roundPlan : RoundPlan}
    {constraint latency pressure : ℚ} {bytes : ℤ} {latencyMs stepTimeMs latencyMs' stepTimeMs' : ℚ}
    {s s' : List (String × ℚ) × ℚ}
    (h : e.scored fl rt request (plan.withTimes latencyMs stepTimeMs) roundPlan constraint latency
      pressure bytes = .ok s)
    (h' : e.scored fl rt request (plan.withTimes latencyMs' stepTimeMs') roundPlan constraint
      latency pressure bytes = .ok s') : s'.2 = s.2 := by
  have htype : ∀ latencyMs stepTimeMs,
      (plan.withTimes latencyMs stepTimeMs).planType = plan.planType := fun _ _ => rfl
  unfold scored at h h'
  rw [htype] at h h'
  by_cases htraining : plan.planType = "training"
  · rw [if_pos htraining] at h h'
    obtain ⟨stepTime, hstepTime, h⟩ := bind_eq_ok h
    obtain ⟨communication, hcommunication, h⟩ := bind_eq_ok h
    obtain ⟨weights, hweights, h⟩ := bind_eq_ok h
    obtain ⟨stepTime', hstepTime', h'⟩ := bind_eq_ok h'
    obtain ⟨communication', hcommunication', h'⟩ := bind_eq_ok h'
    obtain ⟨weights', hweights', h'⟩ := bind_eq_ok h'
    obtain rfl := Except.ok.inj (hcommunication.symm.trans hcommunication')
    obtain rfl := Except.ok.inj (hweights.symm.trans hweights')
    obtain rfl := Except.ok.inj h
    obtain rfl := Except.ok.inj h'
    rcases hselected : plan.selectedCandidate with - | candidate
    · have hsame : plan.withTimes latencyMs stepTimeMs = plan.withTimes latencyMs' stepTimeMs' := by
        unfold PartitionExecutionPlan.withTimes
        rw [hselected]
        rfl
      rw [hsame] at hstepTime ⊢
      rw [Except.ok.inj (hstepTime'.symm.trans hstepTime)]
    · have hbalance : ∀ latencyMs stepTimeMs,
          loadBalance fl (plan.withTimes latencyMs stepTimeMs) = loadBalance fl plan := by
        intro _ _
        unfold loadBalance PartitionExecutionPlan.withTimes
        rw [hselected]
        rfl
      have hresilience : ∀ latencyMs stepTimeMs,
          resilience fl (plan.withTimes latencyMs stepTimeMs) = resilience fl plan := by
        intro _ _
        unfold resilience PartitionExecutionPlan.withTimes
        rw [hselected]
        rfl
      have hzero : weights.stepTime = 0 := by
        by_contra hne
        cases request with
        | legacy _ =>
          refine hscores ⟨htraining, by rw [hselected]; nofun, _, rfl, ?_⟩
          norm_num [Rounding.exact]
        | v2 _ => exact hscores ⟨htraining, by rw [hselected]; nofun, weights, hweights, hne⟩
      unfold trainingReward
      rw [hbalance, hbalance, hresilience, hresilience, hzero, Rounding.zero_mul, Rounding.zero_mul]
  · rw [if_neg htraining] at h h'
    rw [Except.ok.inj (h'.symm.trans h)]

/-! ### Scoring the step time -/

/-- Metrics of a run that took nothing. -/
def idleMetrics : ObservedPartitionMetrics :=
  ⟨0, 0, 0, "runtime", "2026-01-01T00:00:00+00:00", "run-1"⟩

theorem idleMetrics_complete : idleMetrics.Complete iso := by
  have hvalidate : idleMetrics.validate = .ok () := by
    unfold ObservedPartitionMetrics.validate runtimeTransferBytes
    rw [show idleMetrics.totalTransferBytes = 0 from rfl, Json.floatOfInt_zero]
    decide +kernel
  have hat : strip idleMetrics.observedAt = "2026-01-01T00:00:00+00:00" := by decide +kernel
  have hoffset : withOffset "2026-01-01T00:00:00+00:00" = "2026-01-01T00:00:00+00:00" := by
    decide +kernel
  have hsource : strip idleMetrics.source = "runtime" := by decide +kernel
  have href : strip idleMetrics.runtimeOutcomeRef = "run-1" := by decide +kernel
  unfold ObservedPartitionMetrics.Complete ObservedPartitionMetrics.isCompleteRuntimeEvidence
  rw [hvalidate, hat, hoffset, hsource, href]
  simp [rejectIf, iso.reads_utc, bind, Except.bind, pure, Except.pure]

/-- What the weighted sum of a training plan is apart from the step time. -/
def restReward (plan : PartitionExecutionPlan ℚ) (weights : TrainingWeights) (memory communication : ℚ) :
    ℚ :=
  weights.loadBalance * loadBalance .exact plan + weights.memoryPressure * memory +
    weights.communication * communication + weights.resilience * resilience .exact plan

/-- The exact score of the idle run of a training plan with a step time. -/
theorem scored_idle (htraining : plan.planType = "training") {weights : TrainingWeights}
    (hweights : e.trainingWeights .exact rt request = .ok weights) {roundPlan : RoundPlan}
    {constraint latency efficiency : ℚ} (hefficiency : efficiency ≠ 0)
    (hselected : plan.selectedCandidate ≠ none) : ∃ components,
    e.scored .exact rt request
      (plan.withTimes latency (e.policy.latencyReferenceMs * (1 / efficiency - 1))) roundPlan
      constraint (max 0 idleMetrics.latencyMs) (max 0 idleMetrics.maximumMemoryPressure)
      (max 0 idleMetrics.totalTransferBytes) = .ok (components,
        weights.stepTime * efficiency + restReward plan weights 1 1) := by
  obtain ⟨candidate, hcandidate⟩ := Option.ne_none_iff_exists'.1 hselected
  rw [show max 0 idleMetrics.latencyMs = 0 from max_self 0,
    show max 0 idleMetrics.maximumMemoryPressure = 0 from max_self 0,
    show max 0 idleMetrics.totalTransferBytes = 0 from max_self 0]
  set step := e.policy.latencyReferenceMs * (1 / efficiency - 1) with hstep
  have hreference := e.latencyReference_pos
  have hstepTime : e.latencyOfReference .exact (e.stepTimeMs (plan.withTimes latency step)) =
      .ok efficiency := by
    have htime : e.stepTimeMs (plan.withTimes latency step) = step := by
      unfold stepTimeMs PartitionExecutionPlan.withTimes
      rw [hcandidate]
      rfl
    have hsum : Rounding.exact.add 1 (Rounding.exact.div step e.policy.latencyReferenceMs) =
        1 / efficiency := by
      show 1 + step / e.policy.latencyReferenceMs = _
      rw [hstep, mul_div_cancel_left₀ _ hreference.ne']
      ring
    have hinverse : Rounding.exact.div 1 (1 / efficiency) = efficiency := one_div_one_div _
    rw [htime]
    unfold latencyOfReference PartitionPlanEvaluator.efficiency
    rw [hsum, if_neg (one_div_ne_zero hefficiency), hinverse]
  have hcommunication : e.communicationEfficiency .exact 0 = .ok 1 := by
    unfold communicationEfficiency PartitionPlanEvaluator.efficiency
    simp [Rounding.add, Rounding.div, Rounding.exact]
  have hbalance : loadBalance .exact (plan.withTimes latency step) = loadBalance .exact plan := by
    unfold loadBalance PartitionExecutionPlan.withTimes
    rw [hcandidate]
    rfl
  have hresilience : resilience .exact (plan.withTimes latency step) = resilience .exact plan := by
    unfold resilience PartitionExecutionPlan.withTimes
    rw [hcandidate]
    rfl
  have hmemory : memorySafety .exact 0 = 1 := by
    norm_num [memorySafety, clamp, Rounding.sub, Rounding.exact]
  unfold scored
  rw [if_pos (show (plan.withTimes latency step).planType = "training" from htraining)]
  unfold evaluateTraining
  rw [hstepTime, hcommunication, hweights]
  refine ⟨_, congrArg Except.ok (Prod.ext rfl ?_)⟩
  rw [hbalance, hresilience, hmemory]
  unfold trainingReward restReward
  simp only [Rounding.add, Rounding.mul, Rounding.exact, id]
  ring

/-- The reward of the idle run. -/
theorem exists_idle_evaluation (htraining : plan.planType = "training") {weights : TrainingWeights}
    (hweights : e.trainingWeights .exact rt request = .ok weights) {efficiency : ℚ}
    (hefficiency : efficiency ≠ 0) {roundPlan : RoundPlan}
    (hroundPlan : PartitionPlanEvaluator.roundPlan rt request = .ok roundPlan)
    (hselected : plan.selectedCandidate ≠ none) : ∃ evaluation,
    e.evaluate .exact iso rt request
      (plan.withTimes 0 (e.policy.latencyReferenceMs * (1 / efficiency - 1))) validation
      (some idleMetrics) = .ok evaluation ∧
    evaluation.reward = finalReward .exact (validation.valid && plan.valid)
      (weights.stepTime * efficiency + restReward plan weights 1 1) := by
  have hidle : ∀ constraint, ∃ components, e.scored .exact rt request
      (plan.withTimes 0 (e.policy.latencyReferenceMs * (1 / efficiency - 1))) roundPlan constraint
      (max 0 idleMetrics.latencyMs) (max 0 idleMetrics.maximumMemoryPressure)
      (max 0 idleMetrics.totalTransferBytes) = .ok (components,
        weights.stepTime * efficiency + restReward plan weights 1 1) :=
    fun _ => scored_idle htraining hweights hefficiency hselected
  generalize e.policy.latencyReferenceMs * (1 / efficiency - 1) = step at hidle ⊢
  have htype : (plan.withTimes 0 step).planType = "training" := htraining
  have hvalid : (plan.withTimes 0 step).valid = plan.valid := rfl
  have hcomplete : idleMetrics.Complete iso := idleMetrics_complete
  obtain ⟨components, hs⟩ :=
    hidle (if validation.valid && (plan.withTimes 0 step).valid then 1 else -1)
  obtain ⟨evaluation, hevaluation, hreward⟩ := exists_evaluation hcomplete hroundPlan
    (planningMetrics_training htype) hs
  exact ⟨evaluation, hevaluation, hvalid ▸ hreward⟩

theorem finalReward_exact_zero (valid : Bool) : finalReward .exact valid 0 = 0 := by
  cases valid <;> norm_num [finalReward, Rounding.round6, Rounding.exact]

theorem finalReward_exact_neg_two (valid : Bool) : finalReward .exact valid (-2) = -1 := by
  cases valid <;>
    norm_num [finalReward, Rounding.round6, Rounding.exact, Rounding.round6_neg_one]

/-- In exact arithmetic a step time close to the negated reference moves the reward to either
end. -/
theorem not_observedOnly (hscores : e.ScoresStepTime rt request plan) :
    ¬e.RewardLaws .exact iso rt request plan validation := by
  intro laws
  obtain ⟨htraining, hselected, weights, hweights, hne⟩ := hscores
  obtain ⟨hstep, hbalance, hmemory, hcommunication, hresilience⟩ := trainingWeights_nonneg hweights
  have hpos : 0 < weights.stepTime := lt_of_le_of_ne hstep (Ne.symm hne)
  have hrest : 0 ≤ restReward plan weights 1 1 := by
    have hfirst := mul_nonneg hbalance (clamp_nonneg (Rounding.exact.sub 1
      (match plan.selectedCandidate with
        | none => 1
        | some candidate => candidate.maximumLoadImbalance)))
    have hlast := mul_nonneg hresilience (clamp_nonneg (match plan.selectedCandidate with
      | none => 0
      | some candidate => Rounding.exact.sub 1 candidate.predictedResilienceRisk))
    unfold restReward loadBalance resilience
    linarith
  obtain ⟨roundPlan, hroundPlan⟩ : ∃ roundPlan,
      PartitionPlanEvaluator.roundPlan rt request = .ok roundPlan := by
    cases request with
    | legacy _ => exact ⟨_, rfl⟩
    | v2 request =>
      obtain ⟨_, hdict, -⟩ := bind_eq_ok hweights
      obtain ⟨normalized, hprocess, -⟩ := bind_eq_ok hdict
      refine ⟨normalized.roundPlan, ?_⟩
      show (EvaluationError.lift (PartitionCommonProcessor.process rt request) >>= _) = _
      rw [hprocess]
      rfl
  set efficiency := (2 + restReward plan weights 1 1) / weights.stepTime with hefficiency
  have hne' : efficiency ≠ 0 := (div_pos (by linarith) hpos).ne'
  have hproduct : weights.stepTime * efficiency = 2 + restReward plan weights 1 1 :=
    mul_div_cancel₀ _ hpos.ne'
  obtain ⟨evaluation, hevaluation, hreward⟩ :=
    exists_idle_evaluation htraining hweights hne' hroundPlan hselected
  obtain ⟨evaluation', hevaluation', hreward'⟩ :=
    exists_idle_evaluation htraining hweights (neg_ne_zero.2 hne') hroundPlan hselected
  have hsame := laws.observedOnly _ idleMetrics_complete _ _ _ _ _ _ hevaluation hevaluation'
  have hlow : weights.stepTime * -efficiency + restReward plan weights 1 1 = -2 := by
    rw [mul_neg, hproduct]
    ring
  have hhigh : finalReward .exact (validation.valid && plan.valid) 0 ≤ evaluation.reward := by
    rw [hreward]
    exact finalReward_mono (by rw [hproduct]; linarith)
  rw [finalReward_exact_zero, ← hsame, hreward', hlow, finalReward_exact_neg_two] at hhigh
  exact absurd hhigh (by norm_num)

/-- **When observed evidence is scored as observed**: in every rounding, unless a training plan
weighs the predicted step time of its candidate. -/
theorem rewardLaws_iff (e : PartitionPlanEvaluator) (iso : IsoFormat) (rt : Runtime)
    (request : ValidationRequest) (plan : PartitionExecutionPlan ℚ)
    (validation : PartitionValidationResult) :
    (∀ fl, e.RewardLaws fl iso rt request plan validation) ↔
      (∀ fl, e.Evaluates fl rt request plan) ∧ ¬e.ScoresStepTime rt request plan := by
  refine ⟨fun laws => ⟨fun fl => ?_, fun hscores => not_observedOnly hscores (laws .exact)⟩, ?_⟩
  · exact (evaluate_isOk_iff idleMetrics_complete).1 ((laws fl).returns _ idleMetrics_complete)
  rintro ⟨hevaluates, hscores⟩ fl
  refine ⟨?_, ?_, ?_, ?_, ?_⟩
  · intro observed hcomplete
    exact (evaluate_isOk_iff hcomplete).2 (hevaluates fl)
  · intro observed hcomplete evaluation h
    obtain ⟨_, _, -, -, hreward⟩ := evaluate_eq_ok hcomplete h
    rw [hreward]
    exact finalReward_bounds
  · intro observed hcomplete evaluation h hinvalid
    obtain ⟨_, _, -, -, hreward⟩ := evaluate_eq_ok hcomplete h
    rw [hreward]
    refine finalReward_nonpos (Bool.and_eq_false_iff.2 hinvalid)
  · intro observed observed' hcomplete hcomplete' hlatency hpressure hbytes evaluation evaluation' h h'
    obtain ⟨roundPlan, s, hroundPlan, hs, hreward⟩ := evaluate_eq_ok hcomplete h
    obtain ⟨roundPlan', s', hroundPlan', hs', hreward'⟩ := evaluate_eq_ok hcomplete' h'
    obtain rfl := Except.ok.inj (hroundPlan.symm.trans hroundPlan')
    rw [hreward, hreward']
    exact finalReward_mono (scored_antitone (le_max_left _ _) (le_max_left _ _)
      (max_le_max le_rfl hlatency) (max_le_max le_rfl hpressure) (max_le_max le_rfl hbytes) hs hs')
  · intro observed hcomplete latencyMs stepTimeMs latencyMs' stepTimeMs' evaluation evaluation' h h'
    obtain ⟨roundPlan, s, hroundPlan, hs, hreward⟩ := evaluate_eq_ok hcomplete h
    obtain ⟨roundPlan', s', hroundPlan', hs', hreward'⟩ := evaluate_eq_ok hcomplete h'
    obtain rfl := Except.ok.inj (hroundPlan.symm.trans hroundPlan')
    rw [hreward, hreward', scored_withTimes hscores hs hs']
    rfl

end Laws

/-! ### A training plan of a round plan -/

theorem defaultLatencyReference_pos : (0 : ℚ) < 1000 := by norm_num
theorem defaultTransferReference_pos : (0 : ℤ) < 5000000 := by norm_num
theorem noEntries_weights_nonneg : ∀ entry ∈ ([] : List (String × String × PartitionStrategy)),
    ∀ weight ∈ entry.2.2.objectiveWeights, (0 : ℚ) ≤ weight.2 :=
  fun _ h => absurd h List.not_mem_nil

/-- The evaluator of the default references. -/
def defaultEvaluator : PartitionPlanEvaluator where
  policy := ⟨"1", 1 / 2, 1 / 4, 1 / 4, 1000, 5000000, 2⟩
  strategyRegistry := ⟨[]⟩
  latencyReference_pos := defaultLatencyReference_pos
  transferReference_pos := defaultTransferReference_pos
  weights_nonneg := noEntries_weights_nonneg

/-- A training plan for two devices. -/
def twoDeviceTrainingPlan : PartitionExecutionPlan ℚ :=
  { PartitionExecutionPlan.legacy "plan" "job" "model" "split_inference" "1" with
    planType := "training"
    selectedCandidate := some understatedFigures
    valid := true }

/-- **Two training plans that ran alike are not rewarded alike**: one predicted a step of no time,
the other of a second. -/
theorem training_scored_by_prediction : ¬∀ fl (e : PartitionPlanEvaluator) iso rt request plan
    validation, e.RewardLaws fl iso rt request plan validation := by
  intro h
  have laws := h .exact defaultEvaluator ⟨fun _ => true, rfl⟩ constantRuntime
    (.legacy tenByteRoundPlan) twoDeviceTrainingPlan ⟨true, [], []⟩
  have hweights : defaultEvaluator.trainingWeights .exact constantRuntime
      (.legacy tenByteRoundPlan) = .ok ⟨35 / 100, 20 / 100, 20 / 100, 15 / 100, 10 / 100⟩ := rfl
  have hselected : twoDeviceTrainingPlan.selectedCandidate ≠ none := nofun
  have hrest : restReward twoDeviceTrainingPlan
      ⟨35 / 100, 20 / 100, 20 / 100, 15 / 100, 10 / 100⟩ 1 1 = 65 / 100 := by
    decide +kernel
  obtain ⟨evaluation, hevaluation, hreward⟩ :=
    exists_idle_evaluation rfl hweights one_ne_zero rfl hselected
  obtain ⟨evaluation', hevaluation', hreward'⟩ :=
    exists_idle_evaluation rfl hweights one_half_pos.ne' rfl hselected
  have hsame := laws.observedOnly _ idleMetrics_complete _ _ _ _ _ _ hevaluation hevaluation'
  rw [hreward, hreward', hrest] at hsame
  exact absurd hsame (by decide +kernel)

end PartitionPlanEvaluator
end Partition
end AiopsK8s
