/-
# Scoring recovery outcomes

`recovery_experiments.py`: the recorded outcomes of a comparison are averaged over their
repetitions, each action is scored under every reward policy and the actions of a scenario are
ranked.  A file of outcomes is the list that `load_recovery_outcomes` makes of it.

The scores are written over an `Arithmetic`: the floats of the interpreter, or the exact rationals.
-/

import AiopsK8s.Lib.Arithmetic
import AiopsK8s.Lib.Effect
import AiopsK8s.Lib.Grouping
import AiopsK8s.Lib.Sorting
import AiopsK8s.Supervision.Models
import Mathlib.Data.String.Basic

namespace AiopsK8s
namespace Comparison

open Effect Supervision

/-- `RewardWeights`, with the checks of `__post_init__`. -/
structure RewardWeights where
  ha : ℚ
  application : ℚ
  infrastructure : ℚ
  cost : ℚ
  nonneg : 0 ≤ ha ∧ 0 ≤ application ∧ 0 ≤ infrastructure ∧ 0 ≤ cost
  sum_one : |ha + application + infrastructure + cost - 1| ≤ 1e-9

theorem balanced_nonneg : (0 : ℚ) ≤ 0.30 ∧ (0 : ℚ) ≤ 0.30 ∧ (0 : ℚ) ≤ 0.20 ∧ (0 : ℚ) ≤ 0.20 := by
  norm_num

theorem balanced_sum_one : |(0.30 : ℚ) + 0.30 + 0.20 + 0.20 - 1| ≤ 1e-9 := by norm_num

theorem haFirst_nonneg : (0 : ℚ) ≤ 0.50 ∧ (0 : ℚ) ≤ 0.25 ∧ (0 : ℚ) ≤ 0.15 ∧ (0 : ℚ) ≤ 0.10 := by
  norm_num

theorem haFirst_sum_one : |(0.50 : ℚ) + 0.25 + 0.15 + 0.10 - 1| ≤ 1e-9 := by norm_num

theorem costFirst_nonneg : (0 : ℚ) ≤ 0.25 ∧ (0 : ℚ) ≤ 0.20 ∧ (0 : ℚ) ≤ 0.15 ∧ (0 : ℚ) ≤ 0.40 := by
  norm_num

theorem costFirst_sum_one : |(0.25 : ℚ) + 0.20 + 0.15 + 0.40 - 1| ≤ 1e-9 := by norm_num

theorem infraFirst_nonneg : (0 : ℚ) ≤ 0.25 ∧ (0 : ℚ) ≤ 0.20 ∧ (0 : ℚ) ≤ 0.40 ∧ (0 : ℚ) ≤ 0.15 := by
  norm_num

theorem infraFirst_sum_one : |(0.25 : ℚ) + 0.20 + 0.40 + 0.15 - 1| ≤ 1e-9 := by norm_num

/-- `RECOVERY_REWARD_POLICIES`. -/
def recoveryRewardPolicies : List (String × RewardWeights) :=
  [("balanced", ⟨0.30, 0.30, 0.20, 0.20, balanced_nonneg, balanced_sum_one⟩),
    ("ha_first", ⟨0.50, 0.25, 0.15, 0.10, haFirst_nonneg, haFirst_sum_one⟩),
    ("cost_first", ⟨0.25, 0.20, 0.15, 0.40, costFirst_nonneg, costFirst_sum_one⟩),
    ("infra_first", ⟨0.25, 0.20, 0.40, 0.15, infraFirst_nonneg, infraFirst_sum_one⟩)]

/-- `RecoveryOutcome`, with the numbers of an arithmetic. -/
structure RecoveryOutcome (F : Type) where
  scenario : String
  action : RecoveryAction
  recoverySuccess : F
  availabilityRecovery : F
  metricImprovement : F
  recoverySeconds : F
  replicaDelta : ℤ
  commandCount : ℤ
  safetyValid : Bool
  measurementValid : Bool

/-- The key of a repetition. -/
def RecoveryOutcome.pair {F : Type} (o : RecoveryOutcome F) : String × RecoveryActionKind :=
  (o.scenario, o.action.kind)

/-- `ActionEvaluation`. -/
structure ActionEvaluation (F : Type) where
  outcome : RecoveryOutcome F
  weights : RewardWeights
  haScore : F
  applicationScore : F
  infrastructureScore : F
  costScore : F
  predictedReward : F
  observedOutcomeScore : F

/-- What the post-processing of a comparison raises. -/
inductive ComparisonError where
  /-- `OverflowError`: an integer, or a quotient of integers, beyond the floats. -/
  | overflow
  /-- `int` or `round` of an infinity or of `nan`. -/
  | conversion
  /-- `IndexError`. -/
  | index
  /-- `StopIteration` of a `next` that finds nothing. -/
  | stopIteration
  /-- The `ValueError` of a row with a field that the table has not. -/
  | fieldNames
  /-- `UnboundLocalError`. -/
  | unboundLocal
  deriving DecidableEq, Repr

/-- A conversion that may fail. -/
def converted {α : Type} (error : ComparisonError) : Option α → Except ComparisonError α
  | some a => .ok a
  | none => .error error

@[simp] theorem converted_eq_ok {α : Type} {error : ComparisonError} {x : Option α} {a : α} :
    converted error x = .ok a ↔ x = some a := by
  cases x <;> simp [converted]

section Scores

variable {F : Type} (ar : Arithmetic F)

/-- `_unit`. -/
def unit (value : F) : F := ar.min (ar.max value (ar.lit 0)) (ar.lit 1)

/-- `_cost_score`. -/
def costScore (kind : RecoveryActionKind) (replicaDelta : ℤ) : Except ComparisonError F :=
  match kind with
  | .observeOnly => .ok (ar.lit 1)
  | .rolloutRestart => .ok (ar.lit 0.65)
  | .scaleOut => do
    let delta ← converted .overflow (ar.ofInt (max replicaDelta 0))
    return ar.max (ar.lit 0.10) (ar.sub (ar.lit 0.75) (ar.mul (ar.lit 0.25) delta))

/-- The evaluation of an action that is not safe, or not measured. -/
def sentinelEvaluation (outcome : RecoveryOutcome F) (weights : RewardWeights) :
    ActionEvaluation F :=
  ⟨outcome, weights, ar.lit 0, ar.lit 0, ar.lit 0, ar.lit 0, ar.lit (-1), ar.lit 0⟩

/-- The evaluation of an action that is safe and measured. -/
def scoredEvaluation (outcome : RecoveryOutcome F) (weights : RewardWeights) :
    Except ComparisonError (ActionEvaluation F) := do
  let availability := unit ar outcome.availabilityRecovery
  let metricImprovement := unit ar outcome.metricImprovement
  let timeScore := ar.sub (ar.lit 1)
    (unit ar (ar.div (ar.max outcome.recoverySeconds (ar.lit 0)) (ar.lit 60)))
  let replicas ← converted .overflow (ar.ofInt (max outcome.replicaDelta 0))
  let replicaOverhead := unit ar (ar.div replicas (ar.lit 4))
  let haScore := ar.add (ar.mul (ar.lit 0.60) outcome.recoverySuccess)
    (ar.mul (ar.lit 0.40) availability)
  let applicationScore := ar.add (ar.mul (ar.lit 0.55) metricImprovement)
    (ar.mul (ar.lit 0.45) timeScore)
  let commands ← converted .overflow (ar.ofInt (max (outcome.commandCount - 1) 0))
  let infrastructureScore := ar.max (ar.lit 0) (ar.sub (ar.sub (ar.lit 1) replicaOverhead)
    (ar.min (ar.mul commands (ar.lit 0.05)) (ar.lit 0.25)))
  let costScore ← costScore ar outcome.action.kind outcome.replicaDelta
  let predictedReward := ar.add (ar.add (ar.add
    (ar.mul (ar.lit weights.ha) haScore)
    (ar.mul (ar.lit weights.application) applicationScore))
    (ar.mul (ar.lit weights.infrastructure) infrastructureScore))
    (ar.mul (ar.lit weights.cost) costScore)
  let observedOutcomeScore := ar.div
    (ar.add (ar.add (ar.add haScore applicationScore) infrastructureScore) costScore) (ar.lit 4)
  return ⟨outcome, weights, ar.round6 haScore, ar.round6 applicationScore,
    ar.round6 infrastructureScore, ar.round6 costScore, ar.round6 predictedReward,
    ar.round6 observedOutcomeScore⟩

/-- `evaluate_recovery_action`. -/
def evaluateRecoveryAction (weights : RewardWeights) (outcome : RecoveryOutcome F) :
    Except ComparisonError (ActionEvaluation F) :=
  if outcome.safetyValid = false ∨ outcome.measurementValid = false then
    .ok (sentinelEvaluation ar outcome weights)
  else scoredEvaluation ar outcome weights

/-- The key of an action in the ranking. -/
structure RankKey (F : Type) where
  negatedReward : F
  replicaDelta : ℤ
  commandCount : ℤ
  kind : String

/-- The key of the sort in `rank_recovery_actions`. -/
def ActionEvaluation.key (item : ActionEvaluation F) : RankKey F :=
  ⟨ar.neg item.predictedReward, max item.outcome.replicaDelta 0, item.outcome.commandCount,
    item.outcome.action.kind.value⟩

/-- The comparison of two keys: of the first components that differ. -/
def RankKey.lt (a b : RankKey F) : Bool :=
  if ar.eq a.negatedReward b.negatedReward = false then ar.lt a.negatedReward b.negatedReward
  else if a.replicaDelta ≠ b.replicaDelta then decide (a.replicaDelta < b.replicaDelta)
  else if a.commandCount ≠ b.commandCount then decide (a.commandCount < b.commandCount)
  else decide (a.kind < b.kind)

/-- An action is ranked before another by its key. -/
def ranksBefore (a b : ActionEvaluation F) : Bool := (a.key ar).lt ar (b.key ar)

/-- `rank_recovery_actions`. -/
def rankRecoveryActions (outcomes : List (RecoveryOutcome F)) (weights : RewardWeights) :
    Except ComparisonError (List (ActionEvaluation F)) := do
  let evaluations ← outcomes.mapM (evaluateRecoveryAction ar weights)
  return Sorting.sorted (ranksBefore ar) evaluations

/-- The mean of some integers, as an integer: `round(sum(values) / count)`. -/
def roundedMean (values : List ℤ) : Except ComparisonError ℤ := do
  let mean ← converted .overflow (ar.meanInt values)
  converted .conversion (ar.roundInt mean)

/-- The outcome that stands for the repetitions of one action. -/
def aggregateGroup (values : List (RecoveryOutcome F)) :
    Except ComparisonError (RecoveryOutcome F) :=
  match values with
  | [] => .error .index
  | first :: rest => do
    let values := first :: rest
    let replicaDelta ← roundedMean ar (values.map (·.replicaDelta))
    let commandCount ← roundedMean ar (values.map (·.commandCount))
    return {
      scenario := first.scenario
      action := first.action
      recoverySuccess := ar.mean (values.map (·.recoverySuccess))
      availabilityRecovery := ar.mean (values.map (·.availabilityRecovery))
      metricImprovement := ar.mean (values.map (·.metricImprovement))
      recoverySeconds := ar.mean (values.map (·.recoverySeconds))
      replicaDelta
      commandCount
      safetyValid := values.all (·.safetyValid)
      measurementValid := values.all (·.measurementValid) }

/-- `_aggregate_repetitions`. -/
def aggregateRepetitions (outcomes : List (RecoveryOutcome F)) :
    Except ComparisonError (List (RecoveryOutcome F)) :=
  (Dict.groupBy RecoveryOutcome.pair outcomes).mapM fun group => aggregateGroup ar group.2

/-- What `_evaluation_to_dict` writes of an action. -/
structure RankedAction (F : Type) where
  rank : ℕ
  action : String
  predictedReward : F
  observedOutcomeScore : F
  haScore : F
  applicationScore : F
  infrastructureScore : F
  costScore : F

/-- `_evaluation_to_dict`. -/
def evaluationToDict (item : ActionEvaluation F) (rank : ℕ) : RankedAction F :=
  ⟨rank, item.outcome.action.kind.value, item.predictedReward, item.observedOutcomeScore,
    item.haScore, item.applicationScore, item.infrastructureScore, item.costScore⟩

/-- The ranking of a scenario under a policy. -/
structure ScenarioRanking (F : Type) where
  selectedAction : String
  ranking : List (RankedAction F)

/-- The report of `analyze_recovery_outcomes`. -/
structure RecoveryAnalysis (F : Type) where
  inputRecords : ℕ
  aggregatedCandidates : ℕ
  policies : List (String × List (String × ScenarioRanking F))

/-- `[_evaluation_to_dict(item, rank) for rank, item in enumerate(ranking, 1)]`. -/
def rankedActions (ranking : List (ActionEvaluation F)) : List (RankedAction F) :=
  ranking.mapIdx fun i item => evaluationToDict item (i + 1)

/-- The ranking of a scenario, with its first action as the selected one. -/
def scenarioRanking (ranking : List (ActionEvaluation F)) :
    Except ComparisonError (ScenarioRanking F) :=
  match ranking with
  | [] => .error .index
  | first :: _ => .ok ⟨first.outcome.action.kind.value, rankedActions ranking⟩

/-- One scenario of `analyze_recovery_outcomes` under one policy. -/
def rankScenario (aggregated : List (RecoveryOutcome F)) (weights : RewardWeights)
    (scenario : String) : Except ComparisonError (String × ScenarioRanking F) := do
  let ranking ← rankRecoveryActions ar
    (aggregated.filter fun outcome => outcome.scenario = scenario) weights
  let result ← scenarioRanking ranking
  return (scenario, result)

/-- `sorted({outcome.scenario for outcome in aggregated})`. -/
def scenariosOf (aggregated : List (RecoveryOutcome F)) : List String :=
  Sorting.sortedSet id (aggregated.map (·.scenario))

/-- One policy of `analyze_recovery_outcomes`. -/
def rankPolicy (aggregated : List (RecoveryOutcome F)) (policy : String × RewardWeights) :
    Except ComparisonError (String × List (String × ScenarioRanking F)) := do
  let scenarios ← (scenariosOf aggregated).mapM (rankScenario ar aggregated policy.2)
  return (policy.1, scenarios)

/-- `analyze_recovery_outcomes`. -/
def analyzeRecoveryOutcomes (outcomes : List (RecoveryOutcome F)) :
    Except ComparisonError (RecoveryAnalysis F) := do
  let aggregated ← aggregateRepetitions ar outcomes
  let policies ← recoveryRewardPolicies.mapM (rankPolicy ar aggregated)
  return ⟨outcomes.length, aggregated.length, policies⟩

end Scores

end Comparison
end AiopsK8s
