/-
# The evaluation of a recovery

`recovery_evaluator.py`: `RecoveryEvaluatorAgent.evaluate` scores a finished report by its outcome,
its efficiency, its safety and the quality of its evidence, and rewards the team and each agent.

The scores are exact rationals.  An integer of the report that is no float raises; a report whose
figures are all absent is scored (`evaluate_isOk`).
-/

import AiopsK8s.Experiment.Models
import AiopsK8s.Lib.Binary64
import AiopsK8s.Lib.Effect

namespace AiopsK8s
namespace Experiment

open Effect

/-- `RecoveryEvaluation`. -/
structure RecoveryEvaluation where
  evaluator : String
  rubricVersion : String
  teamReward : ℚ
  agentRewards : List (String × ℚ)
  components : List (String × ℚ)
  reason : String

namespace RecoveryEvaluator

variable (py : Python)

/-- `RECOVERY_AGENT_NAMES`. -/
def recoveryAgentNames : List String :=
  ["AIServiceHASupportAgent", "AIApplicationManagementAgent", "AISemiconductorInfraOpsAgent",
    "CostOptimizationAgent"]

/-- `_clamp`. -/
def clamp (value : ℚ) : ℚ := max (-1) (min 1 value)

/-- `_number`. -/
def number : Json → Except RuntimeException (Option ℚ)
  | .int i =>
    match Json.floatOfInt i with
    | none => .error (.exception "int too large to convert to float")
    | some value => .ok (some value)
  | .float (.finite value) => .ok (some value)
  | _ => .ok none

/-- `_mapping`. -/
def mapping : Json → Fields
  | .obj fields => fields
  | _ => []

/-- `_count`. -/
def count : Json → Except RuntimeException ℕ
  | .arr items => .ok items.length
  | .obj fields => .ok fields.length
  | value => do
      let value ← number value
      return match value with
        | none => 0
        | some value => ⌊value⌋.toNat

/-- `value is True`. -/
def isTrue : Json → Bool
  | .bool true => true
  | _ => false

/-- `value is False`. -/
def isFalse : Json → Bool
  | .bool false => true
  | _ => false

/-- `value is None`. -/
def isNone : Json → Bool
  | .null => true
  | _ => false

/-- `recovery_success` of `_outcome`. -/
def recoverySuccess (recovery : Fields) : Json :=
  if isNone (Json.get recovery "recovery_success") then Json.get recovery "recovered"
  else Json.get recovery "recovery_success"

/-- `str(report.get("final_status", "")).strip().lower()`. -/
def statusOf (report : Fields) : String :=
  String.ofList ((Text.strip (py.str (Json.getD report "final_status" (.str "")))).toList.map
    Text.lowerChar)

/-- `_outcome`. -/
def outcome (report : Fields) : ℚ :=
  let status := statusOf py report
  let success := recoverySuccess (mapping (Json.get report "recovery_monitoring"))
  if status = "safe_stopped" then -25 / 100
  else if status ∈ ["safe_failure", "failed", "consensus_rejected", "configuration_rejected",
      "interrupted", "cancelled"] then -1
  else if isFalse success then -1
  else if status = "recovered_after_replan" then 75 / 100
  else if status ∈ ["recovered", "no_action_required"] ∨ isTrue success = true then 1
  else 0

/-- The number of steps that the report states. -/
def stepsOf (report : Fields) : Json :=
  let monitoring := mapping (Json.get report "recovery_monitoring")
  let execution := mapping (Json.get report "execution_result")
  Json.getD monitoring "actual_steps" (Json.getD monitoring "steps"
    (Json.getD report "actual_steps" (Json.get execution "steps")))

/-- The protocol that the report states. -/
def protocolOf (report : Fields) : Fields :=
  let protocol := mapping (Json.get report "protocol_config")
  if protocol = [] then mapping (Json.get report "protocol") else protocol

/-- The recovery budget of the report. -/
def budgetOf (report : Fields) : Except RuntimeException (Option ℚ) := do
  let budget ← number (Json.getD (mapping (Json.get report "recovery_monitoring"))
    "recovery_budget_seconds" (Json.get report "recovery_budget_seconds"))
  if budget = none then number (Json.get (protocolOf report) "recovery_budget_seconds")
  else return budget

/-- What a recovery time costs. -/
def timePenalty : Option ℚ → Option ℚ → ℚ
  | some seconds, some budget =>
    if 0 < budget then 20 / 100 * max 0 (min 1 (seconds / budget)) else 0
  | _, _ => 0

/-- `_efficiency`. -/
def efficiency (report : Fields) : Except RuntimeException ℚ := do
  let replans ← count (Json.get report "replanning_attempts")
  let actions ← count (Json.get report "executed_actions")
  let steps ← count (stepsOf report)
  if replans = 0 ∧ actions = 0 ∧ steps = 0 then return 0
  else
    let seconds ← number (Json.get (mapping (Json.get report "recovery_monitoring"))
      "recovery_seconds")
    let budget ← budgetOf report
    return clamp (1 - 20 / 100 * replans - 15 / 100 * (actions - 1 : ℕ) -
      10 / 100 * (steps - 1 : ℕ) - timePenalty seconds budget)

/-- A mapping whose `valid` is `False`. -/
def saysInvalid : Json → Bool
  | .obj fields => isFalse (Json.get fields "valid")
  | _ => false

/-- `_explicit_invalid`. -/
def explicitInvalid (value : Json) : Bool := anyValue saysInvalid value

/-- `_safety`. -/
def safety (report : Fields) : Except RuntimeException ℚ := do
  let safety := mapping (Json.get report "safety_validation")
  let execution := mapping (Json.get report "execution_result")
  let executed ← count (Json.get report "executed_actions")
  let failed : ℚ := if 0 < executed then -1 else -5 / 10
  return if explicitInvalid (.obj safety) then failed
    else if isTrue (Json.get execution "unsafe_execution") then -1
    else if isFalse (Json.get execution "valid") then failed
    else if isTrue (Json.get safety "valid") then 1
    else if isFalse (Json.get safety "valid") then failed
    else 0

/-- `int(condition)`. -/
def indicator (condition : Bool) : ℚ := if condition then 1 else 0

/-- `_evidence_quality`. -/
def evidenceQuality (report : Fields) : ℚ :=
  let evidence := mapping (Json.get report "evidence")
  let diagnosis := mapping (Json.get report "diagnosis")
  let monitoring := mapping (Json.get report "recovery_monitoring")
  (indicator (["metric_values", "source", "namespace", "deployment"].all fun key =>
      (Json.get evidence key).truthy) +
    indicator (Json.get diagnosis "cause").truthy +
    indicator (["recovery_success", "recovered", "recovery_seconds"].any fun key =>
      !isNone (Json.get monitoring key))) / 3

/-- `_cost_evidence_present`. -/
def costEvidencePresent (report : Fields) : Bool :=
  [report, mapping (Json.get report "evidence"), mapping (Json.get report "execution_result")].any
    fun container =>
      ["cost", "cost_per_hour", "resource_cost", "cost_metrics", "cost_evidence"].any fun key =>
        Json.hasKey container key

/-- `components` of `evaluate`. -/
structure Components where
  outcome : ℚ
  efficiency : ℚ
  safety : ℚ
  evidenceQuality : ℚ

/-- The scores of a report. -/
def componentsOf (report : Fields) : Except RuntimeException Components := do
  let efficiency ← efficiency report
  let safety ← safety report
  return ⟨clamp (outcome py report), clamp efficiency, clamp safety,
    clamp (evidenceQuality report)⟩

/-- `team_reward`. -/
def teamReward (c : Components) : ℚ :=
  let reward := clamp (65 / 100 * c.outcome + 15 / 100 * c.efficiency + 10 / 100 * c.safety +
    10 / 100 * c.evidenceQuality)
  if c.outcome < 0 then min reward 0 else reward

/-- `role_scores`, in the order of the agents. -/
def roleScores (report : Fields) (c : Components) : List ℚ :=
  [clamp ((c.outcome + c.evidenceQuality) / 2),
    if (Json.get report "selected_action").truthy || (Json.get report "executed_actions").truthy then
      clamp ((c.outcome + c.efficiency) / 2) else 0,
    c.safety,
    if costEvidencePresent report then clamp ((c.efficiency + c.safety) / 2) else c.efficiency]

/-- The score of a component, as `reason` shows it. -/
def shown (value : ℚ) : String := PyFloat.fixed3 (.finite value)

/-- `RecoveryEvaluatorAgent.evaluate`. -/
def evaluate (report : Fields) : Except RuntimeException RecoveryEvaluation := do
  let c ← componentsOf py report
  let team := teamReward c
  return {
    evaluator := "RecoveryEvaluatorAgent"
    rubricVersion := "recovery-evaluator-v1"
    teamReward := team
    agentRewards := recoveryAgentNames.zip ((roleScores report c).map fun score =>
      clamp (70 / 100 * team + 30 / 100 * score))
    components := [("outcome", c.outcome), ("efficiency", c.efficiency), ("safety", c.safety),
      ("evidence_quality", c.evidenceQuality)]
    reason := py.str (Json.getD report "final_status" (.str "unknown")) ++ ": outcome=" ++
      shown c.outcome ++ ", efficiency=" ++ shown c.efficiency ++ ", safety=" ++ shown c.safety ++
      ", evidence_quality=" ++ shown c.evidenceQuality }

end RecoveryEvaluator

/-- `RecoveryEvaluation.to_dict`. -/
def RecoveryEvaluation.toDict (e : RecoveryEvaluation) : Json :=
  .obj [("evaluator", .str e.evaluator), ("rubric_version", .str e.rubricVersion),
    ("team_reward", .number e.teamReward),
    ("agent_rewards", .obj (e.agentRewards.map fun (agent, reward) => (agent, .number reward))),
    ("components", .obj (e.components.map fun (name, score) => (name, .number score))),
    ("reason", .str e.reason)]

namespace RecoveryEvaluator

variable {py : Python}

/-- **A report without figures is evaluated.** -/
theorem evaluate_isOk {report : Fields} (hreplans : Json.get report "replanning_attempts" = .null)
    (hactions : Json.get report "executed_actions" = .null)
    (hsteps : report.lookup "actual_steps" = none)
    (hmonitoring : Json.get report "recovery_monitoring" = .obj [])
    (hexecution : Json.get report "execution_result" = .obj []) :
    ∃ evaluation, evaluate py report = .ok evaluation := by
  have hstepsOf : stepsOf report = .null := by
    unfold stepsOf
    rw [hmonitoring, hexecution]
    simp [mapping, Json.getD, Json.get, hsteps]
  have hnone : count .null = .ok 0 := rfl
  have hefficiency : efficiency report = .ok 0 := by
    unfold efficiency
    rw [hreplans, hactions, hstepsOf, hnone]
    rfl
  have hsafety : ∃ score, safety report = .ok score := by
    unfold safety
    rw [hactions, hnone]
    exact ⟨_, rfl⟩
  obtain ⟨score, hsafety⟩ := hsafety
  unfold evaluate componentsOf
  rw [hefficiency, hsafety]
  exact ⟨_, rfl⟩

end RecoveryEvaluator
end Experiment
end AiopsK8s
