/-
# A decision of the group chat

`parse_autogen_decision` of `autogen_groupchat.py`: how a message of a language model
becomes an `AgentDecision`.  The check of the structured schema is pydantic's and is the
parameter `schema`; what it returns has the declared fields.
-/

import AiopsK8s.Lib.Effect
import AiopsK8s.Lib.JsonText
import AiopsK8s.Supervision.Models

namespace AiopsK8s
namespace Agents

open Effect Supervision

/-- `AlertEvent`. -/
structure AlertEvent where
  ns : String
  service : String
  metric : String
  value : PyFloat
  threshold : PyFloat
  message : String

/-- `AgentDecision`. -/
structure AgentDecision where
  agent : String
  action : String
  reward : PyFloat
  approved : Bool
  reason : String
  parameters : List (String × String)
  deriving DecidableEq

/-- `AUTOGEN_AGENT_NAMES`. -/
def autogenAgentNames : List String :=
  ["AIServiceHASupportAgent", "AIApplicationManagementAgent", "AISemiconductorInfraOpsAgent",
    "CostOptimizationAgent"]

/-- `AUTOGEN_ACTION_APPROVAL`; its keys are `AUTOGEN_ALLOWED_ACTIONS`. -/
def autogenActionApproval : List (String × List (String × Bool)) :=
  [("AIServiceHASupportAgent",
      [("ha_scale_out_required", true), ("ha_recovery_required", true), ("ha_no_action", false)]),
    ("AIApplicationManagementAgent",
      [("app_observe_only", true), ("app_rollout_restart", true), ("app_scale_deployment", true)]),
    ("AISemiconductorInfraOpsAgent",
      [("infra_capacity_approved", true), ("infra_capacity_rejected", false)]),
    ("CostOptimizationAgent",
      [("cost_budget_approved", true), ("cost_budget_rejected", false)])]

/-- `AUTOGEN_AGENT_ALIASES`. -/
def autogenAgentAliases : List (String × String) :=
  [("AI HA Agent", "AIServiceHASupportAgent"),
    ("AI Service HA Support Agent", "AIServiceHASupportAgent"),
    ("HA Support Agent", "AIServiceHASupportAgent"),
    ("AI Application Management Agent", "AIApplicationManagementAgent"),
    ("Application Management Agent", "AIApplicationManagementAgent"),
    ("AI Semiconductor Infra Ops Agent", "AISemiconductorInfraOpsAgent"),
    ("Semiconductor Infra Ops Agent", "AISemiconductorInfraOpsAgent"),
    ("Cost Optimization Agent", "CostOptimizationAgent"),
    ("Cost Agent", "CostOptimizationAgent")]

/-- A message content: a text, or a value or model whose dump is one. -/
inductive Payload where
  | text (text : String)
  | value (value : Json)

/-- `AutoGenActionParameters`. -/
structure ActionParameters where
  ns : String
  deployment : String
  replicas : String

/-- `AutoGenDecisionPayload`, a validated model. -/
structure DecisionPayload where
  agent : String
  action : String
  reward : ℚ
  approved : Bool
  reason : String
  parameters : ActionParameters

/-- `AutoGenDecisionPayload.model_validate`: the model, or the text of the error. -/
abbrev DecisionSchema := List (String × Json) → Except String DecisionPayload

/-- An `AutoGenDecisionError`, a `ValueError`. -/
def autoGenDecisionError (text : String) : PyExn := .valueError text

/-- `_strip_code_fence`. -/
def stripCodeFence (text : String) : String :=
  let stripped := Text.strip text
  if ¬stripped.startsWith "```" then stripped
  else
    let lines := Text.splitLines stripped
    if 3 ≤ lines.length ∧ (lines.head?.any (·.startsWith "```")) ∧
        (lines.getLast?.any (·.startsWith "```")) then
      Text.strip ("\n".intercalate lines.tail.dropLast)
    else stripped

/-- `_payload_to_dict`. -/
def payloadToDict (py : Python) (payload : Payload) : Except PyExn (List (String × Json)) := do
  let value ← match payload with
    | .text text => match JsonText.loads py (stripCodeFence text) with
      | some value => .ok value
      | none => .error (autoGenDecisionError "AutoGen payload is not valid JSON")
    | .value value => .ok value
  match value with
  | .obj fields => .ok fields
  | _ => .error (autoGenDecisionError "unsupported AutoGen payload type")

/-- `_normalize_agent_name`. -/
def normalizeAgentName (agent : String) : String :=
  (autogenAgentAliases.lookup (Text.strip agent)).getD (Text.strip agent)

/-- `{str(key): str(value) for key, value in parameters.items()}` with the three defaults. -/
def normalizedParameters (py : Python) (parameters : List (String × Json)) :
    List (String × Json) :=
  ["namespace", "deployment", "replicas"].foldl
    (fun fields key => if Json.hasKey fields key then fields else fields ++ [(key, .str "")])
    (parameters.map fun entry => (entry.1, .str (py.str entry.2)))

/-- The first half of `parse_autogen_decision`: the payload that the schema sees. -/
def normalizedPayload (py : Python) (data : List (String × Json)) :
    Except PyExn (List (String × Json)) :=
  match Json.get data "parameters" with
  | .null => .ok (Json.set data "parameters" (.obj (normalizedParameters py [])))
  | .obj parameters =>
    if Json.hasLongField parameters then
      .error (.valueError "Exceeds the limit (4300 digits) for integer string conversion")
    else .ok (Json.set data "parameters" (.obj (normalizedParameters py parameters)))
  | _ => .ok data

/-- `str` of a truth value. -/
def boolText (b : Bool) : String := if b then "True" else "False"

/-- The checks of `parse_autogen_decision` on a validated payload. -/
def checkDecision (data : DecisionPayload) (expectedAgent : String) : Except PyExn Unit := do
  let agent := normalizeAgentName data.agent
  rejectIf (agent ≠ expectedAgent) (autoGenDecisionError ("expected decision from " ++
    expectedAgent ++ ", received " ++ (if data.agent = "" then "<missing>" else data.agent)))
  match ((autogenActionApproval.lookup agent).getD []).lookup data.action with
  | none =>
    .error (autoGenDecisionError ("unsupported AutoGen action for " ++ agent ++ ": " ++ data.action))
  | some requiredApproval =>
    rejectIf (data.approved ≠ requiredApproval) (autoGenDecisionError ("AutoGen action " ++
      data.action ++ " contradicts approved=" ++ boolText data.approved ++ "; required approved=" ++
      boolText requiredApproval))

/-- `parse_autogen_decision`. -/
def parseAutogenDecision (py : Python) (schema : DecisionSchema) (payload : Payload)
    (expectedAgent : String) : Except PyExn AgentDecision := do
  let normalized ← normalizedPayload py (← payloadToDict py payload)
  match schema normalized with
  | .error text => .error (autoGenDecisionError
      ("AutoGen decision does not match the structured schema: " ++ text))
  | .ok data =>
    checkDecision data expectedAgent
    return {
      agent := normalizeAgentName data.agent
      action := data.action
      reward := .finite data.reward
      approved := data.approved
      reason := data.reason
      parameters := [("namespace", data.parameters.ns), ("deployment", data.parameters.deployment),
        ("replicas", data.parameters.replicas)] }

/-- A decision that `parse_autogen_decision` returned for some message of some agent. -/
def AgentDecision.IsParsed (py : Python) (schema : DecisionSchema) (d : AgentDecision) : Prop :=
  ∃ payload expectedAgent, parseAutogenDecision py schema payload expectedAgent = .ok d

/-- **A parsed decision states its parameters**: the three of them, as texts. -/
theorem AgentDecision.IsParsed.parameters_eq {py : Python} {schema : DecisionSchema}
    {d : AgentDecision} (h : d.IsParsed py schema) :
    ∃ ns deployment replicas, d.parameters =
      [("namespace", ns), ("deployment", deployment), ("replicas", replicas)] := by
  obtain ⟨payload, expectedAgent, h⟩ := h
  unfold parseAutogenDecision at h
  obtain ⟨fields, -, h⟩ := bind_eq_ok h
  obtain ⟨normalized, -, h⟩ := bind_eq_ok h
  split at h
  · cases h
  · obtain ⟨_, -, h⟩ := bind_eq_ok h
    obtain rfl := Except.ok.inj h
    exact ⟨_, _, _, rfl⟩

end Agents
end AiopsK8s
