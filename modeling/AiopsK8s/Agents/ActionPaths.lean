/-
# Two readings of a scaling decision

An application decision of the group chat is carried out on two paths of `autogen_groupchat.py`:
`_scale_action_from_app_decision` builds a `ScaleAction` for the alerted workload and
`_recovery_action_from_decision` a `RecoveryAction` for the observed one.  The parser states every
parameter, an absent one as the empty text.  The first path has a default for an absent parameter
and takes an empty one as it is; the second has the observed workload for both.  So they agree
exactly where an empty name is the name of the workload (`pathsAgree_iff`).
-/

import AiopsK8s.Agents.GroupChat

namespace AiopsK8s
namespace Agents

open Effect Supervision Execution

/-! ### The code -/

/-- `parameters.get(key) or fallback`. -/
def AgentDecision.parameterOr (d : AgentDecision) (key fallback : String) : String :=
  if d.parameter key "" = "" then fallback else d.parameter key ""

/-- The recovery action of a decision on the observed workload. -/
def recoveryOf (decision : AgentDecision) (evidence : EvidenceSnapshot) (kind : RecoveryActionKind)
    (replicas : Option ℤ) : RecoveryAction where
  ns := decision.parameterOr "namespace" evidence.ns
  deployment := decision.parameterOr "deployment" evidence.deployment
  kind
  replicas
  reason := decision.reason

/-- The branch of `_recovery_action_from_decision` for `app_scale_deployment`. -/
def scaleOutFromDecision (digits : Decimals) (decision : AgentDecision)
    (evidence : EvidenceSnapshot) : Except PyExn RecoveryAction := do
  let replicasText := decision.parameter "replicas" ""
  rejectIf (digits.isDecimal replicasText = false)
    (autoGenDecisionError ("replicas must be an integer: " ++
      (if replicasText = "" then "<missing>" else replicasText)))
  match digits.toInt replicasText with
  | none => .error (.valueError "Exceeds the limit (4300 digits) for integer string conversion")
  | some replicas => return recoveryOf decision evidence .scaleOut (some replicas)

/-- `_recovery_action_from_decision`. -/
def recoveryActionFromDecision (digits : Decimals) (decision : AgentDecision)
    (evidence : EvidenceSnapshot) : Except PyExn RecoveryAction :=
  if decision.approved = false ∨ decision.action = "app_observe_only" then
    .ok (recoveryOf decision evidence .observeOnly none)
  else if decision.action = "app_rollout_restart" then
    .ok (recoveryOf decision evidence .rolloutRestart none)
  else if decision.action = "app_scale_deployment" then
    scaleOutFromDecision digits decision evidence
  else
    .error (autoGenDecisionError ("unsupported AutoGen application action: " ++ decision.action))

/-! ### Agreement -/

/-- Both paths refuse the decision, or both scale the same workload to the same count. -/
def SameTarget : Except PyExn ScaleAction → Except PyExn RecoveryAction → Prop
  | .ok scale, .ok recovery => scale.ns = recovery.ns ∧ scale.deployment = recovery.deployment ∧
      recovery.kind = .scaleOut ∧ recovery.replicas = some scale.replicas
  | .error _, .error _ => True
  | _, _ => False

/-- The decision has no text for a parameter. -/
def AgentDecision.Omits (d : AgentDecision) (key : String) : Prop := d.parameter key "" = ""

/-- The paths agree on a decision, and both take the observed workload for a name that it omits. -/
structure PathsAgree (digits : Decimals) (alert : AlertEvent) (evidence : EvidenceSnapshot)
    (decision : AgentDecision) : Prop where
  same : SameTarget (scaleActionFromAppDecision digits alert decision)
    (recoveryActionFromDecision digits decision evidence)
  scale_fallback : ∀ scale, scaleActionFromAppDecision digits alert decision = .ok scale →
    (decision.Omits "namespace" → scale.ns = alert.ns) ∧
      (decision.Omits "deployment" → scale.deployment = alert.service)
  recovery_fallback : ∀ recovery, recoveryActionFromDecision digits decision evidence = .ok recovery →
    (decision.Omits "namespace" → recovery.ns = evidence.ns) ∧
      (decision.Omits "deployment" → recovery.deployment = evidence.deployment)

/-- The replica count that the decision states, where `int` reads one. -/
def AgentDecision.replicas (digits : Decimals) (d : AgentDecision) : Option ℤ :=
  if digits.isDecimal (d.parameter "replicas" "") then digits.toInt (d.parameter "replicas" "")
  else none

/-- A name that the decision omits is empty for the workload, too. -/
def AgentDecision.NamesWorkload (d : AgentDecision) (alert : AlertEvent) : Prop :=
  (d.Omits "namespace" → alert.ns = "") ∧ (d.Omits "deployment" → alert.service = "")

section Paths

variable {py : Python} {schema : DecisionSchema} {digits : Decimals} {alert : AlertEvent}
  {evidence : EvidenceSnapshot} {decision : AgentDecision}

/-- A parsed decision has the approval that its action requires. -/
theorem AgentDecision.IsParsed.approval_eq (h : decision.IsParsed py schema) :
    ((autogenActionApproval.lookup decision.agent).getD []).lookup decision.action =
      some decision.approved := by
  obtain ⟨payload, expectedAgent, h⟩ := h
  unfold parseAutogenDecision at h
  obtain ⟨fields, -, h⟩ := bind_eq_ok h
  obtain ⟨normalized, -, h⟩ := bind_eq_ok h
  split at h
  · cases h
  · obtain ⟨⟨⟩, hcheck, h⟩ := bind_eq_ok h
    obtain rfl := Except.ok.inj h
    unfold checkDecision at hcheck
    obtain ⟨⟨⟩, -, hcheck⟩ := bind_eq_ok hcheck
    split at hcheck
    · cases hcheck
    · rename_i required hrequired
      rw [hrequired, not_not.1 (rejectIf_eq_ok.1 hcheck)]

/-- A scaling decision of the application agent is approved. -/
theorem AgentDecision.IsParsed.approved (h : decision.IsParsed py schema)
    (hagent : decision.agent = applicationAgent) (haction : decision.action = "app_scale_deployment") :
    decision.approved = true := by
  have happroval := h.approval_eq
  rw [hagent, haction] at happroval
  exact (Option.some.inj happroval).symm

/-- A parsed decision states its parameters, so a default is not asked for. -/
theorem AgentDecision.IsParsed.parameter_eq (h : decision.IsParsed py schema) {key : String}
    (hkey : key ∈ ["namespace", "deployment", "replicas"]) (default : String) :
    decision.parameter key default = decision.parameter key "" := by
  obtain ⟨ns, deployment, replicas, hparameters⟩ := h.parameters_eq
  rw [AgentDecision.parameter, AgentDecision.parameter, hparameters]
  simp only [List.mem_cons, List.not_mem_nil, or_false] at hkey
  rcases hkey with rfl | rfl | rfl <;> rfl

/-- Without a count the first path refuses the decision. -/
theorem scaleAction_of_none (h : decision.IsParsed py schema) (alert : AlertEvent)
    (hreplicas : decision.replicas digits = none) :
    ∃ exc, scaleActionFromAppDecision digits alert decision = .error exc := by
  rcases hscale : scaleActionFromAppDecision digits alert decision with exc | scale
  · exact ⟨exc, rfl⟩
  unfold scaleActionFromAppDecision at hscale
  obtain ⟨⟨⟩, -, hscale⟩ := bind_eq_ok hscale
  obtain ⟨⟨⟩, hdecimal, hscale⟩ := bind_eq_ok hscale
  rw [h.parameter_eq (by simp) "3"] at hdecimal hscale
  have hint : digits.toInt (decision.parameter "replicas" "") = none := by
    rwa [AgentDecision.replicas,
      if_pos (Bool.eq_true_of_not_eq_false (rejectIf_eq_ok.1 hdecimal))] at hreplicas
  rw [hint] at hscale
  cases hscale

/-- With a count it takes the names as the decision has them. -/
theorem scaleAction_of_some (h : decision.IsParsed py schema) (alert : AlertEvent)
    (haction : decision.action = "app_scale_deployment") {replicas : ℤ}
    (hreplicas : decision.replicas digits = some replicas) :
    scaleActionFromAppDecision digits alert decision = .ok ⟨decision.parameter "namespace" "",
      decision.parameter "deployment" "", replicas, decision.reason⟩ := by
  obtain ⟨hdecimal, hint⟩ : digits.isDecimal (decision.parameter "replicas" "") = true ∧
      digits.toInt (decision.parameter "replicas" "") = some replicas :=
    Option.ite_none_right_eq_some.1 hreplicas
  have hscale : scaleOf alert decision replicas = ⟨decision.parameter "namespace" "",
      decision.parameter "deployment" "", replicas, decision.reason⟩ := by
    rw [scaleOf, h.parameter_eq (by simp) alert.ns, h.parameter_eq (by simp) alert.service]
  have haccepted : ¬digits.isDecimal (decision.parameter "replicas" "") = false := by simp [hdecimal]
  have hdefault : decision.parameter "replicas" "3" = decision.parameter "replicas" "" :=
    h.parameter_eq (by simp) "3"
  unfold scaleActionFromAppDecision
  simp only [hdefault, rejectIf_eq_ok.2 (not_not.2 haction),
    rejectIf_eq_ok.2 haccepted, hint, hscale, bind, Except.bind, pure, Except.pure]

theorem recoveryAction_eq_scaleOut (digits : Decimals) (evidence : EvidenceSnapshot)
    (h : decision.IsParsed py schema) (hagent : decision.agent = applicationAgent)
    (haction : decision.action = "app_scale_deployment") :
    recoveryActionFromDecision digits decision evidence =
      scaleOutFromDecision digits decision evidence := by
  have hnotObserve : ¬(decision.approved = false ∨ decision.action = "app_observe_only") := by
    rw [h.approved hagent haction, haction]
    decide
  have hnotRestart : ¬decision.action = "app_rollout_restart" := by
    rw [haction]
    decide
  rw [recoveryActionFromDecision, if_neg hnotObserve, if_neg hnotRestart, if_pos haction]

/-- Without a count the second path refuses the decision, too. -/
theorem scaleOut_of_none (evidence : EvidenceSnapshot)
    (hreplicas : decision.replicas digits = none) :
    ∃ exc, scaleOutFromDecision digits decision evidence = .error exc := by
  rcases hscale : scaleOutFromDecision digits decision evidence with exc | recovery
  · exact ⟨exc, rfl⟩
  unfold scaleOutFromDecision at hscale
  obtain ⟨⟨⟩, hdecimal, hscale⟩ := bind_eq_ok hscale
  have hint : digits.toInt (decision.parameter "replicas" "") = none := by
    rwa [AgentDecision.replicas,
      if_pos (Bool.eq_true_of_not_eq_false (rejectIf_eq_ok.1 hdecimal))] at hreplicas
  rw [hint] at hscale
  cases hscale

/-- With a count it takes the observed workload for a name that is empty. -/
theorem scaleOut_of_some (evidence : EvidenceSnapshot) {replicas : ℤ}
    (hreplicas : decision.replicas digits = some replicas) :
    scaleOutFromDecision digits decision evidence =
      .ok (recoveryOf decision evidence .scaleOut (some replicas)) := by
  obtain ⟨hdecimal, hint⟩ : digits.isDecimal (decision.parameter "replicas" "") = true ∧
      digits.toInt (decision.parameter "replicas" "") = some replicas :=
    Option.ite_none_right_eq_some.1 hreplicas
  have haccepted : ¬digits.isDecimal (decision.parameter "replicas" "") = false := by simp [hdecimal]
  unfold scaleOutFromDecision
  simp only [rejectIf_eq_ok.2 haccepted, hint, bind, Except.bind, pure, Except.pure]

theorem parameterOr_of_omits {key : String} (h : decision.Omits key) (fallback : String) :
    decision.parameterOr key fallback = fallback := if_pos h

/-- A name is the one with its fallback unless it is omitted and the fallback is a name. -/
theorem parameter_eq_parameterOr_iff {key fallback : String} :
    decision.parameter key "" = decision.parameterOr key fallback ↔
      (decision.Omits key → fallback = "") := by
  by_cases homits : decision.Omits key
  · rw [parameterOr_of_omits homits]
    have hempty : decision.parameter key "" = "" := homits
    rw [hempty]
    exact ⟨fun h _ => h.symm, fun h => (h homits).symm⟩
  · have hstated : decision.parameterOr key fallback = decision.parameter key "" := if_neg homits
    rw [hstated]
    exact ⟨fun _ h => absurd h homits, fun _ => rfl⟩

/-- **The two paths agree on a scaling decision exactly where an empty name is the name of the
workload**, or where the decision states no count and both refuse it. -/
theorem pathsAgree_iff (h : decision.IsParsed py schema) (hagent : decision.agent = applicationAgent)
    (haction : decision.action = "app_scale_deployment") (hns : alert.ns = evidence.ns)
    (hdeployment : alert.service = evidence.deployment) :
    PathsAgree digits alert evidence decision ↔
      ((decision.replicas digits).isSome = true → decision.NamesWorkload alert) := by
  have hrecovery := recoveryAction_eq_scaleOut digits evidence h hagent haction
  rcases hreplicas : decision.replicas digits with _ | replicas
  · obtain ⟨excScale, hscale⟩ := scaleAction_of_none h alert hreplicas
    obtain ⟨excOut, hout⟩ := scaleOut_of_none evidence hreplicas
    refine iff_of_true ⟨?_, ?_, ?_⟩ nofun
    · rw [hrecovery, hscale, hout]
      trivial
    · intro scale hok
      rw [hscale] at hok
      cases hok
    · intro recovery hok
      rw [hrecovery, hout] at hok
      cases hok
  · have hscale := scaleAction_of_some h alert haction hreplicas
    have hout := scaleOut_of_some evidence hreplicas
    constructor
    · rintro hagree -
      have hsame := hagree.same
      rw [hrecovery, hscale, hout] at hsame
      obtain ⟨hsameNs, hsameDeployment, -, -⟩ := hsame
      refine ⟨?_, ?_⟩
      · rw [hns]
        exact parameter_eq_parameterOr_iff.1 hsameNs
      · rw [hdeployment]
        exact parameter_eq_parameterOr_iff.1 hsameDeployment
    · intro hnames
      obtain ⟨hnamesNs, hnamesDeployment⟩ := hnames rfl
      have hsameNs : decision.parameter "namespace" "" =
          decision.parameterOr "namespace" evidence.ns :=
        parameter_eq_parameterOr_iff.2 fun homits => hns ▸ hnamesNs homits
      have hsameDeployment : decision.parameter "deployment" "" =
          decision.parameterOr "deployment" evidence.deployment :=
        parameter_eq_parameterOr_iff.2 fun homits => hdeployment ▸ hnamesDeployment homits
      refine ⟨?_, fun scale hok => ?_, fun recovery hok => ?_⟩
      · rw [hrecovery, hscale, hout]
        exact ⟨hsameNs, hsameDeployment, rfl, rfl⟩
      · rw [hscale] at hok
        obtain rfl := Except.ok.inj hok
        refine ⟨fun homits => ?_, fun homits => ?_⟩
        · exact homits.trans (hnamesNs homits).symm
        · exact homits.trans (hnamesDeployment homits).symm
      · rw [hrecovery, hout] at hok
        obtain rfl := Except.ok.inj hok
        exact ⟨fun homits => parameterOr_of_omits homits _,
          fun homits => parameterOr_of_omits homits _⟩

end Paths

/-! ### A decision that omits the workload -/

namespace ActionPaths

/-- What is observed of an alerted workload. -/
def observed (alert : AlertEvent) : EvidenceSnapshot :=
  ⟨alert.ns, alert.service, [], 2, 2, 0, ["Running"], [], [], none, none, "", "fake"⟩

/-- A message that asks for four replicas and names no workload. -/
def unnamed : List (String × Json) :=
  [("agent", .str applicationAgent), ("action", .str "app_scale_deployment"),
    ("reward", .number 1), ("approved", .bool true), ("reason", .str "saturation"),
    ("parameters", .obj [("replicas", .str "4")])]

/-- What the parser makes of it. -/
def unnamedDecision : AgentDecision :=
  ⟨applicationAgent, "app_scale_deployment", .finite 1, true, "saturation",
    [("namespace", ""), ("deployment", ""), ("replicas", "4")]⟩

theorem unnamedDecision_isParsed :
    parseAutogenDecision Python.ascii AutoGenGroupChatCoordinator.fieldSchema (.value (.obj unnamed))
      applicationAgent = .ok unnamedDecision := by
  have hfields : normalizedParameters Python.ascii [("replicas", .str "4")] =
      [("replicas", .str "4"), ("namespace", .str ""), ("deployment", .str "")] := rfl
  have hnormalized : normalizedPayload Python.ascii unnamed =
      .ok (Json.set unnamed "parameters" (.obj [("replicas", .str "4"), ("namespace", .str ""),
        ("deployment", .str "")])) := by
    have hlong : Json.hasLongField [("replicas", .str "4")] = false := rfl
    have hget : Json.get unnamed "parameters" = .obj [("replicas", .str "4")] := rfl
    simp only [normalizedPayload, hget, hlong, hfields]
    rfl
  have hschema : AutoGenGroupChatCoordinator.fieldSchema (Json.set unnamed "parameters"
      (.obj [("replicas", .str "4"), ("namespace", .str ""), ("deployment", .str "")])) =
      .ok ⟨applicationAgent, "app_scale_deployment", 1, true, "saturation", "", "", "4"⟩ := rfl
  have hagent : normalizeAgentName applicationAgent = applicationAgent := by decide +kernel
  have haction : ((autogenActionApproval.lookup applicationAgent).getD []).lookup
      "app_scale_deployment" = some true := by decide
  have hcheck : checkDecision ⟨applicationAgent, "app_scale_deployment", 1, true, "saturation",
      "", "", "4"⟩ applicationAgent = .ok () := by
    simp only [checkDecision, hagent, haction, ne_eq, not_true_eq_false,
      rejectIf_eq_ok.2 not_false, bind, Except.bind]
  have hdict : payloadToDict Python.ascii (.value (.obj unnamed)) = .ok unnamed := rfl
  simp only [parseAutogenDecision, hdict, hnormalized, hschema, hcheck, hagent, bind, Except.bind,
    pure, Except.pure]
  rfl

end ActionPaths

open ActionPaths AutoGenGroupChatCoordinator in
/-- For a decision that names the alerted workload the equivalence applies. -/
theorem pathsAgree_iff_web :
    PathsAgree Decimals.ascii webAlert (observed webAlert)
        (approving applicationAgent "app_scale_deployment" "prod" "web" "4") ↔
      (((approving applicationAgent "app_scale_deployment" "prod" "web" "4").replicas
        Decimals.ascii).isSome = true →
        (approving applicationAgent "app_scale_deployment" "prod" "web" "4").NamesWorkload webAlert) :=
  pathsAgree_iff (approving_isParsed "prod" "web" "4" (by decide +kernel) (by decide)) rfl rfl rfl rfl

open ActionPaths AutoGenGroupChatCoordinator in
/-- **A decision without a namespace is about the empty namespace on the first path**: of four
replicas for the alerted workload one path makes a scale-out that names nothing. -/
theorem unnamed_paths_differ :
    parseAutogenDecision Python.ascii fieldSchema (.value (.obj unnamed)) applicationAgent =
        .ok unnamedDecision ∧
      scaleActionFromAppDecision Decimals.ascii webAlert unnamedDecision =
        .ok ⟨"", "", 4, "saturation"⟩ ∧
      recoveryActionFromDecision Decimals.ascii unnamedDecision (observed webAlert) =
        .ok ⟨"prod", "web", .scaleOut, some 4, "saturation"⟩ ∧
      ¬PathsAgree Decimals.ascii webAlert (observed webAlert) unnamedDecision := by
  refine ⟨unnamedDecision_isParsed, ?_, ?_, fun hagree => ?_⟩
  · rfl
  · rfl
  · have hsame := hagree.same
    exact absurd hsame.1 (by decide)

end Agents
end AiopsK8s
