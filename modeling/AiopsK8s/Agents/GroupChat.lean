/-
# The group chat coordinator

`AutoGenGroupChatCoordinator` of `autogen_groupchat.py`.  A run asks the provider for
decisions, requires one of each of the four agents and the approval of all, and scales
the workload that the application decision names.

The allowlists of the validator do not tie the command to the alert: a run hands over
only commands for the alerted workload exactly when the application decision that it
carries out names that workload (`run_authorised_iff`).
-/

import AiopsK8s.Agents.Decision
import AiopsK8s.Execution.Dispatch
import AiopsK8s.Lib.Decimal

namespace AiopsK8s
namespace Agents

open Effect Supervision Execution

/-- The name of the agent that proposes the action. -/
def applicationAgent : String := "AIApplicationManagementAgent"

/-- `_order_decisions`. -/
def orderDecisions (decisions : List AgentDecision) : Except PyExn (List AgentDecision) := do
  rejectIf (¬(decisions.map (·.agent)).Nodup)
    (autoGenDecisionError "duplicate AutoGen agent decisions")
  let missing := autogenAgentNames.filter (· ∉ decisions.map (·.agent))
  rejectIf (missing ≠ [])
    (autoGenDecisionError ("missing AutoGen decisions: " ++ ", ".intercalate missing))
  let unknown := (decisions.map (·.agent)).filter (· ∉ autogenAgentNames)
  rejectIf (unknown ≠ []) (autoGenDecisionError ("unknown AutoGen decisions: " ++
    ", ".intercalate (unknown.mergeSort (· ≤ ·))))
  return autogenAgentNames.filterMap fun name => decisions.find? (·.agent == name)

/-- `_find_decision`. -/
def findDecision (decisions : List AgentDecision) (agent : String) : Except PyExn AgentDecision :=
  match decisions.find? (·.agent == agent) with
  | some decision => .ok decision
  | none => .error (autoGenDecisionError ("missing decision from " ++ agent))

/-- `decision.parameters.get(key, default)`. -/
def AgentDecision.parameter (d : AgentDecision) (key default : String) : String :=
  (d.parameters.lookup key).getD default

/-- The scale action of an application decision with its replica count. -/
def scaleOf (alert : AlertEvent) (decision : AgentDecision) (replicas : ℤ) : ScaleAction where
  ns := decision.parameter "namespace" alert.ns
  deployment := decision.parameter "deployment" alert.service
  replicas
  reason := decision.reason

/-- `_scale_action_from_app_decision`. -/
def scaleActionFromAppDecision (digits : Decimals) (alert : AlertEvent) (decision : AgentDecision) :
    Except PyExn ScaleAction := do
  rejectIf (decision.action ≠ "app_scale_deployment")
    (autoGenDecisionError ("unsupported application action: " ++ decision.action))
  let replicasText := decision.parameter "replicas" "3"
  rejectIf (digits.isDecimal replicasText = false)
    (autoGenDecisionError ("replicas must be an integer: " ++ replicasText))
  match digits.toInt replicasText with
  | none => .error (.valueError "Exceeds the limit (4300 digits) for integer string conversion")
  | some replicas => return scaleOf alert decision replicas

/-- The texts of the rewards in the metadata of a result. -/
structure RewardTexts where
  one : PyFloat → String
  total : List PyFloat → String

/-- `AutoGenGroupChatCoordinator`, with the executor that `run` builds from its fields. -/
structure AutoGenGroupChatCoordinator (σ : Type) where
  executor : CommandExecutor σ
  decisionProvider : Option (AlertEvent → Eff σ PyExn (List AgentDecision))
  includeTranscript : Bool
  transcriptLines : Eff σ PyExn (List String)
  digits : Decimals
  rewardTexts : RewardTexts

namespace AutoGenGroupChatCoordinator

variable {σ : Type} (c : AutoGenGroupChatCoordinator σ)

/-- `_metadata`. -/
def metadata (consensus : String) (decisions : List AgentDecision) :
    Eff σ PyExn (List (String × String)) := do
  let entries := [("coordinator", "AI-MCMP"), ("autogen", "groupchat"), ("consensus", consensus),
    ("agents", ",".intercalate autogenAgentNames),
    ("decisions", "|".intercalate (decisions.map fun d =>
      d.agent ++ ":" ++ (if d.approved then "approved" else "rejected"))),
    ("actions", "|".intercalate (decisions.map fun d => d.agent ++ ":" ++ d.action)),
    ("rewards", "|".intercalate (decisions.map fun d => d.agent ++ ":" ++ c.rewardTexts.one d.reward)),
    ("reward_total", c.rewardTexts.total (decisions.map (·.reward)))]
  if c.includeTranscript then
    let transcript := "\n".intercalate (← c.transcriptLines)
    if transcript ≠ "" then return entries ++ [("transcript", transcript)]
  return entries

/-- `_rejected_result`. -/
def rejectedResult (decisions : List AgentDecision) : Eff σ PyExn CommandResult := do
  return ⟨"", c.executor.mode.value, false, "",
    "; ".intercalate ((decisions.filter (!·.approved)).map (·.reason)),
    ← c.metadata "rejected" decisions⟩

/-- The part of `run` after the provider. -/
def decide (alert : AlertEvent) (decisions : List AgentDecision) :
    Eff (Journal σ) PyExn CommandResult := do
  let decisions ← Eff.ofExcept (orderDecisions decisions)
  if ¬decisions.all (·.approved) then Journal.call (c.rejectedResult decisions)
  else
    let appDecision ← Eff.ofExcept (findDecision decisions applicationAgent)
    let action ← Eff.ofExcept (scaleActionFromAppDecision c.digits alert appDecision)
    let result ← c.executor.executeScale action
    return { result with metadata := ← Journal.call (c.metadata "approved" decisions) }

/-- `run`. -/
def run (alert : AlertEvent) : Eff (Journal σ) PyExn CommandResult :=
  match c.decisionProvider with
  | none => Eff.raise ⟨.other, "AutoGen decision_provider is required. Use " ++
      "AutoGenRoundRobinDecisionProvider with autogen extras installed."⟩
  | some provider => do
      let decisions ← Journal.call (provider alert)
      c.decide alert decisions

/-- There is exactly one decision of each of the four agents, and all are approved. -/
structure Agreed (decisions : List AgentDecision) : Prop where
  one_each : (decisions.map (·.agent)).Perm autogenAgentNames
  approved : ∀ d ∈ decisions, d.approved = true

/-- The decision is a scale-out to `replicas` that the validator accepts. -/
structure Scales (alert : AlertEvent) (app : AgentDecision) (replicas : ℤ) : Prop where
  agent : app.agent = applicationAgent
  action : app.action = "app_scale_deployment"
  isDecimal : c.digits.isDecimal (app.parameter "replicas" "3") = true
  stated : c.digits.toInt (app.parameter "replicas" "3") = some replicas
  accepted : validateScaleAction c.executor.validator (scaleOf alert app replicas) =
    .ok (scaleOf alert app replicas)

/-- **A command that may be handed over**: the four agents agreed, the validator accepted the
scale-out of the application decision, and the command scales the alerted workload to the
count that this decision states. -/
structure Authorised (alert : AlertEvent) (decisions : List AgentDecision) (d : Dispatch) :
    Prop where
  agreed : Agreed decisions
  scales : ∃ app ∈ decisions, ∃ replicas, c.Scales alert app replicas ∧
    d.action.kind = .scaleOut ∧ d.action.replicas = some replicas
  ns : d.action.ns = alert.ns
  deployment : d.action.deployment = alert.service
  route : ∃ replicas, d.action.replicas = some replicas ∧
    c.executor.route d.action (renderScaleCommand alert.ns alert.service replicas) = .ok d.route

/-- The condition: an application decision that is carried out names the alerted workload. -/
def NamesAlerted (alert : AlertEvent) (decisions : List AgentDecision) : Prop :=
  Agreed decisions → ∀ app ∈ decisions, (∃ replicas, c.Scales alert app replicas) →
    app.parameters.lookup "namespace" = some alert.ns ∧
      app.parameters.lookup "deployment" = some alert.service

end AutoGenGroupChatCoordinator

/-! ### The decisions in order -/

section Order

variable {decisions ordered : List AgentDecision}

/-- With distinct agents, `find?` finds the decision of an agent. -/
theorem find?_agent {name : String} {d : AgentDecision}
    (hnodup : (decisions.map (·.agent)).Nodup) :
    decisions.find? (·.agent == name) = some d ↔ d ∈ decisions ∧ d.agent = name := by
  constructor
  · intro h
    exact ⟨List.mem_of_find?_eq_some h, by simpa using List.find?_some h⟩
  · rintro ⟨hd, hname⟩
    rcases hfind : decisions.find? (·.agent == name) with _ | d'
    · have hnone := List.find?_eq_none.1 hfind d hd
      simp [hname] at hnone
    · have hd' := List.mem_of_find?_eq_some hfind
      have hname' : d'.agent = name := by simpa using List.find?_some hfind
      rw [List.inj_on_of_nodup_map hnodup hd hd' (hname.trans hname'.symm)]
      exact hfind

theorem nodup_autogenAgentNames : autogenAgentNames.Nodup := by decide

/-- `_order_decisions` accepts one decision of each agent and keeps all of them. -/
theorem orderDecisions_eq_ok :
    orderDecisions decisions = .ok ordered ↔
      (decisions.map (·.agent)).Perm autogenAgentNames ∧
        ordered = autogenAgentNames.filterMap fun name => decisions.find? (·.agent == name) := by
  have hmissing : autogenAgentNames.filter (· ∉ decisions.map (·.agent)) = [] ↔
      ∀ name ∈ autogenAgentNames, name ∈ decisions.map (·.agent) := by
    simp only [List.filter_eq_nil_iff, decide_eq_true_eq, not_not]
  have hunknown : (decisions.map (·.agent)).filter (· ∉ autogenAgentNames) = [] ↔
      ∀ name ∈ decisions.map (·.agent), name ∈ autogenAgentNames := by
    simp only [List.filter_eq_nil_iff, decide_eq_true_eq, not_not]
  have hperm : (decisions.map (·.agent)).Perm autogenAgentNames ↔
      (decisions.map (·.agent)).Nodup ∧ (∀ name ∈ autogenAgentNames, name ∈ decisions.map (·.agent)) ∧
        ∀ name ∈ decisions.map (·.agent), name ∈ autogenAgentNames := by
    constructor
    · intro h
      exact ⟨h.nodup_iff.2 nodup_autogenAgentNames, fun _ => h.mem_iff.2, fun _ => h.mem_iff.1⟩
    · rintro ⟨hnodup, h₁, h₂⟩
      exact (List.perm_ext_iff_of_nodup hnodup nodup_autogenAgentNames).2 fun name =>
        ⟨h₂ name, h₁ name⟩
  rw [hperm]
  unfold orderDecisions
  constructor
  · intro h
    obtain ⟨⟨⟩, h₁, h⟩ := bind_eq_ok h
    obtain ⟨⟨⟩, h₂, h⟩ := bind_eq_ok h
    obtain ⟨⟨⟩, h₃, h⟩ := bind_eq_ok h
    refine ⟨⟨not_not.1 (rejectIf_eq_ok.1 h₁), ?_, ?_⟩, (Except.ok.inj h).symm⟩
    · exact hmissing.1 (not_not.1 (rejectIf_eq_ok.1 h₂))
    · exact hunknown.1 (not_not.1 (rejectIf_eq_ok.1 h₃))
  · rintro ⟨⟨hnodup, h₁, h₂⟩, rfl⟩
    simp only [rejectIf_eq_ok.2 (not_not.2 hnodup), rejectIf_eq_ok.2 (not_not.2 (hmissing.2 h₁)),
      rejectIf_eq_ok.2 (not_not.2 (hunknown.2 h₂)), bind, Except.bind, pure, Except.pure]

/-- The ordered decisions are the decisions. -/
theorem mem_orderDecisions (h : orderDecisions decisions = .ok ordered) {d : AgentDecision} :
    d ∈ ordered ↔ d ∈ decisions := by
  obtain ⟨hperm, rfl⟩ := orderDecisions_eq_ok.1 h
  have hnodup : (decisions.map (·.agent)).Nodup := hperm.nodup_iff.2 nodup_autogenAgentNames
  rw [List.mem_filterMap]
  constructor
  · rintro ⟨name, -, hfind⟩
    exact ((find?_agent hnodup).1 hfind).1
  · intro hd
    have hname : d.agent ∈ autogenAgentNames := hperm.mem_iff.1 (List.mem_map_of_mem hd)
    exact ⟨d.agent, hname, (find?_agent hnodup).2 ⟨hd, rfl⟩⟩

theorem findDecision_eq_ok {agent : String} {d : AgentDecision}
    (h : findDecision decisions agent = .ok d) : d ∈ decisions ∧ d.agent = agent := by
  unfold findDecision at h
  split at h
  · rename_i found hfound
    obtain rfl := Except.ok.inj h
    exact ⟨List.mem_of_find?_eq_some hfound, by simpa using List.find?_some hfound⟩
  · cases h

theorem findDecision_eq_error {agent : String} {exc : PyExn}
    (h : findDecision decisions agent = .error exc) : ∀ d ∈ decisions, d.agent ≠ agent := by
  unfold findDecision at h
  split at h
  · cases h
  · rename_i hnone
    intro d hd hagent
    have hne := List.find?_eq_none.1 hnone d hd
    simp [hagent] at hne

end Order

namespace AutoGenGroupChatCoordinator

section Run

variable {σ : Type} {c : AutoGenGroupChatCoordinator σ} {alert : AlertEvent}
  {decisions : List AgentDecision} {j j' : Journal σ}

/-- The action of a decision that scales, and of no other. -/
theorem scaleAction_eq_ok {app : AgentDecision} {action : ScaleAction} :
    scaleActionFromAppDecision c.digits alert app = .ok action ↔
      app.action = "app_scale_deployment" ∧
        c.digits.isDecimal (app.parameter "replicas" "3") = true ∧
        ∃ replicas, c.digits.toInt (app.parameter "replicas" "3") = some replicas ∧
          action = scaleOf alert app replicas := by
  unfold scaleActionFromAppDecision
  constructor
  · intro h
    obtain ⟨⟨⟩, h₁, h⟩ := bind_eq_ok h
    obtain ⟨⟨⟩, h₂, h⟩ := bind_eq_ok h
    refine ⟨not_not.1 (rejectIf_eq_ok.1 h₁), by simpa using rejectIf_eq_ok.1 h₂, ?_⟩
    rcases hint : c.digits.toInt (app.parameter "replicas" "3") with _ | replicas
    · rw [hint] at h
      cases h
    · rw [hint] at h
      exact ⟨replicas, rfl, (Except.ok.inj h).symm⟩
  · rintro ⟨h₁, h₂, replicas, hint, rfl⟩
    have hdecimal : ¬c.digits.isDecimal (app.parameter "replicas" "3") = false := by simp [h₂]
    simp only [rejectIf_eq_ok.2 (not_not.2 h₁), rejectIf_eq_ok.2 hdecimal, hint, bind, Except.bind,
      pure, Except.pure]

/-- **What a run hands over** after the provider: nothing, unless the agents agreed and the
application decision scales; then that scale-out, once. -/
theorem dispatched_decide {r : Except PyExn CommandResult}
    (h : (c.decide alert decisions).run j = (r, j')) :
    (j'.dispatched = j.dispatched ∧
        ¬(Agreed decisions ∧ ∃ app ∈ decisions, ∃ replicas, c.Scales alert app replicas)) ∨
      (Agreed decisions ∧ ∃ app ∈ decisions, ∃ replicas, c.Scales alert app replicas ∧
        ∃ route, c.executor.route (scaleOf alert app replicas).toRecoveryAction
            (renderScaleCommand (app.parameter "namespace" alert.ns)
              (app.parameter "deployment" alert.service) replicas) = .ok route ∧
          j'.dispatched =
            j.dispatched ++ [⟨(scaleOf alert app replicas).toRecoveryAction, route⟩]) := by
  unfold AutoGenGroupChatCoordinator.decide at h
  rcases hordered : orderDecisions decisions with exc | ordered
  · rw [hordered, Eff.run_bind, Eff.run_ofExcept] at h
    obtain ⟨-, rfl⟩ := Prod.mk.inj h
    refine .inl ⟨rfl, fun hcarried => ?_⟩
    rw [orderDecisions_eq_ok.2 ⟨hcarried.1.one_each, rfl⟩] at hordered
    cases hordered
  obtain ⟨hperm, -⟩ := orderDecisions_eq_ok.1 hordered
  have hnodup : (decisions.map (·.agent)).Nodup := hperm.nodup_iff.2 nodup_autogenAgentNames
  rw [hordered, Eff.run_bind, Eff.run_ofExcept] at h
  by_cases hall : ordered.all (·.approved) = true
  case neg =>
    refine .inl ⟨dispatched_call (by simpa [hall] using h), fun hcarried => hall ?_⟩
    exact List.all_eq_true.2 fun d hd => hcarried.1.approved d ((mem_orderDecisions hordered).1 hd)
  have hagreed : Agreed decisions := ⟨hperm, fun d hd =>
    List.all_eq_true.1 hall d ((mem_orderDecisions hordered).2 hd)⟩
  simp only [hall, not_true_eq_false, if_false] at h
  rcases hfind : findDecision ordered applicationAgent with exc | app
  · rw [hfind, Eff.run_bind, Eff.run_ofExcept] at h
    obtain ⟨-, rfl⟩ := Prod.mk.inj h
    refine .inl ⟨rfl, ?_⟩
    rintro ⟨-, app, happ, replicas, hscales⟩
    exact findDecision_eq_error hfind app ((mem_orderDecisions hordered).2 happ) hscales.agent
  obtain ⟨hmem, hagent⟩ := findDecision_eq_ok hfind
  have happ : app ∈ decisions := (mem_orderDecisions hordered).1 hmem
  -- any decision that scales is this one
  have honly : ∀ app' ∈ decisions, ∀ n, c.Scales alert app' n → app' = app := fun app' h' n hs =>
    List.inj_on_of_nodup_map hnodup h' happ (hs.agent.trans hagent.symm)
  rw [hfind, Eff.run_bind, Eff.run_ofExcept] at h
  rcases haction : scaleActionFromAppDecision c.digits alert app with exc | action
  · simp only [haction, Eff.run_bind, Eff.run_ofExcept] at h
    obtain ⟨-, rfl⟩ := Prod.mk.inj h
    refine .inl ⟨rfl, ?_⟩
    rintro ⟨-, app', happ', replicas, hscales⟩
    obtain rfl := honly app' happ' replicas hscales
    rw [scaleAction_eq_ok.2 ⟨hscales.action, hscales.isDecimal, replicas, hscales.stated, rfl⟩]
      at haction
    cases haction
  obtain ⟨hkind, hdecimal, replicas, hstated, rfl⟩ := scaleAction_eq_ok.1 haction
  simp only [haction, Eff.run_bind, Eff.run_ofExcept] at h
  -- what follows the executor hands nothing over
  have hexecuted : ∃ r₁ j₁, (c.executor.executeScale (scaleOf alert app replicas)).run j = (r₁, j₁) ∧
      j'.dispatched = j₁.dispatched := by
    rcases hrun : (c.executor.executeScale (scaleOf alert app replicas)).run j with ⟨exc | result, j₁⟩
    · rw [hrun] at h
      obtain ⟨-, rfl⟩ := Prod.mk.inj h
      exact ⟨_, _, rfl, rfl⟩
    · rw [hrun] at h
      refine ⟨_, _, rfl, ?_⟩
      rcases Eff.run_bind_cases h with ⟨_, hmetadata, -⟩ | ⟨_, j₂, hmetadata, hpure⟩
      · exact dispatched_call hmetadata
      · obtain ⟨-, rfl⟩ := Prod.mk.inj hpure
        exact dispatched_call hmetadata
  obtain ⟨r₁, j₁, hrun, hsame⟩ := hexecuted
  rcases dispatched_executeScale hrun with ⟨⟨exc, hrejected⟩, hj⟩ | ⟨haccepted, route, hroute, hj⟩
  · refine .inl ⟨hsame.trans hj, ?_⟩
    rintro ⟨-, app', happ', n, hscales⟩
    obtain rfl := honly app' happ' n hscales
    obtain rfl : replicas = n := Option.some.inj (hstated.symm.trans hscales.stated)
    rw [hscales.accepted] at hrejected
    cases hrejected
  · exact .inr ⟨hagreed, app, happ, replicas, ⟨hagent, hkind, hdecimal, hstated, haccepted⟩, route,
      hroute, hsame.trans hj⟩

/-- **When a run hands over only what it may**: for decisions that were parsed from messages, the
commands of a run are authorised exactly when an application decision that is carried out names
the alerted workload. -/
theorem run_authorised_iff {py : Python} {schema : DecisionSchema}
    {provider : AlertEvent → Eff σ PyExn (List AgentDecision)} {env env' : σ}
    (hprovider : c.decisionProvider = some provider)
    (hreturns : (provider alert).run env = (.ok decisions, env'))
    (hparsed : ∀ d ∈ decisions, d.IsParsed py schema) :
    (∀ d ∈ ((c.run alert).run (.start env)).2.dispatched, c.Authorised alert decisions d) ↔
      c.NamesAlerted alert decisions := by
  have hrun : (c.run alert).run (.start env) = (c.decide alert decisions).run (.start env') := by
    unfold AutoGenGroupChatCoordinator.run
    rw [hprovider]
    simp only [Eff.run_bind, Journal.call, Eff.run_zoom, Journal.start, hreturns]
  rw [hrun]
  rcases hdecide : (c.decide alert decisions).run (.start env') with ⟨r, j'⟩
  have hparameters : ∀ app ∈ decisions, ∃ ns deployment replicas, app.parameters =
      [("namespace", ns), ("deployment", deployment), ("replicas", replicas)] := fun app happ =>
    (hparsed app happ).parameters_eq
  rcases dispatched_decide hdecide with ⟨hnone, hcarried⟩ |
    ⟨hagreed, app, happ, replicas, hscales, route, hroute, hone⟩
  · constructor
    · rintro - hagreed app happ ⟨replicas, hscales⟩
      exact absurd ⟨hagreed, app, happ, replicas, hscales⟩ hcarried
    · intro _ d hd
      rw [show j'.dispatched = [] from hnone] at hd
      cases hd
  · obtain ⟨ns, deployment, text, hparams⟩ := hparameters app happ
    have hns : app.parameter "namespace" alert.ns = ns := by
      rw [AgentDecision.parameter, hparams]
      rfl
    have hdeployment : app.parameter "deployment" alert.service = deployment := by
      rw [AgentDecision.parameter, hparams]
      rfl
    have hlookup : app.parameters.lookup "namespace" = some ns ∧
        app.parameters.lookup "deployment" = some deployment := by
      rw [hparams]
      exact ⟨rfl, rfl⟩
    have hnodup : (decisions.map (·.agent)).Nodup :=
      hagreed.one_each.nodup_iff.2 nodup_autogenAgentNames
    have hdispatched : ∀ d, d ∈ j'.dispatched ↔
        d = ⟨(scaleOf alert app replicas).toRecoveryAction, route⟩ := fun d => by
      rw [hone]
      exact List.mem_singleton
    constructor
    · rintro hauthorised - app' happ' ⟨n, hscales'⟩
      obtain rfl : app' = app := List.inj_on_of_nodup_map hnodup happ' happ
        (hscales'.agent.trans hscales.agent.symm)
      have hd := hauthorised _ ((hdispatched _).2 rfl)
      rw [hlookup.1, hlookup.2, ← hns, ← hdeployment]
      exact ⟨congrArg some hd.ns, congrArg some hd.deployment⟩
    · intro hnames d hd
      obtain rfl := (hdispatched d).1 hd
      obtain ⟨h₁, h₂⟩ := hnames hagreed app happ ⟨replicas, hscales⟩
      have hns' : app.parameter "namespace" alert.ns = alert.ns := by
        rw [AgentDecision.parameter, h₁, Option.getD_some]
      have hdeployment' : app.parameter "deployment" alert.service = alert.service := by
        rw [AgentDecision.parameter, h₂, Option.getD_some]
      refine ⟨hagreed, ⟨app, happ, replicas, hscales, rfl, rfl⟩, hns', hdeployment', replicas, rfl, ?_⟩
      rwa [hns', hdeployment'] at hroute

end Run

/-- The fields of a decision that has them all, as the structured schema reads them. -/
def fieldSchema : DecisionSchema := fun fields =>
  match Json.get fields "agent", Json.get fields "action", Json.get fields "reward",
    Json.get fields "approved", Json.get fields "reason", Json.get fields "parameters" with
  | .str agent, .str action, .float (.finite reward), .bool approved, .str reason,
      .obj parameters =>
    match Json.get parameters "namespace", Json.get parameters "deployment",
      Json.get parameters "replicas" with
    | .str ns, .str deployment, .str replicas =>
        .ok ⟨agent, action, reward, approved, reason, ns, deployment, replicas⟩
    | _, _, _ => .error "parameters"
  | _, _, _, _, _, _ => .error "payload"

/-- The parameters of a message. -/
def parameterFields (ns deployment replicas : String) : List (String × Json) :=
  [("namespace", .str ns), ("deployment", .str deployment), ("replicas", .str replicas)]

/-- An approving message of an agent. -/
def approval (agent action ns deployment replicas : String) : List (String × Json) :=
  [("agent", .str agent), ("action", .str action), ("reward", .number 1),
    ("approved", .bool true), ("reason", .str "saturation"),
    ("parameters", .obj (parameterFields ns deployment replicas))]

/-- An approving decision of an agent. -/
def approving (agent action ns deployment replicas : String) : AgentDecision :=
  ⟨agent, action, .finite 1, true, "saturation",
    [("namespace", ns), ("deployment", deployment), ("replicas", replicas)]⟩

/-- An approving message is parsed to the approving decision. -/
theorem approving_isParsed {agent action : String} (ns deployment replicas : String)
    (hagent : normalizeAgentName agent = agent)
    (haction : ((autogenActionApproval.lookup agent).getD []).lookup action = some true) :
    (approving agent action ns deployment replicas).IsParsed Python.ascii fieldSchema := by
  refine ⟨.value (.obj (approval agent action ns deployment replicas)), agent, ?_⟩
  have hfields : normalizedParameters Python.ascii (parameterFields ns deployment replicas)
      = parameterFields ns deployment replicas := rfl
  have hnormalized : normalizedPayload Python.ascii (approval agent action ns deployment replicas)
      = .ok (approval agent action ns deployment replicas) := by
    have hlong : Json.hasLongField (parameterFields ns deployment replicas) = false := rfl
    have hget : Json.get (approval agent action ns deployment replicas) "parameters"
        = .obj (parameterFields ns deployment replicas) := rfl
    simp only [normalizedPayload, hget, hlong, hfields]
    rfl
  have hschema : fieldSchema (approval agent action ns deployment replicas)
      = .ok ⟨agent, action, 1, true, "saturation", ns, deployment, replicas⟩ := rfl
  have hcheck : checkDecision ⟨agent, action, 1, true, "saturation", ns, deployment, replicas⟩ agent
      = .ok () := by
    simp only [checkDecision, hagent, haction, ne_eq, not_true_eq_false, rejectIf_eq_ok.2 not_false,
      bind, Except.bind]
  have hdict : payloadToDict Python.ascii (.value (.obj (approval agent action ns deployment replicas)))
      = .ok (approval agent action ns deployment replicas) := rfl
  simp only [parseAutogenDecision, hdict, hnormalized, hschema, hcheck, hagent, bind, Except.bind,
    pure, Except.pure]
  rfl

/-- Four approvals; the application agent scales the deployment to four replicas. -/
def scaleDecisions (deployment : String) : List AgentDecision :=
  [approving "AIServiceHASupportAgent" "ha_scale_out_required" "" "" "",
    approving "AIApplicationManagementAgent" "app_scale_deployment" "prod" deployment "4",
    approving "AISemiconductorInfraOpsAgent" "infra_capacity_approved" "" "" "",
    approving "CostOptimizationAgent" "cost_budget_approved" "" "" ""]

theorem scaleDecisions_isParsed (deployment : String) :
    ∀ d ∈ scaleDecisions deployment, d.IsParsed Python.ascii fieldSchema := by
  simp only [scaleDecisions, List.forall_mem_cons]
  refine ⟨?_, ?_, ?_, ?_, by simp⟩
  · exact approving_isParsed _ _ _ (by decide +kernel) (by decide)
  · exact approving_isParsed _ _ _ (by decide +kernel) (by decide)
  · exact approving_isParsed _ _ _ (by decide +kernel) (by decide)
  · exact approving_isParsed _ _ _ (by decide +kernel) (by decide)

/-- A coordinator in mock mode whose allowlist has two deployments. -/
def twoDeployments (deployment : String) : AutoGenGroupChatCoordinator Unit where
  executor :=
    { validator := ⟨["prod"], ["web", "db"], 1, 5⟩
      mode := .mock
      backend := .python
      runner := fun _ => pure (0, "", "")
      goGuard := fun _ _ => pure (emptyResult "mock" "") }
  decisionProvider := some fun _ => pure (scaleDecisions deployment)
  includeTranscript := false
  transcriptLines := pure []
  digits := Decimals.ascii
  rewardTexts := ⟨fun _ => "", fun _ => ""⟩

/-- An alert about the deployment `web`. -/
def webAlert : AlertEvent := ⟨"prod", "web", "cpu", .finite 95, .finite 80, "cpu is high"⟩

/-- For the decisions about the alerted deployment the equivalence applies. -/
theorem run_authorised_iff_web :
    (∀ d ∈ (((twoDeployments "web").run webAlert).run (.start ())).2.dispatched,
      (twoDeployments "web").Authorised webAlert (scaleDecisions "web") d) ↔
        (twoDeployments "web").NamesAlerted webAlert (scaleDecisions "web") :=
  run_authorised_iff rfl rfl (scaleDecisions_isParsed "web")

/-- **The agents are asked about `web` and the run scales `db`.** -/
theorem scalesOtherDeployment :
    (∀ d ∈ scaleDecisions "db", d.IsParsed Python.ascii fieldSchema) ∧
      ¬∀ d ∈ (((twoDeployments "db").run webAlert).run (.start ())).2.dispatched,
        (twoDeployments "db").Authorised webAlert (scaleDecisions "db") d := by
  refine ⟨scaleDecisions_isParsed "db", fun hauthorised => ?_⟩
  have hscaled : (((twoDeployments "db").run webAlert).run (.start ())).2.dispatched.map
      (·.action.deployment) = ["db"] := by decide +kernel
  obtain ⟨d, hd, hdb⟩ := List.mem_map.1 (hscaled ▸ List.mem_singleton.2 rfl)
  have hweb := (hauthorised d hd).deployment
  rw [hdb] at hweb
  exact absurd hweb (by decide)

end AutoGenGroupChatCoordinator
end Agents
end AiopsK8s
