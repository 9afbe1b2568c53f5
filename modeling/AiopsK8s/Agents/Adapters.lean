/-
# The deterministic adapters

The reviews of `DeterministicHAAdapter`, `DeterministicApplicationAdapter`,
`DeterministicInfrastructureAdapter` and `DeterministicCostAdapter` of `agent_adapters.py`.
Each is a function of the proposal, the evidence and the context.  The reviewing agents behind
the last two are those of `Agents.Candidates`, with any limits.

Only the cost adapter asks for a revision, and it always suggests its own limit
(`costReview_revise`), of which it never asks for a revision again.  What an adapter returns
passes the checks of the coordinator as it is (`normalize_raw`).
-/

import AiopsK8s.Agents.Candidates
import AiopsK8s.Supervision.Trace

namespace AiopsK8s
namespace Agents

open Effect Supervision

/-! ### The reviews -/

/-- `DeterministicHAAdapter.review`, of a context with a diagnosis. -/
def haReview (name : String) (decision : SupervisionDecision) (evidence : EvidenceSnapshot)
    (context : ReviewContext) : Option PeerReview :=
  match decision.proposedAction with
  | none => none
  | some _ =>
    let justified := decision.approved &&
      !(["no_action_required", "unknown_metric"].contains context.diagnosis.cause)
    some
      { reviewId := decision.decisionId ++ ":" ++ name
        runId := context.runId
        roundIndex := context.roundIndex
        reviewer := name
        targetAgent := decision.agent
        targetDecisionId := decision.decisionId
        verdict := if justified then .approve else .abstain
        reason := if justified then "Recovery action is justified by the HA diagnosis."
          else "HA evidence does not justify a recovery action."
        suggestedAction := none
        confidence := context.diagnosis.confidence
        evidenceRefs := ["evidence_source:" ++ evidence.source,
          "available_replicas:" ++ toString evidence.availableReplicas]
        policyVersion := context.policyVersion }

/-- `DeterministicApplicationAdapter.review`. -/
def applicationReview (name : String) (decision : SupervisionDecision)
    (evidence : EvidenceSnapshot) (context : ReviewContext) : Option PeerReview :=
  match decision.proposedAction with
  | none => none
  | some action =>
    let targetMatches := action.ns == evidence.ns && action.deployment == evidence.deployment
    some
      { reviewId := decision.decisionId ++ ":" ++ name
        runId := context.runId
        roundIndex := context.roundIndex
        reviewer := name
        targetAgent := decision.agent
        targetDecisionId := decision.decisionId
        verdict := if targetMatches then .approve else .veto
        reason := if targetMatches then "Action target matches the observed application."
          else "Action target does not match the observed application."
        suggestedAction := none
        confidence := 95 / 100
        evidenceRefs := ["namespace:" ++ evidence.ns, "deployment:" ++ evidence.deployment]
        policyVersion := context.policyVersion }

/-- `DeterministicInfrastructureAdapter.review`. -/
def infrastructureReview (agent : InfraAgent) (decision : SupervisionDecision)
    (evidence : EvidenceSnapshot) (context : ReviewContext) : Option PeerReview :=
  match decision.proposedAction with
  | none => none
  | some action =>
    let result := agent.review action
    some
      { reviewId := decision.decisionId ++ ":" ++ agent.name
        runId := context.runId
        roundIndex := context.roundIndex
        reviewer := agent.name
        targetAgent := decision.agent
        targetDecisionId := decision.decisionId
        verdict := if result.approved then .approve else .veto
        reason := result.reason
        suggestedAction := none
        confidence := if result.approved then 92 / 100 else 98 / 100
        evidenceRefs := ["desired_replicas:" ++ toString evidence.desiredReplicas,
          "infra_max_replicas:" ++ toString agent.maxRecommendedReplicas]
        policyVersion := context.policyVersion }

/-- The action that `DeterministicCostAdapter` suggests in place of a scale-out. -/
def costSuggestion (agent : CostAgent) (action : RecoveryAction) : RecoveryAction :=
  { action with
    replicas := some agent.maxCostSafeReplicas
    reason := action.reason ++ "; revised to satisfy cost replica policy" }

/-- The condition under which a rejected action is revised and not vetoed. -/
def canRevise (agent : CostAgent) (action : RecoveryAction) (evidence : EvidenceSnapshot) : Bool :=
  action.kind == .scaleOut &&
    match action.replicas with
    | none => false
    | some replicas =>
      1 ≤ agent.maxCostSafeReplicas && evidence.desiredReplicas < agent.maxCostSafeReplicas &&
        agent.maxCostSafeReplicas < replicas

/-- `DeterministicCostAdapter.review`. -/
def costReview (agent : CostAgent) (decision : SupervisionDecision) (evidence : EvidenceSnapshot)
    (context : ReviewContext) : Option PeerReview :=
  match decision.proposedAction with
  | none => none
  | some action =>
    let result := agent.review action
    let revise := !result.approved && canRevise agent action evidence
    some
      { reviewId := decision.decisionId ++ ":" ++ agent.name
        runId := context.runId
        roundIndex := context.roundIndex
        reviewer := agent.name
        targetAgent := decision.agent
        targetDecisionId := decision.decisionId
        verdict := if result.approved then .approve else if revise then .revise else .veto
        reason := result.reason
        suggestedAction := if revise then some (costSuggestion agent action) else none
        confidence := 91 / 100
        evidenceRefs := ["desired_replicas:" ++ toString evidence.desiredReplicas,
          "cost_max_replicas:" ++ toString agent.maxCostSafeReplicas]
        policyVersion := context.policyVersion }

/-! ### As the coordinator receives them -/

/-- A `RecoveryAction` before its checks. -/
def toRawAction (action : RecoveryAction) : RawAction where
  ns := .ofText action.ns
  deployment := .ofText action.deployment
  kind := .actionKind action.kind
  replicas := match action.replicas with
    | none => .data .null
    | some replicas => .data (.int replicas)
  reason := .ofText action.reason

/-- A `PeerReview` before its checks. -/
def toRawReview (r : PeerReview) : RawReview where
  reviewer := .ofText r.reviewer
  targetAgent := .ofText r.targetAgent
  targetDecisionId := .ofText r.targetDecisionId
  verdict := .verdict r.verdict
  reason := .ofText r.reason
  suggestedAction := match r.suggestedAction with
    | none => .nothing
    | some action => .action (toRawAction action)
  confidence := .ofNumber r.confidence
  evidenceRefs := r.evidenceRefs

/-- The reply of an adapter. -/
def toRawReply : Option PeerReview → RawReply RawReview
  | none => .nothing
  | some r => .review (toRawReview r)

/-- The adapter answers a request for a review with `review` and does nothing else there. -/
structure Reviews {σ : Type} (a : AgentAdapter σ) (name : String) (capabilities : List String)
    (review : SupervisionDecision → EvidenceSnapshot → ReviewContext → Option PeerReview) :
    Prop where
  name_eq : a.name = name
  capabilities_eq : a.capabilities = capabilities
  review_eq : ∀ decision evidence context,
    a.review decision evidence context = pure (toRawReply (review decision evidence context))

/-- The agents behind the deterministic adapters. -/
structure Panel where
  haAgent : String
  applicationAgent : String
  infraAgent : InfraAgent
  costAgent : CostAgent

variable {σ : Type}

/-- `DeterministicHAAdapter`. -/
def IsHAAdapter (panel : Panel) (a : AgentAdapter σ) : Prop :=
  Reviews a panel.haAgent ["diagnose", "review", "post_review"] (haReview panel.haAgent)

/-- `DeterministicApplicationAdapter`. -/
def IsApplicationAdapter (panel : Panel) (a : AgentAdapter σ) : Prop :=
  Reviews a panel.applicationAgent ["propose", "review", "post_review"]
    (applicationReview panel.applicationAgent)

/-- `DeterministicInfrastructureAdapter`. -/
def IsInfrastructureAdapter (panel : Panel) (a : AgentAdapter σ) : Prop :=
  Reviews a panel.infraAgent.name ["review", "post_review"] (infrastructureReview panel.infraAgent)

/-- `DeterministicCostAdapter`. -/
def IsCostAdapter (panel : Panel) (a : AgentAdapter σ) : Prop :=
  Reviews a panel.costAgent.name ["review", "post_review"] (costReview panel.costAgent)

/-- Every adapter of the coordinator is one of the four, and one of them proposes. -/
structure Deterministic (panel : Panel) (c : Coordinator σ) : Prop where
  adapters : ∀ a ∈ c.adapters, IsHAAdapter panel a ∨ IsApplicationAdapter panel a ∨
    IsInfrastructureAdapter panel a ∨ IsCostAdapter panel a
  proposes : ∃ a ∈ c.adapters, IsApplicationAdapter panel a

/-! ### What the adapters ask for -/

/-- A review that the coordinator can take over: it is about this decision, its confidence and
reason are in order, and what it suggests, if anything, is what the cost adapter suggests. -/
structure InOrder (panel : Panel) (evidence : EvidenceSnapshot) (action : RecoveryAction)
    (r : PeerReview) : Prop where
  confidence_mem : 0 ≤ r.confidence ∧ r.confidence ≤ 1
  reason_text : Text.isBlank r.reason = false
  suggested : ∀ s ∈ r.suggestedAction, s = costSuggestion panel.costAgent action
  revise : r.verdict = .revise →
    r.suggestedAction = some (costSuggestion panel.costAgent action) ∧
      canRevise panel.costAgent action evidence = true

theorem canRevise_iff {agent : CostAgent} {action : RecoveryAction} {evidence : EvidenceSnapshot} :
    canRevise agent action evidence = true ↔ action.kind = .scaleOut ∧
      ∃ replicas, action.replicas = some replicas ∧ 1 ≤ agent.maxCostSafeReplicas ∧
        evidence.desiredReplicas < agent.maxCostSafeReplicas ∧
        agent.maxCostSafeReplicas < replicas := by
  unfold canRevise
  cases action.replicas with
  | none => simp
  | some replicas => simp [and_assoc]

/-- **The limit is a fixed point**: what the cost adapter suggests it does not revise again. -/
theorem canRevise_costSuggestion {agent : CostAgent} {action : RecoveryAction}
    {evidence : EvidenceSnapshot} :
    canRevise agent (costSuggestion agent action) evidence = false := by
  rw [Bool.eq_false_iff, ne_eq, canRevise_iff]
  rintro ⟨-, replicas, h, -, -, hlt⟩
  obtain rfl : agent.maxCostSafeReplicas = replicas := Option.some.inj h
  omega

/-- The reason of a review of `reviewAction` is not blank. -/
theorem reviewAction_reason {name : String} {limit : ℤ} {t : ReviewTexts}
    (hother : ∀ kind : RecoveryActionKind, Text.isBlank (kind.value ++ t.otherPolicy) = false)
    (hmissing : Text.isBlank t.missing = false) (hexceeded : Text.isBlank t.exceeded = false)
    (hwithin : Text.isBlank t.within = false) (action : RecoveryAction) :
    Text.isBlank (reviewAction name limit t action).reason = false := by
  unfold reviewAction
  split
  · exact hother action.kind
  · split
    · exact hmissing
    · split
      · exact hexceeded
      · exact hwithin

theorem kind_text {s : String} (kind : RecoveryActionKind) :
    Text.isBlank (kind.value ++ s) = false :=
  Text.isBlank_append (by cases kind <;> decide)

theorem infra_reason (agent : InfraAgent) (action : RecoveryAction) :
    Text.isBlank (agent.review action).reason = false :=
  reviewAction_reason kind_text (by decide) (by decide) (by decide) action

theorem cost_reason (agent : CostAgent) (action : RecoveryAction) :
    Text.isBlank (agent.review action).reason = false :=
  reviewAction_reason kind_text (by decide) (by decide) (by decide) action

theorem haReview_inOrder (panel : Panel) (evidence : EvidenceSnapshot)
    (context : ReviewContext) {decision : SupervisionDecision} {action : RecoveryAction}
    (hconf : 0 ≤ context.diagnosis.confidence ∧ context.diagnosis.confidence ≤ 1)
    (haction : decision.proposedAction = some action) :
    ∃ r, haReview panel.haAgent decision evidence context = some r ∧
      (r.reviewer = panel.haAgent ∧ r.targetAgent = decision.agent ∧
        r.targetDecisionId = decision.decisionId) ∧ InOrder panel evidence action r := by
  unfold haReview
  rw [haction]
  refine ⟨_, rfl, ⟨rfl, rfl, rfl⟩, hconf, ?_, nofun, ?_⟩
  · dsimp only
    split <;> decide
  · dsimp only
    split <;> nofun

theorem applicationReview_inOrder (panel : Panel) (evidence : EvidenceSnapshot)
    (context : ReviewContext) {decision : SupervisionDecision} {action : RecoveryAction}
    (haction : decision.proposedAction = some action) :
    ∃ r, applicationReview panel.applicationAgent decision evidence context = some r ∧
      (r.reviewer = panel.applicationAgent ∧ r.targetAgent = decision.agent ∧
        r.targetDecisionId = decision.decisionId) ∧ InOrder panel evidence action r := by
  unfold applicationReview
  rw [haction]
  refine ⟨_, rfl, ⟨rfl, rfl, rfl⟩, by norm_num, ?_, nofun, ?_⟩
  · dsimp only
    split <;> decide
  · dsimp only
    split <;> nofun

theorem infrastructureReview_inOrder (panel : Panel) (evidence : EvidenceSnapshot)
    (context : ReviewContext) {decision : SupervisionDecision} {action : RecoveryAction}
    (haction : decision.proposedAction = some action) :
    ∃ r, infrastructureReview panel.infraAgent decision evidence context = some r ∧
      (r.reviewer = panel.infraAgent.name ∧ r.targetAgent = decision.agent ∧
        r.targetDecisionId = decision.decisionId) ∧ InOrder panel evidence action r := by
  unfold infrastructureReview
  rw [haction]
  refine ⟨_, rfl, ⟨rfl, rfl, rfl⟩, ?_, infra_reason _ _, nofun, ?_⟩
  · dsimp only
    split <;> norm_num
  · dsimp only
    split <;> nofun

theorem costReview_inOrder (panel : Panel) (evidence : EvidenceSnapshot)
    (context : ReviewContext) {decision : SupervisionDecision} {action : RecoveryAction}
    (haction : decision.proposedAction = some action) :
    ∃ r, costReview panel.costAgent decision evidence context = some r ∧
      (r.reviewer = panel.costAgent.name ∧ r.targetAgent = decision.agent ∧
        r.targetDecisionId = decision.decisionId) ∧ InOrder panel evidence action r := by
  unfold costReview
  rw [haction]
  refine ⟨_, rfl, ⟨rfl, rfl, rfl⟩, by norm_num, cost_reason _ _, ?_, ?_⟩
  · dsimp only
    split
    · rintro s h
      exact (Option.some.inj h).symm
    · nofun
  · dsimp only
    intro h
    split at h
    · cases h
    · split at h
      · rename_i hrevise
        rw [if_pos hrevise]
        exact ⟨rfl, (Bool.and_eq_true_iff.1 hrevise).2⟩
      · cases h

/-- **Every adapter of the panel answers, and its review is in order.** -/
theorem Deterministic.review_inOrder {panel : Panel} {c : Coordinator σ}
    (hc : Deterministic panel c) {a : AgentAdapter σ} (ha : a ∈ c.adapters)
    {decision : SupervisionDecision} (evidence : EvidenceSnapshot) (context : ReviewContext)
    {action : RecoveryAction}
    (hconf : 0 ≤ context.diagnosis.confidence ∧ context.diagnosis.confidence ≤ 1)
    (haction : decision.proposedAction = some action) :
    ∃ r, a.review decision evidence context = pure (.review (toRawReview r)) ∧
      (r.reviewer = a.name ∧ r.targetAgent = decision.agent ∧
        r.targetDecisionId = decision.decisionId) ∧ InOrder panel evidence action r := by
  rcases hc.adapters a ha with h | h | h | h
  · obtain ⟨r, hr, hmeta, hr'⟩ := haReview_inOrder panel evidence context hconf haction
    exact ⟨r, by rw [h.review_eq, hr]; rfl, by rwa [h.name_eq], hr'⟩
  · obtain ⟨r, hr, hmeta, hr'⟩ := applicationReview_inOrder panel evidence context haction
    exact ⟨r, by rw [h.review_eq, hr]; rfl, by rwa [h.name_eq], hr'⟩
  · obtain ⟨r, hr, hmeta, hr'⟩ := infrastructureReview_inOrder panel evidence context haction
    exact ⟨r, by rw [h.review_eq, hr]; rfl, by rwa [h.name_eq], hr'⟩
  · obtain ⟨r, hr, hmeta, hr'⟩ := costReview_inOrder panel evidence context haction
    exact ⟨r, by rw [h.review_eq, hr]; rfl, by rwa [h.name_eq], hr'⟩

/-! ### The checks of the coordinator -/

theorem requireOutputText_ofText {s label : String} (h : Text.isBlank s = false) :
    requireOutputText (.ofText s) label = .ok s := by
  simp [requireOutputText, PyValue.text?, PyValue.ofText, h]

theorem requireOutputConfidence_ofNumber {q : ℚ} {label : String} (h : 0 ≤ q ∧ q ≤ 1) :
    requireOutputConfidence (.ofNumber q) label = .ok q := by
  show (if 0 ≤ q ∧ q ≤ 1 then Except.ok q else adapterOutputError _) = Except.ok q
  rw [if_pos h]

/-- An action whose target is named passes the checks as it is. -/
theorem validate_toRawAction {name : String} {action : RecoveryAction}
    (hns : Text.isBlank action.ns = false) (hdeployment : Text.isBlank action.deployment = false) :
    validateRecoveryActionOutput name (toRawAction action) = .ok action := by
  have hreplicas : (toRawAction action).replicas.optionalInt? = some action.replicas := by
    cases h : action.replicas <;> simp [toRawAction, h, PyValue.optionalInt?]
  unfold validateRecoveryActionOutput
  rw [show (toRawAction action).ns = .ofText action.ns from rfl,
    show (toRawAction action).deployment = .ofText action.deployment from rfl,
    requireOutputText_ofText hns, requireOutputText_ofText hdeployment, hreplicas]
  rfl

/-- **A review that is in order passes the checks as it is**; the coordinator stamps it. -/
theorem normalize_raw {panel : Panel} {evidence : EvidenceSnapshot} {action : RecoveryAction}
    {name : String} {decision : SupervisionDecision} {r : PeerReview}
    (hmeta : r.reviewer = name ∧ r.targetAgent = decision.agent ∧
      r.targetDecisionId = decision.decisionId) (hr : InOrder panel evidence action r)
    (hns : Text.isBlank action.ns = false) (hdeployment : Text.isBlank action.deployment = false)
    (stamp : Stamp) :
    normalizePeerReviewOutput name (.review (toRawReview r)) decision stamp =
      .ok { r with
        reviewId := stamp.id
        runId := stamp.runId
        roundIndex := stamp.roundIndex
        policyVersion := stamp.policyVersion } := by
  obtain ⟨rfl, htarget, hid⟩ := hmeta
  have hsuggestion : (toRawReview r).suggestedAction.action? =
      some (r.suggestedAction.map toRawAction) := by
    cases h : r.suggestedAction <;> simp [toRawReview, h, RawSuggestion.action?]
  have hchecked : (r.suggestedAction.map toRawAction).mapM (validateRecoveryActionOutput r.reviewer) =
      .ok r.suggestedAction := by
    cases h : r.suggestedAction with
    | none => rfl
    | some s =>
        obtain rfl := hr.suggested s h
        have hs : validateRecoveryActionOutput r.reviewer
            (toRawAction (costSuggestion panel.costAgent action)) =
            .ok (costSuggestion panel.costAgent action) := validate_toRawAction hns hdeployment
        simp only [Option.map_some, Option.mapM_some, hs]
        rfl
  unfold normalizePeerReviewOutput
  simp only [RawReply.review?, requireSome, hsuggestion, hchecked, bind, Except.bind]
  rw [show (toRawReview r).reason = .ofText r.reason from rfl,
    show (toRawReview r).confidence = .ofNumber r.confidence from rfl,
    requireOutputText_ofText hr.reason_text, requireOutputConfidence_ofNumber hr.confidence_mem,
    show require ((toRawReview r).reviewer.text? = some r.reviewer) _ = .ok () from if_pos rfl,
    show require ((toRawReview r).targetAgent.text? = some decision.agent ∧
      (toRawReview r).targetDecisionId.text? = some decision.decisionId) _ = .ok () from
      if_pos ⟨congrArg some htarget, congrArg some hid⟩]
  simp only [← htarget, ← hid]
  rfl

end Agents
end AiopsK8s
