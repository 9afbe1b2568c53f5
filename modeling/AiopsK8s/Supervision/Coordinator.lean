/-
# The coordinator: its environment, its trace and a negotiation

`MutualSupervisionCoordinator` of `mutual_supervision.py`.  Everything the
coordinator calls but does not define (the adapters, the evidence provider, the
recovery monitor, the executor, the event store, the operation lock, the runtime
control) is a computation on a private state `σ` that returns anything or raises
anything.

A run keeps a *trace*: every event it records, in order, and in their place among
them the calls of the executor and what they returned.  The event store receives
the recorded events only; the trace is what the properties of a run are about.
-/

import AiopsK8s.Lib.Effect
import AiopsK8s.Supervision.Consensus
import AiopsK8s.Supervision.Normalize
import AiopsK8s.Supervision.Report
import AiopsK8s.Supervision.Validator

namespace AiopsK8s
namespace Supervision

open Effect

/-- What a run records (`_record`), and the calls of the executor. -/
inductive Event where
  | protocolProfile (runId : String) (identity : ProtocolIdentity) (strategy : ConsensusStrategy)
  | evidence (e : EvidenceSnapshot)
  | decision (d : SupervisionDecision)
  | peerReview (r : PeerReview)
  | negotiationRound (r : NegotiationRound)
  | safetyValidation (v : SafetyValidation)
  | dispatched (eventType actionId : String) (action : RecoveryAction)
  | executeRecovery (action : RecoveryAction)
  | executed (action : RecoveryAction) (result : CommandResult)
  | completed (eventType actionId : String) (action : RecoveryAction) (result : CommandResult)
  | postExecutionReview (r : PostExecutionReview)
  | agentContribution (agent : String) (c : Contribution)
  deriving Repr

/-- The streams of the event store, and `executor` for the two events that are
calls of the executor. -/
inductive Stream where
  | protocolProfiles
  | evidence
  | initialDecisions
  | peerReviews
  | negotiationRounds
  | safetyValidations
  | executedActions
  | executor
  | postExecutionReviews
  | agentContributions
  deriving DecidableEq, Repr

/-- The stream of an event. -/
def Event.stream : Event → Stream
  | protocolProfile .. => .protocolProfiles
  | evidence _ => .evidence
  | decision _ => .initialDecisions
  | peerReview _ => .peerReviews
  | negotiationRound _ => .negotiationRounds
  | safetyValidation _ => .safetyValidations
  | dispatched .. => .executedActions
  | executeRecovery _ => .executor
  | executed .. => .executor
  | completed .. => .executedActions
  | postExecutionReview _ => .postExecutionReviews
  | agentContribution .. => .agentContributions

/-- `AgentAdapter`.  An adapter without `begin_run` does nothing there. -/
structure AgentAdapter (σ : Type) where
  name : String
  runtime : String
  capabilities : List String
  beginRun : String → ProtocolIdentity → Eff σ PyExn Unit
  diagnose : EvidenceSnapshot → String → ℚ → Eff σ PyExn RawDiagnosisOutput
  propose : Diagnosis → EvidenceSnapshot → Eff σ PyExn RawProposal
  review : SupervisionDecision → EvidenceSnapshot → ReviewContext →
    Eff σ PyExn (RawReply RawReview)
  postReview : RecoveryAction → RecoveryAssessment → EvidenceSnapshot →
    Eff σ PyExn (RawReply RawPostReview)

/-- `ResearchEventSink`. -/
structure EventStore (σ : Type) where
  append : Event → Eff σ PyExn Unit
  deferFinalization : Bool
  finalize : Report → Eff σ PyExn (List (String × String))

/-- `MutualSupervisionCoordinator` after `__post_init__`: there is one adapter
for each enabled agent of the profile, in its order and with its name, runtime
and capabilities. -/
structure Coordinator (σ : Type) where
  validator : CommandValidator
  collect : String → String → Eff σ PyExn EvidenceSnapshot
  assess : RecoveryAction → EvidenceSnapshot → EvidenceSnapshot → CommandResult →
    Eff σ PyExn RecoveryAssessment
  executeRecovery : RecoveryAction → Eff σ PyExn CommandResult
  mode : ExecutionMode
  backend : ExecutionBackend
  eventStore : Option (EventStore σ)
  acquireLock : String → String → Eff σ PyExn Unit
  releaseLock : String → String → Eff σ PyExn Unit
  operationLockOwnedExternally : Bool
  runtimeControl : Option (Eff σ PyExn Unit)
  /-- The `sum` of floats that the interpreter has. -/
  sum : List PyFloat → PyFloat
  protocol : ResearchProtocolProfile
  adapters : List (AgentAdapter σ)
  registered : adapters.map (fun a => (a.name, a.runtime, a.capabilities)) =
    protocol.enabledAgents.map fun b => (b.name, b.runtime, b.capabilities)

/-- The state of a run: the environment's, the trace, and the number of
identifiers handed out. -/
structure RunState (σ : Type) where
  env : σ
  trace : List Event
  nextId : ℕ

/-- A step of a run. -/
abbrev Act (σ α : Type) : Type := Eff (RunState σ) PyExn α

/-- The state in which `run` is called. -/
def RunState.start {σ : Type} (env : σ) : RunState σ := ⟨env, [], 0⟩

/-- The state with one more event in its trace. -/
def RunState.push {σ : Type} (e : Event) (s : RunState σ) : RunState σ :=
  { s with trace := s.trace ++ [e] }

namespace Act

variable {σ α : Type}

/-- A call into the environment. -/
def call (m : Eff σ PyExn α) : Act σ α := fun s =>
  match m s.env with
  | (r, env) => (r, { s with env })

/-- `new_trace_id`. -/
def newTraceId (label : String) : Act σ String := fun s =>
  (.ok (traceId label s.nextId), { s with nextId := s.nextId + 1 })

/-- Note an event in the trace. -/
def note (e : Event) : Act σ Unit := Eff.modify (RunState.push e)

/-- The result of a check. -/
def ofExcept : Except PyExn α → Act σ α
  | .ok a => pure a
  | .error e => Eff.raise e

end Act

open Act

/-- The exception message of a failed review round, with the reviews collected
before it (`ReviewCollectionFailure`). -/
structure ReviewCollectionFailure where
  text : String
  reviews : List PeerReview

/-- `PostReviewFailure`. -/
structure PostReviewFailure where
  text : String
  reviews : List PostExecutionReview

/-- The decisions, reviews and rounds of a negotiation. -/
structure NegotiationTrace where
  decisions : List SupervisionDecision
  reviews : List PeerReview
  rounds : List NegotiationRound

/-- How one round of a negotiation ends. -/
inductive RoundOutcome where
  | settled (action : Option RecoveryAction) (t : NegotiationTrace)
  | revised (action : RecoveryAction) (t : NegotiationTrace)
  | failed (text : String) (t : NegotiationTrace)

/-- How a negotiation ends: `_negotiate` returns, or raises `NegotiationFailure`. -/
inductive NegotiationOutcome where
  | settled (action : Option RecoveryAction) (t : NegotiationTrace)
  | failed (text : String) (t : NegotiationTrace)

/-- `_evidence_refs`. -/
def evidenceRefs (evidence : EvidenceSnapshot) (signal : String) : List String :=
  ["evidence_source:" ++ evidence.source, "signal:" ++ signal,
    "desired_replicas:" ++ toString evidence.desiredReplicas,
    "available_replicas:" ++ toString evidence.availableReplicas]

/-- `_target_alignment_error`; the empty text is no error. -/
def targetAlignmentError (action : RecoveryAction) (ns deployment : String) : String :=
  if action.ns = ns ∧ action.deployment = deployment then ""
  else "target mismatch: expected " ++ ns ++ "/" ++ deployment ++ ", got " ++ action.ns ++ "/" ++
    action.deployment

/-- `_action_semantic_error`; the empty text is no error. -/
def actionSemanticError (action : RecoveryAction) (protocol : ResearchProtocolProfile)
    (evidence : EvidenceSnapshot) (ns deployment : String) : String :=
  if targetAlignmentError action ns deployment ≠ "" then
    targetAlignmentError action ns deployment
  else if action.kind ∉ protocol.actionSpace then
    action.kind.value ++ " action is outside the protocol action space"
  else if action.kind = .scaleOut then
    match action.replicas with
    | none => "scale_out replicas must be an integer"
    | some replicas =>
      if replicas ≤ evidence.desiredReplicas then
        "scale_out replicas must be strictly greater than observed desired replicas (" ++
          toString evidence.desiredReplicas ++ ")"
      else ""
  else ""

/-- **What an action without a semantic error satisfies.** -/
theorem actionSemanticError_eq_empty {action : RecoveryAction} {protocol : ResearchProtocolProfile}
    {evidence : EvidenceSnapshot} {ns deployment : String} :
    actionSemanticError action protocol evidence ns deployment = "" ↔
      (action.ns = ns ∧ action.deployment = deployment) ∧ action.kind ∈ protocol.actionSpace ∧
        (action.kind = .scaleOut →
          ∃ replicas, action.replicas = some replicas ∧ evidence.desiredReplicas < replicas) := by
  have htarget : targetAlignmentError action ns deployment = "" ↔
      action.ns = ns ∧ action.deployment = deployment := by
    unfold targetAlignmentError
    split <;> simp_all
  unfold actionSemanticError
  split
  · simp_all
  · split
    · simp_all
    · split
      · split
        · simp_all
        · split <;> simp_all
      · simp_all

/-- `_decision_scopes`. -/
def decisionScopes (action : RecoveryAction) : List String :=
  match action.kind with
  | .observeOnly => ["action_validity", "target_alignment", "availability"]
  | .rolloutRestart =>
    ["action_validity", "target_alignment", "availability", "recovery", "executability"]
  | .scaleOut =>
    ["action_validity", "target_alignment", "capacity", "resource_safety", "budget",
      "cost_efficiency"]

/-- `_candidate_confidence`. -/
def candidateConfidence (candidates : List RecoveryActionCandidate) (action : RecoveryAction) : ℚ :=
  match candidates.find? (·.action.kind == action.kind) with
  | some candidate => candidate.confidence
  | none => 1 / 2

/-- `_candidate_reward`. -/
def candidateReward (candidates : List RecoveryActionCandidate) (action : RecoveryAction) : ℚ :=
  match candidates.find? (·.action.kind == action.kind) with
  | some candidate => candidate.priority
  | none => 0

/-- `str` of an optional integer. -/
def optionalIntText : Option ℤ → String
  | none => "None"
  | some i => toString i

/-- `_apply_revisions`: the revised action and the notes, or the message of the
`AdapterOutputError`. -/
def applyRevisions (action : RecoveryAction) (reviews : List PeerReview) :
    Except PyExn (RecoveryAction × List String) :=
  match reviews.filterMap (·.suggestedAction) with
  | [] => .ok (action, [])
  | first :: rest =>
    match (first :: rest).find? (fun s => !decide (s.kind = action.kind)) with
    | some crossKind =>
      adapterOutputError ("cross-kind revision is not allowed: " ++ action.kind.value ++ "->" ++
        crossKind.kind.value)
    | none =>
      if action.kind = .scaleOut then
        match (first :: rest).mapM (·.replicas) with
        | some (n :: ns) =>
          let replicas := ns.foldl min n
          .ok ({ action with replicas := some replicas, reason := first.reason },
            ["replicas:" ++ optionalIntText action.replicas ++ "->" ++ toString replicas])
        | _ => adapterOutputError "scale_out revision replicas must be integers"
      else .ok (first, [action.kind.value ++ ":reviewer_revision"])

namespace Coordinator

variable {σ : Type} (c : Coordinator σ)

/-- `_check_runtime_control`. -/
def checkRuntimeControl : Act σ Unit :=
  match c.runtimeControl with
  | none => pure ()
  | some check => call check

/-- `_record`. -/
def record (e : Event) : Act σ Unit := do
  note e
  match c.eventStore with
  | none => pure ()
  | some store => call (store.append e)

/-- `_begin_adapter_run`. -/
def beginAdapterRun (runId : String) : Act σ Unit :=
  c.adapters.forM fun adapter => call (adapter.beginRun runId c.protocol.identity)

/-- `self.adapters.get(name)`. -/
def adapter? (name : String) : Option (AgentAdapter σ) := c.adapters.find? (·.name == name)

/-- `_single_adapter_for`. -/
def singleAdapterFor (capability : String) : Option (AgentAdapter σ) :=
  c.adapters.find? (·.capabilities.contains capability)

/-- `_required_capability_errors`. -/
def requiredCapabilityErrors : List String :=
  ["diagnose", "propose"].filterMap fun capability =>
    let found := (c.adapters.filter (·.capabilities.contains capability)).length
    if found = 1 then none
    else some ("expected exactly one active " ++ capability ++ " adapter; found " ++
      toString found)

/-- `_validate_action`. -/
def validateAction (action : RecoveryAction) : SafetyValidation :=
  match c.validator.validateRecoveryAction action >>= renderRecoveryCommand with
  | .ok command => ⟨true, command, ""⟩
  | .error e => ⟨false, "", e.text⟩

theorem validateAction_valid {action : RecoveryAction}
    (h : (c.validateAction action).valid = true) :
    c.validator.validateRecoveryAction action = .ok action := by
  unfold validateAction at h
  split at h
  · rename_i command hc
    obtain ⟨a, ha, -⟩ := bind_eq_ok hc
    rwa [CommandValidator.validateRecoveryAction_eq ha] at ha
  · cases h

/-- `_base_report`. -/
def baseReport (runId : String) (evidence : EvidenceSnapshot) (diagnosis : Diagnosis)
    (initialDecisions : List SupervisionDecision) (peerReviews : List PeerReview)
    (rounds : List NegotiationRound) (finalStatus : FinalStatus) (humanReviewRequired : Bool) :
    Report :=
  { valid := false
    mode := c.mode
    finalStatus
    runId
    policyVersion := c.protocol.version
    protocolProfile := c.protocol.identity
    activeAgents := c.adapters.map (·.name)
    agentRuntimes := c.adapters.map fun a => (a.name, a.runtime)
    agentContributions := c.adapters.map fun a => (a.name, .none)
    fallbackAction := c.protocol.fallbackAction
    configurationErrors := []
    evidence := some evidence
    diagnosis := some diagnosis
    initialDecisions
    peerReviews
    negotiation :=
      { roundCount := rounds.length
        rounds
        consensus := match rounds.getLast? with
          | some r => r.consensusStatus.value
          | none => "not_required"
        strategy := c.protocol.consensusStrategy.value }
    selectedAction := none
    safetyValidation := ⟨false, "", "no action validated"⟩
    executionResult := emptyResult c.mode.value "no action executed"
    recoveryMonitoring := .empty
    validatedActions := []
    executedActions := []
    postExecutionReviews := []
    replanningAttempts := []
    humanReviewRequired
    controller := mutualSupervisionControllerName (c.adapters.map (·.runtime))
    guardBackend := c.backend
    artifacts := [] }

/-- `_configuration_failure_report`. -/
def configurationFailureReport (runId : String) (errors : List String) : Report :=
  { valid := false
    mode := c.mode
    finalStatus := .safeStopped
    runId
    policyVersion := c.protocol.version
    protocolProfile := c.protocol.identity
    activeAgents := c.adapters.map (·.name)
    agentRuntimes := c.adapters.map fun a => (a.name, a.runtime)
    agentContributions := c.adapters.map fun a => (a.name, .none)
    fallbackAction := c.protocol.fallbackAction
    configurationErrors := errors
    evidence := none
    diagnosis := none
    initialDecisions := []
    peerReviews := []
    negotiation := ⟨0, [], "configuration_rejected", c.protocol.consensusStrategy.value⟩
    selectedAction := none
    safetyValidation := ⟨false, "", "required coordinator capability is unavailable"⟩
    executionResult :=
      emptyResult c.mode.value "required coordinator capability is unavailable"
    recoveryMonitoring := .empty
    validatedActions := []
    executedActions := []
    postExecutionReviews := []
    replanningAttempts := []
    humanReviewRequired := c.protocol.humanReviewOnFailure
    controller := mutualSupervisionControllerName (c.adapters.map (·.runtime))
    guardBackend := c.backend
    artifacts := [] }

/-- `_finalize_report`. -/
def finalizeReport (report : Report) : Act σ Report := do
  let contributions := agentContributions report (c.adapters.map (·.name))
  let report := { report with agentContributions := contributions }
  match c.eventStore with
  | none => pure report
  | some store => do
    contributions.forM fun entry => c.record (.agentContribution entry.1 entry.2)
    if store.deferFinalization then pure report
    else do
      let artifacts ← call (store.finalize report)
      pure { report with artifacts }

/-- One reviewer's turn in `_review_application_action`. -/
def reviewOnce (adapter : AgentAdapter σ) (runId : String) (roundIndex : ℕ)
    (decision : SupervisionDecision) (diagnosis : Diagnosis) (evidence : EvidenceSnapshot) :
    Act σ (Option PeerReview) := do
  let reply ← call (adapter.review decision evidence
    { runId, roundIndex, policyVersion := c.protocol.version, diagnosis })
  match reply with
  | .nothing => pure none
  | reply => do
    let reviewId ← newTraceId "review"
    let review ← ofExcept (normalizePeerReviewOutput adapter.name reply decision
      ⟨reviewId, runId, roundIndex, c.protocol.version⟩)
    pure (some review)

/-- The loop of `_review_application_action` over the reviewers that are left. -/
def collectReviews (runId : String) (roundIndex : ℕ) (decision : SupervisionDecision)
    (diagnosis : Diagnosis) (evidence : EvidenceSnapshot) :
    List String → List PeerReview → Act σ (Except ReviewCollectionFailure (List PeerReview))
  | [], reviews => pure (.ok reviews)
  | reviewer :: rest, reviews =>
    match (c.adapter? reviewer).filter (·.capabilities.contains "review") with
    | none => collectReviews runId roundIndex decision diagnosis evidence rest reviews
    | some adapter => do
      let outcome ← Eff.attempt PyExn.isException
        (c.reviewOnce adapter runId roundIndex decision diagnosis evidence)
      match outcome with
      | .error exc => pure (.error ⟨adapter.name ++ " review failed: " ++ exc.text, reviews⟩)
      | .ok none => collectReviews runId roundIndex decision diagnosis evidence rest reviews
      | .ok (some review) => do
        c.record (.peerReview review)
        collectReviews runId roundIndex decision diagnosis evidence rest (reviews ++ [review])

/-- `_review_application_action`. -/
def reviewApplicationAction (runId : String) (roundIndex : ℕ) (decision : SupervisionDecision)
    (diagnosis : Diagnosis) (evidence : EvidenceSnapshot) :
    Act σ (Except ReviewCollectionFailure (List PeerReview)) :=
  match decision.proposedAction with
  | none => pure (.ok [])
  | some _ =>
    c.collectReviews runId roundIndex decision diagnosis evidence
      ((c.protocol.reviewMatrix.lookup decision.agent).getD []) []

/-- The round that a negotiation records, with the fields in which the four
kinds of round differ. -/
def roundOf (runId : String) (roundIndex : ℕ) (decision : SupervisionDecision)
    (reviews : List PeerReview) (outcome : ConsensusOutcome) (scopes : List String)
    (status : ConsensusStatus) (revisions : List String) (selectedActionId : Option String)
    (reason : String) : NegotiationRound :=
  { runId
    roundIndex
    inputDecisionIds := [decision.decisionId]
    reviewIds := reviews.map (·.reviewId)
    revisions
    remainingVetoes := outcome.blockingVetoes
    remainingAbstentions := (reviews.filter (·.verdict == .abstain)).map (·.reviewer)
    consensusStatus := status
    selectedActionId
    decisionScopes := scopes
    consensusStrategy := outcome.strategy
    nonBlockingObjections := outcome.nonBlockingObjections
    consensusReason := reason }

/-- The revised action of a round that asks for a revision, checked against the
protocol and the evidence. -/
def reviseAction (action : RecoveryAction) (revisions : List PeerReview)
    (evidence : EvidenceSnapshot) : Except PyExn (RecoveryAction × List String) := do
  let (revised, notes) ← applyRevisions action revisions
  let error := actionSemanticError revised c.protocol evidence evidence.ns evidence.deployment
  if error = "" then .ok (revised, notes)
  else adapterOutputError ("revised action rejected: " ++ error)

/-- The second half of a round of `_negotiate`: the reviews are resolved. -/
def resolveRound (runId : String) (roundIndex : ℕ) (decision : SupervisionDecision)
    (action : RecoveryAction) (evidence : EvidenceSnapshot) (reviews : List PeerReview)
    (t : NegotiationTrace) : Act σ RoundOutcome := do
  let scopes := decisionScopes action
  let outcome := ConsensusResolver.resolve c.sum c.protocol reviews scopes
  let round := roundOf runId roundIndex decision reviews outcome scopes
  if outcome.approved = false then
    let result := round .rejected [] none outcome.reason
    c.record (.negotiationRound result)
    pure (.settled none { t with rounds := t.rounds ++ [result] })
  else if outcome.revisions ≠ [] then
    match c.reviseAction action outcome.revisions evidence with
    | .error exc => do
      let failure := round .revisionRejected ["rejected:" ++ exc.text] none exc.text
      c.record (.negotiationRound failure)
      pure (.failed exc.text { t with rounds := t.rounds ++ [failure] })
    | .ok (revised, notes) => do
      let result := round .revisionRequired notes none outcome.reason
      c.record (.negotiationRound result)
      pure (.revised revised { t with rounds := t.rounds ++ [result] })
  else do
    let actionId ← newTraceId "action"
    let result := round .approved [] (some actionId) outcome.reason
    c.record (.negotiationRound result)
    pure (.settled (some action) { t with rounds := t.rounds ++ [result] })

/-- The decision that opens a round of `_negotiate`. -/
def proposalDecision (decisionId runId : String) (roundIndex : ℕ) (proposalAgent : String)
    (diagnosis : Diagnosis) (evidence : EvidenceSnapshot)
    (candidates : List RecoveryActionCandidate) (action : RecoveryAction) : SupervisionDecision :=
  { decisionId
    runId
    roundIndex
    agent := proposalAgent
    decisionType := "recovery_action_proposal"
    proposedAction := some action
    approved := true
    reason := action.reason
    confidence := candidateConfidence candidates action
    evidenceRefs := evidenceRefs evidence diagnosis.cause
    reward := candidateReward candidates action
    policyVersion := c.protocol.version }

/-- One round of `_negotiate`. -/
def negotiateRound (runId proposalAgent : String) (diagnosis : Diagnosis)
    (evidence : EvidenceSnapshot) (candidates : List RecoveryActionCandidate) (roundIndex : ℕ)
    (action : RecoveryAction) (t : NegotiationTrace) : Act σ RoundOutcome := do
  let decisionId ← newTraceId "decision"
  let decision := c.proposalDecision decisionId runId roundIndex proposalAgent diagnosis evidence
    candidates action
  let t := { t with decisions := t.decisions ++ [decision] }
  c.record (.decision decision)
  let outcome ← c.reviewApplicationAction runId roundIndex decision diagnosis evidence
  match outcome with
  | .error failure => pure (.failed failure.text { t with reviews := t.reviews ++ failure.reviews })
  | .ok reviews =>
    c.resolveRound runId roundIndex decision action evidence reviews
      { t with reviews := t.reviews ++ reviews }

/-- The loop of `_negotiate`, with the number of rounds that are left. -/
def negotiateLoop (runId proposalAgent : String) (diagnosis : Diagnosis)
    (evidence : EvidenceSnapshot) (candidates : List RecoveryActionCandidate) :
    ℕ → ℕ → RecoveryAction → NegotiationTrace → Act σ NegotiationOutcome
  | 0, _, _, t => pure (.settled none t)
  | left + 1, roundIndex, action, t => do
    let outcome ← c.negotiateRound runId proposalAgent diagnosis evidence candidates roundIndex
      action t
    match outcome with
    | .settled selected t => pure (.settled selected t)
    | .failed text t => pure (.failed text t)
    | .revised revised t =>
      negotiateLoop runId proposalAgent diagnosis evidence candidates left (roundIndex + 1)
        revised t

/-- `_negotiate`. -/
def negotiate (runId : String) (diagnosis : Diagnosis) (evidence : EvidenceSnapshot)
    (candidates : List RecoveryActionCandidate) (roundOffset : ℕ) : Act σ NegotiationOutcome :=
  match candidates with
  | [] => pure (.settled none ⟨[], [], []⟩)
  | candidate :: _ =>
    match c.singleAdapterFor "propose" with
    | none => Eff.raise ⟨.other, ""⟩
    | some proposer =>
      c.negotiateLoop runId proposer.name diagnosis evidence candidates
        c.protocol.maxNegotiationRounds (roundOffset + 1) candidate.action ⟨[], [], []⟩

/-- One adapter's turn in `_post_execution_reviews`. -/
def postReviewOnce (adapter : AgentAdapter σ) (runId actionId : String) (action : RecoveryAction)
    (after : EvidenceSnapshot) (assessment : RecoveryAssessment) :
    Act σ (Option PostExecutionReview) := do
  let reply ← call (adapter.postReview action assessment after)
  match reply with
  | .nothing => pure none
  | reply => do
    let reviewId ← newTraceId "post-review"
    let review ← ofExcept (normalizePostReviewOutput adapter.name reply actionId
      ⟨reviewId, runId, 0, c.protocol.version⟩)
    pure (some review)

/-- The loop of `_post_execution_reviews` over the adapters that are left. -/
def postReviewLoop (runId actionId : String) (action : RecoveryAction)
    (after : EvidenceSnapshot) (assessment : RecoveryAssessment) :
    List (AgentAdapter σ) → List PostExecutionReview →
      Act σ (Except PostReviewFailure (List PostExecutionReview))
  | [], reviews => pure (.ok reviews)
  | adapter :: rest, reviews =>
    if adapter.capabilities.contains "post_review" then do
      let outcome ← Eff.attempt PyExn.isException
        (c.postReviewOnce adapter runId actionId action after assessment)
      match outcome with
      | .error exc => pure (.error ⟨adapter.name ++ " post_review failed: " ++ exc.text, reviews⟩)
      | .ok none => postReviewLoop runId actionId action after assessment rest reviews
      | .ok (some review) => do
        c.record (.postExecutionReview review)
        postReviewLoop runId actionId action after assessment rest (reviews ++ [review])
    else postReviewLoop runId actionId action after assessment rest reviews

/-- `_post_execution_reviews`. -/
def postExecutionReviews (runId actionId : String) (action : RecoveryAction)
    (after : EvidenceSnapshot) (assessment : RecoveryAssessment) :
    Act σ (Except PostReviewFailure (List PostExecutionReview)) :=
  c.postReviewLoop runId actionId action after assessment c.adapters []

end Coordinator
end Supervision
end AiopsK8s
