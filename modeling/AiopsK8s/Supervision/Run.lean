/-
# A run of the coordinator

`MutualSupervisionCoordinator.run` of `mutual_supervision.py`, in three parts.
`prepare` collects the evidence, has it diagnosed and filters the proposals;
`tryCandidate` is the body of the loop over the candidates; `replanLoop` is the
loop.  A body that executes `continue` returns `.proceed` with the variables of
the loop, one that executes `return` returns `.exit` with the exit it takes.
-/

import AiopsK8s.Supervision.Coordinator

namespace AiopsK8s
namespace Supervision

open Effect Act

/-- The variables of `run` that the loop reads and never writes. -/
structure RunContext where
  runId : String
  ns : String
  deployment : String
  evidence : EvidenceSnapshot
  diagnosis : Diagnosis

/-- The variables of `run` that the loop writes. -/
structure Progress where
  initialDecisions : List SupervisionDecision
  allReviews : List PeerReview
  allRounds : List NegotiationRound
  allPostReviews : List PostExecutionReview
  executedActions : List RecoveryAction
  lastValidation : SafetyValidation
  lastExecution : CommandResult
  lastAssessment : Option RecoveryAssessment
  lastAction : Option RecoveryAction
  replanningAttempts : List ReplanningAttempt

/-- The `return` statements of the loop body. -/
inductive Exit where
  | negotiationFailure
  | noConsensus
  | validationRejected
  | operationLockError
  | dryRunValidated
  | postReviewFailure
  | recovered
  deriving DecidableEq, Repr

/-- How the loop body ends. -/
inductive StepResult where
  | proceed (p : Progress)
  | exit (e : Exit) (report : Report)

/-- How the block under the operation lock ends. -/
inductive BlockResult where
  | dryRunRejected (execution : CommandResult)
  | dryRunReturned (report : Report)
  | observed (execution : CommandResult) (assessment : RecoveryAssessment)
      (reviews : Except PostReviewFailure (List PostExecutionReview))

/-- How the part before the loop ends. -/
inductive Prepared where
  | finished (report : Report)
  | ready (ctx : RunContext) (candidates : List RecoveryActionCandidate) (p : Progress)

/-- The filter of `run` over the proposed actions: the candidates, and an
attempt for each action that is dropped. -/
def selectCandidates (protocol : ResearchProtocolProfile) (evidence : EvidenceSnapshot)
    (diagnosis : Diagnosis) (ns deployment : String) :
    ℕ → List RecoveryAction → List RecoveryActionCandidate × List ReplanningAttempt
  | _, [] => ([], [])
  | index, action :: rest =>
    let (candidates, attempts) := selectCandidates protocol evidence diagnosis ns deployment
      (index + 1) rest
    let error := actionSemanticError action protocol evidence ns deployment
    if error = "" then
      ({ action, confidence := diagnosis.confidence, priority := max (1 - index / 10) 0 } ::
        candidates, attempts)
    else (candidates, ⟨action.kind, error, .humanReviewRequired⟩ :: attempts)

/-- The `next_step` of an attempt at a candidate. -/
def nextStep (candidateIndex maxAttempts : ℕ) : NextStep :=
  if candidateIndex + 1 < maxAttempts then .tryNextCandidate else .humanReviewRequired

/-- `a or b` of two texts. -/
def orText (a b : String) : String := if a = "" then b else a

namespace Coordinator

variable {σ : Type} (c : Coordinator σ)

/-- The diagnosis of `run`, inside its `try`. -/
def diagnoseOnce (adapter : AgentAdapter σ) (runId deployment metric : String) (threshold : ℚ)
    (evidence : EvidenceSnapshot) : Act σ (Diagnosis × SupervisionDecision) := do
  let result ← call (adapter.diagnose evidence metric threshold)
  let decisionId ← newTraceId "decision"
  let diagnosed ← ofExcept (normalizeDiagnosisOutput adapter.name result
    ⟨decisionId, runId, 0, c.protocol.version⟩ (evidenceRefs evidence metric) deployment)
  c.checkRuntimeControl
  pure diagnosed

/-- The proposal of `run`, inside its `try`. -/
def proposeOnce (adapter : AgentAdapter σ) (diagnosis : Diagnosis) (evidence : EvidenceSnapshot) :
    Act σ (List RecoveryAction) := do
  let result ← call (adapter.propose diagnosis evidence)
  let actions ← ofExcept (normalizeProposalOutput adapter.name result)
  c.checkRuntimeControl
  pure actions

/-- The variables of the loop before its first turn. -/
def initialProgress (decision : SupervisionDecision) (attempts : List ReplanningAttempt) :
    Progress :=
  { initialDecisions := [decision]
    allReviews := []
    allRounds := []
    allPostReviews := []
    executedActions := []
    lastValidation := ⟨false, "", "no action validated"⟩
    lastExecution := emptyResult c.mode.value "no action executed"
    lastAssessment := none
    lastAction := none
    replanningAttempts := attempts }

/-- The part of `run` from the approved diagnosis to the loop. -/
def prepareCandidates (ctx : RunContext) (decision : SupervisionDecision) : Act σ Prepared :=
  match c.singleAdapterFor "propose" with
  | none => Eff.raise ⟨.other, ""⟩
  | some adapter => do
    let outcome ← Eff.attempt PyExn.isException
      (c.proposeOnce adapter ctx.diagnosis ctx.evidence)
    match outcome with
    | .error exc => do
      let report := c.baseReport ctx.runId ctx.evidence ctx.diagnosis [decision] [] []
        .safeStopped c.protocol.humanReviewOnFailure
      let report ← c.finalizeReport
        { report with
          configurationErrors := [adapter.name ++ " propose failed: " ++ exc.text] }
      pure (.finished report)
    | .ok actions =>
      let (candidates, attempts) := selectCandidates c.protocol ctx.evidence ctx.diagnosis
        ctx.ns ctx.deployment 0 actions
      let attempts := if candidates.isEmpty then attempts
        else attempts.map ({ · with nextStep := .tryNextCandidate })
      pure (.ready ctx candidates (c.initialProgress decision attempts))

/-- The part of `run` from the collected evidence to the approved diagnosis. -/
def prepareDiagnosis (runId ns deployment metric : String) (threshold : ℚ)
    (evidence : EvidenceSnapshot) : Act σ Prepared :=
  match c.singleAdapterFor "diagnose" with
  | none => Eff.raise ⟨.other, ""⟩
  | some adapter => do
    let outcome ← Eff.attempt PyExn.isException
      (c.diagnoseOnce adapter runId deployment metric threshold evidence)
    match outcome with
    | .error exc => do
      let report := c.configurationFailureReport runId
        [adapter.name ++ " diagnose failed: " ++ exc.text]
      let report ← c.finalizeReport { report with evidence := some evidence }
      pure (.finished report)
    | .ok (diagnosis, decision) => do
      c.record (.decision decision)
      c.checkRuntimeControl
      if decision.approved = false then do
        let missing := decide (diagnosis.cause = "unknown_metric") &&
          (Json.get diagnosis.evidence "missing_evidence").truthy
        let report ← c.finalizeReport (c.baseReport runId evidence diagnosis [decision] [] []
          (if missing then .safeStopped else .noActionRequired)
          (missing && c.protocol.humanReviewOnFailure))
        pure (.finished report)
      else c.prepareCandidates ⟨runId, ns, deployment, evidence, diagnosis⟩ decision

/-- The part of `run` before the loop over the candidates. -/
def prepare (ns deployment metric : String) (threshold : ℚ) : Act σ Prepared := do
  c.checkRuntimeControl
  let runId ← newTraceId "run"
  c.beginAdapterRun runId
  c.record (.protocolProfile runId c.protocol.identity c.protocol.consensusStrategy)
  if c.requiredCapabilityErrors ≠ [] then do
    let report ← c.finalizeReport
      (c.configurationFailureReport runId c.requiredCapabilityErrors)
    pure (.finished report)
  else do
    c.checkRuntimeControl
    let evidence ← call (c.collect ns deployment)
    c.checkRuntimeControl
    c.record (.evidence evidence)
    c.prepareDiagnosis runId ns deployment metric threshold evidence

/-- `with self._operation_context(namespace, deployment)`. -/
def withOperationContext {α : Type} (ns deployment : String) (body : Act σ α) : Act σ α :=
  if c.mode ≠ .real ∨ c.operationLockOwnedExternally = true then body
  else do
    call (c.acquireLock ns deployment)
    Eff.ensuring body (call (c.releaseLock ns deployment))

/-- The report of the loop body before its fields are overwritten. -/
def stepReport (ctx : RunContext) (p : Progress) (finalStatus : FinalStatus)
    (humanReviewRequired : Bool) : Report :=
  c.baseReport ctx.runId ctx.evidence ctx.diagnosis p.initialDecisions p.allReviews p.allRounds
    finalStatus humanReviewRequired

/-- The report of a validated dry run. -/
def dryRunReport (ctx : RunContext) (p : Progress) (action : RecoveryAction)
    (validation : SafetyValidation) (execution : CommandResult) : Report :=
  { c.stepReport ctx p .dryRunValidated false with
    valid := true
    selectedAction := some action
    safetyValidation := validation
    executionResult := execution
    recoveryMonitoring :=
      .notMeasured "dry-run validates the bounded command without mutating Kubernetes"
    validatedActions := [action]
    executedActions := []
    postExecutionReviews := []
    replanningAttempts := p.replanningAttempts }

/-- The `event_type` of an event of an execution. -/
def eventType (stage : String) : String :=
  (if c.mode = .dryRun then "validation_" else "execution_") ++ stage

/-- The block of the loop body under the operation lock. -/
def performAction (ctx : RunContext) (p : Progress) (action : RecoveryAction)
    (validation : SafetyValidation) (actionId : String) : Act σ BlockResult := do
  c.record (.dispatched (c.eventType "dispatched") actionId action)
  note (.executeRecovery action)
  let execution ← call (c.executeRecovery action)
  note (.executed action execution)
  c.checkRuntimeControl
  c.record (.completed (c.eventType "completed") actionId action execution)
  if c.mode = .dryRun then
    if execution.valid = false then pure (.dryRunRejected execution)
    else do
      let report ← c.finalizeReport (c.dryRunReport ctx p action validation execution)
      pure (.dryRunReturned report)
  else do
    let after ← call (c.collect ctx.ns ctx.deployment)
    let assessment ← call (c.assess action ctx.evidence after execution)
    let reviews ← c.postExecutionReviews ctx.runId actionId action after assessment
    pure (.observed execution assessment reviews)

/-- The report of an exit that has seen a whole attempt. -/
def attemptReport (ctx : RunContext) (p : Progress) (finalStatus : FinalStatus)
    (humanReviewRequired : Bool) (action : RecoveryAction) (validation : SafetyValidation)
    (execution : CommandResult) (assessment : RecoveryAssessment) : Report :=
  { c.stepReport ctx p finalStatus humanReviewRequired with
    selectedAction := some action
    safetyValidation := validation
    executionResult := execution
    recoveryMonitoring := .assessed assessment
    executedActions := p.executedActions
    postExecutionReviews := p.allPostReviews
    replanningAttempts := p.replanningAttempts }

/-- The end of the loop body, after the block under the operation lock. -/
def concludeAttempt (ctx : RunContext) (maxAttempts candidateIndex : ℕ) (p : Progress)
    (action : RecoveryAction) (validation : SafetyValidation) :
    Except PyExn BlockResult → Act σ StepResult
  | .error exc => do
    let report ← c.finalizeReport
      { c.stepReport ctx p .safeStopped true with
        selectedAction := some action
        safetyValidation := validation
        executionResult := emptyResult c.mode.value exc.text }
    pure (.exit .operationLockError report)
  | .ok (.dryRunRejected execution) =>
    pure (.proceed
      { p with
        lastExecution := execution
        replanningAttempts := p.replanningAttempts ++
          [⟨action.kind, orText execution.stderr "dry-run validation failed",
            nextStep candidateIndex maxAttempts⟩] })
  | .ok (.dryRunReturned report) => pure (.exit .dryRunValidated report)
  | .ok (.observed execution assessment reviews) => do
    let p := { p with
      lastExecution := execution
      executedActions := if execution.valid then p.executedActions ++ [action]
        else p.executedActions
      lastAssessment := some assessment }
    match reviews with
    | .error failure => do
      let p := { p with allPostReviews := p.allPostReviews ++ failure.reviews }
      let report ← c.finalizeReport
        { c.attemptReport ctx p .safeFailure c.protocol.humanReviewOnFailure action validation
            execution assessment with
          configurationErrors := [failure.text] }
      pure (.exit .postReviewFailure report)
    | .ok postReviews => do
      let p := { p with allPostReviews := p.allPostReviews ++ postReviews }
      if execution.valid && assessment.recoverySuccess && postReviews.all (·.approved) then do
        let report ← c.finalizeReport
          { c.attemptReport ctx p (if candidateIndex = 0 then .recovered else .recoveredAfterReplan)
              false action validation execution assessment with
            valid := true }
        pure (.exit .recovered report)
      else
        pure (.proceed
          { p with
            replanningAttempts := p.replanningAttempts ++
              [⟨action.kind, orText assessment.remainingProblem
                (orText execution.stderr "post-execution review rejected recovery"),
                nextStep candidateIndex maxAttempts⟩] })

/-- The loop body from the selected action on. -/
def tryAction (ctx : RunContext) (maxAttempts candidateIndex : ℕ) (p : Progress)
    (action : RecoveryAction) : Act σ StepResult := do
  let error := actionSemanticError action c.protocol ctx.evidence ctx.ns ctx.deployment
  if error ≠ "" then do
    let validation : SafetyValidation := ⟨false, "", error⟩
    c.record (.safetyValidation validation)
    pure (.proceed
      { p with
        lastAction := some action
        lastValidation := validation
        replanningAttempts := p.replanningAttempts ++
          [⟨action.kind, error, nextStep candidateIndex maxAttempts⟩] })
  else do
    let validation := c.validateAction action
    let p := { p with lastAction := some action, lastValidation := validation }
    c.record (.safetyValidation validation)
    c.checkRuntimeControl
    if validation.valid = false then do
      let report ← c.finalizeReport
        { c.stepReport ctx p .safeStopped true with
          selectedAction := some action
          safetyValidation := validation }
      pure (.exit .validationRejected report)
    else do
      let fallbackId ← newTraceId "action"
      let actionId := (p.allRounds.getLast?.bind (·.selectedActionId)).getD fallbackId
      let block ← Eff.attempt PyExn.isOperationLockError do
        c.checkRuntimeControl
        c.withOperationContext ctx.ns ctx.deployment
          (c.performAction ctx p action validation actionId)
      c.concludeAttempt ctx maxAttempts candidateIndex p action validation block

/-- The body of the loop over the candidates. -/
def tryCandidate (ctx : RunContext) (maxAttempts candidateIndex : ℕ) (p : Progress)
    (candidate : RecoveryActionCandidate) : Act σ StepResult := do
  let outcome ← c.negotiate ctx.runId ctx.diagnosis ctx.evidence [candidate] p.allRounds.length
  match outcome with
  | .failed text t => do
    let p := { p with
      initialDecisions := p.initialDecisions ++ t.decisions
      allReviews := p.allReviews ++ t.reviews
      allRounds := p.allRounds ++ t.rounds }
    let report ← c.finalizeReport
      { c.stepReport ctx p .safeStopped c.protocol.humanReviewOnFailure with
        configurationErrors := [text]
        replanningAttempts := p.replanningAttempts }
    pure (.exit .negotiationFailure report)
  | .settled selected t => do
    c.checkRuntimeControl
    let p := { p with
      initialDecisions := p.initialDecisions ++ t.decisions
      allReviews := p.allReviews ++ t.reviews
      allRounds := p.allRounds ++ t.rounds }
    match selected with
    | none => do
      let report ← c.finalizeReport
        { c.stepReport ctx p .safeStopped true with replanningAttempts := p.replanningAttempts }
      pure (.exit .noConsensus report)
    | some action => c.tryAction ctx maxAttempts candidateIndex p action

/-- The report after the loop. -/
def exhaustedReport (ctx : RunContext) (p : Progress) : Report :=
  { c.stepReport ctx p .safeFailure true with
    selectedAction := p.lastAction
    safetyValidation := p.lastValidation
    executionResult := p.lastExecution
    recoveryMonitoring := match p.lastAssessment with
      | some assessment => .assessed assessment
      | none => .empty
    executedActions := p.executedActions
    postExecutionReviews := p.allPostReviews
    replanningAttempts := p.replanningAttempts }

/-- The loop over the candidates that are left, and the report after it. -/
def replanLoop (ctx : RunContext) (maxAttempts : ℕ) :
    ℕ → List RecoveryActionCandidate → Progress → Act σ Report
  | _, [], p => c.finalizeReport (c.exhaustedReport ctx p)
  | index, candidate :: rest, p => do
    let step ← c.tryCandidate ctx maxAttempts index p candidate
    match step with
    | .exit _ report => pure report
    | .proceed p => replanLoop ctx maxAttempts (index + 1) rest p

/-- `candidates[:max_attempts]`. -/
def attempted (candidates : List RecoveryActionCandidate) : List RecoveryActionCandidate :=
  candidates.take (c.protocol.maxReplanAttempts + 1)

/-- `run`. -/
def run (ns deployment metric : String) (threshold : ℚ) : Act σ Report := do
  let prepared ← c.prepare ns deployment metric threshold
  match prepared with
  | .finished report => pure report
  | .ready ctx candidates p =>
    c.replanLoop ctx (c.attempted candidates).length 0 (c.attempted candidates) p

end Coordinator
end Supervision
end AiopsK8s
