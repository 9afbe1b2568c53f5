/-
# The report of a run

`_base_report`, `_configuration_failure_report` and `_agent_contributions` of
`mutual_supervision.py`.  Every exit of a run starts from one of the two reports
and overwrites some of its fields; the contributions of the agents are computed
from the finished report.
-/

import AiopsK8s.Lib.Round
import AiopsK8s.Supervision.Protocol

namespace AiopsK8s
namespace Supervision

/-- The `final_status` of a report. -/
inductive FinalStatus where
  | safeStopped
  | noActionRequired
  | dryRunValidated
  | safeFailure
  | recovered
  | recoveredAfterReplan
  deriving DecidableEq, Repr

/-- The text of a `final_status`. -/
def FinalStatus.value : FinalStatus → String
  | safeStopped => "safe_stopped"
  | noActionRequired => "no_action_required"
  | dryRunValidated => "dry_run_validated"
  | safeFailure => "safe_failure"
  | recovered => "recovered"
  | recoveredAfterReplan => "recovered_after_replan"

/-- The `safety_validation` mapping. -/
structure SafetyValidation where
  valid : Bool
  command : String
  stderr : String
  deriving DecidableEq, Repr

/-- The `next_step` of a replanning attempt. -/
inductive NextStep where
  | tryNextCandidate
  | humanReviewRequired
  deriving DecidableEq, Repr

/-- An entry of `replanning_attempts`. -/
structure ReplanningAttempt where
  failedAction : RecoveryActionKind
  reason : String
  nextStep : NextStep
  deriving DecidableEq, Repr

/-- The `recovery_monitoring` mapping: empty, an assessment, or the note that a
dry run measures nothing. -/
inductive RecoveryMonitoring where
  | empty
  | assessed (a : RecoveryAssessment)
  | notMeasured (reason : String)
  deriving DecidableEq, Repr

/-- An entry of `agent_contributions`. -/
structure Contribution where
  decisions : ℕ
  approvals : ℕ
  revisions : ℕ
  vetoes : ℕ
  postReviews : ℕ
  reward : ℚ
  deriving DecidableEq, Repr

/-- The `negotiation` mapping. -/
structure Negotiation where
  roundCount : ℕ
  rounds : List NegotiationRound
  consensus : String
  strategy : String
  deriving DecidableEq, Repr

/-- The report that `run` returns; `{}` for an absent evidence, diagnosis or
action is `none`. -/
structure Report where
  valid : Bool
  mode : ExecutionMode
  finalStatus : FinalStatus
  runId : String
  policyVersion : String
  protocolProfile : ProtocolIdentity
  activeAgents : List String
  agentRuntimes : List (String × String)
  agentContributions : List (String × Contribution)
  fallbackAction : RecoveryActionKind
  configurationErrors : List String
  evidence : Option EvidenceSnapshot
  diagnosis : Option Diagnosis
  initialDecisions : List SupervisionDecision
  peerReviews : List PeerReview
  negotiation : Negotiation
  selectedAction : Option RecoveryAction
  safetyValidation : SafetyValidation
  executionResult : CommandResult
  recoveryMonitoring : RecoveryMonitoring
  validatedActions : List RecoveryAction
  executedActions : List RecoveryAction
  postExecutionReviews : List PostExecutionReview
  replanningAttempts : List ReplanningAttempt
  humanReviewRequired : Bool
  controller : String
  guardBackend : ExecutionBackend
  artifacts : List (String × String)
  deriving Repr

/-- `mutual_supervision_controller_name`. -/
def mutualSupervisionControllerName (runtimes : List String) : String :=
  if runtimes.all (· == "deterministic") then "mutual_supervision_deterministic"
  else if runtimes.all (· == "autogen-round-robin") then "mutual_supervision_autogen"
  else "mutual_supervision_hybrid"

/-- The contribution of an agent that did nothing. -/
def Contribution.none : Contribution := ⟨0, 0, 0, 0, 0, 0⟩

/-- The entry of one agent in `_agent_contributions`: its counts, and the mean
of its rewards and confidences. -/
def contribution (report : Report) (agent : String) : Contribution :=
  let decisions := report.initialDecisions.filter (·.agent == agent)
  let reviews := report.peerReviews.filter (·.reviewer == agent)
  let postReviews := report.postExecutionReviews.filter (·.agent == agent)
  let samples := decisions.map (·.reward) ++ reviews.map (·.confidence) ++
    postReviews.map (·.confidence)
  { decisions := decisions.length
    approvals := (reviews.filter (·.verdict == .approve)).length
    revisions := (reviews.filter (·.verdict == .revise)).length
    vetoes := (reviews.filter (·.verdict == .veto)).length
    postReviews := postReviews.length
    reward := if samples.isEmpty then 0 else Round.round6 (samples.sum / samples.length) }

/-- `_agent_contributions`. -/
def agentContributions (report : Report) (activeAgents : List String) :
    List (String × Contribution) :=
  activeAgents.map fun agent => (agent, contribution report agent)

end Supervision
end AiopsK8s
