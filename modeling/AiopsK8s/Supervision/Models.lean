/-
# The values of a supervised recovery

`models.py`, `mutual_supervision_models.py`, `evidence.py` and
`recovery_monitor.py`: the records that the coordinator, the agents and the
executor exchange.  A record here is one the coordinator has already checked,
so its fields have the declared types; what an adapter hands back before the
check is in `Supervision.Normalize`.

`float` fields are exact rationals and `int` fields are `ℤ` or, where the code
only counts, `ℕ`.
-/

import Mathlib.Algebra.Order.Ring.Rat
import AiopsK8s.Lib.Json

namespace AiopsK8s
namespace Supervision

/-- The exception classes that the coordinator tells apart; `base` stands for
the `BaseException`s that `except Exception` does not catch. -/
inductive ExceptionClass where
  | operationLock
  | cancelled
  | timeout
  | value
  | overflow
  | other
  | base
  deriving DecidableEq, Repr

/-- A raised exception: its class and `str(exc)`. -/
structure PyExn where
  cls : ExceptionClass
  text : String
  deriving DecidableEq, Repr

namespace PyExn

/-- `except Exception`. -/
def isException (e : PyExn) : Bool := e.cls != .base

/-- `except OperationLockError`. -/
def isOperationLockError (e : PyExn) : Bool := e.cls == .operationLock

/-- A `ValueError`, of which `AdapterOutputError` and `CommandValidationError`
are subclasses. -/
def valueError (text : String) : PyExn := ⟨.value, text⟩

end PyExn

/-- `RecoveryActionKind`. -/
inductive RecoveryActionKind where
  | observeOnly
  | rolloutRestart
  | scaleOut
  deriving DecidableEq, Repr

/-- `RecoveryActionKind.value`. -/
def RecoveryActionKind.value : RecoveryActionKind → String
  | observeOnly => "observe_only"
  | rolloutRestart => "rollout_restart"
  | scaleOut => "scale_out"

theorem RecoveryActionKind.value_inj {k l : RecoveryActionKind} (h : k.value = l.value) :
    k = l := by
  cases k <;> cases l <;> simp [RecoveryActionKind.value] at h ⊢

/-- `RecoveryAction`. -/
structure RecoveryAction where
  ns : String
  deployment : String
  kind : RecoveryActionKind
  replicas : Option ℤ
  reason : String
  deriving DecidableEq, Repr

/-- `RecoveryActionCandidate`, less the fields that nothing reads back. -/
structure RecoveryActionCandidate where
  action : RecoveryAction
  confidence : ℚ
  priority : ℚ
  deriving DecidableEq, Repr

/-- `Diagnosis`. -/
structure Diagnosis where
  service : String
  cause : String
  severity : String
  confidence : ℚ
  evidence : List (String × Json)
  deriving Repr

/-- `CommandResult`. -/
structure CommandResult where
  command : String
  mode : String
  valid : Bool
  stdout : String
  stderr : String
  metadata : List (String × String)
  deriving DecidableEq, Repr

/-- `_empty_result`. -/
def emptyResult (mode stderr : String) : CommandResult := ⟨"", mode, false, "", stderr, []⟩

/-- `EvidenceSnapshot`. -/
structure EvidenceSnapshot where
  ns : String
  deployment : String
  metricValues : List (String × ℚ)
  desiredReplicas : ℤ
  availableReplicas : ℤ
  restartCount : ℤ
  podStatuses : List String
  podIdentities : List String
  events : List String
  latencyMs : Option ℚ
  errorRate : Option ℚ
  logSummary : String
  source : String
  deriving DecidableEq, Repr

/-- `RecoveryAssessment`. -/
structure RecoveryAssessment where
  recoverySuccess : Bool
  metricImprovement : ℚ
  remainingProblem : String
  recoveryConfidence : ℚ
  replanningRequired : Bool
  deriving DecidableEq, Repr

/-- `ReviewVerdict`. -/
inductive ReviewVerdict where
  | approve
  | revise
  | veto
  | abstain
  deriving DecidableEq, Repr

/-- `ReviewVerdict.value`. -/
def ReviewVerdict.value : ReviewVerdict → String
  | approve => "approve"
  | revise => "revise"
  | veto => "veto"
  | abstain => "abstain"

/-- `SupervisionDecision`. -/
structure SupervisionDecision where
  decisionId : String
  runId : String
  roundIndex : ℕ
  agent : String
  decisionType : String
  proposedAction : Option RecoveryAction
  approved : Bool
  reason : String
  confidence : ℚ
  evidenceRefs : List String
  reward : ℚ
  policyVersion : String
  deriving DecidableEq, Repr

/-- `PeerReview`. -/
structure PeerReview where
  reviewId : String
  runId : String
  roundIndex : ℕ
  reviewer : String
  targetAgent : String
  targetDecisionId : String
  verdict : ReviewVerdict
  reason : String
  suggestedAction : Option RecoveryAction
  confidence : ℚ
  evidenceRefs : List String
  policyVersion : String
  deriving DecidableEq, Repr

/-- The `consensus_status` of a round. -/
inductive ConsensusStatus where
  | approved
  | rejected
  | revisionRejected
  | revisionRequired
  deriving DecidableEq, Repr

/-- The text of a `consensus_status`. -/
def ConsensusStatus.value : ConsensusStatus → String
  | approved => "approved"
  | rejected => "rejected"
  | revisionRejected => "revision_rejected"
  | revisionRequired => "revision_required"

/-- `NegotiationRound`. -/
structure NegotiationRound where
  runId : String
  roundIndex : ℕ
  inputDecisionIds : List String
  reviewIds : List String
  revisions : List String
  remainingVetoes : List String
  remainingAbstentions : List String
  consensusStatus : ConsensusStatus
  selectedActionId : Option String
  decisionScopes : List String
  consensusStrategy : String
  nonBlockingObjections : List String
  consensusReason : String
  deriving DecidableEq, Repr

/-- `PostExecutionReview`. -/
structure PostExecutionReview where
  reviewId : String
  runId : String
  agent : String
  actionId : String
  approved : Bool
  reason : String
  confidence : ℚ
  evidenceRefs : List String
  policyVersion : String
  deriving DecidableEq, Repr

/-- `ReviewContext`. -/
structure ReviewContext where
  runId : String
  roundIndex : ℕ
  policyVersion : String
  diagnosis : Diagnosis
  deriving Repr

/-- `ExecutionMode`. -/
inductive ExecutionMode where
  | mock
  | dryRun
  | real
  deriving DecidableEq, Repr

/-- `ExecutionMode.value`. -/
def ExecutionMode.value : ExecutionMode → String
  | mock => "mock"
  | dryRun => "dry-run"
  | real => "real"

/-- `ExecutionBackend`. -/
inductive ExecutionBackend where
  | python
  | go
  deriving DecidableEq, Repr

/-- `ExecutionBackend.value`. -/
def ExecutionBackend.value : ExecutionBackend → String
  | python => "python"
  | go => "go"

/-- The trace identifier that the `n`-th call of `new_trace_id` returns.  The
random suffix of the code is modelled by the number of the call: two calls
never return one identifier. -/
def traceId (label : String) (n : ℕ) : String := label ++ "-" ++ toString n

theorem traceId_inj {label : String} {m n : ℕ} (h : traceId label m = traceId label n) : m = n := by
  unfold traceId at h
  have h' := congrArg String.toList h
  simp only [String.toList_append, List.append_cancel_left_eq] at h'
  have hd : Nat.toDigits 10 m = Nat.toDigits 10 n := by simpa using h'
  rw [← Nat.ofDigitChars_ten_toDigits (n := m), hd, Nat.ofDigitChars_ten_toDigits]

end Supervision
end AiopsK8s
