/-
# What an adapter returns

An adapter may return anything, so the coordinator checks the type, the identity
and the range of every field it uses (`_normalize_*_output` of
`mutual_supervision.py`).  `PyValue` is a field before that check and the `Raw`
records are the results before it; a `normalize…` function returns the checked
record or raises the error of the first check that fails.
-/

import AiopsK8s.Lib.Binary64
import AiopsK8s.Lib.Effect
import AiopsK8s.Supervision.Models

namespace AiopsK8s
namespace Supervision

open Effect (bind_eq_ok)

/-- A field of an unchecked record: plain data, an enumeration member, or any
other object. -/
inductive PyValue where
  | data (v : Json)
  | actionKind (k : RecoveryActionKind)
  | verdict (v : ReviewVerdict)
  | object
  deriving Repr

namespace PyValue

/-- The text of a value that `isinstance(value, str)` accepts; the members of
the two enumerations are texts too. -/
def text? : PyValue → Option String
  | data (.str s) => some s
  | actionKind k => some k.value
  | verdict v => some v.value
  | _ => none

/-- A text. -/
def ofText (s : String) : PyValue := data (.str s)

/-- A finite `float`. -/
def ofNumber (q : ℚ) : PyValue := data (.number q)

end PyValue

/-- An unchecked `RecoveryAction`. -/
structure RawAction where
  ns : PyValue
  deployment : PyValue
  kind : PyValue
  replicas : PyValue
  reason : PyValue
  deriving Repr

/-- An unchecked `Diagnosis`; `evidence` is `none` when it is not a dictionary. -/
structure RawDiagnosis where
  service : PyValue
  cause : PyValue
  severity : PyValue
  confidence : PyValue
  evidence : Option (List (String × Json))
  deriving Repr

/-- An unchecked `SupervisionDecision` of a diagnosis. -/
structure RawDecision where
  agent : PyValue
  decisionType : PyValue
  hasAction : Bool
  approved : PyValue
  reason : PyValue
  confidence : PyValue
  reward : PyValue
  deriving Repr

/-- What `diagnose` returns. -/
inductive RawDiagnosisOutput where
  | pair (diagnosis : RawDiagnosis) (decision : RawDecision)
  | other
  deriving Repr

/-- The two parts of a diagnosis result that is a pair of the right types. -/
def RawDiagnosisOutput.pair? : RawDiagnosisOutput → Option (RawDiagnosis × RawDecision)
  | pair diagnosis decision => some (diagnosis, decision)
  | other => none

/-- What `propose` returns: `None`, a sequence whose items are actions or other
objects, or another object. -/
inductive RawProposal where
  | nothing
  | sequence (items : List (Option RawAction))
  | other
  deriving Repr

/-- The `suggested_action` of an unchecked review. -/
inductive RawSuggestion where
  | nothing
  | action (a : RawAction)
  | other
  deriving Repr

/-- The suggestion of a review that makes none or suggests a `RecoveryAction`. -/
def RawSuggestion.action? : RawSuggestion → Option (Option RawAction)
  | nothing => some none
  | action a => some (some a)
  | other => none

/-- An unchecked `PeerReview`. -/
structure RawReview where
  reviewer : PyValue
  targetAgent : PyValue
  targetDecisionId : PyValue
  verdict : PyValue
  reason : PyValue
  suggestedAction : RawSuggestion
  confidence : PyValue
  evidenceRefs : List String
  deriving Repr

/-- An unchecked `PostExecutionReview`. -/
structure RawPostReview where
  agent : PyValue
  approved : PyValue
  reason : PyValue
  confidence : PyValue
  evidenceRefs : List String
  deriving Repr

/-- The result of a reviewing adapter: `None`, a review, or another object. -/
inductive RawReply (α : Type) where
  | nothing
  | review (r : α)
  | other
  deriving Repr

/-- The reply as a review of the right type. -/
def RawReply.review? {α : Type} : RawReply α → Option α
  | review r => some r
  | _ => none

/-- `AdapterOutputError`. -/
def adapterOutputError {α : Type} (text : String) : Except PyExn α := .error (.valueError text)

/-- A check: `if not condition: raise AdapterOutputError(message)`. -/
def require (condition : Prop) [Decidable condition] (message : String) : Except PyExn Unit :=
  if condition then .ok () else adapterOutputError message

/-- A checked value: `none` when its `isinstance` test fails. -/
def requireSome {α : Type} (value : Option α) (message : String) : Except PyExn α :=
  match value with
  | some a => .ok a
  | none => adapterOutputError message

/-- `_require_output_text`, with the checked text. -/
def requireOutputText (value : PyValue) (label : String) : Except PyExn String :=
  match value.text? with
  | some s => if Text.isBlank s then adapterOutputError (label ++ " must not be empty") else .ok s
  | none => adapterOutputError (label ++ " must not be empty")

/-- `float(value)` of a number that is not a truth value. -/
def numberValue (value : PyValue) : Except PyExn (Option PyFloat) :=
  match value with
  | .data (.int i) =>
    match Json.floatOfInt i with
    | some q => .ok (some (.finite q))
    | none => .error ⟨.overflow, "int too large to convert to float"⟩
  | .data (.float x) => .ok (some x)
  | _ => .ok none

/-- `_require_output_confidence`, with the checked number. -/
def requireOutputConfidence (value : PyValue) (label : String) : Except PyExn ℚ := do
  match ← numberValue value with
  | some (.finite q) =>
    if 0 ≤ q ∧ q ≤ 1 then return q
    else adapterOutputError (label ++ " must be between 0 and 1")
  | _ => adapterOutputError (label ++ " must be between 0 and 1")

/-- `isinstance(value, bool)`, with the truth value. -/
def PyValue.bool? : PyValue → Option Bool
  | data (.bool b) => some b
  | _ => none

/-- `isinstance(value, RecoveryActionKind)`, with the member. -/
def PyValue.actionKind? : PyValue → Option RecoveryActionKind
  | actionKind k => some k
  | _ => none

/-- `isinstance(value, ReviewVerdict)`, with the member. -/
def PyValue.verdict? : PyValue → Option ReviewVerdict
  | verdict v => some v
  | _ => none

/-- `None`, or an integer that is not a truth value. -/
def PyValue.optionalInt? : PyValue → Option (Option ℤ)
  | data .null => some none
  | data (.int i) => some (some i)
  | _ => none

/-- A finite number. -/
def requireFinite (value : PyValue) (message : String) : Except PyExn ℚ := do
  match ← numberValue value with
  | some (.finite q) => .ok q
  | _ => adapterOutputError message

/-- `_validate_recovery_action_output`, with the checked action. -/
def validateRecoveryActionOutput (name : String) (action : RawAction) :
    Except PyExn RecoveryAction := do
  let ns ← requireOutputText action.ns (name ++ " action namespace")
  let deployment ← requireOutputText action.deployment (name ++ " action deployment")
  let kind ← requireSome action.kind.actionKind?
    (name ++ " action kind must be a RecoveryActionKind")
  let replicas ← requireSome action.replicas.optionalInt?
    (name ++ " action replicas must be an integer or null")
  let reason ← requireSome action.reason.text? (name ++ " action reason must be text")
  return { ns, deployment, kind, replicas, reason }

/-- The fields that `replace` writes into a checked record. -/
structure Stamp where
  id : String
  runId : String
  roundIndex : ℕ
  policyVersion : String
  deriving DecidableEq, Repr

/-- `_normalize_diagnosis_output`. -/
def normalizeDiagnosisOutput (name : String) (result : RawDiagnosisOutput) (stamp : Stamp)
    (evidenceRefs : List String) (expectedService : String) :
    Except PyExn (Diagnosis × SupervisionDecision) := do
  let (diagnosis, decision) ← requireSome result.pair?
    (name ++ " diagnosis output must be (Diagnosis, SupervisionDecision)")
  require (diagnosis.service.text? = some expectedService)
    (name ++ " diagnosis service does not match the run target")
  let cause ← requireOutputText diagnosis.cause (name ++ " diagnosis cause")
  let severity ← requireOutputText diagnosis.severity (name ++ " diagnosis severity")
  let confidence ← requireOutputConfidence diagnosis.confidence (name ++ " diagnosis confidence")
  let evidence ← requireSome diagnosis.evidence
    (name ++ " diagnosis evidence must be a dictionary")
  require (decision.agent.text? = some name)
    (name ++ " decision agent does not match adapter identity")
  let approved ← requireSome decision.approved.bool?
    (name ++ " decision approved must be a boolean")
  let decisionType ← requireOutputText decision.decisionType (name ++ " decision type")
  let reason ← requireOutputText decision.reason (name ++ " decision reason")
  let decisionConfidence ← requireOutputConfidence decision.confidence
    (name ++ " decision confidence")
  let reward ← requireFinite decision.reward (name ++ " decision reward must be finite")
  require (decision.hasAction = false)
    (name ++ " diagnosis decision must not contain an action")
  return ({ service := expectedService, cause, severity, confidence, evidence },
    { decisionId := stamp.id
      runId := stamp.runId
      roundIndex := stamp.roundIndex
      agent := name
      decisionType
      proposedAction := none
      approved
      reason
      confidence := decisionConfidence
      evidenceRefs
      reward
      policyVersion := stamp.policyVersion })

/-- `_normalize_proposal_output`. -/
def normalizeProposalOutput (name : String) (result : RawProposal) :
    Except PyExn (List RecoveryAction) :=
  match result with
  | .nothing => .ok []
  | .other =>
    adapterOutputError (name ++ " proposal output must be a recovery action sequence")
  | .sequence items => do
    let actions ← requireSome (items.mapM id)
      (name ++ " proposal output contains a non-RecoveryAction")
    actions.mapM (validateRecoveryActionOutput name)

/-- `_normalize_peer_review_output`. -/
def normalizePeerReviewOutput (name : String) (review : RawReply RawReview)
    (decision : SupervisionDecision) (stamp : Stamp) : Except PyExn PeerReview := do
  let raw ← requireSome review.review? (name ++ " review output must be a PeerReview")
  require (raw.reviewer.text? = some name)
    (name ++ " review reviewer does not match adapter identity")
  require (raw.targetAgent.text? = some decision.agent ∧
      raw.targetDecisionId.text? = some decision.decisionId)
    (name ++ " review target does not match the proposal decision")
  let suggestion ← requireSome raw.suggestedAction.action?
    (name ++ " review suggestion must be a RecoveryAction")
  let suggestedAction ← suggestion.mapM (validateRecoveryActionOutput name)
  let verdict ← requireSome raw.verdict.verdict?
    (name ++ " review verdict must be a ReviewVerdict")
  let reason ← requireOutputText raw.reason (name ++ " review reason")
  let confidence ← requireOutputConfidence raw.confidence (name ++ " review confidence")
  return { reviewId := stamp.id
           runId := stamp.runId
           roundIndex := stamp.roundIndex
           reviewer := name
           targetAgent := decision.agent
           targetDecisionId := decision.decisionId
           verdict
           reason
           suggestedAction
           confidence
           evidenceRefs := raw.evidenceRefs
           policyVersion := stamp.policyVersion }

/-- `_normalize_post_review_output`. -/
def normalizePostReviewOutput (name : String) (review : RawReply RawPostReview)
    (actionId : String) (stamp : Stamp) : Except PyExn PostExecutionReview := do
  let raw ← requireSome review.review?
    (name ++ " post-review output must be a PostExecutionReview")
  require (raw.agent.text? = some name)
    (name ++ " post-review agent does not match adapter identity")
  let approved ← requireSome raw.approved.bool?
    (name ++ " post-review approved must be a boolean")
  let reason ← requireOutputText raw.reason (name ++ " post-review reason")
  let confidence ← requireOutputConfidence raw.confidence (name ++ " post-review confidence")
  return { reviewId := stamp.id
           runId := stamp.runId
           agent := name
           actionId
           approved
           reason
           confidence
           evidenceRefs := raw.evidenceRefs
           policyVersion := stamp.policyVersion }

/-- **A checked review is the adapter's own and is about the given decision.** -/
theorem normalizePeerReviewOutput_spec {name : String} {review : RawReply RawReview}
    {decision : SupervisionDecision} {stamp : Stamp} {r : PeerReview}
    (h : normalizePeerReviewOutput name review decision stamp = .ok r) :
    r.reviewId = stamp.id ∧ r.reviewer = name ∧ r.targetDecisionId = decision.decisionId := by
  iterate 8 obtain ⟨_, _, h⟩ := bind_eq_ok h
  cases h
  exact ⟨rfl, rfl, rfl⟩

/-- A checked post-execution review is about the given action. -/
theorem normalizePostReviewOutput_actionId {name actionId : String}
    {review : RawReply RawPostReview} {stamp : Stamp} {r : PostExecutionReview}
    (h : normalizePostReviewOutput name review actionId stamp = .ok r) : r.actionId = actionId := by
  iterate 5 obtain ⟨_, _, h⟩ := bind_eq_ok h
  cases h
  rfl

/-- A checked diagnosis carries the decision identifier that it was given. -/
theorem normalizeDiagnosisOutput_decisionId {name : String} {result : RawDiagnosisOutput}
    {stamp : Stamp} {evidenceRefs : List String} {expectedService : String}
    {diagnosis : Diagnosis} {decision : SupervisionDecision}
    (h : normalizeDiagnosisOutput name result stamp evidenceRefs expectedService =
      .ok (diagnosis, decision)) : decision.decisionId = stamp.id := by
  obtain ⟨⟨_, _⟩, _, h⟩ := bind_eq_ok h
  iterate 12 obtain ⟨_, _, h⟩ := bind_eq_ok h
  cases h
  rfl

end Supervision
end AiopsK8s
