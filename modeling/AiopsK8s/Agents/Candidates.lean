/-
# Recovery candidates and their evaluation

`generate_recovery_candidates` of `application_agent.py`, `review` and
`evaluate_candidates` of `infra_agent.py` and `cost_agent.py`, and `_rank_candidates` of
`autonomous.py`.

The scores are floats: every literal and every operation is rounded by `fl`, of which
nothing is assumed.  Which candidates are ranked does not depend on the rounding
(`mem_rankCandidates`); in which order they are tried does.
-/

import AiopsK8s.Agents.Decision
import AiopsK8s.Lib.Binary64
import Mathlib.Data.List.Sort

namespace AiopsK8s
namespace Agents

open Effect Supervision

/-- `RecoveryActionCandidate`. -/
structure RecoveryActionCandidate where
  action : RecoveryAction
  reason : String
  expectedEffect : String
  riskLevel : String
  estimatedCost : ℚ
  requiredValidation : List String
  confidence : ℚ
  priority : ℚ
  deriving DecidableEq

/-- `CandidateEvaluation`. -/
structure CandidateEvaluation where
  agent : String
  actionKind : RecoveryActionKind
  approved : Bool
  score : ℚ
  reward : PyFloat
  reason : String
  risk : String
  blockingReason : String
  deriving DecidableEq

/-- `AgentDecisionPolicy`, as far as candidates depend on it. -/
structure AgentDecisionPolicy where
  preferredActions : List (String × String)
  replicaBySeverity : List (String × ℤ)
  defaultReplicas : ℤ
  maxReplicas : ℤ

namespace AgentDecisionPolicy

variable (p : AgentDecisionPolicy)

/-- `preferred_action_for`. -/
def preferredActionFor (cause : String) : String :=
  (p.preferredActions.lookup cause).getD "observe_only"

/-- `recommended_replicas` without current replicas. -/
def recommendedReplicas (severity : String) : ℤ :=
  max 1 (min ((p.replicaBySeverity.lookup severity).getD p.defaultReplicas) p.maxReplicas)

end AgentDecisionPolicy

/-- `target_replicas` in `generate_recovery_candidates`. -/
def targetReplicas (policy : AgentDecisionPolicy) (severity : String) (desiredReplicas : ℤ) : ℤ :=
  let baselineReplicas := max desiredReplicas 1
  min (max (baselineReplicas + 1) (policy.recommendedReplicas severity)) 5

/-- **Where the target is above the observed count**: below the bound of five. -/
theorem lt_targetReplicas_iff {policy : AgentDecisionPolicy} {severity : String} {desired : ℤ} :
    desired < targetReplicas policy severity desired ↔ desired ≤ 4 := by
  simp only [targetReplicas]
  omega

section Generate

variable (fl : ℚ → ℚ) (policy : AgentDecisionPolicy) (ns deployment : String)
  (diagnosis : Diagnosis) (evidence : EvidenceSnapshot)

/-- The default of `required_validation`. -/
def requiredValidation : List String := ["python_validator", "go_guard"]

/-- The candidate that only observes. -/
def observeCandidate : RecoveryActionCandidate where
  action := ⟨ns, deployment, .observeOnly, none,
    "Collect more evidence before changing Kubernetes state."⟩
  reason := "Evidence is insufficient or risk is low enough to observe first."
  expectedEffect := "No resource change; confirms whether Kubernetes self-recovers."
  riskLevel := "low"
  estimatedCost := 0
  requiredValidation := requiredValidation
  confidence := if fl (4 / 5) ≤ diagnosis.confidence then fl (55 / 100) else fl (3 / 4)
  priority := if policy.preferredActionFor diagnosis.cause = "observe_only" then fl (95 / 100)
    else fl (2 / 5)

/-- The candidate that restarts the pods. -/
def restartCandidate : RecoveryActionCandidate where
  action := ⟨ns, deployment, .rolloutRestart, none,
    "Restart pods when restart or unhealthy evidence is present."⟩
  reason := "Pod instability or memory symptoms can be cleared by restart."
  expectedEffect := "Refreshes pods without increasing replica cost."
  riskLevel := "medium"
  estimatedCost := fl (1 / 10)
  requiredValidation := requiredValidation
  confidence := if diagnosis.cause ∈ ["pod_restarts", "memory_saturation"] then fl (4 / 5)
    else fl (1 / 2)
  priority := if policy.preferredActionFor diagnosis.cause = "rollout_restart" then fl (95 / 100)
    else fl (55 / 100)

/-- The candidate that scales out. -/
def scaleCandidate : RecoveryActionCandidate where
  action := ⟨ns, deployment, .scaleOut,
    some (targetReplicas policy diagnosis.severity evidence.desiredReplicas),
    "Scale out when workload saturation is likely."⟩
  reason := "CPU, latency, or availability pressure can be mitigated by replicas."
  expectedEffect := "Adds serving capacity and improves availability headroom."
  riskLevel := "medium"
  estimatedCost := max (targetReplicas policy diagnosis.severity evidence.desiredReplicas -
    max evidence.desiredReplicas 1) 0
  requiredValidation := requiredValidation
  confidence := if diagnosis.cause ∈ ["cpu_saturation", "latency_saturation", "low_availability"] then
    fl (88 / 100) else fl (45 / 100)
  priority := if policy.preferredActionFor diagnosis.cause = "scale_out" then fl (95 / 100)
    else fl (1 / 2)

/-- The key `(priority, confidence)` in descending order. -/
def ByPriority (a b : RecoveryActionCandidate) : Prop :=
  b.priority < a.priority ∨ b.priority = a.priority ∧ b.confidence ≤ a.confidence

instance : DecidableRel ByPriority := fun _ _ => inferInstanceAs (Decidable (_ ∨ _))

/-- `generate_recovery_candidates`. -/
def generateRecoveryCandidates : List RecoveryActionCandidate :=
  [observeCandidate fl policy ns deployment diagnosis,
    restartCandidate fl policy ns deployment diagnosis,
    scaleCandidate fl policy ns deployment diagnosis evidence].insertionSort ByPriority

/-- **What is generated**: one candidate of each kind. -/
theorem mem_generateRecoveryCandidates {candidate : RecoveryActionCandidate} :
    candidate ∈ generateRecoveryCandidates fl policy ns deployment diagnosis evidence ↔
      candidate = observeCandidate fl policy ns deployment diagnosis ∨
        candidate = restartCandidate fl policy ns deployment diagnosis ∨
          candidate = scaleCandidate fl policy ns deployment diagnosis evidence := by
  rw [generateRecoveryCandidates, List.mem_insertionSort]
  simp only [List.mem_cons, List.not_mem_nil, or_false]

end Generate

/-! ### Evaluation -/

/-- The texts and rewards in which the two reviewing agents differ. -/
structure ReviewTexts where
  approvedOther : String
  otherPolicy : String
  approvedScale : String
  rejectedScale : String
  missing : String
  exceeded : String
  within : String
  reward : ℚ
  penalty : ℚ

/-- `review` of an action: only a scale-out above the limit of the agent is rejected. -/
def reviewAction (name : String) (limit : ℤ) (t : ReviewTexts) (action : RecoveryAction) :
    AgentDecision :=
  if action.kind ≠ .scaleOut then
    ⟨name, t.approvedOther, .finite t.reward, true, action.kind.value ++ t.otherPolicy,
      [("action_kind", action.kind.value)]⟩
  else
    match action.replicas with
    | none => ⟨name, t.rejectedScale, .finite t.penalty, false, t.missing, []⟩
    | some replicas =>
      if limit < replicas then ⟨name, t.rejectedScale, .finite t.penalty, false, t.exceeded, []⟩
      else ⟨name, t.approvedScale, .finite t.reward, true, t.within, []⟩

/-- The evaluation that a review of a candidate becomes. -/
def evaluationOf (candidate : RecoveryActionCandidate) (review : AgentDecision) (score : ℚ) :
    CandidateEvaluation where
  agent := review.agent
  actionKind := candidate.action.kind
  approved := review.approved
  score := if review.approved then score else 0
  reward := review.reward
  reason := review.reason
  risk := candidate.riskLevel
  blockingReason := if review.approved then "" else review.reason

/-- `n * x` of an integer and a float, which raises where the integer has no float. -/
def intTimes (fl : ℚ → ℚ) (n : ℤ) (x : ℚ) : Except PyExn ℚ :=
  match Json.floatOfInt n with
  | some q => .ok (fl (fl q * x))
  | none => .error ⟨.overflow, "int too large to convert to float"⟩

/-- `evaluate_candidates` with the review and the score of an agent. -/
def evaluateWith (review : RecoveryAction → AgentDecision)
    (score : RecoveryActionCandidate → Except PyExn ℚ) (candidates : List RecoveryActionCandidate) :
    Except PyExn (List CandidateEvaluation) :=
  candidates.mapM fun candidate => do
    return evaluationOf candidate (review candidate.action) (← score candidate)

/-- `AISemiconductorInfraOpsAgent`. -/
structure InfraAgent where
  name : String
  maxRecommendedReplicas : ℤ

namespace InfraAgent

variable (fl : ℚ → ℚ) (a : InfraAgent)

def texts : ReviewTexts where
  approvedOther := "infra_action_approved"
  otherPolicy := " does not increase replica capacity and is " ++
    "within the current Kubernetes deployment safety policy."
  approvedScale := "infra_capacity_approved"
  rejectedScale := "infra_capacity_rejected"
  missing := "scale_out requires an explicit replica target."
  exceeded := "Requested replicas exceed the first-stage infrastructure policy."
  within := "Requested replicas are within the current Kubernetes replica safety policy."
  reward := 7 / 10
  penalty := -6 / 10

/-- `review`. -/
def review (action : RecoveryAction) : AgentDecision :=
  reviewAction a.name a.maxRecommendedReplicas texts action

/-- The score of a candidate in `evaluate_candidates`. -/
def score (candidate : RecoveryActionCandidate) : Except PyExn ℚ :=
  match candidate.action.kind, candidate.action.replicas with
  | .observeOnly, _ => .ok (fl (9 / 10))
  | .rolloutRestart, _ => .ok (fl (82 / 100))
  | .scaleOut, none => .ok candidate.priority
  | .scaleOut, some replicas =>
    if replicas = 0 then .ok candidate.priority
    else do
      let weighted ← intTimes fl (max (a.maxRecommendedReplicas - replicas) 0) (fl (8 / 100))
      return min 1 (fl (fl (55 / 100) + weighted))

/-- `evaluate_candidates`. -/
def evaluateCandidates (candidates : List RecoveryActionCandidate) :
    Except PyExn (List CandidateEvaluation) := evaluateWith a.review (a.score fl) candidates

end InfraAgent

/-- `CostOptimizationAgent`. -/
structure CostAgent where
  name : String
  maxCostSafeReplicas : ℤ

namespace CostAgent

variable (fl : ℚ → ℚ) (a : CostAgent)

def texts : ReviewTexts where
  approvedOther := "cost_budget_approved"
  otherPolicy := " does not increase replica count and is within the first-stage cost policy."
  approvedScale := "cost_budget_approved"
  rejectedScale := "cost_budget_rejected"
  missing := "scale_out requires an explicit replica target for cost review."
  exceeded := "Requested replicas exceed the first-stage cost policy."
  within := "Requested replicas are within the first-stage cost policy."
  reward := 6 / 10
  penalty := -7 / 10

/-- `review`. -/
def review (action : RecoveryAction) : AgentDecision :=
  reviewAction a.name a.maxCostSafeReplicas texts action

/-- The score of a candidate in `evaluate_candidates`. -/
def score (candidate : RecoveryActionCandidate) : Except PyExn ℚ :=
  match candidate.action.kind with
  | .observeOnly => .ok (fl (98 / 100))
  | .rolloutRestart => .ok (fl (86 / 100))
  | .scaleOut => do
    let replicas := candidate.action.replicas.getD 0
    let weighted ← intTimes fl (max (replicas - 1) 0) (fl (14 / 100))
    return max 0 (fl (fl (95 / 100) - weighted))

/-- `evaluate_candidates`. -/
def evaluateCandidates (candidates : List RecoveryActionCandidate) :
    Except PyExn (List CandidateEvaluation) := evaluateWith a.review (score fl) candidates

end CostAgent

/-! ### Ranking -/

/-- `{e.action_kind: e for e in evaluations}[kind]`, which raises a `KeyError`. -/
def evaluationOfKind (evaluations : List CandidateEvaluation) (kind : RecoveryActionKind) :
    Except PyExn CandidateEvaluation :=
  match evaluations.reverse.find? (·.actionKind == kind) with
  | some evaluation => .ok evaluation
  | none => .error ⟨.other, kind.value⟩

/-- `score` in `_rank_candidates`. -/
def rankScore (fl : ℚ → ℚ) (infra cost : List CandidateEvaluation)
    (candidate : RecoveryActionCandidate) : Except PyExn ℚ := do
  let i ← evaluationOfKind infra candidate.action.kind
  let c ← evaluationOfKind cost candidate.action.kind
  if i.approved = false ∨ c.approved = false then return -1
  return fl (fl (fl (fl (candidate.priority * fl (35 / 100)) +
    fl (candidate.confidence * fl (25 / 100))) + fl (i.score * fl (25 / 100))) +
    fl (c.score * fl (15 / 100)))

/-- `_rank_candidates`. -/
def rankCandidates (fl : ℚ → ℚ) (candidates : List RecoveryActionCandidate)
    (infra cost : List CandidateEvaluation) : Except PyExn (List RecoveryActionCandidate) := do
  let scored ← candidates.mapM fun candidate => do
    return (candidate, ← rankScore fl infra cost candidate)
  return ((scored.insertionSort fun a b => b.2 ≤ a.2).filter (0 ≤ ·.2)).map (·.1)

section Ranking

variable {fl : ℚ → ℚ} {candidates ranked : List RecoveryActionCandidate}
  {infra cost : List CandidateEvaluation}

/-- **A ranked candidate was approved** by both evaluations of its kind. -/
theorem approved_of_mem_rankCandidates (h : rankCandidates fl candidates infra cost = .ok ranked)
    {candidate : RecoveryActionCandidate} (hmem : candidate ∈ ranked) : candidate ∈ candidates ∧
      (∃ i, evaluationOfKind infra candidate.action.kind = .ok i ∧ i.approved = true) ∧
      ∃ c, evaluationOfKind cost candidate.action.kind = .ok c ∧ c.approved = true := by
  unfold rankCandidates at h
  obtain ⟨scored, hscored, h⟩ := bind_eq_ok h
  obtain rfl := Except.ok.inj h
  obtain ⟨entry, hentry, rfl⟩ := List.mem_map.1 hmem
  obtain ⟨hentry, hscore⟩ := List.mem_filter.1 hentry
  obtain ⟨candidate, hcandidate, hentry'⟩ :=
    exists_of_mem_mapM hscored ((List.mem_insertionSort _).1 hentry)
  obtain ⟨score, hrank, hentry'⟩ := bind_eq_ok hentry'
  obtain rfl := Except.ok.inj hentry'
  unfold rankScore at hrank
  obtain ⟨i, hi, hrank⟩ := bind_eq_ok hrank
  obtain ⟨c, hc, hrank⟩ := bind_eq_ok hrank
  by_cases happroved : i.approved = false ∨ c.approved = false
  · rw [if_pos happroved] at hrank
    obtain rfl := Except.ok.inj hrank
    have hnegative : ¬(0 : ℚ) ≤ -1 := by decide
    exact absurd (of_decide_eq_true hscore) hnegative
  · rw [not_or, Bool.not_eq_false, Bool.not_eq_false] at happroved
    exact ⟨hcandidate, ⟨i, hi, happroved.1⟩, c, hc, happroved.2⟩

/-- An evaluation of a kind is the evaluation of a candidate of that kind. -/
theorem evaluationOfKind_evaluateWith {review : RecoveryAction → AgentDecision}
    {score : RecoveryActionCandidate → Except PyExn ℚ} {evaluations : List CandidateEvaluation}
    (h : evaluateWith review score candidates = .ok evaluations) {kind : RecoveryActionKind}
    {e : CandidateEvaluation} (he : evaluationOfKind evaluations kind = .ok e) :
    ∃ candidate ∈ candidates, candidate.action.kind = kind ∧
      e.approved = (review candidate.action).approved := by
  unfold evaluationOfKind at he
  split at he
  · rename_i evaluation hfind
    obtain rfl := Except.ok.inj he
    have hmem := List.mem_reverse.1 (List.mem_of_find?_eq_some hfind)
    have hkind : evaluation.actionKind = kind := by simpa using List.find?_some hfind
    obtain ⟨candidate, hcandidate, hevaluation⟩ := exists_of_mem_mapM h hmem
    obtain ⟨score, -, hevaluation⟩ := bind_eq_ok hevaluation
    obtain rfl := Except.ok.inj hevaluation
    exact ⟨candidate, hcandidate, hkind, rfl⟩
  · cases he

end Ranking

end Agents
end AiopsK8s
