/-
# The autonomous coordinator

`AutonomousAIOpsCoordinator` of `autonomous.py`: the ranked candidates are validated,
executed and assessed one after the other until one recovers the service.

A run executes only what both reviewing agents and the validator accepted, and it tries
at most `max_replan_attempts + 1` candidates.  A scale-out asks for more replicas than
were observed exactly when at most four were, since the target is cut at five: a run that
comes to a scale-out with five replicas or more scales in (`run_safe_iff`).
-/

import AiopsK8s.Agents.Candidates
import AiopsK8s.Execution.Dispatch
import AiopsK8s.Supervision.Report

namespace AiopsK8s
namespace Agents

open Effect Supervision Execution

/-- The state of a run: what was handed over, and the candidates that were tried. -/
structure Course (σ : Type) where
  journal : Journal σ
  tried : List RecoveryAction

namespace Course

variable {σ α : Type}

/-- Nothing was tried. -/
def start (env : σ) : Course σ := ⟨.start env, []⟩

/-- A step of the executor. -/
def onJournal (m : Eff (Journal σ) PyExn α) : Eff (Course σ) PyExn α :=
  Eff.zoom Course.journal (fun journal c => { c with journal }) m

/-- A call into the environment. -/
def call (m : Eff σ PyExn α) : Eff (Course σ) PyExn α := onJournal (Journal.call m)

/-- The candidate is tried. -/
def noteTried (action : RecoveryAction) : Eff (Course σ) PyExn Unit :=
  Eff.modify fun c => { c with tried := c.tried ++ [action] }

end Course

/-- One entry of `replanning_attempts`; its `next_step` is always `try_next_candidate`. -/
structure ReplanningAttempt where
  failedAction : RecoveryActionKind
  reason : String

/-- `_policy_recommendation`, less its constant texts. -/
structure PolicyRecommendation where
  recommendedPolicyChange : String
  reason : String
  evidence : EvidenceSnapshot

/-- `_policy_recommendation`. -/
def policyRecommendation (action : RecoveryAction) (reason : String) (evidence : EvidenceSnapshot) :
    PolicyRecommendation :=
  ⟨"Review priority and validation policy for " ++ action.kind.value ++ ".", reason, evidence⟩

/-- The lists and the last results that the loop of `run` keeps. -/
structure Books where
  executedActions : List RecoveryAction
  replanningAttempts : List ReplanningAttempt
  recommendations : List PolicyRecommendation
  lastValidation : SafetyValidation
  lastExecution : CommandResult
  lastAssessment : Option RecoveryAssessment

/-- The report of a run. -/
structure AutonomousReport where
  valid : Bool
  finalStatus : String
  evidence : EvidenceSnapshot
  diagnosis : Diagnosis
  haDecision : AgentDecision
  candidates : List RecoveryActionCandidate
  infraEvaluations : List CandidateEvaluation
  costEvaluations : List CandidateEvaluation
  selectedAction : Option RecoveryAction
  books : Books

/-- `AutonomousAIOpsCoordinator`, with the executor that `run` builds from its fields. -/
structure AutonomousAIOpsCoordinator (σ : Type) where
  executor : CommandExecutor σ
  collect : String → String → Eff σ PyExn EvidenceSnapshot
  assess : RecoveryAction → EvidenceSnapshot → EvidenceSnapshot → CommandResult →
    Eff σ PyExn RecoveryAssessment
  maxReplanAttempts : ℕ
  haAgent : EvidenceSnapshot → String → PyFloat → Except PyExn (Diagnosis × AgentDecision)
  policy : AgentDecisionPolicy
  infraAgent : InfraAgent
  costAgent : CostAgent
  fl : ℚ → ℚ

/-- How one turn of the loop ends. -/
inductive TurnOutcome where
  | recovered (books : Books)
  | next (books : Books)

namespace AutonomousAIOpsCoordinator

variable {σ : Type} (c : AutonomousAIOpsCoordinator σ)

/-- `_validate_action`. -/
def validateAction (action : RecoveryAction) : SafetyValidation :=
  match c.executor.validator.validateRecoveryAction action >>= renderRecoveryCommand with
  | .ok command => ⟨true, command, ""⟩
  | .error e => ⟨false, "", e.text⟩

/-- A failed candidate in the books. -/
def replan (evidence : EvidenceSnapshot) (action : RecoveryAction) (reason : String) (b : Books) :
    Books :=
  { b with
    replanningAttempts := b.replanningAttempts ++ [⟨action.kind, reason⟩]
    recommendations := b.recommendations ++ [policyRecommendation action reason evidence] }

/-- One turn of the loop of `run`. -/
def turn (ns deployment : String) (evidence : EvidenceSnapshot) (action : RecoveryAction)
    (b : Books) : Eff (Course σ) PyExn TurnOutcome := do
  Course.noteTried action
  let validation := c.validateAction action
  let b := { b with lastValidation := validation }
  if validation.valid = false then return .next (replan evidence action validation.stderr b)
  else
    let execution ← Course.onJournal (c.executor.executeRecovery action)
    let afterEvidence ← Course.call (c.collect ns deployment)
    let assessment ← Course.call (c.assess action evidence afterEvidence execution)
    let b := { b with
      lastExecution := execution
      executedActions := b.executedActions ++ [action]
      lastAssessment := some assessment }
    if assessment.recoverySuccess then return .recovered b
    else return .next (replan evidence action assessment.remainingProblem b)

/-- The loop of `run` from the candidate of the index on. -/
def loop (ns deployment : String) (evidence : EvidenceSnapshot)
    (report : String → Option RecoveryAction → Books → AutonomousReport) :
    ℕ → List RecoveryActionCandidate → Books → Eff (Course σ) PyExn AutonomousReport
  | _, [], b => pure (report "safe_failure" none b)
  | index, candidate :: rest, b =>
    if c.maxReplanAttempts < index then pure (report "safe_failure" none b)
    else do
      match ← c.turn ns deployment evidence candidate.action b with
      | .recovered b' =>
        let status := if b'.replanningAttempts.isEmpty then "recovered" else "recovered_after_replan"
        return report status (some candidate.action) b'
      | .next b' => loop ns deployment evidence report (index + 1) rest b'

/-- The books before the loop. -/
def openingBooks : Books where
  executedActions := []
  replanningAttempts := []
  recommendations := []
  lastValidation := ⟨false, "", "no candidate"⟩
  lastExecution := emptyResult c.executor.mode.value "no candidate executed"
  lastAssessment := none

/-- What `run` computes from the evidence before its loop. -/
structure Plan where
  diagnosis : Diagnosis
  haDecision : AgentDecision
  candidates : List RecoveryActionCandidate
  infraEvaluations : List CandidateEvaluation
  costEvaluations : List CandidateEvaluation
  ranked : List RecoveryActionCandidate

/-- The part of `run` between the evidence and the loop: no candidates without an approved
diagnosis. -/
def plan (ns deployment metric : String) (threshold : PyFloat) (evidence : EvidenceSnapshot) :
    Except PyExn Plan := do
  let (diagnosis, haDecision) ← c.haAgent evidence metric threshold
  if haDecision.approved = false then return ⟨diagnosis, haDecision, [], [], [], []⟩
  else
    let candidates :=
      generateRecoveryCandidates c.fl c.policy ns deployment diagnosis evidence
    let infra ← c.infraAgent.evaluateCandidates c.fl candidates
    let cost ← c.costAgent.evaluateCandidates c.fl candidates
    let ranked ← rankCandidates c.fl candidates infra cost
    return ⟨diagnosis, haDecision, candidates, infra, cost, ranked⟩

/-- The report of a run with its status, its selected action and its books. -/
def reportOf (evidence : EvidenceSnapshot) (p : Plan) (finalStatus : String)
    (selectedAction : Option RecoveryAction) (books : Books) : AutonomousReport where
  valid := selectedAction.isSome
  finalStatus
  evidence
  diagnosis := p.diagnosis
  haDecision := p.haDecision
  candidates := p.candidates
  infraEvaluations := p.infraEvaluations
  costEvaluations := p.costEvaluations
  selectedAction
  books

/-- The part of `run` after the evidence. -/
def recover (ns deployment metric : String) (threshold : PyFloat) (evidence : EvidenceSnapshot) :
    Eff (Course σ) PyExn AutonomousReport := do
  let p ← Eff.ofExcept (c.plan ns deployment metric threshold evidence)
  if p.haDecision.approved = false then
    return reportOf evidence p "no_action_required" none { c.openingBooks with
      lastValidation := ⟨false, "", p.haDecision.reason⟩
      lastExecution := emptyResult c.executor.mode.value p.haDecision.reason }
  else c.loop ns deployment evidence (reportOf evidence p) 0 p.ranked c.openingBooks

/-- `run`. -/
def run (ns deployment metric : String) (threshold : PyFloat) :
    Eff (Course σ) PyExn AutonomousReport := do
  let evidence ← Course.call (c.collect ns deployment)
  c.recover ns deployment metric threshold evidence

/-- The action may be executed after the evidence: both reviewing agents approve it, the validator
accepts it, and a scale-out asks for more replicas than were observed. -/
structure Allowed (evidence : EvidenceSnapshot) (action : RecoveryAction) : Prop where
  infra : (c.infraAgent.review action).approved = true
  cost : (c.costAgent.review action).approved = true
  accepted : c.executor.validator.validateRecoveryAction action = .ok action
  scalesOut : action.kind = .scaleOut →
    ∃ replicas, action.replicas = some replicas ∧ evidence.desiredReplicas < replicas

/-- **What a run from `env` must satisfy**: what it executed is allowed after the evidence that it
observed, and it tried at most `max_replan_attempts + 1` candidates. -/
structure Safe (ns deployment : String) (env : σ) (course : Course σ) : Prop where
  allowed : ∀ d ∈ course.journal.dispatched, ∃ evidence env',
    (c.collect ns deployment).run env = (.ok evidence, env') ∧ c.Allowed evidence d.action
  tried_le : course.tried.length ≤ c.maxReplanAttempts + 1

/-- The loop comes to a scale-out that the validator accepts: the candidates before it were
rejected by the validator or did not recover the service. -/
def Reaches (ns deployment : String) (evidence : EvidenceSnapshot) :
    ℕ → List RecoveryActionCandidate → Books → Course σ → Prop
  | _, [], _, _ => False
  | index, candidate :: rest, b, s => index ≤ c.maxReplanAttempts ∧
      ((candidate.action.kind = .scaleOut ∧
          c.executor.validator.validateRecoveryAction candidate.action = .ok candidate.action) ∨
        ∃ b' s', (c.turn ns deployment evidence candidate.action b).run s = (.ok (.next b'), s') ∧
          Reaches ns deployment evidence (index + 1) rest b' s')

/-! ### One turn -/

section Turn

variable {c} {ns deployment : String} {evidence : EvidenceSnapshot} {action : RecoveryAction}
  {b : Books} {s s' : Course σ}

theorem validateAction_valid_iff : (c.validateAction action).valid = true ↔
    c.executor.validator.validateRecoveryAction action = .ok action := by
  unfold validateAction
  constructor
  · intro h
    split at h
    · rename_i command hcommand
      obtain ⟨validated, hvalidated, -⟩ := bind_eq_ok hcommand
      rwa [CommandValidator.validateRecoveryAction_eq hvalidated] at hvalidated
    · cases h
  · intro h
    obtain ⟨command, -, hcommand, -⟩ := exists_route_of_accepted (e := c.executor) h
    rw [h]
    show (match renderRecoveryCommand action with
      | .ok command => (⟨true, command, ""⟩ : SafetyValidation)
      | .error e => ⟨false, "", e.text⟩).valid = true
    rw [hcommand]

/-- A call into the environment neither hands over nor tries anything. -/
theorem stable_call {α : Type} (m : Eff σ PyExn α) (ds : List Dispatch) (tried : List RecoveryAction) :
    Stable (fun t : Course σ => t.journal.dispatched = ds ∧ t.tried = tried) (Course.call m) := by
  intro t ht
  constructor <;> intro _ t' hr <;> rw [Course.call, Course.onJournal, Eff.run_zoom] at hr <;>
    obtain ⟨-, rfl⟩ := Prod.mk.inj hr <;> exact ⟨(dispatched_call rfl).trans ht.1, ht.2⟩

/-- **What a turn does**: it tries its action, and it executes it exactly when the validator
accepts it. -/
theorem turn_spec {r : Except PyExn TurnOutcome}
    (h : (c.turn ns deployment evidence action b).run s = (r, s')) :
    s'.tried = s.tried ++ [action] ∧
      ((c.executor.validator.validateRecoveryAction action ≠ .ok action ∧
          s'.journal.dispatched = s.journal.dispatched) ∨
        (c.executor.validator.validateRecoveryAction action = .ok action ∧
          ∃ route, s'.journal.dispatched = s.journal.dispatched ++ [⟨action, route⟩])) := by
  unfold turn at h
  rw [Eff.run_bind, Course.noteTried, Eff.run_modify] at h
  by_cases haccepted : c.executor.validator.validateRecoveryAction action = .ok action
  case neg =>
    have hinvalid : (c.validateAction action).valid = false := by
      rw [Bool.eq_false_iff]
      exact fun hvalid => haccepted (validateAction_valid_iff.1 hvalid)
    simp only [hinvalid, if_true] at h
    obtain ⟨-, rfl⟩ := Prod.mk.inj h
    exact ⟨rfl, .inl ⟨haccepted, rfl⟩⟩
  have hvalid : ¬(c.validateAction action).valid = false := by
    rw [validateAction_valid_iff.2 haccepted]
    decide
  simp only [if_neg hvalid] at h
  -- after the executor, nothing is handed over or tried
  have hafter : ∃ r₁ s₁, (Course.onJournal (c.executor.executeRecovery action)).run
      { s with tried := s.tried ++ [action] } = (r₁, s₁) ∧
      s'.journal.dispatched = s₁.journal.dispatched ∧ s'.tried = s₁.tried := by
    rcases Eff.run_bind_cases h with ⟨_, hrun, -⟩ | ⟨execution, s₁, hrun, hrest⟩
    · exact ⟨_, _, hrun, rfl, rfl⟩
    · refine ⟨_, s₁, hrun, ?_⟩
      refine Stable.holds (I := fun t => t.journal.dispatched = s₁.journal.dispatched ∧
        t.tried = s₁.tried) ?_ ⟨rfl, rfl⟩ hrest
      refine Stable.bind (stable_call _ _ _) fun _ => Stable.bind (stable_call _ _ _) fun _ => ?_
      exact Stable.ite (fun _ => Stable.pure _) fun _ => Stable.pure _
  obtain ⟨r₁, s₁, hrun, hdispatched, htried⟩ := hafter
  rw [Course.onJournal, Eff.run_zoom] at hrun
  obtain ⟨-, rfl⟩ := Prod.mk.inj hrun
  obtain ⟨route, hroute⟩ := dispatched_executeRecovery (j := s.journal) haccepted rfl
  exact ⟨htried, .inr ⟨haccepted, route, hdispatched.trans hroute⟩⟩

/-- What a part of a run adds: the candidates it tries and the commands it hands over, all of them
accepted actions of the list, and a scale-out exactly when `scales` holds. -/
structure Adds (c : AutonomousAIOpsCoordinator σ) (actions : List RecoveryAction) (bound : ℕ)
    (scales : Prop) (s s' : Course σ) : Prop where
  tried : ∃ l, s'.tried = s.tried ++ l ∧ l.length ≤ bound
  handed : ∃ l, s'.journal.dispatched = s.journal.dispatched ++ l ∧
    (∀ d ∈ l, d.action ∈ actions ∧
      c.executor.validator.validateRecoveryAction d.action = .ok d.action) ∧
    ((∃ d ∈ l, d.action.kind = .scaleOut) ↔ scales)

theorem adds_nothing {actions : List RecoveryAction} {bound : ℕ} {scales : Prop} (h : ¬scales) :
    Adds c actions bound scales s s :=
  ⟨⟨[], (List.append_nil _).symm, Nat.zero_le _⟩, [], (List.append_nil _).symm, by simp, by simpa⟩

theorem adds_turn {r : Except PyExn TurnOutcome}
    (h : (c.turn ns deployment evidence action b).run s = (r, s')) :
    Adds c [action] 1 (action.kind = .scaleOut ∧
      c.executor.validator.validateRecoveryAction action = .ok action) s s' := by
  obtain ⟨htried, ⟨hrejected, hsame⟩ | ⟨haccepted, route, hone⟩⟩ := turn_spec h
  · exact ⟨⟨_, htried, le_rfl⟩, [], by simpa using hsame, by simp,
      by simpa using fun _ => hrejected⟩
  · exact ⟨⟨_, htried, le_rfl⟩, _, hone, by simpa using haccepted,
      by simpa using fun _ => haccepted⟩

/-- Two parts of a run after each other. -/
theorem Adds.trans {first rest : List RecoveryAction} {m n : ℕ} {p q : Prop} {s₁ : Course σ}
    (h₁ : Adds c first m p s s₁) (h₂ : Adds c rest n q s₁ s') :
    Adds c (first ++ rest) (m + n) (p ∨ q) s s' := by
  obtain ⟨⟨l₁, ht₁, hl₁⟩, k₁, hd₁, ha₁, hs₁⟩ := h₁
  obtain ⟨⟨l₂, ht₂, hl₂⟩, k₂, hd₂, ha₂, hs₂⟩ := h₂
  refine ⟨⟨l₁ ++ l₂, by rw [ht₂, ht₁, List.append_assoc], ?_⟩, k₁ ++ k₂,
    by rw [hd₂, hd₁, List.append_assoc], fun d hd => ?_, ?_⟩
  · rw [List.length_append]
    omega
  · rcases List.mem_append.1 hd with hd | hd
    · exact ⟨List.mem_append_left _ (ha₁ d hd).1, (ha₁ d hd).2⟩
    · exact ⟨List.mem_append_right _ (ha₂ d hd).1, (ha₂ d hd).2⟩
  · rw [← hs₁, ← hs₂]
    constructor
    · rintro ⟨d, hd, hkind⟩
      rcases List.mem_append.1 hd with hd | hd
      · exact .inl ⟨d, hd, hkind⟩
      · exact .inr ⟨d, hd, hkind⟩
    · rintro (⟨d, hd, hkind⟩ | ⟨d, hd, hkind⟩)
      · exact ⟨d, List.mem_append_left _ hd, hkind⟩
      · exact ⟨d, List.mem_append_right _ hd, hkind⟩

theorem Adds.weaken {actions actions' : List RecoveryAction} {m n : ℕ} {p q : Prop}
    (h : Adds c actions m p s s') (hactions : actions ⊆ actions') (hle : m ≤ n) (hpq : p ↔ q) :
    Adds c actions' n q s s' := by
  obtain ⟨⟨l, ht, hl⟩, k, hd, ha, hs⟩ := h
  exact ⟨⟨l, ht, hl.trans hle⟩, k, hd, fun d hk => ⟨hactions (ha d hk).1, (ha d hk).2⟩, hs.trans hpq⟩

/-- **What the loop does** from the candidate of an index on. -/
theorem adds_loop {report : String → Option RecoveryAction → Books → AutonomousReport}
    {ranked : List RecoveryActionCandidate} {index : ℕ} {r : Except PyExn AutonomousReport}
    (h : (c.loop ns deployment evidence report index ranked b).run s = (r, s')) :
    Adds c (ranked.map (·.action)) (c.maxReplanAttempts + 1 - index)
      (c.Reaches ns deployment evidence index ranked b s) s s' := by
  induction ranked generalizing index b s with
  | nil =>
      obtain ⟨-, rfl⟩ := Prod.mk.inj h
      exact adds_nothing id
  | cons candidate rest ih =>
      rw [loop] at h
      by_cases hlast : c.maxReplanAttempts < index
      · rw [if_pos hlast] at h
        obtain ⟨-, rfl⟩ := Prod.mk.inj h
        refine adds_nothing fun hreaches => ?_
        rw [Reaches] at hreaches
        omega
      rw [if_neg hlast] at h
      have hhead : [candidate.action] ⊆ (candidate :: rest).map (·.action) := by simp
      rcases Eff.run_bind_cases h with ⟨exc, hturn, -⟩ | ⟨outcome, s₁, hturn, hrest⟩
      · refine (adds_turn hturn).weaken hhead (by omega) ?_
        rw [Reaches, hturn]
        constructor
        · exact fun hscale => ⟨by omega, .inl hscale⟩
        · rintro ⟨-, hscale | ⟨b', s₂, hrun, -⟩⟩
          · exact hscale
          · cases hrun
      rcases outcome with b' | b'
      case recovered =>
        obtain ⟨-, rfl⟩ := Prod.mk.inj hrest
        refine (adds_turn hturn).weaken hhead (by omega) ?_
        rw [Reaches, hturn]
        constructor
        · exact fun hscale => ⟨by omega, .inl hscale⟩
        · rintro ⟨-, hscale | ⟨b₂, s₂, hrun, -⟩⟩
          · exact hscale
          · cases hrun
      case next =>
        refine ((adds_turn hturn).trans (ih hrest)).weaken (by simp) (by omega) ?_
        rw [Reaches, hturn]
        constructor
        · rintro (hscale | hreaches)
          · exact ⟨by omega, .inl hscale⟩
          · exact ⟨by omega, .inr ⟨b', s₁, rfl, hreaches⟩⟩
        · rintro ⟨-, hscale | ⟨b₂, s₂, hrun, hreaches⟩⟩
          · exact .inl hscale
          · cases hrun
            exact .inr hreaches

end Turn

/-! ### The run -/

section Run

variable {c} {ns deployment metric : String} {threshold : PyFloat} {evidence : EvidenceSnapshot}

/-- **What is ranked**: both reviewing agents approve it, and a scale-out has the target. -/
theorem plan_ranked {p : Plan} (h : c.plan ns deployment metric threshold evidence = .ok p)
    {candidate : RecoveryActionCandidate} (hmem : candidate ∈ p.ranked) :
    (c.infraAgent.review candidate.action).approved = true ∧
      (c.costAgent.review candidate.action).approved = true ∧
      (candidate.action.kind = .scaleOut → candidate.action.replicas =
        some (targetReplicas c.policy p.diagnosis.severity evidence.desiredReplicas)) := by
  unfold plan at h
  obtain ⟨⟨diagnosis, haDecision⟩, -, h⟩ := bind_eq_ok h
  by_cases happroved : haDecision.approved = false
  · simp only [if_pos happroved] at h
    obtain rfl := Except.ok.inj h
    cases hmem
  simp only [if_neg happroved] at h
  obtain ⟨infra, hinfra, h⟩ := bind_eq_ok h
  obtain ⟨cost, hcost, h⟩ := bind_eq_ok h
  obtain ⟨ranked, hranked, h⟩ := bind_eq_ok h
  obtain rfl := Except.ok.inj h
  obtain ⟨hcandidate, ⟨i, hi, hi'⟩, k, hk, hk'⟩ := approved_of_mem_rankCandidates hranked hmem
  obtain ⟨x, hx, hxkind, hxapproved⟩ := evaluationOfKind_evaluateWith hinfra hi
  obtain ⟨y, hy, hykind, hyapproved⟩ := evaluationOfKind_evaluateWith hcost hk
  rw [mem_generateRecoveryCandidates] at hcandidate hx hy
  -- the three candidates have different kinds
  have hsame : ∀ z, (z = observeCandidate c.fl c.policy ns deployment diagnosis ∨
      z = restartCandidate c.fl c.policy ns deployment diagnosis ∨
      z = scaleCandidate c.fl c.policy ns deployment diagnosis evidence) →
      z.action.kind = candidate.action.kind → z = candidate := by
    rcases hcandidate with rfl | rfl | rfl <;> rintro z (rfl | rfl | rfl) hkind <;>
      first | rfl | cases hkind
  rw [hsame x hx hxkind] at hxapproved
  rw [hsame y hy hykind] at hyapproved
  refine ⟨hxapproved.symm.trans hi', hyapproved.symm.trans hk', fun hkind => ?_⟩
  rcases hcandidate with rfl | rfl | rfl
  · cases hkind
  · cases hkind
  · rfl

theorem plan_rejected {p : Plan} (h : c.plan ns deployment metric threshold evidence = .ok p)
    (hrejected : p.haDecision.approved = false) : p.ranked = [] := by
  unfold plan at h
  obtain ⟨⟨diagnosis, haDecision⟩, -, h⟩ := bind_eq_ok h
  by_cases happroved : haDecision.approved = false
  · simp only [if_pos happroved] at h
    obtain rfl := Except.ok.inj h
    rfl
  · simp only [if_neg happroved] at h
    obtain ⟨infra, -, h⟩ := bind_eq_ok h
    obtain ⟨cost, -, h⟩ := bind_eq_ok h
    obtain ⟨ranked, -, h⟩ := bind_eq_ok h
    obtain rfl := Except.ok.inj h
    exact absurd hrejected happroved

/-- The condition: at most four replicas were observed, or the loop comes to no scale-out. -/
def ScalesOutOnly (c : AutonomousAIOpsCoordinator σ) (ns deployment metric : String)
    (threshold : PyFloat) (env : σ) : Prop :=
  ∀ evidence env' p, (c.collect ns deployment).run env = (.ok evidence, env') →
    c.plan ns deployment metric threshold evidence = .ok p →
      evidence.desiredReplicas ≤ 4 ∨
        ¬c.Reaches ns deployment evidence 0 p.ranked c.openingBooks (.start env')

/-- A run starts with the evidence that it collects. -/
theorem run_start (c : AutonomousAIOpsCoordinator σ) (ns deployment metric : String)
    (threshold : PyFloat) (env : σ) :
    (c.run ns deployment metric threshold).run (.start env) =
      match (c.collect ns deployment).run env with
      | (.error exc, env') => (.error exc, .start env')
      | (.ok evidence, env') => (c.recover ns deployment metric threshold evidence).run (.start env') := by
  unfold run
  rcases hcollect : (c.collect ns deployment).run env with ⟨exc | evidence, env'⟩ <;>
    simp only [Eff.run_bind, Course.call, Course.onJournal, Journal.call, Eff.run_zoom, Course.start,
      Journal.start, hcollect]

/-- **What a run does after the evidence**: what its loop does, and nothing without a plan. -/
theorem adds_recover {r : Except PyExn AutonomousReport} {s s' : Course σ}
    (h : (c.recover ns deployment metric threshold evidence).run s = (r, s')) :
    ∃ ranked : List RecoveryActionCandidate,
      (∀ candidate ∈ ranked, ∃ p, c.plan ns deployment metric threshold evidence = .ok p ∧
        candidate ∈ p.ranked) ∧
      Adds c (ranked.map (·.action)) (c.maxReplanAttempts + 1)
        (∃ p, c.plan ns deployment metric threshold evidence = .ok p ∧
          c.Reaches ns deployment evidence 0 p.ranked c.openingBooks s) s s' := by
  unfold recover at h
  rcases hplan : c.plan ns deployment metric threshold evidence with exc | p
  · rw [hplan, Eff.run_bind, Eff.run_ofExcept] at h
    obtain ⟨-, rfl⟩ := Prod.mk.inj h
    refine ⟨[], by simp, adds_nothing ?_⟩
    rintro ⟨p, hp, -⟩
    cases hp
  rw [hplan, Eff.run_bind, Eff.run_ofExcept] at h
  by_cases hrejected : p.haDecision.approved = false
  · simp only [if_pos hrejected] at h
    obtain ⟨-, rfl⟩ := Prod.mk.inj h
    refine ⟨[], by simp, adds_nothing ?_⟩
    rintro ⟨q, hq, hreaches⟩
    obtain rfl := Except.ok.inj hq
    rw [plan_rejected hplan hrejected] at hreaches
    exact hreaches
  · simp only [if_neg hrejected] at h
    refine ⟨p.ranked, fun candidate hmem => ⟨p, rfl, hmem⟩, (adds_loop h).weaken (List.Subset.refl _)
      (Nat.sub_le _ _) ?_⟩
    constructor
    · exact fun hreaches => ⟨p, rfl, hreaches⟩
    · rintro ⟨q, hq, hreaches⟩
      obtain rfl := Except.ok.inj hq
      exact hreaches

/-- **When a run is safe**: in every other respect it always is, and it never scales in exactly
when at most four replicas were observed or it comes to no scale-out. -/
theorem run_safe_iff (c : AutonomousAIOpsCoordinator σ) (ns deployment metric : String)
    (threshold : PyFloat) (env : σ) :
    c.Safe ns deployment env ((c.run ns deployment metric threshold).run (.start env)).2 ↔
      c.ScalesOutOnly ns deployment metric threshold env := by
  rw [run_start]
  rcases hcollect : (c.collect ns deployment).run env with ⟨exc | evidence, env'⟩
  · refine ⟨fun _ evidence _ _ h => ?_, fun _ => ⟨fun d hd => (List.not_mem_nil hd).elim,
      Nat.zero_le _⟩⟩
    rw [hcollect] at h
    cases h
  show c.Safe ns deployment env
    ((c.recover ns deployment metric threshold evidence).run (.start env')).2 ↔ _
  rcases hrun : (c.recover ns deployment metric threshold evidence).run (.start env') with ⟨r, s'⟩
  obtain ⟨ranked, hranked, ⟨l, htried, hl⟩, ds, hdispatched, haccepted, hscales⟩ := adds_recover hrun
  have hmem : ∀ d, d ∈ s'.journal.dispatched ↔ d ∈ ds := fun d => by rw [hdispatched]; rfl
  have hlength : s'.tried.length ≤ c.maxReplanAttempts + 1 := by rwa [htried]
  -- what was executed comes from the plan
  have hplanned : ∀ d ∈ ds, ∃ p candidate, c.plan ns deployment metric threshold evidence = .ok p ∧
      candidate ∈ p.ranked ∧ d.action = candidate.action := fun d hd => by
    obtain ⟨candidate, hcandidate, hd'⟩ := List.mem_map.1 (haccepted d hd).1
    obtain ⟨p, hp, hmem⟩ := hranked candidate hcandidate
    exact ⟨p, candidate, hp, hmem, hd'.symm⟩
  constructor
  · intro hsafe evidence' env₂ p h hp
    obtain ⟨hev, rfl⟩ := Prod.mk.inj (hcollect.symm.trans h)
    obtain rfl := Except.ok.inj hev
    by_contra hnot
    rw [not_or, not_not] at hnot
    obtain ⟨d, hd, hkind⟩ := hscales.2 ⟨p, hp, hnot.2⟩
    obtain ⟨q, candidate, hq, hcandidate, hd'⟩ := hplanned d hd
    obtain ⟨evidence₂, env₂, h₂, hallowed⟩ := hsafe.allowed d ((hmem d).2 hd)
    obtain ⟨hev, -⟩ := Prod.mk.inj (hcollect.symm.trans h₂)
    obtain rfl := Except.ok.inj hev
    obtain ⟨replicas, hreplicas, hlt⟩ := hallowed.scalesOut hkind
    rw [hd', (plan_ranked hq hcandidate).2.2 (hd' ▸ hkind)] at hreplicas
    obtain rfl := Option.some.inj hreplicas
    exact hnot.1 (lt_targetReplicas_iff.1 hlt)
  · intro hcondition
    refine ⟨fun d hd => ⟨evidence, env', hcollect, ?_⟩, hlength⟩
    obtain ⟨p, candidate, hp, hcandidate, hd'⟩ := hplanned d ((hmem d).1 hd)
    obtain ⟨hinfra, hcost, htarget⟩ := plan_ranked hp hcandidate
    refine ⟨hd' ▸ hinfra, hd' ▸ hcost, (haccepted d ((hmem d).1 hd)).2, fun hkind => ?_⟩
    rcases hcondition evidence env' p hcollect hp with hfew | hnot
    · exact ⟨_, hd' ▸ htarget (hd' ▸ hkind), lt_targetReplicas_iff.2 hfew⟩
    · obtain ⟨q, hq, hreaches⟩ := hscales.1 ⟨d, (hmem d).1 hd, hkind⟩
      obtain rfl := Except.ok.inj (hp.symm.trans hq)
      exact absurd hreaches hnot

end Run

/-- Evidence of a saturated deployment with eight replicas. -/
def eightReplicas : EvidenceSnapshot :=
  ⟨"prod", "web", [("cpu", 95)], 8, 8, 0, ["Running"], [], [], none, none, "", "kubernetes"⟩

/-- A coordinator in mock mode with permissive limits, whose monitor confirms every action. -/
def permissive : AutonomousAIOpsCoordinator Unit where
  executor :=
    { validator := ⟨["prod"], ["web"], 1, 10⟩
      mode := .mock
      backend := .python
      runner := fun _ => pure (0, "", "")
      goGuard := fun _ _ => pure (emptyResult "mock" "") }
  collect := fun _ _ => pure eightReplicas
  assess := fun _ _ _ _ => pure ⟨true, 1, "", 1, false⟩
  maxReplanAttempts := 1
  haAgent := fun _ _ _ => .ok (⟨"web", "cpu_saturation", "warning", 88 / 100, []⟩,
    ⟨"AIServiceHASupportAgent", "ha_recovery_required", .finite 1, true, "cpu", []⟩)
  policy := ⟨[("cpu_saturation", "scale_out")], [], 3, 5⟩
  infraAgent := ⟨"AISemiconductorInfraOpsAgent", 10⟩
  costAgent := ⟨"CostOptimizationAgent", 10⟩
  fl := id

theorem permissive_dispatched :
    ((permissive.run "prod" "web" "cpu" (.finite 80)).run (.start ())).2.journal.dispatched.map
      (fun d => (d.action.kind, d.action.replicas)) = [(.scaleOut, some 5)] := by
  decide +kernel

/-- **A saturated deployment of eight replicas is scaled out to five.** -/
theorem permissive_not_safe : ¬permissive.Safe "prod" "web" ()
    ((permissive.run "prod" "web" "cpu" (.finite 80)).run (.start ())).2 := by
  intro hsafe
  obtain ⟨d, hd, hscale⟩ := List.mem_map.1 (permissive_dispatched ▸ List.mem_singleton.2 rfl)
  obtain ⟨hkind, hreplicas⟩ := Prod.mk.inj hscale
  obtain ⟨evidence, env', hcollect, hallowed⟩ := hsafe.allowed d hd
  obtain ⟨replicas, hsome, hlt⟩ := hallowed.scalesOut hkind
  obtain rfl := Option.some.inj (hreplicas.symm.trans hsome)
  have hevidence : eightReplicas = evidence := Except.ok.inj (Prod.mk.inj hcollect).1
  rw [← hevidence] at hlt
  exact absurd hlt (by decide)

end AutonomousAIOpsCoordinator
end Agents
end AiopsK8s
