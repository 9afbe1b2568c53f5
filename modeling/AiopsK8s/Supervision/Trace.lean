/-
# What a step of a run adds to the trace

`Appends S m`: whatever `m` does, it adds events of the streams `S` to the end
of the trace and hands identifiers out in order.  The environment cannot touch
the trace, so a call adds nothing (`Appends.call`), and the lemma of each step
of `run` lists the streams it writes.

An invariant that only looks at some streams survives every step that does not
write them: this is how `Stable` facts about the trace follow from `Appends`.
-/

import AiopsK8s.Supervision.Run

namespace AiopsK8s
namespace Supervision

open Effect Act

variable {σ α β : Type}

/-- From any state, `m` adds events of the streams `S` to the trace. -/
def Appends (S : List Stream) (m : Act σ α) : Prop :=
  ∀ s r s', m.run s = (r, s') →
    s.nextId ≤ s'.nextId ∧ ∃ l, s'.trace = s.trace ++ l ∧ ∀ e ∈ l, e.stream ∈ S

namespace Appends

variable {S S' : List Stream}

theorem mono {m : Act σ α} (h : Appends S m) (hS : S ⊆ S') : Appends S' m := by
  intro s r s' hr
  obtain ⟨hn, l, hl, hS'⟩ := h s r s' hr
  exact ⟨hn, l, hl, fun e he => hS (hS' e he)⟩

/-- A step without streams leaves the trace alone. -/
theorem trace_eq {m : Act σ α} (h : Appends [] m) {s s' : RunState σ} {r : Except PyExn α}
    (hr : m.run s = (r, s')) : s'.trace = s.trace ∧ s.nextId ≤ s'.nextId := by
  obtain ⟨hn, l, hl, hS⟩ := h s r s' hr
  have : l = [] := List.eq_nil_iff_forall_not_mem.2 fun e he => List.not_mem_nil (hS e he)
  exact ⟨by rw [hl, this, List.append_nil], hn⟩

/-- A step that leaves the trace alone. -/
theorem of_trace_eq {m : Act σ α}
    (h : ∀ s, (m.run s).2.trace = s.trace ∧ s.nextId ≤ (m.run s).2.nextId) : Appends S m := by
  intro s r s' hr
  obtain ⟨ht, hn⟩ := h s
  rw [hr] at ht hn
  exact ⟨hn, [], by simpa using ht, by simp⟩

theorem pure (a : α) : Appends S (Pure.pure a : Act σ α) := of_trace_eq fun _ => ⟨rfl, le_rfl⟩

theorem raise (e : PyExn) : Appends S (Eff.raise e : Act σ α) :=
  of_trace_eq fun _ => ⟨rfl, le_rfl⟩

theorem call (m : Eff σ PyExn α) : Appends S (Act.call m) := of_trace_eq fun _ => ⟨rfl, le_rfl⟩

theorem newTraceId (label : String) : Appends S (Act.newTraceId label : Act σ String) :=
  of_trace_eq fun _ => ⟨rfl, Nat.le_succ _⟩

theorem ofExcept (x : Except PyExn α) : Appends S (Act.ofExcept x : Act σ α) := by
  cases x with
  | ok a => exact pure a
  | error e => exact raise e

theorem note {e : Event} (h : e.stream ∈ S) : Appends S (Act.note e : Act σ Unit) := by
  intro s r s' hr
  cases hr
  exact ⟨le_rfl, [e], rfl, by simpa using h⟩

theorem bind {m : Act σ α} {f : α → Act σ β} (hm : Appends S m) (hf : ∀ a, Appends S (f a)) :
    Appends S (m >>= f) := by
  intro s r s' hr
  rw [Eff.run_bind] at hr
  rcases hrun : m.run s with ⟨a | a, s₁⟩
  · rw [hrun] at hr
    cases hr
    exact hm s _ _ hrun
  · rw [hrun] at hr
    obtain ⟨hn₁, l₁, hl₁, hS₁⟩ := hm s _ _ hrun
    obtain ⟨hn₂, l₂, hl₂, hS₂⟩ := hf a s₁ _ _ hr
    refine ⟨hn₁.trans hn₂, l₁ ++ l₂, by rw [hl₂, hl₁, List.append_assoc], fun e he => ?_⟩
    rcases List.mem_append.1 he with he | he
    · exact hS₁ e he
    · exact hS₂ e he

theorem attempt {m : Act σ α} {catches : PyExn → Bool} (hm : Appends S m) :
    Appends S (Eff.attempt catches m) := by
  intro s r s' hr
  rcases hrun : m s with ⟨a | a, s₁⟩
  · simp only [Eff.attempt, Eff.run, hrun] at hr
    cases hc : catches a <;> simp only [hc] at hr <;> cases hr <;> exact hm s _ _ hrun
  · simp only [Eff.attempt, Eff.run, hrun] at hr
    cases hr
    exact hm s _ _ hrun

theorem ensuring {m : Act σ α} {after : Act σ Unit} (hm : Appends S m) (ha : Appends S after) :
    Appends S (Eff.ensuring m after) := by
  have hboth : Appends S (Eff.attempt (fun _ => true) m >>= fun _ => after) :=
    (hm.attempt).bind fun _ => ha
  intro s r s' hr
  rcases hrun : m s with ⟨x, s₁⟩
  rcases hafter : after s₁ with ⟨y, s₂⟩
  have hs' : s' = s₂ := by
    simp only [Eff.ensuring, Eff.run, hrun, hafter] at hr
    cases y <;> cases hr <;> rfl
  subst hs'
  refine hboth s y s' ?_
  rw [Eff.run_bind]
  cases x <;> simp [Eff.attempt, Eff.run, hrun, hafter]

theorem forM {l : List β} {f : β → Act σ PUnit} (hf : ∀ b, Appends S (f b)) :
    Appends S (l.forM f) := by
  induction l with
  | nil => exact pure _
  | cons b l ih => exact (hf b).bind fun _ => ih

theorem ite {p : Prop} [Decidable p] {m₁ m₂ : Act σ α} (h₁ : Appends S m₁) (h₂ : Appends S m₂) :
    Appends S (if p then m₁ else m₂) := by
  split
  · exact h₁
  · exact h₂

/-- An invariant that ignores the environment and the streams `S` is kept. -/
theorem stable {I : RunState σ → Prop} {m : Act σ α} (hm : Appends S m)
    (hI : ∀ (s s' : RunState σ) (l : List Event), I s → s'.trace = s.trace ++ l →
      s.nextId ≤ s'.nextId → (∀ e ∈ l, e.stream ∈ S) → I s') : Stable I m := by
  refine fun s hs => ⟨fun a s' hr => ?_, fun e s' hr => ?_⟩ <;>
    obtain ⟨hn, l, hl, hS⟩ := hm s _ s' hr
  · exact hI s s' l hs hl hn hS
  · exact hI s s' l hs hl hn hS

end Appends

/-- A check that passed left the state alone. -/
theorem ofExcept_run_ok {x : Except PyExn α} {a : α} {s s' : RunState σ}
    (h : (Act.ofExcept x).run s = (.ok a, s')) : x = .ok a ∧ s' = s := by
  cases x with
  | error e => cases h
  | ok b =>
      cases h
      exact ⟨rfl, rfl⟩

namespace Coordinator

variable (c : Coordinator σ)

/-- `_record` adds one event, also when the event store raises. -/
theorem record_run {e : Event} {s s' : RunState σ} {r : Except PyExn Unit}
    (h : (c.record e).run s = (r, s')) : s'.trace = s.trace ++ [e] ∧ s'.nextId = s.nextId := by
  rcases Eff.run_bind_cases h with ⟨_, hn, _⟩ | ⟨_, s₁, hn, h⟩
  · cases hn
  · cases hn
    split at h <;> cases h <;> exact ⟨rfl, rfl⟩

theorem appends_checkRuntimeControl {S : List Stream} : Appends S c.checkRuntimeControl := by
  unfold checkRuntimeControl
  split
  · exact .pure _
  · exact .call _

theorem appends_record {S : List Stream} {e : Event} (h : e.stream ∈ S) :
    Appends S (c.record e) := by
  refine (Appends.note h).bind fun _ => ?_
  split
  · exact .pure _
  · exact .call _

theorem appends_beginAdapterRun {runId : String} : Appends [] (c.beginAdapterRun runId) :=
  .forM fun _ => .call _

theorem appends_finalizeReport {report : Report} :
    Appends [.agentContributions] (c.finalizeReport report) := by
  unfold finalizeReport
  dsimp only
  split
  · exact .pure _
  · refine Appends.bind (Appends.forM fun _ => c.appends_record ?_) fun _ => ?_
    · exact List.mem_singleton.2 rfl
    exact .ite (.pure _) ((Appends.call _).bind fun _ => .pure _)

theorem appends_reviewOnce {adapter : AgentAdapter σ} {runId : String} {roundIndex : ℕ}
    {decision : SupervisionDecision} {diagnosis : Diagnosis} {evidence : EvidenceSnapshot} :
    Appends [] (c.reviewOnce adapter runId roundIndex decision diagnosis evidence) := by
  refine (Appends.call _).bind fun reply => ?_
  split
  · exact .pure _
  · exact (Appends.newTraceId _).bind fun _ => (Appends.ofExcept _).bind fun _ => .pure _

theorem appends_collectReviews {runId : String} {roundIndex : ℕ} {decision : SupervisionDecision}
    {diagnosis : Diagnosis} {evidence : EvidenceSnapshot} {reviewers : List String}
    {reviews : List PeerReview} :
    Appends [.peerReviews]
      (c.collectReviews runId roundIndex decision diagnosis evidence reviewers reviews) := by
  induction reviewers generalizing reviews with
  | nil => exact .pure _
  | cons reviewer rest ih =>
      unfold collectReviews
      split
      · exact ih
      · refine (c.appends_reviewOnce.mono (by simp)).attempt.bind fun outcome => ?_
        split
        · exact .pure _
        · exact ih
        · refine (c.appends_record ?_).bind fun _ => ih
          exact List.mem_singleton.2 rfl

theorem appends_resolveRound {runId : String} {roundIndex : ℕ} {decision : SupervisionDecision}
    {action : RecoveryAction} {evidence : EvidenceSnapshot} {reviews : List PeerReview}
    {t : NegotiationTrace} : Appends [.negotiationRounds]
      (c.resolveRound runId roundIndex decision action evidence reviews t) := by
  have hround (r : NegotiationRound) :
      Appends [.negotiationRounds] (c.record (.negotiationRound r)) :=
    c.appends_record (List.mem_singleton.2 rfl)
  unfold resolveRound
  dsimp only
  split
  · exact (hround _).bind fun _ => .pure _
  · split
    · split
      · exact (hround _).bind fun _ => .pure _
      · exact (hround _).bind fun _ => .pure _
    · exact (Appends.newTraceId _).bind fun _ => (hround _).bind fun _ => .pure _

/-- The streams that a negotiation writes. -/
def negotiationStreams : List Stream := [.initialDecisions, .peerReviews, .negotiationRounds]

theorem appends_negotiateRound {runId proposalAgent : String} {diagnosis : Diagnosis}
    {evidence : EvidenceSnapshot} {candidates : List RecoveryActionCandidate} {roundIndex : ℕ}
    {action : RecoveryAction} {t : NegotiationTrace} : Appends negotiationStreams
      (c.negotiateRound runId proposalAgent diagnosis evidence candidates roundIndex action t) := by
  refine (Appends.newTraceId _).bind fun decisionId => ?_
  refine (c.appends_record (by simp [negotiationStreams, Event.stream])).bind fun _ => ?_
  refine (Appends.mono ?_ (S := [.peerReviews]) (by simp [negotiationStreams])).bind
    fun outcome => ?_
  · exact c.appends_collectReviews
  · split
    · exact .pure _
    · exact c.appends_resolveRound.mono (by simp [negotiationStreams])

theorem appends_negotiateLoop {runId proposalAgent : String} {diagnosis : Diagnosis}
    {evidence : EvidenceSnapshot} {candidates : List RecoveryActionCandidate}
    {left roundIndex : ℕ} {action : RecoveryAction} {t : NegotiationTrace} :
    Appends negotiationStreams (c.negotiateLoop runId proposalAgent diagnosis evidence candidates
      left roundIndex action t) := by
  induction left generalizing roundIndex action t with
  | zero => exact .pure _
  | succ left ih =>
      refine c.appends_negotiateRound.bind fun outcome => ?_
      split
      · exact .pure _
      · exact .pure _
      · exact ih

theorem appends_negotiate {runId : String} {diagnosis : Diagnosis} {evidence : EvidenceSnapshot}
    {candidates : List RecoveryActionCandidate} {roundOffset : ℕ} : Appends negotiationStreams
      (c.negotiate runId diagnosis evidence candidates roundOffset) := by
  unfold negotiate
  split
  · exact .pure _
  · split
    · exact .raise _
    · exact c.appends_negotiateLoop

theorem appends_postReviewOnce {adapter : AgentAdapter σ} {runId actionId : String}
    {action : RecoveryAction} {after : EvidenceSnapshot} {assessment : RecoveryAssessment} :
    Appends [] (c.postReviewOnce adapter runId actionId action after assessment) := by
  refine (Appends.call _).bind fun reply => ?_
  split
  · exact .pure _
  · exact (Appends.newTraceId _).bind fun _ => (Appends.ofExcept _).bind fun _ => .pure _

theorem appends_postReviewLoop {runId actionId : String} {action : RecoveryAction}
    {after : EvidenceSnapshot} {assessment : RecoveryAssessment} {adapters : List (AgentAdapter σ)}
    {reviews : List PostExecutionReview} : Appends [.postExecutionReviews]
      (c.postReviewLoop runId actionId action after assessment adapters reviews) := by
  induction adapters generalizing reviews with
  | nil => exact .pure _
  | cons adapter rest ih =>
      unfold postReviewLoop
      split
      · refine (c.appends_postReviewOnce.mono (by simp)).attempt.bind fun outcome => ?_
        split
        · exact .pure _
        · exact ih
        · refine (c.appends_record ?_).bind fun _ => ih
          exact List.mem_singleton.2 rfl
      · exact ih

/-- The streams that the block under the operation lock writes. -/
def blockStreams : List Stream :=
  [.executedActions, .executor, .postExecutionReviews, .agentContributions]

theorem appends_withOperationContext {S : List Stream} {ns deployment : String} {body : Act σ α}
    (h : Appends S body) : Appends S (c.withOperationContext ns deployment body) := by
  unfold withOperationContext
  exact .ite h ((Appends.call _).bind fun _ => h.ensuring (.call _))

/-- The block under the operation lock writes the streams of an execution. -/
theorem appends_performAction {ctx : RunContext} {p : Progress} {action : RecoveryAction}
    {validation : SafetyValidation} {actionId : String} :
    Appends blockStreams (c.performAction ctx p action validation actionId) := by
  refine (c.appends_record (by simp [blockStreams, Event.stream])).bind fun _ => ?_
  refine (Appends.note (by simp [blockStreams, Event.stream])).bind fun _ => ?_
  refine (Appends.call _).bind fun execution => ?_
  refine (Appends.note (by simp [blockStreams, Event.stream])).bind fun _ => ?_
  refine c.appends_checkRuntimeControl.bind fun _ => ?_
  refine (c.appends_record (by simp [blockStreams, Event.stream])).bind fun _ => .ite ?_ ?_
  · refine .ite (.pure _) ?_
    exact (c.appends_finalizeReport.mono (by simp [blockStreams])).bind fun _ => .pure _
  · exact (Appends.call _).bind fun _ => (Appends.call _).bind fun _ =>
      (c.appends_postReviewLoop.mono (by simp [blockStreams])).bind fun _ => .pure _

theorem appends_concludeAttempt {ctx : RunContext} {maxAttempts candidateIndex : ℕ} {p : Progress}
    {action : RecoveryAction} {validation : SafetyValidation} {block : Except PyExn BlockResult} :
    Appends [.agentContributions]
      (c.concludeAttempt ctx maxAttempts candidateIndex p action validation block) := by
  unfold concludeAttempt
  split
  · exact c.appends_finalizeReport.bind fun _ => .pure _
  · exact .pure _
  · exact .pure _
  · dsimp only
    split
    · exact c.appends_finalizeReport.bind fun _ => .pure _
    · exact .ite (c.appends_finalizeReport.bind fun _ => .pure _) (.pure _)

/-- From the selected action on, no decision, review or round is written. -/
theorem appends_tryAction {ctx : RunContext} {maxAttempts candidateIndex : ℕ} {p : Progress}
    {action : RecoveryAction} : Appends (.safetyValidations :: blockStreams)
      (c.tryAction ctx maxAttempts candidateIndex p action) := by
  have hquiet : ∀ {β : Type} {m : Act σ β}, Appends [.safetyValidations, .agentContributions] m →
      Appends (.safetyValidations :: blockStreams) m := fun hm => hm.mono (by simp [blockStreams])
  unfold tryAction
  dsimp only
  refine .ite (hquiet ((c.appends_record (by simp [Event.stream])).bind fun _ => .pure _)) ?_
  refine (c.appends_record (by simp [Event.stream])).bind fun _ => ?_
  refine c.appends_checkRuntimeControl.bind fun _ => .ite ?_ ?_
  · exact hquiet ((c.appends_finalizeReport.mono (by simp)).bind fun _ => .pure _)
  · refine (Appends.newTraceId _).bind fun _ => Appends.bind (Appends.attempt ?_) fun _ =>
      hquiet (c.appends_concludeAttempt.mono (by simp))
    exact c.appends_checkRuntimeControl.bind fun _ => c.appends_withOperationContext
      (c.appends_performAction.mono (List.subset_cons_self _ _))

theorem appends_prepareCandidates {ctx : RunContext} {decision : SupervisionDecision} :
    Appends [.agentContributions] (c.prepareCandidates ctx decision) := by
  unfold prepareCandidates
  split
  · exact .raise _
  · refine Appends.bind (Appends.attempt ?_) fun outcome => ?_
    · exact (Appends.call _).bind fun _ => (Appends.ofExcept _).bind fun _ =>
        c.appends_checkRuntimeControl.bind fun _ => .pure _
    · split
      · exact c.appends_finalizeReport.bind fun _ => .pure _
      · exact .pure _

/-- A diagnosis hands out one identifier and records nothing. -/
theorem appends_diagnoseOnce {adapter : AgentAdapter σ} {runId deployment metric : String}
    {threshold : ℚ} {evidence : EvidenceSnapshot} :
    Appends [] (c.diagnoseOnce adapter runId deployment metric threshold evidence) :=
  (Appends.call _).bind fun _ => (Appends.newTraceId _).bind fun _ =>
    (Appends.ofExcept _).bind fun _ => c.appends_checkRuntimeControl.bind fun _ => .pure _

theorem appends_prepareDiagnosis {runId ns deployment metric : String} {threshold : ℚ}
    {evidence : EvidenceSnapshot} : Appends [.initialDecisions, .agentContributions]
      (c.prepareDiagnosis runId ns deployment metric threshold evidence) := by
  unfold prepareDiagnosis
  split
  · exact .raise _
  · refine (c.appends_diagnoseOnce.mono (by simp)).attempt.bind fun outcome => ?_
    split
    · exact (c.appends_finalizeReport.mono (by simp)).bind fun _ => .pure _
    · refine (c.appends_record (by simp [Event.stream])).bind fun _ => ?_
      refine c.appends_checkRuntimeControl.bind fun _ => .ite ?_ ?_
      · exact (c.appends_finalizeReport.mono (by simp)).bind fun _ => .pure _
      · exact c.appends_prepareCandidates.mono (by simp)

theorem appends_prepare {ns deployment metric : String} {threshold : ℚ} :
    Appends [.protocolProfiles, .evidence, .initialDecisions, .agentContributions]
      (c.prepare ns deployment metric threshold) := by
  refine c.appends_checkRuntimeControl.bind fun _ => (Appends.newTraceId _).bind fun _ => ?_
  refine (c.appends_beginAdapterRun.mono (by simp)).bind fun _ => ?_
  refine (c.appends_record (by simp [Event.stream])).bind fun _ => .ite ?_ ?_
  · exact (c.appends_finalizeReport.mono (by simp)).bind fun _ => .pure _
  · refine c.appends_checkRuntimeControl.bind fun _ => (Appends.call _).bind fun _ => ?_
    refine c.appends_checkRuntimeControl.bind fun _ => ?_
    refine (c.appends_record (by simp [Event.stream])).bind fun _ => ?_
    exact c.appends_prepareDiagnosis.mono (by simp)

end Coordinator
end Supervision
end AiopsK8s
