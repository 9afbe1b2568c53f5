/-
# Consent: what a negotiation establishes

`Consent` says, without following the code, that a trace agrees on an action: a
decision proposed exactly this action, the last round of the trace is about this
decision and approved it, and no veto with force stands among the reviews of the
decision.

Identifiers are handed out once (`FreshIds`), so the reviews that name the
decision of a round are the reviews of that round.  `negotiate_consent`: the
action on which a negotiation settles has consent, whichever candidate and
whichever round it comes from.
-/

import AiopsK8s.Supervision.Trace

namespace AiopsK8s
namespace Supervision

open Effect Act

/-- The round of an event. -/
def Event.round? : Event → Option NegotiationRound
  | negotiationRound r => some r
  | _ => none

/-- The decision of an event. -/
def Event.decision? : Event → Option SupervisionDecision
  | decision d => some d
  | _ => none

/-- The peer review of an event. -/
def Event.review? : Event → Option PeerReview
  | peerReview r => some r
  | _ => none

/-- The evidence of an event. -/
def Event.evidence? : Event → Option EvidenceSnapshot
  | evidence e => some e
  | _ => none

/-- The reviews in a trace that are about a decision. -/
def reviewsFor (trace : List Event) (d : SupervisionDecision) : List PeerReview :=
  (trace.filterMap Event.review?).filter (·.targetDecisionId == d.decisionId)

/-- The agreement on an action: the decision `d` that proposed it and the last
round `r` of the trace, which approved it. -/
structure Consent (protocol : ResearchProtocolProfile) (trace : List Event) (action : RecoveryAction)
    (d : SupervisionDecision) (r : NegotiationRound) : Prop where
  last : (trace.filterMap Event.round?).getLast? = some r
  approved : r.consensusStatus = .approved
  input : r.inputDecisionIds = [d.decisionId]
  recorded : d ∈ trace.filterMap Event.decision?
  unique : ∀ d' ∈ trace.filterMap Event.decision?, d'.decisionId = d.decisionId → d' = d
  proposed : d.proposedAction = some action
  reviewed : r.reviewIds = (reviewsFor trace d).map (·.reviewId)
  no_veto : r.remainingVetoes = []
  no_blocking : ∀ v ∈ reviewsFor trace d,
    ¬ConsensusResolver.BlockingVeto protocol (decisionScopes action) v

/-- The identifiers of the recorded decisions, and those the recorded reviews
are about, have been handed out. -/
def FreshIds {σ : Type} (s : RunState σ) : Prop :=
  (∀ d ∈ s.trace.filterMap Event.decision?, ∃ k < s.nextId, d.decisionId = traceId "decision" k) ∧
    ∀ v ∈ s.trace.filterMap Event.review?, ∃ k < s.nextId,
      v.targetDecisionId = traceId "decision" k

/-- The events of the streams `S` have no `f`. -/
def Ignores {α : Type} (f : Event → Option α) (S : List Stream) : Prop :=
  ∀ e : Event, e.stream ∈ S → f e = none

theorem filterMap_append_of_ignores {α : Type} {f : Event → Option α} {S : List Stream}
    (hf : Ignores f S) (trace : List Event) {l : List Event} (hl : ∀ e ∈ l, e.stream ∈ S) :
    (trace ++ l).filterMap f = trace.filterMap f := by
  rw [List.filterMap_append, List.filterMap_eq_nil_iff.2 fun e he => hf e (hl e he),
    List.append_nil]

theorem ignores_round {S : List Stream} (h : .negotiationRounds ∉ S) :
    Ignores Event.round? S := by
  intro e he
  cases e <;> first | rfl | exact absurd he h

theorem ignores_decision {S : List Stream} (h : .initialDecisions ∉ S) :
    Ignores Event.decision? S := by
  intro e he
  cases e <;> first | rfl | exact absurd he h

theorem ignores_review {S : List Stream} (h : .peerReviews ∉ S) : Ignores Event.review? S := by
  intro e he
  cases e <;> first | rfl | exact absurd he h

theorem ignores_evidence {S : List Stream} (h : .evidence ∉ S) : Ignores Event.evidence? S := by
  intro e he
  cases e <;> first | rfl | exact absurd he h

/-- Consent survives events that are no decisions, reviews or rounds. -/
theorem Consent.append {protocol : ResearchProtocolProfile} {trace l : List Event}
    {action : RecoveryAction} {d : SupervisionDecision} {r : NegotiationRound} {S : List Stream}
    (h : Consent protocol trace action d r) (hl : ∀ e ∈ l, e.stream ∈ S)
    (hS : ∀ stream ∈ Coordinator.negotiationStreams, stream ∉ S) :
    Consent protocol (trace ++ l) action d r := by
  have hround := filterMap_append_of_ignores
    (ignores_round (hS _ (by simp [Coordinator.negotiationStreams]))) trace hl
  have hdecision := filterMap_append_of_ignores
    (ignores_decision (hS _ (by simp [Coordinator.negotiationStreams]))) trace hl
  have hreview := filterMap_append_of_ignores
    (ignores_review (hS _ (by simp [Coordinator.negotiationStreams]))) trace hl
  have hfor : reviewsFor (trace ++ l) d = reviewsFor trace d := by
    rw [reviewsFor, hreview, reviewsFor]
  exact ⟨hround ▸ h.last, h.approved, h.input, hdecision ▸ h.recorded, hdecision ▸ h.unique,
    h.proposed, hfor ▸ h.reviewed, h.no_veto, hfor ▸ h.no_blocking⟩

/-- Identifiers stay fresh through a step that records no decision and no review. -/
theorem FreshIds.of_append {σ : Type} {s s' : RunState σ} {l : List Event} {S : List Stream}
    (h : FreshIds s) (ht : s'.trace = s.trace ++ l) (hn : s.nextId ≤ s'.nextId)
    (hl : ∀ e ∈ l, e.stream ∈ S) (hd : .initialDecisions ∉ S) (hr : .peerReviews ∉ S) :
    FreshIds s' := by
  unfold FreshIds
  rw [ht, filterMap_append_of_ignores (ignores_decision hd) _ hl,
    filterMap_append_of_ignores (ignores_review hr) _ hl]
  refine ⟨fun d hd => ?_, fun v hv => ?_⟩
  · obtain ⟨k, hk, he⟩ := h.1 d hd
    exact ⟨k, hk.trans_le hn, he⟩
  · obtain ⟨k, hk, he⟩ := h.2 v hv
    exact ⟨k, hk.trans_le hn, he⟩

/-- A decision under an identifier that has been handed out. -/
theorem FreshIds.snoc_decision {σ : Type} {s s' : RunState σ} {d : SupervisionDecision} {k : ℕ}
    (h : FreshIds s) (hk : k < s'.nextId) (hid : d.decisionId = traceId "decision" k)
    (ht : s'.trace = s.trace ++ [.decision d]) (hn : s.nextId ≤ s'.nextId) : FreshIds s' := by
  have hdecisions : s'.trace.filterMap Event.decision? =
      s.trace.filterMap Event.decision? ++ [d] := by
    simp [ht, Event.decision?]
  have hreviews : s'.trace.filterMap Event.review? = s.trace.filterMap Event.review? := by
    simp [ht, List.filterMap_cons, Event.review?]
  refine ⟨fun d' hd' => ?_, fun v hv => ?_⟩
  · rw [hdecisions] at hd'
    rcases List.mem_append.1 hd' with h' | h'
    · obtain ⟨j, hj, he⟩ := h.1 d' h'
      exact ⟨j, hj.trans_le hn, he⟩
    · obtain rfl := List.mem_singleton.1 h'
      exact ⟨k, hk, hid⟩
  · rw [hreviews] at hv
    obtain ⟨j, hj, he⟩ := h.2 v hv
    exact ⟨j, hj.trans_le hn, he⟩

namespace Coordinator

variable {σ : Type} (c : Coordinator σ)

/-- A review that a reviewer's turn returns is about the given decision. -/
theorem reviewOnce_target {adapter : AgentAdapter σ} {runId : String} {roundIndex : ℕ}
    {decision : SupervisionDecision} {diagnosis : Diagnosis} {evidence : EvidenceSnapshot}
    {s s' : RunState σ} {v : PeerReview}
    (h : (c.reviewOnce adapter runId roundIndex decision diagnosis evidence).run s =
      (.ok (some v), s')) : v.targetDecisionId = decision.decisionId := by
  obtain ⟨reply, s₁, _, h⟩ := Eff.run_bind_ok h
  split at h
  · cases h
  · obtain ⟨reviewId, s₂, _, h⟩ := Eff.run_bind_ok h
    obtain ⟨review, s₃, hc, h⟩ := Eff.run_bind_ok h
    cases h
    exact (normalizePeerReviewOutput_spec (ofExcept_run_ok hc).1).2.2

/-- Collecting reviews records reviews of the given decision and returns those
it has recorded. -/
theorem collectReviews_run {runId : String} {roundIndex : ℕ} {decision : SupervisionDecision}
    {diagnosis : Diagnosis} {evidence : EvidenceSnapshot} {reviewers : List String}
    {reviews : List PeerReview} {s s' : RunState σ}
    {r : Except PyExn (Except ReviewCollectionFailure (List PeerReview))}
    (h : (c.collectReviews runId roundIndex decision diagnosis evidence reviewers reviews).run s =
      (r, s')) :
    s.nextId ≤ s'.nextId ∧ ∃ new : List PeerReview, s'.trace = s.trace ++ new.map .peerReview ∧
      (∀ v ∈ new, v.targetDecisionId = decision.decisionId) ∧
        ∀ result, r = .ok (.ok result) → result = reviews ++ new := by
  induction reviewers generalizing reviews s with
  | nil =>
      cases h
      exact ⟨le_rfl, [], by simp, by simp, fun result hr => by cases hr; simp⟩
  | cons reviewer rest ih =>
      unfold collectReviews at h
      split at h
      · exact ih h
      · rcases Eff.run_bind_cases h with ⟨e, he, rfl⟩ | ⟨outcome, s₁, ho, h⟩
        · obtain ⟨ht, hn⟩ := c.appends_reviewOnce.attempt.trace_eq he
          exact ⟨hn, [], by simp [ht], by simp, fun _ hr => by cases hr⟩
        · obtain ⟨ht, hn⟩ := c.appends_reviewOnce.attempt.trace_eq ho
          split at h
          · cases h
            exact ⟨hn, [], by simp [ht], by simp, fun _ hr => by cases hr⟩
          · obtain ⟨hn', new, ht', htarget, hresult⟩ := ih h
            exact ⟨hn.trans hn', new, by rw [ht', ht], htarget, hresult⟩
          · rename_i review
            have htarget : review.targetDecisionId = decision.decisionId := by
              exact c.reviewOnce_target (Eff.run_attempt_ok ho)
            rcases Eff.run_bind_cases h with ⟨e, he, rfl⟩ | ⟨_, s₂, hrec, h⟩
            · obtain ⟨ht₂, hn₂⟩ := c.record_run he
              exact ⟨hn.trans hn₂.ge, [review], by simp [ht₂, ht], by simpa using htarget,
                fun _ hr => by cases hr⟩
            · obtain ⟨ht₂, hn₂⟩ := c.record_run hrec
              obtain ⟨hn', new, ht', hnew, hresult⟩ := ih h
              refine ⟨(hn.trans hn₂.ge).trans hn', review :: new, by simp [ht', ht₂, ht], ?_, ?_⟩
              · exact List.forall_mem_cons.2 ⟨htarget, hnew⟩
              · intro result hr
                rw [hresult result hr, List.append_assoc, List.singleton_append]

/-- A state in which the decision `d` is recorded under an identifier of its
own and `reviews` are the recorded reviews of it. -/
structure Reviewed (s : RunState σ) (d : SupervisionDecision) (reviews : List PeerReview) :
    Prop where
  fresh : FreshIds s
  recorded : d ∈ s.trace.filterMap Event.decision?
  unique : ∀ d' ∈ s.trace.filterMap Event.decision?, d'.decisionId = d.decisionId → d' = d
  reviews_eq : reviewsFor s.trace d = reviews

/-- Recording a decision under a new identifier, and then reviews of it. -/
theorem reviewed_of_trace {s s' : RunState σ} {d : SupervisionDecision}
    {reviews : List PeerReview} (hs : FreshIds s) (hid : d.decisionId = traceId "decision" s.nextId)
    (ht : s'.trace = s.trace ++ .decision d :: reviews.map .peerReview)
    (hn : s.nextId < s'.nextId) (hr : ∀ v ∈ reviews, v.targetDecisionId = d.decisionId) :
    Reviewed s' d reviews := by
  have hdecisions : s'.trace.filterMap Event.decision? =
      s.trace.filterMap Event.decision? ++ [d] := by
    simp [ht, Event.decision?, List.filterMap_map, Function.comp_def]
  have hreviews : s'.trace.filterMap Event.review? =
      s.trace.filterMap Event.review? ++ reviews := by
    simp [ht, Event.review?, List.filterMap_cons, List.filterMap_map, Function.comp_def]
  have hold : ∀ d' ∈ s.trace.filterMap Event.decision?, d'.decisionId ≠ d.decisionId := by
    intro d' hd' he
    obtain ⟨k, hk, hd'⟩ := hs.1 d' hd'
    rw [hd', hid] at he
    exact hk.ne (traceId_inj he)
  have holdReview : ∀ v ∈ s.trace.filterMap Event.review?, v.targetDecisionId ≠ d.decisionId := by
    intro v hv he
    obtain ⟨k, hk, hv⟩ := hs.2 v hv
    rw [hv, hid] at he
    exact hk.ne (traceId_inj he)
  refine ⟨⟨fun d' hd' => ?_, fun v hv => ?_⟩, ?_, fun d' hd' he => ?_, ?_⟩
  · rw [hdecisions] at hd'
    rcases List.mem_append.1 hd' with h | h
    · obtain ⟨k, hk, he⟩ := hs.1 d' h
      exact ⟨k, hk.trans hn, he⟩
    · obtain rfl := List.mem_singleton.1 h
      exact ⟨s.nextId, hn, hid⟩
  · rw [hreviews] at hv
    rcases List.mem_append.1 hv with h | h
    · obtain ⟨k, hk, he⟩ := hs.2 v h
      exact ⟨k, hk.trans hn, he⟩
    · exact ⟨s.nextId, hn, (hr v h).trans hid⟩
  · rw [hdecisions]
    exact List.mem_append_right _ (List.mem_singleton_self d)
  · rw [hdecisions] at hd'
    rcases List.mem_append.1 hd' with h | h
    · exact absurd he (hold d' h)
    · exact List.mem_singleton.1 h
  · rw [reviewsFor, hreviews, List.filter_append,
      List.filter_eq_nil_iff.2 fun v hv => by simpa using holdReview v hv, List.nil_append]
    exact List.filter_eq_self.2 fun v hv => by simpa using hr v hv

/-- **Resolving the reviews of a decision gives consent to its action, or does
not settle on one.** -/
theorem resolveRound_consent {runId : String} {roundIndex : ℕ} {d : SupervisionDecision}
    {action : RecoveryAction} {evidence : EvidenceSnapshot} {reviews : List PeerReview}
    {t : NegotiationTrace} {s s' : RunState σ} {r : Except PyExn RoundOutcome}
    (hs : Reviewed s d reviews) (hd : d.proposedAction = some action)
    (h : (c.resolveRound runId roundIndex d action evidence reviews t).run s = (r, s')) :
    FreshIds s' ∧ ∀ selected t', r = .ok (.settled (some selected) t') →
      ∃ round, Consent c.protocol s'.trace selected d round := by
  obtain ⟨hn, l, hl, hS⟩ := c.appends_resolveRound s r s' h
  refine ⟨hs.fresh.of_append hl hn hS (by decide) (by decide), fun selected t' hr => ?_⟩
  subst hr
  unfold resolveRound at h
  dsimp only at h
  split at h
  · obtain ⟨_, _, _, h⟩ := Eff.run_bind_ok h
    cases h
  · rename_i happroved
    split at h
    · split at h
      · obtain ⟨_, _, _, h⟩ := Eff.run_bind_ok h
        cases h
      · obtain ⟨_, _, _, h⟩ := Eff.run_bind_ok h
        cases h
    · obtain ⟨actionId, s₁, hid, hround⟩ := Eff.run_bind_ok h
      obtain ⟨_, s₂, hrec, hret⟩ := Eff.run_bind_ok hround
      obtain ⟨ht, -⟩ := c.record_run hrec
      cases hid
      cases hret
      have hok : (ConsensusResolver.resolve c.sum c.protocol reviews (decisionScopes action)).approved
          = true := by simpa using happroved
      have hdecision := filterMap_append_of_ignores
        (ignores_decision (S := [.negotiationRounds]) (by decide)) s.trace hS
      have hreview := filterMap_append_of_ignores
        (ignores_review (S := [.negotiationRounds]) (by decide)) s.trace hS
      have hfor : reviewsFor s'.trace d = reviews := by
        rw [reviewsFor, hl, hreview]
        exact hs.reviews_eq
      have hlast := congrArg (fun l => (l.filterMap Event.round?).getLast?) ht
      simp only [List.filterMap_append, List.filterMap_cons, List.filterMap_nil, Event.round?,
        List.getLast?_concat] at hlast
      refine ⟨_, hlast, rfl, rfl, ?_, ?_, hd, ?_, ?_, ?_⟩
      · rw [hl, hdecision]
        exact hs.recorded
      · rw [hl, hdecision]
        exact hs.unique
      · rw [hfor]
        rfl
      · exact ConsensusResolver.blockingVetoes_of_approved hok
      · rw [hfor]
        exact fun v hv => ConsensusResolver.not_blockingVeto_of_approved hok hv

/-- **What a round of a negotiation does**: it records a decision and reviews of it, and then
either stops or resolves exactly these reviews. -/
theorem negotiateRound_cases {runId proposalAgent : String} {diagnosis : Diagnosis}
    {evidence : EvidenceSnapshot} {candidates : List RecoveryActionCandidate} {roundIndex : ℕ}
    {action : RecoveryAction} {t : NegotiationTrace} {s s' : RunState σ}
    {r : Except PyExn RoundOutcome} (hs : FreshIds s)
    (h : (c.negotiateRound runId proposalAgent diagnosis evidence candidates roundIndex action
      t).run s = (r, s')) :
    ∃ d reviews s₁, Reviewed s₁ d reviews ∧ d.proposedAction = some action ∧
      s₁.trace = s.trace ++ .decision d :: reviews.map .peerReview ∧
      ((s₁ = s' ∧ ∀ selected t', r ≠ .ok (.settled selected t')) ∨
        ∃ t', (c.resolveRound runId roundIndex d action evidence reviews t').run s₁ = (r, s')) := by
  rcases Eff.run_bind_cases h with ⟨_, he, _⟩ | ⟨decisionId, s₁, hid, h⟩
  · cases he
  · cases hid
    let d := c.proposalDecision (traceId "decision" s.nextId) runId roundIndex proposalAgent
      diagnosis evidence candidates action
    rcases Eff.run_bind_cases h with ⟨_, he, rfl⟩ | ⟨_, s₂, hrec, h⟩
    · obtain ⟨ht, hn⟩ := c.record_run he
      have hreviewed : Reviewed s' d [] :=
        reviewed_of_trace hs rfl (by simpa using ht) (by simp [hn]) (by simp)
      exact ⟨d, [], s', hreviewed, rfl, by simpa using ht, .inl ⟨rfl, fun _ _ hr => by cases hr⟩⟩
    · obtain ⟨ht, hn⟩ := c.record_run hrec
      rcases Eff.run_bind_cases h with ⟨_, hcol, rfl⟩ | ⟨outcome, s₃, hcol, h⟩
      · obtain ⟨hn', new, ht', hnew, -⟩ := c.collectReviews_run hcol
        have htrace : s'.trace = s.trace ++ .decision d :: new.map .peerReview := by
          rw [ht', ht, List.append_assoc]
          rfl
        exact ⟨d, new, s', reviewed_of_trace hs rfl htrace (by simp [hn] at hn'; omega) hnew, rfl,
          htrace, .inl ⟨rfl, fun _ _ hr => by cases hr⟩⟩
      · obtain ⟨hn', new, ht', hnew, hresult⟩ := c.collectReviews_run hcol
        have htrace : s₃.trace = s.trace ++ .decision d :: new.map .peerReview := by
          rw [ht', ht, List.append_assoc]
          rfl
        refine ⟨d, new, s₃, reviewed_of_trace hs rfl htrace (by simp [hn] at hn'; omega) hnew, rfl,
          htrace, ?_⟩
        split at h
        · cases h
          exact .inl ⟨rfl, fun _ _ hr => by cases hr⟩
        · rename_i reviews
          obtain rfl : reviews = new := by simpa using hresult reviews rfl
          exact .inr ⟨_, h⟩

/-- **A round of a negotiation keeps the identifiers fresh, and the action it
settles on has consent.** -/
theorem negotiateRound_consent {runId proposalAgent : String} {diagnosis : Diagnosis}
    {evidence : EvidenceSnapshot} {candidates : List RecoveryActionCandidate} {roundIndex : ℕ}
    {action : RecoveryAction} {t : NegotiationTrace} {s s' : RunState σ}
    {r : Except PyExn RoundOutcome} (hs : FreshIds s)
    (h : (c.negotiateRound runId proposalAgent diagnosis evidence candidates roundIndex action
      t).run s = (r, s')) :
    FreshIds s' ∧ ∀ selected t', r = .ok (.settled (some selected) t') →
      ∃ d round, Consent c.protocol s'.trace selected d round := by
  obtain ⟨d, reviews, s₁, hreviewed, hd, -, hend⟩ := c.negotiateRound_cases hs h
  rcases hend with ⟨rfl, hstop⟩ | ⟨t', hresolve⟩
  · exact ⟨hreviewed.fresh, fun selected t' hr => absurd hr (hstop _ _)⟩
  · obtain ⟨hfresh, hconsent⟩ := c.resolveRound_consent hreviewed hd hresolve
    exact ⟨hfresh, fun selected t' hr => ⟨d, hconsent selected t' hr⟩⟩

/-- The loop of a negotiation: every round keeps the identifiers fresh, so the
round that settles has consent. -/
theorem negotiateLoop_consent {runId proposalAgent : String} {diagnosis : Diagnosis}
    {evidence : EvidenceSnapshot} {candidates : List RecoveryActionCandidate}
    {left roundIndex : ℕ} {action : RecoveryAction} {t : NegotiationTrace} {s s' : RunState σ}
    {r : Except PyExn NegotiationOutcome} (hs : FreshIds s)
    (h : (c.negotiateLoop runId proposalAgent diagnosis evidence candidates left roundIndex action
      t).run s = (r, s')) :
    FreshIds s' ∧ ∀ selected t', r = .ok (.settled (some selected) t') →
      ∃ d round, Consent c.protocol s'.trace selected d round := by
  induction left generalizing roundIndex action t s with
  | zero =>
      cases h
      exact ⟨hs, fun _ _ hr => by cases hr⟩
  | succ left ih =>
      rcases Eff.run_bind_cases h with ⟨_, he, rfl⟩ | ⟨outcome, s₁, hround, h⟩
      · exact ⟨(c.negotiateRound_consent hs he).1, fun _ _ hr => by cases hr⟩
      · obtain ⟨hfresh, hconsent⟩ := c.negotiateRound_consent hs hround
        split at h
        · cases h
          exact ⟨hfresh, fun selected t' hr => by cases hr; exact hconsent _ _ rfl⟩
        · cases h
          exact ⟨hfresh, fun _ _ hr => by cases hr⟩
        · exact ih hfresh h

/-- **The action a negotiation settles on has consent.** -/
theorem negotiate_consent {runId : String} {diagnosis : Diagnosis} {evidence : EvidenceSnapshot}
    {candidates : List RecoveryActionCandidate} {roundOffset : ℕ} {s s' : RunState σ}
    {r : Except PyExn NegotiationOutcome} (hs : FreshIds s)
    (h : (c.negotiate runId diagnosis evidence candidates roundOffset).run s = (r, s')) :
    FreshIds s' ∧ ∀ selected t', r = .ok (.settled (some selected) t') →
      ∃ d round, Consent c.protocol s'.trace selected d round := by
  unfold negotiate at h
  split at h
  · cases h
    exact ⟨hs, fun _ _ hr => by cases hr⟩
  · split at h
    · cases h
      exact ⟨hs, fun _ _ hr => by cases hr⟩
    · exact c.negotiateLoop_consent hs h

end Coordinator

end Supervision
end AiopsK8s
