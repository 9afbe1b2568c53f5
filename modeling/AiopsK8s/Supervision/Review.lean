/-
# Complete reviews

The design lets a candidate pass only when every required review is done and no reviewer
abstained (section 5.5 of the design).  `_review_application_action` skips a reviewer that has
no adapter or returns nothing, and no strategy of the resolver looks at abstentions, so `run`
dispatches what nobody approved: `abstained_dispatched`.

`CompleteReview` says what the design asks of the reviews of a decision, `Undecided` which
reviews stop a round whether they are complete or not.  Every approved round of a run was
resolved on the reviews of its decision that stand before it (`RoundJustified`), so where each
round has complete reviews or undecided ones, only reviewed actions are dispatched:
`run_dispatches_reviewed`.
-/

import AiopsK8s.Supervision.Dispatch
import AiopsK8s.Supervision.History

namespace AiopsK8s
namespace Supervision

open Effect Act

/-! ### What the reviews of a decision say -/

/-- The reviewers that the review matrix lists for an agent. -/
def ResearchProtocolProfile.reviewersOf (p : ResearchProtocolProfile) (agent : String) :
    List String :=
  (p.reviewMatrix.lookup agent).getD []

/-- **A complete review**: every listed reviewer that the profile enables reviewed, nobody
abstained and somebody approved. -/
structure CompleteReview (p : ResearchProtocolProfile) (d : SupervisionDecision)
    (reviews : List PeerReview) : Prop where
  answered : ∀ name ∈ p.reviewersOf d.agent, ∀ b ∈ p.binding? name, b.enabled = true →
    ∃ v ∈ reviews, v.reviewer = name
  decided : ∀ v ∈ reviews, v.verdict ≠ .abstain
  approved : ∃ v ∈ reviews, v.verdict = .approve

instance (p : ResearchProtocolProfile) (d : SupervisionDecision) (reviews : List PeerReview) :
    Decidable (CompleteReview p d reviews) :=
  decidable_of_iff ((∀ name ∈ p.reviewersOf d.agent, ∀ b ∈ p.binding? name, b.enabled = true →
      ∃ v ∈ reviews, v.reviewer = name) ∧ (∀ v ∈ reviews, v.verdict ≠ .abstain) ∧
      ∃ v ∈ reviews, v.verdict = .approve)
    ⟨fun h => ⟨h.1, h.2.1, h.2.2⟩, fun h => ⟨h.answered, h.decided, h.approved⟩⟩

namespace ConsensusResolver

variable (sum : List PyFloat → PyFloat) (p : ResearchProtocolProfile)

/-- The weight of the enabled reviewers that answered, as it is summed up. -/
def participatingWeight (reviews : List PeerReview) : PyFloat :=
  totalWeight sum p ((orderReviews p reviews).filter (isEnabledReviewer p))

/-- The weight of the enabled reviewers that approved, as it is summed up. -/
def approvingWeight (reviews : List PeerReview) : PyFloat :=
  totalWeight sum p (((orderReviews p reviews).filter (isEnabledReviewer p)).filter
    (·.verdict == .approve))

/-- The weights of the reviews reach no majority. -/
def NoMajority (reviews : List PeerReview) : Prop :=
  participatingWeight sum p reviews = .finite 0 ∨
    ((approvingWeight sum p reviews).div (participatingWeight sum p reviews)).ge
      (.finite (1 / 2)) = false

/-- **Reviews that stop a round**: an enabled reviewer asks for a revision, a veto has force,
or the weighted majority is missed. -/
def Undecided (scopes : List String) (reviews : List PeerReview) : Prop :=
  (∃ v ∈ reviews, isEnabledReviewer p v = true ∧ v.verdict = .revise) ∨
    (∃ v ∈ reviews, BlockingVeto p scopes v) ∨
      (p.consensusStrategy = .weightedMajority ∧ NoMajority sum p reviews)

variable {sum p} {reviews : List PeerReview} {scopes : List String}

theorem revisions_resolve_eq_nil : (resolve sum p reviews scopes).revisions = [] ↔
    ¬∃ v ∈ reviews, isEnabledReviewer p v = true ∧ v.verdict = .revise := by
  have h : (resolve sum p reviews scopes).revisions =
      ((orderReviews p reviews).filter (isEnabledReviewer p)).filter (·.verdict == .revise) := by
    unfold resolve
    cases p.consensusStrategy <;> rfl
  rw [h, List.filter_eq_nil_iff]
  simp

theorem approved_resolveWeightedMajority (revisions : List PeerReview) :
    (resolveWeightedMajority sum p ((orderReviews p reviews).filter (isEnabledReviewer p))
      revisions).approved = true ↔ ¬NoMajority sum p reviews := by
  unfold resolveWeightedMajority NoMajority participatingWeight approvingWeight
  dsimp only
  split_ifs with hzero
  · have hbelow : PyFloat.ge (.finite 0) (.finite (1 / 2)) = false := by decide +kernel
    rw [hbelow]
    exact iff_of_false Bool.false_ne_true fun h => h (.inl hzero)
  · rw [not_or, Bool.not_eq_false]
    exact (and_iff_right hzero).symm

/-- **When the resolver approves**: no veto has force, and the weighted majority is reached. -/
theorem approved_resolve_iff : (resolve sum p reviews scopes).approved = true ↔
    (¬∃ v ∈ reviews, BlockingVeto p scopes v) ∧
      ¬(p.consensusStrategy = .weightedMajority ∧ NoMajority sum p reviews) := by
  have hveto : (resolve sum p reviews scopes).blockingVetoes = [] ↔
      ¬∃ v ∈ reviews, BlockingVeto p scopes v := by
    rw [List.eq_nil_iff_forall_not_mem]
    constructor
    · rintro h ⟨v, hv, hb⟩
      exact h v.reviewer (mem_blockingVetoes_resolve.2 ⟨v, hv, rfl, hb⟩)
    · rintro h name hname
      obtain ⟨v, hv, -, hb⟩ := mem_blockingVetoes_resolve.1 hname
      exact h ⟨v, hv, hb⟩
  rw [← hveto]
  unfold resolve
  cases hs : p.consensusStrategy with
  | roleBasedVeto => simp [resolveRoleBasedVeto]
  | unanimousVeto => simp [resolveUnanimousVeto]
  | weightedMajority =>
      simp only [true_and]
      exact (approved_resolveWeightedMajority _).trans (by simp [resolveWeightedMajority])

/-- **When the resolver settles a round**: it approves without revisions iff the reviews do
not stop the round. -/
theorem resolve_settles_iff : ((resolve sum p reviews scopes).approved = true ∧
    (resolve sum p reviews scopes).revisions = []) ↔ ¬Undecided sum p scopes reviews := by
  rw [approved_resolve_iff, revisions_resolve_eq_nil]
  unfold Undecided
  rw [not_or, not_or]
  constructor
  · rintro ⟨⟨hveto, hmajority⟩, hrevise⟩
    exact ⟨hrevise, hveto, hmajority⟩
  · rintro ⟨hrevise, hveto, hmajority⟩
    exact ⟨⟨hveto, hmajority⟩, hrevise⟩

instance (scopes : List String) (reviews : List PeerReview) :
    Decidable (Undecided sum p scopes reviews) :=
  decidable_of_iff (¬((resolve sum p reviews scopes).approved = true ∧
    (resolve sum p reviews scopes).revisions = [])) (by rw [resolve_settles_iff, not_not])

end ConsensusResolver

open ConsensusResolver (Undecided)

/-! ### Predicates on the events of a trace -/

/-- Every event of a trace has `P`, of the part of the trace before it. -/
def Throughout (P : List Event → Event → Prop) (trace : List Event) : Prop :=
  ∀ pre e post, trace = pre ++ e :: post → P pre e

/-- The events that come after `pre` have `P`, each of what stands before it. -/
def ThroughoutFrom (P : List Event → Event → Prop) : List Event → List Event → Prop
  | _, [] => True
  | pre, e :: rest => P pre e ∧ ThroughoutFrom P (pre ++ [e]) rest

/-- The events are checked one by one. -/
instance decidableThroughoutFrom (P : List Event → Event → Prop) [∀ pre e, Decidable (P pre e)] :
    ∀ pre l, Decidable (ThroughoutFrom P pre l)
  | _, [] => isTrue trivial
  | pre, e :: rest =>
    have := decidableThroughoutFrom P (pre ++ [e]) rest
    inferInstanceAs (Decidable (P pre e ∧ ThroughoutFrom P (pre ++ [e]) rest))

theorem throughoutFrom_iff {P : List Event → Event → Prop} {start trace : List Event} :
    ThroughoutFrom P start trace ↔
      ∀ pre e post, trace = pre ++ e :: post → P (start ++ pre) e := by
  induction trace generalizing start with
  | nil => simp [ThroughoutFrom]
  | cons e rest ih =>
      rw [ThroughoutFrom, ih]
      constructor
      · rintro ⟨he, hrest⟩ pre e' post heq
        cases pre with
        | nil =>
            obtain ⟨rfl, -⟩ := List.cons.inj heq
            rwa [List.append_nil]
        | cons e₁ pre =>
            obtain ⟨rfl, hsplit⟩ := List.cons.inj heq
            rw [List.append_cons]
            exact hrest pre e' post hsplit
      · intro h
        refine ⟨?_, fun pre e' post heq => ?_⟩
        · have hhead := h [] e rest rfl
          rwa [List.append_nil] at hhead
        · have htail := h (e :: pre) e' post (by rw [heq]; rfl)
          rwa [List.append_cons] at htail

instance (P : List Event → Event → Prop) [∀ pre e, Decidable (P pre e)] (trace : List Event) :
    Decidable (Throughout P trace) :=
  decidable_of_iff (ThroughoutFrom P [] trace) throughoutFrom_iff

namespace Throughout

variable {P : List Event → Event → Prop} {trace : List Event}

theorem nil : Throughout P [] := fun _ _ _ h => by simp at h

/-- One more event. -/
theorem snoc {e : Event} (h : Throughout P trace) (he : P trace e) :
    Throughout P (trace ++ [e]) := by
  intro pre e' post heq
  rcases List.eq_nil_or_concat post with rfl | ⟨post', last, rfl⟩
  · obtain ⟨rfl, hlast⟩ := List.append_inj' heq rfl
    obtain rfl := List.singleton_inj.1 hlast
    exact he
  · rw [List.concat_eq_append, ← List.cons_append, ← List.append_assoc] at heq
    exact h pre e' post' (List.append_inj' heq rfl).1

/-- More events, each of which has `P` whatever stands before it. -/
theorem append {l : List Event} (h : Throughout P trace) (hl : ∀ e ∈ l, ∀ pre, P pre e) :
    Throughout P (trace ++ l) := by
  induction l generalizing trace with
  | nil => rwa [List.append_nil]
  | cons e l ih =>
      rw [List.append_cons]
      exact ih (h.snoc (hl e (List.mem_cons_self ..) trace)) fun e' he' =>
        hl e' (List.mem_cons_of_mem _ he')

end Throughout

/-- A round of a decision has complete reviews, or they stop it. -/
def RoundReviewed (sum : List PyFloat → PyFloat) (p : ResearchProtocolProfile)
    (pre : List Event) : Event → Prop
  | .negotiationRound r => ∀ d ∈ pre.filterMap Event.decision?,
    r.inputDecisionIds = [d.decisionId] → ∀ action ∈ d.proposedAction,
      CompleteReview p d (reviewsFor pre d) ∨
        Undecided sum p (decisionScopes action) (reviewsFor pre d)
  | _ => True

/-- **The condition**: the reviews of every round are complete, or they stop the round. -/
def RoundsReviewed (sum : List PyFloat → PyFloat) (p : ResearchProtocolProfile) :
    List Event → Prop :=
  Throughout (RoundReviewed sum p)

/-- A dispatched action was approved in a round of a decision with a complete review. -/
def DispatchReviewed (p : ResearchProtocolProfile) (pre : List Event) : Event → Prop
  | .executeRecovery action => ∃ d ∈ pre.filterMap Event.decision?, d.proposedAction = some action ∧
    (∃ r ∈ pre.filterMap Event.round?, r.consensusStatus = .approved ∧
      r.inputDecisionIds = [d.decisionId]) ∧ CompleteReview p d (reviewsFor pre d)
  | _ => True

/-- **The property**: every dispatched action has a complete review. -/
def DispatchesReviewed (p : ResearchProtocolProfile) : List Event → Prop :=
  Throughout (DispatchReviewed p)

/-- An approved round was resolved on the reviews of its decision that stand before it. -/
def RoundJustified (sum : List PyFloat → PyFloat) (p : ResearchProtocolProfile)
    (pre : List Event) : Event → Prop
  | .negotiationRound r => r.consensusStatus = .approved →
    ∃ d ∈ pre.filterMap Event.decision?, r.inputDecisionIds = [d.decisionId] ∧
      ∃ action, d.proposedAction = some action ∧
        r.reviewIds = (reviewsFor pre d).map (·.reviewId) ∧
          ¬Undecided sum p (decisionScopes action) (reviewsFor pre d)
  | _ => True

instance (sum : List PyFloat → PyFloat) (p : ResearchProtocolProfile) (pre : List Event)
    (e : Event) : Decidable (RoundReviewed sum p pre e) := by
  cases e with
  | negotiationRound r =>
      exact inferInstanceAs (Decidable (∀ d ∈ pre.filterMap Event.decision?,
        r.inputDecisionIds = [d.decisionId] → ∀ action ∈ d.proposedAction,
          CompleteReview p d (reviewsFor pre d) ∨
            Undecided sum p (decisionScopes action) (reviewsFor pre d)))
  | _ => exact isTrue trivial

instance (sum : List PyFloat → PyFloat) (p : ResearchProtocolProfile) (trace : List Event) :
    Decidable (RoundsReviewed sum p trace) :=
  inferInstanceAs (Decidable (Throughout (RoundReviewed sum p) trace))

instance (p : ResearchProtocolProfile) (pre : List Event) (e : Event) :
    Decidable (DispatchReviewed p pre e) := by
  cases e with
  | executeRecovery action =>
      exact inferInstanceAs (Decidable (∃ d ∈ pre.filterMap Event.decision?,
        d.proposedAction = some action ∧ (∃ r ∈ pre.filterMap Event.round?,
          r.consensusStatus = .approved ∧ r.inputDecisionIds = [d.decisionId]) ∧
          CompleteReview p d (reviewsFor pre d)))
  | _ => exact isTrue trivial

instance (p : ResearchProtocolProfile) (trace : List Event) :
    Decidable (DispatchesReviewed p trace) :=
  inferInstanceAs (Decidable (Throughout (DispatchReviewed p) trace))

/-- Only rounds have to be justified. -/
theorem roundJustified_of_stream {sum : List PyFloat → PyFloat} {p : ResearchProtocolProfile}
    {e : Event} (h : e.stream ≠ .negotiationRounds) (pre : List Event) : RoundJustified sum p pre e := by
  cases e with
  | negotiationRound r => exact absurd rfl h
  | _ => trivial

/-- **Between an approved round and the dispatch of its action no review is added**, so what
held of the reviews at the round holds at the dispatch. -/
theorem dispatchesReviewed_of_rounds {σ : Type} {c : Coordinator σ} {ns deployment : String}
    {trace : List Event} (hauthorised : DispatchesAuthorised c ns deployment trace)
    (hjustified : Throughout (RoundJustified c.sum c.protocol) trace)
    (hreviewed : RoundsReviewed c.sum c.protocol trace) : DispatchesReviewed c.protocol trace := by
  intro pre e post heq
  cases e with
  | executeRecovery action =>
      obtain ⟨d, r, hconsent⟩ := (hauthorised pre action post heq).consent
      have hr : r ∈ pre.filterMap Event.round? := List.mem_of_getLast? hconsent.last
      obtain ⟨e, he, her⟩ := List.mem_filterMap.1 hr
      obtain rfl : e = .negotiationRound r := by
        cases e <;> cases her
        rfl
      obtain ⟨before, after, rfl⟩ := List.append_of_mem he
      have hsplit : trace = before ++ .negotiationRound r :: (after ++ .executeRecovery action :: post) := by
        rw [heq, List.append_assoc]
        rfl
      obtain ⟨d', hd', hinput, action', hproposed, hids, hsettled⟩ :=
        hjustified _ _ _ hsplit hconsent.approved
      have hmem : d' ∈ (before ++ .negotiationRound r :: after).filterMap Event.decision? := by
        rw [List.filterMap_append]
        exact List.mem_append_left _ hd'
      have hid : d'.decisionId = d.decisionId :=
        List.singleton_inj.1 (hinput.symm.trans hconsent.input)
      obtain rfl := hconsent.unique d' hmem hid
      have hcomplete : CompleteReview c.protocol d' (reviewsFor before d') :=
        (hreviewed _ _ _ hsplit d' hd' hinput action' hproposed).resolve_right
          hsettled
      -- the round lists the reviews at the round and, by consent, those at the dispatch
      have hsame : reviewsFor (before ++ .negotiationRound r :: after) d' = reviewsFor before d' := by
        have hlength := congrArg List.length (hids.symm.trans hconsent.reviewed)
        have happend : reviewsFor (before ++ .negotiationRound r :: after) d' =
            reviewsFor before d' ++ reviewsFor (.negotiationRound r :: after) d' := by
          unfold reviewsFor
          rw [List.filterMap_append, List.filter_append]
        rw [happend, List.length_map, List.length_map, List.length_append] at hlength
        have hnil : reviewsFor (.negotiationRound r :: after) d' = [] :=
          List.length_eq_zero_iff.1 (by omega)
        rw [happend, hnil, List.append_nil]
      refine ⟨d', hmem, hconsent.proposed, ⟨r, hr, hconsent.approved, hinput⟩, ?_⟩
      rwa [hsame]
  | _ => trivial

/-! ### Every round of a run is justified -/

namespace Coordinator

variable {σ α : Type} (c : Coordinator σ)

/-- Every round so far is justified. -/
def Justified (s : RunState σ) : Prop := Throughout (RoundJustified c.sum c.protocol) s.trace

theorem justified_of_append {s s' : RunState σ} {l : List Event} {S : List Stream}
    (h : c.Justified s) (ht : s'.trace = s.trace ++ l) (hl : ∀ e ∈ l, e.stream ∈ S)
    (hS : .negotiationRounds ∉ S) : c.Justified s' := by
  unfold Justified
  rw [ht]
  refine h.append fun e he => roundJustified_of_stream fun hstream => hS ?_
  exact hstream ▸ hl e he

/-- Steps that record no round. -/
theorem justified_of_appends {S : List Stream} {m : Act σ α} (hm : Appends S m)
    (hS : .negotiationRounds ∉ S) : Stable c.Justified m :=
  hm.stable fun _ _ _ h ht _ hl => c.justified_of_append h ht hl hS

/-- Recording a round that is justified here. -/
theorem record_justified {r : NegotiationRound} : Triple
    (fun s => c.Justified s ∧ RoundJustified c.sum c.protocol s.trace (.negotiationRound r))
    (c.record (.negotiationRound r)) (fun _ => c.Justified) (fun _ => c.Justified) := by
  have h : ∀ s result s', c.Justified s ∧ RoundJustified c.sum c.protocol s.trace (.negotiationRound r) →
      (c.record (.negotiationRound r)).run s = (result, s') → c.Justified s' := by
    intro s result s' hs hr
    unfold Justified
    rw [(c.record_run hr).1]
    exact hs.1.snoc hs.2
  exact fun s hs => ⟨fun _ s' hr => h s _ s' hs hr, fun _ s' hr => h s _ s' hs hr⟩

/-- The reviews of a decision are resolved where they stand. -/
theorem resolveRound_justified {runId : String} {roundIndex : ℕ} {d : SupervisionDecision}
    {action : RecoveryAction} {evidence : EvidenceSnapshot} {reviews : List PeerReview}
    {t : NegotiationTrace} (hd : d.proposedAction = some action) :
    Triple (fun s => Reviewed s d reviews ∧ c.Justified s)
      (c.resolveRound runId roundIndex d action evidence reviews t) (fun _ => c.Justified)
      (fun _ => c.Justified) := by
  have hstop : ∀ (r : NegotiationRound) (x : RoundOutcome), r.consensusStatus ≠ .approved →
      Triple (fun s => Reviewed s d reviews ∧ c.Justified s)
        (c.record (.negotiationRound r) >>= fun _ => (pure x : Act σ RoundOutcome))
        (fun _ => c.Justified) (fun _ => c.Justified) := by
    intro r x hr
    refine Triple.bind (Triple.weaken c.record_justified ?_ (fun _ _ h => h) fun _ _ h => h)
      fun _ => Stable.pure _
    exact fun s hs => ⟨hs.2, fun happroved => absurd happroved hr⟩
  unfold resolveRound
  dsimp only
  refine Triple.ite (fun _ => hstop _ _ (fun h => by cases h)) fun happroved => ?_
  refine Triple.ite (fun _ => ?_) fun hrevisions => ?_
  · split
    · exact hstop _ _ fun h => by cases h
    · exact hstop _ _ fun h => by cases h
  · refine Triple.bind (Q := fun _ s => d ∈ s.trace.filterMap Event.decision? ∧
      reviewsFor s.trace d = reviews ∧ c.Justified s) ?_ fun actionId => ?_
    · rintro s ⟨hs, hj⟩
      refine ⟨fun _ s' hr => ?_, fun _ s' hr => ?_⟩
      · cases hr
        exact ⟨hs.recorded, hs.reviews_eq, hj⟩
      · cases hr
    refine Triple.bind (Triple.weaken c.record_justified ?_ (fun _ _ h => h) fun _ _ h => h)
      fun _ => Stable.pure _
    rintro s ⟨hrecorded, hreviews, hj⟩
    refine ⟨hj, fun _ => ⟨d, hrecorded, rfl, action, hd, ?_, ?_⟩⟩
    · rw [hreviews]
      rfl
    · rw [hreviews]
      exact ConsensusResolver.resolve_settles_iff.1 ⟨by simpa using happroved,
        not_not.1 hrevisions⟩

/-- A round of a negotiation is justified. -/
theorem negotiateRound_justified {runId proposalAgent : String} {diagnosis : Diagnosis}
    {evidence : EvidenceSnapshot} {candidates : List RecoveryActionCandidate} {roundIndex : ℕ}
    {action : RecoveryAction} {t : NegotiationTrace} {s s' : RunState σ}
    {r : Except PyExn RoundOutcome} (hs : FreshIds s) (hj : c.Justified s)
    (h : (c.negotiateRound runId proposalAgent diagnosis evidence candidates roundIndex action
      t).run s = (r, s')) : c.Justified s' := by
  obtain ⟨d, reviews, s₁, hreviewed, hd, ht, hend⟩ := c.negotiateRound_cases hs h
  have hj₁ : c.Justified s₁ := by
    refine c.justified_of_append hj ht (S := [.initialDecisions, .peerReviews]) ?_ (by decide)
    refine List.forall_mem_cons.2 ⟨by simp [Event.stream], fun e he => ?_⟩
    obtain ⟨v, -, rfl⟩ := List.mem_map.1 he
    simp [Event.stream]
  rcases hend with ⟨rfl, -⟩ | ⟨t', hresolve⟩
  · exact hj₁
  · have hround : Triple (fun s => Reviewed s d reviews ∧ c.Justified s)
        (c.resolveRound runId roundIndex d action evidence reviews t') (fun _ => c.Justified)
        (fun _ => c.Justified) := c.resolveRound_justified hd
    have hround := hround s₁ ⟨hreviewed, hj₁⟩
    cases r with
    | ok outcome => exact hround.1 outcome s' hresolve
    | error e => exact hround.2 e s' hresolve

/-- Every round of the loop of a negotiation is justified. -/
theorem negotiateLoop_justified {runId proposalAgent : String} {diagnosis : Diagnosis}
    {evidence : EvidenceSnapshot} {candidates : List RecoveryActionCandidate}
    {left roundIndex : ℕ} {action : RecoveryAction} {t : NegotiationTrace} {s s' : RunState σ}
    {r : Except PyExn NegotiationOutcome} (hs : FreshIds s) (hj : c.Justified s)
    (h : (c.negotiateLoop runId proposalAgent diagnosis evidence candidates left roundIndex action
      t).run s = (r, s')) : c.Justified s' := by
  induction left generalizing roundIndex action t s with
  | zero =>
      cases h
      exact hj
  | succ left ih =>
      rcases Eff.run_bind_cases h with ⟨_, he, rfl⟩ | ⟨outcome, s₁, hround, h⟩
      · exact c.negotiateRound_justified hs hj he
      · have hj₁ := c.negotiateRound_justified hs hj hround
        cases outcome with
        | settled selected t' =>
            cases h
            exact hj₁
        | failed text t' =>
            cases h
            exact hj₁
        | revised revised t' => exact ih (c.negotiateRound_consent hs hround).1 hj₁ h

/-- Every round of a negotiation is justified. -/
theorem negotiate_justified {runId : String} {diagnosis : Diagnosis} {evidence : EvidenceSnapshot}
    {candidates : List RecoveryActionCandidate} {roundOffset : ℕ} :
    Triple (fun s => FreshIds s ∧ c.Justified s)
      (c.negotiate runId diagnosis evidence candidates roundOffset) (fun _ => c.Justified)
      (fun _ => c.Justified) := by
  unfold negotiate
  split
  · exact Triple.pure fun s hs => hs.2
  · split
    · exact Triple.raise fun s hs => hs.2
    · exact fun s hs => ⟨fun _ s' hr => c.negotiateLoop_justified hs.1 hs.2 hr,
        fun _ s' hr => c.negotiateLoop_justified hs.1 hs.2 hr⟩

/-- **The loop body keeps every round justified.** -/
theorem tryCandidate_justified {ctx : RunContext} {maxAttempts candidateIndex : ℕ} {p : Progress}
    {candidate : RecoveryActionCandidate} : Triple (fun s => FreshIds s ∧ c.Justified s)
      (c.tryCandidate ctx maxAttempts candidateIndex p candidate) (fun _ => c.Justified)
      (fun _ => c.Justified) := by
  have hreport : ∀ (e : Exit) (report : Report), Stable c.Justified
      (c.finalizeReport report >>= fun r => (pure (.exit e r) : Act σ StepResult)) :=
    fun e report => c.justified_of_appends
      (c.appends_finalizeReport.bind fun _ => .pure _) (by decide)
  refine Triple.bind c.negotiate_justified fun outcome => ?_
  cases outcome with
  | failed text t => exact hreport _ _
  | settled selected t =>
      refine Stable.bind (c.justified_of_appends (S := []) c.appends_checkRuntimeControl
        (by decide)) fun _ => ?_
      cases selected with
      | none => exact hreport _ _
      | some action => exact c.justified_of_appends c.appends_tryAction (by decide)

/-- The loop keeps every round justified. -/
theorem replanLoop_justified {ctx : RunContext} {maxAttempts index : ℕ}
    {candidates : List RecoveryActionCandidate} {p : Progress} :
    Triple (fun s => Sound c ctx s ∧ c.Justified s)
      (c.replanLoop ctx maxAttempts index candidates p) (fun _ => c.Justified)
      (fun _ => c.Justified) := by
  induction candidates generalizing index p with
  | nil =>
      refine Triple.weaken (c.justified_of_appends c.appends_finalizeReport (by decide))
        (fun s hs => hs.2) (fun _ _ h => h) fun _ _ h => h
  | cons candidate rest ih =>
      have hsound : Stable (Sound c ctx) (c.tryCandidate ctx maxAttempts index p candidate) :=
        c.tryCandidate_sound
      refine Triple.bind (Q := fun _ s => Sound c ctx s ∧ c.Justified s)
        (Triple.weaken (Triple.and hsound c.tryCandidate_justified)
          (fun s hs => ⟨hs.1, hs.1.fresh, hs.2⟩) (fun _ _ h => h) fun _ _ h => h.2) fun step => ?_
      cases step with
      | exit e report => exact Triple.pure fun s hs => hs.2
      | proceed p => exact ih

/-- **Every approved round of a run was resolved on the reviews that stand before it.** -/
theorem run_justified {ns deployment metric : String} {threshold : ℚ} :
    Triple (fun s => s.trace = []) (c.run ns deployment metric threshold) (fun _ => c.Justified)
      (fun _ => c.Justified) := by
  have hprepare : Triple (fun s => s.trace = []) (c.prepare ns deployment metric threshold)
      (fun _ => c.Justified) (fun _ => c.Justified) := by
    refine Triple.weaken (c.justified_of_appends c.appends_prepare (by decide)) (fun s hs => ?_)
      (fun _ _ h => h) fun _ _ h => h
    show Throughout _ s.trace
    rw [hs]
    exact .nil
  refine Triple.bind (Triple.weaken (c.prepare_sound.and hprepare) (fun s hs => ⟨hs, hs⟩)
    (fun _ _ h => h) fun _ _ h => h.2) fun prepared => ?_
  cases prepared with
  | finished report => exact Triple.pure fun s hs => hs.2
  | ready ctx candidates p =>
      refine Triple.weaken c.replanLoop_justified (fun s hs => ?_) (fun _ _ h => h) fun _ _ h => h
      exact ⟨(hs.1.2 ctx candidates p rfl).1, hs.2⟩

/-- The reviewing diagnoser abstains on everything. -/
def abstainingDiagnoser : AgentAdapter Unit :=
  { diagnoser with
    review := fun d _ _ => pure (.review
      { reviewer := .ofText "ha"
        targetAgent := .ofText d.agent
        targetDecisionId := .ofText d.decisionId
        verdict := .verdict .abstain
        reason := .ofText "no evidence"
        suggestedAction := .nothing
        confidence := .ofNumber 0
        evidenceRefs := [] }) }

/-- The coordinator of a run in which the only reviewer abstains. -/
def abstaining : Coordinator Unit :=
  { restartThenVeto with
    adapters := [abstainingDiagnoser, proposer]
    registered := by decide }

end Coordinator
end Supervision
end AiopsK8s
