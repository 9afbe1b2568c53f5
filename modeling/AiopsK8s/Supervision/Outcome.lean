/-
# What the status of a report says

`run` sets `valid`, `final_status` and `human_review_required` at every exit on its own, and
numbers the rounds of a negotiation from where the negotiation of the candidate before
stopped.  `Lawful` is the relation that these fields keep all the same, whichever exit is
taken: `run_lawful`.

A candidate adds at most `max_negotiation_rounds` rounds and is dispatched at most once
(`Counted`), and at most `max_replan_attempts + 1` candidates are tried.  The identifiers of
the actions are handed out once, so the post-execution reviews of the last action are told
apart from those of the candidates before it.
-/

import AiopsK8s.Supervision.History

namespace AiopsK8s
namespace Supervision

open Effect Act

/-- The action that is handed to the executor. -/
def Event.dispatch? : Event → Option RecoveryAction
  | executeRecovery action => some action
  | _ => none

/-- The actions that were dispatched. -/
def dispatches (trace : List Event) : List RecoveryAction := trace.filterMap Event.dispatch?

/-- The statuses of a valid report. -/
def FinalStatus.isValid : FinalStatus → Bool
  | recovered => true
  | recoveredAfterReplan => true
  | dryRunValidated => true
  | _ => false

/-- The statuses of a recovery. -/
def FinalStatus.isRecovered : FinalStatus → Bool
  | recovered => true
  | recoveredAfterReplan => true
  | _ => false

/-- The rounds are numbered from `start` on. -/
def Consecutive (start : ℕ) (rounds : List NegotiationRound) : Prop :=
  rounds.map (·.roundIndex) = List.range' start rounds.length

/-- The last round selected the action with the identifier `id`. -/
def Selected (rounds : List NegotiationRound) (id : String) : Prop :=
  ∃ r, rounds.getLast? = some r ∧ r.selectedActionId = some id

/-- **What holds of every report**: its flags follow from its status, a recovery was
executed, assessed and approved, and its rounds are numbered and bounded. -/
structure Lawful (protocol : ResearchProtocolProfile) (report : Report) : Prop where
  valid_iff : report.valid = true ↔ report.finalStatus.isValid = true
  review_iff : report.humanReviewRequired = false ↔
    report.valid = true ∨ report.finalStatus = .noActionRequired
  recovered : report.finalStatus.isRecovered = true →
    report.executionResult.valid = true ∧
      (∃ a, report.recoveryMonitoring = .assessed a ∧ a.recoverySuccess = true) ∧
      ∃ id, Selected report.negotiation.rounds id ∧
        ∀ r ∈ report.postExecutionReviews, r.actionId = id → r.approved = true
  consecutive : Consecutive 1 report.negotiation.rounds
  bounded : report.negotiation.rounds.length ≤
    (protocol.maxReplanAttempts + 1) * protocol.maxNegotiationRounds

theorem Consecutive.nil (start : ℕ) : Consecutive start [] := rfl

theorem Consecutive.append {start : ℕ} {l m : List NegotiationRound} (hl : Consecutive start l)
    (hm : Consecutive (start + l.length) m) : Consecutive start (l ++ m) := by
  unfold Consecutive at hl hm ⊢
  rw [List.map_append, hl, hm, List.length_append, List.range'_append_1]

theorem Consecutive.single {start : ℕ} {r : NegotiationRound} (h : r.roundIndex = start) :
    Consecutive start [r] := by
  unfold Consecutive
  rw [List.map_singleton, h]
  rfl

/-! ### The rounds of a negotiation -/

/-- The trace of a negotiation, however it ends. -/
def NegotiationOutcome.trace : NegotiationOutcome → NegotiationTrace
  | settled _ t => t
  | failed _ t => t

/-- The action on which a negotiation settles. -/
def NegotiationOutcome.action? : NegotiationOutcome → Option RecoveryAction
  | settled action _ => action
  | failed _ _ => none

/-- The trace of a round, however it ends. -/
def RoundOutcome.trace : RoundOutcome → NegotiationTrace
  | settled _ t => t
  | revised _ t => t
  | failed _ t => t

/-- The action on which a round settles. -/
def RoundOutcome.action? : RoundOutcome → Option RecoveryAction
  | settled action _ => action
  | _ => none

/-- The identifier of an action that was handed out between two states. -/
def HandedOut {σ : Type} (s s' : RunState σ) (id : String) : Prop :=
  ∃ k, s.nextId ≤ k ∧ k < s'.nextId ∧ id = traceId "action" k

namespace Coordinator

variable {σ α β : Type} (c : Coordinator σ)

/-- A resolved round is recorded under its index, and a round that settles on an action hands
its identifier out. -/
theorem resolveRound_rounds {runId : String} {roundIndex : ℕ} {d : SupervisionDecision}
    {action : RecoveryAction} {evidence : EvidenceSnapshot} {reviews : List PeerReview}
    {t : NegotiationTrace} {s s' : RunState σ} {outcome : RoundOutcome}
    (h : (c.resolveRound runId roundIndex d action evidence reviews t).run s = (.ok outcome, s')) :
    ∃ r, outcome.trace.rounds = t.rounds ++ [r] ∧ r.roundIndex = roundIndex ∧
      (outcome.action? ≠ none → ∃ id, r.selectedActionId = some id ∧ HandedOut s s' id) := by
  unfold resolveRound at h
  dsimp only at h
  split at h
  · obtain ⟨_, _, _, h⟩ := Eff.run_bind_ok h
    cases h
    exact ⟨_, rfl, rfl, fun hc => absurd rfl hc⟩
  · split at h
    · split at h
      · obtain ⟨_, _, _, h⟩ := Eff.run_bind_ok h
        cases h
        exact ⟨_, rfl, rfl, fun hc => absurd rfl hc⟩
      · obtain ⟨_, _, _, h⟩ := Eff.run_bind_ok h
        cases h
        exact ⟨_, rfl, rfl, fun hc => absurd rfl hc⟩
    · obtain ⟨actionId, s₁, hid, hround⟩ := Eff.run_bind_ok h
      obtain ⟨_, s₂, hrec, hret⟩ := Eff.run_bind_ok hround
      obtain ⟨-, hn⟩ := c.record_run hrec
      cases hid
      cases hret
      refine ⟨_, rfl, rfl, fun _ => ⟨_, rfl, s.nextId, le_rfl, ?_, rfl⟩⟩
      rw [hn]
      exact Nat.lt_succ_self _

/-- A round of a negotiation records one round, or none if its reviews fail. -/
theorem negotiateRound_rounds {runId proposalAgent : String} {diagnosis : Diagnosis}
    {evidence : EvidenceSnapshot} {candidates : List RecoveryActionCandidate} {roundIndex : ℕ}
    {action : RecoveryAction} {t : NegotiationTrace} {s s' : RunState σ} {outcome : RoundOutcome}
    (h : (c.negotiateRound runId proposalAgent diagnosis evidence candidates roundIndex action
      t).run s = (.ok outcome, s')) :
    (∃ text t', outcome = .failed text t' ∧ t'.rounds = t.rounds) ∨
      ∃ r, outcome.trace.rounds = t.rounds ++ [r] ∧ r.roundIndex = roundIndex ∧
        (outcome.action? ≠ none → ∃ id, r.selectedActionId = some id ∧ HandedOut s s' id) := by
  obtain ⟨decisionId, s₁, hid, h⟩ := Eff.run_bind_ok h
  obtain ⟨_, s₂, hrec, h⟩ := Eff.run_bind_ok h
  obtain ⟨reviewed, s₃, hcol, h⟩ := Eff.run_bind_ok h
  have hn : s.nextId ≤ s₃.nextId := by
    have h₁ : s.nextId ≤ s₁.nextId := ((Appends.newTraceId (S := []) _).trace_eq hid).2
    have h₂ := (c.record_run hrec).2
    have h₃ := (c.collectReviews_run hcol).1
    omega
  split at h
  · cases h
    exact .inl ⟨_, _, rfl, rfl⟩
  · obtain ⟨r, hr, hindex, hselected⟩ := c.resolveRound_rounds h
    refine .inr ⟨r, hr, hindex, fun hne => ?_⟩
    obtain ⟨id, hid, k, hk, hlt, rfl⟩ := hselected hne
    exact ⟨_, hid, k, hn.trans hk, hlt, rfl⟩

/-- **The loop of a negotiation** numbers its rounds from `roundIndex` on, and records at most
as many as it has left. -/
theorem negotiateLoop_rounds {runId proposalAgent : String} {diagnosis : Diagnosis}
    {evidence : EvidenceSnapshot} {candidates : List RecoveryActionCandidate}
    {left roundIndex : ℕ} {action : RecoveryAction} {t : NegotiationTrace} {s s' : RunState σ}
    {outcome : NegotiationOutcome}
    (h : (c.negotiateLoop runId proposalAgent diagnosis evidence candidates left roundIndex action
      t).run s = (.ok outcome, s')) :
    ∃ new, outcome.trace.rounds = t.rounds ++ new ∧ Consecutive roundIndex new ∧
      new.length ≤ left ∧
      (outcome.action? ≠ none → ∃ id, Selected new id ∧ HandedOut s s' id) := by
  induction left generalizing roundIndex action t s with
  | zero =>
      cases h
      exact ⟨[], (List.append_nil _).symm, .nil _, le_rfl, fun hc => absurd rfl hc⟩
  | succ left ih =>
      obtain ⟨round, s₁, hround, h⟩ := Eff.run_bind_ok h
      rcases c.negotiateRound_rounds hround with ⟨text, t', rfl, ht⟩ | ⟨r, hr, hindex, hselected⟩
      · cases h
        exact ⟨[], by rw [List.append_nil]; exact ht, .nil _, Nat.zero_le _,
          fun hc => absurd rfl hc⟩
      · cases round with
        | settled selected t' =>
            cases h
            refine ⟨[r], hr, .single hindex, by simp, fun hne => ?_⟩
            obtain ⟨id, hid, hout⟩ := hselected hne
            exact ⟨id, ⟨r, rfl, hid⟩, hout⟩
        | failed text t' =>
            cases h
            exact ⟨[r], hr, .single hindex, by simp, fun hc => absurd rfl hc⟩
        | revised revised t' =>
            have hr' : t'.rounds = t.rounds ++ [r] := hr
            have hn : s.nextId ≤ s₁.nextId := (c.appends_negotiateRound s _ s₁ hround).1
            obtain ⟨new, hnew, hconsecutive, hlength, hselected'⟩ := ih h
            refine ⟨r :: new, ?_, ?_, ?_, fun hne => ?_⟩
            · rw [hnew, hr', List.append_assoc]
              rfl
            · exact Consecutive.append (.single hindex) hconsecutive
            · rw [List.length_cons]
              omega
            · obtain ⟨id, ⟨last, hlast, hid⟩, k, hk, hlt, rfl⟩ := hselected' hne
              refine ⟨_, ⟨last, ?_, hid⟩, k, hn.trans hk, hlt, rfl⟩
              rw [List.getLast?_cons, hlast]
              rfl

/-- The rounds of a negotiation follow those before it. -/
theorem negotiate_rounds {runId : String} {diagnosis : Diagnosis} {evidence : EvidenceSnapshot}
    {candidates : List RecoveryActionCandidate} {roundOffset : ℕ} {s s' : RunState σ}
    {outcome : NegotiationOutcome}
    (h : (c.negotiate runId diagnosis evidence candidates roundOffset).run s = (.ok outcome, s')) :
    Consecutive (roundOffset + 1) outcome.trace.rounds ∧
      outcome.trace.rounds.length ≤ c.protocol.maxNegotiationRounds ∧
      (outcome.action? ≠ none → ∃ id, Selected outcome.trace.rounds id ∧ HandedOut s s' id) := by
  unfold negotiate at h
  split at h
  · cases h
    exact ⟨.nil _, Nat.zero_le _, fun hc => absurd rfl hc⟩
  · split at h
    · cases h
    · obtain ⟨new, hnew, hconsecutive, hlength, hselected⟩ := c.negotiateLoop_rounds h
      have hrounds : outcome.trace.rounds = new := hnew
      rw [hrounds]
      exact ⟨hconsecutive, hlength, hselected⟩

end Coordinator

/-! ### How often a step dispatches -/

/-- From any state, `m` dispatches at most `n` actions, whatever its outcome. -/
def AtMost {σ α : Type} (n : ℕ) (m : Act σ α) : Prop :=
  ∀ s r s', m.run s = (r, s') → (dispatches s'.trace).length ≤ (dispatches s.trace).length + n

namespace AtMost

variable {σ α β : Type} {n k : ℕ}

/-- A step that writes no call of the executor. -/
theorem of_appends {S : List Stream} {m : Act σ α} (hm : Appends S m) (hS : .executor ∉ S) :
    AtMost n m := by
  intro s r s' hr
  obtain ⟨-, l, ht, hl⟩ := hm s r s' hr
  have hignores : Ignores Event.dispatch? S := by
    intro e he
    cases e <;> first | rfl | exact absurd he hS
  rw [dispatches, ht, filterMap_append_of_ignores hignores _ hl]
  exact Nat.le_add_right _ _

theorem bind {m : Act σ α} {f : α → Act σ β} (hm : AtMost n m) (hf : ∀ a, AtMost k (f a)) :
    AtMost (n + k) (m >>= f) := by
  intro s r s' hr
  rcases Eff.run_bind_cases hr with ⟨e, he, _⟩ | ⟨a, s₁, ha, hr⟩
  · have := hm s _ s' he
    omega
  · have h₁ := hm s _ s₁ ha
    have h₂ := hf a s₁ _ s' hr
    omega

/-- A step that dispatches nothing comes first. -/
theorem after {m : Act σ α} {f : α → Act σ β} (hm : AtMost 0 m) (hf : ∀ a, AtMost n (f a)) :
    AtMost n (m >>= f) := by
  have h := hm.bind hf
  rwa [Nat.zero_add] at h

/-- Nothing is dispatched afterwards. -/
theorem before {m : Act σ α} {f : α → Act σ β} (hm : AtMost n m) (hf : ∀ a, AtMost 0 (f a)) :
    AtMost n (m >>= f) :=
  hm.bind hf

theorem attempt {m : Act σ α} {catches : PyExn → Bool} (hm : AtMost n m) :
    AtMost n (Eff.attempt catches m) := by
  intro s r s' hr
  rcases Eff.run_attempt_cases hr with ⟨a, ha, _⟩ | ⟨e, he, _⟩ | ⟨e, he, _⟩
  · exact hm s _ s' ha
  · exact hm s _ s' he
  · exact hm s _ s' he

theorem ensuring {m : Act σ α} {last : Act σ Unit} (hm : AtMost n m) (hl : AtMost 0 last) :
    AtMost n (Eff.ensuring m last) := by
  intro s r s' hr
  rcases hrun : m s with ⟨x, s₁⟩
  rcases hafter : last s₁ with ⟨y, s₂⟩
  have hs' : s' = s₂ := by
    simp only [Eff.ensuring, Eff.run, hrun, hafter] at hr
    cases y <;> cases hr <;> rfl
  subst hs'
  have h₁ := hm s x s₁ hrun
  have h₂ := hl s₁ y s' hafter
  omega

theorem ite {p : Prop} [Decidable p] {m₁ m₂ : Act σ α} (h₁ : AtMost n m₁) (h₂ : AtMost n m₂) :
    AtMost n (if p then m₁ else m₂) := by
  split
  · exact h₁
  · exact h₂

theorem pure (a : α) : AtMost n (Pure.pure a : Act σ α) := fun s r s' hr => by
  cases hr
  exact Nat.le_add_right _ _

/-- The call of the executor. -/
theorem noteExecute (action : RecoveryAction) :
    AtMost 1 (Act.note (.executeRecovery action) : Act σ Unit) := by
  intro s r s' hr
  cases hr
  show (dispatches (s.trace ++ [_])).length ≤ _
  rw [dispatches, List.filterMap_append, List.length_append]
  exact le_rfl

/-- Its return. -/
theorem noteExecuted (action : RecoveryAction) (result : CommandResult) :
    AtMost 0 (Act.note (.executed action result) : Act σ Unit) := by
  intro s r s' hr
  cases hr
  show (dispatches (s.trace ++ [_])).length ≤ _
  rw [dispatches, List.filterMap_append, List.length_append]
  exact le_rfl

end AtMost

namespace Coordinator

variable {σ : Type} (c : Coordinator σ)

/-- The block under the operation lock dispatches one action. -/
theorem performAction_atMost {ctx : RunContext} {p : Progress} {action : RecoveryAction}
    {validation : SafetyValidation} {actionId : String} :
    AtMost 1 (c.performAction ctx p action validation actionId) := by
  refine AtMost.after (.of_appends (c.appends_record (S := [.executedActions])
    (by simp [Event.stream])) (by decide)) fun _ => ?_
  refine AtMost.before (AtMost.noteExecute action) fun _ => ?_
  refine AtMost.after (.of_appends (.call (S := []) _) (by decide)) fun execution => ?_
  refine AtMost.after (AtMost.noteExecuted action execution) fun _ => ?_
  refine AtMost.of_appends (S := [.executedActions, .postExecutionReviews, .agentContributions])
    ?_ (by decide)
  refine c.appends_checkRuntimeControl.bind fun _ => ?_
  refine (c.appends_record (by simp [Event.stream])).bind fun _ => .ite ?_ ?_
  · exact .ite (.pure _) ((c.appends_finalizeReport.mono (by decide)).bind fun _ => .pure _)
  · exact (Appends.call _).bind fun _ => (Appends.call _).bind fun _ =>
      (c.appends_postReviewLoop.mono (by decide)).bind fun _ => .pure _

theorem tryAction_atMost {ctx : RunContext} {maxAttempts candidateIndex : ℕ} {p : Progress}
    {action : RecoveryAction} :
    AtMost 1 (c.tryAction ctx maxAttempts candidateIndex p action) := by
  have hquiet : ∀ {β : Type} {m : Act σ β} {n : ℕ},
      Appends [.safetyValidations, .agentContributions] m → AtMost n m :=
    fun hm => .of_appends hm (by decide)
  unfold tryAction
  dsimp only
  refine .ite (hquiet ((c.appends_record (by simp [Event.stream])).bind fun _ => .pure _)) ?_
  refine AtMost.after (hquiet (c.appends_record (by simp [Event.stream]))) fun _ => ?_
  refine AtMost.after (hquiet c.appends_checkRuntimeControl) fun _ => .ite ?_ ?_
  · exact hquiet ((c.appends_finalizeReport.mono (by decide)).bind fun _ => .pure _)
  refine AtMost.after (hquiet (.newTraceId _)) fun _ => AtMost.before (AtMost.attempt ?_) fun _ => ?_
  · refine AtMost.after (hquiet c.appends_checkRuntimeControl) fun _ => ?_
    unfold withOperationContext
    refine .ite c.performAction_atMost ?_
    exact AtMost.after (hquiet (.call _)) fun _ => c.performAction_atMost.ensuring (hquiet (.call _))
  · exact hquiet (c.appends_concludeAttempt.mono (by decide))

/-- **A candidate is dispatched at most once.** -/
theorem tryCandidate_atMost {ctx : RunContext} {maxAttempts candidateIndex : ℕ} {p : Progress}
    {candidate : RecoveryActionCandidate} :
    AtMost 1 (c.tryCandidate ctx maxAttempts candidateIndex p candidate) := by
  refine AtMost.after (.of_appends c.appends_negotiate (by decide)) fun outcome => ?_
  cases outcome with
  | failed text t =>
      exact .of_appends (c.appends_finalizeReport.bind fun _ => .pure _) (by decide)
  | settled selected t =>
      refine AtMost.after (.of_appends (c.appends_checkRuntimeControl (S := [])) (by decide))
        fun _ => ?_
      cases selected with
      | none => exact .of_appends (c.appends_finalizeReport.bind fun _ => .pure _) (by decide)
      | some action => exact c.tryAction_atMost

/-- The loop dispatches at most one action for each candidate. -/
theorem replanLoop_atMost {ctx : RunContext} {maxAttempts index : ℕ}
    {candidates : List RecoveryActionCandidate} {p : Progress} :
    AtMost candidates.length (c.replanLoop ctx maxAttempts index candidates p) := by
  induction candidates generalizing index p with
  | nil => exact .of_appends c.appends_finalizeReport (by decide)
  | cons candidate rest ih =>
      rw [List.length_cons, Nat.add_comm]
      refine AtMost.bind c.tryCandidate_atMost fun step => ?_
      cases step with
      | exit e report => exact .pure _
      | proceed p => exact ih

/-- **A run dispatches at most `max_replan_attempts + 1` actions**, however it ends. -/
theorem run_atMost (ns deployment metric : String) (threshold : ℚ) :
    AtMost (c.protocol.maxReplanAttempts + 1) (c.run ns deployment metric threshold) := by
  refine AtMost.after (.of_appends c.appends_prepare (by decide)) fun prepared => ?_
  cases prepared with
  | finished report => exact .pure _
  | ready ctx candidates p =>
      intro s r s' hr
      have hle : (c.attempted candidates).length ≤ c.protocol.maxReplanAttempts + 1 :=
        List.length_take_le _ _
      have := c.replanLoop_atMost s r s' hr
      omega

end Coordinator

/-! ### The reports of the exits -/

/-- The rounds of a report are numbered and bounded. -/
structure RoundsLawful (protocol : ResearchProtocolProfile) (rounds : List NegotiationRound) :
    Prop where
  consecutive : Consecutive 1 rounds
  bounded : rounds.length ≤ (protocol.maxReplanAttempts + 1) * protocol.maxNegotiationRounds

theorem RoundsLawful.nil (protocol : ResearchProtocolProfile) : RoundsLawful protocol [] :=
  ⟨.nil _, Nat.zero_le _⟩

/-- A report of a failure that asks for a review. -/
theorem Lawful.of_failure {protocol : ResearchProtocolProfile} {report : Report}
    (hvalid : report.valid = false)
    (hstatus : report.finalStatus = .safeStopped ∨ report.finalStatus = .safeFailure)
    (hreview : report.humanReviewRequired = true)
    (hrounds : RoundsLawful protocol report.negotiation.rounds) : Lawful protocol report where
  valid_iff := by rcases hstatus with h | h <;> simp [hvalid, h, FinalStatus.isValid]
  review_iff := by rcases hstatus with h | h <;> simp [hvalid, h, hreview]
  recovered h := by rcases hstatus with h' | h' <;> rw [h'] at h <;> cases h
  consecutive := hrounds.consecutive
  bounded := hrounds.bounded

/-- A report of a run that had nothing to do. -/
theorem Lawful.of_noAction {protocol : ResearchProtocolProfile} {report : Report}
    (hvalid : report.valid = false) (hstatus : report.finalStatus = .noActionRequired)
    (hreview : report.humanReviewRequired = false)
    (hrounds : RoundsLawful protocol report.negotiation.rounds) : Lawful protocol report where
  valid_iff := by simp [hvalid, hstatus, FinalStatus.isValid]
  review_iff := by simp [hstatus, hreview]
  recovered h := by
    rw [hstatus] at h
    cases h
  consecutive := hrounds.consecutive
  bounded := hrounds.bounded

/-- The fields that finishing a report changes are not those of the law. -/
theorem Lawful.congr {protocol : ResearchProtocolProfile} {report : Report}
    (h : Lawful protocol report) (contributions : List (String × Contribution))
    (artifacts : List (String × String)) :
    Lawful protocol { report with agentContributions := contributions, artifacts } :=
  ⟨h.valid_iff, h.review_iff, h.recovered, h.consecutive, h.bounded⟩

/-- What the variables of the loop keep: before the turn at `index`, so many rounds at most
are recorded, and the post-execution reviews are about actions that were handed out. -/
structure Counted {σ : Type} (protocol : ResearchProtocolProfile) (index : ℕ) (p : Progress)
    (s : RunState σ) : Prop where
  consecutive : Consecutive 1 p.allRounds
  bounded : p.allRounds.length ≤ index * protocol.maxNegotiationRounds
  reviews : ∀ r ∈ p.allPostReviews, ∃ k < s.nextId, r.actionId = traceId "action" k

/-- The action that was just selected has an identifier of its own. -/
structure Fresh {σ : Type} (p : Progress) (s : RunState σ) (id : String) : Prop where
  selected : Selected p.allRounds id
  other : ∀ r ∈ p.allPostReviews, r.actionId ≠ id
  handed : ∃ k < s.nextId, id = traceId "action" k

theorem Counted.rounds {σ : Type} {protocol : ResearchProtocolProfile} {index : ℕ} {p : Progress}
    {s : RunState σ} (h : Counted protocol index p s) (hle : index ≤ protocol.maxReplanAttempts + 1) :
    RoundsLawful protocol p.allRounds :=
  ⟨h.consecutive, h.bounded.trans (Nat.mul_le_mul_right _ hle)⟩

theorem Counted.mono {σ : Type} {protocol : ResearchProtocolProfile} {index : ℕ} {p : Progress}
    {s s' : RunState σ} (h : Counted protocol index p s) (hn : s.nextId ≤ s'.nextId) :
    Counted protocol index p s' := by
  refine ⟨h.consecutive, h.bounded, fun r hr => ?_⟩
  obtain ⟨k, hk, hid⟩ := h.reviews r hr
  exact ⟨k, hk.trans_le hn, hid⟩

/-- Only the rounds and the post-execution reviews are counted. -/
theorem Counted.congr {σ : Type} {protocol : ResearchProtocolProfile} {index : ℕ}
    {p p' : Progress} {s : RunState σ} (h : Counted protocol index p s)
    (hrounds : p'.allRounds = p.allRounds) (hreviews : p'.allPostReviews = p.allPostReviews) :
    Counted protocol index p' s :=
  ⟨hrounds ▸ h.consecutive, hrounds ▸ h.bounded, hreviews ▸ h.reviews⟩

theorem Fresh.mono {σ : Type} {p : Progress} {s s' : RunState σ} {id : String}
    (h : Fresh p s id) (hn : s.nextId ≤ s'.nextId) : Fresh p s' id := by
  obtain ⟨k, hk, hid⟩ := h.handed
  exact ⟨h.selected, h.other, k, hk.trans_le hn, hid⟩

theorem Fresh.congr {σ : Type} {p p' : Progress} {s : RunState σ} {id : String} (h : Fresh p s id)
    (hrounds : p'.allRounds = p.allRounds) (hreviews : p'.allPostReviews = p.allPostReviews) :
    Fresh p' s id :=
  ⟨hrounds ▸ h.selected, hreviews ▸ h.other, h.handed⟩

/-- The identifier under which `run` dispatches the action. -/
theorem Fresh.actionId_eq {σ : Type} {p : Progress} {s : RunState σ} {id fallback : String}
    (h : Fresh p s id) :
    (p.allRounds.getLast?.bind (·.selectedActionId)).getD fallback = id := by
  obtain ⟨r, hlast, hr⟩ := h.selected
  rw [hlast, Option.bind_some, hr, Option.getD_some]

/-- The variables of the loop after a negotiation. -/
def Progress.negotiated (p : Progress) (t : NegotiationTrace) : Progress :=
  { p with
    initialDecisions := p.initialDecisions ++ t.decisions
    allReviews := p.allReviews ++ t.reviews
    allRounds := p.allRounds ++ t.rounds }

/-- What a step keeps, whether it goes on or returns. -/
def StepLawful {σ : Type} (protocol : ResearchProtocolProfile) (index : ℕ) (s : RunState σ) :
    StepResult → Prop
  | .proceed p => Counted protocol index p s
  | .exit _ report => Lawful protocol report

/-- What the block under the operation lock returns: a lawful report, or reviews of its
action. -/
def BlockLawful (protocol : ResearchProtocolProfile) (actionId : String) : BlockResult → Prop
  | .dryRunRejected _ => True
  | .dryRunReturned report => Lawful protocol report
  | .observed _ _ reviews => ∀ r ∈ collectedPostReviews reviews, r.actionId = actionId

namespace Coordinator

variable {σ : Type} (c : Coordinator σ)

/-- Finishing a report sets its contributions and artifacts. -/
theorem finalizeReport_eq {report report' : Report} {s s' : RunState σ}
    (h : (c.finalizeReport report).run s = (.ok report', s')) :
    ∃ contributions artifacts,
      report' = { report with agentContributions := contributions, artifacts } := by
  unfold finalizeReport at h
  dsimp only at h
  split at h
  · cases h
    exact ⟨_, _, rfl⟩
  · obtain ⟨_, s₁, -, h⟩ := Eff.run_bind_ok h
    split at h
    · cases h
      exact ⟨_, _, rfl⟩
    · obtain ⟨_, s₂, -, h⟩ := Eff.run_bind_ok h
      cases h
      exact ⟨_, _, rfl⟩

theorem finalizeReport_lawful {report report' : Report} {s s' : RunState σ}
    (h : (c.finalizeReport report).run s = (.ok report', s'))
    (hreport : Lawful c.protocol report) : Lawful c.protocol report' := by
  obtain ⟨contributions, artifacts, rfl⟩ := c.finalizeReport_eq h
  exact hreport.congr contributions artifacts

/-- An exit with a report that is finished last. -/
theorem stepLawful_exit {e : Exit} {report : Report} {s s' : RunState σ} {result : StepResult}
    {index : ℕ} (h : (c.finalizeReport report >>= fun r => pure (.exit e r)).run s = (.ok result, s'))
    (hreport : Lawful c.protocol report) : StepLawful c.protocol index s' result := by
  obtain ⟨report', s₁, hfinal, h⟩ := Eff.run_bind_ok h
  cases h
  exact c.finalizeReport_lawful hfinal hreport

/-- The post-execution reviews of an action are about it. -/
theorem postReviewLoop_actionId {runId actionId : String} {action : RecoveryAction}
    {after : EvidenceSnapshot} {assessment : RecoveryAssessment} {adapters : List (AgentAdapter σ)}
    {reviews : List PostExecutionReview} {s s' : RunState σ}
    {r : Except PostReviewFailure (List PostExecutionReview)}
    (hreviews : ∀ v ∈ reviews, v.actionId = actionId)
    (h : (c.postReviewLoop runId actionId action after assessment adapters reviews).run s =
      (.ok r, s')) : ∀ v ∈ collectedPostReviews r, v.actionId = actionId := by
  induction adapters generalizing reviews s with
  | nil =>
      cases h
      exact hreviews
  | cons adapter rest ih =>
      unfold postReviewLoop at h
      split at h
      · obtain ⟨outcome, s₁, hone, h⟩ := Eff.run_bind_ok h
        split at h
        · cases h
          exact hreviews
        · exact ih hreviews h
        · rename_i review
          obtain ⟨_, s₂, -, h⟩ := Eff.run_bind_ok h
          refine ih (fun v hv => ?_) h
          rcases List.mem_append.1 hv with hv | hv
          · exact hreviews v hv
          · obtain rfl := List.mem_singleton.1 hv
            obtain ⟨reply, s₃, -, hone⟩ := Eff.run_bind_ok (Eff.run_attempt_ok hone)
            split at hone
            · cases hone
            · obtain ⟨reviewId, s₄, -, hone⟩ := Eff.run_bind_ok hone
              obtain ⟨review', s₅, hcheck, hone⟩ := Eff.run_bind_ok hone
              cases hone
              exact normalizePostReviewOutput_actionId (ofExcept_run_ok hcheck).1
      · exact ih hreviews h

/-- The report of a validated dry run is lawful. -/
theorem dryRunReport_lawful {ctx : RunContext} {p : Progress} {action : RecoveryAction}
    {validation : SafetyValidation} {execution : CommandResult}
    (hrounds : RoundsLawful c.protocol p.allRounds) :
    Lawful c.protocol (c.dryRunReport ctx p action validation execution) where
  valid_iff := iff_of_true rfl rfl
  review_iff := iff_of_true rfl (.inl rfl)
  recovered h := by cases h
  consecutive := hrounds.consecutive
  bounded := hrounds.bounded

theorem performAction_lawful {ctx : RunContext} {p : Progress} {action : RecoveryAction}
    {validation : SafetyValidation} {actionId : String} {s s' : RunState σ} {block : BlockResult}
    (hrounds : RoundsLawful c.protocol p.allRounds)
    (h : (c.performAction ctx p action validation actionId).run s = (.ok block, s')) :
    BlockLawful c.protocol actionId block := by
  obtain ⟨_, s₁, -, h⟩ := Eff.run_bind_ok h
  obtain ⟨_, s₂, -, h⟩ := Eff.run_bind_ok h
  obtain ⟨execution, s₃, -, h⟩ := Eff.run_bind_ok h
  obtain ⟨_, s₄, -, h⟩ := Eff.run_bind_ok h
  obtain ⟨_, s₅, -, h⟩ := Eff.run_bind_ok h
  obtain ⟨_, s₆, -, h⟩ := Eff.run_bind_ok h
  split at h
  · split at h
    · cases h
      trivial
    · obtain ⟨report, s₇, hfinal, h⟩ := Eff.run_bind_ok h
      cases h
      exact c.finalizeReport_lawful hfinal (c.dryRunReport_lawful hrounds)
  · obtain ⟨after, s₇, -, h⟩ := Eff.run_bind_ok h
    obtain ⟨assessment, s₈, -, h⟩ := Eff.run_bind_ok h
    obtain ⟨reviews, s₉, hreview, h⟩ := Eff.run_bind_ok h
    cases h
    exact c.postReviewLoop_actionId (fun v hv => (List.not_mem_nil hv).elim) hreview

theorem withOperationContext_lawful {ctx : RunContext} {p : Progress} {action : RecoveryAction}
    {validation : SafetyValidation} {actionId : String} {s s' : RunState σ} {block : BlockResult}
    (hrounds : RoundsLawful c.protocol p.allRounds)
    (h : (c.withOperationContext ctx.ns ctx.deployment
      (c.performAction ctx p action validation actionId)).run s = (.ok block, s')) :
    BlockLawful c.protocol actionId block := by
  unfold withOperationContext at h
  split at h
  · exact c.performAction_lawful hrounds h
  · obtain ⟨_, s₁, -, h⟩ := Eff.run_bind_ok h
    obtain ⟨s₂, hblock, -⟩ := Eff.run_ensuring_ok h
    exact c.performAction_lawful hrounds hblock

/-- The report of a recovery is lawful: it was executed, assessed and approved. -/
theorem recoveredReport_lawful {ctx : RunContext} {p : Progress} {status : FinalStatus}
    {action : RecoveryAction} {validation : SafetyValidation} {execution : CommandResult}
    {assessment : RecoveryAssessment} {id : String} (hstatus : status.isRecovered = true)
    (hrounds : RoundsLawful c.protocol p.allRounds) (hselected : Selected p.allRounds id)
    (hexecution : execution.valid = true) (hassessment : assessment.recoverySuccess = true)
    (hreviews : ∀ r ∈ p.allPostReviews, r.actionId = id → r.approved = true) :
    Lawful c.protocol
      { c.attemptReport ctx p status false action validation execution assessment with
        valid := true } where
  valid_iff := by
    refine iff_of_true rfl ?_
    show status.isValid = true
    cases status <;> first | rfl | cases hstatus
  review_iff := iff_of_true rfl (.inl rfl)
  recovered _ := ⟨hexecution, ⟨assessment, rfl, hassessment⟩, id, hselected, hreviews⟩
  consecutive := hrounds.consecutive
  bounded := hrounds.bounded

/-- The end of the loop body, after the block under the operation lock. -/
theorem concludeAttempt_lawful {ctx : RunContext} {maxAttempts candidateIndex index : ℕ}
    {p : Progress} {action : RecoveryAction} {validation : SafetyValidation}
    {block : Except PyExn BlockResult} {s s' : RunState σ} {result : StepResult} {id : String}
    (hp : Counted c.protocol index p s) (hfresh : Fresh p s id)
    (hindex : index ≤ c.protocol.maxReplanAttempts + 1)
    (hblock : ∀ b, block = .ok b → BlockLawful c.protocol id b)
    (h : (c.concludeAttempt ctx maxAttempts candidateIndex p action validation block).run s =
      (.ok result, s')) : StepLawful c.protocol index s' result := by
  have hrounds := hp.rounds hindex
  have hreview := c.protocol.review_on_failure
  cases block with
  | error exc => exact c.stepLawful_exit h (.of_failure rfl (.inl rfl) rfl hrounds)
  | ok b =>
      have hb := hblock b rfl
      cases b with
      | dryRunRejected execution =>
          cases h
          exact ⟨hp.consecutive, hp.bounded, hp.reviews⟩
      | dryRunReturned report =>
          cases h
          exact hb
      | observed execution assessment reviews =>
          have hnew : ∀ r ∈ collectedPostReviews reviews, r.actionId = id := hb
          cases reviews with
          | error failure =>
              exact c.stepLawful_exit h (.of_failure rfl (.inr rfl) hreview hrounds)
          | ok reviews =>
              unfold concludeAttempt at h
              dsimp only at h
              split at h
              · rename_i hrecovered
                simp only [Bool.and_eq_true, List.all_eq_true] at hrecovered
                obtain ⟨⟨hexecution, hassessment⟩, happroved⟩ := hrecovered
                refine c.stepLawful_exit h (c.recoveredReport_lawful ?_ hrounds hfresh.selected
                  hexecution hassessment fun r hr hid => ?_)
                · split <;> rfl
                · rcases List.mem_append.1 hr with hr | hr
                  · exact absurd hid (hfresh.other r hr)
                  · exact happroved r hr
              · cases h
                refine ⟨hp.consecutive, hp.bounded, fun r hr => ?_⟩
                rcases List.mem_append.1 hr with hr | hr
                · exact hp.reviews r hr
                · obtain ⟨k, hk, hid⟩ := hfresh.handed
                  exact ⟨k, hk, (hnew r hr).trans hid⟩

/-- The loop body from the selected action on. -/
theorem tryAction_lawful {ctx : RunContext} {maxAttempts candidateIndex index : ℕ} {p : Progress}
    {action : RecoveryAction} {s s' : RunState σ} {result : StepResult} {id : String}
    (hp : Counted c.protocol index p s) (hfresh : Fresh p s id)
    (hindex : index ≤ c.protocol.maxReplanAttempts + 1)
    (h : (c.tryAction ctx maxAttempts candidateIndex p action).run s = (.ok result, s')) :
    StepLawful c.protocol index s' result := by
  have hrounds := hp.rounds hindex
  unfold tryAction at h
  dsimp only at h
  split at h
  · obtain ⟨_, s₁, hrecord, h⟩ := Eff.run_bind_ok h
    cases h
    have hn := (c.record_run hrecord).2.ge
    exact (hp.mono hn).congr rfl rfl
  · obtain ⟨_, s₁, hrecord, h⟩ := Eff.run_bind_ok h
    obtain ⟨_, s₂, hcheck, h⟩ := Eff.run_bind_ok h
    have hn₁ := (c.record_run hrecord).2.ge
    have hn₂ := (c.appends_checkRuntimeControl.trace_eq hcheck).2
    split at h
    · exact c.stepLawful_exit h (.of_failure rfl (.inl rfl) rfl hrounds)
    · obtain ⟨fallbackId, s₃, hfallback, h⟩ := Eff.run_bind_ok h
      obtain ⟨block, s₄, hblock, h⟩ := Eff.run_bind_ok h
      have hn₃ := ((Appends.newTraceId (S := []) _).trace_eq hfallback).2
      have hn₄ := ((c.appends_checkRuntimeControl.bind fun _ =>
        c.appends_withOperationContext c.appends_performAction).attempt s₃ _ s₄ hblock).1
      have hn : s.nextId ≤ s₄.nextId := ((hn₁.trans hn₂).trans hn₃).trans hn₄
      refine c.concludeAttempt_lawful ((hp.mono hn).congr ?_ ?_) ((hfresh.mono hn).congr ?_ ?_)
        hindex (fun b hb => ?_) h
      any_goals rfl
      subst hb
      obtain ⟨_, s₅, -, hbody⟩ := Eff.run_bind_ok (Eff.run_attempt_ok hblock)
      have hid := c.withOperationContext_lawful hrounds hbody
      rwa [hfresh.actionId_eq] at hid

/-- A negotiation adds its rounds to those before it. -/
theorem counted_negotiate {ctx : RunContext} {candidate : RecoveryActionCandidate} {index : ℕ}
    {p : Progress} {s s' : RunState σ} {outcome : NegotiationOutcome}
    (hp : Counted c.protocol index p s)
    (h : (c.negotiate ctx.runId ctx.diagnosis ctx.evidence [candidate] p.allRounds.length).run s =
      (.ok outcome, s')) :
    Counted c.protocol (index + 1) (p.negotiated outcome.trace) s' ∧
      (outcome.action? ≠ none → ∃ id, Fresh (p.negotiated outcome.trace) s' id) := by
  obtain ⟨hconsecutive, hlength, hselected⟩ := c.negotiate_rounds h
  have hn := (c.appends_negotiate s _ s' h).1
  refine ⟨⟨?_, ?_, (hp.mono hn).reviews⟩, fun hne => ?_⟩
  · exact hp.consecutive.append (by rwa [Nat.add_comm])
  · show (p.allRounds ++ outcome.trace.rounds).length ≤ _
    rw [List.length_append, Nat.succ_mul]
    exact Nat.add_le_add hp.bounded hlength
  · obtain ⟨id, ⟨r, hlast, hr⟩, k, hle, hlt, rfl⟩ := hselected hne
    refine ⟨_, ⟨r, ?_, hr⟩, fun v hv hid => ?_, k, hlt, rfl⟩
    · show (p.allRounds ++ outcome.trace.rounds).getLast? = some r
      rw [List.getLast?_append, hlast, Option.some_or]
    · -- the reviews of the candidates before carry identifiers that were handed out before
      obtain ⟨j, hj, hv⟩ := hp.reviews v hv
      have := traceId_inj (hv.symm.trans hid)
      omega

/-- **The loop body** returns a lawful report, or goes on with one candidate more counted. -/
theorem tryCandidate_lawful {ctx : RunContext} {maxAttempts index : ℕ} {p : Progress}
    {candidate : RecoveryActionCandidate} {s s' : RunState σ} {result : StepResult}
    (hp : Counted c.protocol index p s) (hindex : index < c.protocol.maxReplanAttempts + 1)
    (h : (c.tryCandidate ctx maxAttempts index p candidate).run s = (.ok result, s')) :
    StepLawful c.protocol (index + 1) s' result := by
  have hreview := c.protocol.review_on_failure
  obtain ⟨outcome, s₁, hnegotiate, h⟩ := Eff.run_bind_ok h
  split at h
  · obtain ⟨hp', -⟩ := c.counted_negotiate hp hnegotiate
    exact c.stepLawful_exit h (.of_failure rfl (.inl rfl) hreview (hp'.rounds hindex))
  · obtain ⟨_, s₂, hcheck, h⟩ := Eff.run_bind_ok h
    have hn := (c.appends_checkRuntimeControl.trace_eq hcheck).2
    split at h
    · obtain ⟨hp', -⟩ := c.counted_negotiate hp hnegotiate
      exact c.stepLawful_exit h (.of_failure rfl (.inl rfl) rfl (hp'.rounds hindex))
    · obtain ⟨hp', hfresh⟩ := c.counted_negotiate hp hnegotiate
      obtain ⟨id, hfresh⟩ := hfresh (Option.some_ne_none _)
      exact c.tryAction_lawful (hp'.mono hn) (hfresh.mono hn) hindex h

/-- The loop over the candidates returns a lawful report. -/
theorem replanLoop_lawful {ctx : RunContext} {maxAttempts index : ℕ}
    {candidates : List RecoveryActionCandidate} {p : Progress} {s s' : RunState σ}
    {report : Report} (hp : Counted c.protocol index p s)
    (hindex : index + candidates.length ≤ c.protocol.maxReplanAttempts + 1)
    (h : (c.replanLoop ctx maxAttempts index candidates p).run s = (.ok report, s')) :
    Lawful c.protocol report := by
  induction candidates generalizing index p s with
  | nil =>
      have hrounds := hp.rounds (Nat.le_of_add_right_le hindex)
      exact c.finalizeReport_lawful h (.of_failure rfl (.inr rfl) rfl hrounds)
  | cons candidate rest ih =>
      rw [List.length_cons] at hindex
      obtain ⟨step, s₁, hstep, h⟩ := Eff.run_bind_ok h
      have hlawful := c.tryCandidate_lawful hp (by omega) hstep
      cases step with
      | exit e report' =>
          cases h
          exact hlawful
      | proceed p' =>
          exact ih hlawful (by omega) h

/-- What the part before the loop returns: a lawful report, or nothing counted yet. -/
def PreparedLawful (protocol : ResearchProtocolProfile) : Prepared → Prop
  | .finished report => Lawful protocol report
  | .ready _ _ p => p.allRounds = [] ∧ p.allPostReviews = []

/-- The part of `run` before the loop that returns a report. -/
theorem preparedLawful_finished {report : Report} {s s' : RunState σ} {prepared : Prepared}
    (h : (c.finalizeReport report >>= fun r => pure (.finished r)).run s = (.ok prepared, s'))
    (hreport : Lawful c.protocol report) : PreparedLawful c.protocol prepared := by
  obtain ⟨report', s₁, hfinal, h⟩ := Eff.run_bind_ok h
  cases h
  exact c.finalizeReport_lawful hfinal hreport

theorem prepareCandidates_lawful {ctx : RunContext} {decision : SupervisionDecision}
    {prepared : Prepared} {s s' : RunState σ}
    (h : (c.prepareCandidates ctx decision).run s = (.ok prepared, s')) :
    PreparedLawful c.protocol prepared := by
  have hreview := c.protocol.review_on_failure
  unfold prepareCandidates at h
  split at h
  · cases h
  · obtain ⟨outcome, s₁, -, h⟩ := Eff.run_bind_ok h
    split at h
    · exact c.preparedLawful_finished h (.of_failure rfl (.inl rfl) hreview (.nil _))
    · cases h
      exact ⟨rfl, rfl⟩

theorem prepareDiagnosis_lawful {runId ns deployment metric : String} {threshold : ℚ}
    {evidence : EvidenceSnapshot} {prepared : Prepared} {s s' : RunState σ}
    (h : (c.prepareDiagnosis runId ns deployment metric threshold evidence).run s =
      (.ok prepared, s')) : PreparedLawful c.protocol prepared := by
  have hreview := c.protocol.review_on_failure
  unfold prepareDiagnosis at h
  split at h
  · cases h
  obtain ⟨outcome, s₁, -, h⟩ := Eff.run_bind_ok h
  split at h
  · exact c.preparedLawful_finished h (.of_failure rfl (.inl rfl) hreview (.nil _))
  obtain ⟨_, s₂, -, h⟩ := Eff.run_bind_ok h
  obtain ⟨_, s₃, -, h⟩ := Eff.run_bind_ok h
  split at h
  · -- the diagnosis was not approved: the evidence is missing, or there is nothing to do
    refine c.preparedLawful_finished h ?_
    split
    · rename_i hmissing
      refine .of_failure rfl (.inl rfl) ?_ (.nil _)
      show (_ && _) = true
      rw [hmissing, hreview]
      rfl
    · rename_i hmissing
      refine .of_noAction rfl rfl ?_ (.nil _)
      show (_ && _) = false
      rw [Bool.eq_false_of_not_eq_true hmissing, Bool.false_and]
  · exact c.prepareCandidates_lawful h

theorem prepare_lawful {ns deployment metric : String} {threshold : ℚ} {prepared : Prepared}
    {s s' : RunState σ}
    (h : (c.prepare ns deployment metric threshold).run s = (.ok prepared, s')) :
    PreparedLawful c.protocol prepared := by
  have hreview := c.protocol.review_on_failure
  obtain ⟨_, s₁, -, h⟩ := Eff.run_bind_ok h
  obtain ⟨runId, s₂, -, h⟩ := Eff.run_bind_ok h
  obtain ⟨_, s₃, -, h⟩ := Eff.run_bind_ok h
  obtain ⟨_, s₄, -, h⟩ := Eff.run_bind_ok h
  split at h
  · exact c.preparedLawful_finished h (.of_failure rfl (.inl rfl) hreview (.nil _))
  · obtain ⟨_, s₅, -, h⟩ := Eff.run_bind_ok h
    obtain ⟨evidence, s₆, -, h⟩ := Eff.run_bind_ok h
    obtain ⟨_, s₇, -, h⟩ := Eff.run_bind_ok h
    obtain ⟨_, s₈, -, h⟩ := Eff.run_bind_ok h
    exact c.prepareDiagnosis_lawful h

/-- **Every report of a run is lawful**, and the run dispatched at most
`max_replan_attempts + 1` actions. -/
theorem run_lawful (ns deployment metric : String) (threshold : ℚ) (env : σ) {report : Report}
    {s' : RunState σ}
    (h : (c.run ns deployment metric threshold).run (.start env) = (.ok report, s')) :
    Lawful c.protocol report ∧
      (dispatches s'.trace).length ≤ c.protocol.maxReplanAttempts + 1 := by
  refine ⟨?_, ?_⟩
  · obtain ⟨prepared, s₁, hprepare, h⟩ := Eff.run_bind_ok h
    have hlawful := c.prepare_lawful hprepare
    cases prepared with
    | finished report' =>
        cases h
        exact hlawful
    | ready ctx candidates p =>
        obtain ⟨hrounds, hreviews⟩ := hlawful
        refine c.replanLoop_lawful ⟨?_, ?_, ?_⟩ ?_ h
        · rw [hrounds]
          exact .nil _
        · rw [hrounds]
          exact Nat.zero_le _
        · rw [hreviews]
          exact fun r hr => (List.not_mem_nil hr).elim
        · rw [Nat.zero_add]
          exact List.length_take_le _ _
  · have hdispatches := c.run_atMost ns deployment metric threshold _ _ s' h
    rwa [show dispatches (RunState.start env).trace = [] from rfl, List.length_nil,
      Nat.zero_add] at hdispatches

/-- The restart recovers the service. -/
def restartRecovers : Coordinator Unit :=
  { restartThenVeto with assess := fun _ _ _ _ => pure ⟨true, 0, "", 1, false⟩ }

/-- The law at a run that recovers. -/
theorem run_lawful_restartRecovers : ∃ report s',
    (restartRecovers.run "prod" "web" "cpu" 80).run (.start ()) = (.ok report, s') ∧
      report.finalStatus = .recovered ∧ Lawful twoAgentProfile report ∧
        (dispatches s'.trace).length ≤ 2 := by
  have hstatus : (((restartRecovers.run "prod" "web" "cpu" 80).run (.start ())).1.toOption.map
      (·.finalStatus)) = some .recovered := by decide +kernel
  rcases hr : (restartRecovers.run "prod" "web" "cpu" 80).run (.start ()) with ⟨e | report, s'⟩
  · rw [hr] at hstatus
    cases hstatus
  · rw [hr] at hstatus
    have hlawful := restartRecovers.run_lawful "prod" "web" "cpu" 80 () hr
    exact ⟨report, s', rfl, Option.some_inj.1 hstatus, hlawful⟩

end Coordinator
end Supervision
end AiopsK8s
