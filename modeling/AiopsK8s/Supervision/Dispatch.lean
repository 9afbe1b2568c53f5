/-
# Only agreed actions are dispatched

`Authorised` says what must stand in the trace where `run` dispatches an action:
consent to exactly this action, its place inside the target, the action space and
the evidence, and the validator's acceptance.

Nothing between a negotiation and the dispatch writes a decision, a review or a
round, so the consent of the negotiation still stands there (`Agreed`), and every
dispatch of a run is authorised (`run_dispatches_authorised`).
-/

import AiopsK8s.Supervision.Consent

namespace AiopsK8s
namespace Supervision

open Effect Act

/-- What must stand in the trace before `action` is dispatched. -/
structure Authorised {σ : Type} (c : Coordinator σ) (ns deployment : String) (trace : List Event)
    (action : RecoveryAction) : Prop where
  consent : ∃ d r, Consent c.protocol trace action d r
  on_namespace : action.ns = ns
  on_deployment : action.deployment = deployment
  in_space : action.kind ∈ c.protocol.actionSpace
  scales_out : action.kind = .scaleOut → ∃ evidence replicas,
    trace.filterMap Event.evidence? = [evidence] ∧ action.replicas = some replicas ∧
      evidence.desiredReplicas < replicas
  accepted : c.validator.validateRecoveryAction action = .ok action

/-- Every dispatch of a trace is authorised by the part of the trace before it. -/
def DispatchesAuthorised {σ : Type} (c : Coordinator σ) (ns deployment : String)
    (trace : List Event) : Prop :=
  ∀ pre action post, trace = pre ++ .executeRecovery action :: post →
    Authorised c ns deployment pre action

/-- Authorisation survives events that are no decisions, reviews, rounds or
evidence. -/
theorem Authorised.append {σ : Type} {c : Coordinator σ} {ns deployment : String}
    {trace l : List Event} {action : RecoveryAction} {S : List Stream}
    (h : Authorised c ns deployment trace action) (hl : ∀ e ∈ l, e.stream ∈ S)
    (hS : ∀ stream ∈ Coordinator.negotiationStreams, stream ∉ S) (he : .evidence ∉ S) :
    Authorised c ns deployment (trace ++ l) action := by
  obtain ⟨d, r, hconsent⟩ := h.consent
  refine ⟨⟨d, r, hconsent.append hl hS⟩, h.on_namespace, h.on_deployment, h.in_space,
    fun hk => ?_, h.accepted⟩
  rw [filterMap_append_of_ignores (ignores_evidence he) _ hl]
  exact h.scales_out hk

namespace DispatchesAuthorised

variable {σ : Type} {c : Coordinator σ} {ns deployment : String} {trace : List Event}

/-- One more event: if it is a dispatch, it has to be authorised. -/
theorem snoc {e : Event} (h : DispatchesAuthorised c ns deployment trace)
    (he : ∀ action, e = .executeRecovery action → Authorised c ns deployment trace action) :
    DispatchesAuthorised c ns deployment (trace ++ [e]) := by
  intro pre action post heq
  rcases List.eq_nil_or_concat post with rfl | ⟨post', last, rfl⟩
  · obtain ⟨rfl, hlast⟩ := List.append_inj' heq rfl
    exact he action (List.singleton_inj.1 hlast)
  · rw [List.concat_eq_append, ← List.cons_append, ← List.append_assoc] at heq
    exact h pre action post' (List.append_inj' heq rfl).1

/-- Events that are no calls of the executor. -/
theorem append {l : List Event} {S : List Stream} (h : DispatchesAuthorised c ns deployment trace)
    (hl : ∀ e ∈ l, e.stream ∈ S) (hS : .executor ∉ S) :
    DispatchesAuthorised c ns deployment (trace ++ l) := by
  induction l generalizing trace with
  | nil => rwa [List.append_nil]
  | cons e l ih =>
      rw [List.append_cons]
      refine ih (h.snoc fun action he => ?_) fun e' he' => hl e' (List.mem_cons_of_mem _ he')
      have hstream := hl e (List.mem_cons_self ..)
      rw [he] at hstream
      exact absurd hstream hS

end DispatchesAuthorised

/-- The invariant of a run whose evidence is collected. -/
structure Sound {σ : Type} (c : Coordinator σ) (ctx : RunContext) (s : RunState σ) : Prop where
  fresh : FreshIds s
  authorised : DispatchesAuthorised c ctx.ns ctx.deployment s.trace
  observed : s.trace.filterMap Event.evidence? = [ctx.evidence]

/-- The invariant between a negotiation and the dispatch of its action. -/
structure Agreed {σ : Type} (c : Coordinator σ) (ctx : RunContext) (action : RecoveryAction)
    (s : RunState σ) : Prop where
  sound : Sound c ctx s
  action : Authorised c ctx.ns ctx.deployment s.trace action

namespace Coordinator

variable {σ α : Type} (c : Coordinator σ) {ctx : RunContext}

/-- The streams that an arbitrary step may write without breaking `Sound`. -/
def quietStreams : List Stream :=
  [.negotiationRounds, .safetyValidations, .executedActions, .postExecutionReviews,
    .agentContributions]

theorem sound_of_append {s s' : RunState σ} {l : List Event} {S : List Stream}
    (h : Sound c ctx s) (ht : s'.trace = s.trace ++ l) (hn : s.nextId ≤ s'.nextId)
    (hl : ∀ e ∈ l, e.stream ∈ S) (hS : S ⊆ quietStreams) : Sound c ctx s' := by
  have hnot : ∀ stream, stream ∉ quietStreams → stream ∉ S := fun _ hq hm => hq (hS hm)
  refine ⟨h.fresh.of_append ht hn hl (hnot _ (by decide)) (hnot _ (by decide)), ?_, ?_⟩
  · rw [ht]
    exact h.authorised.append hl (hnot _ (by decide))
  · rw [ht, filterMap_append_of_ignores (ignores_evidence (hnot _ (by decide))) _ hl]
    exact h.observed

/-- Quiet steps keep the invariant of a run. -/
theorem sound_of_appends {S : List Stream} {m : Act σ α} (hm : Appends S m)
    (hS : S ⊆ quietStreams) : Stable (Sound c ctx) m :=
  hm.stable fun _ _ _ h ht hn hl => c.sound_of_append h ht hn hl hS

/-- Quiet steps that record no round keep an agreed action agreed. -/
theorem agreed_of_appends {S : List Stream} {m : Act σ α} {action : RecoveryAction}
    (hm : Appends S m) (hS : S ⊆ quietStreams) (hr : .negotiationRounds ∉ S) :
    Triple (Agreed c ctx action) m (fun _ => Agreed c ctx action) (fun _ => Sound c ctx) := by
  have hnot : ∀ stream, stream ∉ quietStreams → stream ∉ S := fun _ hq hm => hq (hS hm)
  have hstable : Stable (Agreed c ctx action) m := hm.stable fun s s' l h ht hn hl => by
    refine ⟨c.sound_of_append h.sound ht hn hl hS, ?_⟩
    rw [ht]
    refine h.action.append hl (fun stream hs => ?_) (hnot _ (by decide))
    rcases List.mem_cons.1 hs with rfl | hs
    · exact hnot _ (by decide)
    rcases List.mem_cons.1 hs with rfl | hs
    · exact hnot _ (by decide)
    obtain rfl := List.mem_singleton.1 hs
    exact hr
  exact hstable.weaken (fun _ h => h) (fun _ _ h => h) fun _ _ h => h.sound

/-- The block under the operation lock dispatches an agreed action. -/
theorem performAction_sound {p : Progress} {action : RecoveryAction}
    {validation : SafetyValidation} {actionId : String} :
    Triple (Agreed c ctx action) (c.performAction ctx p action validation actionId)
      (fun _ => Sound c ctx) (fun _ => Sound c ctx) := by
  have hquiet : ∀ {β : Type} {m : Act σ β}, Appends [.executedActions, .postExecutionReviews,
      .agentContributions] m → Stable (Sound c ctx) m :=
    fun hm => c.sound_of_appends hm (by decide)
  refine Triple.bind (Q := fun _ => Agreed c ctx action) ?_ fun _ => ?_
  · exact c.agreed_of_appends (c.appends_record (S := [.executedActions]) (by simp [Event.stream]))
      (by decide) (by decide)
  refine Triple.bind (Q := fun _ => Sound c ctx) ?_ fun _ => ?_
  · refine Triple.modify fun s hs => ⟨?_, ?_, ?_⟩
    · exact hs.sound.fresh.of_append (S := [.executor]) rfl le_rfl (by simp [Event.stream])
        (by decide) (by decide)
    · refine hs.sound.authorised.snoc fun a ha => ?_
      cases ha
      exact hs.action
    · simpa [RunState.push, List.filterMap_cons, Event.evidence?] using hs.sound.observed
  refine Triple.bind (hquiet (.call _)) fun execution => ?_
  refine Triple.bind (Q := fun _ => Sound c ctx) ?_ fun _ => ?_
  · refine Triple.modify fun s hs => ⟨?_, ?_, ?_⟩
    · exact hs.fresh.of_append (S := [.executor]) rfl le_rfl (by simp [Event.stream])
        (by decide) (by decide)
    · exact hs.authorised.snoc fun a ha => by cases ha
    · simpa [RunState.push, List.filterMap_cons, Event.evidence?] using hs.observed
  refine hquiet (c.appends_checkRuntimeControl.bind fun _ => ?_)
  refine (c.appends_record (by simp [Event.stream])).bind fun _ => .ite ?_ ?_
  · exact .ite (.pure _) ((c.appends_finalizeReport.mono (by decide)).bind fun _ => .pure _)
  · exact (Appends.call _).bind fun _ => (Appends.call _).bind fun _ =>
      (c.appends_postReviewLoop.mono (by decide)).bind fun _ => .pure _

/-- What the checks of `tryAction` add to the consent of a negotiation. -/
theorem authorised_of_checks {s : RunState σ} {action : RecoveryAction} (hs : Sound c ctx s)
    (hconsent : ∃ d r, Consent c.protocol s.trace action d r)
    (herror : actionSemanticError action c.protocol ctx.evidence ctx.ns ctx.deployment = "")
    (hvalid : (c.validateAction action).valid = true) :
    Authorised c ctx.ns ctx.deployment s.trace action := by
  obtain ⟨htarget, hspace, hscale⟩ := actionSemanticError_eq_empty.1 herror
  refine ⟨hconsent, htarget.1, htarget.2, hspace, fun hk => ?_, ?_⟩
  · obtain ⟨replicas, hr, hlt⟩ := hscale hk
    exact ⟨ctx.evidence, replicas, hs.observed, hr, hlt⟩
  · exact c.validateAction_valid hvalid

/-- From an action with consent, the loop body dispatches it only if the checks
pass. -/
theorem tryAction_sound {maxAttempts candidateIndex : ℕ} {p : Progress} {action : RecoveryAction} :
    Triple (fun s => Sound c ctx s ∧ ∃ d r, Consent c.protocol s.trace action d r)
      (c.tryAction ctx maxAttempts candidateIndex p action) (fun _ => Sound c ctx)
      (fun _ => Sound c ctx) := by
  have hquiet : ∀ {β : Type} {m : Act σ β}, Appends [.safetyValidations, .agentContributions] m →
      Stable (Sound c ctx) m := fun hm => c.sound_of_appends hm (by decide)
  unfold tryAction
  dsimp only
  refine Triple.ite (fun _ => ?_) fun herror => ?_
  · refine Triple.weaken (hquiet ?_) (fun _ h => h.1) (fun _ _ h => h) (fun _ _ h => h)
    exact (c.appends_record (by simp [Event.stream])).bind fun _ => .pure _
  by_cases hvalid : (c.validateAction action).valid = true
  · -- the checks passed: from here to the dispatch the action is agreed
    refine Triple.weaken (P := Agreed c ctx action) ?_
      (fun s h => ⟨h.1, c.authorised_of_checks h.1 h.2 (not_not.1 herror) hvalid⟩)
      (fun _ _ h => h) (fun _ _ h => h)
    have hagreed : ∀ {β : Type} {m : Act σ β}, Appends [.safetyValidations] m →
        Triple (Agreed c ctx action) m (fun _ => Agreed c ctx action) (fun _ => Sound c ctx) :=
      fun hm => c.agreed_of_appends hm (by decide) (by decide)
    refine Triple.bind (hagreed (c.appends_record (by simp [Event.stream]))) fun _ => ?_
    refine Triple.bind (hagreed c.appends_checkRuntimeControl) fun _ => ?_
    refine Triple.ite (fun h => by simp [hvalid] at h) fun _ => ?_
    refine Triple.bind (hagreed (.newTraceId _)) fun _ => ?_
    refine Triple.bind (Q := fun _ => Sound c ctx) ?_ fun _ => ?_
    · have hblock (p : Progress) (actionId : String) : Triple (Agreed c ctx action)
          (c.checkRuntimeControl >>= fun _ => c.withOperationContext ctx.ns ctx.deployment
            (c.performAction ctx p action (c.validateAction action) actionId))
          (fun _ => Sound c ctx) (fun _ => Sound c ctx) := by
        refine Triple.bind (hagreed c.appends_checkRuntimeControl) fun _ => ?_
        unfold withOperationContext
        refine Triple.ite (fun _ => c.performAction_sound) fun _ => ?_
        exact Triple.bind (hagreed (.call _)) fun _ =>
          Triple.ensuring c.performAction_sound (fun _ => hquiet (.call _))
            fun _ => hquiet (.call _)
      refine (Triple.attempt (hblock _ _) fun _ _ _ h => h).weaken (fun _ h => h) ?_ (fun _ _ h => h)
      intro r s h
      rcases r with _ | _
      · exact h.2
      · exact h
    · exact hquiet (c.appends_concludeAttempt.mono (by decide))
  · -- the validator rejected: nothing is dispatched
    refine Triple.weaken (hquiet ?_) (fun _ h => h.1) (fun _ _ h => h) (fun _ _ h => h)
    refine (c.appends_record (by simp [Event.stream])).bind fun _ => ?_
    refine c.appends_checkRuntimeControl.bind fun _ => ?_
    rw [if_pos (by simpa using hvalid)]
    exact (c.appends_finalizeReport.mono (by decide)).bind fun _ => .pure _

/-- **The loop body keeps the invariant of a run.** -/
theorem tryCandidate_sound {maxAttempts candidateIndex : ℕ} {p : Progress}
    {candidate : RecoveryActionCandidate} :
    Stable (Sound c ctx) (c.tryCandidate ctx maxAttempts candidateIndex p candidate) := by
  have hquiet : ∀ {β : Type} {m : Act σ β}, Appends [.agentContributions] m →
      Stable (Sound c ctx) m := fun hm => c.sound_of_appends hm (by decide)
  refine Triple.bind (Q := fun outcome s => Sound c ctx s ∧ ∀ selected t,
    outcome = .settled (some selected) t → ∃ d r, Consent c.protocol s.trace selected d r) ?_
    fun outcome => ?_
  · intro s hs
    have hkeep : ∀ r s', (c.negotiate ctx.runId ctx.diagnosis ctx.evidence [candidate]
        p.allRounds.length).run s = (r, s') → Sound c ctx s' := by
      intro r s' hr
      obtain ⟨-, l, ht, hl⟩ := c.appends_negotiate s r s' hr
      refine ⟨(c.negotiate_consent hs.fresh hr).1, ?_, ?_⟩
      · rw [ht]
        exact hs.authorised.append hl (by decide)
      · rw [ht, filterMap_append_of_ignores (ignores_evidence (by decide)) _ hl]
        exact hs.observed
    refine ⟨fun outcome s' hr => ⟨hkeep _ s' hr, fun selected t ho => ?_⟩,
      fun e s' hr => hkeep _ s' hr⟩
    exact (c.negotiate_consent hs.fresh hr).2 selected t (congrArg _ ho)
  · cases outcome with
    | failed text t =>
        refine Triple.weaken (hquiet ?_) (fun _ h => h.1) (fun _ _ h => h) (fun _ _ h => h)
        exact c.appends_finalizeReport.bind fun _ => .pure _
    | settled selected t =>
        cases selected with
        | none =>
            refine Triple.weaken (hquiet ?_) (fun _ h => h.1) (fun _ _ h => h) (fun _ _ h => h)
            exact c.appends_checkRuntimeControl.bind fun _ =>
              c.appends_finalizeReport.bind fun _ => .pure _
        | some action =>
            refine Triple.bind (Q := fun _ s => Sound c ctx s ∧
              ∃ d r, Consent c.protocol s.trace action d r) ?_ fun _ => c.tryAction_sound
            intro s hs
            obtain ⟨d, r, hconsent⟩ := hs.2 action t rfl
            refine ⟨fun a s' hr => ?_, fun e s' hr => ?_⟩ <;>
              have ht := c.appends_checkRuntimeControl.trace_eq hr
            · refine ⟨(hquiet c.appends_checkRuntimeControl).holds hs.1 hr, d, r, ?_⟩
              rw [ht.1]
              exact hconsent
            · exact (hquiet c.appends_checkRuntimeControl).holds hs.1 hr

/-- The loop keeps the invariant of a run. -/
theorem replanLoop_sound {maxAttempts index : ℕ} {candidates : List RecoveryActionCandidate}
    {p : Progress} : Stable (Sound c ctx) (c.replanLoop ctx maxAttempts index candidates p) := by
  induction candidates generalizing index p with
  | nil => exact c.sound_of_appends c.appends_finalizeReport (by decide)
  | cons candidate rest ih =>
      refine Stable.bind c.tryCandidate_sound fun step => ?_
      cases step with
      | exit e report => exact Stable.pure _
      | proceed p => exact ih

/-- The decision of a diagnosis has an identifier that has been handed out. -/
theorem diagnoseOnce_decisionId {adapter : AgentAdapter σ} {runId deployment metric : String}
    {threshold : ℚ} {evidence : EvidenceSnapshot} {s s' : RunState σ} {diagnosis : Diagnosis}
    {decision : SupervisionDecision}
    (h : (c.diagnoseOnce adapter runId deployment metric threshold evidence).run s =
      (.ok (diagnosis, decision), s')) :
    ∃ k < s'.nextId, decision.decisionId = traceId "decision" k := by
  obtain ⟨result, s₁, _, h₁⟩ := Eff.run_bind_ok h
  obtain ⟨decisionId, s₂, hid, h₂⟩ := Eff.run_bind_ok h₁
  obtain ⟨diagnosed, s₃, hc, h₃⟩ := Eff.run_bind_ok h₂
  obtain ⟨_, s₄, hcheck, h₄⟩ := Eff.run_bind_ok h₃
  obtain ⟨hn, rfl⟩ := ofExcept_run_ok hc
  have hle := (c.appends_checkRuntimeControl.trace_eq hcheck).2
  cases hid
  cases h₄
  exact ⟨s₁.nextId, hle, normalizeDiagnosisOutput_decisionId hn⟩

/-- The invariant of a run before its diagnosis is known. -/
def Collected (ns deployment : String) (evidence : EvidenceSnapshot) (s : RunState σ) : Prop :=
  ∀ runId diagnosis, Sound c ⟨runId, ns, deployment, evidence, diagnosis⟩ s

/-- From the collected evidence on, the part before the loop keeps the invariant
of a run. -/
theorem prepareDiagnosis_sound {runId ns deployment metric : String} {threshold : ℚ}
    {evidence : EvidenceSnapshot} :
    Triple (c.Collected ns deployment evidence)
      (c.prepareDiagnosis runId ns deployment metric threshold evidence)
      (fun r s => DispatchesAuthorised c ns deployment s.trace ∧ ∀ ctx candidates p,
        r = .ready ctx candidates p → Sound c ctx s ∧ ctx.ns = ns ∧ ctx.deployment = deployment)
      (fun _ s => DispatchesAuthorised c ns deployment s.trace) := by
  intro s hs
  -- what is dispatched: the streams of this part contain no call of the executor
  have hauth : ∀ r s', (c.prepareDiagnosis runId ns deployment metric threshold evidence).run s =
      (r, s') → DispatchesAuthorised c ns deployment s'.trace := by
    intro r s' hr
    obtain ⟨-, l, ht, hl⟩ := c.appends_prepareDiagnosis s r s' hr
    rw [ht]
    exact (hs "" ⟨"", "", "", 0, []⟩).authorised.append hl (by decide)
  refine ⟨fun prepared s' hr => ⟨hauth _ _ hr, fun ctx candidates p hp => ?_⟩,
    fun e s' hr => hauth _ _ hr⟩
  subst hp
  unfold prepareDiagnosis at hr
  split at hr
  · cases hr
  obtain ⟨outcome, s₁, hdiag, h₁⟩ := Eff.run_bind_ok hr
  obtain ⟨ht₁, hn₁⟩ := c.appends_diagnoseOnce.attempt.trace_eq hdiag
  split at h₁
  · obtain ⟨_, _, _, h₂⟩ := Eff.run_bind_ok h₁
    cases h₂
  rename_i diagnosis decision
  obtain ⟨_, s₂, hrec, h₂⟩ := Eff.run_bind_ok h₁
  obtain ⟨ht₂, hn₂⟩ := c.record_run hrec
  obtain ⟨_, s₃, hcheck, h₃⟩ := Eff.run_bind_ok h₂
  obtain ⟨ht₃, hn₃⟩ := c.appends_checkRuntimeControl.trace_eq hcheck
  obtain ⟨k, hk, hid⟩ : ∃ k < s₁.nextId, decision.decisionId = traceId "decision" k := by
    exact c.diagnoseOnce_decisionId (Eff.run_attempt_ok hdiag)
  split at h₃
  · obtain ⟨_, _, _, h₄⟩ := Eff.run_bind_ok h₃
    cases h₄
  have hctx : ctx = ⟨runId, ns, deployment, evidence, diagnosis⟩ := by
    unfold prepareCandidates at h₃
    split at h₃
    · cases h₃
    obtain ⟨_, _, _, h₄⟩ := Eff.run_bind_ok h₃
    split at h₄
    · obtain ⟨_, _, _, h₅⟩ := Eff.run_bind_ok h₄
      cases h₅
    · cases h₄
      rfl
  subst hctx
  obtain ⟨hn₄, l, ht₄, hl⟩ := c.appends_prepareCandidates s₃ _ s' h₃
  have hs := hs runId diagnosis
  have hsound : Sound c ⟨runId, ns, deployment, evidence, diagnosis⟩ s₃ := by
    have ht : s₃.trace = s.trace ++ [.decision decision] := by rw [ht₃, ht₂, ht₁]
    refine ⟨hs.fresh.snoc_decision (hk.trans_le (hn₂.ge.trans hn₃)) hid ht
      (hn₁.trans (hn₂.ge.trans hn₃)), ?_, ?_⟩
    · rw [ht]
      exact hs.authorised.snoc fun a ha => by cases ha
    · simpa [ht, List.filterMap_cons, Event.evidence?] using hs.observed
  exact ⟨c.sound_of_append hsound ht₄ hn₄ hl (by decide), rfl, rfl⟩

/-- **The part of `run` before the loop** establishes the invariant of a run. -/
theorem prepare_sound {ns deployment metric : String} {threshold : ℚ} :
    Triple (fun s => s.trace = []) (c.prepare ns deployment metric threshold)
      (fun r s => DispatchesAuthorised c ns deployment s.trace ∧ ∀ ctx candidates p,
        r = .ready ctx candidates p → Sound c ctx s ∧ ctx.ns = ns ∧ ctx.deployment = deployment)
      (fun _ s => DispatchesAuthorised c ns deployment s.trace) := by
  -- before the evidence only the profile and contributions are recorded
  let Blank : RunState σ → Prop := fun s =>
    ∀ e ∈ s.trace, e.stream ∈ [Stream.protocolProfiles, .agentContributions]
  have hblank : ∀ s, Blank s → DispatchesAuthorised c ns deployment s.trace := by
    intro s hs pre action post heq
    have := hs (.executeRecovery action) (by simp [heq])
    simp [Event.stream] at this
  have hquiet : ∀ {β : Type} {m : Act σ β},
      Appends [.protocolProfiles, .agentContributions] m →
      Triple Blank m (fun _ => Blank) (fun _ s => DispatchesAuthorised c ns deployment s.trace) := by
    intro β m hm
    have hstable : Stable Blank m := hm.stable fun s s' l h ht _ hl e he => by
      rw [ht] at he
      rcases List.mem_append.1 he with he | he
      · exact h e he
      · exact hl e he
    exact hstable.weaken (fun _ h => h) (fun _ _ h => h) fun _ s h => hblank s h
  refine Triple.weaken (P := Blank) ?_ (fun s hs => by simp [Blank, hs]) (fun _ _ h => h)
    (fun _ _ h => h)
  refine Triple.bind (hquiet c.appends_checkRuntimeControl) fun _ => ?_
  refine Triple.bind (hquiet (.newTraceId _)) fun runId => ?_
  refine Triple.bind (hquiet (c.appends_beginAdapterRun.mono (by simp))) fun _ => ?_
  refine Triple.bind (hquiet (c.appends_record (by simp [Event.stream]))) fun _ => ?_
  refine Triple.ite (fun _ => ?_) fun _ => ?_
  · refine Triple.bind (hquiet (c.appends_finalizeReport.mono (by simp))) fun _ => ?_
    exact Triple.pure fun s hs => ⟨hblank s hs, fun _ _ _ hp => by cases hp⟩
  refine Triple.bind (hquiet c.appends_checkRuntimeControl) fun _ => ?_
  refine Triple.bind (hquiet (.call _)) fun evidence => ?_
  refine Triple.bind (hquiet c.appends_checkRuntimeControl) fun _ => ?_
  refine Triple.bind (Q := fun _ => c.Collected ns deployment evidence) ?_
    fun _ => c.prepareDiagnosis_sound
  intro s hs
  have hcollected : ∀ r s', (c.record (.evidence evidence)).run s = (r, s') →
      c.Collected ns deployment evidence s' := by
    intro r s' hr runId diagnosis
    obtain ⟨ht, hn⟩ := c.record_run hr
    have hnone : ∀ {α : Type} {f : Event → Option α},
        Ignores f [.protocolProfiles, .agentContributions] → s.trace.filterMap f = [] :=
      fun hf => List.filterMap_eq_nil_iff.2 fun e he => hf e (hs e he)
    refine ⟨⟨fun d hd => ?_, fun v hv => ?_⟩, ?_, ?_⟩
    · simp [ht, List.filterMap_cons, Event.decision?, hnone (ignores_decision (by decide))] at hd
    · simp [ht, List.filterMap_cons, Event.review?, hnone (ignores_review (by decide))] at hv
    · rw [ht]
      exact (hblank s hs).snoc fun a ha => by cases ha
    · simp [ht, Event.evidence?, hnone (ignores_evidence (by decide))]
  exact ⟨fun _ s' hr => hcollected _ s' hr,
    fun _ s' hr => (hcollected _ s' hr "" ⟨"", "", "", 0, []⟩).authorised⟩

/-- A run keeps its dispatches authorised. -/
theorem run_authorised {ns deployment metric : String} {threshold : ℚ} :
    Triple (fun s => s.trace = []) (c.run ns deployment metric threshold)
      (fun _ s => DispatchesAuthorised c ns deployment s.trace)
      (fun _ s => DispatchesAuthorised c ns deployment s.trace) := by
  refine Triple.bind c.prepare_sound fun prepared => ?_
  cases prepared with
  | finished report => exact Triple.pure fun s hs => hs.1
  | ready ctx candidates p =>
      intro s hs
      obtain ⟨hsound, rfl, rfl⟩ := hs.2 ctx candidates p rfl
      have hloop : Stable (Sound c ctx) (c.replanLoop ctx (c.attempted candidates).length 0
          (c.attempted candidates) p) := c.replanLoop_sound
      have hloop := hloop s hsound
      exact ⟨fun r s' hr => (hloop.1 r s' hr).authorised,
        fun e s' hr => (hloop.2 e s' hr).authorised⟩

/-- **Every dispatch of a run is authorised**, whatever the adapters and the
rest of the environment do and however the run ends. -/
theorem run_dispatches_authorised (ns deployment metric : String) (threshold : ℚ) (env : σ) :
    DispatchesAuthorised c ns deployment
      ((c.run ns deployment metric threshold).run (.start env)).2.trace := by
  rcases hr : (c.run ns deployment metric threshold).run (.start env) with ⟨r | r, s'⟩
  · exact (c.run_authorised _ rfl).2 r s' hr
  · exact (c.run_authorised _ rfl).1 r s' hr

end Coordinator
end Supervision
end AiopsK8s
