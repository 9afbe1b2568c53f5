/-
# What a report says was done

`validExecutions` and `postReviews` read from the trace of a run what it did:
the actions whose execution returned valid, and the recorded post-execution
reviews.  A report accounts for the run when it lists exactly these
(`Accounts`).

The variables of the loop always account for the run (`Tracked`), but four of
its `return` statements build their report without them (`Exit.dropsHistory`).
A run outside dry-run mode therefore returns an accounting report if and only if
it takes none of the four exits after something was executed or reviewed
(`accounts_iff_keepsHistory`).
-/

import Mathlib.Tactic.NormNum
import AiopsK8s.Lib.Summation
import AiopsK8s.Supervision.Consent

namespace AiopsK8s
namespace Supervision

open Effect Act

/-- The action of an execution that returned valid. -/
def Event.validExecution? : Event → Option RecoveryAction
  | executed action result => if result.valid then some action else none
  | _ => none

/-- The post-execution review of an event. -/
def Event.postReview? : Event → Option PostExecutionReview
  | postExecutionReview r => some r
  | _ => none

/-- The actions whose execution returned valid. -/
def validExecutions (trace : List Event) : List RecoveryAction :=
  trace.filterMap Event.validExecution?

/-- The recorded post-execution reviews. -/
def postReviews (trace : List Event) : List PostExecutionReview :=
  trace.filterMap Event.postReview?

/-- The report lists exactly what the run executed and reviewed. -/
def Accounts (report : Report) (trace : List Event) : Prop :=
  report.executedActions = validExecutions trace ∧
    report.postExecutionReviews = postReviews trace

/-- The variables of the loop list exactly what the run executed and reviewed. -/
def Tracked (p : Progress) (trace : List Event) : Prop :=
  p.executedActions = validExecutions trace ∧ p.allPostReviews = postReviews trace

/-- Nothing has been executed or reviewed. -/
def NoHistory (trace : List Event) : Prop := validExecutions trace = [] ∧ postReviews trace = []

/-- The `return` statements whose report leaves `executed_actions` and
`post_execution_reviews` as `_base_report` sets them. -/
def Exit.dropsHistory : Exit → Bool
  | negotiationFailure | noConsensus | validationRejected | operationLockError => true
  | dryRunValidated | postReviewFailure | recovered => false

theorem ignores_validExecution {S : List Stream} (h : .executor ∉ S) :
    Ignores Event.validExecution? S := by
  intro e he
  cases e <;> first | rfl | exact absurd he h

theorem ignores_postReview {S : List Stream} (h : .postExecutionReviews ∉ S) :
    Ignores Event.postReview? S := by
  intro e he
  cases e <;> first | rfl | exact absurd he h

/-- A step that neither executes nor reviews. -/
theorem Appends.history_eq {σ α : Type} {S : List Stream} {m : Act σ α} (hm : Appends S m)
    (hexec : .executor ∉ S) (hpost : .postExecutionReviews ∉ S) {s s' : RunState σ}
    {r : Except PyExn α} (hr : m.run s = (r, s')) :
    validExecutions s'.trace = validExecutions s.trace ∧
      postReviews s'.trace = postReviews s.trace := by
  obtain ⟨-, l, ht, hl⟩ := hm s r s' hr
  rw [ht]
  exact ⟨filterMap_append_of_ignores (ignores_validExecution hexec) _ hl,
    filterMap_append_of_ignores (ignores_postReview hpost) _ hl⟩

/-- What a finished attempt at post-execution reviews has collected. -/
def collectedPostReviews :
    Except PostReviewFailure (List PostExecutionReview) → List PostExecutionReview
  | .ok reviews => reviews
  | .error failure => failure.reviews

namespace Coordinator

variable {σ : Type} (c : Coordinator σ)

/-- Finishing a report keeps its history. -/
theorem finalizeReport_history {report report' : Report} {s s' : RunState σ}
    (h : (c.finalizeReport report).run s = (.ok report', s')) :
    report'.executedActions = report.executedActions ∧
      report'.postExecutionReviews = report.postExecutionReviews := by
  unfold finalizeReport at h
  dsimp only at h
  split at h
  · cases h
    exact ⟨rfl, rfl⟩
  · obtain ⟨_, s₁, -, h⟩ := Eff.run_bind_ok h
    split at h
    · cases h
      exact ⟨rfl, rfl⟩
    · obtain ⟨_, s₂, -, h⟩ := Eff.run_bind_ok h
      cases h
      exact ⟨rfl, rfl⟩

/-- The post-execution reviews that are returned, or carried by the failure, are
those that were recorded. -/
theorem postReviewLoop_history {runId actionId : String} {action : RecoveryAction}
    {after : EvidenceSnapshot} {assessment : RecoveryAssessment} {adapters : List (AgentAdapter σ)}
    {reviews : List PostExecutionReview} {s s' : RunState σ}
    {r : Except PostReviewFailure (List PostExecutionReview)}
    (h : (c.postReviewLoop runId actionId action after assessment adapters reviews).run s =
      (.ok r, s')) :
    ∃ new, collectedPostReviews r = reviews ++ new ∧
      postReviews s'.trace = postReviews s.trace ++ new := by
  induction adapters generalizing reviews s with
  | nil =>
      cases h
      exact ⟨[], by simp [collectedPostReviews], by simp⟩
  | cons adapter rest ih =>
      unfold postReviewLoop at h
      split at h
      · obtain ⟨outcome, s₁, hone, h⟩ := Eff.run_bind_ok h
        have ht := (c.appends_postReviewOnce.attempt.trace_eq hone).1
        split at h
        · cases h
          exact ⟨[], by simp [collectedPostReviews], by simp [ht]⟩
        · rw [← ht]
          exact ih h
        · rename_i review
          obtain ⟨_, s₂, hrec, h⟩ := Eff.run_bind_ok h
          obtain ⟨new, hnew, hpost⟩ := ih h
          refine ⟨review :: new, by simpa using hnew, ?_⟩
          rw [hpost, (c.record_run hrec).1, ht]
          simp [postReviews, Event.postReview?]
      · exact ih h

/-- The block under the operation lock executes the action once and collects
what is reviewed. -/
theorem performAction_history {ctx : RunContext} {p : Progress} {action : RecoveryAction}
    {validation : SafetyValidation} {actionId : String} {s s' : RunState σ} {block : BlockResult}
    (hmode : c.mode ≠ .dryRun)
    (h : (c.performAction ctx p action validation actionId).run s = (.ok block, s')) :
    ∃ execution assessment reviews, block = .observed execution assessment reviews ∧
      validExecutions s'.trace =
        validExecutions s.trace ++ (if execution.valid then [action] else []) ∧
      postReviews s'.trace = postReviews s.trace ++ collectedPostReviews reviews := by
  obtain ⟨_, s₁, hdispatch, h₁⟩ := Eff.run_bind_ok h
  obtain ⟨_, s₂, hcall, h₂⟩ := Eff.run_bind_ok h₁
  obtain ⟨execution, s₃, hexec, h₃⟩ := Eff.run_bind_ok h₂
  obtain ⟨_, s₄, hreturn, h₄⟩ := Eff.run_bind_ok h₃
  obtain ⟨_, s₅, hcheck, h₅⟩ := Eff.run_bind_ok h₄
  obtain ⟨_, s₆, hcomplete, h₆⟩ := Eff.run_bind_ok h₅
  rw [if_neg hmode] at h₆
  obtain ⟨after, s₇, hcollect, h₇⟩ := Eff.run_bind_ok h₆
  obtain ⟨assessment, s₈, hassess, h₈⟩ := Eff.run_bind_ok h₇
  obtain ⟨reviews, s₉, hreview, h₉⟩ := Eff.run_bind_ok h₈
  cases h₉
  obtain ⟨new, hnew, hpost⟩ := c.postReviewLoop_history hreview
  -- up to the post-execution reviews the trace has grown by four known events
  have ht : s₈.trace = s.trace ++ [.dispatched (c.eventType "dispatched") actionId action,
      .executeRecovery action, .executed action execution,
      .completed (c.eventType "completed") actionId action execution] := by
    have h₂ : s₂.trace = s₁.trace ++ [.executeRecovery action] := by cases hcall; rfl
    have h₄ : s₄.trace = s₃.trace ++ [.executed action execution] := by cases hreturn; rfl
    rw [((Appends.call _).trace_eq hassess).1, ((Appends.call _).trace_eq hcollect).1,
      (c.record_run hcomplete).1, (c.appends_checkRuntimeControl.trace_eq hcheck).1, h₄,
      ((Appends.call _).trace_eq hexec).1, h₂, (c.record_run hdispatch).1]
    simp
  refine ⟨execution, assessment, reviews, rfl, ?_, ?_⟩
  · obtain ⟨-, l, hl, hS⟩ := c.appends_postReviewLoop s₈ _ s' hreview
    have hkeep := filterMap_append_of_ignores (ignores_validExecution (S := [.postExecutionReviews])
      (by decide)) s₈.trace hS
    rw [validExecutions, hl, hkeep, ht]
    cases hvalid : execution.valid <;>
      simp [validExecutions, List.filterMap_cons, Event.validExecution?, hvalid]
  · rw [hpost, hnew, ht]
    simp [postReviews, List.filterMap_cons, Event.postReview?]

/-- The operation lock adds nothing to what its block does. -/
theorem withOperationContext_history {ctx : RunContext} {p : Progress} {action : RecoveryAction}
    {validation : SafetyValidation} {actionId : String} {s s' : RunState σ} {block : BlockResult}
    (hmode : c.mode ≠ .dryRun)
    (h : (c.withOperationContext ctx.ns ctx.deployment
      (c.performAction ctx p action validation actionId)).run s = (.ok block, s')) :
    ∃ execution assessment reviews, block = .observed execution assessment reviews ∧
      validExecutions s'.trace =
        validExecutions s.trace ++ (if execution.valid then [action] else []) ∧
      postReviews s'.trace = postReviews s.trace ++ collectedPostReviews reviews := by
  unfold withOperationContext at h
  split at h
  · exact c.performAction_history hmode h
  · obtain ⟨_, s₁, hacquire, h⟩ := Eff.run_bind_ok h
    obtain ⟨s₂, hblock, hrelease⟩ := Eff.run_ensuring_ok h
    rw [((Appends.call _).trace_eq hrelease).1, ← ((Appends.call _).trace_eq hacquire).1]
    exact c.performAction_history hmode hblock

/-- How a loop body that returns relates to what was done: the variables it
passes on are tracked, and the report it returns is empty or accounts for the
run, as its exit says. -/
def StepAccounts (result : StepResult) (trace : List Event) : Prop :=
  match result with
  | .proceed p => Tracked p trace
  | .exit e report =>
    if e.dropsHistory then report.executedActions = [] ∧ report.postExecutionReviews = []
    else Accounts report trace

/-- An exit with a report that was finished last. -/
theorem stepAccounts_exit {e : Exit} {report : Report} {s s' : RunState σ} {result : StepResult}
    (h : (c.finalizeReport report >>= fun r => pure (.exit e r)).run s = (.ok result, s'))
    (hreport : if e.dropsHistory then
        report.executedActions = [] ∧ report.postExecutionReviews = []
      else Accounts report s.trace) : StepAccounts result s'.trace := by
  obtain ⟨report', s₁, hfinal, h⟩ := Eff.run_bind_ok h
  obtain ⟨hexec, hpost⟩ := c.finalizeReport_history hfinal
  obtain ⟨htexec, htpost⟩ :=
    c.appends_finalizeReport.history_eq (by decide) (by decide) hfinal
  cases h
  simpa only [StepAccounts, Accounts, hexec, hpost, htexec, htpost] using hreport

/-- The end of the loop body, after the block under the operation lock. -/
theorem concludeAttempt_accounts {ctx : RunContext} {maxAttempts candidateIndex : ℕ} {p : Progress}
    {action : RecoveryAction} {validation : SafetyValidation} {block : Except PyExn BlockResult}
    {s s' : RunState σ} {result : StepResult}
    (hblock : ∀ b, block = .ok b → ∃ execution assessment reviews,
      b = .observed execution assessment reviews ∧
        validExecutions s.trace =
          p.executedActions ++ (if execution.valid then [action] else []) ∧
        postReviews s.trace = p.allPostReviews ++ collectedPostReviews reviews)
    (h : (c.concludeAttempt ctx maxAttempts candidateIndex p action validation block).run s =
      (.ok result, s')) : StepAccounts result s'.trace := by
  cases block with
  | error exc => exact c.stepAccounts_exit h ⟨rfl, rfl⟩
  | ok b =>
      obtain ⟨execution, assessment, reviews, rfl, hexec, hpost⟩ := hblock b rfl
      have hexec : (if execution.valid then p.executedActions ++ [action] else p.executedActions)
          = validExecutions s.trace := by
        rw [hexec]
        split <;> simp
      cases reviews with
      | error failure => exact c.stepAccounts_exit h ⟨hexec, hpost.symm⟩
      | ok reviews =>
          unfold concludeAttempt at h
          dsimp only at h
          split at h
          · exact c.stepAccounts_exit h ⟨hexec, hpost.symm⟩
          · cases h
            exact ⟨hexec, hpost.symm⟩

/-- **The loop body keeps the variables tracked**, and returns an accounting
report or one of the four empty ones. -/
theorem tryCandidate_accounts {ctx : RunContext} {maxAttempts candidateIndex : ℕ} {p : Progress}
    {candidate : RecoveryActionCandidate} {s s' : RunState σ} {result : StepResult}
    (hmode : c.mode ≠ .dryRun) (hp : Tracked p s.trace)
    (h : (c.tryCandidate ctx maxAttempts candidateIndex p candidate).run s = (.ok result, s')) :
    StepAccounts result s'.trace := by
  obtain ⟨outcome, s₁, hnegotiate, h⟩ := Eff.run_bind_ok h
  obtain ⟨hexec₁, hpost₁⟩ := c.appends_negotiate.history_eq (by decide) (by decide) hnegotiate
  have hp₁ : Tracked p s₁.trace := ⟨hp.1.trans hexec₁.symm, hp.2.trans hpost₁.symm⟩
  cases outcome with
  | failed text t => exact c.stepAccounts_exit h ⟨rfl, rfl⟩
  | settled selected t =>
      obtain ⟨_, s₂, hcheck, h⟩ := Eff.run_bind_ok h
      have hp₂ : Tracked p s₂.trace := by
        rwa [(c.appends_checkRuntimeControl.trace_eq hcheck).1]
      cases selected with
      | none => exact c.stepAccounts_exit h ⟨rfl, rfl⟩
      | some action =>
          unfold tryAction at h
          dsimp only at h
          split at h
          · obtain ⟨_, s₃, hrec, h⟩ := Eff.run_bind_ok h
            obtain ⟨hexec, hpost⟩ := (c.appends_record (S := [.safetyValidations])
              (by simp [Event.stream])).history_eq (by decide) (by decide) hrec
            cases h
            exact ⟨hp₂.1.trans hexec.symm, hp₂.2.trans hpost.symm⟩
          · obtain ⟨_, s₃, hrec, h⟩ := Eff.run_bind_ok h
            obtain ⟨hexec, hpost⟩ := (c.appends_record (S := [.safetyValidations])
              (by simp [Event.stream])).history_eq (by decide) (by decide) hrec
            obtain ⟨_, s₄, hcheck, h⟩ := Eff.run_bind_ok h
            have hp₄ : Tracked p s₄.trace := by
              rw [(c.appends_checkRuntimeControl.trace_eq hcheck).1]
              exact ⟨hp₂.1.trans hexec.symm, hp₂.2.trans hpost.symm⟩
            split at h
            · exact c.stepAccounts_exit h ⟨rfl, rfl⟩
            · obtain ⟨fallbackId, s₅, hid, h⟩ := Eff.run_bind_ok h
              obtain ⟨block, s₆, hblock, h⟩ := Eff.run_bind_ok h
              refine c.concludeAttempt_accounts (fun b hb => ?_) h
              subst hb
              obtain ⟨_, s₇, hcheck, hwith⟩ := Eff.run_bind_ok (Eff.run_attempt_ok hblock)
              obtain ⟨execution, assessment, reviews, rfl, hexec, hpost⟩ :=
                c.withOperationContext_history hmode hwith
              rw [(c.appends_checkRuntimeControl.trace_eq hcheck).1,
                ((Appends.newTraceId _).trace_eq hid).1] at hexec hpost
              exact ⟨execution, assessment, reviews, rfl, hexec.trans (by rw [← hp₄.1]),
                hpost.trans (by rw [← hp₄.2])⟩

/-- No turn of the loop from this state takes one of the four exits when
something has been executed or reviewed. -/
def KeepsHistory (ctx : RunContext) (maxAttempts : ℕ) :
    ℕ → List RecoveryActionCandidate → Progress → RunState σ → Prop
  | _, [], _, _ => True
  | index, candidate :: rest, p, s =>
    match (c.tryCandidate ctx maxAttempts index p candidate).run s with
    | (.ok (.proceed p'), s') => KeepsHistory ctx maxAttempts (index + 1) rest p' s'
    | (.ok (.exit e _), s') => e.dropsHistory = true → NoHistory s'.trace
    | (.error _, _) => True

/-- **The loop accounts for the run iff it keeps the history.** -/
theorem replanLoop_accounts_iff {ctx : RunContext} {maxAttempts index : ℕ}
    {candidates : List RecoveryActionCandidate} {p : Progress} {s : RunState σ}
    (hmode : c.mode ≠ .dryRun) (hp : Tracked p s.trace) :
    (∀ report s', (c.replanLoop ctx maxAttempts index candidates p).run s = (.ok report, s') →
      Accounts report s'.trace) ↔ c.KeepsHistory ctx maxAttempts index candidates p s := by
  induction candidates generalizing index p s with
  | nil =>
      refine ⟨fun _ => trivial, fun _ report s' h => ?_⟩
      obtain ⟨hexec, hpost⟩ := c.finalizeReport_history h
      obtain ⟨htexec, htpost⟩ := c.appends_finalizeReport.history_eq (by decide) (by decide) h
      exact ⟨hexec.trans (hp.1.trans htexec.symm), hpost.trans (hp.2.trans htpost.symm)⟩
  | cons candidate rest ih =>
      have hrun : ∀ s', (c.replanLoop ctx maxAttempts index (candidate :: rest) p).run s = s' ↔
          (match (c.tryCandidate ctx maxAttempts index p candidate).run s with
            | (.ok (.proceed p'), s₁) =>
              (c.replanLoop ctx maxAttempts (index + 1) rest p').run s₁
            | (.ok (.exit _ report), s₁) => (.ok report, s₁)
            | (.error e, s₁) => (.error e, s₁)) = s' := by
        intro s'
        rw [replanLoop, Eff.run_bind]
        split <;> simp_all
        split <;> simp_all
      unfold KeepsHistory
      rcases hstep : (c.tryCandidate ctx maxAttempts index p candidate).run s with
        ⟨e | ⟨p' | ⟨e, report⟩⟩, s₁⟩
      · simp [hrun, hstep]
      · simp only [hrun, hstep]
        exact ih (c.tryCandidate_accounts hmode hp hstep)
      · have haccounts := c.tryCandidate_accounts hmode hp hstep
        have honly : (∀ report' s', (c.replanLoop ctx maxAttempts index (candidate :: rest) p).run s
            = (.ok report', s') → Accounts report' s'.trace) ↔ Accounts report s₁.trace := by
          simp only [hrun, hstep]
          exact ⟨fun h => h report s₁ rfl, fun h report' s' hr => by cases hr; exact h⟩
        rw [honly]
        unfold StepAccounts at haccounts
        dsimp only at haccounts ⊢
        split at haccounts
        · rename_i he
          refine ⟨fun h _ => ?_, fun h => ?_⟩
          · exact ⟨h.1.symm.trans haccounts.1, h.2.symm.trans haccounts.2⟩
          · exact ⟨haccounts.1.trans (h he).1.symm, haccounts.2.trans (h he).2.symm⟩
        · rename_i he
          exact ⟨fun _ h => absurd h he, fun _ => haccounts⟩

/-- No turn of the loop of a run takes one of the four exits when something has
been executed or reviewed. -/
def RunKeepsHistory (ns deployment metric : String) (threshold : ℚ) (env : σ) : Prop :=
  match (c.prepare ns deployment metric threshold).run (.start env) with
  | (.ok (.ready ctx candidates p), s) =>
    c.KeepsHistory ctx (c.attempted candidates).length 0 (c.attempted candidates) p s
  | _ => True

/-- What the part before the loop passes on has no history. -/
def Prepared.IsFresh : Prepared → Prop
  | .finished report => report.executedActions = [] ∧ report.postExecutionReviews = []
  | .ready _ _ p => p.executedActions = [] ∧ p.allPostReviews = []

/-- An early report that was finished last. -/
theorem isFresh_finished {report : Report} {s s' : RunState σ} {prepared : Prepared}
    (h : (c.finalizeReport report >>= fun r => pure (.finished r)).run s = (.ok prepared, s'))
    (hexec : report.executedActions = []) (hpost : report.postExecutionReviews = []) :
    Prepared.IsFresh prepared := by
  obtain ⟨report', s₁, hfinal, h⟩ := Eff.run_bind_ok h
  obtain ⟨hexec', hpost'⟩ := c.finalizeReport_history hfinal
  cases h
  exact ⟨hexec'.trans hexec, hpost'.trans hpost⟩

theorem prepareCandidates_isFresh {ctx : RunContext} {decision : SupervisionDecision}
    {prepared : Prepared} {s s' : RunState σ}
    (h : (c.prepareCandidates ctx decision).run s = (.ok prepared, s')) :
    Prepared.IsFresh prepared := by
  unfold prepareCandidates at h
  split at h
  · cases h
  · obtain ⟨outcome, s₁, -, h⟩ := Eff.run_bind_ok h
    split at h
    · exact c.isFresh_finished h rfl rfl
    · cases h
      exact ⟨rfl, rfl⟩

/-- The part before the loop executes and reviews nothing. -/
theorem prepare_isFresh {ns deployment metric : String} {threshold : ℚ} {prepared : Prepared}
    {s s' : RunState σ}
    (h : (c.prepare ns deployment metric threshold).run s = (.ok prepared, s')) :
    Prepared.IsFresh prepared := by
  obtain ⟨_, s₁, -, h⟩ := Eff.run_bind_ok h
  obtain ⟨runId, s₂, -, h⟩ := Eff.run_bind_ok h
  obtain ⟨_, s₃, -, h⟩ := Eff.run_bind_ok h
  obtain ⟨_, s₄, -, h⟩ := Eff.run_bind_ok h
  split at h
  · exact c.isFresh_finished h rfl rfl
  obtain ⟨_, s₅, -, h⟩ := Eff.run_bind_ok h
  obtain ⟨evidence, s₆, -, h⟩ := Eff.run_bind_ok h
  obtain ⟨_, s₇, -, h⟩ := Eff.run_bind_ok h
  obtain ⟨_, s₈, -, h⟩ := Eff.run_bind_ok h
  unfold prepareDiagnosis at h
  split at h
  · cases h
  obtain ⟨outcome, s₉, -, h⟩ := Eff.run_bind_ok h
  split at h
  · exact c.isFresh_finished h rfl rfl
  obtain ⟨_, s₁₀, -, h⟩ := Eff.run_bind_ok h
  obtain ⟨_, s₁₁, -, h⟩ := Eff.run_bind_ok h
  split at h
  · exact c.isFresh_finished h rfl rfl
  · exact c.prepareCandidates_isFresh h

/-- **When a report accounts for its run.**  Outside dry-run mode the report of a
run lists exactly the actions that were executed validly and the reviews that
were recorded after them iff no turn of the loop ends in a failed negotiation, a
missing consensus, a rejected validation or an operation-lock error after
something was executed or reviewed. -/
theorem run_accounts_iff (ns deployment metric : String) (threshold : ℚ) (env : σ)
    (hmode : c.mode ≠ .dryRun) :
    (∀ report s', (c.run ns deployment metric threshold).run (.start env) = (.ok report, s') →
      Accounts report s'.trace) ↔ c.RunKeepsHistory ns deployment metric threshold env := by
  have hnone : ∀ {r s}, (c.prepare ns deployment metric threshold).run (.start env) = (r, s) →
      NoHistory s.trace := fun h => c.appends_prepare.history_eq (by decide) (by decide) h
  unfold RunKeepsHistory run
  rcases hprepare : (c.prepare ns deployment metric threshold).run (.start env) with
    ⟨e | ⟨report⟩ | ⟨ctx, candidates, p⟩, s⟩
  · simp [hprepare]
  · have hreport := c.prepare_isFresh hprepare
    simp only [Eff.run_bind, hprepare, Eff.run_pure, iff_true]
    intro report' s' hr
    cases hr
    exact ⟨hreport.1.trans (hnone hprepare).1.symm, hreport.2.trans (hnone hprepare).2.symm⟩
  · have hp := c.prepare_isFresh hprepare
    simp only [Eff.run_bind, hprepare]
    exact c.replanLoop_accounts_iff hmode
      ⟨hp.1.trans (hnone hprepare).1.symm, hp.2.trans (hnone hprepare).2.symm⟩

/-- A profile of a reviewing diagnoser and a proposer. -/
def twoAgentProfile : ResearchProtocolProfile where
  profileId := "two-agent"
  version := "1"
  agents :=
    [⟨"ha", "deterministic-ha", "deterministic", true, ["availability"], 1,
        ["diagnose", "review"], by norm_num⟩,
      ⟨"app", "deterministic-application", "deterministic", true, ["capacity"], 1,
        ["propose"], by norm_num⟩]
  reviewMatrix := [("ha", ["app"]), ("app", ["ha"])]
  consensusStrategy := .unanimousVeto
  maxNegotiationRounds := 1
  maxReplanAttempts := 1
  fallbackAction := .observeOnly
  humanReviewOnFailure := true
  actionSpace := [.observeOnly, .rolloutRestart, .scaleOut]
  rewardWeights := [("recovery", 1)]
  experimentTags := ["test"]
  configHash := ""
  names_nodup := by decide
  rounds_pos := by decide
  fallback_observes := rfl
  review_on_failure := rfl
  no_self_review := by decide

/-- A proposed action on the target. -/
def rawAction (kind : RecoveryActionKind) (replicas : Json) : RawAction :=
  ⟨.ofText "prod", .ofText "web", .actionKind kind, .data replicas, .ofText "recover"⟩

/-- The diagnoser: it approves a restart and vetoes anything else. -/
def diagnoser : AgentAdapter Unit where
  name := "ha"
  runtime := "deterministic"
  capabilities := ["diagnose", "review"]
  beginRun _ _ := pure ()
  diagnose _ _ _ := pure (.pair
    ⟨.ofText "web", .ofText "cpu_saturation", .ofText "critical", .ofNumber 1, some []⟩
    ⟨.ofText "ha", .ofText "ha_diagnosis", false, .data (.bool true), .ofText "saturated",
      .ofNumber 1, .ofNumber 1⟩)
  propose _ _ := pure .nothing
  review d _ _ := pure (.review
    { reviewer := .ofText "ha"
      targetAgent := .ofText d.agent
      targetDecisionId := .ofText d.decisionId
      verdict := .verdict
        (if d.proposedAction.map (·.kind) = some .rolloutRestart then .approve else .veto)
      reason := .ofText "checked"
      suggestedAction := .nothing
      confidence := .ofNumber 1
      evidenceRefs := [] })
  postReview _ _ _ := pure .nothing

/-- The proposer: a restart first, then three replicas. -/
def proposer : AgentAdapter Unit where
  name := "app"
  runtime := "deterministic"
  capabilities := ["propose"]
  beginRun _ _ := pure ()
  diagnose _ _ _ := pure .other
  propose _ _ := pure (.sequence
    [some (rawAction .rolloutRestart .null), some (rawAction .scaleOut (.int 3))])
  review _ _ _ := pure .nothing
  postReview _ _ _ := pure .nothing

/-- A coordinator whose first candidate is executed and does not recover the
service, and whose second candidate is vetoed. -/
def restartThenVeto : Coordinator Unit where
  validator := ⟨["prod"], ["web"], 1, 5⟩
  collect ns deployment := pure
    { ns, deployment
      metricValues := [("cpu", 95)]
      desiredReplicas := 2
      availableReplicas := 2
      restartCount := 0
      podStatuses := ["Running"]
      podIdentities := []
      events := []
      latencyMs := none
      errorRate := none
      logSummary := ""
      source := "fake" }
  assess _ _ _ _ := pure ⟨false, 0, "cpu still saturated", 1, true⟩
  executeRecovery _ :=
    pure ⟨"kubectl rollout restart deployment web -n prod", "mock", true, "", "", []⟩
  mode := .mock
  backend := .python
  eventStore := none
  acquireLock _ _ := pure ()
  releaseLock _ _ := pure ()
  operationLockOwnedExternally := false
  runtimeControl := none
  sum := PyFloat.compensated
  protocol := twoAgentProfile
  adapters := [diagnoser, proposer]
  registered := by decide

/-- At the failing run below the equivalence applies: its mode is `mock`. -/
theorem run_accounts_iff_restartThenVeto :
    (∀ report s', (restartThenVeto.run "prod" "web" "cpu" 80).run (.start ()) =
      (.ok report, s') → Accounts report s'.trace) ↔
        restartThenVeto.RunKeepsHistory "prod" "web" "cpu" 80 () :=
  restartThenVeto.run_accounts_iff "prod" "web" "cpu" 80 () (by decide)

/-- The restart was executed, and the report does not list it. -/
theorem restartThenVeto_run :
    (fun r : Except PyExn Report × RunState Unit =>
        (r.1.toOption.map (·.executedActions), validExecutions r.2.trace))
      ((restartThenVeto.run "prod" "web" "cpu" 80).run (.start ())) =
    (some [], [⟨"prod", "web", .rolloutRestart, none, "recover"⟩]) := by
  decide +kernel

/-- **A report can leave out an executed action.** -/
theorem restartThenVeto_not_accounts : restartThenVeto.mode ≠ .dryRun ∧
    ¬∀ report s', (restartThenVeto.run "prod" "web" "cpu" 80).run (.start ()) =
      (.ok report, s') → Accounts report s'.trace := by
  refine ⟨by decide, fun h => ?_⟩
  have hrun := restartThenVeto_run
  rcases hr : (restartThenVeto.run "prod" "web" "cpu" 80).run (.start ()) with ⟨e | report, s'⟩ <;>
    rw [hr] at hrun
  · simp [Except.toOption] at hrun
  · have haccounts := (h report s' hr).1
    simp only [Except.toOption, Option.map_some, Prod.mk.injEq, Option.some.injEq] at hrun
    rw [hrun.1, hrun.2] at haccounts
    cases haccounts

end Coordinator
end Supervision
end AiopsK8s
