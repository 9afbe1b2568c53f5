/-
# The exits of a run

`runExit` is `run` with the exit that it takes beside the report: before the loop over the
candidates, at one of the `return` statements of the loop body, or after the loop.
`runExit_monitored` is what the report of each exit says of the recovery: a recovery that was
assessed as successful is reported by the exit of a recovery, and may be reported by the two exits
with the status `safe_failure`.
-/

import AiopsK8s.Supervision.Outcome

namespace AiopsK8s
namespace Supervision

open Effect Act

/-- Where a run returns its report. -/
inductive RunExit where
  | prepared
  | attempt (e : Exit)
  | exhausted
  deriving DecidableEq, Repr

/-- The report says that the recovery succeeded. -/
def Report.Successful (report : Report) : Prop :=
  ∃ a, report.recoveryMonitoring = .assessed a ∧ a.recoverySuccess = true

/-- What the report of an exit says of the recovery. -/
def RunExit.Monitored (report : Report) : RunExit → Prop
  | prepared => report.recoveryMonitoring = .empty ∧
      (report.finalStatus = .safeStopped ∨ report.finalStatus = .noActionRequired)
  | attempt .recovered => report.finalStatus.isRecovered = true ∧ report.Successful
  | attempt .dryRunValidated => report.finalStatus = .dryRunValidated
  | attempt .postReviewFailure => report.finalStatus = .safeFailure ∧
      ∃ a, report.recoveryMonitoring = .assessed a
  | attempt .negotiationFailure => report.finalStatus = .safeStopped ∧
      report.recoveryMonitoring = .empty
  | attempt .noConsensus => report.finalStatus = .safeStopped ∧ report.recoveryMonitoring = .empty
  | attempt .validationRejected => report.finalStatus = .safeStopped ∧
      report.recoveryMonitoring = .empty
  | attempt .operationLockError => report.finalStatus = .safeStopped ∧
      report.recoveryMonitoring = .empty
  | exhausted => report.finalStatus = .safeFailure ∧
      (report.recoveryMonitoring = .empty ∨ ∃ a, report.recoveryMonitoring = .assessed a)

/-- What a step returns. -/
def StepMonitored : StepResult → Prop
  | .proceed _ => True
  | .exit e report => RunExit.Monitored report (.attempt e)

/-- What the part before the loop returns. -/
def PreparedMonitored : Prepared → Prop
  | .finished report => RunExit.Monitored report .prepared
  | .ready _ _ _ => True

/-- What the block under the operation lock returns. -/
def BlockMonitored : BlockResult → Prop
  | .dryRunReturned report => report.finalStatus = .dryRunValidated
  | _ => True

theorem RunExit.Monitored.congr {report : Report} {x : RunExit} (h : x.Monitored report)
    (agentContributions : List (String × Contribution)) (artifacts : List (String × String)) :
    x.Monitored { report with agentContributions, artifacts } := by
  rcases x with - | e | -
  · exact h
  · cases e <;> exact h
  · exact h

namespace Coordinator

variable {σ : Type} (c : Coordinator σ)

/-- `replanLoop` with its exit. -/
def replanLoopExit (ctx : RunContext) (maxAttempts : ℕ) :
    ℕ → List RecoveryActionCandidate → Progress → Act σ (RunExit × Report)
  | _, [], p => do
    let report ← c.finalizeReport (c.exhaustedReport ctx p)
    pure (.exhausted, report)
  | index, candidate :: rest, p => do
    let step ← c.tryCandidate ctx maxAttempts index p candidate
    match step with
    | .exit e report => pure (.attempt e, report)
    | .proceed p => replanLoopExit ctx maxAttempts (index + 1) rest p

/-- `run` with its exit. -/
def runExit (ns deployment metric : String) (threshold : ℚ) : Act σ (RunExit × Report) := do
  let prepared ← c.prepare ns deployment metric threshold
  match prepared with
  | .finished report => pure (.prepared, report)
  | .ready ctx candidates p =>
    c.replanLoopExit ctx (c.attempted candidates).length 0 (c.attempted candidates) p

theorem replanLoop_eq_replanLoopExit (ctx : RunContext) (maxAttempts index : ℕ)
    (candidates : List RecoveryActionCandidate) (p : Progress) :
    c.replanLoop ctx maxAttempts index candidates p =
      Prod.snd <$> c.replanLoopExit ctx maxAttempts index candidates p := by
  induction candidates generalizing index p with
  | nil => simp [replanLoop, replanLoopExit]
  | cons candidate rest ih =>
      simp only [replanLoop, replanLoopExit, map_bind]
      refine congrArg _ (funext fun step => ?_)
      cases step with
      | exit e report => simp
      | proceed p => exact ih _ _

/-- **A run is the run that says its exit.** -/
theorem run_eq_runExit (ns deployment metric : String) (threshold : ℚ) :
    c.run ns deployment metric threshold =
      Prod.snd <$> c.runExit ns deployment metric threshold := by
  simp only [run, runExit, map_bind]
  refine congrArg _ (funext fun prepared => ?_)
  cases prepared with
  | finished report => simp
  | ready ctx candidates p => exact c.replanLoop_eq_replanLoopExit ctx _ _ _ _

/-- Every run takes an exit. -/
theorem exists_exit {ns deployment metric : String} {threshold : ℚ} {report : Report}
    {s s' : RunState σ} (h : (c.run ns deployment metric threshold).run s = (.ok report, s')) :
    ∃ x, (c.runExit ns deployment metric threshold).run s = (.ok (x, report), s') := by
  rw [run_eq_runExit, map_eq_pure_bind] at h
  obtain ⟨⟨x, report'⟩, s₁, hexit, h⟩ := Eff.run_bind_ok h
  cases h
  exact ⟨x, hexit⟩

theorem finalizeReport_monitored {x : RunExit} {report report' : Report} {s s' : RunState σ}
    (h : (c.finalizeReport report).run s = (.ok report', s')) (hreport : x.Monitored report) :
    x.Monitored report' := by
  obtain ⟨contributions, artifacts, rfl⟩ := c.finalizeReport_eq h
  exact hreport.congr contributions artifacts

/-- An exit with a report that is finished last. -/
theorem stepMonitored_exit {e : Exit} {report : Report} {s s' : RunState σ} {result : StepResult}
    (h : (c.finalizeReport report >>= fun r => pure (.exit e r)).run s = (.ok result, s'))
    (hreport : RunExit.Monitored report (.attempt e)) : StepMonitored result := by
  obtain ⟨report', s₁, hfinal, h⟩ := Eff.run_bind_ok h
  cases h
  exact c.finalizeReport_monitored hfinal hreport

/-- The part before the loop that returns a report. -/
theorem preparedMonitored_finished {report : Report} {s s' : RunState σ} {prepared : Prepared}
    (h : (c.finalizeReport report >>= fun r => pure (.finished r)).run s = (.ok prepared, s'))
    (hreport : RunExit.Monitored report .prepared) : PreparedMonitored prepared := by
  obtain ⟨report', s₁, hfinal, h⟩ := Eff.run_bind_ok h
  cases h
  exact c.finalizeReport_monitored hfinal hreport

theorem performAction_monitored {ctx : RunContext} {p : Progress} {action : RecoveryAction}
    {validation : SafetyValidation} {actionId : String} {s s' : RunState σ} {block : BlockResult}
    (h : (c.performAction ctx p action validation actionId).run s = (.ok block, s')) :
    BlockMonitored block := by
  obtain ⟨_, s₁, -, h⟩ := Eff.run_bind_ok h
  obtain ⟨_, s₂, -, h⟩ := Eff.run_bind_ok h
  obtain ⟨execution, s₃, -, h⟩ := Eff.run_bind_ok h
  obtain ⟨_, s₄, -, h⟩ := Eff.run_bind_ok h
  obtain ⟨_, s₅, -, h⟩ := Eff.run_bind_ok h
  obtain ⟨_, s₆, -, h⟩ := Eff.run_bind_ok h
  split at h
  · split at h
    · cases h
      trivial
    · obtain ⟨report, s₇, hfinal, h⟩ := Eff.run_bind_ok h
      cases h
      exact c.finalizeReport_monitored (x := .attempt .dryRunValidated) hfinal rfl
  · obtain ⟨after, s₇, -, h⟩ := Eff.run_bind_ok h
    obtain ⟨assessment, s₈, -, h⟩ := Eff.run_bind_ok h
    obtain ⟨reviews, s₉, -, h⟩ := Eff.run_bind_ok h
    cases h
    trivial

theorem withOperationContext_monitored {ctx : RunContext} {p : Progress} {action : RecoveryAction}
    {validation : SafetyValidation} {actionId : String} {s s' : RunState σ} {block : BlockResult}
    (h : (c.withOperationContext ctx.ns ctx.deployment
      (c.performAction ctx p action validation actionId)).run s = (.ok block, s')) :
    BlockMonitored block := by
  unfold withOperationContext at h
  split at h
  · exact c.performAction_monitored h
  · obtain ⟨_, s₁, -, h⟩ := Eff.run_bind_ok h
    obtain ⟨s₂, hblock, -⟩ := Eff.run_ensuring_ok h
    exact c.performAction_monitored hblock

/-- The end of the loop body, after the block under the operation lock. -/
theorem concludeAttempt_monitored {ctx : RunContext} {maxAttempts candidateIndex : ℕ}
    {p : Progress} {action : RecoveryAction} {validation : SafetyValidation}
    {block : Except PyExn BlockResult} {s s' : RunState σ} {result : StepResult}
    (hblock : ∀ b, block = .ok b → BlockMonitored b)
    (h : (c.concludeAttempt ctx maxAttempts candidateIndex p action validation block).run s =
      (.ok result, s')) : StepMonitored result := by
  cases block with
  | error exc => exact c.stepMonitored_exit h ⟨rfl, rfl⟩
  | ok b =>
      have hb := hblock b rfl
      cases b with
      | dryRunRejected execution =>
          cases h
          trivial
      | dryRunReturned report =>
          cases h
          exact hb
      | observed execution assessment reviews =>
          cases reviews with
          | error failure => exact c.stepMonitored_exit h ⟨rfl, assessment, rfl⟩
          | ok reviews =>
              unfold concludeAttempt at h
              dsimp only at h
              split at h
              · rename_i hrecovered
                simp only [Bool.and_eq_true] at hrecovered
                refine c.stepMonitored_exit h ⟨?_, assessment, rfl, hrecovered.1.2⟩
                show (if candidateIndex = 0 then FinalStatus.recovered
                  else .recoveredAfterReplan).isRecovered = true
                split <;> rfl
              · cases h
                trivial

/-- **What the loop body returns.** -/
theorem tryCandidate_monitored {ctx : RunContext} {maxAttempts candidateIndex : ℕ} {p : Progress}
    {candidate : RecoveryActionCandidate} {s s' : RunState σ} {result : StepResult}
    (h : (c.tryCandidate ctx maxAttempts candidateIndex p candidate).run s = (.ok result, s')) :
    StepMonitored result := by
  obtain ⟨outcome, s₁, -, h⟩ := Eff.run_bind_ok h
  cases outcome with
  | failed text t => exact c.stepMonitored_exit h ⟨rfl, rfl⟩
  | settled selected t =>
      obtain ⟨_, s₂, -, h⟩ := Eff.run_bind_ok h
      cases selected with
      | none => exact c.stepMonitored_exit h ⟨rfl, rfl⟩
      | some action =>
          unfold tryAction at h
          dsimp only at h
          split at h
          · obtain ⟨_, s₃, -, h⟩ := Eff.run_bind_ok h
            cases h
            trivial
          · obtain ⟨_, s₃, -, h⟩ := Eff.run_bind_ok h
            obtain ⟨_, s₄, -, h⟩ := Eff.run_bind_ok h
            split at h
            · exact c.stepMonitored_exit h ⟨rfl, rfl⟩
            · obtain ⟨fallbackId, s₅, -, h⟩ := Eff.run_bind_ok h
              obtain ⟨block, s₆, hblock, h⟩ := Eff.run_bind_ok h
              refine c.concludeAttempt_monitored (fun b hb => ?_) h
              subst hb
              obtain ⟨_, s₇, -, hwith⟩ := Eff.run_bind_ok (Eff.run_attempt_ok hblock)
              exact c.withOperationContext_monitored hwith

/-- What the loop over the candidates returns. -/
theorem replanLoopExit_monitored {ctx : RunContext} {maxAttempts index : ℕ}
    {candidates : List RecoveryActionCandidate} {p : Progress} {s s' : RunState σ}
    {x : RunExit} {report : Report}
    (h : (c.replanLoopExit ctx maxAttempts index candidates p).run s = (.ok (x, report), s')) :
    x.Monitored report := by
  induction candidates generalizing index p s with
  | nil =>
      obtain ⟨report', s₁, hfinal, h⟩ := Eff.run_bind_ok h
      cases h
      refine c.finalizeReport_monitored hfinal ⟨rfl, ?_⟩
      cases hlast : p.lastAssessment with
      | none => exact .inl (by simp [exhaustedReport, hlast])
      | some a => exact .inr ⟨a, by simp [exhaustedReport, hlast]⟩
  | cons candidate rest ih =>
      obtain ⟨step, s₁, hstep, h⟩ := Eff.run_bind_ok h
      have hmonitored := c.tryCandidate_monitored hstep
      cases step with
      | exit e report' =>
          cases h
          exact hmonitored
      | proceed p' => exact ih h

/-- What the part before the loop returns. -/
theorem prepare_monitored {ns deployment metric : String} {threshold : ℚ} {prepared : Prepared}
    {s s' : RunState σ}
    (h : (c.prepare ns deployment metric threshold).run s = (.ok prepared, s')) :
    PreparedMonitored prepared := by
  obtain ⟨_, s₁, -, h⟩ := Eff.run_bind_ok h
  obtain ⟨runId, s₂, -, h⟩ := Eff.run_bind_ok h
  obtain ⟨_, s₃, -, h⟩ := Eff.run_bind_ok h
  obtain ⟨_, s₄, -, h⟩ := Eff.run_bind_ok h
  split at h
  · exact c.preparedMonitored_finished h ⟨rfl, .inl rfl⟩
  obtain ⟨_, s₅, -, h⟩ := Eff.run_bind_ok h
  obtain ⟨evidence, s₆, -, h⟩ := Eff.run_bind_ok h
  obtain ⟨_, s₇, -, h⟩ := Eff.run_bind_ok h
  obtain ⟨_, s₈, -, h⟩ := Eff.run_bind_ok h
  unfold prepareDiagnosis at h
  split at h
  · cases h
  obtain ⟨outcome, s₉, -, h⟩ := Eff.run_bind_ok h
  split at h
  · exact c.preparedMonitored_finished h ⟨rfl, .inl rfl⟩
  obtain ⟨_, s₁₀, -, h⟩ := Eff.run_bind_ok h
  obtain ⟨_, s₁₁, -, h⟩ := Eff.run_bind_ok h
  split at h
  · refine c.preparedMonitored_finished h ⟨rfl, ?_⟩
    dsimp only [baseReport]
    split
    · exact .inl rfl
    · exact .inr rfl
  unfold prepareCandidates at h
  split at h
  · cases h
  obtain ⟨outcome, s₁₂, -, h⟩ := Eff.run_bind_ok h
  split at h
  · exact c.preparedMonitored_finished h ⟨rfl, .inl rfl⟩
  · cases h
    trivial

/-- **What the report of each exit says of the recovery.** -/
theorem runExit_monitored {ns deployment metric : String} {threshold : ℚ} {env : σ} {x : RunExit}
    {report : Report} {s' : RunState σ}
    (h : (c.runExit ns deployment metric threshold).run (.start env) = (.ok (x, report), s')) :
    x.Monitored report := by
  obtain ⟨prepared, s₁, hprepare, h⟩ := Eff.run_bind_ok h
  have hmonitored := c.prepare_monitored hprepare
  cases prepared with
  | finished report' =>
      cases h
      exact hmonitored
  | ready ctx candidates p => exact c.replanLoopExit_monitored h

end Coordinator
end Supervision
end AiopsK8s
