/-
# What a report measured

Outside dry-run mode a report of `run` has assessed the recovery or has executed nothing
(`run_measured`).  The loop keeps its last assessment and its last execution in variables of its
own, and every exit copies other ones of them into its report; `Progress.Measured` is what the
variables keep.
-/

import AiopsK8s.Supervision.Outcome

namespace AiopsK8s
namespace Supervision

open Effect Act

/-- **What a report of a run that is no dry run says about its recovery**: it was assessed, or
nothing was executed validly; and a run with nothing to do assessed nothing. -/
structure Measured (report : Report) : Prop where
  verdict : (∃ a, report.recoveryMonitoring = .assessed a) ∨
    (report.recoveryMonitoring = .empty ∧ report.executedActions = [] ∧
      report.executionResult.valid = false)
  noAction : report.finalStatus = .noActionRequired → report.recoveryMonitoring = .empty
  measured : report.finalStatus ≠ .dryRunValidated

/-- The variables of the loop have an assessment, or nothing was executed validly. -/
def Progress.Measured (p : Progress) : Prop :=
  p.lastAssessment = none → p.executedActions = [] ∧ p.lastExecution.valid = false

/-- What a step keeps, whether it goes on or returns. -/
def StepMeasured : StepResult → Prop
  | .proceed p => p.Measured
  | .exit _ report => Measured report

/-- What the part before the loop returns. -/
def PreparedMeasured : Prepared → Prop
  | .finished report => Measured report
  | .ready _ _ p => p.Measured

/-- A report without an assessment. -/
theorem Measured.of_empty {report : Report} (hmonitoring : report.recoveryMonitoring = .empty)
    (hexecuted : report.executedActions = []) (hexecution : report.executionResult.valid = false)
    (hstatus : report.finalStatus ≠ .dryRunValidated) : Measured report :=
  ⟨.inr ⟨hmonitoring, hexecuted, hexecution⟩, fun _ => hmonitoring, hstatus⟩

/-- A report with an assessment. -/
theorem Measured.of_assessed {report : Report} {a : RecoveryAssessment}
    (hmonitoring : report.recoveryMonitoring = .assessed a)
    (hstatus : report.finalStatus ≠ .dryRunValidated ∧ report.finalStatus ≠ .noActionRequired) :
    Measured report :=
  ⟨.inl ⟨a, hmonitoring⟩, fun h => absurd h hstatus.2, hstatus.1⟩

namespace Coordinator

variable {σ : Type} (c : Coordinator σ)

theorem finalizeReport_measured {report report' : Report} {s s' : RunState σ}
    (h : (c.finalizeReport report).run s = (.ok report', s')) (hreport : Measured report) :
    Measured report' := by
  obtain ⟨contributions, artifacts, rfl⟩ := c.finalizeReport_eq h
  exact ⟨hreport.verdict, hreport.noAction, hreport.measured⟩

/-- An exit with a report that is finished last. -/
theorem stepMeasured_exit {e : Exit} {report : Report} {s s' : RunState σ} {result : StepResult}
    (h : (c.finalizeReport report >>= fun r => pure (.exit e r)).run s = (.ok result, s'))
    (hreport : Measured report) : StepMeasured result := by
  obtain ⟨report', s₁, hfinal, h⟩ := Eff.run_bind_ok h
  cases h
  exact c.finalizeReport_measured hfinal hreport

/-- The part before the loop that returns a report. -/
theorem preparedMeasured_finished {report : Report} {s s' : RunState σ} {prepared : Prepared}
    (h : (c.finalizeReport report >>= fun r => pure (.finished r)).run s = (.ok prepared, s'))
    (hreport : Measured report) : PreparedMeasured prepared := by
  obtain ⟨report', s₁, hfinal, h⟩ := Eff.run_bind_ok h
  cases h
  exact c.finalizeReport_measured hfinal hreport

/-- The end of the loop body, after the block under the operation lock. -/
theorem concludeAttempt_measured {ctx : RunContext} {maxAttempts candidateIndex : ℕ}
    {p : Progress} {action : RecoveryAction} {validation : SafetyValidation}
    {block : Except PyExn BlockResult} {s s' : RunState σ} {result : StepResult}
    (hblock : ∀ b, block = .ok b → ∃ execution assessment reviews,
      b = .observed execution assessment reviews)
    (h : (c.concludeAttempt ctx maxAttempts candidateIndex p action validation block).run s =
      (.ok result, s')) : StepMeasured result := by
  cases block with
  | error exc => exact c.stepMeasured_exit h (.of_empty rfl rfl rfl nofun)
  | ok b =>
      obtain ⟨execution, assessment, reviews, rfl⟩ := hblock b rfl
      cases reviews with
      | error failure => exact c.stepMeasured_exit h (.of_assessed rfl ⟨nofun, nofun⟩)
      | ok reviews =>
          unfold concludeAttempt at h
          dsimp only at h
          split at h
          · refine c.stepMeasured_exit h (.of_assessed rfl ?_)
            show (if candidateIndex = 0 then FinalStatus.recovered else .recoveredAfterReplan) ≠ _ ∧
              (if candidateIndex = 0 then FinalStatus.recovered else .recoveredAfterReplan) ≠ _
            split <;> exact ⟨nofun, nofun⟩
          · cases h
            exact nofun

/-- **The loop body keeps what was measured.** -/
theorem tryCandidate_measured {ctx : RunContext} {maxAttempts candidateIndex : ℕ} {p : Progress}
    {candidate : RecoveryActionCandidate} {s s' : RunState σ} {result : StepResult}
    (hmode : c.mode ≠ .dryRun) (hp : p.Measured)
    (h : (c.tryCandidate ctx maxAttempts candidateIndex p candidate).run s = (.ok result, s')) :
    StepMeasured result := by
  obtain ⟨outcome, s₁, -, h⟩ := Eff.run_bind_ok h
  cases outcome with
  | failed text t => exact c.stepMeasured_exit h (.of_empty rfl rfl rfl nofun)
  | settled selected t =>
      obtain ⟨_, s₂, -, h⟩ := Eff.run_bind_ok h
      cases selected with
      | none => exact c.stepMeasured_exit h (.of_empty rfl rfl rfl nofun)
      | some action =>
          unfold tryAction at h
          dsimp only at h
          split at h
          · obtain ⟨_, s₃, -, h⟩ := Eff.run_bind_ok h
            cases h
            exact hp
          · obtain ⟨_, s₃, -, h⟩ := Eff.run_bind_ok h
            obtain ⟨_, s₄, -, h⟩ := Eff.run_bind_ok h
            split at h
            · exact c.stepMeasured_exit h (.of_empty rfl rfl rfl nofun)
            · obtain ⟨fallbackId, s₅, -, h⟩ := Eff.run_bind_ok h
              obtain ⟨block, s₆, hblock, h⟩ := Eff.run_bind_ok h
              refine c.concludeAttempt_measured (fun b hb => ?_) h
              subst hb
              obtain ⟨_, s₇, -, hwith⟩ := Eff.run_bind_ok (Eff.run_attempt_ok hblock)
              obtain ⟨execution, assessment, reviews, rfl, -⟩ :=
                c.withOperationContext_history hmode hwith
              exact ⟨execution, assessment, reviews, rfl⟩

/-- The loop over the candidates returns a measured report. -/
theorem replanLoop_measured {ctx : RunContext} {maxAttempts index : ℕ}
    {candidates : List RecoveryActionCandidate} {p : Progress} {s s' : RunState σ}
    {report : Report} (hmode : c.mode ≠ .dryRun) (hp : p.Measured)
    (h : (c.replanLoop ctx maxAttempts index candidates p).run s = (.ok report, s')) :
    Measured report := by
  induction candidates generalizing index p s with
  | nil =>
      refine c.finalizeReport_measured h ?_
      cases hlast : p.lastAssessment with
      | none =>
          obtain ⟨hexecuted, hexecution⟩ := hp hlast
          exact .of_empty (by simp [exhaustedReport, hlast]) hexecuted hexecution nofun
      | some a =>
          have hmonitoring : (c.exhaustedReport ctx p).recoveryMonitoring = .assessed a := by
            simp [exhaustedReport, hlast]
          exact .of_assessed hmonitoring ⟨nofun, nofun⟩
  | cons candidate rest ih =>
      obtain ⟨step, s₁, hstep, h⟩ := Eff.run_bind_ok h
      have hmeasured := c.tryCandidate_measured hmode hp hstep
      cases step with
      | exit e report' =>
          cases h
          exact hmeasured
      | proceed p' => exact ih hmeasured h

/-- The part before the loop measures nothing. -/
theorem prepare_measured {ns deployment metric : String} {threshold : ℚ} {prepared : Prepared}
    {s s' : RunState σ}
    (h : (c.prepare ns deployment metric threshold).run s = (.ok prepared, s')) :
    PreparedMeasured prepared := by
  obtain ⟨_, s₁, -, h⟩ := Eff.run_bind_ok h
  obtain ⟨runId, s₂, -, h⟩ := Eff.run_bind_ok h
  obtain ⟨_, s₃, -, h⟩ := Eff.run_bind_ok h
  obtain ⟨_, s₄, -, h⟩ := Eff.run_bind_ok h
  split at h
  · exact c.preparedMeasured_finished h (.of_empty rfl rfl rfl nofun)
  obtain ⟨_, s₅, -, h⟩ := Eff.run_bind_ok h
  obtain ⟨evidence, s₆, -, h⟩ := Eff.run_bind_ok h
  obtain ⟨_, s₇, -, h⟩ := Eff.run_bind_ok h
  obtain ⟨_, s₈, -, h⟩ := Eff.run_bind_ok h
  unfold prepareDiagnosis at h
  split at h
  · cases h
  obtain ⟨outcome, s₉, -, h⟩ := Eff.run_bind_ok h
  split at h
  · exact c.preparedMeasured_finished h (.of_empty rfl rfl rfl nofun)
  obtain ⟨_, s₁₀, -, h⟩ := Eff.run_bind_ok h
  obtain ⟨_, s₁₁, -, h⟩ := Eff.run_bind_ok h
  split at h
  · refine c.preparedMeasured_finished h (.of_empty rfl rfl rfl ?_)
    dsimp only [baseReport]
    split <;> nofun
  unfold prepareCandidates at h
  split at h
  · cases h
  obtain ⟨outcome, s₁₂, -, h⟩ := Eff.run_bind_ok h
  split at h
  · exact c.preparedMeasured_finished h (.of_empty rfl rfl rfl nofun)
  · cases h
    exact fun _ => ⟨rfl, rfl⟩

/-- **Every report of a run outside dry-run mode is measured.** -/
theorem run_measured {ns deployment metric : String} {threshold : ℚ} {env : σ} {report : Report}
    {s' : RunState σ} (hmode : c.mode ≠ .dryRun)
    (h : (c.run ns deployment metric threshold).run (.start env) = (.ok report, s')) :
    Measured report := by
  obtain ⟨prepared, s₁, hprepare, h⟩ := Eff.run_bind_ok h
  have hmeasured := c.prepare_measured hprepare
  cases prepared with
  | finished report' =>
      cases h
      exact hmeasured
  | ready ctx candidates p => exact c.replanLoop_measured hmode hmeasured h

end Coordinator
end Supervision
end AiopsK8s
