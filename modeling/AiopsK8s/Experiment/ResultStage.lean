/-
# The last stage of a run

Which runs have a session whose last stage says what their status says.  Of the reports of a
`MutualSupervisionCoordinator` it is all but those that overrule a successful assessment
(`Overruled`): the exits with the status `safe_failure` keep the assessment, and the stage is read
from it.  Of the reports of `ExperimentRuntime.run` it is those whose `try` block ends well with such
a report, or breaks off before the coordinator has assessed anything (`TryExit.Agrees`): a
cancellation, a deadline or a lock error that is noticed later gives the report a status of its own
and leaves the assessment in it.
-/

import AiopsK8s.Experiment.Evaluation
import AiopsK8s.Experiment.Handover
import AiopsK8s.Supervision.Exits

namespace AiopsK8s
namespace Experiment

open Effect Run ExperimentRuntime Session
open Supervision (FinalStatus RunExit)

variable {σ App : Type}

/-! ### The coordinator -/

/-- **A successful assessment is overruled**: the exit has the status `safe_failure`, and its report
keeps the assessment of a recovery. -/
def Overruled (x : RunExit) (r : Supervision.Report) : Prop :=
  (x = .attempt .postReviewFailure ∨ x = .exhausted) ∧ r.Successful

/-- The recovery monitoring says that the service recovered. -/
theorem recoveredFlag_monitoringFields (monitoring : Supervision.RecoveryMonitoring) :
    recoveredFlag (monitoringFields monitoring) = true ↔
      ∃ a, monitoring = .assessed a ∧ a.recoverySuccess = true := by
  have hsuccess : Json.getD (monitoringFields monitoring) "recovered"
      (Json.get (monitoringFields monitoring) "recovery_success") =
        Json.get (monitoringFields monitoring) "recovery_success" :=
    getD_of_none (monitoringFields_lookup _ (by decide))
  unfold recoveredFlag
  rw [hsuccess]
  cases monitoring with
  | empty => simp [monitoringFields, Json.get, Session.isTrue]
  | notMeasured reason => simp [monitoringFields, Json.get, Session.isTrue, List.lookup_cons]
  | assessed a =>
      rcases ha : a.recoverySuccess with - | - <;>
        simp [monitoringFields, Json.get, Session.isTrue, ha]

theorem recoveredFlag_of_successful {r : Supervision.Report} :
    recoveredFlag (monitoringFields r.recoveryMonitoring) = true ↔ r.Successful :=
  recoveredFlag_monitoringFields _

theorem monitoringFields_ne_nil {monitoring : Supervision.RecoveryMonitoring}
    (h : monitoring ≠ .empty) : monitoringFields monitoring ≠ [] := by
  cases monitoring <;> first | exact absurd rfl h | simp [monitoringFields]

/-- **The exits whose report says of the recovery what its status says.** -/
theorem consistent_iff {x : RunExit} {r : Supervision.Report} (h : x.Monitored r) :
    Consistent r.finalStatus.value (monitoringFields r.recoveryMonitoring) ↔ ¬Overruled x r := by
  have hempty : ∀ {y : RunExit}, r.recoveryMonitoring = .empty →
      (Consistent r.finalStatus.value (monitoringFields r.recoveryMonitoring) ↔
        ¬Overruled y r) := by
    intro y hmonitoring
    refine iff_of_true (.inl (by rw [hmonitoring]; rfl)) ?_
    rintro ⟨-, a, ha, -⟩
    rw [hmonitoring] at ha
    cases ha
  have hfailure : ∀ {y : RunExit}, y = .attempt .postReviewFailure ∨ y = .exhausted →
      r.finalStatus = .safeFailure → (∃ a, r.recoveryMonitoring = .assessed a) →
      (Consistent r.finalStatus.value (monitoringFields r.recoveryMonitoring) ↔
        ¬Overruled y r) := by
    rintro y hy hstatus ⟨a, ha⟩
    have hne : monitoringFields r.recoveryMonitoring ≠ [] :=
      monitoringFields_ne_nil (by rw [ha]; simp)
    rw [hstatus]
    constructor
    · rintro (hnil | hdry | ⟨-, hdone⟩ | ⟨hflag, -⟩) ⟨-, hsuccessful⟩
      · exact hne hnil
      · exact absurd hdry (by decide)
      · exact absurd hdone (by decide)
      · rw [recoveredFlag_of_successful.2 hsuccessful] at hflag
        cases hflag
    · intro hnot
      refine .inr (.inr (.inr ⟨?_, by decide, by decide⟩))
      rw [← Bool.not_eq_true, recoveredFlag_of_successful]
      exact fun hsuccessful => hnot ⟨hy, hsuccessful⟩
  rcases x with - | e | -
  · exact hempty h.1
  · cases e with
    | negotiationFailure => exact hempty h.2
    | noConsensus => exact hempty h.2
    | validationRejected => exact hempty h.2
    | operationLockError => exact hempty h.2
    | postReviewFailure => exact hfailure (.inl rfl) h.1 h.2
    | dryRunValidated =>
        have hstatus : r.finalStatus = .dryRunValidated := h
        refine iff_of_true (.inr (.inl (by rw [hstatus]; rfl))) ?_
        rintro ⟨hx | hx, -⟩ <;> cases hx
    | recovered =>
        obtain ⟨hrecovered, hsuccessful⟩ := h
        refine iff_of_true (.inr (.inr (.inl ⟨recoveredFlag_of_successful.2 hsuccessful, ?_⟩))) ?_
        · generalize r.finalStatus = status at hrecovered ⊢
          revert hrecovered
          cases status <;> decide
        · rintro ⟨hx | hx, -⟩ <;> cases hx
  · obtain ⟨hstatus, hmonitoring | hmonitoring⟩ := h
    · exact hempty hmonitoring
    · exact hfailure (.inr rfl) hstatus hmonitoring

/-- The statuses are texts without blanks around them. -/
theorem strip_value (status : FinalStatus) : Text.strip status.value = status.value := by
  cases status <;> decide +kernel

theorem value_ne (status : FinalStatus) : status.value ≠ "" := by
  cases status <;> decide

theorem strip_broken {status : String} (h : status ∈ brokenStatuses) :
    Text.strip status = status ∧ status ≠ "" := by
  simp only [brokenStatuses, List.mem_cons, List.not_mem_nil, or_false] at h
  rcases h with rfl | rfl | rfl | rfl <;> decide +kernel

/-- The status of a report whose entry is a text. -/
theorem finalStatus_of_lookup {py : Python} {report : Fields} {status : String}
    (h : report.lookup "final_status" = some (.str status)) (hstrip : Text.strip status = status)
    (hne : status ≠ "") : finalStatus py report = status := by
  have hget : py.str (Json.getD report "final_status" (.str "unknown")) = status := by
    rw [Json.getD, h]
    rfl
  unfold finalStatus
  rw [hget, hstrip]
  exact if_neg hne

theorem recoveryOf_of_lookup {report fields : Fields}
    (h : report.lookup "recovery_monitoring" = some (.obj fields)) : recoveryOf report = fields := by
  rw [recoveryOf, Json.get, h]
  rfl

/-! ### The runtime -/

/-- How the `try` block of a run ends: an exception before the coordinator has returned, one
afterwards, or none. -/
inductive TryExit where
  | unreported (e : RuntimeException)
  | brokenOff (x : RunExit) (r : Supervision.Report) (e : RuntimeException)
  | reported (x : RunExit) (r : Supervision.Report)

namespace TryExit

/-- The status of the report. -/
def status : TryExit → String
  | unreported e => e.status
  | brokenOff _ _ e => e.status
  | reported _ r => r.finalStatus.value

/-- The recovery monitoring of the report. -/
def monitoring : TryExit → Supervision.RecoveryMonitoring
  | unreported _ => .empty
  | brokenOff _ r _ => r.recoveryMonitoring
  | reported _ r => r.recoveryMonitoring

/-- **The ends whose session agrees with its status**: the coordinator has not returned; or what it
has returned monitors nothing; or a failed recovery has broken off with the status `failed`; or the
coordinator's report stands and overrules nothing. -/
def Agrees : TryExit → Prop
  | unreported _ => True
  | brokenOff _ r e => r.recoveryMonitoring = .empty ∨ e.status = "failed" ∧ ¬r.Successful
  | reported x r => ¬Overruled x r

/-- The coordinator's report is one that its exit gives. -/
def Monitored : TryExit → Prop
  | unreported _ => True
  | brokenOff x r _ => x.Monitored r
  | reported x r => x.Monitored r

theorem consistent_iff {exit : TryExit} (h : exit.Monitored) :
    Consistent exit.status (monitoringFields exit.monitoring) ↔ exit.Agrees := by
  cases exit with
  | unreported e => exact iff_of_true (.inl rfl) trivial
  | reported x r => exact Experiment.consistent_iff h
  | brokenOff x r e =>
      show Consistent e.status (monitoringFields r.recoveryMonitoring) ↔
        r.recoveryMonitoring = .empty ∨ e.status = "failed" ∧ ¬r.Successful
      by_cases hempty : r.recoveryMonitoring = .empty
      · exact iff_of_true (.inl (by rw [hempty]; rfl)) (.inl hempty)
      have hne := monitoringFields_ne_nil hempty
      have hflag : recoveredFlag (monitoringFields r.recoveryMonitoring) = false ↔
          ¬r.Successful := by
        rw [← Bool.not_eq_true, recoveredFlag_of_successful]
      have hmem := RuntimeSetting.Supervises.status_mem e
      generalize e.status = status at hmem ⊢
      have hdone : status ∉ completedStatuses ∧ status ≠ "dry_run_validated" ∧
          (status ∉ ["safe_stopped", "cancelled", "interrupted", "blocked"] ↔
            status = "failed") := by
        simp only [brokenStatuses, List.mem_cons, List.not_mem_nil, or_false] at hmem
        rcases hmem with rfl | rfl | rfl | rfl <;> decide
      unfold Consistent
      rw [hflag, hdone.2.2]
      constructor
      · rintro (hnil | hdry | ⟨-, hcompleted⟩ | ⟨hnot, -, hfailed⟩)
        · exact absurd hnil hne
        · exact absurd hdry hdone.2.1
        · exact absurd hcompleted hdone.1
        · exact .inr ⟨hfailed, hnot⟩
      · rintro (hnil | ⟨hfailed, hnot⟩)
        · exact absurd hnil hempty
        · exact .inr (.inr (.inr ⟨hnot, hdone.1, hfailed⟩))

/-- The report has the status and the recovery monitoring of the end. -/
structure Shown (exit : TryExit) (report : Fields) : Prop where
  status : report.lookup "final_status" = some (.str exit.status)
  monitoring : report.lookup "recovery_monitoring" =
    some (.obj (monitoringFields exit.monitoring))

end TryExit

namespace ExperimentRuntime

variable (rt : ExperimentRuntime σ App) (request : ExperimentRuntimeRequest)

/-- `run` up to its `try` statement. -/
def startRun : Run σ App (String × RuntimeControl σ) := do
  let experimentId ← onWorld rt.experimentId
  let report ← Eff.ofExcept (rt.baseReport request experimentId)
  let advice ← onWorld (rt.advise request)
  Eff.modify fun s => { s with report := Json.update report advice }
  let start ← onWorld rt.clock
  return (experimentId, ⟨rt.cancelled, some (start + rt.configuration.experimentSeconds), rt.clock⟩)

/-- The `try` block up to the coordinator's report. -/
def reachReport (experimentId : String) (control : RuntimeControl σ) :
    Run σ App (Coordinator σ × Fields) := do
  Eff.ofExcept (rt.validateRequest request)
  let coordinator ← onWorld (rt.coordinatorFactory request)
  let timeouts ← onWorld (rt.validateAdmission coordinator request)
  Eff.ofExcept (validateCoordinatorMode request coordinator)
  onWorld control.check
  rt.enterLock request
  rt.emit experimentId .preflight "runtime preflight"
  Eff.when (request.mode = .real ∧ request.incidentSource = "chaos_mesh")
    (rt.injectFault request experimentId control)
  onWorld control.check
  rt.emit experimentId .collectingEvidence "collecting registered evidence"
  rt.emit experimentId .agentReasoning "running mutual supervision"
  rt.attachEventStore coordinator
  let report ← onHub (coordinator.run ⟨control, timeouts, coordinator.hasLockFlag⟩
    request.ns request.deployment request.metric request.threshold)
  return (coordinator, report)

/-- The `try` block from the coordinator's report on. -/
def leaveReport (experimentId : String) (control : RuntimeControl σ)
    (p : Coordinator σ × Fields) : Run σ App Unit := do
  Eff.modify fun s => { s with report := p.2 }
  rt.readReport request experimentId control p.1

theorem run_eq_startRun : rt.run request =
    (rt.startRun request >>= fun p => rt.supervised request p.1 p.2) := by
  unfold ExperimentRuntime.run startRun
  simp only [bind_assoc, pure_bind]

theorem body_eq_reachReport (experimentId : String) (control : RuntimeControl σ) :
    rt.body request experimentId control = (rt.reachReport request experimentId control >>=
      rt.leaveReport request experimentId control) := by
  unfold ExperimentRuntime.body runCoordinator reachReport leaveReport
  simp only [bind_assoc, pure_bind]

end ExperimentRuntime

/-- The mapping is the report that a `MutualSupervisionCoordinator` returned at the exit. -/
def ReturnedAt (request : ExperimentRuntimeRequest) (report : Fields) (x : RunExit)
    (r : Supervision.Report) : Prop :=
  Shows report r ∧ ∃ (τ : Type) (c : Supervision.Coordinator τ) (env : τ)
    (s : Supervision.RunState τ),
    (c.runExit request.ns request.deployment request.metric request.threshold).run (.start env) =
      (.ok (x, r), s)

/-- The `try` block of the run from an environment ends so. -/
inductive TryEnds (rt : ExperimentRuntime σ App) (request : ExperimentRuntimeRequest) (world : σ) :
    TryExit → Prop where
  | unreported {p : String × RuntimeControl σ} {s s' : RunState σ App} {e : RuntimeException}
      (hstart : (rt.startRun request).run (RunState.initial rt world) = (.ok p, s))
      (hraised : (rt.reachReport request p.1 p.2).run s = (.error e, s')) :
      TryEnds rt request world (.unreported e)
  | brokenOff {p : String × RuntimeControl σ} {q : Coordinator σ × Fields}
      {s s₁ s₂ : RunState σ App} {x : RunExit} {r : Supervision.Report} {e : RuntimeException}
      (hstart : (rt.startRun request).run (RunState.initial rt world) = (.ok p, s))
      (hreached : (rt.reachReport request p.1 p.2).run s = (.ok q, s₁))
      (hreturned : ReturnedAt request q.2 x r)
      (hraised : (rt.leaveReport request p.1 p.2 q).run s₁ = (.error e, s₂)) :
      TryEnds rt request world (.brokenOff x r e)
  | reported {p : String × RuntimeControl σ} {q : Coordinator σ × Fields}
      {s s₁ s₂ : RunState σ App} {x : RunExit} {r : Supervision.Report}
      (hstart : (rt.startRun request).run (RunState.initial rt world) = (.ok p, s))
      (hreached : (rt.reachReport request p.1 p.2).run s = (.ok q, s₁))
      (hreturned : ReturnedAt request q.2 x r)
      (hleft : (rt.leaveReport request p.1 p.2 q).run s₁ = (.ok (), s₂)) :
      TryEnds rt request world (.reported x r)

theorem TryEnds.monitored {rt : ExperimentRuntime σ App} {request : ExperimentRuntimeRequest}
    {world : σ} {exit : TryExit} (h : TryEnds rt request world exit) : exit.Monitored := by
  cases h with
  | unreported => trivial
  | brokenOff _ _ hreturned _ =>
      obtain ⟨-, τ, c, env, s, hrun⟩ := hreturned
      exact c.runExit_monitored hrun
  | reported _ _ hreturned _ =>
      obtain ⟨-, τ, c, env, s, hrun⟩ := hreturned
      exact c.runExit_monitored hrun

/-! ### What the end of the `try` block leaves in the report -/

section Runs

variable {rt : ExperimentRuntime σ App} {request : ExperimentRuntimeRequest}
  {experimentId : String} {control : RuntimeControl σ}

theorem onHub_ok {α : Type} {m : Eff (Hub σ) RuntimeException α} {s s' : RunState σ App} {a : α}
    (h : (Run.onHub m : Run σ App α).run s = (.ok a, s')) :
    ∃ hub, m.run s.hub = (.ok a, hub) := by
  rw [Run.onHub, Eff.run_zoom] at h
  have hresult := congrArg Prod.fst h
  exact ⟨(m.run s.hub).2, Prod.ext hresult rfl⟩

theorem onWorld_ok {α : Type} {m : Eff σ RuntimeException α} {s s' : RunState σ App} {a : α}
    (h : (Run.onWorld m : Run σ App α).run s = (.ok a, s')) :
    ∃ w, m.run s.hub.world = (.ok a, w) := by
  obtain ⟨hub, h⟩ := onHub_ok h
  rw [Hub.onWorld, Eff.run_zoom] at h
  have hresult := congrArg Prod.fst h
  exact ⟨(m.run s.hub.world).2, Prod.ext hresult rfl⟩

/-- The report that the `try` block begins with monitors nothing. -/
theorem monitoring_of_start {setting : RuntimeSetting} (hsupervises : setting.Supervises rt)
    {p : String × RuntimeControl σ} {s₀ s : RunState σ App}
    (h : (rt.startRun request).run s₀ = (.ok p, s)) :
    s.report.lookup "recovery_monitoring" = some (.obj []) := by
  obtain ⟨experimentId, s₁, -, h⟩ := Eff.run_bind_ok h
  obtain ⟨base, s₂, hbase, h⟩ := Eff.run_bind_ok h
  obtain ⟨advice, s₃, hadvice, h⟩ := Eff.run_bind_ok h
  obtain ⟨_, s₄, hmodify, h⟩ := Eff.run_bind_ok h
  obtain ⟨start, s₅, hclock, h⟩ := Eff.run_bind_ok h
  rw [hsupervises.advise] at hadvice
  obtain ⟨w, hadvice⟩ := onWorld_ok hadvice
  have hreport : s₅.report = Json.update base advice := by
    have hkeeps : Keeps (ofReport id) (Run.onWorld rt.clock : Run σ App ℚ) := keeps_onWorld _
    have hsame : s₅.report = s₄.report := (hkeeps _ s₄ rfl).1 _ _ hclock
    rw [hsame]
    cases hmodify
    rfl
  cases h
  rw [hreport]
  have hbase : rt.baseReport request experimentId = .ok base := congrArg Prod.fst hbase
  have hadvice : setting.advice request = .ok advice := congrArg Prod.fst hadvice
  exact (RuntimeSetting.Supervises.provisional_base hbase hadvice).empty _ (by decide)

/-- Nothing before the coordinator's report changes the report. -/
theorem keeps_reachReport {γ : Type} (g : Fields → γ) :
    Keeps (ofReport g) (rt.reachReport request experimentId control) := by
  unfold reachReport
  refine Keeps.bind (Keeps.ofExcept _) fun _ => Keeps.bind (keeps_onWorld _) fun coordinator => ?_
  refine Keeps.bind (keeps_onWorld _) fun timeouts => Keeps.bind (Keeps.ofExcept _) fun _ => ?_
  refine Keeps.bind (keeps_onWorld _) fun _ => Keeps.bind (keeps_enterLock rt request) fun _ => ?_
  refine Keeps.bind (keeps_emit rt experimentId _ _) fun _ => ?_
  refine Keeps.bind (Keeps.when (keeps_injectFault rt request experimentId control)) fun _ => ?_
  refine Keeps.bind (keeps_onWorld _) fun _ => Keeps.bind (keeps_emit rt experimentId _ _) fun _ => ?_
  refine Keeps.bind (keeps_emit rt experimentId _ _) fun _ => ?_
  refine Keeps.bind (keeps_attachEventStore rt coordinator) fun _ => ?_
  exact Keeps.bind (keeps_onHub _) fun _ => Keeps.pure _

/-- **The coordinator's report is one that a `MutualSupervisionCoordinator` returned.** -/
theorem returnedAt_of_reachReport {setting : RuntimeSetting} (hsupervises : setting.Supervises rt)
    {q : Coordinator σ × Fields} {s s' : RunState σ App}
    (h : (rt.reachReport request experimentId control).run s = (.ok q, s')) :
    ∃ x r, ReturnedAt request q.2 x r := by
  obtain ⟨_, s₁, -, h⟩ := Eff.run_bind_ok h
  obtain ⟨coordinator, s₂, hfactory, h⟩ := Eff.run_bind_ok h
  obtain ⟨timeouts, s₃, -, h⟩ := Eff.run_bind_ok h
  obtain ⟨_, s₄, -, h⟩ := Eff.run_bind_ok h
  obtain ⟨_, s₅, -, h⟩ := Eff.run_bind_ok h
  obtain ⟨_, s₆, -, h⟩ := Eff.run_bind_ok h
  obtain ⟨_, s₇, -, h⟩ := Eff.run_bind_ok h
  obtain ⟨_, s₈, -, h⟩ := Eff.run_bind_ok h
  obtain ⟨_, s₉, -, h⟩ := Eff.run_bind_ok h
  obtain ⟨_, s₁₀, -, h⟩ := Eff.run_bind_ok h
  obtain ⟨_, s₁₁, -, h⟩ := Eff.run_bind_ok h
  obtain ⟨_, s₁₂, -, h⟩ := Eff.run_bind_ok h
  obtain ⟨report, s₁₃, hrun, h⟩ := Eff.run_bind_ok h
  cases h
  obtain ⟨w, hfactory⟩ := onWorld_ok hfactory
  obtain ⟨hub, hrun⟩ := onHub_ok hrun
  obtain ⟨mode, -, hruns⟩ := hsupervises.supervised _ _ _ _ hfactory
  obtain ⟨τ, c, env, r, t, -, hrun, hshows⟩ := hruns _ _ _ _ _ _ _ _ hrun
  obtain ⟨x, hexit⟩ := c.exists_exit hrun
  exact ⟨x, r, hshows, τ, c, env, t, hexit⟩

/-- The rest of the `try` block keeps the recovery monitoring, however it ends. -/
theorem monitoring_leaveReport {q : Coordinator σ × Fields} {x : RunExit} {r : Supervision.Report}
    (h : ReturnedAt request q.2 x r) :
    Triple (fun _ => True) (rt.leaveReport request experimentId control q)
      (fun _ s => s.report.lookup "recovery_monitoring" =
        some (.obj (monitoringFields r.recoveryMonitoring)))
      (fun _ s => s.report.lookup "recovery_monitoring" =
        some (.obj (monitoringFields r.recoveryMonitoring))) := by
  unfold leaveReport
  refine Triple.bind (Q := fun _ s => s.report.lookup "recovery_monitoring" =
    some (.obj (monitoringFields r.recoveryMonitoring)))
    (Triple.modify fun s _ => h.1.figures.monitoring) fun _ => ?_
  exact keeps_readReport rt request experimentId (by decide) control q.1 _

/-- Where nothing is raised, it keeps the status. -/
theorem status_leaveReport {q : Coordinator σ × Fields} {x : RunExit} {r : Supervision.Report}
    (h : ReturnedAt request q.2 x r) :
    Triple (fun _ => True) (rt.leaveReport request experimentId control q)
      (fun _ s => s.report.lookup "final_status" = some (.str r.finalStatus.value))
      (fun _ _ => True) := by
  have hkept : ∀ {α : Type} {m : Run σ App α}, Keeps (ofReport (List.lookup "final_status")) m →
      Triple (fun s => s.report.lookup "final_status" = some (.str r.finalStatus.value)) m
        (fun _ s => s.report.lookup "final_status" = some (.str r.finalStatus.value))
        (fun _ _ => True) := fun hm =>
    (hm _).weaken (fun _ h => h) (fun _ _ h => h) fun _ _ _ => trivial
  unfold leaveReport
  refine Triple.bind (Q := fun _ s => s.report.lookup "final_status" =
    some (.str r.finalStatus.value)) (Triple.modify fun s _ => h.1.finalStatus) fun _ => ?_
  unfold ExperimentRuntime.readReport
  refine Triple.bind (hkept (keeps_onWorld _)) fun _ => ?_
  refine Triple.bind (hkept (Keeps.ofExcept _)) fun detection => ?_
  refine Triple.bind (hkept (Keeps.modify fun s => Json.lookup_update_ne ?_ _)) fun _ => ?_
  · simp [identityFields]
  refine Triple.bind (hkept (keeps_onWorld _)) fun transcripts => Triple.bind (hkept ?_) fun _ => ?_
  · unfold ExperimentRuntime.setTranscript
    cases transcripts.find? (fun lines => !lines.isEmpty) with
    | none => exact Keeps.pure _
    | some transcript => exact keeps_setReport fun _ => Json.lookup_set_ne (by decide) _ _
  refine Triple.bind_get fun s hs => ?_
  have htext : rt.python.str (Json.getD s.report "final_status" (.str "failed")) =
      r.finalStatus.value := by
    rw [Json.getD, hs]
    rfl
  rw [htext]
  unfold ExperimentRuntime.setPrimaryStatus
  refine Triple.bind (Q := fun _ _ => True) Triple.trivial fun _ =>
    Triple.bind (Q := fun _ _ => True) Triple.trivial fun _ => ?_
  exact Triple.modify fun t _ => Json.lookup_set_self ..

/-- **Every run that reaches its `try` block ends it in one of the three ways.** -/
theorem exists_tryEnds {setting : RuntimeSetting} (hsupervises : setting.Supervises rt) {world : σ}
    {p : String × RuntimeControl σ} {s : RunState σ App}
    (hstart : (rt.startRun request).run (RunState.initial rt world) = (.ok p, s)) :
    ∃ exit, TryEnds rt request world exit := by
  rcases hreach : (rt.reachReport request p.1 p.2).run s with ⟨e | q, s₁⟩
  · exact ⟨_, .unreported hstart hreach⟩
  · obtain ⟨x, r, hreturned⟩ := returnedAt_of_reachReport hsupervises hreach
    rcases hleave : (rt.leaveReport request p.1 p.2 q).run s₁ with ⟨e | u, s₂⟩
    · exact ⟨_, .brokenOff hstart hreach hreturned hleave⟩
    · exact ⟨_, .reported hstart hreach hreturned hleave⟩

theorem body_of_raised {s s' : RunState σ App} {e : RuntimeException}
    (h : (rt.reachReport request experimentId control).run s = (.error e, s')) :
    (rt.body request experimentId control).run s = (.error e, s') := by
  rw [body_eq_reachReport, Eff.run_bind, h]

theorem body_of_reached {s s' s'' : RunState σ App} {q : Coordinator σ × Fields}
    {r : Except RuntimeException Unit}
    (h : (rt.reachReport request experimentId control).run s = (.ok q, s'))
    (hleave : (rt.leaveReport request experimentId control q).run s' = (r, s'')) :
    (rt.body request experimentId control).run s = (r, s'') := by
  rw [body_eq_reachReport, Eff.run_bind, h]
  exact hleave

/-- The handlers of the `try` statement put the status of the exception into the report. -/
theorem guarded_error {s s₁ s' : RunState σ App} {e : RuntimeException} {monitoring : Option Json}
    (hbody : (rt.body request experimentId control).run s = (.error e, s₁))
    (hmonitoring : s₁.report.lookup "recovery_monitoring" = monitoring)
    (h : (rt.guarded request experimentId control).run s = (.ok (), s')) :
    s'.report.lookup "final_status" = some (.str e.status) ∧
      s'.report.lookup "recovery_monitoring" = monitoring := by
  obtain ⟨outcome, s₂, hattempt, h⟩ := Eff.run_bind_ok h
  obtain ⟨rfl, rfl⟩ := Prod.mk.inj ((Eff.run_attempt_ok hattempt).symm.trans hbody)
  refine ⟨?_, ?_⟩
  · cases h
    simp [Json.update]
  · have hkey : "recovery_monitoring" ∉ ["error", "final_status"] := by decide
    have hkeeps : Keeps (ofReport (List.lookup "recovery_monitoring"))
        (ExperimentRuntime.handle e : Run σ App Unit) := keeps_handle hkey e
    exact ((hkeeps _ s₂ rfl).1 _ _ h).trans hmonitoring

/-- **What the `try` statement leaves in the report** is said by how its block ends. -/
theorem TryEnds.shown {setting : RuntimeSetting} (hsupervises : setting.Supervises rt) {world : σ}
    {exit : TryExit} (hends : TryEnds rt request world exit) {p : String × RuntimeControl σ}
    {s s' : RunState σ App}
    (hstart : (rt.startRun request).run (RunState.initial rt world) = (.ok p, s))
    (h : (rt.guarded request p.1 p.2).run s = (.ok (), s')) : exit.Shown s'.report := by
  have hsame : ∀ {p' : String × RuntimeControl σ} {t : RunState σ App},
      (rt.startRun request).run (RunState.initial rt world) = (.ok p', t) → p' = p ∧ t = s := by
    intro p' t hstart'
    obtain ⟨hp, ht⟩ := Prod.mk.inj (hstart'.symm.trans hstart)
    exact ⟨Except.ok.inj hp, ht⟩
  cases hends with
  | unreported hstart' hraised =>
      obtain ⟨rfl, rfl⟩ := hsame hstart'
      have hreport := (keeps_reachReport id _ _ rfl).2 _ _ hraised
      obtain ⟨hstatus, hmonitoring⟩ := guarded_error (body_of_raised hraised)
        ((congrArg _ hreport).trans (monitoring_of_start hsupervises hstart)) h
      exact ⟨hstatus, hmonitoring⟩
  | brokenOff hstart' hreached hreturned hraised =>
      obtain ⟨rfl, rfl⟩ := hsame hstart'
      obtain ⟨hstatus, hmonitoring⟩ := guarded_error (body_of_reached hreached hraised)
        ((monitoring_leaveReport hreturned _ trivial).2 _ _ hraised) h
      exact ⟨hstatus, hmonitoring⟩
  | reported hstart' hreached hreturned hleft =>
      obtain ⟨rfl, rfl⟩ := hsame hstart'
      obtain ⟨outcome, s₂, hattempt, h⟩ := Eff.run_bind_ok h
      obtain ⟨rfl, rfl⟩ := Prod.mk.inj
        ((Eff.run_attempt_ok hattempt).symm.trans (body_of_reached hreached hleft))
      cases h
      exact ⟨(status_leaveReport hreturned _ trivial).1 _ _ hleft,
        (monitoring_leaveReport hreturned _ trivial).1 _ _ hleft⟩

/-- The statements after the `try` statement keep the status. -/
theorem conclude_status (status : String) :
    Triple (fun s => s.report.lookup "final_status" = some (.str status))
      (rt.conclude request experimentId)
      (fun result _ => result.report.lookup "final_status" = some (.str status))
      (fun _ _ => True) := by
  have hkept : ∀ {α : Type} {m : Run σ App α}, Keeps (ofReport (List.lookup "final_status")) m →
      Triple (fun s => s.report.lookup "final_status" = some (.str status)) m
        (fun _ s => s.report.lookup "final_status" = some (.str status)) (fun _ _ => True) :=
    fun hm => (hm _).weaken (fun _ h => h) (fun _ _ h => h) fun _ _ _ => trivial
  unfold conclude
  refine Triple.bind_get fun s hs => ?_
  have htext : rt.python.str (Json.getD s.report "final_status" (.str s.primaryStatus)) =
      status := by
    rw [Json.getD, hs]
    rfl
  rw [htext]
  refine Triple.bind (Q := fun _ _ => True) Triple.trivial fun _ => ?_
  unfold finish fillReport
  simp only [bind_assoc]
  refine Triple.bind (Q := fun _ _ => True) Triple.trivial fun detection => ?_
  refine Triple.bind (Q := fun _ s => s.report.lookup "final_status" = some (.str status))
    (Triple.modify fun t _ => ?_) fun _ => ?_
  · simp [Json.update, identityFields, Json.lookup_set_ne]
  refine Triple.bind (hkept ?_) fun _ => Triple.bind (hkept (keeps_emit rt experimentId _ _))
    fun _ => Triple.bind (hkept ?_) fun _ => Triple.bind_get fun t ht => ?_
  · unfold evaluateRecovery
    refine Keeps.when (Keeps.bind (keeps_emit rt experimentId _ _) fun _ => Keeps.ite ?_ ?_)
    · exact keeps_setReport fun _ => Json.lookup_set_ne (by decide) _ _
    · unfold attachRecoveryEvaluation
      refine Keeps.bind Keeps.get fun _ => Keeps.bind (Keeps.ofExcept _) fun _ => ?_
      exact keeps_setReport fun _ => Json.lookup_set_ne (by decide) _ _
  · unfold attachEvents
    refine Keeps.bind Keeps.get fun t => Keeps.bind ?_ fun _ => ?_
    · exact keeps_setReport fun _ => Json.lookup_set_ne (by decide) _ _
    · cases t.hub.artifactStore.bind ArtifactStore.paths with
      | none => exact Keeps.pure _
      | some paths => exact keeps_setReport fun _ => Json.lookup_set_ne (by decide) _ _
  refine Triple.bind (Q := fun _ _ => True) Triple.trivial fun _ =>
    Triple.bind (Q := fun _ _ => True) Triple.trivial fun session =>
      Triple.bind (Q := fun _ _ => True) Triple.trivial fun _ => ?_
  refine Triple.ofExcept (fun result _ hr _ => ?_) fun _ _ _ _ => trivial
  rw [makeResult_report experimentId hr]
  exact ht

/-- **What the result of a run reports** is said by how its `try` block ends. -/
theorem run_shown {setting : RuntimeSetting} (hsupervises : setting.Supervises rt) {world : σ}
    {result : ExperimentRuntimeResult} {s : RunState σ App}
    (h : (rt.run request).run (RunState.initial rt world) = (.ok result, s)) :
    (∃ exit, TryEnds rt request world exit) ∧
      ∀ exit, TryEnds rt request world exit → exit.Shown result.report := by
  rw [run_eq_startRun] at h
  obtain ⟨p, s₁, hstart, h⟩ := Eff.run_bind_ok h
  obtain ⟨_, s₂, hguarded, h⟩ := Eff.run_bind_ok h
  obtain ⟨_, s₃, hfinally, h⟩ := Eff.run_bind_ok h
  refine ⟨exists_tryEnds hsupervises hstart, fun exit hends => ?_⟩
  have hshown := hends.shown hsupervises hstart hguarded
  have hfinal : ∀ {key : String}, key ∉ ["cleanup_error", "human_review_required"] →
      s₃.report.lookup key = s₂.report.lookup key := by
    intro key hkey
    refine (keeps_finallyBlock rt request p.1 (fun report error => ?_) _ s₂ rfl).1 _ _ hfinally
    refine Json.lookup_update_ne (fun e he heq => hkey ?_) _
    rw [heq]
    exact List.mem_map_of_mem (f := Prod.fst) he
  refine ⟨?_, ?_⟩
  · exact (conclude_status _ s₃ ((hfinal (by decide)).trans hshown.status)).1 _ _ h
  · exact (rt.conclude_entry request p.1 (by decide) (by decide) _ s₃
      ((hfinal (by decide)).trans hshown.monitoring)).1 _ _ h

end Runs

/-! ### The sessions that agree -/

/-- A report whose end is shown has a session that agrees with it iff the end does. -/
theorem agrees_of_shown {py : Python} {lower : String → String} {now : String} {report : Fields}
    {session : ExperimentSession} (hsession : normalize py lower now report = .ok session)
    {exit : TryExit} (hmonitored : exit.Monitored) (hshown : exit.Shown report) :
    session.Agrees ↔ exit.Agrees := by
  have hstatus : finalStatus py report = exit.status := by
    cases exit with
    | unreported e =>
        obtain ⟨hstrip, hne⟩ := strip_broken (RuntimeSetting.Supervises.status_mem e)
        exact finalStatus_of_lookup hshown.status hstrip hne
    | brokenOff x r e =>
        obtain ⟨hstrip, hne⟩ := strip_broken (RuntimeSetting.Supervises.status_mem e)
        exact finalStatus_of_lookup hshown.status hstrip hne
    | reported x r => exact finalStatus_of_lookup hshown.status (strip_value _) (value_ne _)
  rw [agrees_iff_consistent hsession, hstatus, recoveryOf_of_lookup hshown.monitoring]
  exact exit.consistent_iff hmonitored

/-- **Which runs have a session whose last stage agrees with their status.**  A coordinator's report
has one unless its exit overrules a successful assessment.  The report of an experiment has one
iff the end of its `try` block does. -/
theorem resultStage_agrees_iff {py : Python} {lower : String → String} {now : String} :
    (∀ (τ : Type) (c : Supervision.Coordinator τ) ns deployment metric threshold env x r s,
      (c.runExit ns deployment metric threshold).run (.start env) = (.ok (x, r), s) →
      c.run ns deployment metric threshold = Prod.snd <$> c.runExit ns deployment metric threshold ∧
      ∀ report session, Shows report r → normalize py lower now report = .ok session →
        (session.Agrees ↔ ¬Overruled x r)) ∧
    (∀ (σ App : Type) (setting : RuntimeSetting) (rt : ExperimentRuntime σ App),
      setting.Supervises rt → ∀ request world result s session,
      (rt.run request).run (RunState.initial rt world) = (.ok result, s) →
      normalize py lower now result.report = .ok session →
      (∃ exit, TryEnds rt request world exit) ∧
        ∀ exit, TryEnds rt request world exit → (session.Agrees ↔ exit.Agrees)) := by
  refine ⟨fun τ c ns deployment metric threshold env x r s hrun => ⟨c.run_eq_runExit _ _ _ _,
    fun report session hshows hsession => ?_⟩, fun σ App setting rt hsupervises request world result
      s session hrun hsession => ?_⟩
  · have hshown : (TryExit.reported x r).Shown report :=
      ⟨hshows.finalStatus, hshows.figures.monitoring⟩
    have hmonitored : (TryExit.reported x r).Monitored := c.runExit_monitored hrun
    exact agrees_of_shown hsession hmonitored hshown
  · obtain ⟨hexists, hshown⟩ := run_shown hsupervises hrun
    exact ⟨hexists, fun exit hends => agrees_of_shown hsession hends.monitored (hshown exit hends)⟩

/-! ### A recovery that stands, and one that is cancelled -/

/-- A runtime of `webSetting` around a coordinator, in which nothing fails. -/
def webRuntime (coordinator : Coordinator σ) : ExperimentRuntime σ Unit :=
  { runtimeAround ⟨pure ⟨true, none⟩, fun _ => pure (some ()), fun _ => ⟨true, none⟩,
      fun _ => pure (.mapping [("valid", .bool true)])⟩ (fun _ => pure ()) with
    configuration := webConfiguration
    coordinatorFactory := fun _ => pure coordinator
    advise := fun request => Eff.ofExcept (webSetting.advice request)
    evaluate := fun report =>
      (RecoveryEvaluator.evaluate Python.ascii report).map RecoveryEvaluation.toDict
    normalizeSession := fun report =>
      (Session.normalize Python.ascii id webSetting.now report).map ExperimentSession.toDict }

theorem supervises_webRuntime {coordinator : Coordinator σ} (h : Supervised coordinator) :
    webSetting.Supervises (webRuntime coordinator) where
  advise := rfl
  supervised request w other w' hfactory := by
    obtain rfl : coordinator = other := Except.ok.inj (congrArg Prod.fst hfactory)
    exact h

/-- The restart recovers the service. -/
def recoveringRuntime : ExperimentRuntime Unit Unit :=
  webRuntime (coordinatorOf Supervision.Coordinator.restartRecovers ())

/-- A coordinator during whose run the experiment is cancelled. -/
def cancelledCoordinator : Coordinator Bool :=
  { (coordinatorOf Supervision.Coordinator.restartRecovers () : Coordinator Bool) with
    run := fun settings ns deployment metric threshold => do
      Hub.onWorld (Eff.modify fun _ => true)
      (coordinatorOf Supervision.Coordinator.restartRecovers ()).run settings ns deployment metric
        threshold }

theorem supervised_cancelled : Supervised cancelledCoordinator := by
  obtain ⟨mode, hmode, hruns⟩ := supervised_coordinatorOf (σ := Bool)
    Supervision.Coordinator.restartRecovers ()
  refine ⟨mode, hmode, fun settings ns deployment metric threshold hub report hub' hrun => ?_⟩
  obtain ⟨_, hub₁, -, hrun⟩ := Eff.run_bind_ok hrun
  exact hruns _ _ _ _ _ _ _ _ hrun

/-- The runtime around it. -/
def cancelledRuntime : ExperimentRuntime Bool Unit :=
  { webRuntime cancelledCoordinator with cancelled := some Eff.get }

theorem supervises_cancelled : webSetting.Supervises cancelledRuntime where
  advise := rfl
  supervised := (supervises_webRuntime supervised_cancelled).supervised

/-- The last stage and the status of the session of a result, and whether the report monitors. -/
def stageAndStatus (r : Except RuntimeException ExperimentRuntimeResult) :
    Option (Option String × String × Bool) :=
  match r with
  | .error _ => none
  | .ok result =>
    match Session.normalize Python.ascii id "" result.report with
    | .error _ => none
    | .ok session => some (session.resultStage, session.status, !(recoveryOf result.report).isEmpty)

theorem exists_session_of_stageAndStatus {r : Except RuntimeException ExperimentRuntimeResult}
    {stage : Option String} {status : String} {monitored : Bool}
    (h : stageAndStatus r = some (stage, status, monitored)) :
    ∃ result session, r = .ok result ∧
      Session.normalize Python.ascii id "" result.report = .ok session ∧
      session.resultStage = stage ∧ session.status = status ∧
      (!(recoveryOf result.report).isEmpty) = monitored := by
  rcases r with e | result
  · cases h
  · unfold stageAndStatus at h
    rcases hsession : Session.normalize Python.ascii id "" result.report with e | session
    · simp only [hsession] at h
      cases h
    · simp only [hsession, Option.some.injEq, Prod.mk.injEq] at h
      exact ⟨result, session, rfl, hsession, h⟩

theorem stageAndStatus_recovering :
    stageAndStatus ((recoveringRuntime.run webRequest).run
      (RunState.initial recoveringRuntime ())).1 = some (some "completed", "recovered", true) := by
  decide +kernel

theorem stageAndStatus_cancelled :
    stageAndStatus ((cancelledRuntime.run webRequest).run
      (RunState.initial cancelledRuntime false)).1 = some (some "completed", "cancelled", true) := by
  decide +kernel

/-- The law at the run that recovers. -/
theorem resultStage_agrees_recovering : ∃ result s session,
    (recoveringRuntime.run webRequest).run (RunState.initial recoveringRuntime ()) =
      (.ok result, s) ∧
    normalize Python.ascii id "" result.report = .ok session ∧
    recoveryOf result.report ≠ [] ∧ session.resultStage = some "completed" ∧
    session.status = "recovered" ∧ (∃ exit, TryEnds recoveringRuntime webRequest () exit) ∧
    ∀ exit, TryEnds recoveringRuntime webRequest () exit → (session.Agrees ↔ exit.Agrees) := by
  obtain ⟨result, session, hresult, hsession, hstage, hstatus, hmonitored⟩ :=
    exists_session_of_stageAndStatus stageAndStatus_recovering
  have hne : recoveryOf result.report ≠ [] := by
    intro hnil
    rw [hnil] at hmonitored
    cases hmonitored
  obtain ⟨s, hrun⟩ : ∃ s, (recoveringRuntime.run webRequest).run
      (RunState.initial recoveringRuntime ()) = (.ok result, s) := ⟨_, Prod.ext hresult rfl⟩
  exact ⟨result, s, session, hrun, hsession, hne, hstage, hstatus,
    resultStage_agrees_iff.2 Unit Unit webSetting _
      (supervises_webRuntime (supervised_coordinatorOf _ _)) _ _ _ _ _ hrun hsession⟩

/-- **A cancelled run has a session whose last stage is completed.** -/
theorem cancelled_not_agrees : ¬∀ (setting : RuntimeSetting) (rt : ExperimentRuntime Bool Unit),
    setting.Supervises rt → ∀ request world result s,
      (rt.run request).run (RunState.initial rt world) = (.ok result, s) → ∀ session,
        Session.normalize Python.ascii id "" result.report = .ok session → session.Agrees := by
  intro h
  obtain ⟨result, session, hresult, hsession, hstage, hstatus, -⟩ :=
    exists_session_of_stageAndStatus stageAndStatus_cancelled
  have hagrees := h webSetting cancelledRuntime supervises_cancelled webRequest false result
    ((cancelledRuntime.run webRequest).run (RunState.initial cancelledRuntime false)).2
    (Prod.ext hresult rfl) session hsession
  have hkept := hagrees.preserved (by rw [hstatus]; decide)
  rw [hstage, hstatus] at hkept
  exact absurd hkept (by decide)

end Experiment
end AiopsK8s
