/-
# The evaluation of a run

Which reports `ExperimentRuntime.run` hands to `attach_recovery_evaluation`, and what they are
rewarded with.  The coordinator is a `MutualSupervisionCoordinator`; everything else a run calls
is arbitrary, the event sink included.

A run that is blocked after the coordinator returned keeps the coordinator's report under the
status `blocked`, and `_outcome` does not count `blocked` among the failures: such a report is
rewarded where it says that the service recovered, or where nothing was measured and the other
components outweigh the missing outcome (`Overpaid`).  `just_iff` is that no other report of a run
is rewarded against its status.
-/

import AiopsK8s.Experiment.Advice
import AiopsK8s.Experiment.Keeping
import AiopsK8s.Experiment.Rewards
import AiopsK8s.Supervision.Measured

namespace AiopsK8s
namespace Experiment

open Effect Run ExperimentRuntime RecoveryEvaluator
open Supervision (FinalStatus ExecutionMode)

variable {σ App : Type} {α β γ : Type}

/-! ### The report of a coordinator as a mapping -/

/-- The `recovery_monitoring` of a report. -/
def monitoringFields : Supervision.RecoveryMonitoring → Fields
  | .empty => []
  | .assessed a =>
    [("recovery_success", .bool a.recoverySuccess),
      ("metric_improvement", .number a.metricImprovement),
      ("remaining_problem", .str a.remainingProblem),
      ("recovery_confidence", .number a.recoveryConfidence),
      ("replanning_required", .bool a.replanningRequired)]
  | .notMeasured reason =>
    [("status", .str "not_measured"), ("recovery_success", .null), ("recovery_seconds", .null),
      ("reason", .str reason)]

/-- `asdict(execution)`. -/
def executionFields (r : Supervision.CommandResult) : Fields :=
  [("command", .str r.command), ("mode", .str r.mode), ("valid", .bool r.valid),
    ("stdout", .str r.stdout), ("stderr", .str r.stderr),
    ("metadata", .obj (r.metadata.map fun (key, value) => (key, .str value)))]

/-- The `safety_validation` of a report. -/
def safetyFields (v : Supervision.SafetyValidation) : Fields :=
  [("valid", .bool v.valid), ("command", .str v.command), ("stderr", .str v.stderr)]

/-- The keys the evaluation of a report depends on, but its status. -/
def figureKeys : List String :=
  ["recovery_monitoring", "execution_result", "safety_validation", "replanning_attempts",
    "executed_actions", "actual_steps", "recovery_budget_seconds", "protocol_config", "protocol",
    "evidence", "diagnosis"]

/-- The figures of a report. -/
def figuresOf (report : Fields) : List (Option Json) := figureKeys.map (report.lookup ·)

/-- The mapping has the figures of a report of the coordinator.  Its evidence and its diagnosis
may be any. -/
structure HasFigures (report : Fields) (r : Supervision.Report) : Prop where
  monitoring : report.lookup "recovery_monitoring" =
    some (.obj (monitoringFields r.recoveryMonitoring))
  execution : report.lookup "execution_result" = some (.obj (executionFields r.executionResult))
  safety : report.lookup "safety_validation" = some (.obj (safetyFields r.safetyValidation))
  replans : HasLength report "replanning_attempts" r.replanningAttempts.length
  actions : HasLength report "executed_actions" r.executedActions.length
  absent : ∀ key ∈ ["actual_steps", "recovery_budget_seconds", "protocol_config", "protocol"],
    report.lookup key = none

/-- The mapping is a report of the coordinator, as far as the run and its evaluation read it. -/
structure Shows (report : Fields) (r : Supervision.Report) : Prop where
  figures : HasFigures report r
  finalStatus : report.lookup "final_status" = some (.str r.finalStatus.value)

/-- **The coordinator is a `MutualSupervisionCoordinator`** in its mode: whatever its `run`
returns is a report that a run of such a coordinator returned. -/
def Supervised (coordinator : Coordinator σ) : Prop :=
  ∃ mode : ExecutionMode, coordinator.mode = some mode.value ∧
    ∀ settings ns deployment metric threshold hub report hub',
      (coordinator.run settings ns deployment metric threshold).run hub = (.ok report, hub') →
        ∃ (τ : Type) (c : Supervision.Coordinator τ) (env : τ) (r : Supervision.Report)
          (s : Supervision.RunState τ), c.mode = mode ∧
            (c.run ns deployment metric threshold).run (.start env) = (.ok r, s) ∧ Shows report r

/-- A runtime of the setting whose coordinators are `MutualSupervisionCoordinator`s. -/
structure RuntimeSetting.Supervises (setting : RuntimeSetting) (rt : ExperimentRuntime σ App) :
    Prop where
  advise : rt.advise = fun request => Eff.ofExcept (setting.advice request)
  supervised : ∀ request w coordinator w',
    (rt.coordinatorFactory request).run w = (.ok coordinator, w') → Supervised coordinator

/-! ### The reports that are evaluated -/

namespace ExperimentRuntime

variable (rt : ExperimentRuntime σ App) (request : ExperimentRuntimeRequest)

/-- `run` up to the call of `attach_recovery_evaluation`. -/
def reachEvaluation : Run σ App (String × String) := do
  let experimentId ← onWorld rt.experimentId
  let report ← Eff.ofExcept (rt.baseReport request experimentId)
  let advice ← onWorld (rt.advise request)
  Eff.modify fun s => { s with report := Json.update report advice }
  let start ← onWorld rt.clock
  let control : RuntimeControl σ :=
    ⟨rt.cancelled, some (start + rt.configuration.experimentSeconds), rt.clock⟩
  rt.guarded request experimentId control
  rt.finallyBlock request experimentId
  let s ← Eff.get
  Eff.when ((Json.get s.report "cleanup_error").truthy = true)
    (setReport "cleanup_status" (.str "cleanup_failed"))
  let status := rt.python.str (Json.getD s.report "final_status" (.str s.primaryStatus))
  let detection ← Eff.ofExcept (copyDetection request.detectionContext)
  Eff.modify fun s =>
    { s with
      report := Json.update s.report (identityFields request experimentId detection ++
        [("final_status", .str status), ("cleanup", .obj s.cleanup)]) }
  rt.emit experimentId .analyzing "evaluating recovery outcome with RecoveryEvaluatorAgent"
  return (experimentId, status)

/-- `run` from the call of `attach_recovery_evaluation` on. -/
def leaveEvaluation (experimentId status : String) : Run σ App ExperimentRuntimeResult := do
  rt.attachRecoveryEvaluation
  rt.emit experimentId .completed ("experiment " ++ status)
  attachEvents
  let s ← Eff.get
  onHub (bridgeFinalize experimentId s.report)
  let session ← Eff.ofExcept (rt.normalizeSession s.report)
  rt.putSession session
  Eff.ofExcept (makeResult experimentId status s.report session s.hub.events s.cleanup)

/-- **A run that evaluates its report is one that reaches the evaluation first.** -/
theorem run_eq_evaluation (hsource : request.incidentSource = "chaos_mesh")
    (hmode : request.mode ≠ .dryRun) : rt.run request =
      (rt.reachEvaluation request >>= fun p => rt.leaveEvaluation p.1 p.2) := by
  unfold ExperimentRuntime.run supervised conclude finish fillReport evaluateRecovery
    reachEvaluation leaveEvaluation
  simp only [bind_assoc, pure_bind, Eff.when, if_pos hsource, if_neg hmode]

/-- The run of some environment evaluates the report. -/
def Evaluates (report : Fields) : Prop :=
  ∃ world p s, (rt.reachEvaluation request).run (RunState.initial rt world) = (.ok p, s) ∧
    s.report = report

end ExperimentRuntime
/-! ### Where the figures of a report come from -/

/-- What a report of the coordinator owes to its status. -/
structure Delivered (r : Supervision.Report) : Prop where
  measured : Supervision.Measured r
  recovered : r.finalStatus.isRecovered = true →
    ∃ a, r.recoveryMonitoring = .assessed a ∧ a.recoverySuccess = true

/-- The figures of the report that a run begins with. -/
structure Provisional (report : Fields) : Prop where
  empty : ∀ key ∈ ["recovery_monitoring", "execution_result", "safety_validation", "evidence",
    "diagnosis"], report.lookup key = some (.obj [])
  absent : ∀ key ∈ ["replanning_attempts", "executed_actions", "actual_steps",
    "recovery_budget_seconds", "protocol_config", "protocol"], report.lookup key = none

/-- The figures of a report in a run: those it began with, or those of the coordinator. -/
def Standing (report : Fields) : Prop :=
  Provisional report ∨ ∃ r, Delivered r ∧ HasFigures report r

/-- The statuses that the `except` clauses give. -/
def brokenStatuses : List String := ["blocked", "cancelled", "interrupted", "failed"]

/-- **A report of a run after its `try` statement**: it has the status of the coordinator's
report, or that of an exception. -/
inductive Concluded (report : Fields) : Prop where
  | broken (status : String) (hstatus : status ∈ brokenStatuses)
      (hfinal : report.lookup "final_status" = some (.str status)) (hstanding : Standing report)
  | finished (r : Supervision.Report) (hr : Delivered r) (hshows : Shows report r)

section Figures

variable {report report' : Fields}

theorem lookup_of_figures (h : figuresOf report' = figuresOf report) {key : String}
    (hkey : key ∈ figureKeys) : report'.lookup key = report.lookup key :=
  List.map_inj_left.1 h key hkey

theorem HasFigures.of_figures {r : Supervision.Report} (h : figuresOf report' = figuresOf report)
    (hr : HasFigures report r) : HasFigures report' r where
  monitoring := (lookup_of_figures h (by decide)).trans hr.monitoring
  execution := (lookup_of_figures h (by decide)).trans hr.execution
  safety := (lookup_of_figures h (by decide)).trans hr.safety
  replans := by
    obtain ⟨items, hitems, hlength⟩ := hr.replans
    exact ⟨items, (lookup_of_figures h (by decide)).trans hitems, hlength⟩
  actions := by
    obtain ⟨items, hitems, hlength⟩ := hr.actions
    exact ⟨items, (lookup_of_figures h (by decide)).trans hitems, hlength⟩
  absent key hkey := by
    refine (lookup_of_figures h ?_).trans (hr.absent key hkey)
    revert key
    decide

theorem Provisional.of_figures (h : figuresOf report' = figuresOf report)
    (hp : Provisional report) : Provisional report' where
  empty key hkey := by
    refine (lookup_of_figures h ?_).trans (hp.empty key hkey)
    revert key
    decide
  absent key hkey := by
    refine (lookup_of_figures h ?_).trans (hp.absent key hkey)
    revert key
    decide

theorem Standing.of_figures (h : figuresOf report' = figuresOf report) (hs : Standing report) :
    Standing report' := by
  rcases hs with hp | ⟨r, hr, hfigures⟩
  · exact .inl (hp.of_figures h)
  · exact .inr ⟨r, hr, hfigures.of_figures h⟩

/-- What a concluded report is depends on its figures and its status. -/
theorem Concluded.of_figures (h : figuresOf report' = figuresOf report)
    (hstatus : report'.lookup "final_status" = report.lookup "final_status")
    (hc : Concluded report) : Concluded report' := by
  cases hc with
  | broken status hbroken hfinal hstanding =>
      exact .broken status hbroken (hstatus.trans hfinal) (hstanding.of_figures h)
  | finished r hr hshows =>
      exact .finished r hr ⟨hshows.figures.of_figures h, hstatus.trans hshows.finalStatus⟩

/-- Entries under other keys leave the figures alone. -/
theorem figuresOf_update {entries : Fields} (h : ∀ e ∈ entries, e.1 ∉ figureKeys) :
    figuresOf (Json.update report entries) = figuresOf report := by
  refine List.map_inj_left.2 fun key hkey => Json.lookup_update_ne (fun e he heq => ?_) report
  exact h e he (heq ▸ hkey)

theorem figuresOf_set {key : String} (h : key ∉ figureKeys) (value : Json) :
    figuresOf (Json.set report key value) = figuresOf report :=
  List.map_inj_left.2 fun other hother => by
    have hne : other ≠ key := fun heq => h (heq ▸ hother)
    exact Json.lookup_set_ne hne report value

end Figures

/-! ### The reports of a run -/

namespace RuntimeSetting.Supervises

variable {setting : RuntimeSetting} {rt : ExperimentRuntime σ App}
variable {request : ExperimentRuntimeRequest} {experimentId : String}

/-- A computation before the coordinator returns. -/
theorem provisional {m : Run σ App α} (h : Keeps (ofReport figuresOf) m) :
    Triple (fun s => Provisional s.report) m (fun _ s => Provisional s.report)
      (fun _ s => Standing s.report) := by
  intro s hs
  refine ⟨fun a t ht => ?_, fun e t ht => .inl ?_⟩
  · exact hs.of_figures ((h (figuresOf s.report) s rfl).1 a t ht)
  · exact hs.of_figures ((h (figuresOf s.report) s rfl).2 e t ht)

/-- A mode is known by its text. -/
theorem mode_of_value {mode : ExecutionMode} {value : String}
    (h : executionMode value = some mode) : value = mode.value := by
  have := List.find?_some h
  simpa using (by simpa using this : mode.value = value).symm

/-- **What a supervised coordinator returns** in the mode of a request that is no dry run. -/
theorem delivered {coordinator : Coordinator σ} (hsupervised : Supervised coordinator)
    (hmode : request.mode ≠ .dryRun)
    (hvalid : validateCoordinatorMode request coordinator = .ok ()) {settings : CoordinatorSettings σ}
    {ns deployment metric : String} {threshold : ℚ} {hub hub' : Hub σ} {report : Fields}
    (h : (coordinator.run settings ns deployment metric threshold).run hub = (.ok report, hub')) :
    ∃ r, Delivered r ∧ Shows report r := by
  obtain ⟨mode, hvalue, hruns⟩ := hsupervised
  have hsame : mode = request.mode := by
    unfold validateCoordinatorMode at hvalid
    rw [hvalue] at hvalid
    dsimp only at hvalid
    split at hvalid
    · cases hvalid
    · rename_i mode' hmode'
      obtain ⟨_, hreject, -⟩ := bind_eq_ok hvalid
      have hequal : mode' = request.mode := by
        by_contra hne
        rw [rejectIf, if_pos hne] at hreject
        cases hreject
      have htext := mode_of_value hmode'
      rw [← hequal]
      cases mode <;> cases mode' <;> first | rfl | simp [ExecutionMode.value] at htext
  obtain ⟨τ, c, env, r, s, hcmode, hrun, hshows⟩ := hruns _ _ _ _ _ _ _ _ h
  have hcoordinator : c.mode ≠ .dryRun := by
    rw [hcmode, hsame]
    exact hmode
  refine ⟨r, ⟨c.run_measured hcoordinator hrun, fun hrecovered => ?_⟩, hshows⟩
  exact ((c.run_lawful _ _ _ _ env hrun).1.recovered hrecovered).2.1

/-- Reading the coordinator's report keeps its figures and its status. -/
theorem readReport (control : RuntimeControl σ) (coordinator : Coordinator σ)
    {r : Supervision.Report} (hr : Delivered r) :
    Triple (fun s => Shows s.report r) (rt.readReport request experimentId control coordinator)
      (fun _ s => Shows s.report r) (fun _ s => Standing s.report) := by
  have hkept : ∀ {α : Type} {m : Run σ App α},
      Keeps (ofReport fun report => (figuresOf report, report.lookup "final_status")) m →
      Triple (fun s => Shows s.report r) m (fun _ s => Shows s.report r)
        (fun _ s => Standing s.report) := by
    intro α m h s hs
    have hshows : ∀ t : RunState σ App, (figuresOf t.report, t.report.lookup "final_status") =
        (figuresOf s.report, s.report.lookup "final_status") → Shows t.report r := fun t ht =>
      ⟨hs.figures.of_figures (congrArg Prod.fst ht), (congrArg Prod.snd ht).trans hs.finalStatus⟩
    refine ⟨fun a t ht => hshows t ((h _ s rfl).1 a t ht), fun e t ht => ?_⟩
    exact .inr ⟨r, hr, (hshows t ((h _ s rfl).2 e t ht)).figures⟩
  have hset : ∀ (key : String) (value : Json), key ∉ figureKeys → key ≠ "final_status" →
      ∀ report : Fields, (figuresOf (Json.set report key value),
        (Json.set report key value).lookup "final_status") =
          (figuresOf report, report.lookup "final_status") := by
    intro key value hkey hfinal report
    rw [figuresOf_set hkey, Json.lookup_set_ne (Ne.symm hfinal)]
  unfold ExperimentRuntime.readReport
  refine Triple.bind (hkept (keeps_onWorld _)) fun _ => ?_
  refine Triple.bind (hkept (Keeps.ofExcept _)) fun detection => ?_
  refine Triple.bind (hkept (Keeps.modify fun s => ?_)) fun _ => ?_
  · show (figuresOf (Json.update s.report _), (Json.update s.report _).lookup "final_status") =
      (figuresOf s.report, s.report.lookup "final_status")
    rw [figuresOf_update (by simp [identityFields, figureKeys]),
      Json.lookup_update_ne (by simp [identityFields])]
  refine Triple.bind (hkept (keeps_onWorld _)) fun transcripts => ?_
  refine Triple.bind (hkept ?_) fun _ => ?_
  · unfold ExperimentRuntime.setTranscript
    cases transcripts.find? (fun lines => !lines.isEmpty) with
    | none => exact Keeps.pure _
    | some transcript => exact keeps_setReport (hset _ _ (by decide) (by decide))
  refine Triple.bind_get fun s hs => ?_
  have hstatus : rt.python.str (Json.getD s.report "final_status" (.str "failed")) =
      r.finalStatus.value := by
    rw [Json.getD, hs.finalStatus]
    rfl
  rw [hstatus]
  unfold ExperimentRuntime.setPrimaryStatus
  refine Triple.bind (Triple.weaken (hkept (Keeps.modify fun _ => rfl)) (fun t ht => ht ▸ hs)
    (fun _ _ h => h) fun _ _ h => h) fun _ => ?_
  refine Triple.bind (hkept (keeps_emitReportedStages rt experimentId _)) fun _ => ?_
  refine Triple.modify fun t ht => ⟨ht.figures.of_figures ?_, Json.lookup_set_self ..⟩
  exact figuresOf_set (by decide) _

/-- The part that runs the coordinator. -/
theorem runCoordinator (control : RuntimeControl σ) {coordinator : Coordinator σ}
    (hsupervised : Supervised coordinator) (hmode : request.mode ≠ .dryRun)
    (hvalid : validateCoordinatorMode request coordinator = .ok ())
    (timeouts : List (String × ℚ)) :
    Triple (fun s => Provisional s.report)
      (rt.runCoordinator request experimentId control coordinator timeouts)
      (fun _ s => ∃ r, Delivered r ∧ Shows s.report r) (fun _ s => Standing s.report) := by
  unfold ExperimentRuntime.runCoordinator
  refine Triple.bind (provisional (keeps_emit rt experimentId _ _)) fun _ => ?_
  refine Triple.bind (provisional (keeps_emit rt experimentId _ _)) fun _ => ?_
  refine Triple.bind (provisional (keeps_attachEventStore rt coordinator)) fun _ => ?_
  refine Triple.bind (Q := fun report s => Provisional s.report ∧ ∃ r, Delivered r ∧ Shows report r)
    ?_ fun report => ?_
  · intro s hs
    have hkeeps : Triple _ _ _ _ := provisional (keeps_onHub (coordinator.run
      ⟨control, timeouts, coordinator.hasLockFlag⟩ request.ns request.deployment request.metric
      request.threshold) : Keeps (ofReport figuresOf) (Run.onHub _ : Run σ App Fields))
    refine ⟨fun report t ht => ⟨(hkeeps s hs).1 report t ht, ?_⟩, (hkeeps s hs).2⟩
    rcases hrun : (coordinator.run ⟨control, timeouts, coordinator.hasLockFlag⟩ request.ns
      request.deployment request.metric request.threshold).run s.hub with ⟨result, hub'⟩
    have hresult : result = .ok report := by
      have := congrArg Prod.fst ht
      rwa [Run.onHub, Eff.run_zoom, hrun] at this
    rw [hresult] at hrun
    exact delivered hsupervised hmode hvalid hrun
  · refine Triple.bind (Q := fun _ s => ∃ r, Delivered r ∧ Shows s.report r)
      (Triple.modify fun s hs => hs.2) fun _ s hs => ?_
    obtain ⟨r, hr, hshows⟩ := hs
    have hread : Triple _ (rt.readReport request experimentId control coordinator) _ _ :=
      readReport control coordinator hr
    obtain ⟨hok, herror⟩ := hread s hshows
    exact ⟨fun a t ht => ⟨r, hr, hok a t ht⟩, herror⟩

/-- **The `try` block** ends with the coordinator's report, or raises with figures that stand. -/
theorem body (h : setting.Supervises rt) (hmode : request.mode ≠ .dryRun)
    (control : RuntimeControl σ) :
    Triple (fun s => Provisional s.report) (rt.body request experimentId control)
      (fun _ s => ∃ r, Delivered r ∧ Shows s.report r) (fun _ s => Standing s.report) := by
  unfold ExperimentRuntime.body
  refine Triple.bind (provisional (Keeps.ofExcept _)) fun _ => ?_
  refine Triple.bind (Q := fun coordinator s => Provisional s.report ∧ Supervised coordinator) ?_
    fun coordinator => ?_
  · intro s hs
    have hkeeps : Triple _ _ _ _ := provisional (keeps_onWorld (rt.coordinatorFactory request) :
      Keeps (ofReport figuresOf) (Run.onWorld _ : Run σ App (Coordinator σ)))
    refine ⟨fun coordinator t ht => ⟨(hkeeps s hs).1 coordinator t ht, ?_⟩, (hkeeps s hs).2⟩
    rcases hrun : (rt.coordinatorFactory request).run s.hub.world with ⟨result, w'⟩
    have hresult : result = .ok coordinator := by
      have := congrArg Prod.fst ht
      rwa [Run.onWorld, Run.onHub, Eff.run_zoom, Hub.onWorld, Eff.run_zoom, hrun] at this
    rw [hresult] at hrun
    exact h.supervised _ _ _ _ hrun
  by_cases hsupervised : Supervised coordinator
  swap
  · exact fun s hs => absurd hs.2 hsupervised
  refine Triple.bind (Triple.weaken (provisional (keeps_onWorld _)) (fun s hs => hs.1)
    (fun _ _ h => h) fun _ _ h => h) fun timeouts => ?_
  by_cases hvalid : validateCoordinatorMode request coordinator = .ok ()
  swap
  · refine Triple.bind (Q := fun _ _ => False) (Triple.ofExcept (fun a _ ha _ => hvalid ?_)
      fun _ _ _ hs => .inl hs) fun _ s hs => hs.elim
    cases a
    exact ha
  refine Triple.bind (provisional (Keeps.ofExcept _)) fun _ => ?_
  refine Triple.bind (provisional (keeps_onWorld _)) fun _ => ?_
  refine Triple.bind (provisional (keeps_enterLock rt request)) fun _ => ?_
  refine Triple.bind (provisional (keeps_emit rt experimentId _ _)) fun _ => ?_
  refine Triple.bind (provisional (Keeps.when (keeps_injectFault rt request experimentId control)))
    fun _ => ?_
  refine Triple.bind (provisional (keeps_onWorld _)) fun _ => ?_
  exact runCoordinator control hsupervised hmode hvalid timeouts

theorem status_mem (e : RuntimeException) : e.status ∈ brokenStatuses := by
  cases e <;> simp [RuntimeException.status, brokenStatuses]

/-- The `try` statement concludes the report. -/
theorem guarded (h : setting.Supervises rt) (hmode : request.mode ≠ .dryRun)
    (control : RuntimeControl σ) :
    Triple (fun s => Provisional s.report) (rt.guarded request experimentId control)
      (fun _ s => Concluded s.report) (fun _ _ => False) := by
  unfold ExperimentRuntime.guarded
  refine Triple.bind (Triple.attempt (h.body hmode control) fun _ _ h _ => nomatch h) ?_
  intro outcome
  cases outcome with
  | ok u =>
      refine Triple.pure fun s hs => ?_
      obtain ⟨r, hr, hshows⟩ := hs
      exact .finished r hr hshows
  | error e =>
      refine Triple.modify fun s hs => .broken e.status (status_mem e) ?_ (hs.2.of_figures ?_)
      · simp [Json.update]
      · exact figuresOf_update (by simp [figureKeys])

/-- What a concluded report is stays under other entries. -/
theorem concluded {m : Run σ App α}
    (h : Keeps (ofReport fun report => (figuresOf report, report.lookup "final_status")) m) :
    Triple (fun s => Concluded s.report) m (fun _ s => Concluded s.report) (fun _ _ => True) := by
  intro s hs
  refine ⟨fun a t ht => ?_, fun _ _ _ => trivial⟩
  have hkept := (h _ s rfl).1 a t ht
  exact hs.of_figures (congrArg Prod.fst hkept) (congrArg Prod.snd hkept)

/-- The report that a run begins with. -/
theorem provisional_base {base advice : Fields}
    (hbase : rt.baseReport request experimentId = .ok base)
    (hadvice : setting.advice request = .ok advice) : Provisional (Json.update base advice) := by
  obtain ⟨detection, -, hbase⟩ := bind_eq_ok hbase
  have hbase := Except.ok.inj hbase
  have hprovisional : Provisional base := by
    rw [← hbase]
    constructor <;> intro key hkey <;>
      simp only [List.mem_cons, List.not_mem_nil, or_false] at hkey
    · rcases hkey with rfl | rfl | rfl | rfl | rfl <;> simp [identityFields, List.lookup_cons]
    · rcases hkey with rfl | rfl | rfl | rfl | rfl | rfl <;>
        simp [identityFields, List.lookup_cons]
  refine hprovisional.of_figures (figuresOf_update fun e he hkey => ?_)
  have hother : ∀ key ∈ figureKeys, key ∉ ["action_policy_error", "action_policy",
      "action_policy_samples", "action_policy_recommendation"] := by decide
  exact RuntimeSetting.notMem_advice hadvice (hother e.1 hkey) e he rfl

/-- **Every report that a run evaluates is concluded.** -/
theorem evaluated (h : setting.Supervises rt) (hmode : request.mode ≠ .dryRun) {report : Fields}
    (hevaluates : rt.Evaluates request report) : Concluded report := by
  have hrun : Triple (fun _ => True) (rt.reachEvaluation request)
      (fun _ s => Concluded s.report) (fun _ _ => True) := by
    unfold reachEvaluation
    refine Triple.bind Triple.trivial fun experimentId => ?_
    refine Triple.bind (Q := fun base _ => rt.baseReport request experimentId = .ok base)
      (Triple.ofExcept (fun _ _ hbase _ => hbase) fun _ _ _ _ => trivial) fun base => ?_
    refine Triple.bind (Q := fun advice _ => rt.baseReport request experimentId = .ok base ∧
      setting.advice request = .ok advice) ?_ fun advice => ?_
    · rw [h.advise]
      intro s hs
      refine ⟨fun advice t ht => ⟨hs, ?_⟩, fun _ _ _ => trivial⟩
      have hadvice := congrArg Prod.fst ht
      simpa [Run.onWorld, Run.onHub, Hub.onWorld] using hadvice
    refine Triple.bind (Q := fun _ s => Provisional s.report)
      (Triple.modify fun s hs => provisional_base hs.1 hs.2) fun _ => ?_
    refine Triple.bind (Triple.weaken (provisional (keeps_onWorld _)) (fun _ h => h)
      (fun _ _ h => h) fun _ _ _ => trivial) fun start => ?_
    refine Triple.bind (Triple.weaken (h.guarded hmode _) (fun _ h => h) (fun _ _ h => h)
      fun _ _ h => h.elim) fun _ => ?_
    refine Triple.bind (concluded (keeps_finallyBlock rt request experimentId ?_)) fun _ => ?_
    · intro report error
      rw [ExperimentRuntime.cleanupFailed, figuresOf_update (by simp [figureKeys]),
        Json.lookup_update_ne (by simp)]
    refine Triple.bind_get fun s hs => ?_
    -- the status of a concluded report is a text, and `str` of it is itself
    obtain ⟨status, hstatus⟩ : ∃ status, s.report.lookup "final_status" = some (.str status) := by
      cases hs with
      | broken status _ hfinal _ => exact ⟨status, hfinal⟩
      | finished r _ hshows => exact ⟨_, hshows.finalStatus⟩
    have htext : rt.python.str (Json.getD s.report "final_status" (.str s.primaryStatus)) =
        status := by
      rw [Json.getD, hstatus]
      rfl
    rw [htext]
    refine Triple.bind (Q := fun _ t => Concluded t.report ∧
      t.report.lookup "final_status" = some (.str status)) ?_ fun _ => ?_
    · refine Triple.when (fun _ => Triple.modify fun t ht => ?_) fun t _ ht => ⟨ht ▸ hs, ht ▸ hstatus⟩
      have hfinal : (Json.set s.report "cleanup_status" (.str "cleanup_failed")).lookup
          "final_status" = s.report.lookup "final_status" := Json.lookup_set_ne (by decide) _ _
      subst ht
      exact ⟨hs.of_figures (figuresOf_set (by decide) _) hfinal, hfinal.trans hstatus⟩
    refine Triple.bind (Q := fun _ t => Concluded t.report ∧
      t.report.lookup "final_status" = some (.str status))
      (Triple.ofExcept (fun _ _ _ ht => ht) fun _ _ _ _ => trivial) fun detection => ?_
    refine Triple.bind (Q := fun _ t => Concluded t.report) (Triple.modify fun t ht => ?_)
      fun _ => Triple.bind (concluded (keeps_emit rt experimentId _ _)) fun _ =>
        Triple.pure fun _ ht => ht
    refine ht.1.of_figures (figuresOf_update (by simp [identityFields, figureKeys])) ?_
    rw [ht.2]
    simp [Json.update, identityFields, Json.lookup_set_ne]
  obtain ⟨world, p, s, hreach, rfl⟩ := hevaluates
  exact (hrun _ trivial).1 p s hreach

end RuntimeSetting.Supervises

/-! ### What a report is rewarded with -/

/-- The statuses of a recovery, and of a run with nothing to recover. -/
def rewardedStatuses : List String := ["recovered", "recovered_after_replan", "no_action_required"]

/-- **A just evaluation**: every reward lies between -1 and 1, the team is rewarded iff the status
says so, and a report that differs only in larger counts and a larger time is not rewarded more. -/
structure Just (py : Python) (report : Fields) : Prop where
  evaluation : ∃ e, evaluate py report = .ok e ∧
    (∀ reward ∈ rewardsOf e, -1 ≤ reward ∧ reward ≤ 1) ∧
    (∃ status, report.lookup "final_status" = some (.str status) ∧
      (0 < e.teamReward ↔ status ∈ rewardedStatuses) ∧
      (status ∉ rewardedStatuses → e.teamReward ≤ 0)) ∧
    ∀ report' e', Slower report report' → evaluate py report' = .ok e' →
      e'.teamReward ≤ e.teamReward

/-- The number of items of a list. -/
def itemsOf : Json → ℕ
  | .arr items => items.length
  | _ => 0

/-- How many of the evidence and the diagnosis are complete. -/
def completed (report : Fields) : ℕ :=
  (["metric_values", "source", "namespace", "deployment"].all fun key =>
      (Json.get (mapping (Json.get report "evidence")) key).truthy).toNat +
    (Json.get (mapping (Json.get report "diagnosis")) "cause").truthy.toNat

/-- **A blocked report that is rewarded**: it says that the service recovered, or says nothing
about it, and few replanning attempts stand against complete evidence and a complete diagnosis. -/
def Overpaid (report : Fields) : Prop :=
  report.lookup "final_status" = some (.str "blocked") ∧
    (isTrue (recoverySuccess (mapping (Json.get report "recovery_monitoring"))) = true ∨
      isNone (recoverySuccess (mapping (Json.get report "recovery_monitoring"))) = true ∧
        if itemsOf (Json.get report "replanning_attempts") = 0 then 2 ≤ completed report
        else 9 * itemsOf (Json.get report "replanning_attempts") < 30 + 10 * completed report)

section Scores

variable {py : Python} {report : Fields} {r : Supervision.Report}

theorem get_of_lookup {key : String} {value : Json} (h : report.lookup key = some value) :
    Json.get report key = value := by
  rw [Json.get, h]
  rfl

theorem getD_of_none {key : String} {d : Json} (h : report.lookup key = none) :
    Json.getD report key d = d := by
  rw [Json.getD, h]
  rfl

theorem get_of_none {key : String} (h : report.lookup key = none) :
    Json.get report key = .null := by
  rw [Json.get, h]
  rfl

/-- The statuses of a run are spelled as `_outcome` compares them. -/
theorem statusOf_eq {status : String} (h : report.lookup "final_status" = some (.str status))
    (hstatus : status ∈ brokenStatuses ++ ["safe_stopped", "no_action_required",
      "dry_run_validated", "safe_failure", "recovered", "recovered_after_replan"]) :
    statusOf py report = status := by
  unfold statusOf Json.getD
  rw [h]
  show String.ofList ((Text.strip status).toList.map Text.lowerChar) = status
  clear h
  revert status
  decide +kernel

/-- The figures of a report that was measured: counts, and no steps, time or budget. -/
structure Counted (report : Fields) (replans actions : ℕ) : Prop where
  replans : count (Json.get report "replanning_attempts") = .ok replans
  actions : count (Json.get report "executed_actions") = .ok actions
  steps : stepsOf report = .null
  seconds : Json.get (mapping (Json.get report "recovery_monitoring")) "recovery_seconds" = .null
  budget : budgetOf report = .ok none

/-- **The efficiency of such a report.** -/
theorem Counted.efficiency_eq {n m : ℕ} (h : Counted report n m) :
    efficiency report = .ok (if n = 0 ∧ m = 0 then 0
      else clamp (1 - 20 / 100 * n - 15 / 100 * (m - 1 : ℕ))) := by
  unfold efficiency
  rw [h.replans, h.actions, h.steps, h.seconds, h.budget]
  show (if n = 0 ∧ m = 0 ∧ (0 : ℕ) = 0 then _ else _) = _
  split
  · rename_i hzero
    rw [if_pos ⟨hzero.1, hzero.2.1⟩]
    rfl
  · rename_i hzero
    rw [if_neg fun h => hzero ⟨h.1, h.2, rfl⟩]
    show Except.ok (clamp _) = _
    simp [timePenalty]

theorem Counted.safety_ok {n m : ℕ} (h : Counted report n m) :
    ∃ penalty, safety report = .ok penalty := by
  unfold safety
  rw [h.actions]
  exact ⟨_, rfl⟩

theorem Counted.evaluate_ok {n m : ℕ} (h : Counted report n m) :
    ∃ e, evaluate py report = .ok e := by
  obtain ⟨penalty, hpenalty⟩ := h.safety_ok
  unfold RecoveryEvaluator.evaluate componentsOf
  rw [h.efficiency_eq, hpenalty]
  exact ⟨_, rfl⟩

/-- The monitoring of a report of the coordinator has neither steps nor a budget. -/
theorem monitoringFields_lookup (monitoring : Supervision.RecoveryMonitoring) {key : String}
    (h : key ∈ ["actual_steps", "steps", "recovery_budget_seconds", "recovered"]) :
    (monitoringFields monitoring).lookup key = none := by
  simp only [List.mem_cons, List.not_mem_nil, or_false] at h
  cases monitoring <;> rcases h with rfl | rfl | rfl | rfl <;>
    simp [monitoringFields, List.lookup_cons]

theorem HasFigures.counted (h : HasFigures report r) :
    Counted report r.replanningAttempts.length r.executedActions.length := by
  have hmonitoring : mapping (Json.get report "recovery_monitoring") =
      monitoringFields r.recoveryMonitoring := by
    rw [get_of_lookup h.monitoring]
    rfl
  have hexecution : mapping (Json.get report "execution_result") =
      executionFields r.executionResult := by
    rw [get_of_lookup h.execution]
    rfl
  have habsent : ∀ key ∈ ["actual_steps", "recovery_budget_seconds", "protocol_config",
      "protocol"], report.lookup key = none := h.absent
  refine ⟨h.replans.count, h.actions.count, ?_, ?_, ?_⟩
  · unfold stepsOf
    rw [hmonitoring, hexecution, getD_of_none (monitoringFields_lookup _ (by decide)),
      getD_of_none (monitoringFields_lookup _ (by decide)),
      getD_of_none (habsent _ (by decide)), get_of_none]
    simp [executionFields, List.lookup_cons]
  · rw [hmonitoring]
    cases r.recoveryMonitoring <;> simp [monitoringFields, Json.get, List.lookup_cons]
  · unfold budgetOf protocolOf
    rw [hmonitoring, getD_of_none (monitoringFields_lookup _ (by decide)),
      get_of_none (habsent "recovery_budget_seconds" (by decide)),
      get_of_none (habsent "protocol_config" (by decide)),
      get_of_none (habsent "protocol" (by decide))]
    rfl

theorem Provisional.counted (h : Provisional report) : Counted report 0 0 := by
  have hmonitoring : mapping (Json.get report "recovery_monitoring") = [] := by
    rw [get_of_lookup (h.empty _ (by decide))]
    rfl
  have hexecution : mapping (Json.get report "execution_result") = [] := by
    rw [get_of_lookup (h.empty _ (by decide))]
    rfl
  refine ⟨?_, ?_, ?_, ?_, ?_⟩
  · rw [get_of_none (h.absent _ (by decide))]
    rfl
  · rw [get_of_none (h.absent _ (by decide))]
    rfl
  · unfold stepsOf
    rw [hmonitoring, hexecution, getD_of_none rfl, getD_of_none rfl,
      getD_of_none (h.absent _ (by decide))]
    rfl
  · rw [hmonitoring]
    rfl
  · unfold budgetOf protocolOf
    rw [hmonitoring, getD_of_none rfl, get_of_none (h.absent "recovery_budget_seconds" (by decide)),
      get_of_none (h.absent "protocol_config" (by decide)),
      get_of_none (h.absent "protocol" (by decide))]
    rfl

/-- What `_outcome` reads of a report of the coordinator. -/
theorem HasFigures.success (h : HasFigures report r) :
    recoverySuccess (mapping (Json.get report "recovery_monitoring")) =
      match r.recoveryMonitoring with
      | .assessed a => .bool a.recoverySuccess
      | _ => .null := by
  rw [get_of_lookup h.monitoring]
  show recoverySuccess (monitoringFields r.recoveryMonitoring) = _
  cases r.recoveryMonitoring <;>
    simp [recoverySuccess, monitoringFields, Json.get, List.lookup_cons, isNone]

/-- The quality of the evidence of a report that says nothing about its recovery. -/
theorem evidenceQuality_eq
    (hsuccess : isNone (recoverySuccess (mapping (Json.get report "recovery_monitoring"))) = true)
    (hseconds : Json.get (mapping (Json.get report "recovery_monitoring")) "recovery_seconds" =
      .null) : evidenceQuality report = completed report / 3 := by
  have hnone : isNone (Json.get (mapping (Json.get report "recovery_monitoring"))
      "recovery_success") = true ∧ isNone (Json.get (mapping (Json.get report
      "recovery_monitoring")) "recovered") = true := by
    unfold recoverySuccess at hsuccess
    split at hsuccess
    · exact ⟨‹_›, hsuccess⟩
    · exact absurd hsuccess ‹_›
  have hindicator : ∀ b : Bool, indicator b = (b.toNat : ℚ) := by
    intro b
    cases b <;> simp [indicator]
  unfold evidenceQuality completed
  dsimp only
  rw [List.any_cons, List.any_cons, List.any_cons, List.any_nil, hnone.1, hnone.2, hseconds,
    hindicator, hindicator]
  simp [isNone, indicator]

theorem completed_le (report : Fields) : completed report ≤ 2 := by
  have h := fun b : Bool => Bool.toNat_le b
  unfold completed
  have h₁ := h (["metric_values", "source", "namespace", "deployment"].all fun key =>
    (Json.get (mapping (Json.get report "evidence")) key).truthy)
  have h₂ := h (Json.get (mapping (Json.get report "diagnosis")) "cause").truthy
  omega

/-- **When the other components outweigh a missing outcome**: nothing was executed, and the safety
is that of an action that was not. -/
theorem surplus_iff {n k : ℕ} (hk : k ≤ 2) :
    0 < 15 * (if n = 0 then 0 else clamp (1 - 20 / 100 * n)) + 10 * (-5 / 10) + 10 * (k / 3 : ℚ) ↔
      if n = 0 then 2 ≤ k else 9 * n < 30 + 10 * k := by
  have hkq : (k : ℚ) ≤ 2 := by exact_mod_cast hk
  split
  · constructor
    · intro h
      by_contra hlt
      have hone : (k : ℚ) ≤ 1 := by exact_mod_cast (by omega : k ≤ 1)
      linarith
    · intro h
      have htwo : (2 : ℚ) ≤ k := by exact_mod_cast h
      linarith
  · by_cases hn : n ≤ 10
    · have hnq : (n : ℚ) ≤ 10 := by exact_mod_cast hn
      have hpos : (0 : ℚ) ≤ n := Nat.cast_nonneg n
      rw [clamp_eq ⟨by linarith, by linarith⟩]
      have hcast : (9 * n < 30 + 10 * k) ↔ (9 * n : ℚ) < 30 + 10 * k := by exact_mod_cast Iff.rfl
      rw [hcast]
      constructor <;> intro h <;> linarith
    · have hnq : (10 : ℚ) ≤ n := by exact_mod_cast (by omega : 10 ≤ n)
      have hclamp : clamp (1 - 20 / 100 * n) ≤ -1 :=
        max_le le_rfl ((min_le_right _ _).trans (by linarith))
      constructor
      · intro h
        linarith
      · intro h
        omega

/-- The safety of a report without a valid execution. -/
theorem HasFigures.safety_unexecuted (h : HasFigures report r) (hactions : r.executedActions = [])
    (hexecution : r.executionResult.valid = false) :
    RecoveryEvaluator.safety report = .ok (-5 / 10) := by
  have hcount : count (Json.get report "executed_actions") = .ok 0 := by
    rw [h.actions.count, hactions]
    rfl
  have hvalid : isFalse (Json.get (executionFields r.executionResult) "valid") = true := by
    simp [executionFields, Json.get, List.lookup_cons, hexecution, RecoveryEvaluator.isFalse]
  have hexposed : isTrue (Json.get (executionFields r.executionResult) "unsafe_execution") =
      false := by
    simp [executionFields, Json.get, List.lookup_cons, RecoveryEvaluator.isTrue]
  unfold RecoveryEvaluator.safety
  rw [get_of_lookup h.safety, get_of_lookup h.execution, hcount]
  show Except.ok (if explicitInvalid (.obj (safetyFields r.safetyValidation)) = true then _
    else if isTrue (Json.get (executionFields r.executionResult) "unsafe_execution") = true then _
    else if isFalse (Json.get (executionFields r.executionResult) "valid") = true then _
    else _) = _
  rw [hvalid, hexposed]
  split <;> simp

/-- **A report says justly what its status says** iff the sign of the team's reward follows its
status: the other laws hold of every report. -/
theorem just_iff_sign {status : String} {e : RecoveryEvaluation}
    (hstatus : report.lookup "final_status" = some (.str status))
    (he : RecoveryEvaluator.evaluate py report = .ok e) :
    Just py report ↔ (0 < e.teamReward ↔ status ∈ rewardedStatuses) := by
  constructor
  · rintro ⟨e', he', -, ⟨status', hstatus', hsign, -⟩, -⟩
    obtain rfl := Except.ok.inj (he.symm.trans he')
    obtain rfl : status = status' := by
      have := Option.some.inj (hstatus.symm.trans hstatus')
      simpa using this
    exact hsign
  · intro hsign
    refine ⟨e, he, rewards_mem he, ⟨status, hstatus, hsign, fun hnot => ?_⟩, ?_⟩
    · exact not_lt.1 fun hpos => hnot (hsign.1 hpos)
    · exact fun report' e' hslower he' => hslower.teamReward_antitone he he'

/-- The sign of the team's reward, where the outcome decides it. -/
theorem sign_of_outcome {e : RecoveryEvaluation}
    (he : RecoveryEvaluator.evaluate py report = .ok e) :
    (outcome py report < 0 → ¬0 < e.teamReward) ∧
      (3 / 4 ≤ outcome py report → 0 < e.teamReward) := by
  obtain ⟨score, penalty, c, -, -, hc, hranged, hteam, -⟩ := RecoveryEvaluator.evaluate_ok he
  have houtcome : c.outcome = clamp (outcome py report) := by rw [hc]
  rw [hteam]
  constructor
  · intro h
    refine not_lt.2 (teamReward_nonpos ?_)
    rw [houtcome]
    exact max_lt (by norm_num) ((min_le_right _ _).trans_lt h)
  · intro h
    refine teamReward_pos hranged ?_
    rw [houtcome]
    exact le_max_of_le_right (le_min (by norm_num) h)

/-- **A report that the coordinator finished is rewarded as its status says.** -/
theorem just_of_finished (hr : Delivered r) (hshows : Shows report r) : Just py report := by
  obtain ⟨e, he⟩ : ∃ e, RecoveryEvaluator.evaluate py report = .ok e :=
    hshows.figures.counted.evaluate_ok
  obtain ⟨hneg, hpos⟩ := sign_of_outcome he
  have hsuccess := hshows.figures.success
  have hstatus : statusOf py report = r.finalStatus.value := by
    refine statusOf_eq hshows.finalStatus ?_
    cases r.finalStatus <;> decide
  refine (just_iff_sign hshows.finalStatus he).2 ?_
  have houtcome : outcome py report = if r.finalStatus = .safeStopped then -25 / 100
      else if r.finalStatus = .safeFailure then -1
      else if r.finalStatus = .recoveredAfterReplan then 75 / 100 else 1 := by
    unfold outcome
    rw [hstatus, hsuccess]
    cases hfinal : r.finalStatus with
    | safeStopped => simp [FinalStatus.value]
    | safeFailure => simp [FinalStatus.value]
    | dryRunValidated => exact absurd hfinal hr.measured.measured
    | noActionRequired =>
        rw [hr.measured.noAction hfinal]
        simp [FinalStatus.value, RecoveryEvaluator.isFalse]
    | recovered =>
        obtain ⟨a, ha, hsucceeded⟩ := hr.recovered (by rw [hfinal]; rfl)
        rw [ha]
        simp [FinalStatus.value, RecoveryEvaluator.isFalse, hsucceeded]
    | recoveredAfterReplan =>
        obtain ⟨a, ha, hsucceeded⟩ := hr.recovered (by rw [hfinal]; rfl)
        rw [ha]
        simp [FinalStatus.value, RecoveryEvaluator.isFalse, hsucceeded]
  cases hfinal : r.finalStatus with
  | safeStopped =>
      simp only [hfinal, if_true] at houtcome
      exact iff_of_false (hneg (by rw [houtcome]; norm_num)) (by decide)
  | safeFailure =>
      simp only [hfinal, reduceCtorEq, if_false, if_true] at houtcome
      exact iff_of_false (hneg (by rw [houtcome]; norm_num)) (by decide)
  | dryRunValidated => exact absurd hfinal hr.measured.measured
  | noActionRequired =>
      simp only [hfinal, reduceCtorEq, if_false] at houtcome
      exact iff_of_true (hpos (by rw [houtcome]; norm_num)) (by decide)
  | recovered =>
      simp only [hfinal, reduceCtorEq, if_false] at houtcome
      exact iff_of_true (hpos (by rw [houtcome]; norm_num)) (by decide)
  | recoveredAfterReplan =>
      simp only [hfinal, reduceCtorEq, if_false, if_true] at houtcome
      exact iff_of_true (hpos (by rw [houtcome]; norm_num)) (by decide)

/-- What a blocked report says about the recovery decides its outcome. -/
theorem outcome_of_blocked (hfinal : report.lookup "final_status" = some (.str "blocked")) :
    outcome py report =
      if RecoveryEvaluator.isFalse
        (recoverySuccess (mapping (Json.get report "recovery_monitoring"))) = true then -1
      else if RecoveryEvaluator.isTrue
        (recoverySuccess (mapping (Json.get report "recovery_monitoring"))) = true then 1
      else 0 := by
  unfold outcome
  rw [statusOf_eq hfinal (by decide)]
  simp

/-- **A blocked report without a verdict is rewarded by its other figures.** -/
theorem blocked_unmeasured {n k : ℕ} {e : RecoveryEvaluation} {penalty : ℚ}
    (hfinal : report.lookup "final_status" = some (.str "blocked"))
    (hsuccess : recoverySuccess (mapping (Json.get report "recovery_monitoring")) = .null)
    (hcounted : Counted report n 0) (hpenalty : RecoveryEvaluator.safety report = .ok penalty)
    (hk : completed report = k) (hrange : -1 ≤ penalty ∧ penalty ≤ 1)
    (he : RecoveryEvaluator.evaluate py report = .ok e) :
    0 < e.teamReward ↔ 0 < 15 * (if n = 0 then 0 else clamp (1 - 20 / 100 * n)) + 10 * penalty +
      10 * (k / 3 : ℚ) := by
  obtain ⟨score, penalty', c, hscore, hpenalty', hc, hranged, hteam, -⟩ :=
    RecoveryEvaluator.evaluate_ok he
  obtain rfl := Except.ok.inj (hpenalty.symm.trans hpenalty')
  have hefficiency := Except.ok.inj (hscore.symm.trans hcounted.efficiency_eq)
  have houtcome : c.outcome = 0 := by
    rw [hc]
    dsimp only
    rw [outcome_of_blocked hfinal, hsuccess]
    simp [RecoveryEvaluator.isFalse, RecoveryEvaluator.isTrue, clamp]
  have hquality : c.evidenceQuality = k / 3 := by
    have hvalue : evidenceQuality report = k / 3 := by
      rw [evidenceQuality_eq (by rw [hsuccess]; rfl) hcounted.seconds, hk]
    rw [hc]
    dsimp only
    rw [hvalue, clamp_eq]
    have hmem := evidenceQuality_mem report
    rw [hvalue] at hmem
    exact ⟨by linarith [hmem.1], hmem.2⟩
  have hsafety : c.safety = penalty := by
    rw [hc]
    exact clamp_eq hrange
  have hscored : c.efficiency = if n = 0 then 0 else clamp (1 - 20 / 100 * n) := by
    rw [hc]
    dsimp only
    rw [hefficiency]
    by_cases hn : n = 0
    · simp [hn, clamp]
    · rw [if_neg (fun h => hn h.1), if_neg hn]
      rw [show ((0 - 1 : ℕ) : ℚ) = 0 from by norm_num, mul_zero, sub_zero]
      exact clamp_eq (clamp_mem _)
  rw [hteam, teamReward_pos_iff houtcome.ge, houtcome, hscored, hsafety, hquality]
  ring_nf

/-- **A blocked report with the figures of the coordinator** is rewarded where it is overpaid. -/
theorem blocked_figures {e : RecoveryEvaluation} (hr : Delivered r) (hfigures : HasFigures report r)
    (hfinal : report.lookup "final_status" = some (.str "blocked"))
    (he : RecoveryEvaluator.evaluate py report = .ok e) : 0 < e.teamReward ↔ Overpaid report := by
  obtain ⟨hneg, hpos⟩ := sign_of_outcome he
  have houtcome : outcome py report = _ := outcome_of_blocked hfinal
  have hsuccess := hfigures.success
  rcases hr.measured.verdict with ⟨a, ha⟩ | ⟨hempty, hactions, hexecution⟩
  · replace hsuccess : recoverySuccess (mapping (Json.get report "recovery_monitoring")) =
        .bool a.recoverySuccess := by rw [hsuccess, ha]
    rw [hsuccess] at houtcome
    unfold Overpaid
    rw [hsuccess]
    cases ha' : a.recoverySuccess with
    | true =>
        rw [ha'] at houtcome
        simp only [RecoveryEvaluator.isFalse, RecoveryEvaluator.isTrue, Bool.false_eq_true,
          if_false, if_true] at houtcome
        exact iff_of_true (hpos (by rw [houtcome]; norm_num)) ⟨hfinal, .inl rfl⟩
    | false =>
        rw [ha'] at houtcome
        simp only [RecoveryEvaluator.isFalse, if_true] at houtcome
        refine iff_of_false (hneg (by rw [houtcome]; norm_num)) ?_
        simp [RecoveryEvaluator.isTrue, isNone]
  · replace hsuccess : recoverySuccess (mapping (Json.get report "recovery_monitoring")) =
        .null := by rw [hsuccess, hempty]
    have hitems : itemsOf (Json.get report "replanning_attempts") =
        r.replanningAttempts.length := by
      obtain ⟨items, hitems, hlength⟩ := hfigures.replans
      rw [get_of_lookup hitems, ← hlength]
      rfl
    have hcounted := hfigures.counted
    rw [hactions] at hcounted
    rw [blocked_unmeasured hfinal hsuccess hcounted
      (hfigures.safety_unexecuted hactions hexecution) rfl (by norm_num) he,
      surplus_iff (completed_le report)]
    unfold Overpaid
    rw [hsuccess, hitems]
    simp [hfinal, RecoveryEvaluator.isTrue, isNone]

/-- **A blocked report with the figures it began with** is neither overpaid nor rewarded. -/
theorem blocked_provisional {e : RecoveryEvaluation} (hp : Provisional report)
    (hfinal : report.lookup "final_status" = some (.str "blocked"))
    (he : RecoveryEvaluator.evaluate py report = .ok e) : 0 < e.teamReward ↔ Overpaid report := by
  have hnone : ∀ key ∈ ["recovery_monitoring", "execution_result", "safety_validation", "evidence",
      "diagnosis"], mapping (Json.get report key) = [] := by
    intro key hkey
    rw [get_of_lookup (hp.empty key hkey)]
    rfl
  have hsuccess : recoverySuccess (mapping (Json.get report "recovery_monitoring")) = .null := by
    rw [hnone _ (by decide)]
    rfl
  have hcompleted : completed report = 0 := by
    unfold completed
    rw [hnone "evidence" (by decide), hnone "diagnosis" (by decide)]
    rfl
  have hitems : itemsOf (Json.get report "replanning_attempts") = 0 := by
    rw [get_of_none (hp.absent _ (by decide))]
    rfl
  have hpenalty : RecoveryEvaluator.safety report = .ok 0 := by
    unfold RecoveryEvaluator.safety
    rw [hp.counted.actions, hnone "safety_validation" (by decide),
      hnone "execution_result" (by decide)]
    rfl
  rw [blocked_unmeasured hfinal hsuccess hp.counted hpenalty hcompleted (by norm_num) he]
  refine iff_of_false (by norm_num) ?_
  unfold Overpaid
  rw [hsuccess, hitems, hcompleted]
  simp [RecoveryEvaluator.isTrue]

/-- **A report that an exception concluded is rewarded only where it is overpaid.** -/
theorem just_iff_of_broken {status : String} (hstatus : status ∈ brokenStatuses)
    (hfinal : report.lookup "final_status" = some (.str status)) (hstanding : Standing report) :
    Just py report ↔ ¬Overpaid report := by
  obtain ⟨e, he⟩ : ∃ e, RecoveryEvaluator.evaluate py report = .ok e := by
    rcases hstanding with hp | ⟨r, -, hfigures⟩
    · exact hp.counted.evaluate_ok
    · exact hfigures.counted.evaluate_ok
  have hnot : status ∉ rewardedStatuses := by
    revert hstatus
    clear hfinal
    revert status
    decide
  obtain ⟨hneg, hpos⟩ := sign_of_outcome he
  rw [just_iff_sign hfinal he, iff_false_right hnot, not_iff_not]
  by_cases hblocked : status = "blocked"
  swap
  · have hfailed : outcome py report = -1 := by
      unfold outcome
      rw [statusOf_eq hfinal (List.mem_append_left _ hstatus)]
      simp only [brokenStatuses, List.mem_cons, List.not_mem_nil, or_false] at hstatus
      rcases hstatus with rfl | rfl | rfl | rfl
      · exact absurd rfl hblocked
      all_goals simp
    refine iff_of_false (hneg (by rw [hfailed]; norm_num)) fun h => hblocked ?_
    simpa using Option.some.inj (hfinal.symm.trans h.1)
  subst hblocked
  rcases hstanding with hp | ⟨r, hr, hfigures⟩
  · exact blocked_provisional hp hfinal he
  · exact blocked_figures hr hfigures hfinal he

/-- A concluded report is rewarded as its status says iff it is not overpaid. -/
theorem just_iff_of_concluded (hc : Concluded report) : Just py report ↔ ¬Overpaid report := by
  cases hc with
  | broken status hstatus hfinal hstanding => exact just_iff_of_broken hstatus hfinal hstanding
  | finished r hr hshows =>
      refine iff_of_true (just_of_finished hr hshows) fun h => ?_
      have hvalue : r.finalStatus.value = "blocked" := by
        simpa using hshows.finalStatus.symm.trans h.1
      revert hvalue
      cases r.finalStatus <;> decide

end Scores

/-- **The evaluation of a run is just but for the blocked reports that are overpaid.**  A run on
an injected fault that is no dry run hands the reports of `Evaluates` to
`attach_recovery_evaluation`, and such a report is rewarded as its status says iff it is not
overpaid. -/
theorem evaluates_just_iff {setting : RuntimeSetting} {rt : ExperimentRuntime σ App}
    (hsupervises : setting.Supervises rt) {request : ExperimentRuntimeRequest}
    (hsource : request.incidentSource = "chaos_mesh") (hmode : request.mode ≠ .dryRun) :
    rt.run request =
        (rt.reachEvaluation request >>= fun p => rt.leaveEvaluation p.1 p.2) ∧
      ∀ report, rt.Evaluates request report → (Just rt.python report ↔ ¬Overpaid report) :=
  ⟨rt.run_eq_evaluation request hsource hmode, fun _ hevaluates =>
    just_iff_of_concluded (hsupervises.evaluated hmode hevaluates)⟩

/-! ### A recovery that is blocked -/

/-- The entries of a report of the coordinator that its evaluation reads.  A list counts by its
length only. -/
def reportFields (r : Supervision.Report) : Fields :=
  [("final_status", .str r.finalStatus.value),
    ("evidence", .obj (r.evidence.elim [] fun e =>
      [("namespace", .str e.ns), ("deployment", .str e.deployment), ("source", .str e.source),
        ("metric_values", .obj (e.metricValues.map fun (metric, x) => (metric, .number x)))])),
    ("diagnosis", .obj (r.diagnosis.elim [] fun d => [("cause", .str d.cause)])),
    ("safety_validation", .obj (safetyFields r.safetyValidation)),
    ("execution_result", .obj (executionFields r.executionResult)),
    ("recovery_monitoring", .obj (monitoringFields r.recoveryMonitoring)),
    ("executed_actions", .arr (r.executedActions.map fun _ => .obj [])),
    ("replanning_attempts", .arr (r.replanningAttempts.map fun _ => .obj []))]

theorem shows_reportFields (r : Supervision.Report) : Shows (reportFields r) r := by
  refine ⟨⟨?_, ?_, ?_, ?_, ?_, fun key hkey => ?_⟩, ?_⟩
  · simp [reportFields, List.lookup_cons]
  · simp [reportFields, List.lookup_cons]
  · simp [reportFields, List.lookup_cons]
  · exact ⟨r.replanningAttempts.map fun _ => .obj [], by simp [reportFields, List.lookup_cons],
      List.length_map _⟩
  · exact ⟨r.executedActions.map fun _ => .obj [], by simp [reportFields, List.lookup_cons],
      List.length_map _⟩
  · simp only [List.mem_cons, List.not_mem_nil, or_false] at hkey
    rcases hkey with rfl | rfl | rfl | rfl <;> simp [reportFields, List.lookup_cons]
  · simp [reportFields]

/-- A supervision coordinator in an environment of its own, as the runtime calls it. -/
def coordinatorOf {τ : Type} (c : Supervision.Coordinator τ) (env : τ) : Coordinator σ :=
  { mode := some c.mode.value, backend := none, hasLockFlag := true, eventStore := none
    run := fun _ ns deployment metric threshold => Eff.ofExcept <|
      match ((c.run ns deployment metric threshold).run (.start env)).1 with
      | .ok r => .ok (reportFields r)
      | .error _ => .error (.exception "the coordinator raised")
    transcripts := pure [] }

theorem supervised_coordinatorOf {τ : Type} (c : Supervision.Coordinator τ) (env : τ) :
    Supervised (coordinatorOf c env : Coordinator σ) := by
  refine ⟨c.mode, rfl, fun _ ns deployment metric threshold hub report hub' h => ?_⟩
  rcases hrun : (c.run ns deployment metric threshold).run (.start env) with ⟨e | r, s⟩
  · simp [coordinatorOf, hrun] at h
  · simp only [coordinatorOf, hrun] at h
    obtain rfl : reportFields r = report := by simpa using congrArg Prod.fst h
    exact ⟨τ, c, env, r, s, rfl, hrun, shows_reportFields r⟩

/-- An experiment on a scenario without a fault to inject. -/
def webRequest : ExperimentRuntimeRequest :=
  { cpuStressRequest with ns := "prod", deployment := "web", metric := "cpu", mode := .mock }

/-- The configuration that registers the scenario of `webRequest`. -/
def webConfiguration : RuntimeConfiguration :=
  { cpuStressConfiguration with
    allowedNamespaces := ["prod"], allowedDeployments := ["web"], metricQueries := ["cpu"]
    scenarios := [("cpu-stress", ⟨some "prod", some "web", some "cpu", some 80, "chaos_mesh",
      ""⟩)] }

/-- A setting without learned samples. -/
def webSetting : RuntimeSetting :=
  { python := Python.ascii, configuration := webConfiguration, lower := id, samplesPath := ""
    loadSamples := fun _ => .ok [], decisionPolicy := ⟨[], [], 1, 5⟩
    causeForMetric := fun _ => "cpu_saturation", now := "2026-01-01T00:00:00+00:00" }

/-- The restart recovers the service, and the sink raises `OperationLockError` at the event of the
execution. -/
def lockedSinkRuntime : ExperimentRuntime Unit Unit :=
  { runtimeAround
      { preflight := pure ⟨true, none⟩, inject := fun _ => pure (some ())
        status := fun _ => ⟨true, none⟩
        cleanup := fun _ => pure (.mapping [("valid", .bool true)]) }
      fun event =>
        if event.stage = .executing then Eff.raise (.operationLock "lock is held") else pure ()
    with
    configuration := webConfiguration
    coordinatorFactory := fun _ => pure (coordinatorOf Supervision.Coordinator.restartRecovers ())
    advise := fun request => Eff.ofExcept (webSetting.advice request) }

/-- The status of the report is `blocked`. -/
def saysBlocked (report : Fields) : Bool :=
  match report.lookup "final_status" with
  | some (.str status) => status == "blocked"
  | _ => false

theorem lookup_of_saysBlocked {report : Fields} (h : saysBlocked report = true) :
    report.lookup "final_status" = some (.str "blocked") := by
  unfold saysBlocked at h
  split at h
  · rename_i status hstatus
    rw [hstatus, eq_of_beq h]
  · cases h

theorem supervises_lockedSink : webSetting.Supervises lockedSinkRuntime where
  advise := rfl
  supervised request w coordinator w' h := by
    obtain rfl : coordinatorOf Supervision.Coordinator.restartRecovers () = coordinator :=
      Except.ok.inj (congrArg Prod.fst h)
    exact supervised_coordinatorOf _ _

/-- The report that is evaluated says that the service recovered, under the status `blocked`. -/
theorem lockedSink_overpaid :
    ∃ report, lockedSinkRuntime.Evaluates webRequest report ∧ Overpaid report := by
  have hstatus : ((lockedSinkRuntime.reachEvaluation webRequest).run
      (RunState.initial lockedSinkRuntime ())).1.toOption = some ("exp-1", "blocked") := by
    decide +kernel
  have hfinal : saysBlocked ((lockedSinkRuntime.reachEvaluation webRequest).run
      (RunState.initial lockedSinkRuntime ())).2.report = true := by
    decide +kernel
  have hsuccess : isTrue (recoverySuccess (RecoveryEvaluator.mapping (Json.get
      ((lockedSinkRuntime.reachEvaluation webRequest).run
        (RunState.initial lockedSinkRuntime ())).2.report "recovery_monitoring"))) = true := by
    decide +kernel
  rcases hrun : (lockedSinkRuntime.reachEvaluation webRequest).run
    (RunState.initial lockedSinkRuntime ()) with ⟨e | p, s⟩
  · rw [hrun] at hstatus
    cases hstatus
  · rw [hrun] at hfinal hsuccess
    exact ⟨s.report, ⟨(), p, s, hrun, rfl⟩, lookup_of_saysBlocked hfinal, .inl hsuccess⟩

/-- A recovery that is blocked by its event sink is rewarded. -/
theorem lockedSink_not_just : webSetting.Supervises lockedSinkRuntime ∧
    ∃ report, lockedSinkRuntime.Evaluates webRequest report ∧
      ¬Just lockedSinkRuntime.python report := by
  obtain ⟨report, hevaluates, hoverpaid⟩ := lockedSink_overpaid
  refine ⟨supervises_lockedSink, report, hevaluates, fun hjust => ?_⟩
  exact (just_iff_of_concluded (supervises_lockedSink.evaluated (by decide) hevaluates)).1 hjust
    hoverpaid

/-- The law at the run whose sink is locked. -/
theorem lockedSink_just_iff : ∃ report, lockedSinkRuntime.Evaluates webRequest report ∧
    (Just lockedSinkRuntime.python report ↔ ¬Overpaid report) := by
  obtain ⟨report, hevaluates, -⟩ := lockedSink_overpaid
  exact ⟨report, hevaluates,
    (evaluates_just_iff supervises_lockedSink rfl (by decide)).2 report hevaluates⟩

end Experiment
end AiopsK8s
