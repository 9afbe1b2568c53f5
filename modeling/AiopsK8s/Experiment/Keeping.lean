/-
# What a run does to its report

The parts of `ExperimentRuntime.run` that leave a projection of the report alone: everything but the
coordinator's report, the handlers and the entries that are set by name.
-/

import AiopsK8s.Experiment.Obligations

namespace AiopsK8s
namespace Experiment

open Effect Run ExperimentRuntime

variable {σ App : Type} {α γ : Type}

/-- A projection of the report. -/
abbrev ofReport (g : Fields → γ) : RunState σ App → γ := fun s => g s.report

section Keeping

variable {g : Fields → γ}

theorem keeps_onHub (m : Eff (Hub σ) RuntimeException α) :
    Keeps (ofReport g) (Run.onHub m : Run σ App α) :=
  fun _ => Stable.zoom fun _ _ h => h

theorem keeps_onWorld (m : Eff σ RuntimeException α) :
    Keeps (ofReport g) (Run.onWorld m : Run σ App α) := keeps_onHub _

theorem keeps_log (call : Call σ App) : Keeps (ofReport g) (Run.log call : Run σ App Unit) :=
  Keeps.modify fun _ => rfl

theorem keeps_setReport {key : String} {value : Json}
    (h : ∀ report, g (Json.set report key value) = g report) :
    Keeps (ofReport g) (Run.setReport key value : Run σ App Unit) :=
  Keeps.modify fun s => h s.report

variable (rt : ExperimentRuntime σ App) (request : ExperimentRuntimeRequest)
  (experimentId : String)

theorem keeps_emit (stage : RuntimeStage) (message : String) :
    Keeps (ofReport g) (rt.emit experimentId stage message) := by
  unfold ExperimentRuntime.emit
  refine Keeps.bind (Keeps.attempt (keeps_onHub _)) fun outcome => ?_
  cases outcome with
  | ok u => exact Keeps.pure _
  | error e => exact Keeps.bind (keeps_log _) fun _ => Keeps.raise e

theorem keeps_injectFault (control : RuntimeControl σ) :
    Keeps (ofReport g) (rt.injectFault request experimentId control) := by
  have hinject : Keeps (ofReport g) (rt.inject request) := by
    unfold ExperimentRuntime.inject
    refine Keeps.bind (keeps_onWorld _) fun application => ?_
    cases application with
    | none => exact Keeps.pure _
    | some app => exact Keeps.bind (Keeps.modify fun _ => rfl) fun _ => Keeps.pure _
  have hrequired : ∀ application, Keeps (ofReport g) (rt.requireInjected application) := by
    intro application
    cases application with
    | none => exact Keeps.raise _
    | some app => exact Keeps.raiseIf _ _
  unfold ExperimentRuntime.injectFault
  refine Keeps.bind (keeps_onWorld _) fun _ => Keeps.bind (keeps_onWorld _) fun preflight => ?_
  refine Keeps.bind (Keeps.raiseIf _ _) fun _ => Keeps.bind (keeps_onWorld _) fun _ => ?_
  refine Keeps.bind (keeps_emit rt experimentId _ _) fun _ => ?_
  refine Keeps.bind (keeps_onWorld _) fun _ => Keeps.bind hinject fun application => ?_
  exact Keeps.bind (hrequired application) fun _ => keeps_onWorld _

theorem keeps_enterLock : Keeps (ofReport g) (rt.enterLock request) := by
  unfold ExperimentRuntime.enterLock
  refine Keeps.ite (Keeps.bind (keeps_onWorld _) fun _ => ?_) (Keeps.modify fun _ => rfl)
  exact Keeps.modify fun _ => rfl

theorem keeps_attachEventStore (coordinator : Coordinator σ) :
    Keeps (ofReport g) (rt.attachEventStore coordinator) := by
  unfold ExperimentRuntime.attachEventStore
  cases coordinator.eventStore with
  | none => exact Keeps.pure _
  | some own => exact keeps_onHub _

theorem keeps_emitReportedStages (status : String) :
    Keeps (ofReport g) (rt.emitReportedStages experimentId status) := by
  have hturn : ∀ (stage : RuntimeStage) (key : String), Keeps (ofReport g) (do
      let s ← Eff.get
      Eff.when ((Json.get s.report key).truthy = true)
        (rt.emit experimentId stage ("runtime stage: " ++ key))) := fun stage key =>
    Keeps.bind Keeps.get fun s => Keeps.when (keeps_emit rt experimentId _ _)
  unfold ExperimentRuntime.emitReportedStages
  refine Keeps.bind (Keeps.ite (Keeps.pure _) (hturn _ _)) fun _ => ?_
  refine Keeps.bind (Keeps.ite (Keeps.pure _) (hturn _ _)) fun _ => ?_
  exact Keeps.bind (Keeps.ite (Keeps.pure _) (hturn _ _)) fun _ => Keeps.pure _

/-- The `finally` block writes `cleanup_error` and `human_review_required`. -/
theorem keeps_finallyBlock
    (h : ∀ report error, g (ExperimentRuntime.cleanupFailed report error) = g report) :
    Keeps (ofReport g) (rt.finallyBlock request experimentId) := by
  have hreport : ∀ report cleanup, g (rt.reportCleanup report cleanup) = g report := by
    intro report cleanup
    unfold ExperimentRuntime.reportCleanup
    split
    · rfl
    · exact h report _
  unfold ExperimentRuntime.finallyBlock
  refine Keeps.bind Keeps.get fun s => Keeps.bind ?_ fun _ => ?_
  · cases s.application with
    | none => exact Keeps.pure _
    | some app =>
        refine Keeps.bind (keeps_emit rt experimentId _ _) fun _ => Keeps.bind Keeps.get fun s => ?_
        refine Keeps.bind (keeps_log _) fun _ => Keeps.bind (Keeps.attempt (keeps_onWorld _)) ?_
        intro outcome
        cases outcome with
        | ok result => exact Keeps.modify fun s => hreport s.report _
        | error e => exact Keeps.modify fun s => h s.report _
  · unfold ExperimentRuntime.releaseLock
    refine Keeps.bind Keeps.get fun s => Keeps.when (Keeps.bind (keeps_log _) fun _ => ?_)
    exact keeps_onWorld _

end Keeping

section Entries

variable (rt : ExperimentRuntime σ App) (request : ExperimentRuntimeRequest)
  (experimentId : String) {key : String}

/-- The keys that `run` writes into the coordinator's report. -/
def readKeys : List String :=
  ["run_id", "mode", "controller", "model", "incident_source", "benchmark_id", "detection",
    "autogen_transcript", "final_status"]

/-- The rest of the `try` block after the coordinator's report leaves other entries alone. -/
theorem keeps_readReport (hkey : key ∉ readKeys) (control : RuntimeControl σ)
    (coordinator : Coordinator σ) :
    Keeps (ofReport (List.lookup key)) (rt.readReport request experimentId control coordinator) := by
  have hne : ∀ other ∈ readKeys, key ≠ other := fun other hother heq => hkey (heq ▸ hother)
  unfold ExperimentRuntime.readReport
  refine Keeps.bind (keeps_onWorld _) fun _ => Keeps.bind (Keeps.ofExcept _) fun detection => ?_
  refine Keeps.bind (Keeps.modify fun s => Json.lookup_update_ne (fun e he => ?_) _) fun _ => ?_
  · have hmem : e.1 ∈ (identityFields request experimentId detection).map Prod.fst :=
      List.mem_map_of_mem he
    refine hne e.1 ?_
    simp only [identityFields, List.map_cons, List.map_nil] at hmem
    exact List.mem_append_left ["autogen_transcript", "final_status"] hmem
  refine Keeps.bind (keeps_onWorld _) fun transcripts => Keeps.bind ?_ fun _ => ?_
  · unfold ExperimentRuntime.setTranscript
    cases transcripts.find? (fun lines => !lines.isEmpty) with
    | none => exact Keeps.pure _
    | some transcript =>
        exact keeps_setReport fun _ => Json.lookup_set_ne (hne _ (by decide)) _ _
  refine Keeps.bind Keeps.get fun s => Keeps.bind (Keeps.modify fun _ => rfl) fun _ => ?_
  refine Keeps.bind (keeps_emitReportedStages rt experimentId _) fun _ => ?_
  exact keeps_setReport fun _ => Json.lookup_set_ne (hne _ (by decide)) _ _

/-- So do the handlers. -/
theorem keeps_handle (hkey : key ∉ ["error", "final_status"]) (e : RuntimeException) :
    Keeps (ofReport (List.lookup key)) (ExperimentRuntime.handle e : Run σ App Unit) :=
  Keeps.modify fun _ => Json.lookup_update_ne (fun entry hentry heq => hkey (by
    rw [heq]
    exact List.mem_map_of_mem (f := Prod.fst) hentry)) _

end Entries

end Experiment
end AiopsK8s
