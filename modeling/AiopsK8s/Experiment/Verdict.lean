/-
# What a run reports about its cleanup

The `finally` block of `ExperimentRuntime.run` reads the result of `chaos.cleanup` as a
mapping.  The `ChaosCleanup` of the Chaos Mesh adapter is a record, and `_mapping`
replaces what is no mapping by an invalid cleanup: a run with that adapter reports every
cleanup as failed.  `verdict_iff` is that its report is right exactly about the cleanups
that did fail.
-/

import AiopsK8s.Experiment.ChaosMesh
import AiopsK8s.Experiment.Obligations

namespace AiopsK8s
namespace Experiment

open Effect Run ExperimentRuntime

variable {σ : Type} {α β : Type}

/-- A runtime whose adapter is a `ChaosMeshAdapter`, as `build_experiment_runtime` makes it. -/
def ExperimentRuntime.withChaosMesh (rt : ExperimentRuntime σ ChaosApplication)
    (adapter : ChaosMeshAdapter σ) : ExperimentRuntime σ ChaosApplication :=
  { rt with chaos := adapter.toChaos }

/-- The cleanup that was called in the state `world` failed: it raised, or `kubectl delete`
returned a code other than 0. -/
def ChaosMeshAdapter.DeleteFailed (adapter : ChaosMeshAdapter σ) (application : ChaosApplication)
    (world : σ) : Prop :=
  (∃ e w, (adapter.cleanup application).run world = (.error e, w)) ∨
    ∃ code stdout stderr w,
      (adapter.command (ChaosMeshAdapter.deleteArgv application.scenario.manifest)).run world
        = (.ok (code, stdout, stderr), w) ∧ code ≠ 0

/-- **The right verdict** on a cleanup that was called in the state `world`, when the report
was `report`: the final report says that it failed exactly if it did, and a cleanup that
succeeded is valid and asks for no review. -/
structure Verdict (adapter : ChaosMeshAdapter σ) (application : ChaosApplication) (world : σ)
    (report : Fields) (result : ExperimentRuntimeResult) : Prop where
  status : (Json.get result.report "cleanup_status" = .str "cleanup_failed" ∧
    Json.hasKey result.report "cleanup_error" = true) ↔ adapter.DeleteFailed application world
  valid : ¬adapter.DeleteFailed application world →
    Json.get result.cleanup "valid" = .bool true ∧
      Json.get result.report "human_review_required" = Json.get report "human_review_required"

/-- The entry `key` of the report. -/
def entryOf {App : Type} (key : String) (s : RunState σ App) : Option Json := s.report.lookup key

/-- An entry of the report that `_finish` does not write. -/
theorem frame_entry {App : Type} {key : String} (h : key ∉ lateKeys) :
    Frame (entryOf key : RunState σ App → Option Json) where
  hub _ _ := rfl
  emitRaised _ _ _ := rfl
  entry s k value hk :=
    Json.lookup_set_ne (show key ≠ k from fun he => h (he ▸ hk)) s.report value

namespace ExperimentRuntime

variable {App : Type} (rt : ExperimentRuntime σ App) (request : ExperimentRuntimeRequest)
  (experimentId : String)

/-- The constructor of a result keeps the report it was given. -/
theorem makeResult_report {status : String} {report cleanup : Fields} {session : Json}
    {events : List RuntimeEvent} {result : ExperimentRuntimeResult}
    (h : makeResult experimentId status report session events cleanup = .ok result) :
    result.report = report := by
  have hfreeze : ∀ {fields fields' : Fields}, freeze fields = .ok fields' → fields' = fields := by
    intro fields fields' hf
    unfold freeze at hf
    split at hf <;> cases hf
    rfl
  unfold makeResult at h
  obtain ⟨_, _, h⟩ := bind_eq_ok h
  obtain ⟨_, _, h⟩ := bind_eq_ok h
  obtain ⟨report', hreport, h⟩ := bind_eq_ok h
  obtain ⟨_, _, h⟩ := bind_eq_ok h
  cases h
  exact hfreeze hreport

/-- An entry that `_finish` does not write is in the final report. -/
theorem finish_entry {key : String} (hkey : key ∉ lateKeys) (v : Option Json) (status : String) :
    Triple (fun s => entryOf key s = v) (rt.finish request experimentId status)
      (fun result _ => result.report.lookup key = v) (fun _ _ => True) := by
  have hframe : Frame (entryOf key : RunState σ App → Option Json) := frame_entry hkey
  have hfill := hframe.fillReport rt request experimentId status v
  unfold finish
  refine Triple.bind (hfill.weaken (fun _ h => h) (fun _ _ h => h) (fun _ _ _ => trivial))
    fun _ => Triple.bind_get fun s hs => ?_
  refine Triple.bind Triple.trivial fun _ => Triple.bind Triple.trivial fun session => ?_
  refine Triple.bind Triple.trivial fun _ => ?_
  refine Triple.ofExcept (fun result t hr _ => ?_) fun _ _ _ _ => trivial
  rw [makeResult_report experimentId hr]
  exact hs

/-- An entry that the statements after the `try` statement do not write is in the final report. -/
theorem conclude_entry {key : String} (hkey : key ∉ lateKeys) (hcleanup : key ≠ "cleanup_status")
    (v : Option Json) :
    Triple (fun s => entryOf key s = v) (rt.conclude request experimentId)
      (fun result _ => result.report.lookup key = v) (fun _ _ => True) := by
  unfold conclude
  refine Triple.bind_get fun s hs => ?_
  refine Triple.bind (Q := fun _ (t : RunState σ App) => entryOf key t = v) ?_ fun _ =>
    rt.finish_entry request experimentId hkey v _
  refine Triple.when (fun _ => Triple.modify fun t ht => ?_) fun t _ ht => ?_
  · subst ht
    exact (Json.lookup_set_ne hcleanup _ _).trans hs
  · subst ht
    exact hs

/-- A report with a `cleanup_error` is concluded with the status of a failed cleanup. -/
theorem conclude_spec {error : String} (herror : error ≠ "") :
    Triple (fun s => entryOf "cleanup_error" s = some (.str error))
      (rt.conclude request experimentId)
      (fun result _ => result.report.lookup "cleanup_status" = some (.str "cleanup_failed") ∧
        result.report.lookup "cleanup_error" = some (.str error)) (fun _ _ => True) := by
  unfold conclude
  refine Triple.bind_get fun s hs => ?_
  have htruthy : (Json.get s.report "cleanup_error").truthy = true := by
    have hget : Json.get s.report "cleanup_error" = .str error := by
      unfold Json.get
      rw [show s.report.lookup "cleanup_error" = some (.str error) from hs]
      rfl
    rw [hget]
    simpa [Json.truthy] using herror
  refine Triple.bind (Q := fun _ t =>
      entryOf "cleanup_status" t = some (.str "cleanup_failed") ∧
        entryOf "cleanup_error" t = some (.str error))
    (Triple.when (fun _ => Triple.modify fun t ht => ?_) fun t hno _ => absurd htruthy hno)
    fun _ => ?_
  · subst ht
    refine ⟨Json.lookup_set_self .., ?_⟩
    exact (Json.lookup_set_ne (by decide) _ _).trans hs
  · exact (Triple.and (rt.finish_entry request experimentId (by decide) _ _)
      (rt.finish_entry request experimentId (by decide) _ _)).weaken (fun _ h => h)
      (fun _ _ h => h) (fun _ _ _ => trivial)

end ExperimentRuntime

/-! ### The Chaos Mesh adapter in the runtime -/

namespace ExperimentRuntime

variable (rt : ExperimentRuntime σ ChaosApplication) (adapter : ChaosMeshAdapter σ)
  (request : ExperimentRuntimeRequest) (experimentId : String)

/-- The applications of the adapter have safe manifests. -/
theorem injectsOnly_safe : (rt.withChaosMesh adapter).InjectsOnly
    fun application => adapter.IsSafe application.scenario.manifest := by
  intro scenario w application w' h
  have h' : (some <$> adapter.inject scenario).run w = (.ok (some application), w') := h
  rw [map_eq_pure_bind] at h'
  obtain ⟨application', w₁, hinject, hpure⟩ := Eff.run_bind_ok h'
  cases hpure
  exact adapter.inject_safe hinject

/-- The message that `_mapping` gives to what is no mapping. -/
def misreadError : String := "invalid cleanup result"

/-- **The runtime misreads every cleanup of the adapter**: a `ChaosCleanup` is no mapping. -/
theorem cleanUp_misread {application : ChaosApplication}
    (hsafe : adapter.IsSafe application.scenario.manifest)
    {P : RunState σ ChaosApplication → Prop} :
    Triple P ((rt.withChaosMesh adapter).cleanUp application)
      (fun _ s => entryOf "cleanup_error" s = some (.str misreadError)) (fun _ _ => True) := by
  unfold cleanUp
  refine Triple.bind_get fun s _ => ?_
  refine Triple.bind (Q := fun _ _ => True) (Triple.modify fun _ _ => trivial) fun _ => ?_
  have hcall : Triple (fun _ => True)
      (Eff.attempt (fun _ => true)
        (onWorld ((rt.withChaosMesh adapter).chaos.cleanup application) :
          Run σ ChaosApplication CleanupResult))
      (fun outcome _ => ∃ c, outcome = .ok (.chaosCleanup c)) (fun _ _ => True) := by
    intro t _
    obtain ⟨code, stdout, stderr, w', -, hclean⟩ := adapter.cleanup_ok hsafe t.hub.world
    refine ⟨fun outcome t' hr => ⟨⟨code == 0, stdout, stderr, code != 0⟩, ?_⟩, fun _ _ _ => trivial⟩
    have hrun : (CleanupResult.chaosCleanup <$> adapter.cleanup application).run t.hub.world
        = (.ok (.chaosCleanup ⟨code == 0, stdout, stderr, code != 0⟩), w') := by
      rw [map_eq_pure_bind, Eff.run_bind, hclean]
      rfl
    have hresult := Eff.run_attempt_ok hr
    have hfst := congrArg Prod.fst hresult
    rw [onWorld, onHub, Eff.run_zoom, Hub.onWorld, Eff.run_zoom] at hfst
    exact (hfst.symm.trans (congrArg Prod.fst hrun))
  refine Triple.bind hcall fun outcome t ht => ?_
  obtain ⟨c, rfl⟩ := ht
  refine Triple.modify (P := fun _ => True) (fun t _ => ?_) t trivial
  show (Json.update t.report _).lookup "cleanup_error" = _
  rw [Json.update, List.foldl_cons, List.foldl_cons, List.foldl_nil,
    Json.lookup_set_ne (by decide), Json.lookup_set_self]
  rfl

/-- A run that called the cleanup reports the error of a misread one. -/
def Judged (s : RunState σ ChaosApplication) : Prop :=
  s.calls.filterMap Call.cleaned? ≠ [] → entryOf "cleanup_error" s = some (.str misreadError)

/-- The release of the lock changes nothing of the report. -/
theorem releaseLock_judged :
    Stable (Judged (σ := σ)) ((rt.withChaosMesh adapter).releaseLock request) := by
  unfold releaseLock
  refine Stable.bind Stable.get fun s => Triple.when (fun _ => ?_) fun _ _ h => h
  have hexit : Stable (Judged (σ := σ)) (onWorld (rt.withChaosMesh adapter).lock.exit) := by
    unfold onWorld onHub
    exact Stable.zoom fun _ _ h => h
  refine Triple.bind (Stable.modify fun t ht => ?_) fun _ => hexit
  intro hne
  exact ht (by simpa [Call.cleaned?] using hne)

/-- After the `finally` block, a run that called the cleanup reports a failed one. -/
theorem finallyBlock_judged :
    Triple (Owing request fun application => adapter.IsSafe application.scenario.manifest)
      ((rt.withChaosMesh adapter).finallyBlock request experimentId)
      (fun _ => Judged) (fun _ _ => True) := by
  unfold finallyBlock
  have hrelease := (releaseLock_judged rt adapter request).weaken (fun _ h => h) (fun _ _ h => h)
    (fun e s (_ : Judged s) => trivial)
  refine Triple.bind_get fun s hs => ?_
  obtain ⟨locked, app, hl, hsafe⟩ := hs
  have happ : s.application = app := congrArg (fun l => l.2.2) hl
  rw [happ]
  refine Triple.bind ?_ fun _ => hrelease
  cases app with
  | none =>
      refine Triple.pure fun t ht hne => absurd ?_ hne
      have hcalls : s.calls.filter Call.tracked = _ := congrArg (fun l => l.1) hl
      rw [ht, ← cleaned_tracked, hcalls]
      cases locked && request.mode == .real <;> rfl
  | some application =>
      refine Triple.bind Triple.trivial fun _ => ?_
      exact (cleanUp_misread rt adapter (hsafe _ rfl)).weaken (fun _ h => h)
        (fun _ _ h _ => h) (fun _ _ h => h)

/-- The final report of a run that called the cleanup. -/
theorem conclude_judged :
    Triple (Judged (σ := σ)) ((rt.withChaosMesh adapter).conclude request experimentId)
      (fun result s => s.calls.filterMap Call.cleaned? ≠ [] →
        result.report.lookup "cleanup_status" = some (.str "cleanup_failed") ∧
          result.report.lookup "cleanup_error" = some (.str misreadError))
      (fun _ _ => True) := by
  intro s hs
  refine ⟨fun result s' hr hne => ?_, fun _ _ _ => trivial⟩
  have hledger := ((rt.withChaosMesh adapter).quiet_conclude request experimentId _ s rfl).1 _ _ hr
  have hcalls : s'.calls.filter Call.tracked = s.calls.filter Call.tracked :=
    congrArg (fun l => l.1) hledger
  have hentry : entryOf "cleanup_error" s = some (.str misreadError) := by
    refine hs ?_
    rwa [← cleaned_tracked, ← hcalls, cleaned_tracked]
  exact ((rt.withChaosMesh adapter).conclude_spec request experimentId (by decide) s hentry).1
    _ _ hr

/-- **A run that called the cleanup and returned reports a failed cleanup**, whatever
`kubectl delete` did. -/
theorem run_reportsFailure {world : σ} {result : ExperimentRuntimeResult}
    {s : RunState σ ChaosApplication}
    (h : ((rt.withChaosMesh adapter).run request).run
      (RunState.initial (rt.withChaosMesh adapter) world) = (.ok result, s))
    (hcleaned : s.calls.filterMap Call.cleaned? ≠ []) :
    result.report.lookup "cleanup_status" = some (.str "cleanup_failed") ∧
      result.report.lookup "cleanup_error" = some (.str misreadError) := by
  have hrun := (rt.withChaosMesh adapter).run_spec request
    (Q := fun result s => s.calls.filterMap Call.cleaned? ≠ [] →
      result.report.lookup "cleanup_status" = some (.str "cleanup_failed") ∧
        result.report.lookup "cleanup_error" = some (.str misreadError))
    (E := fun _ _ => True) (fun _ _ _ => trivial) fun experimentId control => by
      unfold supervised
      refine Triple.bind (((rt.withChaosMesh adapter).guarded_spec request experimentId
        (injectsOnly_safe rt adapter) control).weaken (fun _ h => h) (fun _ _ h => h)
        (fun _ _ h => h.elim)) fun _ => ?_
      refine Triple.bind (finallyBlock_judged rt adapter request experimentId) fun _ => ?_
      exact conclude_judged rt adapter request experimentId
  exact (hrun _ rfl).1 _ _ h hcleaned

end ExperimentRuntime

/-- A run that injected a fault and returned has called the cleanup. -/
theorem exists_cleaned {rt : ExperimentRuntime σ ChaosApplication}
    {request : ExperimentRuntimeRequest} {world : σ} {result : ExperimentRuntimeResult}
    {s : RunState σ ChaosApplication} {application : ChaosApplication}
    (hrun : (rt.run request).run (RunState.initial rt world) = (.ok result, s))
    (hinjected : Call.injected application ∈ s.calls) :
    ∃ w report, Call.cleaned application w report ∈ s.calls := by
  have hsettled := (rt.run_settled request (RunState.initial rt world) rfl).1 _ _ hrun
  have hone := (discharged_of_tracked hsettled.discharged.1).cleaned application hinjected
  have hmem : application ∈ s.calls.filterMap Call.cleaned? := by
    rw [hone]
    exact List.mem_singleton_self _
  obtain ⟨call, hcall, hclean⟩ := List.mem_filterMap.1 hmem
  cases call with
  | cleaned app w report =>
      cases hclean
      exact ⟨w, report, hcall⟩
  | _ => cases hclean

/-- The verdict on a cleanup that was called. -/
theorem verdict_of_cleaned {rt : ExperimentRuntime σ ChaosApplication}
    {adapter : ChaosMeshAdapter σ} {request : ExperimentRuntimeRequest} {world w : σ}
    {result : ExperimentRuntimeResult} {s : RunState σ ChaosApplication}
    {application : ChaosApplication} {report : Fields}
    (hrun : ((rt.withChaosMesh adapter).run request).run
      (RunState.initial (rt.withChaosMesh adapter) world) = (.ok result, s))
    (hcleaned : Call.cleaned application w report ∈ s.calls) :
    Verdict adapter application w report result ↔ adapter.DeleteFailed application w := by
  have hne : s.calls.filterMap Call.cleaned? ≠ [] :=
    List.ne_nil_of_mem (List.mem_filterMap.2 ⟨_, hcleaned, rfl⟩)
  obtain ⟨hstatus, herror⟩ := run_reportsFailure rt adapter request hrun hne
  have hreport : Json.get result.report "cleanup_status" = .str "cleanup_failed" ∧
      Json.hasKey result.report "cleanup_error" = true := by
    simp [Json.get, Json.hasKey, hstatus, herror]
  constructor
  · intro hv
    exact hv.status.1 hreport
  · intro hfailed
    exact ⟨iff_of_true hreport hfailed, fun h => absurd hfailed h⟩

/-- **The report is right exactly about the cleanups that failed.**  In every run with a
`ChaosMeshAdapter` that injected a fault and returned, the cleanup was called, and the
verdict on it is right if and only if it raised or `kubectl delete` returned a code other
than 0: a successful cleanup is reported as a failed one. -/
theorem verdict_iff (rt : ExperimentRuntime σ ChaosApplication) (adapter : ChaosMeshAdapter σ)
    (request : ExperimentRuntimeRequest) (world : σ) (result : ExperimentRuntimeResult)
    (s : RunState σ ChaosApplication) (application : ChaosApplication)
    (hrun : ((rt.withChaosMesh adapter).run request).run
      (RunState.initial (rt.withChaosMesh adapter) world) = (.ok result, s))
    (hinjected : Call.injected application ∈ s.calls) :
    ∃ w report, Call.cleaned application w report ∈ s.calls ∧
      (Verdict adapter application w report result ↔ adapter.DeleteFailed application w) := by
  obtain ⟨w, report, hcleaned⟩ := exists_cleaned hrun hinjected
  exact ⟨w, report, hcleaned, verdict_of_cleaned hrun hcleaned⟩

/-! ### A cluster in which every command succeeds -/

/-- An adapter whose `kubectl` always returns 0. -/
def promptAdapter : ChaosMeshAdapter Unit :=
  { runner := fun _ => pure (0, "stresschaos", ""), sleeper := pure ()
    isFile := fun _ => pure true, readText := fun _ => pure "kind: StressChaos\n"
    now := pure "2026-01-01T00:00:00+00:00", manifestRoot := ["srv", "k8s"]
    waitTimeoutSeconds := 60, commandTimeoutSeconds := 15
    scenarios := [("cpu-stress", ⟨"cpu-stress", ["srv", "k8s", "cpu.yaml"], ""⟩)] }

/-- A runtime around it, with a sink that accepts every event. -/
def promptRuntime : ExperimentRuntime Unit ChaosApplication :=
  runtimeAround promptAdapter.toChaos fun _ => pure ()

/-- An injection with a safe manifest. -/
def ChaosMeshAdapter.isSafeInjection (adapter : ChaosMeshAdapter σ) :
    Call σ ChaosApplication → Bool
  | .injected application => decide (adapter.IsSafe application.scenario.manifest)
  | _ => false

/-- The run of `cpuStressRequest` returns a report and has injected a fault. -/
theorem promptRun :
    ∃ result s application,
      ((promptRuntime.withChaosMesh promptAdapter).run cpuStressRequest).run
          (RunState.initial (promptRuntime.withChaosMesh promptAdapter) ()) = (.ok result, s) ∧
        Call.injected application ∈ s.calls ∧
          promptAdapter.IsSafe application.scenario.manifest := by
  rcases hr : ((promptRuntime.withChaosMesh promptAdapter).run cpuStressRequest).run
    (RunState.initial (promptRuntime.withChaosMesh promptAdapter) ()) with ⟨r, s⟩
  have hok : (((promptRuntime.withChaosMesh promptAdapter).run cpuStressRequest).run
      (RunState.initial (promptRuntime.withChaosMesh promptAdapter) ())).1.isOk = true := by
    decide +kernel
  have hany : (((promptRuntime.withChaosMesh promptAdapter).run cpuStressRequest).run
      (RunState.initial (promptRuntime.withChaosMesh promptAdapter) ())).2.calls.any
        promptAdapter.isSafeInjection = true := by
    decide +kernel
  rw [hr] at hok hany
  cases r with
  | error e => cases hok
  | ok result =>
      obtain ⟨call, hmem, hcall⟩ := List.any_eq_true.1 hany
      cases call with
      | injected application =>
          exact ⟨result, s, application, rfl, hmem, of_decide_eq_true hcall⟩
      | _ => cases hcall

theorem prompt_verdict_iff :
    ∃ result s application,
      ((promptRuntime.withChaosMesh promptAdapter).run cpuStressRequest).run
          (RunState.initial (promptRuntime.withChaosMesh promptAdapter) ()) = (.ok result, s) ∧
        ∃ w report, Call.cleaned application w report ∈ s.calls ∧
          (Verdict promptAdapter application w report result ↔
            promptAdapter.DeleteFailed application w) := by
  obtain ⟨result, s, application, hrun, hinjected, -⟩ := promptRun
  exact ⟨result, s, application, hrun, verdict_iff promptRuntime promptAdapter cpuStressRequest ()
    result s application hrun hinjected⟩

/-- `kubectl delete` returns 0 here, and the report says that the cleanup failed. -/
theorem prompt_wrongVerdict :
    ∃ result s application w report,
      ((promptRuntime.withChaosMesh promptAdapter).run cpuStressRequest).run
          (RunState.initial (promptRuntime.withChaosMesh promptAdapter) ()) = (.ok result, s) ∧
        Call.cleaned application w report ∈ s.calls ∧
          ¬Verdict promptAdapter application w report result := by
  obtain ⟨result, s, application, hrun, hinjected, hsafe⟩ := promptRun
  obtain ⟨w, report, hcleaned⟩ := exists_cleaned hrun hinjected
  refine ⟨result, s, application, w, report, hrun, hcleaned, fun hv => ?_⟩
  rcases (verdict_of_cleaned hrun hcleaned).1 hv with
    ⟨e, w', he⟩ | ⟨code, stdout, stderr, w', he, hne⟩
  · obtain ⟨_, _, _, _, _, hclean⟩ := promptAdapter.cleanup_ok hsafe w
    rw [hclean] at he
    cases he
  · cases he
    exact hne rfl

end Experiment
end AiopsK8s
