/-
# What a run hands over

The advice of the action policy is written into the report that a run begins with.  The `except`
clauses keep that report and the coordinator's report replaces it, so a run that the coordinator
finishes has lost the advice; and a detection context with a nested mapping, which the constructor
of the request accepts, is no argument of `deepcopy`, so its run raises before the `try` block.

`handsOver_iff`: the requests whose runs hand over the detection context and the advice, whatever
the environment does, are those with a flat context that `_validate_request` refuses.
-/

import AiopsK8s.Experiment.Conclusion
import AiopsK8s.Experiment.Keeping

namespace AiopsK8s
namespace Experiment

open Effect Run ExperimentRuntime

variable {σ : Type} {App : Type} {α : Type}

/-! ### Refused requests -/

/-- The configuration registers the request: `_validate_request` has nothing against it. -/
structure RuntimeConfiguration.Registers (configuration : RuntimeConfiguration)
    (request : ExperimentRuntimeRequest) : Prop where
  ns : request.ns ∈ configuration.allowedNamespaces
  deployment : request.deployment ∈ configuration.allowedDeployments
  metric : request.metric ∈ configuration.metricQueries
  scenario : configuration.scenarios.lookup request.scenarioId =
    some ⟨some request.ns, some request.deployment, some request.metric, some request.threshold,
      request.incidentSource, request.benchmarkId⟩

theorem checkBinding_eq_ok {β : Type} [DecidableEq β] {scenarioId field : String}
    {expected : Option β} {actual : β} :
    checkBinding scenarioId field expected actual = .ok () ↔ expected = some actual := by
  unfold checkBinding
  cases expected with
  | none => exact iff_of_false nofun nofun
  | some value =>
      rw [rejectIf_eq_ok, not_not, Option.some.injEq]
      exact eq_comm

/-- `_validate_request` by what it asks for. -/
theorem validateRequest_eq_ok {rt : ExperimentRuntime σ App} {request : ExperimentRuntimeRequest} :
    rt.validateRequest request = .ok () ↔ rt.configuration.Registers request := by
  unfold validateRequest
  simp only [checks_seq, rejectIf_eq_ok, not_not]
  rcases hscenario : rt.configuration.scenarios.lookup request.scenarioId with _ | scenario
  · refine iff_of_false (fun h => by simp at h) fun h => ?_
    cases hscenario.symm.trans h.scenario
  · simp only [checks_seq, rejectIf_eq_ok, not_not, checkBinding_eq_ok]
    constructor
    · rintro ⟨hns, hdeployment, -, hmetric, hsource, hbenchmark, h₁, h₂, h₃, h₄⟩
      refine ⟨hns, hdeployment, hmetric, ?_⟩
      rw [hscenario, hsource, hbenchmark, ← h₁, ← h₂, ← h₃, ← h₄]
    · intro h
      have hsame := hscenario.symm.trans h.scenario
      obtain rfl := Option.some.inj hsame
      exact ⟨h.ns, h.deployment, by simp, h.metric, rfl, rfl, rfl, rfl, rfl, rfl⟩

/-! ### Up to the `try` statement -/

/-- A state in which a run has done nothing yet. -/
structure Fresh (rt : ExperimentRuntime σ App) (s : RunState σ App) : Prop where
  events : s.hub.events = []
  store : s.hub.artifactStore = rt.artifactEventStore
  application : s.application = none
  cleanup : s.cleanup = []
  lock : s.lockAcquired = false

theorem Fresh.world {rt : ExperimentRuntime σ App} {s : RunState σ App} (h : Fresh rt s) (w : σ) :
    Fresh rt { s with hub := { s.hub with world := w } } :=
  ⟨h.events, h.store, h.application, h.cleanup, h.lock⟩

/-- A call of the environment that returns, in front of the rest of a run. -/
theorem Returns.bind_onWorld {β : Type} {m : Eff σ RuntimeException α} {Q : α → Prop}
    {I : RunState σ App → Prop} {k : α → Run σ App β} {R : β → RunState σ App → Prop}
    {E : RuntimeException → RunState σ App → Prop} (h : Returns m Q)
    (hI : ∀ s world, I s → I { s with hub := { s.hub with world } })
    (hk : ∀ a, Q a → Triple I (k a) R E) : Triple I (Run.onWorld m >>= k) R E := by
  refine Triple.bind ((h.onWorld hI).weaken (fun _ hs => hs) (fun _ _ hs => hs)
    (fun _ _ he => he.elim)) fun a => ?_
  rintro s ⟨ha, hs⟩
  exact hk a ha s hs

/-- A value that needs no state, in front of the rest of a run. -/
theorem bind_ofExcept {β : Type} {r : Except RuntimeException α} {a : α}
    {I : RunState σ App → Prop} {k : α → Run σ App β} {R : β → RunState σ App → Prop}
    {E : RuntimeException → RunState σ App → Prop} (h : r = .ok a) (hk : Triple I (k a) R E) :
    Triple I (Eff.ofExcept r >>= k) R E := by
  subst h
  exact hk

namespace RuntimeSetting.Behaves

variable {setting : RuntimeSetting} {rt : ExperimentRuntime σ App}
variable {request : ExperimentRuntimeRequest} {experimentId : String} {advice : Fields}

/-- **A run reaches its `try` statement** with the report of the request and the advice. -/
theorem run_of_supervised (h : setting.Behaves rt)
    (hflat : anyField isMapping request.detectionContext = false)
    (hadvice : setting.advice request = .ok advice)
    {Q : ExperimentRuntimeResult → RunState σ App → Prop}
    {E : RuntimeException → RunState σ App → Prop}
    (hsupervised : ∀ experimentId report start, Text.isBlank experimentId = false →
      rt.baseReport request experimentId = .ok report →
      (∃ w w', rt.clock.run w = (.ok start, w')) →
      Triple (fun s => Fresh rt s ∧ s.report = Json.update report advice)
        (rt.supervised request experimentId
          ⟨rt.cancelled, some (start + rt.configuration.experimentSeconds), rt.clock⟩) Q E) :
    Triple (Fresh rt) (rt.run request) Q E := by
  have hfresh : ∀ s world, Fresh rt s → Fresh rt { s with hub := { s.hub with world } } :=
    fun _ world hs => hs.world world
  have hclock : Returns rt.clock fun start => ∃ w w', rt.clock.run w = (.ok start, w') := by
    intro w
    obtain ⟨start, w', hstart, -⟩ := h.clock w
    exact ⟨start, w', hstart, w, w', hstart⟩
  have hadvise : Returns (rt.advise request) fun value => value = advice := by
    intro w
    refine ⟨advice, w, ?_, rfl⟩
    rw [h.advise]
    dsimp only
    rw [hadvice]
    rfl
  unfold ExperimentRuntime.run
  refine h.experimentId.bind_onWorld hfresh fun experimentId hid => ?_
  obtain ⟨report, hreport⟩ : ∃ report, rt.baseReport request experimentId = .ok report := by
    unfold baseReport copyDetection
    rw [if_neg (by simp [hflat])]
    exact ⟨_, rfl⟩
  refine bind_ofExcept hreport (hadvise.bind_onWorld hfresh fun value hvalue => ?_)
  subst hvalue
  refine Triple.bind (Q := fun _ s => Fresh rt s ∧ s.report = Json.update report value)
    (Triple.modify fun s hs => ⟨⟨hs.events, hs.store, hs.application, hs.cleanup, hs.lock⟩, rfl⟩)
    fun _ => ?_
  exact hclock.bind_onWorld (fun s world hs => ⟨hs.1.world world, hs.2⟩) fun start hstart =>
    hsupervised experimentId report start hid hreport hstart

/-- A refused request ends in an `except` clause, before a run calls anything. -/
theorem guarded_refused {e : RuntimeException} (he : rt.validateRequest request = .error e)
    (control : RuntimeControl σ) (s : RunState σ App) :
    (rt.guarded request experimentId control).run s = (.ok (), { s with
      primaryStatus := e.status
      report := Json.update s.report [("error", .str e.text), ("final_status", .str e.status)] }) := by
  have hbody : (rt.body request experimentId control).run s = (.error e, s) := by
    unfold body
    rw [Eff.run_bind, Eff.run_ofExcept, he]
  have hattempt : (Eff.attempt (fun _ => true) (rt.body request experimentId control)).run s =
      (.ok (.error e), s) := by
    simp only [Eff.attempt, Eff.run] at hbody ⊢
    rw [hbody]
    rfl
  unfold guarded
  rw [Eff.run_bind, hattempt]
  rfl

/-- There is nothing to clean up and no lock to release. -/
theorem finallyBlock_idle (rt : ExperimentRuntime σ App) (request : ExperimentRuntimeRequest)
    (experimentId : String) (s : RunState σ App) (happ : s.application = none)
    (hlock : s.lockAcquired = false) :
    (rt.finallyBlock request experimentId).run s = (.ok (), s) := by
  have hget : (Eff.get : Run σ App (RunState σ App)).run s = (.ok s, s) := rfl
  have hrelease : (rt.releaseLock request).run s = (.ok (), s) := by
    unfold releaseLock
    rw [Eff.run_bind, hget]
    dsimp only
    rw [hlock, Eff.when, if_neg (by simp)]
    rfl
  unfold finallyBlock
  rw [Eff.run_bind, hget]
  dsimp only
  rw [happ, Eff.run_bind]
  exact hrelease

theorem status_not_blank (e : RuntimeException) : Text.isBlank e.status = false := by
  have hstatus : e.status ∈ ["blocked", "cancelled", "interrupted", "failed"] := by
    cases e <;> simp [RuntimeException.status]
  have hblank : ∀ status ∈ ["blocked", "cancelled", "interrupted", "failed"],
      Text.isBlank status = false := by decide +kernel
  exact hblank _ hstatus

/-- **A refused request is handed over.** -/
theorem supervised_refused (h : setting.Behaves rt) (hid : Text.isBlank experimentId = false)
    (hrequest : request.Accepted) (hflat : anyField isMapping request.detectionContext = false)
    (hadvice : setting.advice request = .ok advice)
    (hrefused : ¬setting.configuration.Registers request) {report : Fields}
    (hreport : rt.baseReport request experimentId = .ok report) (control : RuntimeControl σ) :
    Triple (fun s => Fresh rt s ∧ s.report = Json.update report advice)
      (rt.supervised request experimentId control)
      (fun result _ => ∀ e ∈ finishedEntries request experimentId advice,
        result.report.lookup e.1 = e.2) (fun _ _ => False) := by
  rintro s ⟨hs, hsreport⟩
  obtain ⟨e, he⟩ : ∃ e, rt.validateRequest request = .error e := by
    rcases hvalidate : rt.validateRequest request with e | ⟨⟨⟩⟩
    · exact ⟨e, rfl⟩
    · rw [← h.configuration] at hrefused
      exact absurd (validateRequest_eq_ok.1 hvalidate) hrefused
  obtain ⟨report', hreport', hfinite, hevaluation, hentries⟩ :=
    filed_start rt experimentId hrequest hflat hadvice
  obtain rfl := Except.ok.inj (hreport.symm.trans hreport')
  have hfiled : Filed rt.artifactEventStore
      (("final_status", some (.str e.status)) :: keptEntries advice)
      { s with primaryStatus := e.status,
               report := Json.update s.report
                 [("error", .str e.text), ("final_status", .str e.status)] } := by
    rw [hsreport]
    refine ⟨anyField_update hfinite (by simp [anyField, anyValue, isNonFinite]), ?_, ?_, hs.store,
      ⟨[], ?_⟩, List.forall_mem_cons.2 ⟨by simp [Json.update], fun entry hentry => ?_⟩⟩
    · rw [hs.cleanup]
      rfl
    · rw [hs.events]
      exact List.forall_mem_nil _
    · unfold Json.getD at hevaluation ⊢
      rw [Json.lookup_update_ne (by simp)]
      exact hevaluation
    · rw [Json.lookup_update_ne]
      · exact hentries entry hentry
      · simp only [List.mem_cons, List.not_mem_nil, or_false]
        rintro other (rfl | rfl) <;> exact key_keptEntries hentry (by simp)
  have hfinally := finallyBlock_idle rt request experimentId { s with
      primaryStatus := e.status
      report := Json.update s.report
        [("error", .str e.text), ("final_status", .str e.status)] } hs.application hs.lock
  unfold supervised
  rw [Eff.run_bind, guarded_refused he]
  dsimp only
  rw [Eff.run_bind, hfinally]
  exact h.conclude hid hrequest hflat (status_not_blank e) _ hfiled

end RuntimeSetting.Behaves

/-! ### What the coordinator's report leaves out -/

/-- The entry that only the advice writes. -/
abbrev adviceOf (report : Fields) : Option Json := report.lookup "action_policy_recommendation"

section Kept

variable (rt : ExperimentRuntime σ App) (request : ExperimentRuntimeRequest)
  (experimentId : String)

/-- The `finally` block leaves the advice alone. -/
theorem keeps_advice_finallyBlock :
    Keeps (ofReport adviceOf) (rt.finallyBlock request experimentId) :=
  keeps_finallyBlock rt request experimentId fun _ _ => Json.lookup_update_ne (by simp) _

end Kept

/-! ### An environment in which nothing fails -/

namespace RuntimeSetting

variable (setting : RuntimeSetting)

/-- A coordinator of the mode of the request, which reports a recovery. -/
def benignCoordinator (request : ExperimentRuntimeRequest) : Coordinator Unit :=
  { mode := some request.mode.value, backend := none, hasLockFlag := true, eventStore := none
    run := fun _ _ _ _ _ => pure [("final_status", .str "recovered")]
    transcripts := pure [] }

/-- The runtime of a setting in which everything it calls returns. -/
def benign : ExperimentRuntime Unit Unit :=
  { python := setting.python, configuration := setting.configuration
    chaos := ⟨pure ⟨true, none⟩, fun _ => pure (some ()), fun _ => ⟨true, none⟩,
      fun _ => pure (.mapping [("valid", .bool true)])⟩
    coordinatorFactory := fun request => pure (benignCoordinator request)
    validateAdmission := fun _ _ => pure []
    eventSink := fun _ => pure (), experimentId := pure "exp-1"
    now := pure "2026-01-01T00:00:00+00:00"
    artifactEventStore := none, cancelled := none
    lock := ⟨"token", pure (), pure (.obj []), pure ()⟩, sessionStore := none
    clock := pure 0
    advise := fun request => Eff.ofExcept (setting.advice request)
    evaluate := fun report =>
      (RecoveryEvaluator.evaluate setting.python report).map RecoveryEvaluation.toDict
    normalizeSession := fun report =>
      (Session.normalize setting.python setting.lower setting.now report).map
        ExperimentSession.toDict }

theorem returns_pure {a : α} {Q : α → Prop} (h : Q a) :
    Returns (pure a : Eff σ RuntimeException α) Q := fun w => ⟨a, w, rfl, h⟩

theorem behaves_benign : setting.Behaves setting.benign where
  python := rfl
  configuration := rfl
  advise := rfl
  evaluate := rfl
  normalizeSession := rfl
  experimentId := returns_pure (by decide +kernel)
  now := returns_pure (by decide +kernel)
  clock := returns_pure trivial
  eventSink := fun _ => returns_pure trivial
  artifactEventStore := nofun
  sessionStore := nofun

variable {setting} {request : ExperimentRuntimeRequest} {experimentId : String}

/-- A run whose deadline has not passed goes on. -/
theorem returns_check {deadline : ℚ} (h : 0 < deadline) :
    Returns (RuntimeControl.check (⟨none, some deadline, pure 0⟩ : RuntimeControl Unit))
      fun _ => True := by
  intro w
  refine ⟨(), w, ?_, trivial⟩
  have hraise : (Eff.raiseIf (deadline ≤ 0)
      (RuntimeException.timeout "experiment runtime deadline exceeded") :
        Eff Unit RuntimeException Unit).run w = (.ok (), w) := by
    rw [Eff.raiseIf, Eff.when, if_neg (not_le.2 h)]
    rfl
  unfold RuntimeControl.check
  rw [Eff.run_bind]
  exact hraise

theorem executionMode_value (mode : Supervision.ExecutionMode) :
    executionMode mode.value = some mode := by
  cases mode <;> decide

/-- A state of a run that goes well. -/
abbrev Going (s : RunState Unit Unit) : Prop := Filed none [] s

theorem going_world (s : RunState Unit Unit) (world : Unit) (h : Going s) :
    Going { s with hub := { s.hub with world } } := h.world world

theorem injectFault_benign {deadline : ℚ} (h : 0 < deadline)
    (hid : Text.isBlank experimentId = false)
    {E : RuntimeException → RunState Unit Unit → Prop} :
    Triple Going (setting.benign.injectFault request experimentId ⟨none, some deadline, pure 0⟩)
      (fun _ => Going) E := by
  have hcheck := returns_check h
  unfold injectFault
  refine hcheck.bind_onWorld going_world fun _ _ => ?_
  refine (returns_pure (Q := fun status => status = ⟨true, none⟩) rfl).bind_onWorld going_world
    fun status hstatus => ?_
  subst hstatus
  refine Triple.bind (Q := fun _ => Going)
    (Triple.when (fun hfalse => by cases hfalse) fun _ _ hs => hs) fun _ => ?_
  refine hcheck.bind_onWorld going_world fun _ _ => ?_
  refine Triple.bind ((setting.behaves_benign.emit hid (by decide +kernel)).weaken (fun _ hs => hs)
    (fun _ _ hs => hs) (fun _ _ he => he.elim)) fun _ => ?_
  refine hcheck.bind_onWorld going_world fun _ _ => ?_
  refine Triple.bind (Q := fun application s => application = some () ∧ Going s) ?_ fun application => ?_
  · unfold inject
    refine (returns_pure (Q := fun application => application = some ()) rfl).bind_onWorld
      going_world fun application happ => ?_
    subst happ
    refine Triple.bind (Q := fun _ => Going) (Triple.modify fun s hs => ?_) fun _ =>
      Triple.pure fun s hs => ⟨rfl, hs⟩
    exact ⟨hs.report, hs.cleanup, hs.events, hs.store, hs.evaluation, hs.entry⟩
  · rintro s ⟨rfl, hs⟩
    refine Triple.bind (P := Going) (Q := fun _ => Going) ?_ (fun _ => ?_) s hs
    · unfold requireInjected
      exact Triple.when (fun hfalse => by cases hfalse) fun _ _ hs => hs
    · exact (hcheck.onWorld going_world).weaken (fun _ hs => hs) (fun _ _ hs => hs.2)
        (fun _ _ he => he.elim)

/-- **The coordinator is reached, and its report replaces the one with the advice.** -/
theorem body_benign {deadline : ℚ} (h : 0 < deadline) (hid : Text.isBlank experimentId = false)
    (hregisters : setting.configuration.Registers request) :
    Triple Going (setting.benign.body request experimentId ⟨none, some deadline, pure 0⟩)
      (fun _ s => adviceOf s.report = none) (fun _ s => adviceOf s.report = none) := by
  have hcheck := returns_check h
  have hemit : ∀ {stage : RuntimeStage} {message : String}, Text.isBlank message = false →
      Triple Going (setting.benign.emit experimentId stage message) (fun _ => Going)
        (fun _ s => adviceOf s.report = none) := fun hmessage =>
    (setting.behaves_benign.emit hid hmessage).weaken (fun _ hs => hs) (fun _ _ hs => hs)
      (fun _ _ he => he.elim)
  have hmode : validateCoordinatorMode request (benignCoordinator request) = .ok () := by
    unfold validateCoordinatorMode benignCoordinator
    dsimp only
    rw [executionMode_value]
    dsimp only
    rw [checks_seq]
    exact ⟨rejectIf_eq_ok.2 (not_not.2 rfl), rfl⟩
  unfold body
  refine bind_ofExcept (validateRequest_eq_ok.2 hregisters) ?_
  refine (returns_pure (Q := fun coordinator => coordinator = benignCoordinator request) rfl
    ).bind_onWorld going_world fun coordinator hcoordinator => ?_
  subst hcoordinator
  refine (returns_pure (Q := fun timeouts => timeouts = []) rfl).bind_onWorld going_world
    fun timeouts _ => bind_ofExcept hmode ?_
  refine hcheck.bind_onWorld going_world fun _ _ => ?_
  refine Triple.bind (Q := fun _ => Going) ?_ fun _ => ?_
  · have hacquired : ∀ s : RunState Unit Unit, Going s → ∀ calls,
        Going { s with calls := calls, lockAcquired := true } := fun s hs calls =>
      ⟨hs.report, hs.cleanup, hs.events, hs.store, hs.evaluation, hs.entry⟩
    unfold enterLock
    refine Triple.ite (fun _ => ?_) fun _ => Triple.modify fun s hs => hacquired s hs s.calls
    exact (returns_pure (Q := fun _ => True) trivial).bind_onWorld going_world fun _ _ =>
      Triple.modify fun s hs => hacquired s hs _
  refine Triple.bind (hemit (by decide +kernel)) fun _ => ?_
  refine Triple.bind (Q := fun _ => Going)
    (Triple.when (fun _ => injectFault_benign h hid) fun _ _ hs => hs) fun _ => ?_
  refine hcheck.bind_onWorld going_world fun _ _ => ?_
  unfold runCoordinator
  refine Triple.bind (hemit (by decide +kernel)) fun _ => ?_
  refine Triple.bind (hemit (by decide +kernel)) fun _ => ?_
  refine Triple.bind (Q := fun _ => Going) (Triple.pure fun _ hs => hs) fun _ => ?_
  refine Triple.bind (Q := fun report _ => report = [("final_status", .str "recovered")]) ?_
    fun report => ?_
  · intro s _
    refine ⟨fun report t ht => ?_, fun e t ht => ?_⟩
    · cases ht
      rfl
    · cases ht
  · refine Triple.bind (Q := fun _ (s : RunState Unit Unit) => adviceOf s.report = none)
      (Triple.modify fun s hs => ?_)
      fun _ => keeps_readReport setting.benign request experimentId (by decide) _ _ none
    subst hs
    rfl

/-- A run that reaches the coordinator has lost the advice, if it returns. -/
theorem supervised_benign {deadline : ℚ} (h : 0 < deadline)
    (hid : Text.isBlank experimentId = false)
    (hregisters : setting.configuration.Registers request) :
    Triple Going (setting.benign.supervised request experimentId ⟨none, some deadline, pure 0⟩)
      (fun result _ => result.report.lookup "action_policy_recommendation" = none)
      (fun _ _ => True) := by
  unfold supervised
  refine Triple.bind (Q := fun _ (s : RunState Unit Unit) => adviceOf s.report = none) ?_ fun _ => ?_
  · unfold guarded
    refine Triple.bind (Triple.attempt (body_benign h hid hregisters) nofun) fun outcome => ?_
    cases outcome with
    | ok u => exact Triple.pure fun _ hs => hs
    | error e =>
        exact (keeps_handle (by decide) e none).weaken (fun _ hs => hs.2) (fun _ _ hs => hs)
          (fun _ _ _ => trivial)
  · refine Triple.bind ((keeps_advice_finallyBlock setting.benign request experimentId none).weaken
      (fun _ hs => hs) (fun _ _ hs => hs) (fun _ _ _ => trivial)) fun _ => ?_
    exact setting.benign.conclude_entry request experimentId (by decide) (by decide) none

end RuntimeSetting

/-! ### What is handed over -/

section Results

variable {setting : RuntimeSetting} {request : ExperimentRuntimeRequest}

theorem fresh_initial (rt : ExperimentRuntime σ App) (world : σ) :
    Fresh rt (RunState.initial rt world) := ⟨rfl, rfl, rfl, rfl, rfl⟩

/-- **A refused request with a flat context is handed over** in every environment. -/
theorem handsOver_of_refused (hrequest : request.Accepted)
    (hflat : anyField isMapping request.detectionContext = false)
    (hrefused : ¬setting.configuration.Registers request) {advice : Fields}
    (hadvice : setting.advice request = .ok advice) : setting.HandsOver request := by
  intro σ App rt world h
  have hrun : Triple (Fresh rt) (rt.run request) (fun result _ => ∃ experimentId,
      ∀ e ∈ finishedEntries request experimentId advice, result.report.lookup e.1 = e.2)
      (fun _ _ => False) := by
    refine h.run_of_supervised hflat hadvice fun experimentId report start hid hreport _ => ?_
    exact (h.supervised_refused hid hrequest hflat hadvice hrefused hreport _).weaken
      (fun _ hs => hs) (fun _ _ hs => ⟨experimentId, hs⟩) (fun _ _ he => he)
  obtain ⟨hok, herror⟩ := hrun _ (fresh_initial rt world)
  rcases hr : (rt.run request).run (RunState.initial rt world) with ⟨e | result, s⟩
  · exact (herror _ _ hr).elim
  · obtain ⟨experimentId, hentries⟩ := hok _ _ hr
    have hdetection := hentries ("detection", some (.obj request.detectionContext))
      (by simp [finishedEntries])
    refine ⟨result, s, rfl, hdetection, advice, hadvice, fun key hkey => ?_⟩
    simp only [List.mem_cons, List.not_mem_nil, or_false] at hkey
    rcases hkey with rfl | rfl
    · exact hentries ("action_policy", _) (by simp [finishedEntries, keptEntries])
    · exact hentries ("action_policy_recommendation", _) (by simp [finishedEntries, keptEntries])

/-- A context with a nested mapping raises before the `try` block. -/
theorem not_handsOver_of_nested (hnested : anyField isMapping request.detectionContext = true) :
    ¬setting.HandsOver request := by
  intro h
  obtain ⟨result, s, hrun, -⟩ := h setting.benign () setting.behaves_benign
  have hreport : ∀ experimentId, setting.benign.baseReport request experimentId =
      .error (.exception "cannot pickle 'mappingproxy' object") := fun experimentId => by
    unfold baseReport copyDetection
    rw [if_pos hnested]
    rfl
  unfold ExperimentRuntime.run at hrun
  obtain ⟨experimentId, s₁, -, hrun⟩ := Eff.run_bind_ok hrun
  obtain ⟨report, s₂, hbase, -⟩ := Eff.run_bind_ok hrun
  rw [hreport] at hbase
  cases hbase

/-- So does an advice that cannot be computed. -/
theorem exists_advice_of_handsOver (h : setting.HandsOver request) :
    ∃ advice, setting.advice request = .ok advice := by
  obtain ⟨result, s, -, hcarries⟩ := h setting.benign () setting.behaves_benign
  obtain ⟨advice, hadvice, -⟩ := hcarries.advice
  exact ⟨advice, hadvice⟩

/-- A registered request loses the advice to the coordinator's report. -/
theorem not_handsOver_of_registered (hflat : anyField isMapping request.detectionContext = false)
    (hrequest : request.Accepted) (hseconds : 0 < setting.configuration.experimentSeconds)
    (hregisters : setting.configuration.Registers request) : ¬setting.HandsOver request := by
  intro h
  obtain ⟨advice, hadvice⟩ := exists_advice_of_handsOver h
  obtain ⟨result, s, hrun, hcarries⟩ := h setting.benign () setting.behaves_benign
  have hlost : Triple (Fresh setting.benign) (setting.benign.run request)
      (fun result _ => result.report.lookup "action_policy_recommendation" = none)
      (fun _ _ => True) := by
    refine setting.behaves_benign.run_of_supervised hflat hadvice
      fun experimentId report start hid hreport hstart => ?_
    obtain ⟨w, w', hstart⟩ := hstart
    obtain rfl : (0 : ℚ) = start := Except.ok.inj (congrArg Prod.fst hstart)
    obtain ⟨report', hreport', hfinite, hevaluation, -⟩ := RuntimeSetting.Behaves.filed_start
      setting.benign experimentId hrequest hflat hadvice
    obtain rfl := Except.ok.inj (hreport.symm.trans hreport')
    have hdeadline : 0 < 0 + setting.benign.configuration.experimentSeconds := by
      rw [zero_add]
      exact hseconds
    refine (RuntimeSetting.supervised_benign hdeadline hid hregisters).weaken ?_
      (fun _ _ hs => hs) (fun _ _ _ => trivial)
    rintro t ⟨ht, htreport⟩
    refine ⟨?_, ?_, ?_, ht.store, ⟨[], ?_⟩, nofun⟩
    · rw [htreport]
      exact hfinite
    · rw [ht.cleanup]
      rfl
    · rw [ht.events]
      exact List.forall_mem_nil _
    · rw [htreport]
      exact hevaluation
  have hnone := (hlost _ (fresh_initial _ ())).1 _ _ hrun
  obtain ⟨advice', hadvice', hkeys⟩ := hcarries.advice
  obtain ⟨recommendation, hrecommendation⟩ := RuntimeSetting.lookup_advice hadvice'
  have hsame := hkeys "action_policy_recommendation" (by simp)
  rw [hnone, hrecommendation] at hsame
  cases hsame

/-- **The requests whose runs hand over what they were asked with**, whatever the environment
does: those with a flat detection context that no scenario registers, when there is an advice. -/
theorem handsOver_iff (hrequest : request.Accepted)
    (hseconds : 0 < setting.configuration.experimentSeconds) :
    setting.HandsOver request ↔ anyField isMapping request.detectionContext = false ∧
      ¬setting.configuration.Registers request ∧ ∃ advice, setting.advice request = .ok advice := by
  constructor
  · intro h
    have hflat : anyField isMapping request.detectionContext = false := by
      by_contra hne
      exact not_handsOver_of_nested (by simpa using hne) h
    exact ⟨hflat, fun hregisters => not_handsOver_of_registered hflat hrequest hseconds hregisters h,
      exists_advice_of_handsOver h⟩
  · rintro ⟨hflat, hrefused, advice, hadvice⟩
    exact handsOver_of_refused hrequest hflat hrefused hadvice

end Results

/-! ### The setting of the shop -/

/-- The configuration of `cpuStressConfiguration`, without a sample file. -/
def shopSetting : RuntimeSetting :=
  { python := Python.ascii, configuration := cpuStressConfiguration, lower := id
    samplesPath := "", loadSamples := fun _ => .ok []
    decisionPolicy := ⟨[("cpu_saturation", "scale_deployment")], [("high", 4)], 3, 5⟩
    causeForMetric := fun _ => "cpu_saturation", now := "2026-01-01T00:00:00+00:00" }

/-- A request for a deployment that the configuration does not name. -/
def strangeRequest : ExperimentRuntimeRequest := { cpuStressRequest with deployment := "stranger" }

/-- A request that no scenario registers is handed over. -/
theorem strangeRequest_handsOver : shopSetting.HandsOver strangeRequest := by
  have haccepted : strangeRequest.Accepted := rfl
  have hseconds : 0 < shopSetting.configuration.experimentSeconds := by decide
  rw [handsOver_iff haccepted hseconds]
  refine ⟨rfl, fun h => ?_, _, rfl⟩
  have hmem := h.deployment
  exact absurd hmem (by decide)

/-- **A run of a registered request does not hand over the advice**, whatever its context. -/
theorem cpuStress_not_handsOver : ¬∀ (setting : RuntimeSetting)
    (request : ExperimentRuntimeRequest), request.Accepted →
      0 < setting.configuration.experimentSeconds → setting.HandsOver request := by
  intro h
  have haccepted : cpuStressRequest.Accepted := rfl
  have hseconds : 0 < shopSetting.configuration.experimentSeconds := by decide
  exact not_handsOver_of_registered rfl haccepted hseconds
    ⟨by decide, by decide, by decide, by decide⟩ (h shopSetting cpuStressRequest haccepted hseconds)

end Experiment
end AiopsK8s
