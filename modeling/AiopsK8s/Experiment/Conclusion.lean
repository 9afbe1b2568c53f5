/-
# The end of a run

What a run does after its `try` statement, when the report is one that no coordinator replaced: the
evaluation, the events, the session and the result (`conclude`).  Such a report has the entries of
the request and the advice (`finishedEntries`), and nothing in it makes the rest of the run raise
(`Filed`).
-/

import AiopsK8s.Experiment.Advice
import AiopsK8s.Experiment.Verdict

namespace AiopsK8s
namespace Experiment

open Effect Run ExperimentRuntime

variable {σ : Type} {App : Type} {α : Type}

/-- A computation of the environment that returns, in a run. -/
theorem Returns.onWorld {m : Eff σ RuntimeException α} {Q : α → Prop} (h : Returns m Q)
    {I : RunState σ App → Prop} (hI : ∀ s world, I s → I { s with hub := { s.hub with world } }) :
    Triple I (Run.onWorld m : Run σ App α) (fun a s => Q a ∧ I s) (fun _ _ => False) := by
  intro s hs
  obtain ⟨a, world, hm, hQ⟩ := h s.hub.world
  have hrun : (Run.onWorld m : Run σ App α).run s =
      (.ok a, { s with hub := { s.hub with world } }) := by
    simp [Run.onWorld, Run.onHub, Hub.onWorld, hm]
  constructor
  · intro b t hb
    rw [hrun] at hb
    cases hb
    exact ⟨hQ, hI s world hs⟩
  · intro e t he
    rw [hrun] at he
    cases he

/-- The report is one that can be made into a result: it, the cleanup, the events and the paths of
the artifacts have no non-finite float, its evaluation is a mapping, and the entries are known. -/
structure Filed (store : Option (ArtifactStore σ)) (entries : List (String × Option Json))
    (s : RunState σ App) : Prop where
  report : anyField isNonFinite s.report = false
  cleanup : anyField isNonFinite s.cleanup = false
  events : ∀ event ∈ s.hub.events, event.payload = []
  store : s.hub.artifactStore = store
  evaluation : ∃ fields, Json.getD s.report "evaluation" (.obj []) = .obj fields
  entry : ∀ e ∈ entries, s.report.lookup e.1 = e.2

namespace Filed

variable {store : Option (ArtifactStore σ)} {entries : List (String × Option Json)}
variable {s : RunState σ App}

theorem world (h : Filed store entries s) (w : σ) :
    Filed store entries { s with hub := { s.hub with world := w } } :=
  ⟨h.report, h.cleanup, h.events, h.store, h.evaluation, h.entry⟩

theorem sequence (h : Filed store entries s) (n : ℕ) :
    Filed store entries { s with hub := { s.hub with sequence := n } } :=
  ⟨h.report, h.cleanup, h.events, h.store, h.evaluation, h.entry⟩

theorem calls (h : Filed store entries s) (calls : List (Call σ App)) :
    Filed store entries { s with calls := calls } :=
  ⟨h.report, h.cleanup, h.events, h.store, h.evaluation, h.entry⟩

theorem event (h : Filed store entries s) {event : RuntimeEvent} (hevent : event.payload = []) :
    Filed store entries { s with hub := { s.hub with events := s.hub.events ++ [event] } } := by
  refine ⟨h.report, h.cleanup, fun other hother => ?_, h.store, h.evaluation, h.entry⟩
  rcases List.mem_append.1 hother with hother | hother
  · exact h.events other hother
  · rw [List.mem_singleton.1 hother]
    exact hevent

/-- An entry that is not among the known ones. -/
theorem set (h : Filed store entries s) {key : String} {value : Json}
    (hvalue : anyValue isNonFinite value = false) (hkey : ∀ e ∈ entries, e.1 ≠ key)
    (hevaluation : key = "evaluation" → ∃ fields, value = .obj fields) :
    Filed store entries { s with report := Json.set s.report key value } := by
  refine ⟨anyField_set h.report hvalue, h.cleanup, h.events, h.store, ?_, fun e he => ?_⟩
  · by_cases heq : key = "evaluation"
    · obtain ⟨fields, rfl⟩ := hevaluation heq
      subst heq
      exact ⟨fields, by simp [Json.getD]⟩
    · obtain ⟨fields, hfields⟩ := h.evaluation
      exact ⟨fields, by simpa [Json.getD, Json.lookup_set_ne (Ne.symm heq)] using hfields⟩
  · rw [Json.lookup_set_ne (hkey e he)]
    exact h.entry e he

end Filed

namespace RuntimeSetting.Behaves

variable {setting : RuntimeSetting} {rt : ExperimentRuntime σ App}
variable {request : ExperimentRuntimeRequest} {experimentId : String}
variable {entries : List (String × Option Json)}

/-- **An emission returns.** -/
theorem emit (h : setting.Behaves rt) (hid : Text.isBlank experimentId = false)
    {stage : RuntimeStage} {message : String} (hmessage : Text.isBlank message = false) :
    Triple (Filed rt.artifactEventStore entries) (rt.emit experimentId stage message)
      (fun _ => Filed rt.artifactEventStore entries) (fun _ _ => False) := by
  intro s hs
  obtain ⟨createdAt, w, hnow, hblank⟩ := h.now s.hub.world
  obtain ⟨event, hevent, hpayload⟩ : ∃ event, RuntimeEvent.make experimentId (s.hub.sequence + 1)
      stage "running" message createdAt [] = .ok event ∧ event.payload = [] := by
    refine ⟨⟨Text.strip experimentId, s.hub.sequence + 1, stage, Text.strip "running",
      Text.strip message, Text.strip createdAt, []⟩, ?_, rfl⟩
    have hrunning : Text.isBlank "running" = false := by decide +kernel
    simp [RuntimeEvent.make, stripIdentifier, hid, hmessage, hblank, hrunning, freeze, anyField,
      bind, Except.bind, pure, Except.pure]
  obtain ⟨⟨⟩, w', hsink, -⟩ := h.eventSink event w
  have hrun : (rt.emit experimentId stage message).run s = (.ok (),
      { s with hub := ⟨w', s.hub.sequence + 1, s.hub.events ++ [event], s.hub.artifactStore⟩ }) := by
    have hbridge : (rt.bridgeEmit experimentId stage message []).run s.hub = (.ok (),
        ⟨w', s.hub.sequence + 1, s.hub.events ++ [event], s.hub.artifactStore⟩) := by
      have hget : ∀ hub : Hub σ, (Eff.get : Eff (Hub σ) RuntimeException (Hub σ)).run hub =
        (.ok hub, hub) := fun _ => rfl
      simp [bridgeEmit, Hub.onWorld, hget, hnow, hevent, hsink]
    have hattempt : (Eff.attempt (fun _ => true)
        (Run.onHub (rt.bridgeEmit experimentId stage message []) : Run σ App Unit)).run s =
          (.ok (.ok ()), { s with
            hub := ⟨w', s.hub.sequence + 1, s.hub.events ++ [event], s.hub.artifactStore⟩ }) := by
      have hhub : (Run.onHub (rt.bridgeEmit experimentId stage message []) : Run σ App Unit).run s =
          (.ok (), { s with
            hub := ⟨w', s.hub.sequence + 1, s.hub.events ++ [event], s.hub.artifactStore⟩ }) := by
        simp [Run.onHub, hbridge]
      simp only [Eff.attempt, Eff.run] at hhub ⊢
      rw [hhub]
    unfold ExperimentRuntime.emit
    rw [Eff.run_bind, hattempt]
    rfl
  have hfiled := ((hs.sequence (s.hub.sequence + 1)).event hpayload).world w'
  constructor
  · intro a t ha
    rw [hrun] at ha
    cases ha
    exact hfiled
  · intro e t he
    rw [hrun] at he
    cases he

end RuntimeSetting.Behaves

/-! ### The end of a run -/

/-- The figures that a run which no coordinator finished leaves out. -/
def figureEntries : List (String × Option Json) :=
  [("replanning_attempts", none), ("executed_actions", none), ("actual_steps", none),
    ("recovery_monitoring", some (.obj [])), ("execution_result", some (.obj [])),
    ("active_agents", none)]

/-- What the rest of a run keeps of its first report. -/
def keptEntries (advice : Fields) : List (String × Option Json) :=
  figureEntries ++ [("action_policy", advice.lookup "action_policy"),
    ("action_policy_recommendation", advice.lookup "action_policy_recommendation")]

/-- What the finished report says besides. -/
def finishedEntries (request : ExperimentRuntimeRequest) (experimentId : String) (advice : Fields) :
    List (String × Option Json) :=
  [("run_id", some (.str experimentId)), ("detection", some (.obj request.detectionContext))] ++
    keptEntries advice

theorem key_keptEntries {advice : Fields} {e : String × Option Json} (h : e ∈ keptEntries advice)
    {key : String} (hkey : key ∉ ["replanning_attempts", "executed_actions", "actual_steps",
      "recovery_monitoring", "execution_result", "active_agents", "action_policy",
      "action_policy_recommendation"]) : e.1 ≠ key := by
  rintro rfl
  simp only [keptEntries, figureEntries, List.cons_append, List.nil_append, List.mem_cons,
    List.not_mem_nil, or_false] at h
  rcases h with rfl | rfl | rfl | rfl | rfl | rfl | rfl | rfl <;> exact hkey (by simp)

theorem key_finishedEntries {request : ExperimentRuntimeRequest} {experimentId : String}
    {advice : Fields} {e : String × Option Json}
    (h : e ∈ finishedEntries request experimentId advice) {key : String}
    (hkey : key ∉ ["run_id", "detection", "replanning_attempts", "executed_actions", "actual_steps",
      "recovery_monitoring", "execution_result", "active_agents", "action_policy",
      "action_policy_recommendation"]) : e.1 ≠ key := by
  rintro rfl
  simp only [finishedEntries, List.cons_append, List.nil_append, List.mem_cons] at h
  rcases h with rfl | rfl | h
  · exact hkey (by simp)
  · exact hkey (by simp)
  · exact key_keptEntries h (fun hmem => hkey (by simp_all)) rfl

namespace RuntimeSetting.Behaves

variable {setting : RuntimeSetting} {rt : ExperimentRuntime σ App}
variable {request : ExperimentRuntimeRequest} {experimentId : String} {advice : Fields}

/-- The report of a run that no coordinator finished is evaluated. -/
theorem evaluateRecovery (h : setting.Behaves rt) (hid : Text.isBlank experimentId = false) :
    Triple (Filed rt.artifactEventStore (finishedEntries request experimentId advice))
      (rt.evaluateRecovery request experimentId)
      (fun _ => Filed rt.artifactEventStore (finishedEntries request experimentId advice))
      (fun _ _ => False) := by
  have hkeys : ∀ e ∈ finishedEntries request experimentId advice, e.1 ≠ "evaluation" :=
    fun e he => key_finishedEntries he (by decide)
  unfold ExperimentRuntime.evaluateRecovery
  refine Triple.when (fun _ => ?_) fun s _ hs => hs
  refine Triple.bind (h.emit hid ?_) fun _ => Triple.ite (fun _ => ?_) fun _ => ?_
  · split_ifs <;> decide +kernel
  · refine Triple.modify fun s hs => hs.set ?_ hkeys fun _ => ⟨_, rfl⟩
    simp [notApplicable, anyValue, anyField, isNonFinite]
  · unfold attachRecoveryEvaluation
    refine Triple.bind_get fun s hs => ?_
    have hlookup : ∀ key value, (key, value) ∈ figureEntries → s.report.lookup key = value :=
      fun key value hmem => hs.entry (key, value) (by simp [finishedEntries, keptEntries, hmem])
    have hget : ∀ key value, (key, some value) ∈ figureEntries → Json.get s.report key = value :=
      fun key value hmem => by
        unfold Json.get
        rw [hlookup key (some value) hmem]
        rfl
    have hnull : ∀ key, (key, none) ∈ figureEntries → Json.get s.report key = .null :=
      fun key hmem => by
        unfold Json.get
        rw [hlookup key none hmem]
        rfl
    obtain ⟨evaluation, hevaluation⟩ : ∃ evaluation,
        RecoveryEvaluator.evaluate setting.python s.report = .ok evaluation :=
      RecoveryEvaluator.evaluate_isOk (hnull "replanning_attempts" (by simp [figureEntries]))
        (hnull "executed_actions" (by simp [figureEntries]))
        (hlookup "actual_steps" none (by simp [figureEntries]))
        (hget "recovery_monitoring" _ (by simp [figureEntries]))
        (hget "execution_result" _ (by simp [figureEntries]))
    have hvalue : rt.evaluate s.report = .ok evaluation.toDict := by
      rw [h.evaluate]
      exact congrArg (Except.map RecoveryEvaluation.toDict) hevaluation
    rw [hvalue]
    refine Triple.bind (Triple.ofExcept (Q := fun value t => t = s ∧ value = evaluation.toDict)
      (fun value t hr ht => ⟨ht, (Except.ok.inj hr).symm⟩) fun _ _ hr => by cases hr) fun value => ?_
    refine Triple.modify fun t ht => ?_
    obtain ⟨rfl, rfl⟩ := ht
    exact hs.set (finite_evaluation evaluation) hkeys fun _ => ⟨_, rfl⟩

/-- The events and the artifacts are put into the report. -/
theorem attachEvents (h : setting.Behaves rt) :
    Triple (Filed rt.artifactEventStore (finishedEntries request experimentId advice))
      (ExperimentRuntime.attachEvents : Run σ App Unit)
      (fun _ => Filed rt.artifactEventStore (finishedEntries request experimentId advice))
      (fun _ _ => False) := by
  unfold ExperimentRuntime.attachEvents
  refine Triple.bind_get fun s hs => ?_
  have hevents : anyItem isNonFinite (s.hub.events.map RuntimeEvent.toDict) = false :=
    anyItem_map fun event hevent => finite_toDict event (hs.events event hevent)
  refine Triple.bind (Q := fun _ t => Filed rt.artifactEventStore
    (finishedEntries request experimentId advice) t) (Triple.modify fun t ht => ?_) fun _ => ?_
  · subst ht
    refine hs.set ?_ (fun e he => key_finishedEntries he (by decide)) fun heq => absurd heq (by decide)
    simp [Json.ofList, anyValue, isNonFinite, hevents]
  · rcases hpaths : s.hub.artifactStore.bind ArtifactStore.paths with - | paths
    · exact Triple.pure fun _ ht => ht
    · obtain ⟨store, hstore, hpaths⟩ := Option.bind_eq_some_iff.1 hpaths
      refine Triple.modify fun t ht => ht.set ?_
        (fun e he => key_finishedEntries he (by decide)) fun heq => absurd heq (by decide)
      rw [hs.store] at hstore
      exact (h.artifactEventStore store hstore).paths paths hpaths

/-- The report is completed with the entries of the request. -/
theorem fillReport (h : setting.Behaves rt) (hid : Text.isBlank experimentId = false)
    (hrequest : request.Accepted) (hflat : anyField isMapping request.detectionContext = false)
    (status : String) :
    Triple (Filed rt.artifactEventStore (keptEntries advice))
      (rt.fillReport request experimentId status)
      (fun _ => Filed rt.artifactEventStore (finishedEntries request experimentId advice))
      (fun _ _ => False) := by
  have hcopy : copyDetection request.detectionContext = .ok request.detectionContext :=
    if_neg (by simp [hflat])
  have hfinite : anyField isNonFinite request.detectionContext = false := by
    unfold ExperimentRuntimeRequest.Accepted freeze at hrequest
    split_ifs at hrequest with hany
    exact Bool.eq_false_iff.2 hany
  unfold ExperimentRuntime.fillReport
  rw [hcopy]
  refine Triple.bind (Triple.ofExcept (Q := fun detection s => detection =
      request.detectionContext ∧ Filed rt.artifactEventStore (keptEntries advice) s)
    (fun detection s hr hs => ⟨(Except.ok.inj hr).symm, hs⟩) fun _ _ hr => by cases hr)
    fun detection => ?_
  refine Triple.bind (Triple.modify fun s hs => ?_) fun _ =>
    Triple.bind (h.evaluateRecovery hid) fun _ => Triple.bind (h.emit hid ?_) fun _ =>
      h.attachEvents
  · obtain ⟨rfl, hs⟩ := hs
    refine ⟨?_, hs.cleanup, hs.events, hs.store, ?_, ?_⟩
    · refine anyField_update hs.report ?_
      simp [anyField, identityFields, anyValue, isNonFinite, hfinite, hs.cleanup]
    · obtain ⟨fields, hfields⟩ := hs.evaluation
      refine ⟨fields, ?_⟩
      unfold Json.getD at hfields ⊢
      rw [Json.lookup_update_ne (by simp [identityFields])]
      exact hfields
    · intro e he
      simp only [finishedEntries, List.cons_append, List.nil_append, List.mem_cons] at he
      rcases he with rfl | rfl | he
      · simp [Json.update, identityFields, Json.lookup_set_ne]
      · simp [Json.update, identityFields, Json.lookup_set_ne]
      · rw [Json.lookup_update_ne]
        · exact hs.entry e he
        · simp only [identityFields, List.cons_append, List.nil_append, List.mem_cons,
            List.not_mem_nil, or_false]
          rintro entry (rfl | rfl | rfl | rfl | rfl | rfl | rfl | rfl | rfl) <;>
            exact key_keptEntries he (by simp)
  · exact Text.isBlank_append (by decide +kernel)

/-- **A run that no coordinator finished is concluded** with the entries of the request. -/
theorem finish (h : setting.Behaves rt) (hid : Text.isBlank experimentId = false)
    (hrequest : request.Accepted) (hflat : anyField isMapping request.detectionContext = false)
    {status : String} (hstatus : Text.isBlank status = false) :
    Triple (Filed rt.artifactEventStore (keptEntries advice)) (rt.finish request experimentId status)
      (fun result _ => ∀ e ∈ finishedEntries request experimentId advice,
        result.report.lookup e.1 = e.2) (fun _ _ => False) := by
  unfold ExperimentRuntime.finish
  refine Triple.bind (h.fillReport hid hrequest hflat status) fun _ => Triple.bind_get fun s hs => ?_
  have hentry : ∀ key value, (key, value) ∈ finishedEntries request experimentId advice →
      s.report.lookup key = value := fun key value hmem => hs.entry (key, value) hmem
  have hfinalize : Triple (fun t => t = s) (Run.onHub (bridgeFinalize experimentId s.report))
      (fun _ _ => True) (fun _ _ => False) := by
    rintro t rfl
    have hrun : ∃ hub, (bridgeFinalize experimentId t.report).run t.hub = (.ok (), hub) := by
      have hget : (Eff.get : Eff (Hub σ) RuntimeException (Hub σ)).run t.hub = (.ok t.hub, t.hub) :=
        rfl
      unfold bridgeFinalize
      rw [Eff.run_bind, hget]
      dsimp only
      rcases hstore : t.hub.artifactStore with - | store
      · exact ⟨t.hub, rfl⟩
      · obtain ⟨⟨⟩, w, hw, -⟩ := (h.artifactEventStore store (hs.store.symm.trans hstore)).finalize
          (Json.set t.report "run_id" (.str experimentId)) t.hub.world
        refine ⟨{ t.hub with world := w }, ?_⟩
        simp [Hub.onWorld, hw]
    obtain ⟨hub, hrun⟩ := hrun
    refine ⟨fun _ _ _ => True.intro, fun e t' he => ?_⟩
    simp [Run.onHub, hrun] at he
  obtain ⟨session, hsession⟩ : ∃ session, rt.normalizeSession s.report = .ok session := by
    obtain ⟨fields, hfields⟩ := hs.evaluation
    have hrunId : Json.getD s.report "run_id" (.str "") = .str experimentId := by
      unfold Json.getD
      rw [hentry "run_id" (some (.str experimentId)) (by simp [finishedEntries])]
      rfl
    have hagents : Json.getD s.report "active_agents" (.arr []) = .arr [] := by
      unfold Json.getD
      rw [hentry "active_agents" none (by simp [finishedEntries, keptEntries, figureEntries])]
      rfl
    have hid' : Text.strip experimentId ≠ "" := fun hempty => by
      rw [Text.isBlank_iff.2 hempty] at hid
      cases hid
    rw [h.normalizeSession]
    dsimp only
    unfold Session.normalize
    rw [hrunId, hagents, hfields]
    have hreject : rejectIf (Text.strip (setting.python.str (.str experimentId)) = "")
        (RuntimeException.value "mutual supervision report is missing run_id") = .ok () :=
      if_neg hid'
    dsimp only
    rw [hreject]
    exact ⟨_, rfl⟩
  obtain ⟨result, hresult⟩ : ∃ result, makeResult experimentId status s.report session
      s.hub.events s.cleanup = .ok result := by
    have hreport : freeze s.report = .ok s.report := if_neg (by simp [hs.report])
    have hcleanup : freeze s.cleanup = .ok s.cleanup := if_neg (by simp [hs.cleanup])
    unfold makeResult stripIdentifier
    rw [hid, hstatus, hreport, hcleanup]
    exact ⟨_, rfl⟩
  have hput : Triple (fun _ => True) (rt.putSession session : Run σ App Unit) (fun _ _ => True)
      (fun _ _ => False) := by
    unfold ExperimentRuntime.putSession
    rcases hstore : rt.sessionStore with - | put
    · exact Triple.pure fun _ _ => True.intro
    · exact ((h.sessionStore put hstore session).onWorld fun _ _ _ => True.intro).weaken
        (fun _ hs => hs) (fun _ _ _ => True.intro) fun _ _ he => he
  rw [hsession]
  refine Triple.bind hfinalize fun _ => ?_
  show Triple _ (rt.putSession session >>= fun _ => Eff.ofExcept (makeResult experimentId status
    s.report session s.hub.events s.cleanup)) _ _
  rw [hresult]
  refine Triple.bind hput fun _ => Triple.ofExcept (fun value _ hr _ => ?_) fun _ _ hr => by cases hr
  obtain rfl := Except.ok.inj hr
  rw [makeResult_report experimentId hresult]
  exact hs.entry

/-- The statements after the `try` statement. -/
theorem conclude (h : setting.Behaves rt) (hid : Text.isBlank experimentId = false)
    (hrequest : request.Accepted) (hflat : anyField isMapping request.detectionContext = false)
    {status : String} (hstatus : Text.isBlank status = false) :
    Triple (Filed rt.artifactEventStore (("final_status", some (.str status)) :: keptEntries advice))
      (rt.conclude request experimentId)
      (fun result _ => ∀ e ∈ finishedEntries request experimentId advice,
        result.report.lookup e.1 = e.2) (fun _ _ => False) := by
  unfold ExperimentRuntime.conclude
  refine Triple.bind_get fun s hs => ?_
  have hfinal : rt.python.str (Json.getD s.report "final_status" (.str s.primaryStatus)) =
      status := by
    unfold Json.getD
    rw [hs.entry ("final_status", some (.str status)) List.mem_cons_self]
    rfl
  rw [hfinal]
  refine Triple.bind (Q := fun _ => Filed rt.artifactEventStore (keptEntries advice))
    (Triple.when (fun _ => Triple.modify fun t ht => ?_) fun t _ ht => ?_) fun _ =>
      h.finish hid hrequest hflat hstatus
  · subst ht
    have hkept : Filed rt.artifactEventStore (keptEntries advice) t :=
      { hs with entry := fun e he => hs.entry e (List.mem_cons_of_mem _ he) }
    exact hkept.set (by simp [anyValue, isNonFinite])
      (fun e he => key_keptEntries he (by simp)) fun heq => absurd heq (by decide)
  · subst ht
    exact { hs with entry := fun e he => hs.entry e (List.mem_cons_of_mem _ he) }

/-- The report that a run begins with, after an `except` clause. -/
theorem filed_start (rt : ExperimentRuntime σ App) (experimentId : String)
    (hrequest : request.Accepted)
    (hflat : anyField isMapping request.detectionContext = false)
    (hadvice : setting.advice request = .ok advice) :
    ∃ report, rt.baseReport request experimentId = .ok report ∧
      anyField isNonFinite (Json.update report advice) = false ∧
      Json.getD (Json.update report advice) "evaluation" (.obj []) = .obj [] ∧
      ∀ e ∈ keptEntries advice, (Json.update report advice).lookup e.1 = e.2 := by
  have hcopy : copyDetection request.detectionContext = .ok request.detectionContext :=
    if_neg (by simp [hflat])
  have hfinite : anyField isNonFinite request.detectionContext = false := by
    unfold ExperimentRuntimeRequest.Accepted freeze at hrequest
    split_ifs at hrequest with hany
    exact Bool.eq_false_iff.2 hany
  unfold baseReport
  rw [hcopy]
  refine ⟨_, rfl, ?_, ?_, ?_⟩
  · refine anyField_update ?_ (finite_advice hadvice)
    simp [anyField, anyValue, isNonFinite, identityFields, hfinite]
  · unfold Json.getD
    rw [Json.lookup_update_ne (notMem_advice hadvice (by simp))]
    simp [identityFields, List.lookup_cons]
  · intro e he
    simp only [keptEntries, List.mem_append] at he
    rcases he with he | he
    · rw [Json.lookup_update_ne (notMem_advice hadvice ?_)]
      · simp only [figureEntries, List.mem_cons, List.not_mem_nil, or_false] at he
        rcases he with rfl | rfl | rfl | rfl | rfl | rfl <;>
          simp [identityFields, List.lookup_cons]
      · simp only [figureEntries, List.mem_cons, List.not_mem_nil, or_false] at he
        rcases he with rfl | rfl | rfl | rfl | rfl | rfl <;> simp
    · obtain ⟨error, recommendation, herror, -, rfl⟩ := advice_eq_ok hadvice
      simp only [List.mem_cons, List.not_mem_nil, or_false] at he
      rcases herror with rfl | ⟨text, rfl⟩ <;> rcases he with rfl | rfl <;>
        simp [Json.update, Json.lookup_set_ne, List.lookup_cons]

end RuntimeSetting.Behaves

end Experiment
end AiopsK8s
