/-
# What a run owes after a fault

A run that injected a fault owes one cleanup of the application, and a run that took the
operation lock owes one release, after that cleanup.  `Discharged` says so about the
calls of a finished run.

Every exception of the `try` block is caught, so the `finally` block always begins.
There the event of the cleanup is emitted *before* the inner `try`: when the event sink
raises at that event, neither the cleanup nor the release is reached.
`discharged_iff` is that this is the only way to leave a debt.
-/

import AiopsK8s.Experiment.Runtime

namespace AiopsK8s
namespace Experiment

open Effect Run

variable {σ : Type} {App : Type} {α β γ : Type}

namespace Call

/-- The calls that are not failed emissions of the events of other stages. -/
def tracked : Call σ App → Bool
  | .emitRaised stage => stage == .cleanup
  | _ => true

/-- The application of a cleanup. -/
def cleaned? : Call σ App → Option App
  | .cleaned app .. => some app
  | _ => none

/-- An injection that returned an application. -/
def isInjection : Call σ App → Bool
  | .injected _ => true
  | _ => false

/-- The release of the lock. -/
def isRelease : Call σ App → Bool
  | .lockReleased => true
  | _ => false

end Call

/-- **What a finished run owes nobody**: an injected application was cleaned up once, a lock
that was entered was released once, and no cleanup came after the release. -/
structure Discharged (calls : List (Call σ App)) : Prop where
  cleaned : ∀ app, Call.injected app ∈ calls → calls.filterMap Call.cleaned? = [app]
  released : Call.lockEntered ∈ calls → (calls.filter Call.isRelease).length = 1
  ordered : ∀ before after, calls = before ++ Call.lockReleased :: after →
    after.filterMap Call.cleaned? = []

/-! ### The ledger of a run -/

/-- What the obligations of a run depend on. -/
def RunState.ledger (s : RunState σ App) : List (Call σ App) × Bool × Option App :=
  (s.calls.filter Call.tracked, s.lockAcquired, s.application)

/-- A computation that leaves a projection of the state alone, whatever its outcome. -/
def Keeps (f : RunState σ App → γ) (m : Run σ App α) : Prop := ∀ c, Stable (fun s => f s = c) m

/-- A computation that leaves the ledger alone. -/
abbrev Quiet (m : Run σ App α) : Prop := Keeps RunState.ledger m

namespace Keeps

variable {f : RunState σ App → γ}

theorem pure (a : α) : Keeps f (Pure.pure a : Run σ App α) := fun _ => Stable.pure a

theorem raise (e : RuntimeException) : Keeps f (Eff.raise e : Run σ App α) := fun _ =>
  Stable.raise e

theorem ofExcept (r : Except RuntimeException α) : Keeps f (Eff.ofExcept r : Run σ App α) :=
  fun _ => Stable.ofExcept r

theorem get : Keeps f (Eff.get : Run σ App (RunState σ App)) := fun _ => Stable.get

theorem bind {m : Run σ App α} {k : α → Run σ App β} (hm : Keeps f m)
    (hk : ∀ a, Keeps f (k a)) : Keeps f (m >>= k) := fun c => Stable.bind (hm c) fun a => hk a c

theorem attempt {m : Run σ App α} {c : RuntimeException → Bool} (hm : Keeps f m) :
    Keeps f (Eff.attempt c m) := fun v => Stable.attempt (hm v)

theorem modify {g : RunState σ App → RunState σ App} (h : ∀ s, f (g s) = f s) :
    Keeps f (Eff.modify g : Run σ App Unit) := fun _ =>
  Stable.modify fun s hs => (h s).trans hs

/-- What depends on the projection alone is kept with it. -/
theorem keeps {m : Run σ App α} (h : Keeps f m) (I : γ → Prop) : Stable (fun s => I (f s)) m := by
  intro s hs
  refine ⟨fun a s' hr => ?_, fun e s' hr => ?_⟩
  · have hl : f s' = f s := (h (f s) s rfl).1 a s' hr
    show I (f s')
    rw [hl]
    exact hs
  · have hl : f s' = f s := (h (f s) s rfl).2 e s' hr
    show I (f s')
    rw [hl]
    exact hs

theorem ite {c : Prop} [Decidable c] {m₁ m₂ : Run σ App α} (h₁ : Keeps f m₁) (h₂ : Keeps f m₂) :
    Keeps f (if c then m₁ else m₂) := by
  split
  · exact h₁
  · exact h₂

theorem when {c : Prop} [Decidable c] {m : Run σ App Unit} (h : Keeps f m) :
    Keeps f (Eff.when c m) := ite h (pure _)

theorem raiseIf (c : Prop) [Decidable c] (e : RuntimeException) :
    Keeps f (Eff.raiseIf c e : Run σ App Unit) := when (raise e)

end Keeps

/-- The keys that `_finish` writes into the report. -/
def lateKeys : List String :=
  ["run_id", "mode", "controller", "model", "incident_source", "benchmark_id", "detection",
    "final_status", "cleanup", "evaluation", "runtime_events", "artifacts"]

/-- A projection that depends on none of the things every part of a run changes: the state
shared with the environment, the record of other failed emissions and the late keys. -/
structure Frame (f : RunState σ App → γ) : Prop where
  hub : ∀ s hub, f { s with hub := hub } = f s
  emitRaised : ∀ s stage, stage ≠ .cleanup →
    f { s with calls := s.calls ++ [.emitRaised stage] } = f s
  entry : ∀ s key value, key ∈ lateKeys →
    f { s with report := Json.set s.report key value } = f s

theorem frame_ledger : Frame (RunState.ledger : RunState σ App → _) where
  hub _ _ := rfl
  emitRaised s stage h := by simp [RunState.ledger, Call.tracked, h]
  entry _ _ _ _ := rfl

namespace Frame

variable {f : RunState σ App → γ} (hf : Frame f)

include hf

/-- The computations of the environment and of the coordinator. -/
theorem onHub (m : Eff (Hub σ) RuntimeException α) : Keeps f (Run.onHub m : Run σ App α) :=
  fun _ => Stable.zoom fun hub s h => (hf.hub s hub).trans h

theorem onWorld (m : Eff σ RuntimeException α) : Keeps f (Run.onWorld m : Run σ App α) :=
  hf.onHub _

theorem setReport {key : String} (h : key ∈ lateKeys) (value : Json) :
    Keeps f (Run.setReport key value : Run σ App Unit) :=
  Keeps.modify fun s => hf.entry s key value h

theorem update {entries : Fields} (h : ∀ e ∈ entries, e.1 ∈ lateKeys) (s : RunState σ App) :
    f { s with report := Json.update s.report entries } = f s := by
  unfold Json.update
  induction entries generalizing s with
  | nil => rfl
  | cons e entries ih =>
      have hrest := ih (fun e' he' => h e' (List.mem_cons_of_mem _ he'))
        { s with report := Json.set s.report e.1 e.2 }
      exact hrest.trans (hf.entry s e.1 e.2 (h e List.mem_cons_self))

variable (rt : ExperimentRuntime σ App) (request : ExperimentRuntimeRequest)
  (experimentId : String)

/-- The emission of every event but that of the cleanup. -/
theorem emit {stage : RuntimeStage} (h : stage ≠ .cleanup) (message : String) :
    Keeps f (rt.emit experimentId stage message) := by
  unfold ExperimentRuntime.emit
  refine Keeps.bind (Keeps.attempt (hf.onHub _)) fun outcome => ?_
  cases outcome with
  | ok u => exact Keeps.pure _
  | error e =>
      exact Keeps.bind (Keeps.modify fun s => hf.emitRaised s stage h) fun _ => Keeps.raise e

theorem evaluateRecovery : Keeps f (rt.evaluateRecovery request experimentId) := by
  unfold ExperimentRuntime.evaluateRecovery
  refine Keeps.when (Keeps.bind (hf.emit rt experimentId (by decide) _) fun _ => ?_)
  refine Keeps.ite (hf.setReport (by decide) _) (Keeps.bind Keeps.get fun s => ?_)
  exact Keeps.bind (Keeps.ofExcept _) fun evaluation => hf.setReport (by decide) _

theorem attachEvents : Keeps f (ExperimentRuntime.attachEvents : Run σ App Unit) := by
  unfold ExperimentRuntime.attachEvents
  refine Keeps.bind Keeps.get fun s => Keeps.bind (hf.setReport (by decide) _) fun _ => ?_
  cases s.hub.artifactStore.bind ArtifactStore.paths with
  | none => exact Keeps.pure _
  | some paths => exact hf.setReport (by decide) _

theorem putSession (session : Json) : Keeps f (rt.putSession session) := by
  unfold ExperimentRuntime.putSession
  cases rt.sessionStore with
  | none => exact Keeps.pure _
  | some put => exact hf.onWorld _

/-- The first part of `_finish`: the entries it copies, the evaluation and the events. -/
theorem fillReport (status : String) : Keeps f (rt.fillReport request experimentId status) := by
  unfold ExperimentRuntime.fillReport
  refine Keeps.bind (Keeps.ofExcept _) fun detection => ?_
  refine Keeps.bind (Keeps.modify fun s => hf.update ?_ s) fun _ => ?_
  · intro e he
    simp only [ExperimentRuntime.identityFields, List.cons_append, List.nil_append,
      List.mem_cons, List.not_mem_nil, or_false] at he
    rcases he with rfl | rfl | rfl | rfl | rfl | rfl | rfl | rfl | rfl <;> simp [lateKeys]
  refine Keeps.bind (hf.evaluateRecovery rt request experimentId) fun _ => ?_
  refine Keeps.bind (hf.emit rt experimentId (by decide) _) fun _ => ?_
  exact hf.attachEvents

theorem finish (status : String) : Keeps f (rt.finish request experimentId status) := by
  unfold ExperimentRuntime.finish
  refine Keeps.bind (hf.fillReport rt request experimentId status) fun _ => ?_
  refine Keeps.bind Keeps.get fun s => Keeps.bind (hf.onHub _) fun _ => ?_
  refine Keeps.bind (Keeps.ofExcept _) fun session => ?_
  exact Keeps.bind (hf.putSession rt session) fun _ => Keeps.ofExcept _

end Frame

/-- The computations of the environment and of the coordinator leave the ledger alone. -/
theorem quiet_onHub (m : Eff (Hub σ) RuntimeException α) : Quiet (onHub m : Run σ App α) :=
  frame_ledger.onHub m

theorem quiet_onWorld (m : Eff σ RuntimeException α) : Quiet (onWorld m : Run σ App α) :=
  quiet_onHub _

theorem quiet_setReport (key : String) (value : Json) :
    Quiet (setReport key value : Run σ App Unit) :=
  Keeps.modify fun _ => rfl

namespace ExperimentRuntime

variable (rt : ExperimentRuntime σ App) (request : ExperimentRuntimeRequest)
  (experimentId : String)

/-- The emission of every event but that of the cleanup leaves the ledger alone. -/
theorem quiet_emit {stage : RuntimeStage} (h : stage ≠ .cleanup) (message : String) :
    Quiet (rt.emit experimentId stage message) :=
  frame_ledger.emit rt experimentId h message

theorem quiet_attachEventStore (coordinator : Coordinator σ) :
    Quiet (rt.attachEventStore coordinator) := by
  unfold attachEventStore
  cases coordinator.eventStore with
  | none => exact Keeps.pure _
  | some own => exact quiet_onHub _

theorem quiet_emitReportedStages (status : String) :
    Quiet (rt.emitReportedStages experimentId status) := by
  unfold emitReportedStages
  have hturn : ∀ (stage : RuntimeStage) (key : String), stage ≠ .cleanup →
      Quiet (do
        let s ← Eff.get
        Eff.when ((Json.get s.report key).truthy = true)
          (rt.emit experimentId stage ("runtime stage: " ++ key))) := fun stage key h =>
    Keeps.bind Keeps.get fun s => Keeps.when (rt.quiet_emit experimentId h _)
  refine Keeps.bind (Keeps.ite (Keeps.pure _) (hturn _ _ (by decide))) fun _ => ?_
  refine Keeps.bind (Keeps.ite (Keeps.pure _) (hturn _ _ (by decide))) fun _ => ?_
  refine Keeps.bind (Keeps.ite (Keeps.pure _) (hturn _ _ (by decide))) fun _ => ?_
  exact Keeps.pure _

theorem quiet_readReport (control : RuntimeControl σ) (coordinator : Coordinator σ) :
    Quiet (rt.readReport request experimentId control coordinator) := by
  have htranscript : ∀ transcripts, Quiet (setTranscript transcripts : Run σ App Unit) := by
    intro transcripts
    unfold setTranscript
    cases transcripts.find? (fun lines => !lines.isEmpty) with
    | none => exact Keeps.pure _
    | some transcript => exact quiet_setReport _ _
  unfold readReport
  refine Keeps.bind (quiet_onWorld _) fun _ => ?_
  refine Keeps.bind (Keeps.ofExcept _) fun detection => ?_
  refine Keeps.bind (Keeps.modify fun _ => rfl) fun _ => ?_
  refine Keeps.bind (quiet_onWorld _) fun transcripts => ?_
  refine Keeps.bind (htranscript _) fun _ => Keeps.bind Keeps.get fun s => ?_
  refine Keeps.bind (Keeps.modify fun _ => rfl) fun _ => ?_
  exact Keeps.bind (rt.quiet_emitReportedStages _ _) fun _ => quiet_setReport _ _

theorem quiet_runCoordinator (control : RuntimeControl σ) (coordinator : Coordinator σ)
    (timeouts : List (String × ℚ)) :
    Quiet (rt.runCoordinator request experimentId control coordinator timeouts) := by
  unfold runCoordinator
  refine Keeps.bind (rt.quiet_emit experimentId (by decide) _) fun _ => ?_
  refine Keeps.bind (rt.quiet_emit experimentId (by decide) _) fun _ => ?_
  refine Keeps.bind (rt.quiet_attachEventStore coordinator) fun _ => ?_
  refine Keeps.bind (quiet_onHub _) fun report => ?_
  refine Keeps.bind (Keeps.modify fun _ => rfl) fun _ => ?_
  exact rt.quiet_readReport request experimentId control coordinator

theorem quiet_conclude : Quiet (rt.conclude request experimentId) := by
  unfold conclude
  refine Keeps.bind Keeps.get fun s => ?_
  refine Keeps.bind (Keeps.when (quiet_setReport _ _)) fun _ => ?_
  exact frame_ledger.finish rt request experimentId _

/-! ### The `try` block -/

/-- The entry of a lock that was taken. -/
def entered (locked : Bool) : List (Call σ App) := if locked then [.lockEntered] else []

/-- Every application that the adapter's `inject` returns is a `Good` one. -/
def InjectsOnly (Good : App → Prop) : Prop :=
  ∀ scenario w app w', (rt.chaos.inject scenario).run w = (.ok (some app), w') → Good app

/-- The ledger in the `try` block: nothing has been done for the application yet. -/
def Owing (Good : App → Prop) (s : RunState σ App) : Prop :=
  ∃ locked app, s.ledger =
    (entered (locked && request.mode == .real) ++ (app.map Call.injected).toList, locked, app) ∧
      ∀ a, app = some a → Good a

/-- The ledger after the lock was taken and before a fault is injected. -/
def Locked (s : RunState σ App) : Prop :=
  s.ledger = (entered (request.mode == .real), true, none)

variable {Good : App → Prop}

theorem owing_of_start {s : RunState σ App} (h : s.ledger = ([], false, none)) :
    Owing request Good s := ⟨false, none, h, fun _ h => by cases h⟩

theorem owing_of_locked {s : RunState σ App} (h : Locked request s) : Owing request Good s :=
  ⟨true, none, by simpa [Locked] using h, fun _ h => by cases h⟩

theorem quiet_owing {m : Run σ App α} (h : Quiet m) : Stable (Owing request Good) m :=
  h.keeps fun l => ∃ locked app, l =
    (entered (locked && request.mode == .real) ++ (app.map Call.injected).toList, locked, app) ∧
      ∀ a, app = some a → Good a

/-- A quiet computation before the lock is taken. -/
theorem quiet_start {m : Run σ App α} (h : Quiet m) :
    Triple (fun s => s.ledger = ([], false, none)) m
      (fun _ s => s.ledger = ([], false, none)) (fun _ => Owing request Good) :=
  (h _).weaken (fun _ h => h) (fun _ _ h => h) (fun _ _ h => owing_of_start request h)

/-- A quiet computation between the lock and the injection. -/
theorem quiet_locked {m : Run σ App α} (h : Quiet m) :
    Triple (Locked request) m (fun _ => Locked request) (fun _ => Owing request Good) :=
  (h _).weaken (fun _ h => h) (fun _ _ h => h) (fun _ _ h => owing_of_locked request h)

/-- The lock is entered once, or an exception leaves the ledger empty. -/
theorem enterLock_spec :
    Triple (fun s => s.ledger = ([], false, none)) (rt.enterLock request)
      (fun _ => Locked request) (fun _ => Owing request Good) := by
  unfold enterLock
  refine Triple.ite (fun hreal => ?_) (fun hreal => ?_)
  · refine Triple.bind (quiet_start request (quiet_onWorld _)) fun _ => Triple.modify ?_
    intro s hs
    simp only [RunState.ledger, Prod.mk.injEq] at hs
    simp [Locked, RunState.ledger, hs.1, hs.2.2, hreal, entered, Call.tracked]
  · refine Triple.modify fun s hs => ?_
    simp only [RunState.ledger, Prod.mk.injEq] at hs
    simp [Locked, RunState.ledger, hs.1, hs.2.2, hreal, entered]

/-- An application that `inject` returned is entered with its injection. -/
theorem inject_spec (hgood : rt.InjectsOnly Good) :
    Triple (Locked request) (rt.inject request) (fun _ => Owing request Good)
      (fun _ => Owing request Good) := by
  unfold inject
  have hcall : Triple (Locked request) (onWorld (rt.chaos.inject request.scenarioId))
      (fun r s => Locked request s ∧ ∀ app, r = some app → Good app)
      (fun _ => Owing request Good) := by
    intro s hs
    have hworld : Quiet (onWorld (rt.chaos.inject request.scenarioId) : Run σ App _) :=
      quiet_onWorld _
    have hlocked : Triple (Locked request) (onWorld (rt.chaos.inject request.scenarioId))
        (fun _ => Locked request) (fun _ => Owing request Good) := quiet_locked request hworld
    have hquiet := hlocked s hs
    refine ⟨fun r s' hr => ⟨hquiet.1 r s' hr, fun app happ => ?_⟩, hquiet.2⟩
    rcases hw : (rt.chaos.inject request.scenarioId).run s.hub.world with ⟨r', w'⟩
    have hr' : r' = .ok r := by
      have := congrArg Prod.fst hr
      simpa [onWorld, onHub, Hub.onWorld, hw] using this
    rw [hr', happ] at hw
    exact hgood _ _ _ _ hw
  refine Triple.bind hcall fun application => ?_
  cases application with
  | none => exact Triple.pure fun s hs => owing_of_locked request hs.1
  | some app =>
      refine Triple.bind (Triple.modify fun s hs => ?_) fun _ => quiet_owing request (Keeps.pure _)
      obtain ⟨hl, happ⟩ := hs
      simp only [Locked, RunState.ledger, Prod.mk.injEq] at hl
      refine ⟨true, some app, ?_, happ⟩
      simp [RunState.ledger, hl.1, hl.2.1, Call.tracked]

/-- The chaos block injects at most one fault. -/
theorem injectFault_spec (hgood : rt.InjectsOnly Good) (control : RuntimeControl σ) :
    Triple (Locked request) (rt.injectFault request experimentId control)
      (fun _ => Owing request Good) (fun _ => Owing request Good) := by
  have hrequired : ∀ application, Quiet (rt.requireInjected application) := by
    intro application
    cases application with
    | none => exact Keeps.raise _
    | some app => exact Keeps.raiseIf _ _
  unfold injectFault
  refine Triple.bind (quiet_locked request (quiet_onWorld _)) fun _ => ?_
  refine Triple.bind (quiet_locked request (quiet_onWorld _)) fun preflight => ?_
  refine Triple.bind (quiet_locked request (Keeps.raiseIf _ _)) fun _ => ?_
  refine Triple.bind (quiet_locked request (quiet_onWorld _)) fun _ => ?_
  refine Triple.bind (quiet_locked request (rt.quiet_emit experimentId (by decide) _))
    fun _ => ?_
  refine Triple.bind (quiet_locked request (quiet_onWorld _)) fun _ => ?_
  refine Triple.bind (rt.inject_spec request hgood) fun application => quiet_owing request ?_
  exact Keeps.bind (hrequired application) fun _ => quiet_onWorld _

/-- The `try` block takes the lock at most once and injects at most one fault. -/
theorem body_spec (hgood : rt.InjectsOnly Good) (control : RuntimeControl σ) :
    Triple (fun s => s.ledger = ([], false, none)) (rt.body request experimentId control)
      (fun _ => Owing request Good) (fun _ => Owing request Good) := by
  unfold body
  refine Triple.bind (quiet_start request (Keeps.ofExcept _)) fun _ => ?_
  refine Triple.bind (quiet_start request (quiet_onWorld _)) fun coordinator => ?_
  refine Triple.bind (quiet_start request (quiet_onWorld _)) fun timeouts => ?_
  refine Triple.bind (quiet_start request (Keeps.ofExcept _)) fun _ => ?_
  refine Triple.bind (quiet_start request (quiet_onWorld _)) fun _ => ?_
  refine Triple.bind (rt.enterLock_spec request) fun _ => ?_
  refine Triple.bind (quiet_locked request (rt.quiet_emit experimentId (by decide) _))
    fun _ => ?_
  refine Triple.bind (Triple.when (fun _ => rt.injectFault_spec request experimentId hgood control)
    (fun s _ hs => owing_of_locked request hs)) fun _ => ?_
  refine quiet_owing request (Keeps.bind (quiet_onWorld _) fun _ => ?_)
  exact rt.quiet_runCoordinator request experimentId control coordinator timeouts

/-- The `except` clauses catch everything, so the `finally` block begins. -/
theorem guarded_spec (hgood : rt.InjectsOnly Good) (control : RuntimeControl σ) :
    Triple (fun s => s.ledger = ([], false, none)) (rt.guarded request experimentId control)
      (fun _ => Owing request Good) (fun _ _ => False) := by
  unfold guarded
  refine Triple.bind (Triple.attempt (rt.body_spec request experimentId hgood control)
    (fun _ _ h _ => by cases h)) fun outcome => ?_
  cases outcome with
  | ok u => exact Triple.pure fun s hs => hs
  | error e =>
      refine Triple.modify fun s hs => ?_
      obtain ⟨locked, app, hl, happ⟩ := hs.2
      exact ⟨locked, app, hl, happ⟩

/-! ### The `finally` block -/

/-- The release of a lock that was taken. -/
def leaving (locked : Bool) : List (Call σ App) := if locked then [.lockReleased] else []

/-- The tracked calls of a run that owes nothing. -/
inductive Settled : List (Call σ App) → Prop where
  | idle (locked : Bool) : Settled (entered locked ++ leaving locked)
  | cleaned (locked : Bool) (app : App) (world : σ) (report : Fields) :
      Settled (entered locked ++ [.injected app, .cleaned app world report] ++ leaving locked)

/-- The tracked calls of a run that could not emit the event of the cleanup. -/
def Abandoned (calls : List (Call σ App)) : Prop :=
  ∃ locked app, calls = entered locked ++ [.injected app, .emitRaised .cleanup]

/-- The calls of a run are settled. -/
def IsSettled (s : RunState σ App) : Prop := Settled (s.calls.filter Call.tracked)

/-- The calls of a run are settled, or the application was abandoned. -/
def IsClosed (s : RunState σ App) : Prop :=
  IsSettled s ∨ Abandoned (s.calls.filter Call.tracked)

/-- The release follows the cleanup; an exception of `__exit__` itself comes after it. -/
theorem releaseLock_spec {calls : List (Call σ App)} {locked : Bool} {o : Option App}
    (h : Settled (calls ++ leaving (locked && request.mode == .real))) :
    Triple (fun s => s.ledger = (calls, locked, o)) (rt.releaseLock request)
      (fun _ => IsSettled) (fun _ => IsSettled) := by
  unfold releaseLock
  refine Triple.bind_get fun s hs => ?_
  have hlocked : s.lockAcquired = locked := congrArg (fun l => l.2.1) hs
  have hcalls : s.calls.filter Call.tracked = calls := congrArg (fun l => l.1) hs
  refine Triple.when (fun hr => ?_) (fun t hr ht => ?_)
  · refine Triple.bind (Q := fun _ => IsSettled) (Triple.modify fun t ht => ?_) fun _ =>
      (quiet_onWorld rt.lock.exit).keeps fun l => Settled l.1
    have hsettled : Settled (calls ++ [.lockReleased]) := by
      simpa [leaving, ← hlocked, hr.1, hr.2] using h
    have hrelease : (Call.lockReleased : Call σ App).tracked = true := rfl
    simpa [ht, IsSettled, hrelease, List.filter_cons, hcalls] using hsettled
  · have hfalse : (locked && request.mode == .real) = false := by
      rw [← hlocked]
      by_cases hl : s.lockAcquired = true
      · simp [show request.mode ≠ .real from fun hm => hr ⟨hl, hm⟩]
      · simp [hl]
    simpa [ht, IsSettled, hcalls, hfalse, leaving] using h

/-- The cleanup is called whatever it does, and none of its exceptions passes. -/
theorem cleanUp_spec {calls : List (Call σ App)} {locked : Bool} {own : Option App} (app : App) :
    Triple (fun s => s.ledger = (calls, locked, own)) (rt.cleanUp app)
      (fun _ s => ∃ world report,
        s.ledger = (calls ++ [.cleaned app world report], locked, own)) (fun _ _ => False) := by
  unfold cleanUp
  refine Triple.bind_get fun s hs => ?_
  refine Triple.bind (Q := fun _ t => ∃ world report,
      t.ledger = (calls ++ [.cleaned app world report], locked, own))
    (Triple.modify fun t ht => ⟨s.hub.world, s.report, ?_⟩) fun _ => ?_
  · simp only [RunState.ledger, Prod.mk.injEq] at hs
    simp [ht, RunState.ledger, hs, Call.tracked]
  have hworld : Quiet (onWorld (rt.chaos.cleanup app) : Run σ App _) := quiet_onWorld _
  have hcall := hworld.keeps fun l =>
    ∃ world report, l = (calls ++ [.cleaned app world report], locked, own)
  refine Triple.bind (Triple.attempt hcall fun _ _ h _ => by cases h) fun outcome => ?_
  cases outcome with
  | ok result => exact Triple.modify fun t ht => ht
  | error e => exact Triple.modify fun t ht => ht.2

/-- The event of the cleanup: where its emission fails, the failure is recorded. -/
theorem emit_cleanup_spec {calls : List (Call σ App)} {locked : Bool} {own : Option App}
    (message : String) :
    Triple (fun s => s.ledger = (calls, locked, own)) (rt.emit experimentId .cleanup message)
      (fun _ s => s.ledger = (calls, locked, own))
      (fun _ s => s.ledger = (calls ++ [.emitRaised .cleanup], locked, own)) := by
  unfold emit
  refine Triple.bind (Triple.attempt (quiet_onHub _ _) fun _ _ h _ => by cases h)
    fun outcome => ?_
  cases outcome with
  | ok u => exact Triple.pure fun s hs => hs
  | error e =>
      refine Triple.bind (Triple.modify fun s hs => ?_) fun _ => Triple.raise fun s hs => hs
      have hl := hs.2
      simp only [RunState.ledger, Prod.mk.injEq] at hl
      simp [RunState.ledger, hl, Call.tracked]

/-- The cleanup of the `finally` block: either the event could not be emitted, or the
application was cleaned up. -/
theorem settleApplication_spec {locked : Bool} (app : App) :
    Triple (fun s => s.ledger =
        (entered (locked && request.mode == .real) ++ [.injected app], locked, some app))
      (rt.settleApplication experimentId (some app))
      (fun _ s => ∃ world report, s.ledger = (entered (locked && request.mode == .real) ++
        [.injected app, .cleaned app world report], locked, some app))
      (fun _ => IsClosed) := by
  unfold settleApplication
  refine Triple.bind ((rt.emit_cleanup_spec experimentId _).weaken (fun _ h => h)
    (fun _ _ h => h) (fun _ t ht => .inr ?_)) fun _ => ?_
  · have hcalls : t.calls.filter Call.tracked = _ := congrArg (fun l => l.1) ht
    exact ⟨locked && request.mode == .real, app, by simpa using hcalls⟩
  · refine (rt.cleanUp_spec app).weaken (fun _ h => h) (fun _ t ht => ?_) (fun _ _ h => h.elim)
    obtain ⟨world, report, ht⟩ := ht
    exact ⟨world, report, by simpa using ht⟩

/-- **The `finally` block settles the ledger**, with a debt only where the event of the
cleanup could not be emitted. -/
theorem finallyBlock_spec :
    Triple (Owing request Good) (rt.finallyBlock request experimentId)
      (fun _ => IsSettled) (fun _ => IsClosed) := by
  unfold finallyBlock
  refine Triple.bind_get fun s hs => ?_
  obtain ⟨locked, app, hl, -⟩ := hs
  have happ : s.application = app := congrArg (fun l => l.2.2) hl
  rw [happ]
  cases app with
  | none =>
      refine Triple.bind (Q := fun _ t => t = s) (Triple.pure fun t ht => ht) fun _ => ?_
      intro t ht
      have hrelease := rt.releaseLock_spec request (o := none)
        (.idle (locked && request.mode == .real)) t (by subst ht; simpa using hl)
      exact ⟨hrelease.1, fun e t' hr => .inl (hrelease.2 e t' hr)⟩
  | some app =>
      have hstart : ∀ t, t = s → t.ledger =
          (entered (locked && request.mode == .real) ++ [.injected app], locked, some app) := by
        intro t ht
        rw [ht, hl]
        simp
      refine Triple.bind ((rt.settleApplication_spec request experimentId app).weaken hstart
        (fun _ _ h => h) (fun _ _ h => h)) fun _ t ht => ?_
      obtain ⟨world, report, ht⟩ := ht
      have hcleaned := Settled.cleaned (locked && request.mode == .real) app world report
      have hrelease := rt.releaseLock_spec request (by simpa using hcleaned) t ht
      exact ⟨hrelease.1, fun e t' hr => .inl (hrelease.2 e t' hr)⟩

/-- A run from its `try` statement on settles its calls if it returns. -/
theorem supervised_spec (control : RuntimeControl σ) :
    Triple (fun s => s.ledger = ([], false, none)) (rt.supervised request experimentId control)
      (fun _ => IsSettled) (fun _ => IsClosed) := by
  unfold supervised
  have hgood : rt.InjectsOnly fun _ => True := fun _ _ _ _ _ => trivial
  refine Triple.bind ((rt.guarded_spec request experimentId hgood control).weaken (fun _ h => h)
    (fun _ _ h => h) (fun _ _ h => h.elim)) fun _ => ?_
  refine Triple.bind (rt.finallyBlock_spec request experimentId) fun _ => ?_
  have hkeeps := (rt.quiet_conclude request experimentId).keeps fun l => Settled l.1
  exact hkeeps.weaken (fun _ h => h) (fun _ _ h => h) (fun _ _ h => .inl h)

/-- What a run does before its `try` statement leaves the ledger empty. -/
theorem run_spec {Q : ExperimentRuntimeResult → RunState σ App → Prop}
    {E : RuntimeException → RunState σ App → Prop}
    (hE : ∀ e s, s.ledger = ([], false, none) → E e s)
    (h : ∀ experimentId control, Triple (fun s => s.ledger = ([], false, none))
      (rt.supervised request experimentId control) Q E) :
    Triple (fun s => s.ledger = ([], false, none)) (rt.run request) Q E := by
  have hquiet : ∀ {γ : Type} {m : Run σ App γ}, Quiet m →
      Triple (fun t => t.ledger = ([], false, none)) m
        (fun _ t => t.ledger = ([], false, none)) E := fun hm =>
    (hm _).weaken (fun _ h => h) (fun _ _ h => h) hE
  unfold run
  refine Triple.bind (hquiet (quiet_onWorld _)) fun experimentId => ?_
  refine Triple.bind (hquiet (Keeps.ofExcept _)) fun report => ?_
  refine Triple.bind (hquiet (quiet_onWorld _)) fun advice => ?_
  refine Triple.bind (hquiet (Keeps.modify fun _ => rfl)) fun _ => ?_
  refine Triple.bind (hquiet (quiet_onWorld _)) fun start => ?_
  exact h experimentId _

/-- **A run that returns settles its calls**, and one that raises settles them or abandons
the application. -/
theorem run_settled :
    Triple (fun s => s.ledger = ([], false, none)) (rt.run request)
      (fun _ => IsSettled) (fun _ => IsClosed) := by
  refine rt.run_spec request (fun _ t ht => .inl ?_) (rt.supervised_spec request)
  have hcalls : t.calls.filter Call.tracked = [] := congrArg (fun l => l.1) ht
  unfold IsSettled
  rw [hcalls]
  exact Settled.idle false

end ExperimentRuntime

/-! ### Debts -/

theorem cleaned_tracked (calls : List (Call σ App)) :
    (calls.filter Call.tracked).filterMap Call.cleaned? = calls.filterMap Call.cleaned? := by
  rw [List.filterMap_filter]
  congr 1
  funext call
  cases call <;> simp [Call.tracked, Call.cleaned?]

theorem isRelease_tracked (calls : List (Call σ App)) :
    (calls.filter Call.tracked).filter Call.isRelease = calls.filter Call.isRelease := by
  rw [List.filter_filter]
  congr 1
  funext call
  cases call <;> simp [Call.tracked, Call.isRelease]

/-- The calls that discharge a debt are tracked. -/
theorem discharged_of_tracked {calls : List (Call σ App)}
    (h : Discharged (calls.filter Call.tracked)) : Discharged calls := by
  refine ⟨fun app happ => ?_, fun hlock => ?_, fun before after hcalls => ?_⟩
  · rw [← cleaned_tracked]
    exact h.cleaned app (List.mem_filter.2 ⟨happ, rfl⟩)
  · rw [← isRelease_tracked]
    exact h.released (List.mem_filter.2 ⟨hlock, rfl⟩)
  · rw [← cleaned_tracked]
    refine h.ordered (before.filter Call.tracked) _ ?_
    rw [hcalls, List.filter_append, List.filter_cons]
    rfl

/-- An injected application that nobody cleaned up is a debt. -/
theorem not_discharged {calls : List (Call σ App)} (h : calls.any Call.isInjection = true)
    (hnone : (calls.filterMap Call.cleaned?).isEmpty = true) : ¬Discharged calls := by
  intro hd
  obtain ⟨call, hmem, hcall⟩ := List.any_eq_true.1 h
  cases call with
  | injected app =>
      have hone := hd.cleaned app hmem
      rw [List.isEmpty_iff.1 hnone] at hone
      cases hone
  | _ => simp [Call.isInjection] at hcall

namespace ExperimentRuntime

/-- Nothing comes after the release of a lock. -/
theorem nil_of_leaving {calls before after : List (Call σ App)} {locked : Bool}
    (hno : Call.lockReleased ∉ calls)
    (h : calls ++ leaving locked = before ++ Call.lockReleased :: after) : after = [] := by
  rcases List.eq_nil_or_concat after with hnil | ⟨rest, last, rfl⟩
  · exact hnil
  · exfalso
    apply hno
    cases locked with
    | false =>
        have hcalls : calls = before ++ Call.lockReleased :: (rest ++ [last]) := by
          simpa [leaving] using h
        simp [hcalls]
    | true =>
        have hcalls : calls ++ [Call.lockReleased]
            = (before ++ Call.lockReleased :: rest) ++ [last] := by
          simpa [leaving] using h
        have hpre := (List.append_inj' hcalls rfl).1
        simp [hpre]

/-- Settled calls owe nothing. -/
theorem Settled.discharged {calls : List (Call σ App)} (h : Settled calls) :
    Discharged calls ∧ Call.emitRaised .cleanup ∉ calls := by
  have hentered : ∀ locked : Bool, Call.lockReleased ∉ (entered locked : List (Call σ App)) := by
    intro locked
    cases locked <;> simp [entered]
  cases h with
  | idle locked =>
      refine ⟨⟨fun app happ => ?_, ?_, fun before after hc => ?_⟩, ?_⟩
      · cases locked <;> simp [entered, leaving] at happ
      · cases locked
        · simp [entered, leaving]
        · exact fun _ => rfl
      · rw [nil_of_leaving (hentered locked) hc]
        rfl
      · cases locked <;> simp [entered, leaving]
  | cleaned locked app world report =>
      refine ⟨⟨fun app' happ => ?_, ?_, fun before after hc => ?_⟩, ?_⟩
      · have heq : app' = app := by
          cases locked <;> simpa [entered, leaving] using happ
        rw [heq]
        cases locked <;> rfl
      · cases locked
        · simp [entered, leaving]
        · exact fun _ => rfl
      · have hpre : Call.lockReleased ∉
            entered locked ++ [.injected app, .cleaned app world report] := by
          simp [hentered]
        rw [nil_of_leaving hpre hc]
        rfl
      · cases locked <;> simp [entered, leaving]

/-- An abandoned application is a debt. -/
theorem Abandoned.not_discharged {calls : List (Call σ App)} (h : Abandoned calls) :
    ¬Discharged calls ∧ Call.emitRaised .cleanup ∈ calls := by
  obtain ⟨locked, app, rfl⟩ := h
  refine ⟨Experiment.not_discharged ?_ ?_, by simp⟩ <;> cases locked <;> rfl

/-- **Exactly when a run leaves a debt.**  Whatever the event sink, the coordinator, the
adapter and the clock do, a run that returns or raises has cleaned up the application it
injected, once, and has then released the lock it took, once, if and only if the sink did
not raise at the event of the cleanup. -/
theorem discharged_iff (rt : ExperimentRuntime σ App) (request : ExperimentRuntimeRequest)
    (world : σ) :
    Discharged ((rt.run request).run (RunState.initial rt world)).2.calls ↔
      Call.emitRaised .cleanup ∉ ((rt.run request).run (RunState.initial rt world)).2.calls := by
  rcases hr : (rt.run request).run (RunState.initial rt world) with ⟨r, s⟩
  have hclosed : IsClosed s := by
    have hspec := rt.run_settled request (RunState.initial rt world) rfl
    cases r with
    | ok result => exact .inl (hspec.1 _ _ hr)
    | error e => exact hspec.2 _ _ hr
  have hraised : Call.emitRaised .cleanup ∈ s.calls.filter Call.tracked ↔
      Call.emitRaised .cleanup ∈ s.calls := by
    rw [List.mem_filter]
    exact and_iff_left rfl
  rcases hclosed with hsettled | habandoned
  · obtain ⟨hd, hno⟩ := hsettled.discharged
    exact iff_of_true (discharged_of_tracked hd) fun hmem => hno (hraised.2 hmem)
  · obtain ⟨hnot, hmem⟩ := Abandoned.not_discharged habandoned
    obtain ⟨locked, app, hcalls⟩ := habandoned
    refine iff_of_false (fun hd => ?_) fun hno => hno (hraised.1 hmem)
    have happ : Call.injected app ∈ s.calls.filter Call.tracked := by
      rw [hcalls]
      simp
    have hone := hd.cleaned app (List.mem_filter.1 happ).1
    rw [← cleaned_tracked, hcalls] at hone
    cases locked <;> cases hone

end ExperimentRuntime

/-! ### A sink that fails at the cleanup -/

/-- A Chaos Mesh experiment on one registered scenario. -/
def cpuStressRequest : ExperimentRuntimeRequest :=
  { scenarioId := "cpu-stress", ns := "online-boutique", deployment := "frontend"
    metric := "cpu_usage", threshold := 80, mode := .real, backend := .python
    controller := "deterministic", model := "", incidentSource := "chaos_mesh"
    benchmarkId := "", detectionContext := [] }

/-- The configuration that registers the scenario of `cpuStressRequest`. -/
def cpuStressConfiguration : RuntimeConfiguration :=
  { allowedNamespaces := ["online-boutique"], allowedDeployments := ["frontend"]
    metricQueries := ["cpu_usage"]
    scenarios := [("cpu-stress", ⟨some "online-boutique", some "frontend", some "cpu_usage",
      some 80, "chaos_mesh", ""⟩)]
    experimentSeconds := 300 }

/-- A coordinator that reports a recovery. -/
def recoveredCoordinator : Coordinator σ :=
  { mode := some "real", backend := none, hasLockFlag := true, eventStore := none
    run := fun _ _ _ _ _ => pure [("final_status", .str "recovered")]
    transcripts := pure [] }

/-- A runtime around an adapter and an event sink, in which nothing else fails. -/
def runtimeAround (chaos : Chaos σ App) (sink : RuntimeEvent → Eff σ RuntimeException Unit) :
    ExperimentRuntime σ App :=
  { python := Python.ascii, configuration := cpuStressConfiguration, chaos
    coordinatorFactory := fun _ => pure recoveredCoordinator
    validateAdmission := fun _ _ => pure []
    eventSink := sink, experimentId := pure "exp-1", now := pure "2026-01-01T00:00:00+00:00"
    artifactEventStore := none, cancelled := none
    lock := ⟨"token", pure (), pure (.obj []), pure ()⟩, sessionStore := none
    clock := pure 0, advise := fun _ => pure [], evaluate := fun _ => .ok .null
    normalizeSession := fun _ => .ok .null }

/-- An adapter whose calls all succeed, with a sink that is closed before the cleanup. -/
def closedSinkRuntime : ExperimentRuntime Unit Unit :=
  runtimeAround
    { preflight := pure ⟨true, none⟩, inject := fun _ => pure (some ())
      status := fun _ => ⟨true, none⟩, cleanup := fun _ => pure (.mapping [("valid", .bool true)]) }
    fun event =>
      if event.stage = .cleanup then Eff.raise (.exception "sink is closed") else pure ()

/-- The fault of this run stays in the cluster, and the target stays locked. -/
theorem closedSink_not_discharged :
    ¬Discharged ((closedSinkRuntime.run cpuStressRequest).run
      (RunState.initial closedSinkRuntime ())).2.calls :=
  not_discharged (by decide +kernel) (by decide +kernel)

end Experiment
end AiopsK8s
