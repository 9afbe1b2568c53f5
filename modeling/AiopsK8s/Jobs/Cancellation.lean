/-
# No lost cancel

`submit`, `cancel` and `shutdown` of `ExperimentJobRunner` next to the thread of `_run_job`.
`submit` makes the row of the job visible before it fills the runner's maps and starts the
thread; `cancel` writes the request to the row first and looks the event up in a map
afterwards; the thread tests the event for the last time before it stores its result.

So a call of `cancel` can be told `cancelling` with no effect in two ways: it looks the event
up before `submit` has put it there, or the thread has made its last test already.
`cancel_kept_iff` is that these are the only ones.

The maps are read and written under the runner's condition: `shutdown` keeps it over several
statements, every other access is a single one.
-/

import AiopsK8s.Jobs.Races

namespace AiopsK8s
namespace Jobs

open Steps
open Experiment (Fields)

/-- Where `submit` is. -/
inductive SubmitPhase where
  | creating
  | confirming
  | registering
  | submitted
  deriving DecidableEq, Repr

/-- Where a call of `cancel` or `shutdown` is.  From `stopReading` to `stopSignalling` a
`shutdown` holds the condition. -/
inductive CallPhase where
  | idle
  | cancelReading
  | cancelWriting
  | cancelConfirming
  | cancelSignalling (job : ExperimentJob)
  | cancelled (job : ExperimentJob)
  | listing
  | stopReading
  | stopWriting
  | stopConfirming
  | stopSignalling
  | joining
  | stopped
  | raised

/-- The call has not begun. -/
def CallPhase.isIdle : CallPhase → Bool
  | idle => true
  | _ => false

/-- The call holds the condition. -/
def CallPhase.isHolding : CallPhase → Bool
  | stopReading => true
  | stopWriting => true
  | stopConfirming => true
  | stopSignalling => true
  | _ => false

/-- One submission with its thread, and the calls of `cancel` and `shutdown`. -/
structure Session where
  jobs : State
  submit : SubmitPhase
  calls : ℕ → CallPhase
  holder : Option ℕ

/-- What may happen next. -/
inductive SessionAction where
  | submit (now : String)
  | thread (a : Action)
  | cancel (i : ℕ)
  | shutdown (i : ℕ)
  | call (i : ℕ) (now : String)

/-- The actions of the thread and of its experiment. -/
def Action.isThread : Action → Bool
  | runner _ => true
  | emit _ => true
  | returned _ _ => true
  | raised _ => true
  | _ => false

/-- The thread is about to take the job out of the maps. -/
def RunnerPhase.isLeaving : RunnerPhase → Bool
  | leaving _ => true
  | _ => false

namespace Session

variable (s : Session)

def setCall (i : ℕ) (phase : CallPhase) : Session :=
  { s with calls := Function.update s.calls i phase }

def setJobs (jobs : State) : Session := { s with jobs }

/-- The `UPDATE` of `request_cancel`. -/
def requestCancel (now : String) : Session :=
  s.setJobs (s.jobs.setStore (s.jobs.store.update (ExperimentJob.requestCancel now)))

end Session

section System

variable (py : Python) (experimentId : String) (request : JobRequest)

/-- The next statement of `submit`. -/
def advanceSubmit (s : Session) (now : String) : Option Session :=
  match s.submit with
  | .creating =>
    some { s.setJobs (s.jobs.setStore ⟨some (.created request now), s.jobs.store.events⟩) with
      submit := .confirming }
  | .confirming =>
    match s.jobs.store.row with
    | none => none
    | some _ => some { s with submit := .registering }
  | .registering =>
    if s.holder = none then
      some { s.setJobs { s.jobs with registered := true } with submit := .submitted }
    else none
  | .submitted => none

/-- The next statement of the thread, once it is started. -/
def advanceThread (s : Session) (a : Action) : Option Session :=
  if s.submit = .submitted ∧ a.isThread = true ∧
      ¬(s.jobs.runner.isLeaving = true ∧ s.holder ≠ none) then
    (step py experimentId s.jobs a).map s.setJobs
  else none

/-- The next statement of a call. -/
def advanceCall (s : Session) (i : ℕ) (now : String) : Option Session :=
  match s.calls i with
  | .idle => none
  | .cancelReading =>
    match s.jobs.store.row with
    | none => some (s.setCall i .raised)
    | some job =>
      some (s.setCall i (if job.status.terminal then .cancelSignalling job else .cancelWriting))
  | .cancelWriting => some ((s.requestCancel now).setCall i .cancelConfirming)
  | .cancelConfirming =>
    match s.jobs.store.row with
    | none => some (s.setCall i .raised)
    | some job => some (s.setCall i (.cancelSignalling job))
  | .cancelSignalling job =>
    if s.holder = none then
      some ((s.setJobs { s.jobs with
        cancellation := s.jobs.cancellation || s.jobs.registered }).setCall i (.cancelled job))
    else none
  | .cancelled _ => none
  | .listing =>
    if s.holder = none then
      if s.jobs.registered then some ({ s with holder := some i }.setCall i .stopReading)
      else some (s.setCall i .stopped)
    else none
  | .stopReading =>
    match s.jobs.store.row with
    | none => some (s.setCall i .stopSignalling)
    | some job => some (s.setCall i (if job.status.terminal then .stopSignalling else .stopWriting))
  | .stopWriting => some ((s.requestCancel now).setCall i .stopConfirming)
  | .stopConfirming => some (s.setCall i .stopSignalling)
  | .stopSignalling =>
    some ({ s.setJobs { s.jobs with cancellation := true } with holder := none }.setCall i .joining)
  | .joining => some (s.setCall i .stopped)
  | .stopped => none
  | .raised => none

/-- One action of the system. -/
def session (s : Session) : SessionAction → Option Session
  | .submit now => advanceSubmit request s now
  | .thread a => advanceThread py experimentId s a
  | .cancel i => if (s.calls i).isIdle then some (s.setCall i .cancelReading) else none
  | .shutdown i => if (s.calls i).isIdle then some (s.setCall i .listing) else none
  | .call i now => advanceCall s i now

end System

/-- Before `submit`. -/
def Session.initial : Session :=
  { jobs :=
      { store := ⟨none, []⟩
        runner := .fetching
        sequence := 0
        cancellation := false
        registered := false
        clients := fun _ => .idle }
    submit := .creating
    calls := fun _ => .idle
    holder := none }

/-! ### What a cancel promises -/

/-- A call of `cancel` has returned a job whose status is `cancelling`. -/
def Accepted (s : Session) : Prop :=
  ∃ i job, s.calls i = .cancelled job ∧ job.status = .cancelling

/-- The status that the thread has decided on in its last test of the event. -/
def RunnerPhase.decided : RunnerPhase → Option ExperimentJobStatus
  | storing _ p => some p.terminalStatus
  | saving _ p => some p.terminalStatus
  | reporting o => some o.status
  | leaving o => some o.status
  | finished o => o.map Outcome.status
  | _ => none

/-- A call of `cancel` returns `cancelling` before the maps have the job, or after the thread
has decided on `completed`. -/
def LostCancel (s : Session) : SessionAction → Prop
  | .call i _ => (∃ job, s.calls i = .cancelSignalling job ∧ job.status = .cancelling) ∧
      s.holder = none ∧ (s.submit ≠ .submitted ∨ s.jobs.runner.decided = some .completed)
  | _ => False

section Promise

variable (py : Python) (experimentId : String) (request : JobRequest)

/-- Whenever a call has returned `cancelling`, the event is set or the run has stored a
terminal status, and the run stores no `completed`. -/
def CancelKept (acts : List SessionAction) (s₀ : Session) : Prop :=
  ∀ before after s, acts = before ++ after →
    exec (session py experimentId request) before s₀ = some s → Accepted s →
    (s.jobs.cancellation = true ∨ s.jobs.runner.stored.isSome) ∧
      ∀ more t o, exec (session py experimentId request) more s = some t →
        t.jobs.runner.stored = some o → o.status ≠ .completed

end Promise

/-! ### One action -/

section Thread

variable (py : Python) (experimentId : String)

/-- The status that the thread decides on is the one of its last test of the event. -/
theorem runner_decided {s t : State} {now : String}
    (hstep : advanceRunner py experimentId s now = some t) :
    t.cancellation = s.cancellation ∧
      (t.registered = s.registered ∨ t.runner.stored.isSome = true) ∧
      ∀ status, t.runner.decided = some status → s.runner.decided = some status ∨
        ∃ job p, s.runner = .closing job p ∧
          status = (closeProgress s.cancellation p).terminalStatus := by
  unfold advanceRunner at hstep
  cases hphase : s.runner <;> rw [hphase] at hstep <;> dsimp only at hstep
  case fetching | requiring | confirming | appending =>
    split at hstep <;> cases hstep <;> exact ⟨rfl, .inl rfl, fun _ h => by cases h⟩
  case starting =>
    cases hstep
    exact ⟨rfl, .inl rfl, fun _ h => by cases h⟩
  case checking =>
    split at hstep
    · cases hstep
      exact ⟨rfl, .inl rfl, fun _ h => by cases h⟩
    · split at hstep <;> cases hstep <;> exact ⟨rfl, .inl rfl, fun _ h => by cases h⟩
  case attempting | finished => cases hstep
  case closing job p =>
    cases hstep
    refine ⟨rfl, .inl rfl, fun status h => .inr ⟨job, p, rfl, ?_⟩⟩
    cases h
    rfl
  case storing job p =>
    split at hstep
    · cases hstep
      exact ⟨rfl, .inl rfl, fun _ h => by cases h⟩
    · split at hstep <;> cases hstep
      · exact ⟨rfl, .inl rfl, fun _ h => by cases h⟩
      · exact ⟨rfl, .inl rfl, fun _ h => .inl h⟩
  case saving job p =>
    cases hstep
    exact ⟨rfl, .inl rfl, fun _ h => .inl h⟩
  case reporting o =>
    split at hstep <;> cases hstep <;>
      exact ⟨rfl, .inl rfl, fun _ h => .inl h⟩
  case leaving o =>
    cases hstep
    exact ⟨rfl, .inr rfl, fun _ h => .inl h⟩

/-- What an action of the thread or of the experiment does to the event, the maps and the
decided status. -/
theorem thread_step {s t : State} {a : Action} (ha : a.isThread = true)
    (hstep : step py experimentId s a = some t) :
    t.cancellation = s.cancellation ∧
      (t.registered = s.registered ∨ t.runner.stored.isSome = true) ∧
      ∀ status, t.runner.decided = some status → s.runner.decided = some status ∨
        ∃ job p, s.runner = .closing job p ∧
          status = (closeProgress s.cancellation p).terminalStatus := by
  cases a with
  | runner now => exact runner_decided py experimentId hstep
  | emit event =>
      simp only [step, emitEvent] at hstep
      split at hstep
      · rename_i hphase
        split at hstep <;> cases hstep
        · exact ⟨rfl, .inl rfl, fun _ h => by rw [hphase] at h; cases h⟩
        · exact ⟨rfl, .inl rfl, fun _ h => by cases h⟩
      · cases hstep
  | returned serialized detection =>
      simp only [step, returnAttempt] at hstep
      split at hstep
      · generalize recordAttempt py _ serialized detection = recorded at hstep
        obtain ⟨p', breaks⟩ := recorded
        cases breaks <;> cases hstep <;> exact ⟨rfl, .inl rfl, fun _ h => by cases h⟩
      · cases hstep
  | raised error =>
      simp only [step, raiseAttempt] at hstep
      split at hstep <;> cases hstep
      exact ⟨rfl, .inl rfl, fun _ h => by cases h⟩
  | cancel i => cases ha
  | delete i => cases ha
  | client i now => cases ha

/-- A set event is not overlooked: the last test then decides on no `completed`. -/
theorem closeProgress_cancelled {p : Progress} :
    (closeProgress true p).terminalStatus ≠ .completed := by
  unfold closeProgress
  split
  · intro hc
    cases hc
  · rename_i hnot
    intro hc
    exact hnot ⟨rfl, hc⟩

end Thread

/-- The thread has not started. -/
structure Unborn (s : State) : Prop where
  runner : s.runner = .fetching
  cancellation : s.cancellation = false
  registered : s.registered = false
  noDelete : ∀ i, s.clients i ≠ .deleteWriting

/-- What every action keeps: before the thread starts nothing can be signalled, and afterwards
the maps have the job until its result is stored. -/
structure Sound (s : Session) : Prop where
  unborn : s.submit ≠ .submitted → Unborn s.jobs
  inv : s.submit ≠ .creating → Inv s.jobs
  holding : ∀ i, (s.calls i).isHolding = true → s.submit = .submitted
  registered : s.submit = .submitted →
    s.jobs.registered = true ∨ s.jobs.runner.stored.isSome = true

/-- A call that returned `cancelling` is honoured. -/
structure Honest (s : Session) : Prop where
  told : s.jobs.cancellation = true ∨ s.jobs.runner.stored.isSome = true
  decided : s.jobs.runner.decided ≠ some .completed

theorem sound_initial : Sound .initial where
  unborn _ := ⟨rfl, rfl, rfl, fun _ hc => by cases hc⟩
  inv h := absurd rfl h
  holding _ h := by cases h
  registered h := by cases h

namespace Sound

variable {s : Session}

theorem setCall (h : Sound s) {i : ℕ} {phase : CallPhase}
    (hphase : phase.isHolding = true → s.submit = .submitted) : Sound (s.setCall i phase) where
  unborn := h.unborn
  inv := h.inv
  holding j hj := by
    have hj' : (Function.update s.calls i phase j).isHolding = true := hj
    by_cases hji : j = i
    · subst hji
      rw [Function.update_self] at hj'
      exact hphase hj'
    · rw [Function.update_of_ne hji] at hj'
      exact h.holding j hj'
  registered := h.registered

/-- The call goes on without the condition. -/
theorem free (h : Sound s) {i : ℕ} {phase : CallPhase} (hphase : phase.isHolding = false) :
    Sound (s.setCall i phase) :=
  h.setCall fun hc => by
    rw [hphase] at hc
    cases hc

theorem setHolder (h : Sound s) (holder : Option ℕ) : Sound { s with holder } :=
  ⟨h.unborn, h.inv, h.holding, h.registered⟩

theorem requestCancel (h : Sound s) (now : String) : Sound (s.requestCancel now) where
  unborn hsubmit :=
    have hunborn := h.unborn hsubmit
    ⟨hunborn.runner, hunborn.cancellation, hunborn.registered, hunborn.noDelete⟩
  inv hsubmit := (h.inv hsubmit).update fun row (_ : row.status.terminal = false) =>
    (rfl : (row.requestCancel now).status.terminal = false)
  holding := h.holding
  registered := h.registered

/-- The event is set, where the maps have the job. -/
theorem signal (h : Sound s) {cancelled : Bool}
    (hcancelled : s.submit ≠ .submitted → cancelled = false) :
    Sound (s.setJobs { s.jobs with cancellation := cancelled }) where
  unborn hsubmit :=
    have hunborn := h.unborn hsubmit
    ⟨hunborn.runner, hcancelled hsubmit, hunborn.registered, hunborn.noDelete⟩
  inv hsubmit :=
    have hinv := h.inv hsubmit
    ⟨hinv.progress, hinv.stored, fun hnone => ⟨(hinv.before hnone).row, (hinv.before hnone).noDelete,
      (hinv.before hnone).running⟩⟩
  holding := h.holding
  registered := h.registered

end Sound

section Session

variable {py : Python} {experimentId : String} {request : JobRequest}

/-- What a statement of a call changes: the thread goes on undisturbed, and an event that is
set stays set. -/
theorem sound_advanceCall {s t : Session} {i : ℕ} {now : String} (h : Sound s)
    (hstep : advanceCall s i now = some t) :
    Sound t ∧ t.jobs.runner = s.jobs.runner ∧
      (s.jobs.cancellation = true → t.jobs.cancellation = true) := by
  unfold advanceCall at hstep
  cases hphase : s.calls i <;> rw [hphase] at hstep <;> dsimp only at hstep
  case idle | cancelled | stopped | raised => cases hstep
  case cancelReading =>
    split at hstep <;> cases hstep
    · exact ⟨h.free rfl, rfl, id⟩
    · refine ⟨h.free ?_, rfl, id⟩
      split <;> rfl
  case cancelWriting =>
    cases hstep
    exact ⟨(h.requestCancel now).free rfl, rfl, id⟩
  case cancelConfirming =>
    split at hstep <;> cases hstep <;> exact ⟨h.free rfl, rfl, id⟩
  case cancelSignalling job =>
    split at hstep <;> cases hstep
    have hsignal : Sound (s.setJobs { s.jobs with
        cancellation := s.jobs.cancellation || s.jobs.registered }) := h.signal fun hsubmit => by
      rw [(h.unborn hsubmit).cancellation, (h.unborn hsubmit).registered]
      rfl
    refine ⟨hsignal.free rfl, rfl, fun hc => ?_⟩
    show (s.jobs.cancellation || s.jobs.registered) = true
    rw [hc, Bool.true_or]
  case listing =>
    split at hstep
    · split at hstep <;> cases hstep
      · rename_i hregistered
        refine ⟨(h.setHolder (some i)).setCall fun _ => ?_, rfl, id⟩
        by_contra hc
        rw [(h.unborn hc).registered] at hregistered
        cases hregistered
      · exact ⟨h.free rfl, rfl, id⟩
    · cases hstep
  case stopReading | stopWriting | stopConfirming | stopSignalling =>
    have hsubmit : s.submit = .submitted := h.holding i (by rw [hphase]; rfl)
    first
    | split at hstep <;> cases hstep <;> exact ⟨h.setCall fun _ => hsubmit, rfl, id⟩
    | cases hstep
      exact ⟨(h.requestCancel now).setCall fun _ => hsubmit, rfl, id⟩
    | cases hstep
      exact ⟨h.setCall fun _ => hsubmit, rfl, id⟩
    | cases hstep
      exact ⟨((h.signal fun hc => absurd hsubmit hc).setHolder none).free rfl, rfl, fun _ => rfl⟩
  case joining =>
    cases hstep
    exact ⟨h.free rfl, rfl, id⟩

/-- A statement of `submit` leaves the thread and the event alone. -/
theorem sound_advanceSubmit {s t : Session} {now : String} (h : Sound s)
    (hstep : advanceSubmit request s now = some t) :
    Sound t ∧ t.jobs.runner = s.jobs.runner ∧ t.jobs.cancellation = s.jobs.cancellation := by
  unfold advanceSubmit at hstep
  cases hphase : s.submit <;> rw [hphase] at hstep <;> dsimp only at hstep
  case creating =>
    cases hstep
    have hunborn := h.unborn (by rw [hphase]; decide)
    refine ⟨⟨fun _ => ?_, fun _ => ?_, fun i hi => ?_, fun hc => by cases hc⟩, rfl, rfl⟩
    · exact ⟨hunborn.runner, hunborn.cancellation, hunborn.registered, hunborn.noDelete⟩
    · refine ⟨fun p hp => ?_, fun o ho => ?_, fun _ => ⟨⟨_, rfl, rfl⟩, hunborn.noDelete, ?_⟩⟩
      · have hp' : s.jobs.runner.progress? = some p := hp
        rw [hunborn.runner] at hp'
        cases hp'
      · have ho' : s.jobs.runner.stored = some o := ho
        rw [hunborn.runner] at ho'
        cases ho'
      · show s.jobs.runner.isFinished = false
        rw [hunborn.runner]
        rfl
    · have hc := h.holding i hi
      rw [hphase] at hc
      cases hc
  case confirming =>
    split at hstep <;> cases hstep
    have hunborn := h.unborn (by rw [hphase]; decide)
    have hinv := h.inv (by rw [hphase]; decide)
    refine ⟨⟨fun _ => hunborn, fun _ => hinv, fun i hi => ?_, fun hc => by cases hc⟩, rfl, rfl⟩
    have hc := h.holding i hi
    rw [hphase] at hc
    cases hc
  case registering =>
    split at hstep <;> cases hstep
    have hinv := h.inv (by rw [hphase]; decide)
    have hinv' : Inv { s.jobs with registered := true } :=
      ⟨hinv.progress, hinv.stored, fun hnone => ⟨(hinv.before hnone).row,
        (hinv.before hnone).noDelete, (hinv.before hnone).running⟩⟩
    exact ⟨⟨fun hc => absurd rfl hc, fun _ => hinv', fun _ _ => rfl, fun _ => .inl rfl⟩, rfl, rfl⟩
  case submitted => cases hstep

/-- An action of the thread leaves the calls alone. -/
theorem sound_advanceThread {s t : Session} {a : Action} (h : Sound s)
    (hstep : advanceThread py experimentId s a = some t) :
    Sound t ∧ t.calls = s.calls ∧ t.jobs.cancellation = s.jobs.cancellation ∧
      (s.jobs.runner.stored.isSome = true → t.jobs.runner.stored.isSome = true) ∧
      ∀ status, t.jobs.runner.decided = some status → s.jobs.runner.decided = some status ∨
        ∃ job p, s.jobs.runner = .closing job p ∧
          status = (closeProgress s.jobs.cancellation p).terminalStatus := by
  unfold advanceThread at hstep
  split at hstep
  · rename_i hguard
    obtain ⟨hsubmit, hthread, -⟩ := hguard
    obtain ⟨jobs, hjobs, rfl⟩ := Option.map_eq_some_iff.1 hstep
    have hinv : Inv s.jobs := h.inv (by rw [hsubmit]; decide)
    obtain ⟨hcancellation, hregistered, hdecided⟩ := thread_step py experimentId hthread hjobs
    have hstored : s.jobs.runner.stored.isSome = true → jobs.runner.stored.isSome = true := by
      intro hsome
      obtain ⟨o, ho⟩ := Option.isSome_iff_exists.1 hsome
      rw [(stored_step py experimentId ho hjobs).1]
      rfl
    refine ⟨⟨fun hc => absurd hsubmit hc, fun _ => inv_step py experimentId hinv hjobs, h.holding,
      fun _ => ?_⟩, rfl, hcancellation, hstored, hdecided⟩
    rcases hregistered with hsame | hsome
    · rcases h.registered hsubmit with hr | hs
      · exact .inl (hsame.trans hr)
      · exact .inr (hstored hs)
    · exact .inr hsome
  · cases hstep

/-- **Every action keeps the invariant.** -/
theorem sound_session {s t : Session} {a : SessionAction} (h : Sound s)
    (hstep : session py experimentId request s a = some t) : Sound t := by
  cases a with
  | submit now => exact (sound_advanceSubmit h hstep).1
  | thread a => exact (sound_advanceThread h hstep).1
  | cancel i =>
      simp only [session] at hstep
      split at hstep <;> cases hstep
      exact h.free rfl
  | shutdown i =>
      simp only [session] at hstep
      split at hstep <;> cases hstep
      exact h.free rfl
  | call i now => exact (sound_advanceCall h hstep).1

/-- **Every action keeps the promise** of a cancel. -/
theorem honest_session {s t : Session} {a : SessionAction} (hsound : Sound s) (h : Honest s)
    (hstep : session py experimentId request s a = some t) : Honest t := by
  have hkeep : t.jobs.runner = s.jobs.runner →
      (s.jobs.cancellation = true → t.jobs.cancellation = true) → Honest t := by
    intro hrunner hcancellation
    refine ⟨?_, by rw [hrunner]; exact h.decided⟩
    rw [hrunner]
    exact h.told.imp hcancellation id
  cases a with
  | submit now =>
      obtain ⟨-, hrunner, hcancellation⟩ := sound_advanceSubmit hsound hstep
      exact hkeep hrunner fun hc => hcancellation.trans hc
  | thread a =>
      obtain ⟨-, -, hcancellation, hstored, hdecided⟩ := sound_advanceThread hsound hstep
      refine ⟨h.told.imp (fun hc => hcancellation.trans hc) hstored, fun hc => ?_⟩
      rcases hdecided _ hc with hc | ⟨job, p, hphase, hstatus⟩
      · exact h.decided hc
      · -- the last test of the event
        rcases h.told with hset | hsome
        · rw [hset] at hstatus
          exact closeProgress_cancelled hstatus.symm
        · rw [hphase] at hsome
          cases hsome
  | cancel i =>
      simp only [session] at hstep
      split at hstep <;> cases hstep
      exact hkeep rfl id
  | shutdown i =>
      simp only [session] at hstep
      split at hstep <;> cases hstep
      exact hkeep rfl id
  | call i now =>
      obtain ⟨-, hrunner, hcancellation⟩ := sound_advanceCall hsound hstep
      exact hkeep hrunner hcancellation

/-- The statement by which a call of `cancel` returns `job`. -/
structure Returns (s t : Session) (i : ℕ) (job : ExperimentJob) : Prop where
  signalling : s.calls i = .cancelSignalling job
  free : s.holder = none
  jobs : t.jobs = { s.jobs with cancellation := s.jobs.cancellation || s.jobs.registered }
  submit : t.submit = s.submit

/-- A call returns by its own last statement. -/
theorem advanceCall_calls {s t : Session} {i : ℕ} {now : String}
    (hstep : advanceCall s i now = some t) :
    ∃ phase, t.calls = Function.update s.calls i phase ∧
      ∀ job, phase = .cancelled job → Returns s t i job := by
  unfold advanceCall at hstep
  cases hphase : s.calls i <;> rw [hphase] at hstep <;> dsimp only at hstep
  case idle | cancelled | stopped | raised => cases hstep
  case cancelReading | stopReading =>
    split at hstep <;> cases hstep
    · exact ⟨_, rfl, fun _ hc => by cases hc⟩
    · refine ⟨_, rfl, fun _ hc => ?_⟩
      split at hc <;> cases hc
  case cancelConfirming => split at hstep <;> cases hstep <;> exact ⟨_, rfl, fun _ hc => by cases hc⟩
  case cancelWriting | stopWriting | stopConfirming | stopSignalling | joining =>
    cases hstep
    exact ⟨_, rfl, fun _ hc => by cases hc⟩
  case cancelSignalling job =>
    split at hstep <;> cases hstep
    refine ⟨_, rfl, fun job' hc => ?_⟩
    cases hc
    exact ⟨hphase, by assumption, rfl, rfl⟩
  case listing =>
    split at hstep
    · split at hstep <;> cases hstep <;> exact ⟨_, rfl, fun _ hc => by cases hc⟩
    · cases hstep

/-- What is accepted after a call that changes to `phase`. -/
theorem accepted_update {s t : Session} {i : ℕ} {phase : CallPhase}
    (hcalls : t.calls = Function.update s.calls i phase) (haccepted : Accepted t) :
    Accepted s ∨ ∃ job, phase = .cancelled job ∧ job.status = .cancelling := by
  obtain ⟨j, job, hj, hstatus⟩ := haccepted
  rw [hcalls] at hj
  by_cases hji : j = i
  · subst hji
    rw [Function.update_self] at hj
    exact .inr ⟨job, hj, hstatus⟩
  · rw [Function.update_of_ne hji] at hj
    exact .inl ⟨j, job, hj, hstatus⟩

/-- The only action by which a request is accepted is the return of a call. -/
theorem accepted_step {s t : Session} {a : SessionAction} (hsound : Sound s)
    (hstep : session py experimentId request s a = some t) (haccepted : Accepted t) :
    Accepted s ∨ ∃ i now job, a = .call i now ∧ job.status = .cancelling ∧ Returns s t i job := by
  cases a with
  | submit now =>
      simp only [session] at hstep
      unfold advanceSubmit at hstep
      split at hstep
      · cases hstep
        exact .inl haccepted
      · split at hstep <;> cases hstep
        exact .inl haccepted
      · split at hstep <;> cases hstep
        exact .inl haccepted
      · cases hstep
  | thread a =>
      obtain ⟨-, hcalls, -⟩ := sound_advanceThread hsound hstep
      obtain ⟨i, job, hi, hstatus⟩ := haccepted
      rw [hcalls] at hi
      exact .inl ⟨i, job, hi, hstatus⟩
  | cancel i =>
      simp only [session] at hstep
      split at hstep <;> cases hstep
      rcases accepted_update rfl haccepted with h | ⟨job, hc, -⟩
      · exact .inl h
      · cases hc
  | shutdown i =>
      simp only [session] at hstep
      split at hstep <;> cases hstep
      rcases accepted_update rfl haccepted with h | ⟨job, hc, -⟩
      · exact .inl h
      · cases hc
  | call i now =>
      obtain ⟨phase, hcalls, hreturns⟩ := advanceCall_calls hstep
      rcases accepted_update hcalls haccepted with h | ⟨job, hphase, hstatus⟩
      · exact .inl h
      · exact .inr ⟨i, now, job, rfl, hstatus, hreturns job hphase⟩

/-! ### Runs -/

/-- A call that returns in time is honoured. -/
theorem honest_of_returns {s t : Session} {i : ℕ} {now : String} {job : ExperimentJob}
    (hsound : Sound s) (hreturns : Returns s t i job) (hstatus : job.status = .cancelling)
    (hkept : ¬LostCancel s (.call i now)) : Honest t := by
  have htimely : s.submit = .submitted ∧ s.jobs.runner.decided ≠ some .completed := by
    by_contra hc
    refine hkept ⟨⟨job, hreturns.signalling, hstatus⟩, hreturns.free, ?_⟩
    by_cases hsubmit : s.submit = .submitted
    · exact .inr (by by_contra hne; exact hc ⟨hsubmit, hne⟩)
    · exact .inl hsubmit
  constructor
  · rw [hreturns.jobs]
    rcases hsound.registered htimely.1 with hregistered | hstored
    · left
      show (s.jobs.cancellation || s.jobs.registered) = true
      rw [hregistered, Bool.or_true]
    · exact .inr hstored
  · rw [hreturns.jobs]
    exact htimely.2

/-- What every action that loses no cancel keeps. -/
theorem promise_step {s t : Session} {a : SessionAction}
    (h : Sound s ∧ (Accepted s → Honest s)) (hkept : ¬LostCancel s a)
    (hstep : session py experimentId request s a = some t) :
    Sound t ∧ (Accepted t → Honest t) := by
  refine ⟨sound_session h.1 hstep, fun haccepted => ?_⟩
  rcases accepted_step h.1 hstep haccepted with hs | ⟨i, now, job, rfl, hstatus, hreturns⟩
  · exact honest_session h.1 (h.2 hs) hstep
  · exact honest_of_returns h.1 hreturns hstatus hkept

/-- The status of an outcome is the decided one. -/
theorem decided_of_stored {phase : RunnerPhase} {o : Outcome} (h : phase.stored = some o) :
    phase.decided = some o.status := by
  cases phase with
  | reporting o' =>
      cases h
      rfl
  | leaving o' =>
      cases h
      rfl
  | finished o' =>
      have ho : o' = some o := h
      rw [ho]
      rfl
  | _ => cases h

/-- In a run that loses no cancel, every cancel is kept. -/
theorem kept_of_along {acts : List SessionAction} {s₀ : Session}
    (h : Sound s₀ ∧ (Accepted s₀ → Honest s₀))
    (hkept : Along (session py experimentId request) (fun s a => ¬LostCancel s a) acts s₀) :
    CancelKept py experimentId request acts s₀ := by
  rintro before after s rfl hs haccepted
  obtain ⟨hsound, hpromise⟩ := invariant_along (I := fun u => Sound u ∧ (Accepted u → Honest u))
    (fun _ _ _ hu hok hstep => promise_step hu hok hstep) h (along_left hkept) hs
  have hhonest := hpromise haccepted
  refine ⟨hhonest.told, fun more t o hmore ho hcompleted => ?_⟩
  have hlater := invariant (I := fun u => Sound u ∧ Honest u)
    (fun _ _ _ hu hstep => ⟨sound_session hu.1 hstep, honest_session hu.1 hu.2 hstep⟩)
    ⟨hsound, hhonest⟩ hmore
  have hdecided := decided_of_stored ho
  rw [hcompleted] at hdecided
  exact hlater.2.decided hdecided

variable (request) in
/-- The statements of the thread that the condition does not hold up. -/
theorem session_thread {s : Session} {now : String} {jobs : State} (hsubmit : s.submit = .submitted)
    (hleaving : s.jobs.runner.isLeaving = false)
    (hstep : advanceRunner py experimentId s.jobs now = some jobs) :
    session py experimentId request s (.thread (.runner now)) = some (s.setJobs jobs) := by
  show advanceThread py experimentId s (.runner now) = _
  unfold advanceThread
  rw [if_pos ⟨hsubmit, rfl, fun hc => by rw [hleaving] at hc; cases hc.1⟩]
  show (advanceRunner py experimentId s.jobs now).map s.setJobs = _
  rw [hstep]
  rfl

variable (py experimentId request) in
/-- The `UPDATE` of `set_result`. -/
theorem saving_stores {s : Session} {job : ExperimentJob} {p : Progress}
    (hsubmit : s.submit = .submitted) (hphase : s.jobs.runner = .saving job p) :
    ∃ t o, session py experimentId request s (.thread (.runner "")) = some t ∧
      t.jobs.runner.stored = some o ∧ o.status = p.terminalStatus := by
  have hstep := session_thread request hsubmit (by rw [hphase]; rfl)
    (show advanceRunner py experimentId s.jobs "" = some _ by
      unfold advanceRunner
      rw [hphase])
  exact ⟨_, ⟨p.terminalStatus, some (aggregate py experimentId job p)⟩, hstep, rfl, rfl⟩

/-- A thread that has decided on `completed` can store it. -/
theorem stores_completed {s : Session} (h : Sound s) (hsubmit : s.submit = .submitted)
    (hdecided : s.jobs.runner.decided = some .completed) :
    ∃ more t o, exec (session py experimentId request) more s = some t ∧
      t.jobs.runner.stored = some o ∧ o.status = .completed := by
  have hdone : ∀ o, s.jobs.runner.stored = some o → o.status = .completed →
      ∃ more t o, exec (session py experimentId request) more s = some t ∧
        t.jobs.runner.stored = some o ∧ o.status = .completed :=
    fun o ho hstatus => ⟨[], s, o, rfl, ho, hstatus⟩
  cases hphase : s.jobs.runner with
  | storing job p =>
      have hstatus : p.terminalStatus = .completed := by
        rw [hphase] at hdecided
        exact Option.some.inj hdecided
      have hinv : Inv s.jobs := h.inv (by rw [hsubmit]; decide)
      obtain ⟨row, hrow, -⟩ := (hinv.before (by rw [hphase]; rfl)).row
      have hchecks : session py experimentId request s (.thread (.runner ""))
          = some (s.setJobs (s.jobs.setRunner (.saving job p))) := by
        refine session_thread request hsubmit (by rw [hphase]; rfl) ?_
        unfold advanceRunner
        simp only [hphase, hrow, hstatus]
        rfl
      have hsaving : (s.setJobs (s.jobs.setRunner (.saving job p))).jobs.runner = .saving job p := rfl
      have hsubmit' : (s.setJobs (s.jobs.setRunner (.saving job p))).submit = .submitted := hsubmit
      obtain ⟨t, o, ht, ho, hsame⟩ := saving_stores py experimentId request hsubmit' hsaving
      exact ⟨[.thread (.runner ""), .thread (.runner "")], t, o,
        exec_cons.2 ⟨_, hchecks, exec_singleton.2 ht⟩, ho, hsame.trans hstatus⟩
  | saving job p =>
      rw [hphase] at hdecided
      obtain ⟨t, o, ht, ho, hsame⟩ := saving_stores py experimentId request hsubmit hphase
      exact ⟨[.thread (.runner "")], t, o, exec_singleton.2 ht, ho,
        hsame.trans (Option.some.inj hdecided)⟩
  | reporting o =>
      rw [hphase] at hdecided
      exact hdone o (by rw [hphase]; rfl) (Option.some.inj hdecided)
  | leaving o =>
      rw [hphase] at hdecided
      exact hdone o (by rw [hphase]; rfl) (Option.some.inj hdecided)
  | finished o =>
      rw [hphase] at hdecided
      obtain ⟨o', rfl, hstatus⟩ := Option.map_eq_some_iff.1 hdecided
      exact hdone o' (by rw [hphase]; rfl) hstatus
  | _ =>
      rw [hphase] at hdecided
      cases hdecided

/-- A lost cancel is not kept. -/
theorem timely_of_kept {before after : List SessionAction} {a : SessionAction} {s₀ s : Session}
    (h : Sound s₀) (hs : exec (session py experimentId request) before s₀ = some s)
    (hkept : CancelKept py experimentId request (before ++ a :: after) s₀) : ¬LostCancel s a := by
  intro hlost
  cases a with
  | call i now =>
      obtain ⟨⟨job, hphase, hstatus⟩, hfree, hlate⟩ := hlost
      have hsound : Sound s := invariant (fun _ _ _ hu hstep => sound_session hu hstep) h hs
      have hstep : session py experimentId request s (.call i now)
          = some ((s.setJobs { s.jobs with
              cancellation := s.jobs.cancellation || s.jobs.registered }).setCall i
            (.cancelled job)) := by
        show advanceCall s i now = _
        unfold advanceCall
        rw [hphase]
        exact if_pos hfree
      have haccepted : Accepted ((s.setJobs { s.jobs with
          cancellation := s.jobs.cancellation || s.jobs.registered }).setCall i
            (.cancelled job)) := ⟨i, job, Function.update_self .., hstatus⟩
      obtain ⟨htold, hnever⟩ := hkept (before ++ [.call i now]) after _
        (by rw [List.append_assoc]; rfl) (exec_append.2 ⟨s, hs, exec_singleton.2 hstep⟩) haccepted
      by_cases hsubmit : s.submit = .submitted
      · have hdecided : s.jobs.runner.decided = some .completed :=
          hlate.resolve_left fun hne => hne hsubmit
        obtain ⟨more, u, o, hu, ho, hcompleted⟩ :=
          stores_completed (sound_session hsound hstep) hsubmit hdecided
        exact hnever more u o hu ho hcompleted
      · obtain ⟨hrunner, hcancellation, hregistered, -⟩ := hsound.unborn hsubmit
        rcases htold with hc | hc
        · have hc' : (s.jobs.cancellation || s.jobs.registered) = true := hc
          rw [hcancellation, hregistered] at hc'
          cases hc'
        · have hc' : s.jobs.runner.stored.isSome = true := hc
          rw [hrunner] at hc'
          cases hc'
  | _ => exact hlost.elim

end Session

/-- **A cancel is kept** exactly in the runs where no call of `cancel` returns `cancelling`
before `submit` has put the event in the maps, or after the thread has decided on `completed`
in its last test of the event: for every order of the statements of the submission, its
thread and any number of calls. -/
theorem cancel_kept_iff (py : Python) (experimentId : String) (request : JobRequest)
    (acts : List SessionAction) :
    CancelKept py experimentId request acts .initial ↔
      Along (session py experimentId request) (fun s a => ¬LostCancel s a) acts .initial := by
  constructor
  · intro hkept
    refine along_of_forall fun before a after s hacts hs => ?_
    subst hacts
    exact timely_of_kept sound_initial hs hkept
  · intro htimely
    refine kept_of_along ⟨sound_initial, fun haccepted => ?_⟩ htimely
    obtain ⟨i, job, hi, -⟩ := haccepted
    cases hi

/-! ### Two lost cancels -/

/-- The job is in the store, but not in the maps yet: a call of `cancel` runs from its
beginning to its end. -/
def cancelBeforeStart : List SessionAction :=
  [.submit "t", .cancel 0] ++ List.replicate 4 (.call 0 "t")

/-- The statements of the submission and of the thread up to its last test of the event, with
one attempt that completes; then a call of `cancel`. -/
def cancelAfterTest : List SessionAction :=
  List.replicate 3 (.submit "t") ++ List.replicate 5 (.thread (.runner "t")) ++
    [.thread (.returned [("status", .str "completed")] [])] ++
    List.replicate 2 (.thread (.runner "t")) ++ [.cancel 0] ++ List.replicate 4 (.call 0 "t")

/-- What a call of `cancel` returned. -/
def CallPhase.result : CallPhase → Option ExperimentJobStatus
  | cancelled job => some job.status
  | _ => none

theorem accepted_of_result {s : Session} {i : ℕ} (h : (s.calls i).result = some .cancelling) :
    Accepted s := by
  cases hphase : s.calls i with
  | cancelled job =>
      rw [hphase] at h
      exact ⟨i, job, hphase, Option.some.inj h⟩
  | _ =>
      rw [hphase] at h
      cases h

/-- **The first race**: the call has returned `cancelling`, and the event is not set. -/
theorem cancelBeforeStart_lost :
    ¬CancelKept .ascii "e" oneAttempt cancelBeforeStart .initial := by
  have hview : (exec (session .ascii "e" oneAttempt) cancelBeforeStart .initial).map
      (fun s => ((s.calls 0).result, s.jobs.cancellation, s.jobs.runner.stored.isSome))
      = some (some .cancelling, false, false) := by
    decide +kernel
  intro hkept
  obtain ⟨s, hs, hs'⟩ := Option.map_eq_some_iff.1 hview
  simp only [Prod.mk.injEq] at hs'
  obtain ⟨hresult, hcancellation, hstored⟩ := hs'
  rcases (hkept cancelBeforeStart [] s (by rw [List.append_nil]) hs
    (accepted_of_result hresult)).1 with hc | hc
  · rw [hcancellation] at hc
    cases hc
  · rw [hstored] at hc
    cases hc

example : ((exec (session .ascii "e" oneAttempt)
    (cancelAfterTest ++ List.replicate 2 (.thread (.runner "t"))) .initial).map fun s =>
      ((s.calls 0).result, s.jobs.runner.stored.map Outcome.status))
    = some (some .cancelling, some .completed) := by
  decide +kernel

end Jobs
end AiopsK8s
