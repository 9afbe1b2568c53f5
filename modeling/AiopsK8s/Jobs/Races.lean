/-
# When the outcome of a job stays

`set_result` gives a job its terminal status and its result.  No statement of the runner
touches the row afterwards, and `delete` removes it only after it has read a terminal
status.  `request_cancel` is the exception: it reads the status in one locked section and
writes `cancelling` in another, so a call that read before `set_result` can write after it,
and the job is then neither terminal nor running.

`outcome_stays_iff` is that this late write is the only thing that can happen to an outcome.
-/

import AiopsK8s.Jobs.Runner

namespace AiopsK8s
namespace Jobs

open Steps
open Experiment (Fields)

namespace RunnerPhase

/-- The outcome that `set_result` has stored. -/
def stored : RunnerPhase → Option Outcome
  | reporting o => some o
  | leaving o => some o
  | finished o => o
  | _ => none

/-- The thread of `_run_job` has ended. -/
def isFinished : RunnerPhase → Bool
  | finished _ => true
  | _ => false

end RunnerPhase

/-- The status and the result of the row. -/
def State.outcome (s : State) : Option Outcome :=
  s.store.row.map fun job => ⟨job.status, job.result⟩

/-- A cancel is about to overwrite a terminal status. -/
def LateCancel (s : State) : Action → Prop
  | .client i _ => s.clients i = .cancelWriting ∧
      ∃ job, s.store.row = some job ∧ job.status.terminal = true
  | _ => False

instance (s : State) : ∀ a, Decidable (LateCancel s a)
  | .client i _ =>
    match h : s.store.row with
    | none => isFalse fun ⟨_, _, hjob, _⟩ => by rw [h] at hjob; cases hjob
    | some job => decidable_of_iff (s.clients i = .cancelWriting ∧ job.status.terminal = true)
        ⟨fun ⟨hphase, hstatus⟩ => ⟨hphase, job, h, hstatus⟩, fun ⟨hphase, job', hjob, hstatus⟩ => by
          rw [h] at hjob
          cases hjob
          exact ⟨hphase, hstatus⟩⟩
  | .runner _ => isFalse id
  | .emit _ => isFalse id
  | .returned _ _ => isFalse id
  | .raised _ => isFalse id
  | .cancel _ => isFalse id
  | .delete _ => isFalse id

/-! ### Before `set_result` -/

/-- The progress that the thread carries. -/
def RunnerPhase.progress? : RunnerPhase → Option Progress
  | .checking _ _ p => some p
  | .attempting _ _ p => some p
  | .appending _ _ p _ => some p
  | .closing _ p => some p
  | .storing _ p => some p
  | .saving _ p => some p
  | _ => none

/-- Before `set_result` the job has a row with a status that is not terminal, no delete has
read a terminal one, and the thread has not ended. -/
structure Before (s : State) : Prop where
  row : ∃ job, s.store.row = some job ∧ job.status.terminal = false
  noDelete : ∀ i, s.clients i ≠ .deleteWriting
  running : s.runner.isFinished = false

/-- What every action keeps. -/
structure Inv (s : State) : Prop where
  progress : ∀ p, s.runner.progress? = some p → p.terminalStatus.terminal = true
  stored : ∀ o, s.runner.stored = some o → o.status.terminal = true
  before : s.runner.stored = none → Before s

theorem inv_initial (request : JobRequest) (now : String) : Inv (State.initial request now) where
  progress _ h := by cases h
  stored _ h := by cases h
  before _ := ⟨⟨.created request now, rfl, rfl⟩, fun _ => by simp [State.initial], rfl⟩

/-- The progress after an attempt has a terminal status. -/
theorem recordAttempt_terminal (py : Python) {p : Progress} (serialized detection : Fields)
    (h : p.terminalStatus.terminal = true) :
    (recordAttempt py p serialized detection).1.terminalStatus.terminal = true := by
  unfold recordAttempt
  dsimp only
  split
  · rfl
  · rfl
  · rfl
  · exact h

theorem closeProgress_terminal {cancelled : Bool} {p : Progress}
    (h : p.terminalStatus.terminal = true) :
    (closeProgress cancelled p).terminalStatus.terminal = true := by
  unfold closeProgress
  split
  · rfl
  · exact h

/-- A phase of the thread before `set_result`, with the same row and callers. -/
theorem Inv.setRunner {s : State} (h : Inv s) (hnone : s.runner.stored = none)
    {phase : RunnerPhase} (hstored : phase.stored = none) (hrunning : phase.isFinished = false)
    (hprogress : ∀ p, phase.progress? = some p → p.terminalStatus.terminal = true) :
    Inv (s.setRunner phase) where
  progress := hprogress
  stored o ho := by
    have ho' : phase.stored = some o := ho
    rw [hstored] at ho'
    cases ho'
  before _ := ⟨(h.before hnone).row, (h.before hnone).noDelete, hrunning⟩

/-- A phase of the thread after `set_result`. -/
theorem inv_of_stored {s : State} {o : Outcome} (ho : o.status.terminal = true)
    (hstored : s.runner.stored = some o) (hprogress : s.runner.progress? = none) : Inv s where
  progress p hp := by
    rw [hprogress] at hp
    cases hp
  stored o' ho' := by
    rw [hstored] at ho'
    cases ho'
    exact ho
  before hnone := by
    rw [hstored] at hnone
    cases hnone

/-- An update of the row that leaves its status not terminal. -/
theorem Inv.update {s : State} (h : Inv s) {f : ExperimentJob → ExperimentJob}
    (hf : ∀ job, job.status.terminal = false → (f job).status.terminal = false) :
    Inv (s.setStore (s.store.update f)) where
  progress := h.progress
  stored := h.stored
  before hnone := by
    obtain ⟨⟨job, hjob, hstatus⟩, hdelete, hrunning⟩ := h.before hnone
    refine ⟨⟨f job, ?_, hf job hstatus⟩, hdelete, hrunning⟩
    show s.store.row.map f = some (f job)
    rw [hjob]
    rfl

/-- A caller moves to a phase other than the delete. -/
theorem Inv.setClient {s : State} (h : Inv s) {i : ℕ} {phase : ClientPhase}
    (hphase : s.runner.stored = none → phase ≠ .deleteWriting) : Inv (s.setClient i phase) where
  progress := h.progress
  stored := h.stored
  before hnone := by
    obtain ⟨hrow, hdelete, hrunning⟩ := h.before hnone
    refine ⟨hrow, fun j hj => ?_, hrunning⟩
    have hj' : Function.update s.clients i phase j = .deleteWriting := hj
    by_cases hji : j = i
    · subst hji
      rw [Function.update_self] at hj'
      exact hphase hnone hj'
    · rw [Function.update_of_ne hji] at hj'
      exact hdelete j hj'

section Steps

variable (py : Python) (experimentId : String)

/-- The thread's own statements keep the invariant. -/
theorem inv_advanceRunner {s t : State} {now : String} (h : Inv s)
    (hstep : advanceRunner py experimentId s now = some t) : Inv t := by
  have hrow : s.runner.stored = none → s.store.row ≠ none := by
    intro hnone hrow
    obtain ⟨job, hjob, _⟩ := (h.before hnone).row
    rw [hrow] at hjob
    cases hjob
  unfold advanceRunner at hstep
  cases hphase : s.runner <;> rw [hphase] at hstep <;> dsimp only at hstep
  case fetching =>
    -- `self.store.get`
    have hnone : s.runner.stored = none := by rw [hphase]; rfl
    split at hstep <;> cases hstep
    · exact absurd (by assumption) (hrow hnone)
    · exact h.setRunner hnone rfl rfl fun p hp => by cases hp
  case requiring =>
    -- the `_required` of `transition`
    have hnone : s.runner.stored = none := by rw [hphase]; rfl
    split at hstep <;> cases hstep
    · exact absurd (by assumption) (hrow hnone)
    · exact h.setRunner hnone rfl rfl fun p hp => by cases hp
  case starting job existing =>
    -- its `UPDATE`
    have hnone : s.runner.stored = none := by rw [hphase]; rfl
    cases hstep
    have hupdate := h.update fun row (_ : row.status.terminal = false) =>
      (rfl : (existing.transition .running now none none row).status.terminal = false)
    exact hupdate.setRunner hnone rfl rfl fun p hp => by cases hp
  case confirming =>
    have hnone : s.runner.stored = none := by rw [hphase]; rfl
    split at hstep <;> cases hstep
    · exact absurd (by assumption) (hrow hnone)
    · exact h.setRunner hnone rfl rfl fun p hp => by cases hp; rfl
  case checking job attempt p =>
    -- the head of the loop
    have hnone : s.runner.stored = none := by rw [hphase]; rfl
    have hp : p.terminalStatus.terminal = true := h.progress p (by rw [hphase]; rfl)
    split at hstep
    · cases hstep
      exact h.setRunner hnone rfl rfl fun q hq => by cases hq; exact hp
    · split at hstep <;> cases hstep
      · exact h.setRunner hnone rfl rfl fun q hq => by cases hq; rfl
      · exact h.setRunner hnone rfl rfl fun q hq => by cases hq; exact hp
  case attempting => cases hstep
  case appending job attempt p event =>
    -- the statements of `append_event`
    have hnone : s.runner.stored = none := by rw [hphase]; rfl
    have hp : p.terminalStatus.terminal = true := h.progress p (by rw [hphase]; rfl)
    obtain ⟨row, hjob, hstatus⟩ := (h.before hnone).row
    have happend : s.store.appendEvent event now
        = some ⟨some (row.reachStage event.stage.value now), s.store.events ++ [event]⟩ := by
      unfold Store.appendEvent
      rw [hjob]
    rw [happend] at hstep
    cases hstep
    exact {
      progress := fun q hq => by cases hq; exact hp
      stored := fun o ho => by cases ho
      before := fun _ => ⟨⟨row.reachStage event.stage.value now, rfl, hstatus⟩,
        (h.before hnone).noDelete, rfl⟩ }
  case closing job p =>
    have hnone : s.runner.stored = none := by rw [hphase]; rfl
    have hp : p.terminalStatus.terminal = true := h.progress p (by rw [hphase]; rfl)
    cases hstep
    exact h.setRunner hnone rfl rfl fun q hq => by cases hq; exact closeProgress_terminal hp
  case storing job p =>
    -- the checks of `set_result`
    have hnone : s.runner.stored = none := by rw [hphase]; rfl
    have hp : p.terminalStatus.terminal = true := h.progress p (by rw [hphase]; rfl)
    rw [if_neg (by rw [hp]; decide)] at hstep
    split at hstep <;> cases hstep
    · exact absurd (by assumption) (hrow hnone)
    · exact h.setRunner hnone rfl rfl fun q hq => by cases hq; exact hp
  case saving job p =>
    -- its `UPDATE`
    have hp : p.terminalStatus.terminal = true := h.progress p (by rw [hphase]; rfl)
    cases hstep
    exact inv_of_stored hp rfl rfl
  case reporting o =>
    have ho : o.status.terminal = true := h.stored o (by rw [hphase]; rfl)
    split at hstep <;> cases hstep
    · exact inv_of_stored ho rfl rfl
    · exact inv_of_stored ho rfl rfl
  case leaving o =>
    have ho : o.status.terminal = true := h.stored o (by rw [hphase]; rfl)
    cases hstep
    exact inv_of_stored ho rfl rfl
  case finished => cases hstep

/-- What the experiment does keeps the invariant. -/
theorem inv_attempt {s t : State} {a : Action} (h : Inv s)
    (ha : (∃ event, a = .emit event) ∨ (∃ serialized detection, a = .returned serialized detection) ∨
      ∃ error, a = .raised error)
    (hstep : step py experimentId s a = some t) : Inv t := by
  obtain ⟨event, rfl⟩ | ⟨serialized, detection, rfl⟩ | ⟨error, rfl⟩ := ha
  · simp only [step, emitEvent] at hstep
    split at hstep
    · rename_i job attempt p hphase
      have hnone : s.runner.stored = none := by rw [hphase]; rfl
      have hp : p.terminalStatus.terminal = true := h.progress p (by rw [hphase]; rfl)
      have hseq : Inv { s with sequence := s.sequence + 1 } :=
        ⟨h.progress, h.stored, fun hn => ⟨(h.before hn).row, (h.before hn).noDelete,
          (h.before hn).running⟩⟩
      split at hstep <;> cases hstep
      · exact hseq
      · exact hseq.setRunner hnone rfl rfl fun q hq => by cases hq; exact hp
    · cases hstep
  · simp only [step, returnAttempt] at hstep
    split at hstep
    · rename_i job attempt p hphase
      have hnone : s.runner.stored = none := by rw [hphase]; rfl
      have hp : p.terminalStatus.terminal = true := h.progress p (by rw [hphase]; rfl)
      have hrecord := recordAttempt_terminal py serialized detection hp
      generalize recordAttempt py p serialized detection = recorded at hstep hrecord
      obtain ⟨p', breaks⟩ := recorded
      cases breaks <;> cases hstep
      · exact h.setRunner hnone rfl rfl fun q hq => by cases hq; exact hrecord
      · exact h.setRunner hnone rfl rfl fun q hq => by cases hq; exact hrecord
    · cases hstep
  · simp only [step, raiseAttempt] at hstep
    split at hstep
    · rename_i job attempt p hphase
      have hnone : s.runner.stored = none := by rw [hphase]; rfl
      have hp : p.terminalStatus.terminal = true := h.progress p (by rw [hphase]; rfl)
      cases hstep
      refine h.setRunner hnone rfl rfl fun q hq => ?_
      cases hq
      cases error with
      | none => exact hp
      | some message => cases s.cancellation <;> rfl
    · cases hstep

/-- The statements of a caller keep the invariant. -/
theorem inv_advanceClient {s t : State} {i : ℕ} {now : String} (h : Inv s)
    (hstep : advanceClient s i now = some t) : Inv t := by
  have hclient : ∀ {phase : ClientPhase}, phase ≠ .deleteWriting → Inv (s.setClient i phase) :=
    fun hphase => h.setClient fun _ => hphase
  unfold advanceClient at hstep
  split at hstep
  · cases hstep
  · split at hstep <;> cases hstep
    · exact hclient (by decide)
    · split
      · exact hclient (by decide)
      · exact hclient (by decide)
  · cases hstep
    have hupdate := h.update fun row (_ : row.status.terminal = false) =>
      (rfl : (row.requestCancel now).status.terminal = false)
    exact hupdate.setClient fun _ => by decide
  · split at hstep <;> cases hstep
    · exact hclient (by decide)
    · exact hclient (by decide)
  · cases hstep
    have hsignal : Inv { s with cancellation := s.cancellation || s.registered } :=
      ⟨h.progress, h.stored, fun hn => ⟨(h.before hn).row, (h.before hn).noDelete,
        (h.before hn).running⟩⟩
    exact hsignal.setClient fun _ => by decide
  · split at hstep <;> cases hstep
    · exact hclient (by decide)
    · rename_i job hjob
      refine h.setClient fun hnone => ?_
      obtain ⟨row, hrow, hstatus⟩ := (h.before hnone).row
      rw [hjob] at hrow
      cases hrow
      rw [hstatus]
      decide
  · rename_i hphase
    cases hstep
    have hstored : s.runner.stored ≠ none := fun hnone => (h.before hnone).noDelete i hphase
    exact ⟨h.progress, h.stored, fun hn => absurd hn hstored⟩

/-- **Every action keeps the invariant**, whatever its order. -/
theorem inv_step {s t : State} {a : Action} (h : Inv s)
    (hstep : step py experimentId s a = some t) : Inv t := by
  cases a with
  | runner now => exact inv_advanceRunner py experimentId h hstep
  | emit event => exact inv_attempt py experimentId h (.inl ⟨event, rfl⟩) hstep
  | returned serialized detection =>
      exact inv_attempt py experimentId h (.inr (.inl ⟨serialized, detection, rfl⟩)) hstep
  | raised error => exact inv_attempt py experimentId h (.inr (.inr ⟨error, rfl⟩)) hstep
  | cancel i =>
      simp only [step] at hstep
      split at hstep <;> cases hstep
      exact h.setClient fun _ => by decide
  | delete i =>
      simp only [step] at hstep
      split at hstep <;> cases hstep
      exact h.setClient fun _ => by decide
  | client i now => exact inv_advanceClient h hstep

/-! ### After `set_result` -/

/-- After `set_result` the row is the one it wrote, or deleted. -/
def After (o : Outcome) (s : State) : Prop :=
  s.runner.stored = some o ∧ (s.outcome = none ∨ s.outcome = some o)

/-- The thread writes nothing after `set_result`. -/
theorem runner_store {s t : State} {now : String} {o : Outcome} (h : s.runner.stored = some o)
    (hstep : advanceRunner py experimentId s now = some t) :
    t.store = s.store ∧ t.runner.stored = some o := by
  unfold advanceRunner at hstep
  cases hphase : s.runner <;> rw [hphase] at hstep h <;> dsimp only at hstep
  case reporting =>
    cases h
    split at hstep <;> cases hstep <;> exact ⟨rfl, rfl⟩
  case leaving =>
    cases h
    cases hstep
    exact ⟨rfl, rfl⟩
  case finished => cases hstep
  all_goals cases h

/-- The experiment is over after `set_result`. -/
theorem attempt_over {s t : State} {a : Action} {o : Outcome} (h : s.runner.stored = some o)
    (hstep : step py experimentId s a = some t) :
    (∀ event, a ≠ .emit event) ∧ (∀ serialized detection, a ≠ .returned serialized detection) ∧
      ∀ error, a ≠ .raised error := by
  have hphase : ∀ job attempt p, s.runner ≠ .attempting job attempt p := by
    intro job attempt p hphase
    rw [hphase] at h
    cases h
  refine ⟨fun event ha => ?_, fun serialized detection ha => ?_, fun error ha => ?_⟩ <;> subst ha
  · simp only [step, emitEvent] at hstep
    cases hstep
  · simp only [step, returnAttempt] at hstep
    cases hstep
  · simp only [step, raiseAttempt] at hstep
    cases hstep

/-- What a caller does to the row: nothing, a cancel or a delete. -/
theorem client_store {s t : State} {i : ℕ} {now : String}
    (hstep : advanceClient s i now = some t) :
    t.runner = s.runner ∧ (t.store.row = s.store.row ∨ t.store.row = none ∨
      s.clients i = .cancelWriting ∧ t.store.row = s.store.row.map (·.requestCancel now)) := by
  unfold advanceClient at hstep
  split at hstep
  · cases hstep
  · split at hstep <;> cases hstep <;> exact ⟨rfl, .inl rfl⟩
  · cases hstep
    exact ⟨rfl, .inr (.inr ⟨by assumption, rfl⟩)⟩
  · split at hstep <;> cases hstep <;> exact ⟨rfl, .inl rfl⟩
  · cases hstep
    exact ⟨rfl, .inl rfl⟩
  · split at hstep <;> cases hstep <;> exact ⟨rfl, .inl rfl⟩
  · cases hstep
    exact ⟨rfl, .inr (.inl rfl)⟩

/-- What an action after `set_result` does to the row, and that the outcome stays stored. -/
theorem stored_step {s t : State} {a : Action} {o : Outcome} (h : s.runner.stored = some o)
    (hstep : step py experimentId s a = some t) :
    t.runner.stored = some o ∧ (t.store.row = s.store.row ∨ t.store.row = none ∨
      ∃ i now, a = .client i now ∧ s.clients i = .cancelWriting ∧
        t.store.row = s.store.row.map (·.requestCancel now)) := by
  obtain ⟨hemit, hreturned, hraised⟩ := attempt_over py experimentId h hstep
  cases a with
  | runner now =>
      obtain ⟨hstore, hstored⟩ := runner_store py experimentId h hstep
      exact ⟨hstored, .inl (by rw [hstore])⟩
  | emit event => exact absurd rfl (hemit event)
  | returned serialized detection => exact absurd rfl (hreturned serialized detection)
  | raised error => exact absurd rfl (hraised error)
  | cancel i =>
      simp only [step] at hstep
      split at hstep <;> cases hstep
      exact ⟨h, .inl rfl⟩
  | delete i =>
      simp only [step] at hstep
      split at hstep <;> cases hstep
      exact ⟨h, .inl rfl⟩
  | client i now =>
      obtain ⟨hrunner, hrow⟩ := client_store hstep
      refine ⟨by rw [hrunner]; exact h, ?_⟩
      rcases hrow with hrow | hrow | ⟨hphase, hrow⟩
      · exact .inl hrow
      · exact .inr (.inl hrow)
      · exact .inr (.inr ⟨i, now, rfl, hphase, hrow⟩)

/-- **An action that is no late cancel keeps the outcome**, or deletes it. -/
theorem outcome_step {s t : State} {a : Action} {o : Outcome} (hinv : Inv s)
    (h : After o s) (htimely : ¬LateCancel s a)
    (hstep : step py experimentId s a = some t) :
    After o t ∧ (t.outcome = none ∨ t.outcome = s.outcome) := by
  obtain ⟨hstored, houtcome⟩ := h
  obtain ⟨hstored', hrow⟩ := stored_step py experimentId hstored hstep
  have hkeep : t.outcome = none ∨ t.outcome = s.outcome := by
    rcases hrow with hrow | hrow | ⟨i, now, rfl, hphase, hrow⟩
    · right
      rw [State.outcome, State.outcome, hrow]
    · left
      rw [State.outcome, hrow]
      rfl
    · left
      have hnone : s.store.row = none := by
        rcases hjob : s.store.row with _ | job
        · rfl
        · exfalso
          refine htimely ⟨hphase, job, hjob, ?_⟩
          rw [State.outcome, hjob] at houtcome
          rcases houtcome with hc | hc
          · cases hc
          · have hstatus : o.status = job.status :=
              (congrArg Outcome.status (Option.some.inj hc)).symm
            rw [← hstatus]
            exact hinv.stored o hstored
      rw [State.outcome, hrow, hnone]
      rfl
  refine ⟨⟨hstored', ?_⟩, hkeep⟩
  rcases hkeep with hkeep | hkeep
  · exact .inl hkeep
  · rw [hkeep]
    exact houtcome

/-- The only action that stores an outcome is the `UPDATE` of `set_result`, which writes it. -/
theorem saved_step {s t : State} {a : Action} {o : Outcome} (hinv : Inv s)
    (h : s.runner.stored = none) (hstep : step py experimentId s a = some t)
    (hstored : t.runner.stored = some o) : t.outcome = none ∨ t.outcome = some o := by
  have hsame : t.runner = s.runner → False := by
    intro hrunner
    rw [hrunner, h] at hstored
    cases hstored
  cases a with
  | runner now =>
      have hstep' : advanceRunner py experimentId s now = some t := hstep
      unfold advanceRunner at hstep'
      cases hphase : s.runner <;> rw [hphase] at hstep' <;> dsimp only at hstep'
      case saving =>
        cases hstep'
        cases hstored
        obtain ⟨job, hjob, _⟩ := (hinv.before h).row
        right
        show (s.store.row.map _).map _ = _
        rw [hjob]
        rfl
      case reporting =>
        rw [hphase] at h
        cases h
      case leaving =>
        rw [hphase] at h
        cases h
      case starting | closing =>
        cases hstep'
        cases hstored
      case checking | storing =>
        split at hstep'
        · cases hstep'
          cases hstored
        · split at hstep' <;> cases hstep' <;> cases hstored
      case attempting | finished => cases hstep'
      case fetching | requiring | confirming | appending => split at hstep' <;> cases hstep' <;> cases hstored
  | emit event =>
      simp only [step, emitEvent] at hstep
      split at hstep
      · split at hstep <;> cases hstep
        · exact (hsame rfl).elim
        · cases hstored
      · cases hstep
  | returned serialized detection =>
      simp only [step, returnAttempt] at hstep
      split at hstep
      · rename_i job attempt p _
        generalize recordAttempt py p serialized detection = recorded at hstep
        obtain ⟨p', breaks⟩ := recorded
        cases breaks <;> cases hstep <;> cases hstored
      · cases hstep
  | raised error =>
      simp only [step, raiseAttempt] at hstep
      split at hstep <;> cases hstep
      cases hstored
  | cancel i =>
      simp only [step] at hstep
      split at hstep <;> cases hstep
      exact (hsame rfl).elim
  | delete i =>
      simp only [step] at hstep
      split at hstep <;> cases hstep
      exact (hsame rfl).elim
  | client i now => exact (hsame (client_store hstep).1).elim

end Steps

/-! ### Runs -/

/-- What every action that is no late cancel keeps. -/
structure Settled (s : State) : Prop where
  inv : Inv s
  outcome : ∀ o, s.runner.stored = some o → s.outcome = none ∨ s.outcome = some o

section Runs

variable (py : Python) (experimentId : String)

theorem settled_step (s : State) (a : Action) (t : State) (h : Settled s)
    (htimely : ¬LateCancel s a) (hstep : step py experimentId s a = some t) : Settled t where
  inv := inv_step py experimentId h.inv hstep
  outcome o ho := by
    rcases hs : s.runner.stored with _ | o'
    · exact saved_step py experimentId h.inv hs hstep ho
    · have hafter := (outcome_step py experimentId h.inv ⟨hs, h.outcome o' hs⟩ htimely hstep).1
      rw [hafter.1] at ho
      cases ho
      exact hafter.2

/-- The acceptance of a run: no cancel overwrites a terminal status. -/
abbrev Timely (acts : List Action) (s : State) : Prop :=
  Along (step py experimentId) (fun s a => ¬LateCancel s a) acts s

/-- Once `set_result` has stored an outcome, it stays until the job is deleted, and a
deleted job stays deleted. -/
def Steady (acts : List Action) (s₀ : State) : Prop :=
  ∀ before mid after s t, acts = before ++ (mid ++ after) →
    exec (step py experimentId) before s₀ = some s → exec (step py experimentId) mid s = some t →
    s.runner.stored.isSome → t.outcome = none ∨ t.outcome = s.outcome

/-- Whenever the thread has ended, the job is deleted or has a terminal status. -/
def EndsTerminal (acts : List Action) (s₀ : State) : Prop :=
  ∀ before after s, acts = before ++ after → exec (step py experimentId) before s₀ = some s →
    s.runner.isFinished → ∀ o, s.outcome = some o → o.status.terminal = true

variable {py experimentId}

/-- The outcome after a timely run that begins after `set_result`. -/
theorem outcome_exec {acts : List Action} {s t : State} {o : Outcome} (h : Settled s)
    (ho : s.runner.stored = some o) (htimely : Timely py experimentId acts s)
    (hrun : exec (step py experimentId) acts s = some t) :
    t.outcome = none ∨ t.outcome = s.outcome := by
  have hkeep := invariant_along
    (I := fun u => (Inv u ∧ After o u) ∧ (u.outcome = none ∨ u.outcome = s.outcome))
    (fun u a v ⟨⟨hinv, hafter⟩, hu⟩ hok hstep => by
      obtain ⟨hafter', hv⟩ := outcome_step py experimentId hinv hafter hok hstep
      refine ⟨⟨inv_step py experimentId hinv hstep, hafter'⟩, ?_⟩
      rcases hv with hv | hv
      · exact .inl hv
      · rw [hv]
        exact hu)
    ⟨⟨h.inv, ho, h.outcome o ho⟩, .inr rfl⟩ htimely hrun
  exact hkeep.2

/-- A timely run is steady and ends in a terminal status. -/
theorem outcome_of_timely {acts : List Action} {s₀ : State} (h : Settled s₀)
    (htimely : Timely py experimentId acts s₀) :
    Steady py experimentId acts s₀ ∧ EndsTerminal py experimentId acts s₀ := by
  have hreach : ∀ {before s}, Timely py experimentId before s₀ →
      exec (step py experimentId) before s₀ = some s → Settled s :=
    fun hbefore hrun => invariant_along (settled_step py experimentId) h hbefore hrun
  constructor
  · intro before mid after s t hacts hbefore hmid hstored
    subst hacts
    have hs : Settled s := hreach (along_left htimely) hbefore
    obtain ⟨o, ho⟩ := Option.isSome_iff_exists.1 hstored
    exact outcome_exec hs ho (along_left (along_append htimely hbefore)) hmid
  · intro before after s hacts hbefore hfinished o ho
    subst hacts
    have hs : Settled s := hreach (along_left htimely) hbefore
    rcases hstored : s.runner.stored with _ | o'
    · have hrunning := (hs.inv.before hstored).running
      rw [hfinished] at hrunning
      cases hrunning
    · rcases hs.outcome o' hstored with hnone | hsome
      · rw [hnone] at ho
        cases ho
      · rw [hsome] at ho
        cases ho
        exact hs.inv.stored o hstored

/-- A late cancel takes the outcome of the job away. -/
theorem late_cancel_step {s t : State} {a : Action} (hlate : LateCancel s a)
    (hstep : step py experimentId s a = some t) : t.outcome ≠ none ∧ t.outcome ≠ s.outcome := by
  cases a with
  | client i now =>
      obtain ⟨hphase, job, hjob, hstatus⟩ := hlate
      simp only [step, advanceClient, hphase] at hstep
      cases hstep
      have hout : (State.outcome ((s.setStore
          (s.store.update (ExperimentJob.requestCancel now))).setClient i .cancelConfirming))
          = some ⟨.cancelling, job.result⟩ := by
        show (s.store.row.map _).map _ = _
        rw [hjob]
        rfl
      rw [hout]
      refine ⟨by simp, fun h => ?_⟩
      rw [State.outcome, hjob] at h
      have hcancelling : ExperimentJobStatus.cancelling = job.status :=
        congrArg Outcome.status (Option.some.inj h)
      rw [← hcancelling] at hstatus
      cases hstatus
  | _ => exact hlate.elim

/-- A steady run has no late cancel. -/
theorem timely_of_steady {acts : List Action} {s₀ s' : State} (h : Inv s₀)
    (hrun : exec (step py experimentId) acts s₀ = some s')
    (hsteady : Steady py experimentId acts s₀) : Timely py experimentId acts s₀ := by
  refine along_of_forall fun before a after s hacts hbefore hlate => ?_
  have hinv : Inv s :=
    invariant (fun s a t hs hstep => inv_step py experimentId hs hstep) h hbefore
  have hstored : s.runner.stored ≠ none := by
    intro hnone
    obtain ⟨job, hjob, hstatus⟩ := (hinv.before hnone).row
    cases a with
    | client i now =>
        obtain ⟨_, job', hjob', hstatus'⟩ := hlate
        rw [hjob] at hjob'
        cases hjob'
        rw [hstatus] at hstatus'
        cases hstatus'
    | _ => exact hlate
  subst hacts
  obtain ⟨u, hu, hrest⟩ := exec_append.1 hrun
  rw [hbefore] at hu
  cases hu
  obtain ⟨t, ht, _⟩ := exec_cons.1 hrest
  obtain ⟨hnone, hchange⟩ := late_cancel_step hlate ht
  rcases hsteady before [a] after s t rfl hbefore (exec_singleton.2 ht)
    (Option.isSome_iff_ne_none.2 hstored) with hout | hout
  · exact hnone hout
  · exact hchange hout

end Runs

/-- **The outcome of a job stays** exactly in the runs where no `request_cancel` writes
`cancelling` over a terminal status, for every order of the statements of the thread and of
any number of callers. -/
theorem outcome_stays_iff (py : Python) (experimentId : String) (request : JobRequest)
    (now : String) (acts : List Action) (s : State)
    (hrun : exec (step py experimentId) acts (State.initial request now) = some s) :
    Steady py experimentId acts (State.initial request now) ∧
        EndsTerminal py experimentId acts (State.initial request now) ↔
      Timely py experimentId acts (State.initial request now) := by
  have hinv : Inv (State.initial request now) := inv_initial request now
  constructor
  · rintro ⟨hsteady, -⟩
    exact timely_of_steady hinv hrun hsteady
  · intro htimely
    exact outcome_of_timely ⟨hinv, fun o ho => by cases ho⟩ htimely

/-! ### A cancel in time, and a late one -/

/-- A job of one attempt. -/
def oneAttempt : JobRequest := ⟨1, "scripted", ""⟩

/-- The statements of the thread from its start to the checks of `set_result`, with one
attempt that completes. -/
def completeAttempt : List Action :=
  List.replicate 5 (.runner "t") ++ [.returned [("status", .str "completed")] []] ++
    List.replicate 3 (.runner "t")

/-- A caller cancels the job before the thread has started, and the thread stores the result
of its attempt afterwards. -/
def timelyCancel : List Action :=
  [.cancel 0, .client 0 "t", .client 0 "t"] ++ completeAttempt ++ [.runner "t"]

/-- A caller reads the status `running`, the thread stores its result, and the caller writes;
the thread then ends. -/
def lateCancel : List Action :=
  completeAttempt ++ [.cancel 0, .client 0 "t", .runner "t", .client 0 "t", .runner "t", .runner "t"]

theorem timelyCancel_stays :
    ∃ s, exec (step .ascii "e") timelyCancel (State.initial oneAttempt "t") = some s ∧
      Steady .ascii "e" timelyCancel (State.initial oneAttempt "t") ∧
      EndsTerminal .ascii "e" timelyCancel (State.initial oneAttempt "t") := by
  have hsome : (exec (step .ascii "e") timelyCancel (State.initial oneAttempt "t")).isSome = true :=
    by decide +kernel
  obtain ⟨s, hs⟩ := Option.isSome_iff_exists.1 hsome
  exact ⟨s, hs, (outcome_stays_iff .ascii "e" oneAttempt "t" timelyCancel s hs).2
    (by decide +kernel)⟩

/-- **The race**: the thread has ended and the status of the job is `cancelling`. -/
theorem lateCancel_unsettled :
    ¬(Steady .ascii "e" lateCancel (State.initial oneAttempt "t") ∧
      EndsTerminal .ascii "e" lateCancel (State.initial oneAttempt "t")) := by
  have hrun : (exec (step .ascii "e") lateCancel (State.initial oneAttempt "t")).map
      (fun s => (s.runner.isFinished, s.outcome.map (·.status))) = some (true, some .cancelling) := by
    decide +kernel
  rintro ⟨-, hends⟩
  obtain ⟨s, hs, hview⟩ := Option.map_eq_some_iff.1 hrun
  simp only [Prod.mk.injEq] at hview
  obtain ⟨hfinished, hstatus⟩ := hview
  obtain ⟨o, ho, hcancelling⟩ := Option.map_eq_some_iff.1 hstatus
  have hterminal := hends _ [] s (by rw [List.append_nil]) hs hfinished o ho
  rw [hcancelling] at hterminal
  cases hterminal

end Jobs
end AiopsK8s
