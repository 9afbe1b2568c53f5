/-
# The stream of a job's events

`api_experiment_events` of `control_plane_web.py`: the loop that sends the events of a job
to a browser, next to the thread of the job and its callers.  `wait_for_events` takes a
snapshot of the events; the loop sends it and then reads the status of the job in another
statement, and a terminal status ends the stream.

The thread stores its last events and its result in this order, and both may happen between
the snapshot and the reading of the status: the stream then ends without these events.
`stream_complete_iff` is that nothing else can be missing.  What a frame looks like as a text
is left out, and `Condition.wait` may return at any time.
-/

import AiopsK8s.Jobs.Races
import Mathlib.Data.List.Sort

namespace AiopsK8s
namespace Jobs

open Steps
open Experiment (RuntimeEvent)

/-- The `SELECT` of `events_after`. -/
def Store.eventsAfter (s : Store) (sequence : ℕ) : List RuntimeEvent :=
  (s.events.filter (sequence < ·.sequence)).insertionSort (·.sequence ≤ ·.sequence)

/-- What the stream sends. -/
inductive Frame where
  | runtime (event : RuntimeEvent)
  | job (job : ExperimentJob)
  | keepAlive

/-- The event of a frame. -/
def Frame.event? : Frame → Option RuntimeEvent
  | runtime event => some event
  | _ => none

/-- Where the reader is: `events` is what `wait_for_events` returned and `pending` the part
of it that is not sent yet. -/
inductive ReaderPhase where
  | opening
  | requiring
  | selecting
  | inspecting
  | waiting
  | requiringAgain
  | selectingAgain
  | sending (events pending : List RuntimeEvent)
  | closing (events : List RuntimeEvent)
  | ended

/-- The reader with its cursor and what it has sent. -/
structure Reader where
  phase : ReaderPhase
  cursor : ℕ
  sent : List Frame

/-- The job with its thread and callers, and the reader. -/
structure Watched where
  jobs : State
  reader : Reader

/-- What may happen next. -/
inductive WatchAction where
  | jobs (a : Action)
  | reader

namespace Reader

variable (r : Reader)

def setPhase (phase : ReaderPhase) : Reader := { r with phase }

def send (frame : Frame) : Reader := { r with sent := r.sent ++ [frame] }

/-- The events that were sent. -/
def sentEvents : List RuntimeEvent := r.sent.filterMap Frame.event?

end Reader

/-- The next statement of the reader.  A `KeyError` of `_required` ends the stream. -/
def advanceReader (store : Store) (r : Reader) : Option Reader :=
  match r.phase with
  | .opening =>
    match store.row with
    | none => some (r.setPhase .ended)
    | some _ => some (r.setPhase .requiring)
  | .requiring =>
    match store.row with
    | none => some (r.setPhase .ended)
    | some _ => some (r.setPhase .selecting)
  | .selecting =>
    let events := store.eventsAfter r.cursor
    some (r.setPhase (if events.isEmpty then .inspecting else .sending events events))
  | .inspecting =>
    match store.row with
    | none => some (r.setPhase (.sending [] []))
    | some job => some (r.setPhase (if job.status.terminal then .sending [] [] else .waiting))
  | .waiting => some (r.setPhase .requiringAgain)
  | .requiringAgain =>
    match store.row with
    | none => some (r.setPhase .ended)
    | some _ => some (r.setPhase .selectingAgain)
  | .selectingAgain =>
    let events := store.eventsAfter r.cursor
    some (r.setPhase (.sending events events))
  | .sending events [] => some (r.setPhase (.closing events))
  | .sending events (event :: pending) =>
    some (({ r with cursor := event.sequence }.send (.runtime event)).setPhase
      (.sending events pending))
  | .closing events =>
    match store.row with
    | none => some (r.setPhase .ended)
    | some job =>
      if job.status.terminal then some ((r.send (.job job)).setPhase .ended)
      else if events.isEmpty then some ((r.send .keepAlive).setPhase .requiring)
      else some (r.setPhase .requiring)
  | .ended => none

/-- One action of the job, its callers or the reader. -/
def watch (py : Python) (experimentId : String) (s : Watched) : WatchAction → Option Watched
  | .jobs a => (step py experimentId s.jobs a).map fun jobs => { s with jobs }
  | .reader => (advanceReader s.jobs.store s.reader).map fun reader => { s with reader }

/-- A submitted job, and a request for its events after `cursor`. -/
def Watched.initial (request : JobRequest) (now : String) (cursor : ℕ) : Watched :=
  ⟨.initial request now, ⟨.opening, cursor, []⟩⟩

/-! ### What the stream should be -/

/-- The events that were sent are the stored ones after the cursor, in increasing order and
each once. -/
structure Delivers (cursor : ℕ) (s : Watched) : Prop where
  exact : ∀ e, e ∈ s.reader.sentEvents ↔ e ∈ s.jobs.store.events ∧ cursor < e.sequence
  increasing : s.reader.sentEvents.Pairwise (·.sequence < ·.sequence)

/-- The next action of the reader ends the stream with the job. -/
def Closing (s : Watched) : Prop :=
  (∃ events, s.reader.phase = .closing events) ∧
    ∃ job, s.jobs.store.row = some job ∧ job.status.terminal = true

/-- The action is a snapshot of the events. -/
def Snapshot (s : Watched) : WatchAction → Prop
  | .reader => s.reader.phase = .selecting ∨ s.reader.phase = .selectingAgain
  | .jobs _ => False

section System

variable (py : Python) (experimentId : String) (cursor : ℕ)

/-- Whenever the stream ends with the job, it has delivered its events. -/
def Complete (acts : List WatchAction) (s₀ : Watched) : Prop :=
  ∀ before after s t, acts = before ++ .reader :: after →
    exec (watch py experimentId) before s₀ = some s → Closing s →
    watch py experimentId s .reader = some t → Delivers cursor t

/-- Between a snapshot and the reading of the status that ends the stream, no event after the
cursor is stored. -/
def Prompt (acts : List WatchAction) (s₀ : Watched) : Prop :=
  ∀ before mid after s u, acts = before ++ (mid ++ .reader :: after) →
    exec (watch py experimentId) before s₀ = some s →
    exec (watch py experimentId) mid s = some u →
    Along (watch py experimentId) (fun s a => ¬Snapshot s a) mid s → Closing u →
    u.jobs.store.eventsAfter cursor = s.jobs.store.eventsAfter cursor

end System

/-! ### The stored events -/

/-- The thread numbers its events in the order in which it stores them. -/
structure Numbered (s : State) : Prop where
  increasing : s.store.events.Pairwise (·.sequence < ·.sequence)
  bounded : ∀ e ∈ s.store.events, e.sequence ≤ s.sequence
  next : ∀ job attempt p e, s.runner = .appending job attempt p e →
    e.sequence = s.sequence ∧ ∀ stored ∈ s.store.events, stored.sequence < e.sequence

theorem numbered_initial (request : JobRequest) (now : String) :
    Numbered (State.initial request now) where
  increasing := .nil
  bounded e he := by cases he
  next _ _ _ _ h := by cases h

/-- The events in order are the `SELECT` of `events_after`. -/
theorem Numbered.eventsAfter {s : State} (h : Numbered s) (n : ℕ) :
    s.store.eventsAfter n = s.store.events.filter (n < ·.sequence) := by
  have hle : s.store.events.Pairwise (·.sequence ≤ ·.sequence) :=
    h.increasing.imp fun hlt => Nat.le_of_lt hlt
  exact (hle.filter _).insertionSort_eq

section Jobs

variable (py : Python) (experimentId : String)

/-- What a statement of the thread does to the events, and that it does not bring back a
deleted job. -/
theorem runner_events {s t : State} {now : String}
    (hstep : advanceRunner py experimentId s now = some t) :
    t.sequence = s.sequence ∧ (∀ job attempt p e, t.runner ≠ .appending job attempt p e) ∧
      (s.store.row = none → t.store.row = none) ∧
      (t.store.events = s.store.events ∨ ∃ job attempt p e,
        s.runner = .appending job attempt p e ∧ t.store.events = s.store.events ++ [e]) := by
  unfold advanceRunner at hstep
  cases hphase : s.runner <;> rw [hphase] at hstep <;> dsimp only at hstep
  case appending job attempt p e =>
    split at hstep
    · cases hstep
      exact ⟨rfl, fun _ _ _ _ h => (by cases h), id, .inl rfl⟩
    · rename_i store happend
      cases hstep
      unfold Store.appendEvent at happend
      split at happend
      · cases happend
      · rename_i row hrow
        cases happend
        refine ⟨rfl, fun _ _ _ _ h => (by cases h), fun hnone => ?_,
          .inr ⟨job, attempt, p, e, rfl, rfl⟩⟩
        rw [hnone] at hrow
        cases hrow
  case starting | saving =>
    cases hstep
    refine ⟨rfl, fun _ _ _ _ h => (by cases h), fun hnone => ?_, .inl rfl⟩
    show s.store.row.map _ = none
    rw [hnone]
    rfl
  case closing | leaving =>
    cases hstep
    exact ⟨rfl, fun _ _ _ _ h => (by cases h), id, .inl rfl⟩
  case attempting | finished => cases hstep
  case fetching | requiring | confirming | reporting =>
    split at hstep <;> cases hstep <;>
      exact ⟨rfl, fun _ _ _ _ h => (by cases h), id, .inl rfl⟩
  case checking | storing =>
    split at hstep
    · cases hstep
      exact ⟨rfl, fun _ _ _ _ h => (by cases h), id, .inl rfl⟩
    · split at hstep <;> cases hstep <;>
        exact ⟨rfl, fun _ _ _ _ h => (by cases h), id, .inl rfl⟩

/-- What a statement of a caller does to the events: nothing, or a delete. -/
theorem client_events {s t : State} {i : ℕ} {now : String}
    (hstep : advanceClient s i now = some t) :
    t.sequence = s.sequence ∧ t.runner = s.runner ∧ (t.store.events = s.store.events ∨
      t.store = s.store.delete) := by
  unfold advanceClient at hstep
  cases hphase : s.clients i <;> rw [hphase] at hstep <;> dsimp only at hstep
  case idle => cases hstep
  case cancelReading | cancelConfirming | deleteReading =>
    split at hstep <;> cases hstep <;> exact ⟨rfl, rfl, .inl rfl⟩
  case cancelWriting | cancelSignalling =>
    cases hstep
    exact ⟨rfl, rfl, .inl rfl⟩
  case deleteWriting =>
    cases hstep
    exact ⟨rfl, rfl, .inr rfl⟩

/-- The events stay in order when the thread goes on without an event. -/
theorem Numbered.keep {s t : State} (h : Numbered s) (hevents : t.store.events = s.store.events)
    (hsequence : s.sequence ≤ t.sequence)
    (hrunner : ∀ job attempt p e, t.runner ≠ .appending job attempt p e) : Numbered t where
  increasing := by
    rw [hevents]
    exact h.increasing
  bounded e he := by
    rw [hevents] at he
    exact (h.bounded e he).trans hsequence
  next job attempt p e hphase := absurd hphase (hrunner job attempt p e)

/-- The events stay in order when the thread does nothing. -/
theorem Numbered.client {s t : State} (h : Numbered s) (hsequence : t.sequence = s.sequence)
    (hrunner : t.runner = s.runner)
    (hevents : t.store.events = s.store.events ∨ t.store = s.store.delete) : Numbered t := by
  rcases hevents with hevents | hdelete
  · refine ⟨by rw [hevents]; exact h.increasing, fun e he => ?_, fun job attempt p e hphase => ?_⟩
    · rw [hsequence]
      exact h.bounded e (hevents ▸ he)
    · rw [hsequence, hevents]
      exact h.next job attempt p e (hrunner ▸ hphase)
  · have hnil : t.store.events = [] := by
      rw [hdelete]
      rfl
    refine ⟨by rw [hnil]; exact .nil, fun e he => ?_, fun job attempt p e hphase => ?_⟩
    · rw [hnil] at he
      cases he
    · rw [hsequence, hnil]
      exact ⟨(h.next job attempt p e (hrunner ▸ hphase)).1, fun stored hstored => by cases hstored⟩

/-- **Every action keeps the events in order.** -/
theorem numbered_step {s t : State} {a : Action} (h : Numbered s)
    (hstep : step py experimentId s a = some t) : Numbered t := by
  cases a with
  | runner now =>
      obtain ⟨hsequence, hrunner, _, hevents | ⟨job, attempt, p, e, hphase, hevents⟩⟩ :=
        runner_events py experimentId hstep
      · exact h.keep hevents hsequence.ge hrunner
      · obtain ⟨hnext, hlast⟩ := h.next job attempt p e hphase
        refine ⟨?_, fun e' he' => ?_, fun job' attempt' p' e' hc =>
          absurd hc (hrunner job' attempt' p' e')⟩
        · rw [hevents, List.pairwise_append]
          refine ⟨h.increasing, List.pairwise_singleton .., fun stored hstored e' he' => ?_⟩
          obtain rfl := List.mem_singleton.1 he'
          exact hlast stored hstored
        · rw [hevents, List.mem_append, List.mem_singleton] at he'
          rw [hsequence]
          rcases he' with he' | rfl
          · exact h.bounded e' he'
          · exact hnext.le
  | emit event =>
      simp only [step, emitEvent] at hstep
      split at hstep
      · rename_i job attempt p hphase
        split at hstep <;> cases hstep
        · exact h.keep rfl (Nat.le_succ _) fun _ _ _ _ hc => by rw [hphase] at hc; cases hc
        · refine ⟨h.increasing, fun e he => (h.bounded e he).trans (Nat.le_succ _), ?_⟩
          intro job' attempt' p' e hc
          cases hc
          exact ⟨rfl, fun stored hstored => Nat.lt_succ_of_le (h.bounded stored hstored)⟩
      · cases hstep
  | returned serialized detection =>
      simp only [step, returnAttempt] at hstep
      split at hstep
      · rename_i job attempt p _
        generalize recordAttempt py p serialized detection = recorded at hstep
        obtain ⟨p', breaks⟩ := recorded
        cases breaks <;> cases hstep <;>
          exact h.keep rfl le_rfl fun _ _ _ _ hc => by cases hc
      · cases hstep
  | raised error =>
      simp only [step, raiseAttempt] at hstep
      split at hstep <;> cases hstep
      exact h.keep rfl le_rfl fun _ _ _ _ hc => by cases hc
  | cancel i =>
      simp only [step] at hstep
      split at hstep <;> cases hstep
      exact h.client rfl rfl (.inl rfl)
  | delete i =>
      simp only [step] at hstep
      split at hstep <;> cases hstep
      exact h.client rfl rfl (.inl rfl)
  | client i now =>
      obtain ⟨hsequence, hrunner, hevents⟩ := client_events hstep
      exact h.client hsequence hrunner hevents

/-- A job that was deleted stays deleted, and otherwise the only change of the events is that
the thread adds one, before `set_result`. -/
theorem events_step {s t : State} {a : Action} (hstep : step py experimentId s a = some t) :
    (s.store.row = none → t.store.row = none) ∧ (t.store.row = none ∨
      t.store.events = s.store.events ∨
      s.runner.stored = none ∧ ∃ e, t.store.events = s.store.events ++ [e]) := by
  cases a with
  | runner now =>
      obtain ⟨_, _, hrow, hevents⟩ := runner_events py experimentId hstep
      refine ⟨hrow, ?_⟩
      rcases hevents with hevents | ⟨job, attempt, p, e, hphase, hevents⟩
      · exact .inr (.inl hevents)
      · exact .inr (.inr ⟨by rw [hphase]; rfl, e, hevents⟩)
  | emit event =>
      simp only [step, emitEvent] at hstep
      split at hstep
      · split at hstep <;> cases hstep <;> exact ⟨id, .inr (.inl rfl)⟩
      · cases hstep
  | returned serialized detection =>
      simp only [step, returnAttempt] at hstep
      split at hstep
      · generalize recordAttempt py _ serialized detection = recorded at hstep
        obtain ⟨p', breaks⟩ := recorded
        cases breaks <;> cases hstep <;> exact ⟨id, .inr (.inl rfl)⟩
      · cases hstep
  | raised error =>
      simp only [step, raiseAttempt] at hstep
      split at hstep <;> cases hstep
      exact ⟨id, .inr (.inl rfl)⟩
  | cancel i =>
      simp only [step] at hstep
      split at hstep <;> cases hstep
      exact ⟨id, .inr (.inl rfl)⟩
  | delete i =>
      simp only [step] at hstep
      split at hstep <;> cases hstep
      exact ⟨id, .inr (.inl rfl)⟩
  | client i now =>
      obtain ⟨_, hrow⟩ := client_store hstep
      obtain ⟨_, _, hevents⟩ := client_events hstep
      refine ⟨fun hnone => ?_, ?_⟩
      · rcases hrow with hrow | hrow | ⟨_, hrow⟩
        · rw [hrow, hnone]
        · exact hrow
        · rw [hrow, hnone]
          rfl
      · rcases hevents with hevents | hdelete
        · exact .inr (.inl hevents)
        · exact .inl (by rw [hdelete]; rfl)

end Jobs

/-! ### What the reader has read -/

/-- The events that the reader has fetched and not sent yet. -/
def ReaderPhase.pending : ReaderPhase → List RuntimeEvent
  | sending _ pending => pending
  | _ => []

/-- The reader has taken the snapshot of this iteration, and it was not followed by another
one. -/
def ReaderPhase.hasFetched : ReaderPhase → Bool
  | inspecting => true
  | sending _ _ => true
  | closing _ => true
  | _ => false

/-- The events that the reader has fetched. -/
def Reader.fetched (r : Reader) : List RuntimeEvent := r.sentEvents ++ r.phase.pending

/-- A step of the reader that fetches and sends nothing. -/
structure Quiet (r r' : Reader) : Prop where
  cursor : r'.cursor = r.cursor
  sent : r'.sentEvents = r.sentEvents
  pending : r.phase.pending = []
  pending' : r'.phase.pending = []
  hasFetched : r'.phase.hasFetched = true → r.phase.hasFetched = true

namespace Reader

variable (r : Reader)

/-- The phase of a snapshot. -/
def isSelecting : Prop := r.phase = .selecting ∨ r.phase = .selectingAgain

@[simp] theorem sentEvents_setPhase (phase : ReaderPhase) :
    (r.setPhase phase).sentEvents = r.sentEvents := rfl

/-- A frame that is no event. -/
theorem sentEvents_send {frame : Frame} (hframe : frame.event? = none) :
    (r.send frame).sentEvents = r.sentEvents := by
  show (r.sent ++ [frame]).filterMap Frame.event? = _
  rw [List.filterMap_append, List.filterMap_cons_none hframe, List.filterMap_nil, List.append_nil]
  rfl

theorem sentEvents_send_runtime (event : RuntimeEvent) :
    (r.send (.runtime event)).sentEvents = r.sentEvents ++ [event] := by
  show (r.sent ++ [Frame.runtime event]).filterMap Frame.event? = _
  rw [List.filterMap_append]
  rfl

/-- The reader after it has sent `event`. -/
def afterSending (events pending : List RuntimeEvent) (event : RuntimeEvent) : Reader :=
  (({ r with cursor := event.sequence } : Reader).send (.runtime event)).setPhase
    (.sending events pending)

theorem sentEvents_afterSending (events pending : List RuntimeEvent) (event : RuntimeEvent) :
    (r.afterSending events pending event).sentEvents = r.sentEvents ++ [event] :=
  sentEvents_send_runtime _ event

variable {r}

/-- What a statement of the reader is: a snapshot, an event that it sends, or neither. -/
theorem advanceReader_cases {store : Store} {r' : Reader} (hstep : advanceReader store r = some r') :
    (r.isSelecting ∧ ∃ phase, r' = r.setPhase phase ∧
      phase.pending = store.eventsAfter r.cursor ∧ phase.hasFetched = true) ∨
    (∃ events event pending, r.phase = .sending events (event :: pending) ∧
      r' = r.afterSending events pending event) ∨
    ¬r.isSelecting ∧ Quiet r r' := by
  unfold advanceReader at hstep
  split at hstep
  case h_3 hphase =>
    dsimp only at hstep
    cases hstep
    refine .inl ⟨.inl hphase, _, rfl, ?_⟩
    split
    · rename_i hempty
      exact ⟨(List.isEmpty_iff.1 hempty).symm, rfl⟩
    · exact ⟨rfl, rfl⟩
  case h_7 hphase =>
    cases hstep
    exact .inl ⟨.inr hphase, _, rfl, rfl, rfl⟩
  case h_9 events event pending hphase =>
    cases hstep
    exact .inr (.inl ⟨events, event, pending, hphase, rfl⟩)
  case h_11 => cases hstep
  all_goals
    rename_i hphase
    have hnot : ¬r.isSelecting := by
      rintro (hc | hc) <;> rw [hphase] at hc <;> cases hc
    have hpending : r.phase.pending = [] := by rw [hphase]; rfl
    refine .inr (.inr ⟨hnot, ?_⟩)
  case h_1 | h_2 | h_6 =>
    split at hstep <;> cases hstep <;> exact ⟨rfl, rfl, hpending, rfl, fun h => by cases h⟩
  case h_4 =>
    have hfetched : r.phase.hasFetched = true := by rw [hphase]; rfl
    split at hstep <;> cases hstep
    · exact ⟨rfl, rfl, hpending, rfl, fun _ => hfetched⟩
    · exact ⟨rfl, rfl, hpending, by dsimp only [setPhase]; split <;> rfl, fun _ => hfetched⟩
  case h_5 =>
    cases hstep
    exact ⟨rfl, rfl, hpending, rfl, fun h => by cases h⟩
  case h_8 =>
    have hfetched : r.phase.hasFetched = true := by rw [hphase]; rfl
    cases hstep
    exact ⟨rfl, rfl, hpending, rfl, fun _ => hfetched⟩
  case h_10 =>
    split at hstep
    · cases hstep
      exact ⟨rfl, rfl, hpending, rfl, fun h => by cases h⟩
    · split at hstep
      · cases hstep
        exact ⟨rfl, r.sentEvents_send rfl, hpending, rfl, fun h => by cases h⟩
      · split at hstep <;> cases hstep
        · exact ⟨rfl, r.sentEvents_send rfl, hpending, rfl, fun h => by cases h⟩
        · exact ⟨rfl, rfl, hpending, rfl, fun h => by cases h⟩

end Reader

/-- The reader has fetched a beginning of the events `all` after the cursor it started with,
and its own cursor is where the rest begins. -/
structure Reads (start : ℕ) (all : List RuntimeEvent) (r : Reader) : Prop where
  parts : ∃ rest, all = r.sentEvents ++ (r.phase.pending ++ rest) ∧
    (∀ e ∈ r.sentEvents, e.sequence ≤ r.cursor) ∧
    ∀ e ∈ r.phase.pending ++ rest, r.cursor < e.sequence
  start_le : start ≤ r.cursor
  cursor : r.cursor = start ∨ ∃ e ∈ all, e.sequence = r.cursor

namespace Reads

variable {start : ℕ} {all : List RuntimeEvent} {r : Reader}

/-- A new event belongs to the rest. -/
theorem append (h : Reads start all r) {e : RuntimeEvent} (hstart : start < e.sequence)
    (hlast : ∀ e' ∈ all, e'.sequence < e.sequence) : Reads start (all ++ [e]) r := by
  obtain ⟨⟨rest, hall, hsent, hrest⟩, hle, hcursor⟩ := h
  have hlt : r.cursor < e.sequence := by
    rcases hcursor with hcursor | ⟨e', he', hcursor⟩
    · omega
    · have := hlast e' he'
      omega
  refine ⟨⟨rest ++ [e], ?_, hsent, fun e' he' => ?_⟩, hle, ?_⟩
  · rw [hall]
    simp only [List.append_assoc]
  · rw [← List.append_assoc, List.mem_append, List.mem_singleton] at he'
    rcases he' with he' | rfl
    · exact hrest e' he'
    · exact hlt
  · rcases hcursor with hcursor | ⟨e', he', hcursor⟩
    · exact .inl hcursor
    · exact .inr ⟨e', List.mem_append_left _ he', hcursor⟩

/-- A step that fetches and sends nothing. -/
theorem quiet (h : Reads start all r) {r' : Reader} (hquiet : Quiet r r') :
    Reads start all r' := by
  obtain ⟨⟨rest, hall, hsent, hrest⟩, hle, hcursor⟩ := h
  rw [hquiet.pending] at hall hrest
  refine ⟨⟨rest, ?_, ?_, ?_⟩, ?_, ?_⟩
  · rw [hquiet.sent, hquiet.pending']
    exact hall
  · rw [hquiet.sent, hquiet.cursor]
    exact hsent
  · rw [hquiet.pending', hquiet.cursor]
    exact hrest
  · rw [hquiet.cursor]
    exact hle
  · rw [hquiet.cursor]
    exact hcursor

/-- With nothing to send, what lies after the cursor of the reader is the rest. -/
theorem unread (h : Reads start all r) (hpending : r.phase.pending = []) :
    all = r.sentEvents ++ all.filter (r.cursor < ·.sequence) ∧
      ∀ e ∈ r.sentEvents, e.sequence ≤ r.cursor := by
  obtain ⟨⟨rest, hall, hsent, hrest⟩, -, -⟩ := h
  rw [hpending, List.nil_append] at hall
  rw [hpending, List.nil_append] at hrest
  have hnone : r.sentEvents.filter (r.cursor < ·.sequence) = [] :=
    List.filter_eq_nil_iff.2 fun e he => by
      have := hsent e he
      simp only [decide_eq_true_eq]
      omega
  have hevery : rest.filter (r.cursor < ·.sequence) = rest :=
    List.filter_eq_self.2 fun e he => by
      simp only [decide_eq_true_eq]
      exact hrest e he
  refine ⟨?_, hsent⟩
  rw [hall, List.filter_append, hnone, hevery, List.nil_append]

/-- A snapshot fetches the rest. -/
theorem fetch (h : Reads start all r) (hpending : r.phase.pending = []) {phase : ReaderPhase}
    (hphase : phase.pending = all.filter (r.cursor < ·.sequence)) :
    Reads start all (r.setPhase phase) ∧ (r.setPhase phase).fetched = all := by
  obtain ⟨hall, hsent⟩ := h.unread hpending
  have hfetched : (r.setPhase phase).fetched = all := by
    show r.sentEvents ++ phase.pending = all
    rw [hphase]
    exact hall.symm
  refine ⟨⟨⟨[], ?_, hsent, fun e he => ?_⟩, h.start_le, h.cursor⟩, hfetched⟩
  · rw [List.append_nil]
    exact hfetched.symm
  · have he' : e ∈ phase.pending := by rwa [List.append_nil] at he
    rw [hphase, List.mem_filter, decide_eq_true_eq] at he'
    exact he'.2

/-- The next of the fetched events is sent. -/
theorem next (h : Reads start all r) (hall : all.Pairwise (·.sequence < ·.sequence))
    {events pending : List RuntimeEvent} {event : RuntimeEvent}
    (hphase : r.phase = .sending events (event :: pending)) :
    Reads start all (r.afterSending events pending event) := by
  obtain ⟨⟨rest, hparts, hsent, hrest⟩, hle, -⟩ := h
  rw [hphase] at hparts hrest
  have hparts' : all = r.sentEvents ++ event :: (pending ++ rest) := hparts
  have hlt : r.cursor < event.sequence := hrest event (List.mem_append_left _ List.mem_cons_self)
  rw [hparts', List.pairwise_append, List.pairwise_cons] at hall
  refine ⟨⟨rest, ?_, fun e he => ?_, hall.2.1.1⟩, ?_, .inr ⟨event, ?_, rfl⟩⟩
  · rw [r.sentEvents_afterSending, hparts', List.append_assoc]
    rfl
  · rw [r.sentEvents_afterSending, List.mem_append, List.mem_singleton] at he
    rcases he with he | rfl
    · exact (hsent e he).trans hlt.le
    · exact le_rfl
  · show start ≤ event.sequence
    omega
  · rw [hparts']
    exact List.mem_append_right _ List.mem_cons_self

/-- **Every statement of the reader** keeps what it has read in order. -/
theorem advance {store : Store} {r' : Reader} (h : Reads start all r)
    (hall : all.Pairwise (·.sequence < ·.sequence))
    (hselect : store.eventsAfter r.cursor = all.filter (r.cursor < ·.sequence))
    (hstep : advanceReader store r = some r') : Reads start all r' := by
  rcases Reader.advanceReader_cases hstep with
    ⟨hselecting, phase, rfl, hpending, -⟩ | ⟨events, event, pending, hphase, rfl⟩ | ⟨-, hquiet⟩
  · refine (h.fetch ?_ (hpending.trans hselect)).1
    rcases hselecting with hphase | hphase <;> rw [hphase] <;> rfl
  · exact h.next hall hphase
  · exact h.quiet hquiet

end Reads

/-! ### Runs -/

/-- What every action keeps: while the job is there, the reader has read a beginning of its
events. -/
structure Follows (cursor : ℕ) (s : Watched) : Prop where
  inv : Inv s.jobs
  numbered : Numbered s.jobs
  reads : s.jobs.store.row = none ∨
    Reads cursor (s.jobs.store.events.filter (cursor < ·.sequence)) s.reader

theorem follows_initial (request : JobRequest) (now : String) (cursor : ℕ) :
    Follows cursor (Watched.initial request now cursor) where
  inv := inv_initial request now
  numbered := numbered_initial request now
  reads := by
    refine .inr ⟨⟨[], rfl, ?_, ?_⟩, le_rfl, .inl rfl⟩
    · intro e he
      cases he
    · intro e he
      cases he

namespace Follows

variable {cursor : ℕ} {s : Watched}

theorem increasing (h : Follows cursor s) :
    (s.jobs.store.events.filter (cursor < ·.sequence)).Pairwise (·.sequence < ·.sequence) :=
  h.numbered.increasing.filter _

/-- The `SELECT` from the cursor of the reader, within the events after the start. -/
theorem select (h : Follows cursor s) (hle : cursor ≤ s.reader.cursor) :
    s.jobs.store.eventsAfter s.reader.cursor
      = (s.jobs.store.events.filter (cursor < ·.sequence)).filter
          (s.reader.cursor < ·.sequence) := by
  rw [h.numbered.eventsAfter, List.filter_filter]
  refine List.filter_congr fun e _ => ?_
  have himp : s.reader.cursor < e.sequence → cursor < e.sequence := fun hlt => by omega
  by_cases hlt : s.reader.cursor < e.sequence
  · simp [hlt, himp hlt]
  · simp [hlt]

end Follows

section Runs

variable {py : Python} {experimentId : String} {cursor : ℕ}

/-- **Every action keeps** what the reader has read a beginning of the events. -/
theorem follows_step {s t : Watched} {a : WatchAction} (h : Follows cursor s)
    (hstep : watch py experimentId s a = some t) : Follows cursor t := by
  cases a with
  | reader =>
      obtain ⟨r, hr, rfl⟩ := Option.map_eq_some_iff.1 hstep
      refine ⟨h.inv, h.numbered, ?_⟩
      rcases h.reads with hnone | hreads
      · exact .inl hnone
      · exact .inr (hreads.advance h.increasing (h.select hreads.start_le) hr)
  | jobs a =>
      obtain ⟨jobs, hjobs, rfl⟩ := Option.map_eq_some_iff.1 hstep
      have hnumbered := numbered_step py experimentId h.numbered hjobs
      refine ⟨inv_step py experimentId h.inv hjobs, hnumbered, ?_⟩
      obtain ⟨hgone, hevents⟩ := events_step py experimentId hjobs
      rcases h.reads with hnone | hreads
      · exact .inl (hgone hnone)
      rcases hevents with hnone | hsame | ⟨-, e, hadd⟩
      · exact .inl hnone
      · right
        show Reads cursor (jobs.store.events.filter _) s.reader
        rw [hsame]
        exact hreads
      · right
        show Reads cursor (jobs.store.events.filter _) s.reader
        rw [hadd, List.filter_append]
        by_cases hlt : cursor < e.sequence
        · rw [List.filter_cons_of_pos (by simpa using hlt), List.filter_nil]
          refine hreads.append hlt fun e' he' => ?_
          have hpair := hnumbered.increasing
          rw [hadd, List.pairwise_append] at hpair
          exact hpair.2.2 e' (List.mem_of_mem_filter he') e (List.mem_singleton_self e)
        · rw [List.filter_cons_of_neg (by simpa using hlt), List.filter_nil, List.append_nil]
          exact hreads

theorem follows_exec {acts : List WatchAction} {s t : Watched} (h : Follows cursor s)
    (hrun : exec (watch py experimentId) acts s = some t) : Follows cursor t :=
  invariant (fun _ _ _ hs hstep => follows_step hs hstep) h hrun

/-- A deleted job stays deleted, and otherwise the events only grow. -/
theorem events_exec {acts : List WatchAction} {s t : Watched}
    (hrun : exec (watch py experimentId) acts s = some t) (hrow : t.jobs.store.row ≠ none) :
    s.jobs.store.row ≠ none ∧ s.jobs.store.events <+: t.jobs.store.events := by
  induction acts generalizing s with
  | nil =>
      cases hrun
      exact ⟨hrow, List.prefix_rfl⟩
  | cons a acts ih =>
      obtain ⟨u, hu, hrest⟩ := exec_cons.1 hrun
      obtain ⟨hrow', hprefix⟩ := ih hrest
      cases a with
      | reader =>
          obtain ⟨r, _, rfl⟩ := Option.map_eq_some_iff.1 hu
          exact ⟨hrow', hprefix⟩
      | jobs a =>
          obtain ⟨jobs, hjobs, rfl⟩ := Option.map_eq_some_iff.1 hu
          obtain ⟨hgone, hevents⟩ := events_step py experimentId hjobs
          refine ⟨fun hnone => hrow' (hgone hnone), ?_⟩
          rcases hevents with hnone | hsame | ⟨-, e, hadd⟩
          · exact absurd hnone hrow'
          · exact hsame ▸ hprefix
          · have hgrow : s.jobs.store.events <+: jobs.store.events := by
              rw [hadd]
              exact List.prefix_append _ _
            exact hgrow.trans hprefix

variable (cursor) in
/-- The events after the start, at two ends of a run. -/
theorem filter_prefix {l m : List RuntimeEvent} (h : l <+: m) :
    l.filter (cursor < ·.sequence) <+: m.filter (cursor < ·.sequence) := by
  obtain ⟨more, rfl⟩ := h
  rw [List.filter_append]
  exact List.prefix_append _ _

/-- Without a snapshot the reader fetches nothing. -/
theorem fetched_step {s t : Watched} {a : WatchAction} (hnot : ¬Snapshot s a)
    (hstep : watch py experimentId s a = some t) :
    t.reader.fetched = s.reader.fetched ∧
      (t.reader.phase.hasFetched = true → s.reader.phase.hasFetched = true) := by
  cases a with
  | jobs a =>
      obtain ⟨jobs, _, rfl⟩ := Option.map_eq_some_iff.1 hstep
      exact ⟨rfl, id⟩
  | reader =>
      obtain ⟨r, hr, rfl⟩ := Option.map_eq_some_iff.1 hstep
      rcases Reader.advanceReader_cases hr with
        ⟨hselecting, -⟩ | ⟨events, event, pending, hphase, rfl⟩ | ⟨-, hquiet⟩
      · exact absurd hselecting hnot
      · refine ⟨?_, fun _ => by rw [hphase]; rfl⟩
        rw [Reader.fetched, s.reader.sentEvents_afterSending, Reader.fetched, hphase,
          List.append_assoc]
        rfl
      · refine ⟨?_, hquiet.hasFetched⟩
        rw [Reader.fetched, Reader.fetched, hquiet.sent, hquiet.pending, hquiet.pending']

theorem fetched_exec {acts : List WatchAction} {s t : Watched}
    (hnot : Along (watch py experimentId) (fun s a => ¬Snapshot s a) acts s)
    (hrun : exec (watch py experimentId) acts s = some t) : t.reader.fetched = s.reader.fetched :=
  invariant_along (I := fun u => u.reader.fetched = s.reader.fetched)
    (fun _ _ _ hu hok hstep => (fetched_step hok hstep).1.trans hu) rfl hnot hrun

/-- A snapshot fetches all the events after the start. -/
theorem snapshot_step {s t : Watched} {a : WatchAction} (h : Follows cursor s)
    (hsnapshot : Snapshot s a) (hstep : watch py experimentId s a = some t) :
    t.jobs.store.row = none ∨
      t.reader.fetched = t.jobs.store.events.filter (cursor < ·.sequence) := by
  cases a with
  | jobs a => exact hsnapshot.elim
  | reader =>
      obtain ⟨r, hr, rfl⟩ := Option.map_eq_some_iff.1 hstep
      rcases h.reads with hnone | hreads
      · exact .inl hnone
      · have hpending : s.reader.phase.pending = [] := by
          rcases hsnapshot with hphase | hphase <;> rw [hphase] <;> rfl
        rcases Reader.advanceReader_cases hr with
          ⟨-, phase, rfl, hphase, -⟩ | ⟨events, event, pending, hphase, -⟩ | ⟨hnot, -⟩
        · rw [h.select hreads.start_le] at hphase
          exact .inr (hreads.fetch hpending hphase).2
        · rcases hsnapshot with hc | hc <;> rw [hphase] at hc <;> cases hc
        · exact absurd hsnapshot hnot

/-- Where the reader has fetched, there is a last snapshot. -/
theorem last_snapshot {acts : List WatchAction} {s₀ u : Watched} (h : Follows cursor s₀)
    (hopening : s₀.reader.phase.hasFetched = false)
    (hrun : exec (watch py experimentId) acts s₀ = some u)
    (hfetched : u.reader.phase.hasFetched = true) :
    ∃ before mid s, acts = before ++ mid ∧ exec (watch py experimentId) before s₀ = some s ∧
      exec (watch py experimentId) mid s = some u ∧
      Along (watch py experimentId) (fun s a => ¬Snapshot s a) mid s ∧
      (s.jobs.store.row = none ∨
        s.reader.fetched = s.jobs.store.events.filter (cursor < ·.sequence)) := by
  induction acts using List.reverseRecOn generalizing u with
  | nil =>
      cases hrun
      rw [hopening] at hfetched
      cases hfetched
  | append_singleton acts a ih =>
      obtain ⟨v, hv, hlast⟩ := exec_append.1 hrun
      have hstep : watch py experimentId v a = some u := exec_singleton.1 hlast
      by_cases hsnapshot : Snapshot v a
      · exact ⟨acts ++ [a], [], u, (List.append_nil _).symm, hrun, rfl, trivial,
          snapshot_step (follows_exec h hv) hsnapshot hstep⟩
      · obtain ⟨before, mid, s, rfl, hs, hmid, hnot, hall⟩ :=
          ih hv ((fetched_step hsnapshot hstep).2 hfetched)
        exact ⟨before, mid ++ [a], s, List.append_assoc .., hs, exec_append.2 ⟨v, hmid, hlast⟩,
          along_concat hnot hmid hsnapshot, hall⟩

/-- The statement that ends the stream sends no event. -/
theorem closing_step {u t : Watched} (hclosing : Closing u)
    (hstep : watch py experimentId u .reader = some t) :
    t.reader.sentEvents = u.reader.sentEvents ∧ t.jobs = u.jobs := by
  obtain ⟨⟨events, hphase⟩, -⟩ := hclosing
  obtain ⟨r, hr, rfl⟩ := Option.map_eq_some_iff.1 hstep
  rcases Reader.advanceReader_cases hr with
    ⟨hc | hc, -⟩ | ⟨_, _, _, hc, -⟩ | ⟨-, hquiet⟩
  · rw [hphase] at hc
    cases hc
  · rw [hphase] at hc
    cases hc
  · rw [hphase] at hc
    cases hc
  · exact ⟨hquiet.sent, rfl⟩

/-- What was sent when the stream is about to end, while the job is there. -/
theorem closing_fetched {u : Watched} (h : Follows cursor u) (hclosing : Closing u) :
    u.reader.fetched = u.reader.sentEvents ∧
      Reads cursor (u.jobs.store.events.filter (cursor < ·.sequence)) u.reader := by
  obtain ⟨⟨events, hphase⟩, job, hjob, -⟩ := hclosing
  constructor
  · rw [Reader.fetched, hphase]
    exact List.append_nil _
  · rcases h.reads with hnone | hreads
    · rw [hnone] at hjob
      cases hjob
    · exact hreads

variable (py experimentId) in
/-- The stream can end. -/
theorem closing_enabled {u : Watched} (hclosing : Closing u) :
    ∃ t, watch py experimentId u .reader = some t := by
  obtain ⟨⟨events, hphase⟩, job, hjob, hterminal⟩ := hclosing
  refine ⟨{ u with reader := (u.reader.send (.job job)).setPhase .ended }, ?_⟩
  rw [watch, advanceReader, hphase, hjob]
  simp only [hterminal, if_true, Option.map_some]

/-- A prompt run delivers the events: what the last snapshot fetched was sent, and nothing
was stored since. -/
theorem delivers_of_prompt {acts : List WatchAction} {s₀ : Watched} (h : Follows cursor s₀)
    (hopening : s₀.reader.phase.hasFetched = false)
    (hprompt : Prompt py experimentId cursor acts s₀) : Complete py experimentId cursor acts s₀ := by
  intro before after u t hacts hrun hclosing hstep
  obtain ⟨hfetched, hreads⟩ := closing_fetched (follows_exec h hrun) hclosing
  obtain ⟨hsent, hjobs⟩ := closing_step hclosing hstep
  have hphase : u.reader.phase.hasFetched = true := by
    obtain ⟨⟨events, hphase⟩, -⟩ := hclosing
    rw [hphase]
    rfl
  obtain ⟨before, mid, s, rfl, hs, hmid, hnot, hall⟩ := last_snapshot h hopening hrun hphase
  have hrow : u.jobs.store.row ≠ none := by
    obtain ⟨-, job, hjob, -⟩ := hclosing
    rw [hjob]
    exact Option.some_ne_none job
  have hsame : u.jobs.store.eventsAfter cursor = s.jobs.store.eventsAfter cursor :=
    hprompt before mid after s u (by rw [hacts, List.append_assoc]) hs hmid hnot hclosing
  rw [(follows_exec h hrun).numbered.eventsAfter, (follows_exec h hs).numbered.eventsAfter] at hsame
  have hdelivered : t.reader.sentEvents = u.jobs.store.events.filter (cursor < ·.sequence) := by
    rw [hsent, ← hfetched, fetched_exec hnot hmid, hsame]
    exact hall.resolve_left (events_exec hmid hrow).1
  refine ⟨fun e => ?_, ?_⟩
  · rw [hdelivered, hjobs, List.mem_filter, decide_eq_true_eq]
  · rw [hdelivered]
    exact (follows_exec h hrun).increasing

/-- A run that delivers the events is prompt: what is stored since a snapshot is not sent. -/
theorem prompt_of_delivers {acts : List WatchAction} {s₀ : Watched} (h : Follows cursor s₀)
    (hcomplete : Complete py experimentId cursor acts s₀) : Prompt py experimentId cursor acts s₀ := by
  intro before mid after s u hacts hs hmid hnot hclosing
  have hrun : exec (watch py experimentId) (before ++ mid) s₀ = some u :=
    exec_append.2 ⟨s, hs, hmid⟩
  have hu := follows_exec h hrun
  obtain ⟨hfetched, hreads⟩ := closing_fetched hu hclosing
  obtain ⟨t, hstep⟩ := closing_enabled py experimentId hclosing
  obtain ⟨hsent, hjobs⟩ := closing_step hclosing hstep
  have hdelivers := hcomplete (before ++ mid) after u t (by rw [hacts, List.append_assoc]) hrun
    hclosing hstep
  have hpending : u.reader.phase.pending = [] := by
    obtain ⟨⟨events, hphase⟩, -⟩ := hclosing
    rw [hphase]
    rfl
  -- nothing lies after the cursor of the reader
  have hall : u.jobs.store.events.filter (cursor < ·.sequence) = u.reader.sentEvents := by
    obtain ⟨hparts, hle⟩ := hreads.unread hpending
    have hnone : (u.jobs.store.events.filter (cursor < ·.sequence)).filter
        (u.reader.cursor < ·.sequence) = [] := by
      refine List.filter_eq_nil_iff.2 fun e he => ?_
      rw [decide_eq_true_eq, not_lt]
      rw [List.mem_filter, decide_eq_true_eq] at he
      refine hle e ?_
      rw [← hsent]
      exact (hdelivers.exact e).2 (by rw [hjobs]; exact he)
    rw [hnone, List.append_nil] at hparts
    exact hparts
  have hrow : u.jobs.store.row ≠ none := by
    obtain ⟨-, job, hjob, -⟩ := hclosing
    rw [hjob]
    exact Option.some_ne_none job
  obtain ⟨hrow', hprefix⟩ := events_exec hmid hrow
  have hgrow := filter_prefix cursor hprefix
  obtain ⟨rest, hparts, -, -⟩ :=
    ((follows_exec h hs).reads.resolve_left hrow').parts
  have hlong : s.jobs.store.events.filter (cursor < ·.sequence)
      = u.reader.sentEvents ++ rest := by
    rw [← hfetched, fetched_exec hnot hmid, Reader.fetched, List.append_assoc]
    exact hparts
  rw [hu.numbered.eventsAfter, (follows_exec h hs).numbered.eventsAfter]
  refine (hgrow.eq_of_length_le ?_).symm
  rw [hall, hlong, List.length_append]
  omega

end Runs

/-- **The stream is complete** exactly in the runs where, between the last snapshot of the
reader and its reading of a terminal status, the thread stores no event after the cursor: for
every order of the statements of the reader, the thread and any number of callers. -/
theorem stream_complete_iff (py : Python) (experimentId : String) (request : JobRequest)
    (now : String) (cursor : ℕ) (acts : List WatchAction) :
    Complete py experimentId cursor acts (.initial request now cursor) ↔
      Prompt py experimentId cursor acts (.initial request now cursor) := by
  have h := follows_initial request now cursor
  constructor
  · intro hcomplete
    exact prompt_of_delivers h hcomplete
  · intro hprompt
    exact delivers_of_prompt h rfl hprompt

/-! ### An event that is not delivered -/

/-- An event of the experiment. -/
def lastEvent : RuntimeEvent := ⟨"e-r01", 1, .cleanup, "completed", "done", "t", []⟩

/-- The reader takes two snapshots without an event; the thread stores its event and its
result; the reader reads the status. -/
def overtaken : List WatchAction :=
  List.replicate 5 (.jobs (.runner "t")) ++ List.replicate 8 .reader ++
    [.jobs (.emit lastEvent), .jobs (.runner "t"),
      .jobs (.returned [("status", .str "completed")] [])] ++
    List.replicate 4 (.jobs (.runner "t"))

/-- The reader is about to read the status. -/
def ReaderPhase.isClosing : ReaderPhase → Bool
  | closing _ => true
  | _ => false

theorem ReaderPhase.of_isClosing {phase : ReaderPhase} (h : phase.isClosing = true) :
    ∃ events, phase = .closing events := by
  cases phase with
  | closing events => exact ⟨events, rfl⟩
  | _ => cases h

/-- **The race**: the stream has ended with the job, and has not sent its only event. -/
theorem overtaken_incomplete :
    ¬Complete .ascii "e" 0 (overtaken ++ [.reader]) (.initial oneAttempt "t" 0) := by
  have hview : ((exec (watch .ascii "e") overtaken (.initial oneAttempt "t" 0)).map fun s =>
      (s.reader.phase.isClosing, s.jobs.store.row.map (·.status),
        s.jobs.store.events.map (·.sequence), s.reader.sentEvents.map (·.sequence)))
      = some (true, some .completed, [1], []) := by
    decide +kernel
  intro hcomplete
  obtain ⟨s, hs, hs'⟩ := Option.map_eq_some_iff.1 hview
  simp only [Prod.mk.injEq] at hs'
  obtain ⟨hphase, hstatus, hevents, hsent⟩ := hs'
  obtain ⟨job, hjob, hcompleted⟩ := Option.map_eq_some_iff.1 hstatus
  have hclosing : Closing s :=
    ⟨ReaderPhase.of_isClosing hphase, job, hjob, by rw [hcompleted]; rfl⟩
  obtain ⟨t, ht⟩ := closing_enabled .ascii "e" hclosing
  obtain ⟨hsame, hjobs⟩ := closing_step hclosing ht
  have hdelivers := hcomplete overtaken [] s t rfl hs hclosing ht
  have hone : 1 ∈ s.jobs.store.events.map (·.sequence) := by
    rw [hevents]
    exact List.mem_singleton_self 1
  obtain ⟨e, he, hsequence⟩ := List.mem_map.1 hone
  have hmem : e ∈ t.reader.sentEvents :=
    (hdelivers.exact e).2 ⟨by rw [hjobs]; exact he, by omega⟩
  rw [hsame, List.map_eq_nil_iff.1 hsent] at hmem
  cases hmem

end Jobs
end AiopsK8s
