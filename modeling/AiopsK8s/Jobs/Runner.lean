/-
# The job runner and its callers

`ExperimentJobRunner` of `experiment_job_runner.py`: the thread that executes `_run_job` for
one job, and any number of callers of `cancel` and `delete`.  Each thread takes one
statement of the store, one read or write of the cancellation event or one access to the
runner's maps at a time; the others may run in between.

What the experiment does is not decided here: it emits any events, and each attempt returns
any mapping or raises.
-/

import AiopsK8s.Jobs.Store
import AiopsK8s.Lib.Steps
import Mathlib.Logic.Function.Basic

namespace AiopsK8s
namespace Jobs

open Experiment (Fields RuntimeEvent)

/-- `_job_status`. -/
def jobStatus (runtimeStatus : String) : ExperimentJobStatus :=
  let normalized := String.ofList ((Text.stripChars runtimeStatus.toList).map Text.lowerChar)
  if normalized ∈ ["completed", "recovered", "recovered_after_replan", "no_action_required",
      "dry_run_validated"] then .completed
  else if normalized ∈ ["cancelled", "cancelling"] then .cancelled
  else if normalized ∈ ["blocked", "safe_failure", "safe_stopped", "consensus_rejected",
      "configuration_rejected"] then .blocked
  else if normalized = "interrupted" then .interrupted
  else .failed

/-- The variables of `_run_job` that its loop writes. -/
structure Progress where
  attempts : List Fields
  terminalStatus : ExperimentJobStatus
  error : String

/-- The status and the result that `set_result` stored. -/
structure Outcome where
  status : ExperimentJobStatus
  result : Option Fields

/-- Where the thread of `_run_job` is. -/
inductive RunnerPhase where
  | fetching
  | requiring (job : ExperimentJob)
  | starting (job existing : ExperimentJob)
  | confirming (job : ExperimentJob)
  | checking (job : ExperimentJob) (attempt : ℕ) (p : Progress)
  | attempting (job : ExperimentJob) (attempt : ℕ) (p : Progress)
  | appending (job : ExperimentJob) (attempt : ℕ) (p : Progress) (event : RuntimeEvent)
  | closing (job : ExperimentJob) (p : Progress)
  | storing (job : ExperimentJob) (p : Progress)
  | saving (job : ExperimentJob) (p : Progress)
  | reporting (stored : Outcome)
  | leaving (stored : Outcome)
  | finished (stored : Option Outcome)

/-- Where a caller of `cancel` or `delete` is. -/
inductive ClientPhase where
  | idle
  | cancelReading
  | cancelWriting
  | cancelConfirming
  | cancelSignalling
  | deleteReading
  | deleteWriting
  deriving DecidableEq, Repr

/-- The store, the threads and what they share: the cancellation event and whether the maps
of the runner have the job. -/
structure State where
  store : Store
  runner : RunnerPhase
  sequence : ℕ
  cancellation : Bool
  registered : Bool
  clients : ℕ → ClientPhase

/-- What may happen next.  `runner` and `client` are the next statement of a thread; the
three actions of the experiment are an event, a result and an exception, with the text of one
that `except Exception` catches (`asyncio.CancelledError` and `SystemExit` are none); `cancel`
and `delete` begin a call. -/
inductive Action where
  | runner (now : String)
  | emit (event : RuntimeEvent)
  | returned (serialized detection : Fields)
  | raised (error : Option String)
  | cancel (i : ℕ)
  | delete (i : ℕ)
  | client (i : ℕ) (now : String)

/-- The rest of the loop body after an attempt returned: the progress, and whether the loop
breaks. -/
def recordAttempt (py : Python) (p : Progress) (serialized detection : Fields) : Progress × Bool :=
  let serialized := if detection.isEmpty then serialized
    else Json.set serialized "detection" (.obj detection)
  let p := { p with attempts := p.attempts ++ [serialized] }
  match jobStatus (py.str (Json.getD serialized "status" (.str "failed"))) with
  | .cancelled => ({ p with terminalStatus := .cancelled }, true)
  | .blocked => ({ p with terminalStatus := .blocked }, false)
  | .failed => ({ p with terminalStatus := .failed }, false)
  | _ => (p, false)

/-- The number of attempts with a status in `statuses`. -/
def countAttempts (py : Python) (statuses : List ExperimentJobStatus) (attempts : List Fields) :
    ℕ :=
  (attempts.filter fun attempt =>
    statuses.contains (jobStatus (py.str (Json.get attempt "status")))).length

/-- The `aggregate` of `_run_job`. -/
def aggregate (py : Python) (experimentId : String) (job : ExperimentJob) (p : Progress) : Fields :=
  [("experiment_id", .str experimentId), ("status", .str p.terminalStatus.value),
    ("incident_source", .str job.request.incidentSource),
    ("benchmark_id", .str job.request.benchmarkId),
    ("attempts", .ofList Json.obj p.attempts),
    ("successful_attempts", .int (countAttempts py [.completed] p.attempts)),
    ("failed_attempts", .int (countAttempts py [.failed, .blocked] p.attempts))]

/-- The status after the check of the event in the `finally` block. -/
def closeProgress (cancelled : Bool) (p : Progress) : Progress :=
  if cancelled ∧ p.terminalStatus = .completed then { p with terminalStatus := .cancelled } else p

/-- The progress after the `except` clause, which an exception that it does not catch passes by on
the way to the `finally` block. -/
def failProgress (cancelled : Bool) (p : Progress) : Option String → Progress
  | some error => { p with terminalStatus := if cancelled then .cancelled else .failed, error }
  | none => p

/-- The event that `_PersistentRuntimeEventSink.emit` stores. -/
def persistedEvent (experimentId : String) (sequence attempt : ℕ) (event : RuntimeEvent) :
    RuntimeEvent :=
  { event with
    experimentId, sequence
    payload := Json.update event.payload
      [("attempt", .int attempt), ("runtime_experiment_id", .str event.experimentId)] }

namespace State

variable (s : State)

def setRunner (phase : RunnerPhase) : State := { s with runner := phase }

def setClient (i : ℕ) (phase : ClientPhase) : State :=
  { s with clients := Function.update s.clients i phase }

def setStore (store : Store) : State := { s with store }

end State

section System

variable (py : Python) (experimentId : String)

/-- The next statement of the thread of `_run_job`.  A `KeyError` of `_required` outside the
`try` block ends the thread. -/
def advanceRunner (s : State) (now : String) : Option State :=
  match s.runner with
  | .fetching =>
    match s.store.row with
    | none => some (s.setRunner (.finished none))
    | some job => some (s.setRunner (.requiring job))
  | .requiring job =>
    match s.store.row with
    | none => some (s.setRunner (.finished none))
    | some existing => some (s.setRunner (.starting job existing))
  | .starting job existing =>
    some ((s.setStore (s.store.update (existing.transition .running now none none))).setRunner
      (.confirming job))
  | .confirming job =>
    match s.store.row with
    | none => some (s.setRunner (.finished none))
    | some _ => some (s.setRunner (.checking job 1 ⟨[], .completed, ""⟩))
  | .checking job attempt p =>
    if job.request.repetitions < attempt then some (s.setRunner (.closing job p))
    else if s.cancellation then
      some (s.setRunner (.closing job { p with terminalStatus := .cancelled }))
    else some (s.setRunner (.attempting job attempt p))
  | .attempting _ _ _ => none
  | .appending job attempt p event =>
    match s.store.appendEvent event now with
    | none => some (s.setRunner (.attempting job attempt p))
    | some store => some ((s.setStore store).setRunner (.attempting job attempt p))
  | .closing job p => some (s.setRunner (.storing job (closeProgress s.cancellation p)))
  | .storing job p =>
    -- The `ValueError` of `set_result` and the `KeyError` of its `_required`.
    if p.terminalStatus.terminal = false then some (s.setRunner (.finished none))
    else match s.store.row with
      | none => some (s.setRunner (.finished none))
      | some _ => some (s.setRunner (.saving job p))
  | .saving job p =>
    let result := aggregate py experimentId job p
    some ((s.setStore (s.store.update (ExperimentJob.setResult p.terminalStatus result p.error now)))
      |>.setRunner (.reporting ⟨p.terminalStatus, some result⟩))
  | .reporting stored =>
    match s.store.row with
    | none => some (s.setRunner (.finished (some stored)))
    | some _ => some (s.setRunner (.leaving stored))
  | .leaving stored => some ({ s with registered := false }.setRunner (.finished (some stored)))
  | .finished _ => none

/-- What the experiment does in an attempt. -/
def emitEvent (s : State) (event : RuntimeEvent) : Option State :=
  match s.runner with
  | .attempting job attempt p =>
    let s := { s with sequence := s.sequence + 1 }
    match s.store.row with
    | none => some s
    | some _ => some (s.setRunner
        (.appending job attempt p (persistedEvent experimentId s.sequence attempt event)))
  | _ => none

def returnAttempt (s : State) (serialized detection : Fields) : Option State :=
  match s.runner with
  | .attempting job attempt p =>
    let (p, breaks) := recordAttempt py p serialized detection
    some (s.setRunner (if breaks then .closing job p else .checking job (attempt + 1) p))
  | _ => none

def raiseAttempt (s : State) (error : Option String) : Option State :=
  match s.runner with
  | .attempting job _ p => some (s.setRunner (.closing job (failProgress s.cancellation p error)))
  | _ => none

/-- The next statement of a caller. -/
def advanceClient (s : State) (i : ℕ) (now : String) : Option State :=
  match s.clients i with
  | .idle => none
  | .cancelReading =>
    match s.store.row with
    | none => some (s.setClient i .idle)
    | some job =>
      some (s.setClient i (if job.status.terminal then .cancelSignalling else .cancelWriting))
  | .cancelWriting =>
    some ((s.setStore (s.store.update (ExperimentJob.requestCancel now))).setClient i
      .cancelConfirming)
  | .cancelConfirming =>
    match s.store.row with
    | none => some (s.setClient i .idle)
    | some _ => some (s.setClient i .cancelSignalling)
  | .cancelSignalling =>
    some ({ s with cancellation := s.cancellation || s.registered }.setClient i .idle)
  | .deleteReading =>
    match s.store.row with
    | none => some (s.setClient i .idle)
    | some job => some (s.setClient i (if job.status.terminal then .deleteWriting else .idle))
  | .deleteWriting => some ((s.setStore s.store.delete).setClient i .idle)

/-- One action of the system. -/
def step (s : State) : Action → Option State
  | .runner now => advanceRunner py experimentId s now
  | .emit event => emitEvent experimentId s event
  | .returned serialized detection => returnAttempt py s serialized detection
  | .raised error => raiseAttempt s error
  | .cancel i => if s.clients i = .idle then some (s.setClient i .cancelReading) else none
  | .delete i => if s.clients i = .idle then some (s.setClient i .deleteReading) else none
  | .client i now => advanceClient s i now

end System

/-- A submitted job whose thread has just started. -/
def State.initial (request : JobRequest) (now : String) : State :=
  { store := ⟨some (.created request now), []⟩
    runner := .fetching
    sequence := 0
    cancellation := false
    registered := true
    clients := fun _ => .idle }

end Jobs
end AiopsK8s
