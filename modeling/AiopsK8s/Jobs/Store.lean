/-
# The job store

`SQLiteExperimentJobStore` of `experiment_jobs.py`, for one job: its row of the table and
its events.  Every operation of the store is a sequence of statements, each under the lock
on its own: it reads the row first and writes in another locked section, so between the
two any other thread may change the row.  The functions here are the single statements.
-/

import AiopsK8s.Experiment.Models

namespace AiopsK8s
namespace Jobs

open Experiment (Fields RuntimeEvent)

/-- `ExperimentJobStatus`. -/
inductive ExperimentJobStatus where
  | queued
  | running
  | cancelling
  | completed
  | failed
  | blocked
  | cancelled
  | interrupted
  deriving DecidableEq, Repr

namespace ExperimentJobStatus

/-- `ExperimentJobStatus.value`. -/
def value : ExperimentJobStatus → String
  | queued => "queued"
  | running => "running"
  | cancelling => "cancelling"
  | completed => "completed"
  | failed => "failed"
  | blocked => "blocked"
  | cancelled => "cancelled"
  | interrupted => "interrupted"

/-- `ExperimentJobStatus.terminal`. -/
def terminal : ExperimentJobStatus → Bool
  | completed => true
  | failed => true
  | blocked => true
  | cancelled => true
  | interrupted => true
  | _ => false

end ExperimentJobStatus

/-- The request of a job, as far as the runner reads it. -/
structure JobRequest where
  repetitions : ℕ
  incidentSource : String
  benchmarkId : String
  deriving DecidableEq, Repr

/-- `ExperimentJob`: a row of `experiment_jobs`. -/
structure ExperimentJob where
  request : JobRequest
  status : ExperimentJobStatus
  currentStage : String
  updatedAt : String
  startedAt : Option String
  finishedAt : Option String
  cancelRequested : Bool
  result : Option Fields
  error : String

/-- The row that `create` inserts. -/
def ExperimentJob.created (request : JobRequest) (now : String) : ExperimentJob :=
  { request, status := .queued, currentStage := Experiment.RuntimeStage.queued.value
    updatedAt := now, startedAt := none, finishedAt := none, cancelRequested := false
    result := none, error := "" }

namespace ExperimentJob

/-- The `UPDATE` of `transition`, which writes what `existing` said when it was read. -/
def transition (existing : ExperimentJob) (status : ExperimentJobStatus) (now : String)
    (currentStage error : Option String) (row : ExperimentJob) : ExperimentJob :=
  { row with
    status
    currentStage := match currentStage with
      | some stage => if stage = "" then existing.currentStage else stage
      | none => existing.currentStage
    updatedAt := now
    startedAt := if status = .running ∧ existing.startedAt = none then some now
      else existing.startedAt
    finishedAt := if status.terminal then some now else existing.finishedAt
    error := error.getD existing.error }

/-- The `UPDATE` of `append_event`. -/
def reachStage (stage now : String) (row : ExperimentJob) : ExperimentJob :=
  { row with currentStage := stage, updatedAt := now }

/-- The `UPDATE` of `set_result`. -/
def setResult (status : ExperimentJobStatus) (result : Fields) (error now : String)
    (row : ExperimentJob) : ExperimentJob :=
  { row with
    status, currentStage := Experiment.RuntimeStage.completed.value, result := some result, error
    updatedAt := now, finishedAt := some now }

/-- The `UPDATE` of `request_cancel`. -/
def requestCancel (now : String) (row : ExperimentJob) : ExperimentJob :=
  { row with status := .cancelling, cancelRequested := true, updatedAt := now }

end ExperimentJob

/-- The tables, as far as they are about one job. -/
structure Store where
  row : Option ExperimentJob
  events : List RuntimeEvent

namespace Store

/-- An `UPDATE … WHERE experiment_id = ?`. -/
def update (f : ExperimentJob → ExperimentJob) (s : Store) : Store := { s with row := s.row.map f }

/-- `DELETE`, with `ON DELETE CASCADE` of the events. -/
def delete (_ : Store) : Store := ⟨none, []⟩

/-- The statements of `append_event`: an insertion without a row violates the foreign key. -/
def appendEvent (event : RuntimeEvent) (now : String) (s : Store) : Option Store :=
  match s.row with
  | none => none
  | some row => some ⟨some (row.reachStage event.stage.value now), s.events ++ [event]⟩

end Store

end Jobs
end AiopsK8s
