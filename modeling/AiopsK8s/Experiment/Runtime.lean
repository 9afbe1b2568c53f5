/-
# The experiment runtime

`ExperimentRuntime.run` of `experiment_runtime.py`.  Everything the runtime calls but
does not define (the event sink, the coordinator, the Chaos Mesh adapter, the lock
file, the clock, the stores) is a computation on a private state `σ` that returns
anything or raises any `Exception`; `App` is the type of the applications that the
adapter's `inject` returns.

The variables of `run` that an exception leaves as they are (`report`, `application`,
`cleanup`, `primary_status`, `lock_acquired`) are part of the state, and so is the record
of the calls that the obligations of a run are about.
-/

import AiopsK8s.Experiment.Models
import AiopsK8s.Lib.Effect

namespace AiopsK8s
namespace Experiment

open Effect
open Supervision (ExecutionMode ExecutionBackend)

variable {σ : Type} {App : Type}

/-- `RuntimeControl`. -/
structure RuntimeControl (σ : Type) where
  cancelled : Option (Eff σ RuntimeException Bool)
  deadline : Option ℚ
  clock : Eff σ RuntimeException ℚ

namespace RuntimeControl

variable (control : RuntimeControl σ)

/-- The first condition of `check`. -/
def checkCancelled : Eff σ RuntimeException Unit :=
  match control.cancelled with
  | none => pure ()
  | some isSet => do
    let cancelled ← isSet
    Eff.raiseIf (cancelled = true) (.cancelled "experiment cancelled")

/-- The second condition of `check`. -/
def checkDeadline : Eff σ RuntimeException Unit :=
  match control.deadline with
  | none => pure ()
  | some deadline => do
    let now ← control.clock
    Eff.raiseIf (deadline ≤ now) (.timeout "experiment runtime deadline exceeded")

/-- `RuntimeControl.check`. -/
def check : Eff σ RuntimeException Unit := do
  control.checkCancelled
  control.checkDeadline

end RuntimeControl

/-- An artifact store: `append`, `finalize` and, where it has them, its `paths`. -/
structure ArtifactStore (σ : Type) where
  append : String → Json → Eff σ RuntimeException Unit
  finalize : Fields → Eff σ RuntimeException Unit
  paths : Option Json

/-- What the runtime shares with the coordinator: the environment's state and the
`RuntimeResearchEventBridge`. -/
structure Hub (σ : Type) where
  world : σ
  sequence : ℕ
  events : List RuntimeEvent
  artifactStore : Option (ArtifactStore σ)

/-- A computation of the environment, on the shared state. -/
def Hub.onWorld {α : Type} (m : Eff σ RuntimeException α) : Eff (Hub σ) RuntimeException α :=
  Eff.zoom Hub.world (fun w hub => { hub with world := w }) m

/-- What `run` sets on the coordinator before it may run. -/
structure CoordinatorSettings (σ : Type) where
  control : RuntimeControl σ
  admittedStageTimeouts : List (String × ℚ)
  lockOwnedExternally : Bool

/-- A coordinator, by the attributes the runtime reads: `mode`, `str(backend)`, whether it
has `operation_lock_owned_externally` and `event_store`, and the transcripts of its adapters
after the run. -/
structure Coordinator (σ : Type) where
  mode : Option String
  backend : Option String
  hasLockFlag : Bool
  eventStore : Option (Option (ArtifactStore σ))
  run : CoordinatorSettings σ → String → String → String → ℚ → Eff (Hub σ) RuntimeException Fields
  transcripts : Eff σ RuntimeException (List (List String))

/-- The attributes `valid` and, where it has one, `stderr` of what the adapter returns. -/
structure ChaosStatus where
  valid : Bool
  stderr : Option String
  deriving DecidableEq, Repr

/-- `ChaosCleanup`. -/
structure ChaosCleanup where
  valid : Bool
  stdout : String
  stderr : String
  cleanupRequired : Bool
  deriving DecidableEq, Repr

/-- What the `cleanup` of an adapter returns: a mapping, or an object that is none. -/
inductive CleanupResult where
  | mapping (fields : Fields)
  | chaosCleanup (c : ChaosCleanup)

/-- The adapter, as the runtime uses it. -/
structure Chaos (σ App : Type) where
  preflight : Eff σ RuntimeException ChaosStatus
  inject : String → Eff σ RuntimeException (Option App)
  status : App → ChaosStatus
  cleanup : App → Eff σ RuntimeException CleanupResult

/-- `TargetOperationLock`: `enter` is `__enter__`, `readOwner` reads and parses the lock
file. -/
structure TargetOperationLock (σ : Type) where
  token : String
  enter : Eff σ RuntimeException Unit
  readOwner : Eff σ RuntimeException Json
  unlink : Eff σ RuntimeException Unit

/-- `TargetOperationLock.__exit__` of an acquired lock. -/
def TargetOperationLock.exit (lock : TargetOperationLock σ) : Eff σ RuntimeException Unit := do
  let unreadable := fun e : RuntimeException => e.isOSError || e matches .jsonDecode _
  let owner ← Eff.attempt unreadable lock.readOwner
  match owner with
  | .error _ => pure ()
  | .ok (.obj fields) =>
    match Json.get fields "token" with
    | .str token => Eff.when (token = lock.token) lock.unlink
    | _ => pure ()
  | .ok _ => Eff.raise (.exception "owner has no attribute get")

/-- `ExperimentRuntime`, with what `run` uses of the rest of the package: the advice of the
action policy (the texts it read and its recommendation), the evaluation of a report and its
session. -/
structure ExperimentRuntime (σ App : Type) where
  python : Python
  configuration : RuntimeConfiguration
  chaos : Chaos σ App
  coordinatorFactory : ExperimentRuntimeRequest → Eff σ RuntimeException (Coordinator σ)
  validateAdmission : Coordinator σ → ExperimentRuntimeRequest →
    Eff σ RuntimeException (List (String × ℚ))
  eventSink : RuntimeEvent → Eff σ RuntimeException Unit
  experimentId : Eff σ RuntimeException String
  now : Eff σ RuntimeException String
  artifactEventStore : Option (ArtifactStore σ)
  cancelled : Option (Eff σ RuntimeException Bool)
  lock : TargetOperationLock σ
  sessionStore : Option (Json → Eff σ RuntimeException Unit)
  clock : Eff σ RuntimeException ℚ
  advise : ExperimentRuntimeRequest → Eff σ RuntimeException Fields
  evaluate : Fields → Except RuntimeException Json
  normalizeSession : Fields → Except RuntimeException Json

/-- The calls a run makes that its obligations are about.  `cleaned` keeps the state of the
environment and the report in which `chaos.cleanup` was called; `emitRaised` is an event
whose emission failed. -/
inductive Call (σ App : Type) where
  | lockEntered
  | injected (application : App)
  | cleaned (application : App) (world : σ) (report : Fields)
  | lockReleased
  | emitRaised (stage : RuntimeStage)

/-- The state of a run. -/
structure RunState (σ App : Type) where
  hub : Hub σ
  calls : List (Call σ App)
  report : Fields
  application : Option App
  cleanup : Fields
  primaryStatus : String
  lockAcquired : Bool

/-- A computation of a run. -/
abbrev Run (σ App : Type) : Type → Type := Eff (RunState σ App) RuntimeException

namespace Run

/-- A computation on the shared state. -/
def onHub {α : Type} (m : Eff (Hub σ) RuntimeException α) : Run σ App α :=
  Eff.zoom RunState.hub (fun hub s => { s with hub := hub }) m

/-- A computation of the environment. -/
def onWorld {α : Type} (m : Eff σ RuntimeException α) : Run σ App α := onHub (Hub.onWorld m)

/-- Record a call. -/
def log (call : Call σ App) : Run σ App Unit :=
  Eff.modify fun s => { s with calls := s.calls ++ [call] }

/-- `report[key] = value`. -/
def setReport (key : String) (value : Json) : Run σ App Unit :=
  Eff.modify fun s => { s with report := Json.set s.report key value }

end Run

open Run

namespace ExperimentRuntime

variable (rt : ExperimentRuntime σ App) (request : ExperimentRuntimeRequest)

/-- The check of one bound field in `_validate_request`. -/
def checkBinding {α : Type} [DecidableEq α] (scenarioId field : String) (expected : Option α)
    (actual : α) : Except RuntimeException Unit :=
  match expected with
  | none => .error (.blocked ("scenario binding is incomplete: " ++ scenarioId ++ "." ++ field))
  | some expected =>
    rejectIf (actual ≠ expected)
      (.blocked ("request " ++ field ++ " does not match scenario " ++ scenarioId))

/-- `_validate_request`. -/
def validateRequest : Except RuntimeException Unit := do
  rejectIf (request.ns ∉ rt.configuration.allowedNamespaces)
    (.blocked ("namespace is not allowlisted: " ++ request.ns))
  rejectIf (request.deployment ∉ rt.configuration.allowedDeployments)
    (.blocked ("deployment is not allowlisted: " ++ request.deployment))
  rejectIf ((rt.configuration.scenarios.lookup request.scenarioId).isNone = true)
    (.blocked ("scenario is not registered: " ++ request.scenarioId))
  rejectIf (request.metric ∉ rt.configuration.metricQueries)
    (.blocked ("metric is not registered: " ++ request.metric))
  match rt.configuration.scenarios.lookup request.scenarioId with
  | none => pure ()
  | some scenario =>
    rejectIf (request.incidentSource ≠ scenario.incidentSource)
      (.blocked ("request incident source does not match scenario " ++ request.scenarioId))
    rejectIf (request.benchmarkId ≠ scenario.benchmarkId)
      (.blocked ("request benchmark does not match scenario " ++ request.scenarioId))
    checkBinding request.scenarioId "namespace" scenario.ns request.ns
    checkBinding request.scenarioId "deployment" scenario.deployment request.deployment
    checkBinding request.scenarioId "metric" scenario.metric request.metric
    checkBinding request.scenarioId "threshold" scenario.threshold request.threshold

/-- `ExecutionMode(value)`. -/
def executionMode (value : String) : Option ExecutionMode :=
  [ExecutionMode.mock, .dryRun, .real].find? (·.value == value)

/-- `str(backend)`. -/
def backendText : ExecutionBackend → String
  | .python => "ExecutionBackend.PYTHON"
  | .go => "ExecutionBackend.GO"

/-- `_validate_coordinator_mode`. -/
def validateCoordinatorMode (coordinator : Coordinator σ) : Except RuntimeException Unit :=
  match coordinator.mode with
  | none => .error (.blocked "coordinator mode is required")
  | some value =>
    match executionMode value with
    | none => .error (.blocked "coordinator mode is invalid")
    | some mode => do
      rejectIf (mode ≠ request.mode)
        (.blocked ("coordinator mode " ++ mode.value ++ " does not match request mode " ++
          request.mode.value))
      match coordinator.backend with
      | none => pure ()
      | some backend =>
        rejectIf (backend ≠ backendText request.backend)
          (.blocked "coordinator backend does not match request backend")

/-- The fields that `_base_report`, `run` and `_finish` copy from the request. -/
def identityFields (experimentId : String) (detection : Fields) : Fields :=
  [("run_id", .str experimentId), ("mode", .str request.mode.value),
    ("controller", .str request.controller), ("model", .str request.model),
    ("incident_source", .str request.incidentSource),
    ("benchmark_id", .str request.benchmarkId), ("detection", .obj detection)]

/-- `_base_report`. -/
def baseReport (experimentId : String) : Except RuntimeException Fields := do
  let detection ← copyDetection request.detectionContext
  pure (identityFields request experimentId detection ++
    [("action_policy", .str (rt.python.str
        (Json.getD request.detectionContext "action_policy" (.str "baseline")))),
      ("final_status", .str "failed"), ("evidence", .obj []), ("diagnosis", .obj []),
      ("negotiation", .obj []), ("safety_validation", .obj []), ("execution_result", .obj []),
      ("recovery_monitoring", .obj []), ("human_review_required", .bool false)])

/-- `RuntimeResearchEventBridge.emit`. -/
def bridgeEmit (experimentId : String) (stage : RuntimeStage) (message : String)
    (payload : Fields) : Eff (Hub σ) RuntimeException Unit := do
  Eff.modify fun hub => { hub with sequence := hub.sequence + 1 }
  let hub ← Eff.get
  let createdAt ← Hub.onWorld rt.now
  let event ← Eff.ofExcept
    (RuntimeEvent.make experimentId hub.sequence stage "running" message createdAt payload)
  Eff.modify fun hub => { hub with events := hub.events ++ [event] }
  Hub.onWorld (rt.eventSink event)

/-- `RuntimeResearchEventBridge.finalize`. -/
def bridgeFinalize (experimentId : String) (report : Fields) :
    Eff (Hub σ) RuntimeException Unit := do
  let hub ← Eff.get
  match hub.artifactStore with
  | none => pure ()
  | some store => Hub.onWorld (store.finalize (Json.set report "run_id" (.str experimentId)))

variable (experimentId : String)

/-- `bridge.emit` in `run`, with the record of an emission that failed. -/
def emit (stage : RuntimeStage) (message : String) : Run σ App Unit := do
  let outcome ← Eff.attempt (fun _ => true)
    (onHub (rt.bridgeEmit experimentId stage message []))
  match outcome with
  | .ok () => pure ()
  | .error e =>
    log (.emitRaised stage)
    Eff.raise e

/-- `lock_context.__enter__()` and `lock_acquired = True`. -/
def enterLock : Run σ App Unit := do
  if request.mode = .real then
    onWorld rt.lock.enter
    Eff.modify fun s =>
      { s with calls := s.calls ++ [.lockEntered], lockAcquired := true }
  else
    Eff.modify fun s => { s with lockAcquired := true }

/-- `application = self.chaos.inject(request.scenario_id)`. -/
def inject : Run σ App (Option App) := do
  let application ← onWorld (rt.chaos.inject request.scenarioId)
  match application with
  | none => pure none
  | some app =>
    Eff.modify fun s =>
      { s with calls := s.calls ++ [.injected app], application := some app }
    pure (some app)

/-- The `RuntimeExecutionError` of an injection that failed; `None` has no attributes. -/
def requireInjected : Option App → Run σ App Unit
  | none => Eff.raise (.exception "fault injection failed")
  | some app =>
    Eff.raiseIf ((rt.chaos.status app).valid = false)
      (.exception ((rt.chaos.status app).stderr.getD "fault injection failed"))

/-- The chaos block of `run`. -/
def injectFault (control : RuntimeControl σ) : Run σ App Unit := do
  onWorld control.check
  let preflight ← onWorld rt.chaos.preflight
  Eff.raiseIf (preflight.valid = false)
    (.blocked (preflight.stderr.getD "chaos preflight failed"))
  onWorld control.check
  rt.emit experimentId .injectingFault "injecting registered fault"
  onWorld control.check
  let application ← rt.inject request
  rt.requireInjected application
  onWorld control.check

/-- The event store of the coordinator is replaced by the bridge. -/
def attachEventStore (coordinator : Coordinator σ) : Run σ App Unit :=
  match coordinator.eventStore with
  | none => pure ()
  | some own =>
    onHub (Eff.modify fun hub =>
      { hub with artifactStore := rt.artifactEventStore.orElse fun _ => own })

/-- The events of the stages that the coordinator's report covers. -/
def emitReportedStages (primaryStatus : String) : Run σ App Unit :=
  [(RuntimeStage.validating, "safety_validation"), (.executing, "execution_result"),
    (.observingRecovery, "recovery_monitoring")].forM fun (stage, key) => do
      if key = "recovery_monitoring" ∧ primaryStatus = "dry_run_validated" then
        pure ()
      else
        let s ← Eff.get
        Eff.when ((Json.get s.report key).truthy = true)
          (rt.emit experimentId stage ("runtime stage: " ++ key))

/-- `autogen_transcript`, the first transcript that has a line. -/
def setTranscript (transcripts : List (List String)) : Run σ App Unit :=
  match transcripts.find? (fun lines => !lines.isEmpty) with
  | none => pure ()
  | some transcript => setReport "autogen_transcript" (.texts transcript)

/-- `primary_status`, with the events and the `final_status` that follow from it. -/
def setPrimaryStatus (status : String) : Run σ App Unit := do
  Eff.modify fun s => { s with primaryStatus := status }
  rt.emitReportedStages experimentId status
  setReport "final_status" (.str status)

/-- The part of `run` from the coordinator's report to the end of the `try` block. -/
def readReport (control : RuntimeControl σ) (coordinator : Coordinator σ) : Run σ App Unit := do
  onWorld control.check
  let detection ← Eff.ofExcept (copyDetection request.detectionContext)
  Eff.modify fun s =>
    { s with report := Json.update s.report (identityFields request experimentId detection) }
  let transcripts ← onWorld coordinator.transcripts
  setTranscript transcripts
  let s ← Eff.get
  rt.setPrimaryStatus experimentId
    (rt.python.str (Json.getD s.report "final_status" (.str "failed")))

/-- The part of `run` that runs the coordinator. -/
def runCoordinator (control : RuntimeControl σ) (coordinator : Coordinator σ)
    (timeouts : List (String × ℚ)) : Run σ App Unit := do
  rt.emit experimentId .collectingEvidence "collecting registered evidence"
  rt.emit experimentId .agentReasoning "running mutual supervision"
  rt.attachEventStore coordinator
  let report ← onHub (coordinator.run ⟨control, timeouts, coordinator.hasLockFlag⟩
    request.ns request.deployment request.metric request.threshold)
  Eff.modify fun s => { s with report := report }
  rt.readReport request experimentId control coordinator

/-- The `try` block of `run`. -/
def body (control : RuntimeControl σ) : Run σ App Unit := do
  Eff.ofExcept (rt.validateRequest request)
  let coordinator ← onWorld (rt.coordinatorFactory request)
  let timeouts ← onWorld (rt.validateAdmission coordinator request)
  Eff.ofExcept (validateCoordinatorMode request coordinator)
  onWorld control.check
  rt.enterLock request
  rt.emit experimentId .preflight "runtime preflight"
  Eff.when (request.mode = .real ∧ request.incidentSource = "chaos_mesh")
    (rt.injectFault request experimentId control)
  onWorld control.check
  rt.runCoordinator request experimentId control coordinator timeouts

/-- The `except` clauses of `run`. -/
def handle (e : RuntimeException) : Run σ App Unit :=
  Eff.modify fun s =>
    { s with
      primaryStatus := e.status
      report := Json.update s.report [("error", .str e.text), ("final_status", .str e.status)] }

/-- The `try` block with its `except` clauses. -/
def guarded (control : RuntimeControl σ) : Run σ App Unit := do
  let outcome ← Eff.attempt (fun _ => true) (rt.body request experimentId control)
  match outcome with
  | .ok () => pure ()
  | .error e => handle e

/-- `_mapping`. -/
def mapping : CleanupResult → Fields
  | .mapping fields => fields
  | .chaosCleanup _ => [("valid", .bool false), ("stderr", .str "invalid cleanup result")]

/-- `cleanup_error` and `human_review_required` of a failed cleanup. -/
def cleanupFailed (report : Fields) (error : String) : Fields :=
  Json.update report [("cleanup_error", .str error), ("human_review_required", .bool true)]

/-- The report after `cleanup = _mapping(self.chaos.cleanup(application))`. -/
def reportCleanup (report cleanup : Fields) : Fields :=
  match Json.get cleanup "valid" with
  | .bool true => report
  | _ => cleanupFailed report
      (rt.python.str (Json.getD cleanup "stderr" (.str "cleanup failed")))

/-- The inner `try` of the `finally` block: `chaos.cleanup` and what its result says. -/
def cleanUp (app : App) : Run σ App Unit := do
  let s ← Eff.get
  log (.cleaned app s.hub.world s.report)
  let outcome ← Eff.attempt (fun _ => true) (onWorld (rt.chaos.cleanup app))
  match outcome with
  | .ok result =>
    Eff.modify fun s =>
      { s with
        cleanup := mapping result
        report := rt.reportCleanup s.report (mapping result) }
  | .error e =>
    Eff.modify fun s =>
      { s with
        cleanup := [("valid", .bool false), ("stderr", .str e.text)]
        report := cleanupFailed s.report e.text }

/-- The release of the lock in the `finally` block. -/
def releaseLock : Run σ App Unit := do
  let s ← Eff.get
  Eff.when (s.lockAcquired = true ∧ request.mode = .real) do
    log .lockReleased
    onWorld rt.lock.exit

/-- The cleanup of the `finally` block.  The event comes before the inner `try`. -/
def settleApplication : Option App → Run σ App Unit
  | none => pure ()
  | some app => do
    rt.emit experimentId .cleanup "cleaning up registered fault"
    rt.cleanUp app

/-- The `finally` block. -/
def finallyBlock : Run σ App Unit := do
  let s ← Eff.get
  rt.settleApplication experimentId s.application
  rt.releaseLock request

/-- The evaluation of a dry run in `_finish`. -/
def notApplicable : Json :=
  .obj [("status", .str "not_applicable"), ("evaluator", .str "RecoveryEvaluatorAgent"),
    ("rubric_version", .str "recovery-evaluator-v1"), ("team_reward", .null),
    ("agent_rewards", .obj []), ("components", .obj []),
    ("reason", .str ("dry-run does not mutate Kubernetes, so recovery outcome " ++
      "and reward are not measured"))]

/-- `attach_recovery_evaluation`. -/
def attachRecoveryEvaluation : Run σ App Unit := do
  let s ← Eff.get
  let evaluation ← Eff.ofExcept (rt.evaluate s.report)
  setReport "evaluation" evaluation

/-- The evaluation step of `_finish`. -/
def evaluateRecovery : Run σ App Unit :=
  Eff.when (request.incidentSource = "chaos_mesh") do
    rt.emit experimentId .analyzing
      (if request.mode = .dryRun then "recording dry-run validation without recovery scoring"
        else "evaluating recovery outcome with RecoveryEvaluatorAgent")
    if request.mode = .dryRun then setReport "evaluation" notApplicable
    else rt.attachRecoveryEvaluation

/-- The `runtime_events` and `artifacts` of the finished report. -/
def attachEvents : Run σ App Unit := do
  let s ← Eff.get
  setReport "runtime_events" (.ofList RuntimeEvent.toDict s.hub.events)
  match s.hub.artifactStore.bind ArtifactStore.paths with
  | none => pure ()
  | some paths => setReport "artifacts" paths

/-- `self.session_store.put(session)`. -/
def putSession (session : Json) : Run σ App Unit :=
  match rt.sessionStore with
  | none => pure ()
  | some put => onWorld (put session)

/-- The part of `_finish` that completes the report. -/
def fillReport (status : String) : Run σ App Unit := do
  let detection ← Eff.ofExcept (copyDetection request.detectionContext)
  Eff.modify fun s =>
    { s with
      report := Json.update s.report (identityFields request experimentId detection ++
        [("final_status", .str status), ("cleanup", .obj s.cleanup)]) }
  rt.evaluateRecovery request experimentId
  rt.emit experimentId .completed ("experiment " ++ status)
  attachEvents

/-- The constructor of `ExperimentRuntimeResult`. -/
def makeResult (status : String) (report : Fields) (session : Json) (events : List RuntimeEvent)
    (cleanup : Fields) : Except RuntimeException ExperimentRuntimeResult := do
  let experimentId ← stripIdentifier "experiment_id" experimentId
  let status ← stripIdentifier "status" status
  let report ← freeze report
  let cleanup ← freeze cleanup
  pure ⟨experimentId, status, report, session, events, cleanup⟩

/-- `_finish`. -/
def finish (status : String) : Run σ App ExperimentRuntimeResult := do
  rt.fillReport request experimentId status
  let s ← Eff.get
  onHub (bridgeFinalize experimentId s.report)
  let session ← Eff.ofExcept (rt.normalizeSession s.report)
  rt.putSession session
  Eff.ofExcept (makeResult experimentId status s.report session s.hub.events s.cleanup)

/-- The statements of `run` after the `try` statement. -/
def conclude : Run σ App ExperimentRuntimeResult := do
  let s ← Eff.get
  Eff.when ((Json.get s.report "cleanup_error").truthy = true)
    (setReport "cleanup_status" (.str "cleanup_failed"))
  let status := rt.python.str (Json.getD s.report "final_status" (.str s.primaryStatus))
  rt.finish request experimentId status

/-- `run` from its `try` statement on. -/
def supervised (control : RuntimeControl σ) : Run σ App ExperimentRuntimeResult := do
  rt.guarded request experimentId control
  rt.finallyBlock request experimentId
  rt.conclude request experimentId

end ExperimentRuntime

/-- The state in which `run` begins. -/
def RunState.initial (rt : ExperimentRuntime σ App) (world : σ) : RunState σ App :=
  { hub := ⟨world, 0, [], rt.artifactEventStore⟩
    calls := []
    report := []
    application := none
    cleanup := []
    primaryStatus := "failed"
    lockAcquired := false }

/-- `ExperimentRuntime.run`. -/
def ExperimentRuntime.run (rt : ExperimentRuntime σ App) (request : ExperimentRuntimeRequest) :
    Run σ App ExperimentRuntimeResult := do
  let experimentId ← onWorld rt.experimentId
  let report ← Eff.ofExcept (rt.baseReport request experimentId)
  let advice ← onWorld (rt.advise request)
  Eff.modify fun s => { s with report := Json.update report advice }
  let start ← onWorld rt.clock
  let control : RuntimeControl σ :=
    ⟨rt.cancelled, some (start + rt.configuration.experimentSeconds), rt.clock⟩
  rt.supervised request experimentId control

end Experiment
end AiopsK8s
