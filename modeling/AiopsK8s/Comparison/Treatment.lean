/-
# A recovery treatment

`run_recovery_treatment` of `recovery_runner.py` with everything it calls: the reset, the fault, the
two waits, the executor and the values that are derived from the last snapshot.  The record is
filled in field by field inside one `try`; an exception is written to it, and a `finally` resets the
workload whatever happened.

The kubectl runner, the snapshots, the metric and the clock are computations with a state and may
return anything or raise.  Every kubectl call is noted with its outcome.  A wait polls until its
clock says so, which a clock that stands still never does: a computation here takes the number of
polls it may make, and ends in `none` where that was not enough.
-/

import AiopsK8s.Execution.Dispatch
import AiopsK8s.Execution.RecoveryMonitor
import AiopsK8s.Lib.Arithmetic
import AiopsK8s.Lib.Python
import AiopsK8s.Lib.Sorting
import Mathlib.Data.String.Basic

namespace AiopsK8s
namespace Comparison

open Effect Supervision Execution

/-! ### Data -/

/-- `MetricDirection`. -/
inductive MetricDirection where
  | high
  | low
  deriving DecidableEq

/-- `evidence_source`, as `_scenario_from_dict` accepts it. -/
inductive EvidenceSource where
  | prometheus
  | kubernetesAvailability
  | podReplacement
  deriving DecidableEq

/-- `RecoveryScenario`. -/
structure RecoveryScenario where
  id : String
  ns : String
  deployment : String
  chaosManifest : String
  metric : String
  evidenceSource : EvidenceSource
  metricDirection : MetricDirection
  faultThreshold : PyFloat
  recoveryThreshold : PyFloat
  query : Option String
  queryEnv : Option String

/-- `RecoveryExperimentConfig`, with the checks of `load_recovery_experiment_config`.  Its integers
come from a document, so they have a text. -/
structure RecoveryExperimentConfig where
  baselineReplicas : ℤ
  scaleReplicas : ℤ
  faultDetectionTimeoutSeconds : ℤ
  recoveryTimeoutSeconds : ℤ
  pollIntervalSeconds : ℤ
  actions : List RecoveryActionKind
  scenarios : List RecoveryScenario
  ids_nodup : (scenarios.map (·.id)).Nodup
  baseline_pos : 1 ≤ baselineReplicas
  scale_gt : baselineReplicas < scaleReplicas

/-- `RecoveryTreatment`. -/
structure RecoveryTreatment where
  treatmentId : String
  scenario : RecoveryScenario
  action : RecoveryActionKind
  repetition : ℕ

/-- A snapshot that `collect_kubernetes_snapshot` returns, a mapping. -/
abbrev Snapshot : Type := List (String × Json)

/-- The record of a treatment; what the `try` block adds to the empty record is optional. -/
structure TreatmentRecord where
  treatmentId : String
  scenario : String
  repetition : ℕ
  mode : String
  startedAt : String
  finishedAt : String
  action : RecoveryAction
  recoverySuccess : Bool
  availabilityRecovery : PyFloat
  metricImprovement : PyFloat
  recoverySeconds : PyFloat
  replicaDelta : ℤ
  commandCount : ℤ
  safetyValid : Bool
  measurementValid : Bool
  cleanupValid : Bool
  error : String
  before : Option Snapshot
  metricBeforeFault : Option PyFloat
  fault : Option Snapshot
  metricAtFault : Option PyFloat
  faultDetectionSeconds : Option PyFloat
  commandResult : Option CommandResult
  metricAfterAction : Option PyFloat
  after : Option Snapshot
  cleanupError : Option String

/-- The interpreter, with `int(text)`. -/
structure Interpreter extends Python where
  intOfText : String → Option ℤ

/-- `RecoveryExperimentRuntime`, the clock of the wall and the Go guard. -/
structure RecoveryExperimentRuntime (σ : Type) where
  kubectl : List String → Eff σ PyExn (ℤ × String × String)
  queryMetric : String → String → Eff σ PyExn PyFloat
  snapshot : String → String → Eff σ PyExn Snapshot
  sleep : ℤ → Eff σ PyExn Unit
  monotonic : Eff σ PyExn PyFloat
  goGuard : List (String × Json) → String → Eff σ PyExn CommandResult
  now : σ → String

/-- A kubectl call and what came of it. -/
structure KubectlCall where
  argv : List String
  outcome : Except PyExn (ℤ × String × String)

/-- The surroundings of a treatment and the kubectl calls so far. -/
structure Site (σ : Type) where
  env : σ
  calls : List KubectlCall

/-- How a computation ends early: an exception, or `none` while it is still polling. -/
abbrev Halt : Type := Option PyExn

/-- `except Exception`. -/
def Halt.isException (halt : Halt) : Bool := halt.any PyExn.isException

section Code

variable {σ : Type} (py : Interpreter) (runtime : RecoveryExperimentRuntime σ)

namespace Site

/-- A call into the surroundings. -/
def call {α : Type} (m : Eff σ PyExn α) : Eff (Site σ) PyExn α :=
  Eff.zoom Site.env (fun env site => { site with env }) m

/-- `runtime.kubectl(argv)`. -/
def kubectl (argv : List String) : Eff (Site σ) PyExn (ℤ × String × String) := fun site =>
  match runtime.kubectl argv site.env with
  | (outcome, env) => (outcome, ⟨env, site.calls ++ [⟨argv, outcome⟩]⟩)

/-- A computation that does not poll. -/
def direct {α : Type} (m : Eff (Site σ) PyExn α) : Eff (Site σ) Halt α := fun site =>
  match m site with
  | (.ok a, site') => (.ok a, site')
  | (.error e, site') => (.error (some e), site')

end Site

/-! ### Reading a snapshot -/

/-- The name of the type of a value. -/
def typeName : Json → String
  | .null => "NoneType"
  | .bool _ => "bool"
  | .int _ => "int"
  | .float _ => "float"
  | .str _ => "str"
  | .arr _ => "list"
  | .obj _ => "dict"

/-- The value as something that has the method `get`. -/
def asMapping : Json → Except PyExn (List (String × Json))
  | .obj fields => .ok fields
  | value => .error ⟨.other, "'" ++ typeName value ++ "' object has no attribute 'get'"⟩

/-- `int(value)`. -/
def intOf : Json → Except PyExn ℤ
  | .int i => .ok i
  | .bool b => .ok (if b then 1 else 0)
  | .float .nan => .error (.valueError "cannot convert float NaN to integer")
  | .float x => match x.toInt with
    | some i => .ok i
    | none => .error ⟨.overflow, "cannot convert float infinity to integer"⟩
  | .str s => match py.intOfText s with
    | some i => .ok i
    | none => .error (.valueError ("invalid literal for int() with base 10: " ++ py.repr (.str s)))
  | value => .error ⟨.other, "int() argument must be a string, a bytes-like object or a real " ++
      "number, not '" ++ typeName value ++ "'"⟩

/-- `int(status.get(key, 0) or 0)`. -/
def countOf (status : List (String × Json)) (key : String) : Except PyExn ℤ :=
  let value := Json.getD status key (.int 0)
  if value.truthy then intOf py value else .ok 0

/-- `snapshot.get("deployment_status", {})`, of which something is read. -/
def deploymentStatus (snapshot : Snapshot) : Except PyExn (List (String × Json)) :=
  asMapping (Json.getD snapshot "deployment_status" (.obj []))

/-- `min(max(x, 0.0), 1.0)`. -/
def clampUnit (x : PyFloat) : PyFloat :=
  let y := if PyFloat.lt x (.finite 0) then .finite 0 else x
  if PyFloat.lt (.finite 1) y then .finite 1 else y

/-- `min(max(available / desired, 0.0), 1.0)`, for a positive `desired`. -/
def clampedRatio (available desired : ℤ) : Except PyExn PyFloat :=
  match PyFloat.ofQuotient available desired.toNat with
  | some x => .ok (clampUnit x)
  | none => .error divisionOverflow

/-- `_availability_ratio`. -/
def availabilityRatio (snapshot : Snapshot) : Except PyExn PyFloat := do
  let status ← deploymentStatus snapshot
  let desired ← countOf py status "desired_replicas"
  let available ← countOf py status "available_replicas"
  if (Json.get status "ok").truthy = false ∨ desired < 1 then .ok (.finite 0)
  else PyFloat.round6 <$> clampedRatio available desired

/-- `_desired_replicas`. -/
def desiredReplicas (snapshot : Snapshot) : Except PyExn ℤ := do
  let status ← deploymentStatus snapshot
  countOf py status "desired_replicas"

/-- `_availability_evidence`. -/
def availabilityEvidence (snapshot : Snapshot) : Except PyExn PyFloat := do
  let status ← deploymentStatus snapshot
  rejectIf ((Json.get status "ok").truthy = false)
    (.valueError "Kubernetes deployment availability is unavailable")
  let desired ← countOf py status "desired_replicas"
  let available ← countOf py status "available_replicas"
  rejectIf (desired < 1) (.valueError "Kubernetes deployment has no desired replicas")
  clampedRatio available desired

/-- `for item in value`. -/
def iterate : Json → Except PyExn (List Json)
  | .arr items => .ok items
  | .obj fields => .ok (fields.map fun entry => .str entry.1)
  | .str s => .ok (s.toList.map fun c => .str (String.singleton c))
  | value => .error ⟨.other, "'" ++ typeName value ++ "' object is not iterable"⟩

/-- The identity of a pod, if it has one. -/
def podUid (item : Json) : Except PyExn (Option String) := do
  let fields ← asMapping item
  let uid := Json.get fields "uid"
  if uid.truthy = false then return none
  else if uid.hasLongInteger then
    .error (.valueError "Exceeds the limit (4300 digits) for integer string conversion")
  else return some (py.str uid)

/-- `_pod_uids`, the set as a sorted list. -/
def podUids (snapshot : Snapshot) : Except PyExn (List String) := do
  let pods ← asMapping (Json.getD snapshot "pods" (.obj []))
  rejectIf ((Json.get pods "ok").truthy = false)
    (.valueError "Kubernetes pod identity is unavailable")
  let items ← iterate (Json.getD pods "items" (.arr []))
  let uids ← items.mapM (podUid py)
  return Sorting.sortedSet id uids.reduceOption

/-! ### Metrics -/

/-- `_is_prometheus_up_query`. -/
def isPrometheusUpQuery (query : String) : Bool :=
  String.ofList ((query.toList.map Text.lowerChar).filter (!Text.isSpace ·)) ∈
    ["up", "max(up)", "min(up)", "sum(up)"]

/-- `resolve_metric_query`. -/
def resolveMetricQuery (scenario : RecoveryScenario) (environ : List (String × String)) :
    Except PyExn String := do
  let query ← match scenario.queryEnv.filter (· ≠ "") with
    | some name => match (environ.lookup name).filter (· ≠ "") with
      | some query => .ok (some query)
      | none => .error (.valueError (scenario.id ++ " requires environment variable " ++ name))
    | none => .ok (scenario.query.filter (· ≠ ""))
  match query with
  | none => .error (.valueError (scenario.id ++ " has no metric query"))
  | some query =>
    rejectIf (scenario.metric = "latency" ∧ isPrometheusUpQuery query = true)
      (.valueError "network-delay requires real latency evidence, not max(up)")
    return query

/-- `metric_is_faulted`. -/
def metricIsFaulted (value threshold : PyFloat) : MetricDirection → Bool
  | .high => PyFloat.ge value threshold
  | .low => PyFloat.ge threshold value

/-- `metric_is_recovered`. -/
def metricIsRecovered (value threshold : PyFloat) : MetricDirection → Bool
  | .high => PyFloat.ge threshold value
  | .low => PyFloat.ge value threshold

/-- `max(abs(x), floor)`. -/
def magnitude (x : PyFloat) (floor : PyFloat) : PyFloat :=
  let size := if PyFloat.lt x (.finite 0) then PyFloat.neg x else x
  if PyFloat.lt size floor then floor else size

/-- `metric_improvement`. -/
def metricImprovement (faultValue recoveredValue : PyFloat) (direction : MetricDirection) :
    PyFloat :=
  PyFloat.round6 (clampUnit (match direction with
    | .high => PyFloat.div (PyFloat.sub faultValue recoveredValue)
        (magnitude faultValue (.lit 1e-9))
    | .low => PyFloat.div (PyFloat.sub recoveredValue faultValue)
        (magnitude recoveredValue (.finite 1))))

/-- `_sample_evidence`. -/
def sampleEvidence (scenario : RecoveryScenario) (prometheusUrl query : String) :
    Eff (Site σ) PyExn PyFloat :=
  if scenario.evidenceSource = .prometheus then
    Site.call (runtime.queryMetric prometheusUrl query)
  else do
    let snapshot ← Site.call (runtime.snapshot scenario.ns scenario.deployment)
    Eff.ofExcept (availabilityEvidence py snapshot)

/-! ### Waiting -/

/-- The `try` block of a poll: what is waited for with the seconds since `started`, or the text of
the failure. -/
def pollOnce {α : Type} (probe : Eff (Site σ) PyExn (Except String α)) (started : PyFloat) :
    Eff (Site σ) PyExn (Except String (α × PyFloat)) := do
  match ← probe with
  | .error text => return .error text
  | .ok value =>
    let stopped ← Site.call runtime.monotonic
    return .ok (value, PyFloat.sub stopped started)

/-- The text of the failure of a poll: of an exception, or as the poll has it. -/
def lastError {α : Type} : Except PyExn (Except String α) → Except String α
  | .error exc => .error exc.text
  | .ok found => found

/-- A wait that polls.  It ends with what is waited for, or raises once the timeout has passed. -/
def pollLoop {α : Type} (what : String) (probe : Eff (Site σ) PyExn (Except String α))
    (started : PyFloat) (timeoutSeconds pollIntervalSeconds : ℤ) :
    ℕ → Eff (Site σ) Halt (α × PyFloat)
  | 0 => Eff.raise none
  | polls + 1 => do
    let found ← Site.direct (Eff.attempt PyExn.isException (pollOnce runtime probe started))
    match lastError found with
    | .ok result => return result
    | .error text =>
      let current ← Site.direct (Site.call runtime.monotonic)
      if PyFloat.ge (PyFloat.sub current started) (.finite timeoutSeconds) then
        Eff.raise (some (.valueError (what ++ " wait timed out after " ++ toString timeoutSeconds ++
          "s: " ++ text)))
      else
        Site.direct (Site.call (runtime.sleep pollIntervalSeconds))
        pollLoop what probe started timeoutSeconds pollIntervalSeconds polls

/-- One poll of `_wait_for_evidence`. -/
def evidenceProbe (scenario : RecoveryScenario) (prometheusUrl query : String)
    (predicate : PyFloat → Bool) : Eff (Site σ) PyExn (Except String PyFloat) := do
  let value ← sampleEvidence py runtime scenario prometheusUrl query
  if predicate value then return .ok value
  else return .error ("last metric value was " ++ py.str (.float value))

/-- `_wait_for_evidence`. -/
def waitForEvidence (polls : ℕ) (scenario : RecoveryScenario) (prometheusUrl query : String)
    (timeoutSeconds pollIntervalSeconds : ℤ) (predicate : PyFloat → Bool) :
    Eff (Site σ) Halt (PyFloat × PyFloat) := do
  let started ← Site.direct (Site.call runtime.monotonic)
  pollLoop runtime "metric" (evidenceProbe py runtime scenario prometheusUrl query predicate) started
    timeoutSeconds pollIntervalSeconds polls

/-- One poll of `_wait_for_pod_replacement`. -/
def replacementProbe (scenario : RecoveryScenario) (baselineUids : List String) :
    Eff (Site σ) PyExn (Except String Snapshot) := do
  let snapshot ← Site.call (runtime.snapshot scenario.ns scenario.deployment)
  let currentUids ← Eff.ofExcept (podUids py snapshot)
  if currentUids ≠ [] ∧ currentUids ≠ baselineUids then return .ok snapshot
  else return .error ("current pod UIDs were " ++ py.repr (.texts currentUids))

/-- `_wait_for_pod_replacement`. -/
def waitForPodReplacement (polls : ℕ) (scenario : RecoveryScenario) (baselineUids : List String)
    (timeoutSeconds pollIntervalSeconds : ℤ) : Eff (Site σ) Halt (Snapshot × PyFloat) := do
  Site.direct (Eff.ofExcept (rejectIf (baselineUids = [])
    (.valueError "pod replacement evidence requires baseline pod UIDs")))
  let started ← Site.direct (Site.call runtime.monotonic)
  pollLoop runtime "pod replacement" (replacementProbe py runtime scenario baselineUids) started
    timeoutSeconds pollIntervalSeconds polls

/-! ### The reset -/

/-- The command that deletes the fault. -/
def deleteArgv (scenario : RecoveryScenario) : List String :=
  ["kubectl", "delete", "-f", scenario.chaosManifest, "--ignore-not-found"]

/-- The command that scales to the baseline. -/
def baselineArgv (scenario : RecoveryScenario) (config : RecoveryExperimentConfig) : List String :=
  ["kubectl", "scale", "deployment", scenario.deployment,
    "--replicas=" ++ toString config.baselineReplicas, "-n", scenario.ns]

/-- The command that waits for the rollout. -/
def rolloutArgv (scenario : RecoveryScenario) (config : RecoveryExperimentConfig) : List String :=
  ["kubectl", "rollout", "status", "deployment/" ++ scenario.deployment, "-n", scenario.ns,
    "--timeout=" ++ toString config.recoveryTimeoutSeconds ++ "s"]

/-- `_kubectl_or_raise`. -/
def kubectlOrRaise (argv : List String) : Eff (Site σ) PyExn Unit := do
  let (returnCode, _, stderr) ← Site.kubectl runtime argv
  Eff.raiseIf (returnCode ≠ 0)
    ⟨.other, if stderr = "" then "kubectl failed: " ++ " ".intercalate argv else stderr⟩

/-- `_reset_treatment`. -/
def resetTreatment (scenario : RecoveryScenario) (config : RecoveryExperimentConfig) :
    Eff (Site σ) PyExn Unit := do
  kubectlOrRaise runtime (deleteArgv scenario)
  kubectlOrRaise runtime (baselineArgv scenario config)
  kubectlOrRaise runtime (rolloutArgv scenario config)

/-! ### The treatment -/

/-- A treatment on the way: its surroundings and its record. -/
structure Lab (σ : Type) where
  site : Site σ
  record : TreatmentRecord

namespace Lab

/-- A computation in the surroundings. -/
def perform {α : Type} (m : Eff (Site σ) Halt α) : Eff (Lab σ) Halt α :=
  Eff.zoom Lab.site (fun site lab => { lab with site }) m

/-- `record[key] = value`. -/
def write (f : TreatmentRecord → TreatmentRecord) : Eff (Lab σ) Halt Unit :=
  Eff.modify fun lab => { lab with record := f lab.record }

end Lab

open Lab

/-- `ExecutionMode(mode)`. -/
def executionMode (mode : String) : Except PyExn ExecutionMode :=
  match [ExecutionMode.mock, .dryRun, .real].find? (·.value = mode) with
  | some executionMode => .ok executionMode
  | none => .error (.valueError ("'" ++ mode ++ "' is not a valid ExecutionMode"))

/-- `ExecutionBackend(guard_backend)`. -/
def executionBackend (backend : String) : Except PyExn ExecutionBackend :=
  match [ExecutionBackend.python, .go].find? (·.value = backend) with
  | some executionBackend => .ok executionBackend
  | none => .error (.valueError ("'" ++ backend ++ "' is not a valid ExecutionBackend"))

/-- The arguments of `run_recovery_treatment`. -/
structure TreatmentCall where
  treatment : RecoveryTreatment
  config : RecoveryExperimentConfig
  mode : String
  prometheusUrl : String
  guardBackend : String
  environ : List (String × String)

variable (call : TreatmentCall)

/-- `action`. -/
def TreatmentCall.action : RecoveryAction where
  ns := call.treatment.scenario.ns
  deployment := call.treatment.scenario.deployment
  kind := call.treatment.action
  replicas := if call.treatment.action = .scaleOut then some call.config.scaleReplicas else none
  reason := "real fault treatment: " ++ call.treatment.scenario.id

/-- `_empty_treatment_record`. -/
def emptyTreatmentRecord (startedAt : String) : TreatmentRecord where
  treatmentId := call.treatment.treatmentId
  scenario := call.treatment.scenario.id
  repetition := call.treatment.repetition
  mode := call.mode
  startedAt
  finishedAt := ""
  action := call.action
  recoverySuccess := false
  availabilityRecovery := .finite 0
  metricImprovement := .finite 0
  recoverySeconds := .finite 0
  replicaDelta := 0
  commandCount := 0
  safetyValid := false
  measurementValid := false
  cleanupValid := false
  error := ""
  before := none
  metricBeforeFault := none
  fault := none
  metricAtFault := none
  faultDetectionSeconds := none
  commandResult := none
  metricAfterAction := none
  after := none
  cleanupError := none

/-- `runtime.snapshot(scenario.namespace, scenario.deployment)`. -/
def takeSnapshot : Eff (Lab σ) Halt Snapshot :=
  perform (Site.direct (Site.call
    (runtime.snapshot call.treatment.scenario.ns call.treatment.scenario.deployment)))

/-- Resolving the query, resetting the workload and measuring what comes before the fault. -/
def measureBefore : Eff (Lab σ) Halt (String × Snapshot) := do
  let scenario := call.treatment.scenario
  let query ← perform (Site.direct (Eff.ofExcept (resolveMetricQuery scenario call.environ)))
  perform (Site.direct (resetTreatment runtime scenario call.config))
  let before ← takeSnapshot runtime call
  write fun record => { record with before := some before }
  let value ← perform (Site.direct (if scenario.evidenceSource = .prometheus then
      sampleEvidence py runtime scenario call.prometheusUrl query
    else Eff.ofExcept (availabilityEvidence py before)))
  write fun record => { record with metricBeforeFault := some value }
  return (query, before)

/-- Waiting until a pod is replaced. -/
def waitForReplacedPod (polls : ℕ) (before : Snapshot) : Eff (Lab σ) Halt (PyFloat × PyFloat) := do
  let baselineUids ← perform (Site.direct (Eff.ofExcept (podUids py before)))
  let (faultSnapshot, faultSeconds) ← perform (waitForPodReplacement py runtime polls
    call.treatment.scenario baselineUids call.config.faultDetectionTimeoutSeconds
    call.config.pollIntervalSeconds)
  write fun record => { record with fault := some faultSnapshot }
  return (.finite 0, faultSeconds)

/-- Waiting until the metric shows the fault. -/
def waitForFaultedMetric (polls : ℕ) (query : String) :
    Eff (Lab σ) Halt (PyFloat × PyFloat) := do
  let scenario := call.treatment.scenario
  let (faultValue, faultSeconds) ← perform (waitForEvidence py runtime polls scenario
    call.prometheusUrl query call.config.faultDetectionTimeoutSeconds
    call.config.pollIntervalSeconds
    fun value => metricIsFaulted value scenario.faultThreshold scenario.metricDirection)
  let fault ← takeSnapshot runtime call
  write fun record => { record with fault := some fault }
  return (faultValue, faultSeconds)

/-- Waiting until the fault shows. -/
def waitForFault (polls : ℕ) (query : String) (before : Snapshot) :
    Eff (Lab σ) Halt (PyFloat × PyFloat) :=
  if call.treatment.scenario.evidenceSource = .podReplacement then
    waitForReplacedPod py runtime call polls before
  else waitForFaultedMetric py runtime call polls query

/-- Injecting the fault and waiting until it shows. -/
def injectFault (polls : ℕ) (query : String) (before : Snapshot) : Eff (Lab σ) Halt PyFloat := do
  perform (Site.direct (kubectlOrRaise runtime
    ["kubectl", "apply", "-f", call.treatment.scenario.chaosManifest]))
  let (faultValue, faultSeconds) ← waitForFault py runtime call polls query before
  write fun record => { record with
    metricAtFault := some faultValue, faultDetectionSeconds := some faultSeconds.round6 }
  return faultValue

/-- `executor.execute_recovery(action)` with the executor of the treatment. -/
def executeAction : Eff (Site σ) PyExn CommandResult := do
  let executor : CommandExecutor (Site σ) :=
    { validator := ⟨[call.treatment.scenario.ns], [call.treatment.scenario.deployment],
        call.config.baselineReplicas, call.config.scaleReplicas⟩
      mode := ← Eff.ofExcept (executionMode call.mode)
      backend := ← Eff.ofExcept (executionBackend call.guardBackend)
      runner := Site.kubectl runtime
      goGuard := fun request command => Site.call (runtime.goGuard request command) }
  fun site => match executor.executeRecovery call.action (.start site) with
    | (outcome, journal) => (outcome, journal.env)

/-- Carrying out the action. -/
def carryOutAction : Eff (Lab σ) Halt CommandResult := do
  let result ← perform (Site.direct (executeAction runtime call))
  write fun record => { record with
    commandResult := some result
    safetyValid := result.valid
    commandCount := if call.treatment.action = .observeOnly then 0 else 1 }
  return result

/-- What the `try` block has measured when it declares the measurement valid. -/
structure Measured where
  faultValue : PyFloat
  recoveredValue : PyFloat
  valid : Bool
  after : Snapshot

/-- The `try` block up to the snapshot after the action. -/
def measure (polls : ℕ) : Eff (Lab σ) Halt Measured := do
  let scenario := call.treatment.scenario
  let (query, before) ← measureBefore py runtime call
  let faultValue ← injectFault py runtime call polls query before
  let result ← carryOutAction runtime call
  let (recoveredValue, recoverySeconds) ← perform (waitForEvidence py runtime polls scenario
    call.prometheusUrl query call.config.recoveryTimeoutSeconds call.config.pollIntervalSeconds
    fun value => metricIsRecovered value scenario.recoveryThreshold scenario.metricDirection)
  write fun record => { record with
    metricAfterAction := some recoveredValue, recoverySeconds := recoverySeconds.round6 }
  let after ← takeSnapshot runtime call
  write fun record => { record with after := some after }
  return ⟨faultValue, recoveredValue, result.valid, after⟩

/-- The rest of the `try` block: what is derived from the measurements. -/
def derive (measured : Measured) : Eff (Lab σ) Halt Unit := do
  write fun record => { record with
    measurementValid := true
    metricImprovement := Comparison.metricImprovement measured.faultValue measured.recoveredValue
      call.treatment.scenario.metricDirection }
  let availability ← perform (Site.direct (Eff.ofExcept (availabilityRatio py measured.after)))
  write fun record => { record with availabilityRecovery := availability }
  let desired ← perform (Site.direct (Eff.ofExcept (desiredReplicas py measured.after)))
  write fun record => { record with
    replicaDelta := desired - call.config.baselineReplicas
    recoverySuccess := measured.valid && PyFloat.ge availability (.finite 1) }

/-- `try` and `except Exception`. -/
def treat (polls : ℕ) : Eff (Lab σ) Halt Unit := do
  let outcome ← Eff.attempt Halt.isException
    (measure py runtime call polls >>= derive py call)
  match outcome with
  | .ok () => return ()
  | .error halt => write fun record => { record with error := (halt.map (·.text)).getD "" }

/-- The `finally` block. -/
def cleanUp : Eff (Lab σ) Halt Unit := do
  let outcome ← Eff.attempt Halt.isException
    (perform (Site.direct (resetTreatment runtime call.treatment.scenario call.config)))
  match outcome with
  | .ok () => write fun record => { record with cleanupValid := true }
  | .error halt => write fun record => { record with
      cleanupValid := false, cleanupError := some ((halt.map (·.text)).getD "") }
  fun lab => (.ok (), { lab with
    record := { lab.record with finishedAt := runtime.now lab.site.env } })

/-- `try`, `except` and `finally`: the closing block runs after every exit, but not while the wait is
still polling. -/
def treatAndCleanUp (polls : ℕ) : Eff (Lab σ) Halt Unit := fun lab =>
  match treat py runtime call polls lab with
  | (.error none, lab') => (.error none, lab')
  | (outcome, lab') =>
    match cleanUp runtime call lab' with
    | (.ok (), lab'') => (outcome, lab'')
    | (.error halt, lab'') => (.error halt, lab'')

/-- The laboratory before the `try` block. -/
def Lab.start (env : σ) : Lab σ := ⟨⟨env, []⟩, emptyTreatmentRecord call (runtime.now env)⟩

/-- `run_recovery_treatment`, where a wait makes at most `polls` polls. -/
def runRecoveryTreatment (polls : ℕ) : Eff σ Halt TreatmentRecord := fun env =>
  match treatAndCleanUp py runtime call polls (Lab.start runtime call env) with
  | (.ok (), lab) => (.ok lab.record, lab.site.env)
  | (.error halt, lab) => (.error halt, lab.site.env)

end Code

end Comparison
end AiopsK8s
