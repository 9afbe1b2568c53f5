/-
# The values of an experiment

`experiment_runtime_models.py`, `real_evidence.py` and the exceptions of
`experiment_runtime.py`: the request of an experiment, the configuration it is
checked against and the events it sends.  A request is one whose constructor has
already normalised its fields.

Times are exact rationals; a report is the mapping it is, with the values of
`Json`.
-/

import Mathlib.Algebra.Order.Ring.Rat
import AiopsK8s.Lib.Python
import AiopsK8s.Supervision.Models

namespace AiopsK8s
namespace Experiment

open Supervision (ExecutionMode ExecutionBackend)

/-- A `dict[str, Any]`. -/
abbrev Fields : Type := List (String × Json)

/-- The exceptions that the runtime and the Chaos Mesh adapter tell apart, each with its
`str(exc)`; `exception` is any other subclass of `Exception`. -/
inductive RuntimeException where
  | operationLock (text : String)
  | blocked (text : String)
  | cancelled (text : String)
  | timeout (text : String)
  | interrupted (text : String)
  | osError (text : String)
  | jsonDecode (text : String)
  | value (text : String)
  | timeoutExpired (stdout stderr text : String)
  | exception (text : String)
  deriving DecidableEq, Repr

namespace RuntimeException

/-- `str(exc)`. -/
def text : RuntimeException → String
  | operationLock t => t
  | blocked t => t
  | cancelled t => t
  | timeout t => t
  | interrupted t => t
  | osError t => t
  | jsonDecode t => t
  | value t => t
  | timeoutExpired _ _ t => t
  | exception t => t

/-- `except OSError`: `TimeoutError` and `InterruptedError` are subclasses of it. -/
def isOSError : RuntimeException → Bool
  | timeout _ => true
  | interrupted _ => true
  | osError _ => true
  | _ => false

/-- `except ValueError`: `_BlockedRequest` and `JSONDecodeError` are subclasses of it. -/
def isValueError : RuntimeException → Bool
  | blocked _ => true
  | jsonDecode _ => true
  | value _ => true
  | _ => false

/-- The status that the handlers of `run` give. -/
def status : RuntimeException → String
  | operationLock _ => "blocked"
  | blocked _ => "blocked"
  | cancelled _ => "cancelled"
  | timeout _ => "interrupted"
  | interrupted _ => "interrupted"
  | _ => "failed"

end RuntimeException

/-- `ExperimentRuntimeRequest`, less the fields that the runtime does not read. -/
structure ExperimentRuntimeRequest where
  scenarioId : String
  ns : String
  deployment : String
  metric : String
  threshold : ℚ
  mode : ExecutionMode
  backend : ExecutionBackend
  controller : String
  model : String
  incidentSource : String
  benchmarkId : String
  detectionContext : Fields

/-- `ScenarioConfiguration`. -/
structure ScenarioConfiguration where
  ns : Option String
  deployment : Option String
  metric : Option String
  threshold : Option ℚ
  incidentSource : String
  benchmarkId : String
  deriving DecidableEq, Repr

/-- `RuntimeConfiguration`, less the fields that the runtime does not read. -/
structure RuntimeConfiguration where
  allowedNamespaces : List String
  allowedDeployments : List String
  metricQueries : List String
  scenarios : List (String × ScenarioConfiguration)
  experimentSeconds : ℚ

/-- `RuntimeStage`. -/
inductive RuntimeStage where
  | queued
  | preflight
  | injectingFault
  | collectingEvidence
  | agentReasoning
  | negotiating
  | validating
  | executing
  | observingRecovery
  | analyzing
  | cleanup
  | completed
  deriving DecidableEq, Repr

/-- `RuntimeStage.value`. -/
def RuntimeStage.value : RuntimeStage → String
  | queued => "queued"
  | preflight => "preflight"
  | injectingFault => "injecting_fault"
  | collectingEvidence => "collecting_evidence"
  | agentReasoning => "agent_reasoning"
  | negotiating => "negotiating"
  | validating => "validating"
  | executing => "executing"
  | observingRecovery => "observing_recovery"
  | analyzing => "analyzing"
  | cleanup => "cleanup"
  | completed => "completed"

mutual

/-- Some value inside `value`, itself included, satisfies `p`. -/
def anyValue (p : Json → Bool) : Json → Bool
  | .arr items => p (.arr items) || anyItem p items
  | .obj fields => p (.obj fields) || anyField p fields
  | value => p value

/-- `anyValue` over a list. -/
def anyItem (p : Json → Bool) : List Json → Bool
  | [] => false
  | item :: items => anyValue p item || anyItem p items

/-- `anyValue` over the values of a mapping. -/
def anyField (p : Json → Bool) : Fields → Bool
  | [] => false
  | (_, item) :: fields => anyValue p item || anyField p fields

end

/-- A float that `isfinite` rejects. -/
def isNonFinite : Json → Bool
  | .float (.finite _) => false
  | .float _ => true
  | _ => false

/-- A mapping. -/
def isMapping : Json → Bool
  | .obj _ => true
  | _ => false

/-- `_freeze` of a mapping: the values of `Json` are the ones it accepts, so only a
non-finite float fails. -/
def freeze (fields : Fields) : Except RuntimeException Fields :=
  if anyField isNonFinite fields then .error (.value "float values must be finite")
  else .ok fields

/-- `deepcopy(dict(request.detection_context))`: the constructor of the request has turned
every mapping inside into a `MappingProxyType`, which `deepcopy` rejects. -/
def copyDetection (context : Fields) : Except RuntimeException Fields :=
  if anyField isMapping context then
    .error (.exception "cannot pickle 'mappingproxy' object")
  else .ok context

/-- `_strip_identifier`. -/
def stripIdentifier (name value : String) : Except RuntimeException String :=
  if Text.isBlank value then .error (.value (name ++ " must not be empty"))
  else .ok (Text.strip value)

/-- `RuntimeEvent`. -/
structure RuntimeEvent where
  experimentId : String
  sequence : ℕ
  stage : RuntimeStage
  status : String
  message : String
  createdAt : String
  payload : Fields

namespace RuntimeEvent

/-- The constructor with `__post_init__`. -/
def make (experimentId : String) (sequence : ℕ) (stage : RuntimeStage)
    (status message createdAt : String) (payload : Fields) :
    Except RuntimeException RuntimeEvent := do
  let experimentId ← stripIdentifier "experiment_id" experimentId
  let status ← stripIdentifier "status" status
  let message ← stripIdentifier "message" message
  let createdAt ← stripIdentifier "created_at" createdAt
  let payload ← freeze payload
  pure ⟨experimentId, sequence, stage, status, message, createdAt, payload⟩

/-- `to_dict`. -/
def toDict (event : RuntimeEvent) : Json :=
  .obj [("experiment_id", .str event.experimentId), ("sequence", .int event.sequence),
    ("stage", .str event.stage.value), ("status", .str event.status),
    ("message", .str event.message), ("created_at", .str event.createdAt),
    ("payload", .obj event.payload)]

end RuntimeEvent

/-- `ExperimentRuntimeResult`; the session is the one `normalize_experiment_session` made. -/
structure ExperimentRuntimeResult where
  experimentId : String
  status : String
  report : Fields
  session : Json
  events : List RuntimeEvent
  cleanup : Fields

end Experiment
end AiopsK8s
