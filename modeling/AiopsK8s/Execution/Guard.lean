/-
# The Go guard

`guard.go`: the request, its checks, the argument vector and the execution, and how
`main.go` reads the request with `encoding/json`.  An absent field keeps Go's zero
value, a `null` leaves it, and a number that does not fit the 64-bit `int` of a field
makes the whole request unreadable.
-/

import AiopsK8s.Lib.Effect
import AiopsK8s.Lib.Json

namespace AiopsK8s
namespace Execution
namespace Guard

open Effect

/-- `Request`. -/
structure Request where
  mode : String
  ns : String
  deployment : String
  action : String
  replicas : Option ℤ
  allowedNamespaces : List String
  allowedDeployments : List String
  minReplicas : ℤ
  maxReplicas : ℤ
  deriving DecidableEq, Repr

/-- `Result`. -/
structure Result where
  command : String
  mode : String
  valid : Bool
  stdout : String
  stderr : String
  deriving DecidableEq, Repr

/-- The values of Go's `int` on a 64-bit platform. -/
def FitsInt (i : ℤ) : Prop := -2 ^ 63 ≤ i ∧ i < 2 ^ 63

instance (i : ℤ) : Decidable (FitsInt i) := inferInstanceAs (Decidable (_ ∧ _))

section Unmarshal

/-- A `string` field. -/
def readString : Json → Option String
  | .null => some ""
  | .str s => some s
  | _ => none

/-- An `int` field. -/
def readInt : Json → Option ℤ
  | .null => some 0
  | .int i => if FitsInt i then some i else none
  | _ => none

/-- A `*int` field. -/
def readIntPointer : Json → Option (Option ℤ)
  | .null => some none
  | .int i => if FitsInt i then some (some i) else none
  | _ => none

/-- A `[]string` field. -/
def readStrings : Json → Option (List String)
  | .null => some []
  | .arr items => items.mapM readString
  | _ => none

/-- `json.Unmarshal` of a request. -/
def unmarshal (fields : List (String × Json)) : Option Request := do
  return {
    mode := ← readString (Json.get fields "mode")
    ns := ← readString (Json.get fields "namespace")
    deployment := ← readString (Json.get fields "deployment")
    action := ← readString (Json.get fields "action")
    replicas := ← readIntPointer (Json.get fields "replicas")
    allowedNamespaces := ← readStrings (Json.get fields "allowed_namespaces")
    allowedDeployments := ← readStrings (Json.get fields "allowed_deployments")
    minReplicas := ← readInt (Json.get fields "min_replicas")
    maxReplicas := ← readInt (Json.get fields "max_replicas") }

end Unmarshal

/-- `kubernetesNamePattern.MatchString`. -/
def matchesNamePattern (value : String) : Bool :=
  let isEdge (c : Char) : Bool := ('a' ≤ c && c ≤ 'z') || ('0' ≤ c && c ≤ '9')
  match value.toList with
  | [] => false
  | c :: rest =>
    isEdge c && (rest.isEmpty ||
      (rest.dropLast.all (fun c => isEdge c || c == '-') && rest.getLast?.any isEdge))

/-- `len(value)`, in bytes. -/
def byteLength (value : String) : ℕ :=
  value.toList.foldr (fun c size => c.utf8Size + size) 0

/-- `validateKubernetesName`. -/
def validateKubernetesName (field value : String) : Except String Unit :=
  if value = "" then .error (field ++ " is required")
  else if 63 < byteLength value then
    .error (field ++ " must be 63 characters or fewer: " ++ value)
  else if matchesNamePattern value then .ok ()
  else .error (field ++ " is not a valid Kubernetes DNS label: " ++ value)

/-- The replica checks of `scale_out`. -/
def validateReplicas (req : Request) : Except String Unit :=
  match req.replicas with
  | none => .error "replicas is required for action: scale_out"
  | some replicas =>
      if req.minReplicas ≤ 0 ∨ req.maxReplicas < req.minReplicas then
        .error s!"invalid replica policy: min={req.minReplicas} max={req.maxReplicas}"
      else if replicas < req.minReplicas ∨ req.maxReplicas < replicas then
        .error s!"replicas must be between {req.minReplicas} and {req.maxReplicas}: {replicas}"
      else .ok ()

/-- The checks that depend on the action. -/
def validateAction (req : Request) : Except String Unit :=
  if req.action = "observe_only" ∨ req.action = "rollout_restart" then
    if req.replicas.isSome then .error "only scale_out accepts replicas" else .ok ()
  else if req.action = "scale_out" then validateReplicas req
  else .error ("unsupported action: " ++ req.action)

/-- `Validate`. -/
def validate (req : Request) : Except String Unit := do
  rejectIf (req.mode ∉ ["mock", "dry-run", "real"]) ("unsupported mode: " ++ req.mode)
  validateKubernetesName "namespace" req.ns
  validateKubernetesName "deployment" req.deployment
  rejectIf (req.ns ∉ req.allowedNamespaces) ("namespace is not allowed: " ++ req.ns)
  rejectIf (req.deployment ∉ req.allowedDeployments)
    ("deployment is not allowed: " ++ req.deployment)
  validateAction req

/-- `BuildKubectlArgs`. -/
def buildKubectlArgs (req : Request) : Except String (List String) := do
  validate req
  let dryRun := if req.mode = "dry-run" then ["--dry-run=server"] else []
  match req.action, req.replicas with
  | "observe_only", _ =>
      return ["kubectl", "get", "deployment", req.deployment, "-n", req.ns, "-o", "json"]
  | "rollout_restart", _ =>
      return ["kubectl", "rollout", "restart", "deployment", req.deployment, "-n", req.ns] ++ dryRun
  | "scale_out", some replicas =>
      return ["kubectl", "scale", "deployment", req.deployment, "--replicas=" ++ toString replicas,
        "-n", req.ns] ++ dryRun
  | action, _ => throw ("unsupported action: " ++ action)

/-- A runner of the guard: the output, the error output and the exit code. -/
abbrev Runner : Type := List String → String × String × ℤ

/-- `Execute`, with the argument vectors that were handed to the runner.  The texts are
trimmed by `trim`. -/
def execute (trim : String → String) (runner : Runner) (req : Request) :
    Result × List (List String) :=
  match buildKubectlArgs req with
  | .error message => (⟨"", req.mode, false, "", message⟩, [])
  | .ok args =>
      let command := " ".intercalate args
      if req.mode = "mock" then
        (⟨command, req.mode, true, "mock: command validated and not executed", ""⟩, [])
      else
        let (stdout, stderr, exitCode) := runner args
        (⟨command, req.mode, exitCode == 0, trim stdout, trim stderr⟩, [args])

end Guard
end Execution
end AiopsK8s
