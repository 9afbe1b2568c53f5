/-
# The executor

`executor.py`: what `KubernetesExecutor.execute_recovery` does with a recovery
action.  The validator accepts or rejects it; then the Python backend hands the
argument vector of the action to the command runner, while the Go backend hands the
request `goGuardRequest` to the guard process.

An outcome records the argument vectors that were handed to the runner next to the
result, so that statements about what was run are statements about outcomes.
-/

import AiopsK8s.Supervision.Validator

namespace AiopsK8s
namespace Execution

open Supervision

/-- A command runner: an argument vector to a return code, the output and the error output. -/
abbrev Runner : Type := List String → ℤ × String × String

/-- A result and the argument vectors that were handed to the runner. -/
structure Outcome where
  result : CommandResult
  ran : List (List String)
  deriving DecidableEq

/-- `KubernetesExecutor`, with the Python backend's runner. -/
structure KubernetesExecutor where
  validator : CommandValidator
  mode : ExecutionMode
  runner : Runner

/-- `_scale_argv`. -/
def scaleArgv (ns deployment : String) (replicas : ℤ) : List String :=
  ["kubectl", "scale", "deployment", deployment, "--replicas=" ++ toString replicas, "-n", ns]

/-- `_recovery_argv`. -/
def recoveryArgv (action : RecoveryAction) : Except PyExn (List String) :=
  match action.kind, action.replicas with
  | .observeOnly, _ =>
      .ok ["kubectl", "get", "deployment", action.deployment, "-n", action.ns, "-o", "json"]
  | .rolloutRestart, _ =>
      .ok ["kubectl", "rollout", "restart", "deployment", action.deployment, "-n", action.ns]
  | .scaleOut, some replicas => .ok (scaleArgv action.ns action.deployment replicas)
  | .scaleOut, none => .error (.valueError "unsupported recovery action")

namespace KubernetesExecutor

variable (e : KubernetesExecutor)

/-- `_mock_result`. -/
def mockResult (command : String) : CommandResult :=
  ⟨command, e.mode.value, true, "mock: 명령어를 검증했으며 실제 실행하지 않았습니다", "", []⟩

/-- `_run`. -/
def run (command : String) (argv : List String) : Outcome :=
  let (returnCode, stdout, stderr) := e.runner argv
  ⟨⟨command, e.mode.value, returnCode == 0, stdout, stderr, []⟩, [argv]⟩

/-- `execute_recovery` with the Python backend. -/
def executeRecovery (action : RecoveryAction) : Except PyExn Outcome := do
  let validated ← e.validator.validateRecoveryAction action
  let command ← renderRecoveryCommand validated
  if e.mode = .mock then
    return ⟨e.mockResult command, []⟩
  let argv ← recoveryArgv validated
  if e.mode = .dryRun ∧ validated.kind ≠ .observeOnly then
    return e.run command (argv ++ ["--dry-run=server"])
  return e.run command argv

end KubernetesExecutor

/-- The request that `_execute_with_go_guard` writes for the guard. -/
def goGuardRequest (mode : ExecutionMode) (v : CommandValidator) (action : RecoveryAction) :
    List (String × Json) :=
  [("mode", .str mode.value), ("namespace", .str action.ns),
    ("deployment", .str action.deployment), ("action", .str action.kind.value)] ++
  (match action.replicas with
    | some replicas => [("replicas", Json.int replicas)]
    | none => []) ++
  [("allowed_namespaces", .texts (v.allowedNamespaces.mergeSort (· ≤ ·))),
    ("allowed_deployments", .texts (v.allowedDeployments.mergeSort (· ≤ ·))),
    ("min_replicas", .int v.minReplicas), ("max_replicas", .int v.maxReplicas)]

end Execution
end AiopsK8s
