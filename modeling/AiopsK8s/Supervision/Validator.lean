/-
# The command validator

`validator.py`: the allowlists, the Kubernetes name pattern and the replica
bounds that every structured action passes before it is executed, and the
command text of an accepted action.
-/

import AiopsK8s.Lib.Effect
import AiopsK8s.Supervision.Models

namespace AiopsK8s
namespace Supervision

open Effect (bind_eq_ok)

/-- `[a-z0-9]`. -/
def isNameEdge (c : Char) : Bool := ('a' ≤ c && c ≤ 'z') || ('0' ≤ c && c ≤ '9')

/-- `K8S_NAME_PATTERN.fullmatch`: one to sixty-three of `[-a-z0-9]`, the first
and the last not a hyphen. -/
def isK8sName (value : String) : Bool :=
  match value.toList with
  | [] => false
  | c :: rest =>
    isNameEdge c && (rest.isEmpty ||
      (rest.length ≤ 62 && rest.dropLast.all (fun c => isNameEdge c || c == '-') &&
        rest.getLast?.any isNameEdge))

/-- `CommandValidator`. -/
structure CommandValidator where
  allowedNamespaces : List String
  allowedDeployments : List String
  minReplicas : ℤ
  maxReplicas : ℤ
  deriving DecidableEq, Repr

namespace CommandValidator

variable (v : CommandValidator)

/-- `_validate_k8s_name`. -/
def validateK8sName (field value : String) : Except PyExn Unit :=
  if isK8sName value then .ok ()
  else .error (.valueError (field ++ " is not a valid Kubernetes name: " ++ value))

/-- The allowlist check of `_validate_target`. -/
def validateAllowed (field : String) (allowed : List String) (value : String) :
    Except PyExn Unit :=
  if allowed.contains value then .ok ()
  else .error (.valueError (field ++ " is not allowlisted: " ++ value))

/-- `_validate_target`. -/
def validateTarget (ns deployment : String) : Except PyExn Unit := do
  validateK8sName "namespace" ns
  validateK8sName "deployment" deployment
  validateAllowed "namespace" v.allowedNamespaces ns
  validateAllowed "deployment" v.allowedDeployments deployment

/-- `_validate_replicas`. -/
def validateReplicas (replicas : ℤ) : Except PyExn Unit :=
  if replicas < v.minReplicas ∨ v.maxReplicas < replicas then
    .error (.valueError ("replicas must be between " ++ toString v.minReplicas ++ " and " ++
      toString v.maxReplicas))
  else .ok ()

/-- The replica count of an action: required by `scale_out` only. -/
def validateActionReplicas (action : RecoveryAction) : Except PyExn Unit :=
  match action.kind, action.replicas with
  | .scaleOut, none => .error (.valueError "scale_out requires replicas")
  | .scaleOut, some replicas => v.validateReplicas replicas
  | _, some _ => .error (.valueError "only scale_out accepts replicas")
  | _, none => .ok ()

/-- `validate_recovery_action`. -/
def validateRecoveryAction (action : RecoveryAction) : Except PyExn RecoveryAction := do
  v.validateTarget action.ns action.deployment
  v.validateActionReplicas action
  return action

variable {v}

/-- The validator returns the action that it was given. -/
theorem validateRecoveryAction_eq {a b : RecoveryAction}
    (h : v.validateRecoveryAction a = .ok b) : b = a := by
  obtain ⟨_, _, h⟩ := bind_eq_ok h
  obtain ⟨_, _, h⟩ := bind_eq_ok h
  exact (Except.ok.inj h).symm

end CommandValidator

/-- `render_scale_command`. -/
def renderScaleCommand (ns deployment : String) (replicas : ℤ) : String :=
  "kubectl scale deployment " ++ deployment ++ " --replicas=" ++ toString replicas ++ " -n " ++ ns

/-- `render_recovery_command`. -/
def renderRecoveryCommand (action : RecoveryAction) : Except PyExn String :=
  match action.kind, action.replicas with
  | .observeOnly, _ =>
    .ok ("kubectl get deployment " ++ action.deployment ++ " -n " ++ action.ns ++ " -o json")
  | .rolloutRestart, _ =>
    .ok ("kubectl rollout restart deployment " ++ action.deployment ++ " -n " ++ action.ns)
  | .scaleOut, some replicas => .ok (renderScaleCommand action.ns action.deployment replicas)
  | .scaleOut, none => .error (.valueError "unsupported recovery action")

end Supervision
end AiopsK8s
