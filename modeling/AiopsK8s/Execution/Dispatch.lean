/-
# Handing a command over

`KubernetesExecutor` of `executor.py` with both of its backends and with runners that
keep a state.  What was handed over is recorded before the runner or the guard is
called: the action, and the command text, the argument vector or the request that
carries it.  `Executor` has the same `execute_recovery` for a runner without a state
(`executeRecovery_pure`).
-/

import AiopsK8s.Execution.Executor

namespace AiopsK8s
namespace Execution

open Effect Supervision

/-- How a command leaves the executor. -/
inductive Route where
  | mock (command : String)
  | kubectl (argv : List String)
  | goGuard (request : List (String × Json))

/-- A command that was handed over, with the action it carries out. -/
structure Dispatch where
  action : RecoveryAction
  route : Route

/-- The state of the runners and what was handed over so far. -/
structure Journal (σ : Type) where
  env : σ
  dispatched : List Dispatch

namespace Journal

variable {σ α : Type}

/-- Nothing was handed over. -/
def start (env : σ) : Journal σ := ⟨env, []⟩

/-- A call into the environment. -/
def call (m : Eff σ PyExn α) : Eff (Journal σ) PyExn α :=
  Eff.zoom Journal.env (fun env j => { j with env }) m

/-- Note what is handed over. -/
def note (d : Dispatch) : Eff (Journal σ) PyExn Unit :=
  Eff.modify fun j => { j with dispatched := j.dispatched ++ [d] }

end Journal

/-- `KubernetesExecutor`, with runners that keep a state. -/
structure CommandExecutor (σ : Type) where
  validator : CommandValidator
  mode : ExecutionMode
  backend : ExecutionBackend
  runner : List String → Eff σ PyExn (ℤ × String × String)
  goGuard : List (String × Json) → String → Eff σ PyExn CommandResult

/-- `ScaleAction`. -/
structure ScaleAction where
  ns : String
  deployment : String
  replicas : ℤ
  reason : String
  deriving DecidableEq

/-- The scale-out that a scale action is. -/
def ScaleAction.toRecoveryAction (a : ScaleAction) : RecoveryAction :=
  ⟨a.ns, a.deployment, .scaleOut, some a.replicas, a.reason⟩

/-- `validate_scale_action`. -/
def validateScaleAction (v : CommandValidator) (action : ScaleAction) :
    Except PyExn ScaleAction := do
  v.validateTarget action.ns action.deployment
  v.validateReplicas action.replicas
  return action

namespace CommandExecutor

variable {σ : Type} (e : CommandExecutor σ)

/-- The argument vector of an action in the mode. -/
def argv (action : RecoveryAction) : Except PyExn (List String) := do
  let argv ← recoveryArgv action
  if e.mode = .dryRun ∧ action.kind ≠ .observeOnly then return argv ++ ["--dry-run=server"]
  return argv

/-- How the command of a validated action leaves the executor. -/
def route (action : RecoveryAction) (command : String) : Except PyExn Route :=
  if e.backend = .go then .ok (.goGuard (goGuardRequest e.mode e.validator action))
  else if e.mode = .mock then .ok (.mock command)
  else .kubectl <$> e.argv action

/-- `_mock_result`. -/
def mockResult (command : String) : CommandResult :=
  ⟨command, e.mode.value, true, "mock: 명령어를 검증했으며 실제 실행하지 않았습니다", "", []⟩

/-- What comes back from a route: `_mock_result`, `_run`, `_execute_with_go_guard`. -/
def answer (command : String) : Route → Eff σ PyExn CommandResult
  | .mock command => pure (e.mockResult command)
  | .kubectl argv => do
      let (returnCode, stdout, stderr) ← e.runner argv
      return ⟨command, e.mode.value, returnCode == 0, stdout, stderr, []⟩
  | .goGuard request => e.goGuard request command

/-- The part of `execute_scale` and `execute_recovery` after the validator. -/
def carryOut (action : RecoveryAction) (command : String) :
    Eff (Journal σ) PyExn CommandResult := do
  let route ← Eff.ofExcept (e.route action command)
  Journal.note ⟨action, route⟩
  Journal.call (e.answer command route)

/-- `execute_scale`. -/
def executeScale (action : ScaleAction) : Eff (Journal σ) PyExn CommandResult := do
  let validated ← Eff.ofExcept (validateScaleAction e.validator action)
  e.carryOut validated.toRecoveryAction
    (renderScaleCommand validated.ns validated.deployment validated.replicas)

/-- `execute_recovery`. -/
def executeRecovery (action : RecoveryAction) : Eff (Journal σ) PyExn CommandResult := do
  let validated ← Eff.ofExcept (e.validator.validateRecoveryAction action)
  let command ← Eff.ofExcept (renderRecoveryCommand validated)
  e.carryOut validated command

end CommandExecutor

/-! ### What was handed over -/

section Handed

variable {σ : Type} {e : CommandExecutor σ} {j j' : Journal σ}

theorem dispatched_call {α : Type} {m : Eff σ PyExn α} {r : Except PyExn α}
    (h : (Journal.call m).run j = (r, j')) : j'.dispatched = j.dispatched := by
  rw [Journal.call, Eff.run_zoom] at h
  obtain ⟨-, rfl⟩ := Prod.mk.inj h
  rfl

/-- **What is handed over** for a validated action is that action on its route, once. -/
theorem dispatched_carryOut {action : RecoveryAction} {command : String}
    {r : Except PyExn CommandResult} (h : (e.carryOut action command).run j = (r, j')) :
    (∃ exc, e.route action command = .error exc ∧ j'.dispatched = j.dispatched) ∨
      ∃ route, e.route action command = .ok route ∧
        j'.dispatched = j.dispatched ++ [⟨action, route⟩] := by
  unfold CommandExecutor.carryOut at h
  rcases hroute : e.route action command with exc | route
  · rw [hroute, Eff.run_bind, Eff.run_ofExcept] at h
    obtain ⟨-, rfl⟩ := Prod.mk.inj h
    exact .inl ⟨exc, rfl, rfl⟩
  · rw [hroute, Eff.run_bind, Eff.run_ofExcept] at h
    refine .inr ⟨route, rfl, ?_⟩
    have hcall := dispatched_call h
    exact hcall

theorem validateScaleAction_eq {v : CommandValidator} {a b : ScaleAction}
    (h : validateScaleAction v a = .ok b) : b = a := by
  obtain ⟨_, _, h⟩ := bind_eq_ok h
  obtain ⟨_, _, h⟩ := bind_eq_ok h
  exact (Except.ok.inj h).symm

theorem exists_argv_scale (a : ScaleAction) : ∃ argv, e.argv a.toRecoveryAction = .ok argv := by
  simp only [CommandExecutor.argv, recoveryArgv, ScaleAction.toRecoveryAction, bind, Except.bind]
  by_cases hdry : e.mode = .dryRun
  · exact ⟨_, if_pos ⟨hdry, by decide⟩⟩
  · exact ⟨_, if_neg fun h => hdry h.1⟩

/-- A scale action has a route in every mode and for both backends. -/
theorem exists_route_scale (a : ScaleAction) (command : String) :
    ∃ route, e.route a.toRecoveryAction command = .ok route := by
  obtain ⟨argv, hargv⟩ := exists_argv_scale (e := e) a
  unfold CommandExecutor.route
  split_ifs
  · exact ⟨_, rfl⟩
  · exact ⟨_, rfl⟩
  · exact ⟨.kubectl argv, by rw [hargv]; rfl⟩

/-- **`execute_scale` hands over** the action that the validator accepts, and nothing for an
action that it rejects. -/
theorem dispatched_executeScale {action : ScaleAction} {r : Except PyExn CommandResult}
    (h : (e.executeScale action).run j = (r, j')) :
    ((∃ exc, validateScaleAction e.validator action = .error exc) ∧
        j'.dispatched = j.dispatched) ∨
      (validateScaleAction e.validator action = .ok action ∧
        ∃ route, e.route action.toRecoveryAction
            (renderScaleCommand action.ns action.deployment action.replicas) = .ok route ∧
          j'.dispatched = j.dispatched ++ [⟨action.toRecoveryAction, route⟩]) := by
  unfold CommandExecutor.executeScale at h
  rcases hvalid : validateScaleAction e.validator action with exc | validated
  · rw [hvalid, Eff.run_bind, Eff.run_ofExcept] at h
    obtain ⟨-, rfl⟩ := Prod.mk.inj h
    exact .inl ⟨⟨exc, rfl⟩, rfl⟩
  · obtain rfl := validateScaleAction_eq hvalid
    rw [hvalid, Eff.run_bind, Eff.run_ofExcept] at h
    refine .inr ⟨rfl, ?_⟩
    rcases dispatched_carryOut h with ⟨exc, hroute, -⟩ | ⟨route, hroute, hj⟩
    · obtain ⟨route, hok⟩ := exists_route_scale (e := e) validated
        (renderScaleCommand validated.ns validated.deployment validated.replicas)
      rw [hok] at hroute
      cases hroute
    · exact ⟨route, hroute, hj⟩

theorem run_carryOut {action : RecoveryAction} {command : String} {route : Route}
    (hroute : e.route action command = .ok route) :
    (e.carryOut action command).run j = (((e.answer command route).run j.env).1,
      ⟨((e.answer command route).run j.env).2, j.dispatched ++ [⟨action, route⟩]⟩) := by
  unfold CommandExecutor.carryOut
  rw [hroute]
  rfl

theorem run_executeRecovery {action : RecoveryAction} {command : String}
    (hvalid : e.validator.validateRecoveryAction action = .ok action)
    (hcommand : renderRecoveryCommand action = .ok command) :
    (e.executeRecovery action).run j = (e.carryOut action command).run j := by
  unfold CommandExecutor.executeRecovery
  rw [hvalid, Eff.run_bind, Eff.run_ofExcept]
  show ((Eff.ofExcept (renderRecoveryCommand action) >>= fun command =>
    e.carryOut action command).run j) = _
  rw [hcommand]
  rfl

/-- The argument vectors that a list of commands hands to `kubectl`. -/
def kubectlArgs (handed : List Dispatch) : List (List String) :=
  handed.filterMap fun d => match d.route with
    | .kubectl argv => some argv
    | _ => none

/-- **One executor**: with a runner without a state, the Python backend returns the result of
`KubernetesExecutor.executeRecovery` and hands over what that ran. -/
theorem executeRecovery_pure {k : KubernetesExecutor} {action : RecoveryAction}
    (hvalidator : e.validator = k.validator) (hmode : e.mode = k.mode)
    (hbackend : e.backend = .python) (hrunner : ∀ argv, e.runner argv = pure (k.runner argv))
    {outcome : Outcome} (houtcome : k.executeRecovery action = .ok outcome) :
    ∃ handed : List Dispatch,
      (e.executeRecovery action).run j =
        (.ok outcome.result, { j with dispatched := j.dispatched ++ handed }) ∧
      kubectlArgs handed = outcome.ran := by
  unfold KubernetesExecutor.executeRecovery at houtcome
  obtain ⟨validated, hvalid, hrest⟩ := bind_eq_ok houtcome
  obtain rfl := CommandValidator.validateRecoveryAction_eq hvalid
  obtain ⟨command, hcommand, hmode'⟩ := bind_eq_ok hrest
  rw [← hvalidator] at hvalid
  rw [run_executeRecovery hvalid hcommand]
  by_cases hmock : k.mode = .mock
  · rw [if_pos hmock] at hmode'
    obtain rfl := Except.ok.inj hmode'
    have hroute : e.route validated command = .ok (.mock command) := by
      simp [CommandExecutor.route, hbackend, hmode, hmock]
    refine ⟨[⟨validated, .mock command⟩], ?_, rfl⟩
    rw [run_carryOut hroute, CommandExecutor.answer, CommandExecutor.mockResult, hmode]
    rfl
  · rw [if_neg hmock] at hmode'
    obtain ⟨argv, hargv, hran⟩ := bind_eq_ok hmode'
    have hrun : ∃ full, e.route validated command = .ok (.kubectl full) ∧
        k.run command full = outcome := by
      by_cases hdry : k.mode = .dryRun ∧ validated.kind ≠ .observeOnly
      · rw [if_pos hdry] at hran
        refine ⟨argv ++ ["--dry-run=server"], ?_, Except.ok.inj hran⟩
        simp [CommandExecutor.route, CommandExecutor.argv, hbackend, hmode, hargv, hdry, bind,
          Except.bind, pure, Except.pure]
      · rw [if_neg hdry] at hran
        refine ⟨argv, ?_, Except.ok.inj hran⟩
        simp [CommandExecutor.route, CommandExecutor.argv, hbackend, hmode, hmock, hargv, hdry, bind,
          Except.bind, pure, Except.pure]
    obtain ⟨full, hroute, rfl⟩ := hrun
    refine ⟨[⟨validated, .kubectl full⟩], ?_, rfl⟩
    rw [run_carryOut hroute, CommandExecutor.answer, hrunner, KubernetesExecutor.run, hmode]
    rfl

/-- An accepted action has a command and a route. -/
theorem exists_route_of_accepted {action : RecoveryAction}
    (h : e.validator.validateRecoveryAction action = .ok action) :
    ∃ command route, renderRecoveryCommand action = .ok command ∧
      e.route action command = .ok route := by
  have hsome : ∃ command argv, renderRecoveryCommand action = .ok command ∧
      e.argv action = .ok argv := by
    obtain ⟨_, -, h⟩ := bind_eq_ok h
    obtain ⟨_, hreplicas, -⟩ := bind_eq_ok h
    obtain ⟨ns, deployment, kind, replicas, reason⟩ := action
    unfold CommandValidator.validateActionReplicas at hreplicas
    unfold renderRecoveryCommand CommandExecutor.argv recoveryArgv
    by_cases hdry : e.mode = .dryRun ∧ kind ≠ .observeOnly
    · rcases kind with _ | _ | _ <;> rcases replicas with _ | replicas <;>
        simp_all [bind, Except.bind, pure, Except.pure]
    · rcases kind with _ | _ | _ <;> rcases replicas with _ | replicas <;>
        simp_all [bind, Except.bind, pure, Except.pure]
  obtain ⟨command, argv, hcommand, hargv⟩ := hsome
  refine ⟨command, ?_⟩
  unfold CommandExecutor.route
  split_ifs
  · exact ⟨_, hcommand, rfl⟩
  · exact ⟨_, hcommand, rfl⟩
  · exact ⟨.kubectl argv, hcommand, by rw [hargv]; rfl⟩

/-- **`execute_recovery` hands over** an action that the validator accepts, once. -/
theorem dispatched_executeRecovery {action : RecoveryAction} {r : Except PyExn CommandResult}
    (haccepted : e.validator.validateRecoveryAction action = .ok action)
    (h : (e.executeRecovery action).run j = (r, j')) :
    ∃ route, j'.dispatched = j.dispatched ++ [⟨action, route⟩] := by
  obtain ⟨command, route, hcommand, hroute⟩ := exists_route_of_accepted haccepted
  rw [run_executeRecovery haccepted hcommand] at h
  rcases dispatched_carryOut h with ⟨exc, herror, -⟩ | ⟨route, -, hj⟩
  · rw [hroute] at herror
    cases herror
  · exact ⟨route, hj⟩

end Handed

end Execution
end AiopsK8s
