/-
# The answer of the guard

`_execute_with_go_guard` of `executor.py`: the guard process is given the request, its output is
read as a result, and the command of a valid result is read back by `validate_recovery_command`.

The cross-check throws away the action it has read, so it accepts the command of any allowed
action, in whatever mode the answer names (`validatesRequest_iff`).  The guard of this repository
answers with the command of its request (`answers_of_guard`).
-/

import AiopsK8s.Execution.CommandText
import AiopsK8s.Lib.JsonText

namespace AiopsK8s
namespace Execution

open Effect Supervision

/-- What the guard process leaves behind: its return code, its output and its error output. -/
structure GuardOutput where
  returnCode : ℤ
  stdout : String
  stderr : String

/-- `metadata` of a result of the guard. -/
def guardMetadata : List (String × String) :=
  [("guard_backend", "go"), ("go_guard", "aiops-guard")]

/-- `str(data.get("command", ""))`. -/
def answeredCommand (py : Python) (data : List (String × Json)) : String :=
  py.str (Json.getD data "command" (.str ""))

/-- `str(data.get("mode", self.mode.value))`. -/
def answeredMode (py : Python) (mode : ExecutionMode) (data : List (String × Json)) : String :=
  py.str (Json.getD data "mode" (.str mode.value))

/-- `bool(data.get("valid", False)) and return_code == 0`. -/
def answeredValid (returnCode : ℤ) (data : List (String × Json)) : Bool :=
  (Json.getD data "valid" (.bool false)).truthy && returnCode == 0

section Answer

variable (py : Python) (d : Decimals) (v : CommandValidator) (mode : ExecutionMode)

/-- The result of an answer that is a mapping. -/
def resultOfAnswer (out : GuardOutput) (data : List (String × Json)) : CommandResult :=
  ⟨answeredCommand py data, answeredMode py mode data, answeredValid out.returnCode data,
    py.str (Json.getD data "stdout" (.str "")),
    py.str (Json.getD data "stderr" (.str out.stderr)), guardMetadata⟩

/-- What `_parse_go_guard_result` makes of a document.  `json.loads` raises a `ValueError` for a
number of more than 4300 digits, and a document that is no mapping has no `get`. -/
def readAnswer (out : GuardOutput) (document : Json) : Except PyExn CommandResult :=
  if document.hasLongInteger then
    .error (.valueError "Exceeds the limit (4300 digits) for integer string conversion")
  else
    match document with
    | .obj data => .ok (resultOfAnswer py mode out data)
    | _ => .error ⟨.other, "object has no attribute 'get'"⟩

/-- `_parse_go_guard_result`. -/
def parseGoGuardResult (fallbackCommand : String) (out : GuardOutput) :
    Except PyExn CommandResult :=
  if out.stdout = "" then
    .ok ⟨fallbackCommand, mode.value, false, "",
      if out.stderr = "" then "Go guard exited with code " ++ toString out.returnCode
      else out.stderr, guardMetadata⟩
  else
    match JsonText.loads py out.stdout with
    | none => .ok ⟨fallbackCommand, mode.value, false, "",
        "Go guard returned invalid JSON: " ++ out.stdout, guardMetadata⟩
    | some document => readAnswer py mode out document

/-- `_cross_validate_go_guard_result`: only a `CommandValidationError` is caught. -/
def crossValidateGoGuardResult (result : CommandResult) : Except PyExn CommandResult :=
  if result.valid = false then .ok result
  else
    match validateRecoveryCommand d v result.command with
    | .ok _ => .ok result
    | .error (.rejected text) =>
        .ok { result with valid := false, stderr := "Python-Go cross-check failed: " ++ text }
    | .error .unreadable =>
        .error (.valueError "Exceeds the limit (4300 digits) for integer string conversion")

/-- `_execute_with_go_guard`, after the guard process. -/
def goGuardResult (fallbackCommand : String) (out : GuardOutput) : Except PyExn CommandResult := do
  let result ← parseGoGuardResult py mode fallbackCommand out
  crossValidateGoGuardResult d v result

/-- `KubernetesExecutor` with the Go backend and its guard process.  The request is written with
`json.dumps`, which refuses a number of more than 4300 digits. -/
def goExecutor {σ : Type} (runner : List String → Eff σ PyExn (ℤ × String × String))
    (guard : List (String × Json) → Eff σ PyExn GuardOutput) : CommandExecutor σ where
  validator := v
  mode := mode
  backend := .go
  runner := runner
  goGuard request fallbackCommand := do
    Eff.ofExcept (rejectIf (Json.hasLongField request = true)
      (.valueError "Exceeds the limit (4300 digits) for integer string conversion"))
    let out ← guard request
    Eff.ofExcept (goGuardResult py d v mode fallbackCommand out)

end Answer

/-- The two actions do the same to the same deployment. -/
def SameRecovery (b a : RecoveryAction) : Prop :=
  b.kind = a.kind ∧ b.ns = a.ns ∧ b.deployment = a.deployment ∧ b.replicas = a.replicas

/-- A valid result carries out the request in the mode of the executor. -/
def ValidatesRequest {σ : Type} (d : Decimals) (e : CommandExecutor σ) (j : Journal σ)
    (a : RecoveryAction) : Prop :=
  ∀ result j', (e.executeRecovery a).run j = (.ok result, j') → result.valid = true →
    (∃ b, validateRecoveryCommand d e.validator result.command = .ok b ∧ SameRecovery b a) ∧
      result.mode = e.mode.value

/-- A usable answer whose command has the tokens of an allowed action has those of the request,
and it names no other mode. -/
def AnswersRequest (py : Python) (d : Decimals) (v : CommandValidator) (mode : ExecutionMode)
    (a : RecoveryAction) (out : GuardOutput) : Prop :=
  ∀ data, JsonText.loads py out.stdout = some (.obj data) → Json.hasLongField data = false →
    answeredValid out.returnCode data = true → ∀ parts b,
      Shlex.split (answeredCommand py data) = .ok parts → Denotes d parts b → Targeted v b →
        ReplicasAllowed v b → SameRecovery b a ∧ answeredMode py mode data = mode.value

section Result

variable {py : Python} {d : Decimals} {v : CommandValidator} {mode : ExecutionMode}
variable {fallbackCommand : String} {out : GuardOutput} {result : CommandResult}

/-- A result that passes the cross-check as valid is the one that was read. -/
theorem crossValidate_valid_iff {parsed : CommandResult} :
    crossValidateGoGuardResult d v parsed = .ok result ∧ result.valid = true ↔
      result = parsed ∧ parsed.valid = true ∧
        ∃ b, validateRecoveryCommand d v parsed.command = .ok b := by
  unfold crossValidateGoGuardResult
  split_ifs with hinvalid
  · constructor
    · rintro ⟨h, hvalid⟩
      rw [← Except.ok.inj h, hinvalid] at hvalid
      cases hvalid
    · rintro ⟨-, hvalid, -⟩
      rw [hinvalid] at hvalid
      cases hvalid
  · have hvalid : parsed.valid = true := Bool.eq_true_of_not_eq_false hinvalid
    rcases hread : validateRecoveryCommand d v parsed.command with fault | b
    · refine iff_of_false ?_ fun h => by obtain ⟨-, -, b, hb⟩ := h; cases hb
      rintro ⟨h, hok⟩
      rcases fault with text | -
      · rw [← Except.ok.inj h] at hok
        cases hok
      · cases h
    · constructor
      · rintro ⟨h, -⟩
        exact ⟨(Except.ok.inj h).symm, hvalid, b, rfl⟩
      · rintro ⟨rfl, -, -⟩
        exact ⟨rfl, hvalid⟩

/-- A result that is read as valid is that of a usable answer. -/
theorem parse_valid_iff :
    parseGoGuardResult py mode fallbackCommand out = .ok result ∧ result.valid = true ↔
      ∃ data, JsonText.loads py out.stdout = some (.obj data) ∧ Json.hasLongField data = false ∧
        answeredValid out.returnCode data = true ∧ result = resultOfAnswer py mode out data := by
  have hempty : JsonText.loads py "" = none := rfl
  unfold parseGoGuardResult
  by_cases hstdout : out.stdout = ""
  · rw [if_pos hstdout, hstdout, hempty]
    constructor
    · rintro ⟨h, hvalid⟩
      rw [← Except.ok.inj h] at hvalid
      cases hvalid
    · rintro ⟨data, h, -⟩
      cases h
  · rw [if_neg hstdout]
    rcases hloads : JsonText.loads py out.stdout with - | document
    · constructor
      · rintro ⟨h, hvalid⟩
        rw [← Except.ok.inj h] at hvalid
        cases hvalid
      · rintro ⟨data, h, -⟩
        cases h
    · show readAnswer py mode out document = .ok result ∧ _ ↔ _
      unfold readAnswer
      constructor
      · rintro ⟨h, hvalid⟩
        split_ifs at h with hlong
        split at h
        · rename_i data
          obtain rfl := Except.ok.inj h
          exact ⟨data, rfl, by simpa [Json.hasLongInteger] using hlong, hvalid, rfl⟩
        · cases h
      · rintro ⟨data, hdata, hlong, hvalid, rfl⟩
        obtain rfl := Option.some.inj hdata
        have hshort : ¬(Json.obj data).hasLongInteger = true := by
          simpa [Json.hasLongInteger] using hlong
        rw [if_neg hshort]
        exact ⟨rfl, hvalid⟩

/-- **The valid results**: those of a usable answer with an accepted command. -/
theorem goGuardResult_valid_iff :
    goGuardResult py d v mode fallbackCommand out = .ok result ∧ result.valid = true ↔
      ∃ data, JsonText.loads py out.stdout = some (.obj data) ∧ Json.hasLongField data = false ∧
        answeredValid out.returnCode data = true ∧ result = resultOfAnswer py mode out data ∧
          ∃ b, validateRecoveryCommand d v (answeredCommand py data) = .ok b := by
  constructor
  · rintro ⟨h, hvalid⟩
    obtain ⟨parsed, hparsed, hcross⟩ := bind_eq_ok h
    obtain ⟨rfl, hvalid, hread⟩ := crossValidate_valid_iff.1 ⟨hcross, hvalid⟩
    obtain ⟨data, hloads, hlong, hanswered, rfl⟩ := parse_valid_iff.1 ⟨hparsed, hvalid⟩
    exact ⟨data, hloads, hlong, hanswered, rfl, hread⟩
  · rintro ⟨data, hloads, hlong, hanswered, rfl, hread⟩
    obtain ⟨hparsed, hvalid⟩ : parseGoGuardResult py mode fallbackCommand out =
        .ok (resultOfAnswer py mode out data) ∧ _ :=
      parse_valid_iff.2 ⟨data, hloads, hlong, hanswered, rfl⟩
    have hcross := crossValidate_valid_iff.2 ⟨rfl, hvalid, hread⟩
    unfold goGuardResult
    rw [hparsed]
    exact hcross

end Result

section Executor

variable {σ : Type} (py : Python) (d : Decimals) (v : CommandValidator) (mode : ExecutionMode)
variable (runner : List String → Eff σ PyExn (ℤ × String × String))
variable (guard : List (String × Json) → Eff σ PyExn GuardOutput) (j : Journal σ)
variable {a : RecoveryAction} {result : CommandResult}

/-- The result of a request that the guard was given. -/
theorem run_goGuard {request : List (String × Json)} {fallbackCommand : String} {env : σ} :
    (((goExecutor py d v mode runner guard).goGuard request fallbackCommand).run env).1 =
        .ok result ↔
      Json.hasLongField request = false ∧ ∃ out env', (guard request).run env = (.ok out, env') ∧
        goGuardResult py d v mode fallbackCommand out = .ok result := by
  show ((Eff.ofExcept (rejectIf (Json.hasLongField request = true) _) >>= fun _ =>
    guard request >>= fun out =>
      Eff.ofExcept (goGuardResult py d v mode fallbackCommand out)).run env).1 = _ ↔ _
  rw [Eff.run_bind, Eff.run_ofExcept]
  by_cases hlong : Json.hasLongField request = true
  · rw [rejectIf, if_pos hlong]
    refine iff_of_false (fun h => by cases h) fun h => ?_
    rw [hlong] at h
    cases h.1
  · rw [rejectIf, if_neg hlong]
    show ((guard request >>= fun out =>
      Eff.ofExcept (goGuardResult py d v mode fallbackCommand out)).run env).1 = _ ↔ _
    rw [Eff.run_bind]
    rcases hrun : (guard request).run env with ⟨e | out, env'⟩
    · refine iff_of_false (fun h => by cases h) ?_
      rintro ⟨-, out, env', h, -⟩
      cases h
    · constructor
      · intro h
        exact ⟨Bool.eq_false_iff.2 hlong, out, env', rfl, h⟩
      · rintro ⟨-, out, env', h, hresult⟩
        cases h
        exact hresult

/-- What `execute_recovery` returns with the Go backend. -/
theorem run_executeRecovery_go (haccepts : Accepts v a) :
    ∃ command, ((∃ j', ((goExecutor py d v mode runner guard).executeRecovery a).run j =
        (.ok result, j')) ↔
      Json.hasLongField (goGuardRequest mode v a) = false ∧
        ∃ out env', (guard (goGuardRequest mode v a)).run j.env = (.ok out, env') ∧
          goGuardResult py d v mode command out = .ok result) := by
  obtain ⟨command, route, hcommand, hroute⟩ :=
    exists_route_of_accepted (e := goExecutor py d v mode runner guard) haccepts
  have hvalid : (goExecutor py d v mode runner guard).validator.validateRecoveryAction a = .ok a :=
    haccepts
  obtain rfl : Route.goGuard (goGuardRequest mode v a) = route := Except.ok.inj hroute
  refine ⟨command, ?_⟩
  rw [run_executeRecovery hvalid hcommand, run_carryOut hroute]
  refine Iff.trans ?_ (run_goGuard py d v mode runner guard)
  constructor
  · rintro ⟨j', h⟩
    exact (Prod.mk.inj h).1
  · intro h
    exact ⟨_, Prod.ext h rfl⟩

/-- **When a valid result carries out its request**: the answer of the guard, if it is usable and
its command is allowed, is an answer to the request. -/
theorem validatesRequest_iff (a : RecoveryAction) :
    ValidatesRequest d (goExecutor py d v mode runner guard) j a ↔
      (Accepts v a → Json.hasLongField (goGuardRequest mode v a) = false →
        ∀ out env', (guard (goGuardRequest mode v a)).run j.env = (.ok out, env') →
          AnswersRequest py d v mode a out) := by
  constructor
  · intro h haccepts hrequest out env' hguard data hloads hlong hanswered parts b hsplit hdenotes
      htarget hallowed
    have hread : validateRecoveryCommand d v (answeredCommand py data) =
        .ok { b with reason := templateReason b.kind } :=
      validateRecoveryCommand_iff.2 ⟨rfl, htarget, hallowed, parts, hsplit, hdenotes⟩
    obtain ⟨command, hrun⟩ := run_executeRecovery_go py d v mode runner guard j haccepts
    obtain ⟨hresult, hvalid⟩ : goGuardResult py d v mode command out =
        .ok (resultOfAnswer py mode out data) ∧ _ :=
      goGuardResult_valid_iff.2 ⟨data, hloads, hlong, hanswered, rfl, _, hread⟩
    obtain ⟨j', hj⟩ := hrun.2 ⟨hrequest, out, env', hguard, hresult⟩
    obtain ⟨⟨b', hread', hsame⟩, hmode⟩ := h _ j' hj hvalid
    obtain rfl := Except.ok.inj (hread'.symm.trans hread)
    exact ⟨hsame, hmode⟩
  · intro h result j' hrun hvalid
    have haccepts : Accepts v a := by
      obtain ⟨validated, _, hvalidator, -⟩ := Eff.run_bind_ok hrun
      have hok : v.validateRecoveryAction a = .ok validated := (Prod.mk.inj hvalidator).1
      obtain rfl := CommandValidator.validateRecoveryAction_eq hok
      exact hok
    obtain ⟨command, hresult⟩ := run_executeRecovery_go py d v mode runner guard j haccepts
    obtain ⟨hrequest, out, env', hguard, hresult⟩ := hresult.1 ⟨j', hrun⟩
    obtain ⟨data, hloads, hlong, hanswered, rfl, b, hread⟩ :=
      goGuardResult_valid_iff.1 ⟨hresult, hvalid⟩
    obtain ⟨-, htarget, hallowed, parts, hsplit, hdenotes⟩ := validateRecoveryCommand_iff.1 hread
    obtain ⟨hsame, hmode⟩ := h haccepts hrequest out env' hguard data hloads hlong hanswered parts b
      hsplit hdenotes htarget hallowed
    exact ⟨⟨b, hread, hsame⟩, hmode⟩

end Executor

/-- Under a guard that answers the request to observe with a restart, the result is valid. -/
theorem other_command_not_validatesRequest :
    ¬∀ (py : Python) (d : UnicodeDecimals) (v : CommandValidator) (mode : ExecutionMode)
      (guard : List (String × Json) → Eff Unit PyExn GuardOutput) (j : Journal Unit)
      (a : RecoveryAction), ValidatesRequest d.toDecimals
        (goExecutor py d.toDecimals v mode (fun _ => pure (0, "", "")) guard) j a := by
  intro h
  have hvalidates := h .ascii .ascii ⟨["shop"], ["cart"], 1, 5⟩ .mock
    (fun _ => pure ⟨0, "\x7b\"valid\": true, \"command\": " ++
      "\"kubectl rollout restart deployment cart -n shop\"\x7d", ""⟩)
    ⟨(), []⟩ ⟨"shop", "cart", .observeOnly, none, ""⟩
  obtain ⟨⟨b, hread, hkind, -⟩, -⟩ := hvalidates
    ⟨"kubectl rollout restart deployment cart -n shop", "mock", true, "", "", guardMetadata⟩ _
    (Prod.ext (by decide +kernel) rfl) rfl
  have hrestart : validateRecoveryCommand .ascii ⟨["shop"], ["cart"], 1, 5⟩
      "kubectl rollout restart deployment cart -n shop" =
        .ok ⟨"shop", "cart", .rolloutRestart, none, templateReason .rolloutRestart⟩ := by
    decide +kernel
  obtain rfl := Except.ok.inj (hrestart.symm.trans hread)
  cases hkind

/-! ### The guard of the repository -/

/-- The document that `writeResult` writes of a result. -/
def guardAnswer (result : Guard.Result) : List (String × Json) :=
  [("command", .str result.command), ("mode", .str result.mode), ("valid", .bool result.valid),
    ("stdout", .str result.stdout), ("stderr", .str result.stderr)]

section Guard

variable {mode : ExecutionMode} {v : CommandValidator} {a : RecoveryAction}
variable {trim : String → String} {runner : Guard.Runner} {req : Guard.Request}

/-- A valid result of the guard has the command of an accepted request. -/
theorem execute_valid (h : (Guard.execute trim runner req).1.valid = true) :
    ∃ args, Guard.buildKubectlArgs req = .ok args ∧
      (Guard.execute trim runner req).1.command = " ".intercalate args ∧
        (Guard.execute trim runner req).1.mode = req.mode := by
  unfold Guard.execute at h ⊢
  rcases hbuild : Guard.buildKubectlArgs req with message | args
  · rw [hbuild] at h
    cases h
  · refine ⟨args, rfl, ?_⟩
    by_cases hmock : req.mode = "mock"
    · simp only [if_pos hmock, and_self]
    · simp only [if_neg hmock, and_self]

/-- The tokens of an action denote no other action. -/
theorem sameRecovery_of_denotes {d : UnicodeDecimals} {argv : List String} {b : RecoveryAction}
    (hallowed : ReplicasAllowed v a) (hcount : ∀ n, a.replicas = some n → 0 ≤ n)
    (hargv : recoveryArgv a = .ok argv) (hdenotes : Denotes d.toDecimals (modeArgv mode a argv) b) :
    SameRecovery b a := by
  obtain ⟨hobserve, hrollout, hscale⟩ := argv_eq_tokens hargv
  have hdry : MaybeDryRun argv (modeArgv mode a argv) := by
    unfold modeArgv
    split_ifs
    · exact .inr rfl
    · exact .inl rfl
  unfold ReplicasAllowed at hallowed
  cases hkind : a.kind with
  | observeOnly =>
    have hmode : modeArgv mode a argv = argv := if_neg fun h => h.2 hkind
    rw [hmode, hobserve hkind, denotes_observe] at hdenotes
    rw [hkind, if_neg (by decide)] at hallowed
    obtain ⟨hb, hreplicas, hdeployment, hns⟩ := hdenotes
    exact ⟨hb.trans hkind.symm, hns, hdeployment, hreplicas.trans hallowed.symm⟩
  | rolloutRestart =>
    rw [hrollout hkind] at hdry hdenotes
    obtain ⟨hb, hreplicas, hdeployment, hns⟩ := (denotes_rollout hdry).1 hdenotes
    rw [hkind, if_neg (by decide)] at hallowed
    exact ⟨hb.trans hkind.symm, hns, hdeployment, hreplicas.trans hallowed.symm⟩
  | scaleOut =>
    obtain ⟨n, hn, rfl⟩ := hscale hkind
    obtain ⟨m, rfl⟩ := Int.eq_ofNat_of_zero_le (hcount n hn)
    obtain ⟨hb, hdeployment, hns, -, n', hint, hreplicas⟩ := (denotes_scale hdry).1 hdenotes
    rw [toString_natCast] at hint
    unfold Decimals.toInt at hint
    split_ifs at hint
    rw [d.value_toString] at hint
    exact ⟨hb.trans hkind.symm, hns, hdeployment, by rw [hreplicas, hn, ← hint]⟩

/-- **The guard answers its request**: its own output meets the condition of a valid result. -/
theorem answers_of_guard (py : Python) (d : UnicodeDecimals) {out : GuardOutput}
    (hread : Guard.unmarshal (goGuardRequest mode v a) = some req)
    (hout : JsonText.loads py out.stdout =
      some (.obj (guardAnswer (Guard.execute trim runner req).1))) :
    AnswersRequest py d.toDecimals v mode a out := by
  intro data hloads _ hanswered parts b hsplit hdenotes _ _
  obtain rfl : guardAnswer (Guard.execute trim runner req).1 = data :=
    Json.obj.inj (Option.some.inj (hout.symm.trans hloads))
  have hvalid : (Guard.execute trim runner req).1.valid = true :=
    ((Bool.and_eq_true _ _).mp hanswered).1
  obtain ⟨args, hbuild, hcommand, hmode⟩ := execute_valid hvalid
  obtain ⟨-, rfl⟩ := unmarshal_goGuardRequest.1 hread
  obtain ⟨⟨⟩, hvalidate, -⟩ := bind_eq_ok hbuild
  obtain ⟨htarget, hallowed, hmin⟩ := guardValidate_eq_ok.1 hvalidate
  obtain ⟨-, argv, -, hargv⟩ := exists_argv hallowed
  obtain rfl : modeArgv mode a argv = args :=
    Except.ok.inj ((buildKubectlArgs_readRequest hvalidate hargv).symm.trans hbuild)
  have hcount : ∀ n, a.replicas = some n → 0 ≤ n := by
    intro n hn
    unfold ReplicasAllowed at hallowed
    split_ifs at hallowed with hkind
    · obtain ⟨r, hr, hle, -⟩ := hallowed
      obtain rfl : r = n := Option.some.inj (hr.symm.trans hn)
      have := hmin hkind
      omega
    · rw [hallowed] at hn
      cases hn
  have hwords : ∀ word ∈ modeArgv mode a argv, Shlex.IsWord word := by
    have hdry : Shlex.IsWord "--dry-run=server" := by decide +kernel
    have hargvWords := isWord_of_argv htarget hargv hcount
    unfold modeArgv
    split_ifs
    · exact List.forall_mem_append.2 ⟨hargvWords, List.forall_mem_singleton.2 hdry⟩
    · exact hargvWords
  have hown : Shlex.split (answeredCommand py (guardAnswer (Guard.execute trim runner
      (readRequest mode v a)).1)) = .ok (modeArgv mode a argv) := by
    rw [← Shlex.split_intercalate hwords, ← hcommand]
    rfl
  obtain rfl : modeArgv mode a argv = parts := Except.ok.inj (hown.symm.trans hsplit)
  exact ⟨sameRecovery_of_denotes hallowed hcount hargv hdenotes, hmode⟩

end Guard

end Execution
end AiopsK8s
