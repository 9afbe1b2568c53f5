/-
# Reading a command back

`render_recovery_command` writes the command of an action and `validate_recovery_command` reads
one: it splits the text as a shell does, compares the tokens with three templates and passes the
action it has read to the validator.

What it accepts has the tokens of the argument vector of the action it returns, but for the count
of replicas: `str.isdecimal` and `int` take any decimal digits, with leading zeros or of another
script, where the executor writes a plain ASCII numeral (`readsBack_iff`).
-/

import AiopsK8s.Execution.Agreement
import AiopsK8s.Execution.Dispatch
import AiopsK8s.Execution.RecoveryMonitor
import AiopsK8s.Lib.Decimal
import AiopsK8s.Lib.Shlex

namespace AiopsK8s
namespace Execution

open Effect Supervision Shlex

/-- How a command is refused: by a `CommandValidationError`, or by the `ValueError` of `int`. -/
inductive CommandFault where
  | rejected (text : String)
  | unreadable
  deriving DecidableEq

namespace CommandFault

/-- A `CommandValidationError` that the validator raises. -/
def ofPyExn (e : PyExn) : CommandFault := .rejected e.text

end CommandFault

/-- `text.split("=", 1)[1]`. -/
def afterEquals (text : String) : String :=
  String.ofList ((text.toList.dropWhile fun c => c != '=').drop 1)

/-- `text.startswith("--replicas=")`. -/
def isReplicasToken (text : String) : Bool := "--replicas=".toList.isPrefixOf text.toList

/-- `_is_observe_command`. -/
def isObserveCommand (parts : List String) : Bool :=
  parts.length == 8 && parts.take 3 == ["kubectl", "get", "deployment"] &&
    parts[4]? == some "-n" && parts.drop 6 == ["-o", "json"]

/-- `_is_rollout_restart_command`. -/
def isRolloutRestartCommand (parts : List String) : Bool :=
  (parts.length == 7 || parts.length == 8) &&
    parts.take 4 == ["kubectl", "rollout", "restart", "deployment"] && parts[5]? == some "-n" &&
      (parts.length == 7 || parts[7]? == some "--dry-run=server")

/-- `_is_scale_command`. -/
def isScaleCommand (parts : List String) : Bool :=
  (parts.length == 7 || parts.length == 8) &&
    parts.take 3 == ["kubectl", "scale", "deployment"] && parts[4]?.any isReplicasToken &&
      parts[5]? == some "-n" && (parts.length == 7 || parts[7]? == some "--dry-run=server")

section Validate

variable (d : Decimals) (v : CommandValidator)

/-- The end of `validate_command`: the count, and the checks of the action. -/
def readScaleAction (deployment replicasText ns : String) : Except CommandFault ScaleAction := do
  rejectIf (d.isDecimal replicasText = false) (.rejected "replicas must be a positive integer")
  match d.toInt replicasText with
  | none => .error .unreadable
  | some replicas => (validateScaleAction v ⟨ns, deployment, replicas,
      "validated from an approved command template"⟩).mapError .ofPyExn

/-- `validate_command`. -/
def validateCommand (command : String) : Except CommandFault ScaleAction := do
  let parts ← (split command).mapError .rejected
  rejectIf (parts.length ≠ 7 ∧ parts.length ≠ 8)
    (.rejected "command must match the approved scale template")
  rejectIf (parts.take 3 ≠ ["kubectl", "scale", "deployment"])
    (.rejected "only kubectl scale deployment is allowed")
  rejectIf (parts[4]?.any isReplicasToken = false)
    (.rejected "replicas must use --replicas=<N>")
  rejectIf (parts[5]? ≠ some "-n") (.rejected "namespace must use -n <namespace>")
  rejectIf (parts.length = 8 ∧ parts[7]? ≠ some "--dry-run=server")
    (.rejected "dry-run must use --dry-run=server")
  readScaleAction d v (parts.getD 3 "") (afterEquals (parts.getD 4 "")) (parts.getD 6 "")

/-- `validate_recovery_command`. -/
def validateRecoveryCommand (command : String) : Except CommandFault RecoveryAction := do
  let parts ← (split command).mapError .rejected
  if isObserveCommand parts then
    (v.validateRecoveryAction ⟨parts.getD 5 "", parts.getD 3 "", .observeOnly, none,
      "validated from an approved observe command template"⟩).mapError .ofPyExn
  else if isRolloutRestartCommand parts then
    (v.validateRecoveryAction ⟨parts.getD 6 "", parts.getD 4 "", .rolloutRestart, none,
      "validated from an approved rollout restart command template"⟩).mapError .ofPyExn
  else if isScaleCommand parts then do
    let scaleAction ← validateCommand d v command
    return ⟨scaleAction.ns, scaleAction.deployment, .scaleOut, some scaleAction.replicas,
      "validated from an approved scale command template"⟩
  else .error (.rejected "command must match an approved recovery template")

end Validate

/-- `render_recovery_command`, whose text refuses a count of more than 4300 digits. -/
def renderedCommand (action : RecoveryAction) : Except PyExn String := do
  match action.kind, action.replicas with
  | .scaleOut, some replicas =>
    let _ ← integerText replicas
    renderRecoveryCommand action
  | _, _ => renderRecoveryCommand action

/-! ### What the reader accepts -/

/-- The tokens of a template, or of its dry run. -/
def MaybeDryRun (argv parts : List String) : Prop :=
  parts = argv ∨ parts = argv ++ ["--dry-run=server"]

/-- The template of `observe_only`. -/
def observeTokens (deployment ns : String) : List String :=
  ["kubectl", "get", "deployment", deployment, "-n", ns, "-o", "json"]

/-- The template of `rollout_restart`. -/
def rolloutTokens (deployment ns : String) : List String :=
  ["kubectl", "rollout", "restart", "deployment", deployment, "-n", ns]

/-- The template of `scale_out`. -/
def scaleTokens (deployment replicasText ns : String) : List String :=
  ["kubectl", "scale", "deployment", deployment, "--replicas=" ++ replicasText, "-n", ns]

theorem isObserveCommand_iff {parts : List String} :
    isObserveCommand parts = true ↔ ∃ deployment ns, parts = observeTokens deployment ns := by
  constructor
  · intro h
    simp only [isObserveCommand, Bool.and_eq_true, beq_iff_eq] at h
    obtain ⟨⟨⟨hlength, hfirst⟩, hflag⟩, hlast⟩ := h
    rcases parts with - | ⟨a, - | ⟨b, - | ⟨c, - | ⟨deployment, - | ⟨flag, - | ⟨ns, rest⟩⟩⟩⟩⟩⟩ <;>
      simp at hlength hfirst hflag hlast
    obtain ⟨rfl, rfl, rfl⟩ := hfirst
    exact ⟨deployment, ns, by rw [hflag, hlast]; rfl⟩
  · rintro ⟨deployment, ns, rfl⟩
    rfl

/-- What may follow a template. -/
theorem maybeDryRun_append {argv rest : List String} (hlength : rest = [] ∨ rest.length = 1)
    (hlast : rest = [] ∨ rest[0]? = some "--dry-run=server") :
    MaybeDryRun argv (argv ++ rest) := by
  rcases hlength with rfl | hone
  · exact .inl (List.append_nil argv)
  · obtain ⟨last, rfl⟩ := List.length_eq_one_iff.1 hone
    rcases hlast with hnil | hlast
    · cases hnil
    · obtain rfl : last = "--dry-run=server" := Option.some.inj hlast
      exact .inr rfl

theorem isRolloutRestartCommand_iff {parts : List String} :
    isRolloutRestartCommand parts = true ↔
      ∃ deployment ns, MaybeDryRun (rolloutTokens deployment ns) parts := by
  constructor
  · intro h
    simp only [isRolloutRestartCommand, Bool.and_eq_true, Bool.or_eq_true, beq_iff_eq] at h
    obtain ⟨⟨⟨hlength, hfirst⟩, hflag⟩, hlast⟩ := h
    rcases parts with
      - | ⟨a, - | ⟨b, - | ⟨c, - | ⟨e, - | ⟨deployment, - | ⟨flag, - | ⟨ns, rest⟩⟩⟩⟩⟩⟩⟩ <;>
      simp at hlength hfirst hflag hlast
    obtain ⟨rfl, rfl, rfl, rfl⟩ := hfirst
    rw [hflag]
    exact ⟨deployment, ns, maybeDryRun_append hlength hlast⟩
  · rintro ⟨deployment, ns, rfl | rfl⟩
    · rfl
    · rfl

theorem isReplicasToken_iff {token : String} :
    isReplicasToken token = true ↔ ∃ text, token = "--replicas=" ++ text := by
  rw [isReplicasToken, List.isPrefixOf_iff_prefix]
  constructor
  · rintro ⟨rest, hrest⟩
    have hchars : ("--replicas=" ++ String.ofList rest).toList = "--replicas=".toList ++ rest := by
      rw [String.toList_append, String.toList_ofList, String.toList_ofList]
    exact ⟨String.ofList rest, (String.toList_injective (hchars.trans hrest)).symm⟩
  · rintro ⟨text, rfl⟩
    rw [String.toList_append]
    exact List.prefix_append _ _

theorem afterEquals_append (text : String) : afterEquals ("--replicas=" ++ text) = text := by
  have hchars : ("--replicas=" ++ text).toList = "--replicas=".toList ++ text.toList :=
    String.toList_append
  rw [afterEquals, hchars]
  exact String.ofList_toList

theorem isScaleCommand_iff {parts : List String} :
    isScaleCommand parts = true ↔
      ∃ deployment text ns, MaybeDryRun (scaleTokens deployment text ns) parts := by
  constructor
  · intro h
    simp only [isScaleCommand, Bool.and_eq_true, Bool.or_eq_true, beq_iff_eq] at h
    obtain ⟨⟨⟨⟨hlength, hfirst⟩, htoken⟩, hflag⟩, hlast⟩ := h
    rcases parts with
      - | ⟨a, - | ⟨b, - | ⟨c, - | ⟨deployment, - | ⟨token, - | ⟨flag, - | ⟨ns, rest⟩⟩⟩⟩⟩⟩⟩ <;>
      simp at hlength hfirst hflag hlast htoken
    obtain ⟨rfl, rfl, rfl⟩ := hfirst
    obtain ⟨text, rfl⟩ := isReplicasToken_iff.1 htoken
    rw [hflag]
    exact ⟨deployment, text, ns, maybeDryRun_append hlength hlast⟩
  · rintro ⟨deployment, text, ns, hparts⟩
    have htoken := isReplicasToken_iff.2 ⟨text, rfl⟩
    rcases hparts with rfl | rfl <;> simp [isScaleCommand, scaleTokens, htoken]

/-- What an action says of the tokens it was read from. -/
def Denotes (d : Decimals) (parts : List String) (a : RecoveryAction) : Prop :=
  match a.kind with
  | .observeOnly => a.replicas = none ∧ parts = observeTokens a.deployment a.ns
  | .rolloutRestart => a.replicas = none ∧ MaybeDryRun (rolloutTokens a.deployment a.ns) parts
  | .scaleOut => ∃ text n, d.isDecimal text = true ∧ d.toInt text = some n ∧
      a.replicas = some n ∧ MaybeDryRun (scaleTokens a.deployment text a.ns) parts

/-- The reason that the reader gives. -/
def templateReason : RecoveryActionKind → String
  | .observeOnly => "validated from an approved observe command template"
  | .rolloutRestart => "validated from an approved rollout restart command template"
  | .scaleOut => "validated from an approved scale command template"

theorem mapError_eq_ok {ε ε' α : Type} {x : Except ε α} {f : ε → ε'} {a : α} :
    x.mapError f = .ok a ↔ x = .ok a := by
  rcases x with e | b
  · exact iff_of_false (fun h => by cases h) fun h => by cases h
  · exact ⟨fun h => by cases h; rfl, fun h => by cases h; rfl⟩

section Reading

variable {d : Decimals} {v : CommandValidator} {command : String} {parts : List String}

theorem validateScaleAction_iff {a : ScaleAction} :
    validateScaleAction v a = .ok a ↔
      Targeted v a.toRecoveryAction ∧ v.minReplicas ≤ a.replicas ∧ a.replicas ≤ v.maxReplicas := by
  have htarget : v.validateTarget a.ns a.deployment = .ok () ↔ Targeted v a.toRecoveryAction :=
    validateTarget_eq_ok (a := a.toRecoveryAction)
  have hreplicas : v.validateReplicas a.replicas = .ok () ↔
      v.minReplicas ≤ a.replicas ∧ a.replicas ≤ v.maxReplicas := by
    unfold CommandValidator.validateReplicas
    split_ifs with h
    · exact iff_of_false (fun h => by cases h) fun hin => by omega
    · exact iff_of_true rfl (by omega)
  rw [← htarget, ← hreplicas]
  constructor
  · intro h
    obtain ⟨⟨⟩, hfirst, h⟩ := bind_eq_ok h
    obtain ⟨⟨⟩, hsecond, -⟩ := bind_eq_ok h
    exact ⟨hfirst, hsecond⟩
  · rintro ⟨hfirst, hsecond⟩
    unfold validateScaleAction
    rw [hfirst, hsecond]
    rfl

/-- `validate_command` on the tokens of the scale template. -/
theorem validateCommand_eq (hsplit : split command = .ok parts) {deployment text ns : String}
    (hparts : MaybeDryRun (scaleTokens deployment text ns) parts) :
    validateCommand d v command = readScaleAction d v deployment text ns := by
  have htoken := isReplicasToken_iff.2 ⟨text, rfl⟩
  have hafter := afterEquals_append text
  unfold validateCommand
  rw [hsplit]
  rcases hparts with rfl | rfl <;>
    simp [scaleTokens, htoken, hafter, rejectIf, Except.mapError, bind, Except.bind]

theorem readScaleAction_iff {deployment text ns : String} {a : ScaleAction} :
    readScaleAction d v deployment text ns = .ok a ↔ d.isDecimal text = true ∧
      ∃ n, d.toInt text = some n ∧
        a = ⟨ns, deployment, n, "validated from an approved command template"⟩ ∧
          validateScaleAction v a = .ok a := by
  unfold readScaleAction
  constructor
  · intro h
    obtain ⟨⟨⟩, hdecimal, h⟩ := bind_eq_ok h
    rw [rejectIf_eq_ok, Bool.not_eq_false] at hdecimal
    rcases hint : d.toInt text with - | n
    · rw [hint] at h
      cases h
    · rw [hint] at h
      have hok := mapError_eq_ok.1 h
      have heq := validateScaleAction_eq hok
      exact ⟨hdecimal, n, rfl, heq, by rw [heq] at hok ⊢; exact hok⟩
  · rintro ⟨hdecimal, n, hint, rfl, hok⟩
    have hreject : rejectIf (d.isDecimal text = false)
        (CommandFault.rejected "replicas must be a positive integer") = .ok () := by
      rw [rejectIf_eq_ok, Bool.not_eq_false]
      exact hdecimal
    rw [hreject, hint]
    exact mapError_eq_ok.2 hok

/-- A template before its dry run. -/
theorem MaybeDryRun.take {argv : List String} (h : MaybeDryRun argv parts)
    (hlength : argv.length = 7) : parts.take 7 = argv := by
  rcases h with rfl | rfl
  · exact List.take_of_length_le hlength.le
  · rw [List.take_append_of_le_length hlength.ge, List.take_of_length_le hlength.le]

/-- The tokens of one template are not those of another. -/
theorem denotes_observe {deployment ns : String} {a : RecoveryAction} :
    Denotes d (observeTokens deployment ns) a ↔
      a.kind = .observeOnly ∧ a.replicas = none ∧ a.deployment = deployment ∧ a.ns = ns := by
  unfold Denotes
  cases a.kind with
  | observeOnly => simp [observeTokens, eq_comm]
  | rolloutRestart =>
    refine iff_of_false (fun h => ?_) fun h => by cases h.1
    have htake := h.2.take rfl
    simp [observeTokens, rolloutTokens] at htake
  | scaleOut =>
    refine iff_of_false (fun h => ?_) fun h => by cases h.1
    obtain ⟨text, n, -, -, -, hparts⟩ := h
    have htake := hparts.take rfl
    simp [observeTokens, scaleTokens] at htake

theorem denotes_rollout {deployment ns : String} {a : RecoveryAction}
    (hparts : MaybeDryRun (rolloutTokens deployment ns) parts) :
    Denotes d parts a ↔
      a.kind = .rolloutRestart ∧ a.replicas = none ∧ a.deployment = deployment ∧ a.ns = ns := by
  have htake := hparts.take rfl
  unfold Denotes
  cases a.kind with
  | observeOnly =>
    refine iff_of_false (fun h => ?_) fun h => by cases h.1
    rw [h.2] at htake
    simp [observeTokens, rolloutTokens] at htake
  | rolloutRestart =>
    constructor
    · rintro ⟨hreplicas, hown⟩
      have hsame := htake.symm.trans (hown.take rfl)
      simp only [rolloutTokens, List.cons.injEq, true_and, and_true] at hsame
      exact ⟨rfl, hreplicas, hsame.1.symm, hsame.2.symm⟩
    · rintro ⟨-, hreplicas, rfl, rfl⟩
      exact ⟨hreplicas, hparts⟩
  | scaleOut =>
    refine iff_of_false (fun h => ?_) fun h => by cases h.1
    obtain ⟨text, n, -, -, -, hown⟩ := h
    have hsame := htake.symm.trans (hown.take rfl)
    simp [rolloutTokens, scaleTokens] at hsame

theorem denotes_scale {deployment text ns : String} {a : RecoveryAction}
    (hparts : MaybeDryRun (scaleTokens deployment text ns) parts) :
    Denotes d parts a ↔ a.kind = .scaleOut ∧ a.deployment = deployment ∧ a.ns = ns ∧
      d.isDecimal text = true ∧ ∃ n, d.toInt text = some n ∧ a.replicas = some n := by
  have htake := hparts.take rfl
  unfold Denotes
  cases a.kind with
  | observeOnly =>
    refine iff_of_false (fun h => ?_) fun h => by cases h.1
    rw [h.2] at htake
    simp [observeTokens, scaleTokens] at htake
  | rolloutRestart =>
    refine iff_of_false (fun h => ?_) fun h => by cases h.1
    have hsame := htake.symm.trans (h.2.take rfl)
    simp [rolloutTokens, scaleTokens] at hsame
  | scaleOut =>
    constructor
    · rintro ⟨text', n, hdecimal, hint, hreplicas, hown⟩
      have hsame := htake.symm.trans (hown.take rfl)
      simp only [scaleTokens, List.cons.injEq, true_and, and_true, String.append_right_inj] at hsame
      obtain ⟨hdeployment, rfl, hns⟩ := hsame
      exact ⟨rfl, hdeployment.symm, hns.symm, hdecimal, n, hint, hreplicas⟩
    · rintro ⟨-, rfl, rfl, hdecimal, n, hint, hreplicas⟩
      exact ⟨text, n, hdecimal, hint, hreplicas, hparts⟩

/-- The reader's answer for a template without a count. -/
theorem validateTemplate_iff {kind : RecoveryActionKind} (hkind : kind ≠ .scaleOut)
    {deployment ns : String} {a : RecoveryAction} :
    (v.validateRecoveryAction ⟨ns, deployment, kind, none, templateReason kind⟩).mapError
        CommandFault.ofPyExn = .ok a ↔
      a.reason = templateReason a.kind ∧ Targeted v a ∧ ReplicasAllowed v a ∧
        a.kind = kind ∧ a.replicas = none ∧ a.deployment = deployment ∧ a.ns = ns := by
  rw [mapError_eq_ok]
  constructor
  · intro h
    obtain rfl := CommandValidator.validateRecoveryAction_eq h
    obtain ⟨htarget, hreplicas⟩ := accepts_iff_allowed.1 h
    exact ⟨rfl, htarget, hreplicas, rfl, rfl, rfl, rfl⟩
  · rintro ⟨hreason, htarget, hreplicas, rfl, hnone, rfl, rfl⟩
    rw [← hreason, ← hnone]
    exact accepts_iff_allowed.2 ⟨htarget, hreplicas⟩

/-- The reader's answer for the scale template. -/
theorem validateScale_iff {deployment text ns : String} {a : RecoveryAction} :
    (readScaleAction d v deployment text ns >>= fun scaleAction =>
        .ok ⟨scaleAction.ns, scaleAction.deployment, .scaleOut, some scaleAction.replicas,
          "validated from an approved scale command template"⟩) = .ok a ↔
      a.reason = templateReason a.kind ∧ Targeted v a ∧ ReplicasAllowed v a ∧
        a.kind = .scaleOut ∧ a.deployment = deployment ∧ a.ns = ns ∧
          d.isDecimal text = true ∧ ∃ n, d.toInt text = some n ∧ a.replicas = some n := by
  constructor
  · intro h
    obtain ⟨scaleAction, hread, h⟩ := bind_eq_ok h
    obtain ⟨hdecimal, n, hint, rfl, hok⟩ := readScaleAction_iff.1 hread
    obtain ⟨htarget, hrange⟩ := validateScaleAction_iff.1 hok
    cases h
    have hreplicas : ∃ r : ℤ, some n = some r ∧ v.minReplicas ≤ r ∧ r ≤ v.maxReplicas :=
      ⟨n, rfl, hrange⟩
    exact ⟨rfl, htarget, (if_pos rfl).mpr hreplicas, rfl, rfl, rfl, hdecimal, n, hint, rfl⟩
  · rintro ⟨hreason, htarget, hallowed, hkind, rfl, rfl, hdecimal, n, hint, hreplicas⟩
    obtain ⟨ns, deployment, kind, replicas, reason⟩ := a
    obtain rfl : kind = .scaleOut := hkind
    obtain rfl : replicas = some n := hreplicas
    obtain rfl : reason = templateReason .scaleOut := hreason
    obtain ⟨r, hr, hrange⟩ := (if_pos rfl).mp hallowed
    obtain rfl : n = r := Option.some.inj hr
    have hread := readScaleAction_iff.2 ⟨hdecimal, n, hint, rfl,
      validateScaleAction_iff.2 ⟨htarget, hrange⟩⟩
    rw [hread]
    rfl

/-- **What the reader returns**: the action that the tokens denote, if the validator accepts it. -/
theorem validateRecoveryCommand_iff {a : RecoveryAction} :
    validateRecoveryCommand d v command = .ok a ↔
      a.reason = templateReason a.kind ∧ Targeted v a ∧ ReplicasAllowed v a ∧
        ∃ parts, split command = .ok parts ∧ Denotes d parts a := by
  unfold validateRecoveryCommand
  rcases hsplit : split command with e | parts
  · refine iff_of_false (fun h => by cases h) ?_
    rintro ⟨-, -, -, parts, hparts, -⟩
    cases hparts
  · have hread : (∃ parts', (Except.ok parts : Except String (List String)) = .ok parts' ∧
        Denotes d parts' a) ↔ Denotes d parts a :=
      ⟨fun ⟨parts', heq, h⟩ => Except.ok.inj heq ▸ h, fun h => ⟨parts, rfl, h⟩⟩
    rw [hread]
    simp only [Except.mapError, bind, Except.bind]
    split_ifs with hobserve hrollout hscale
    · obtain ⟨deployment, ns, rfl⟩ := isObserveCommand_iff.1 hobserve
      rw [denotes_observe]
      exact validateTemplate_iff (by decide)
    · obtain ⟨deployment, ns, hparts⟩ := isRolloutRestartCommand_iff.1 hrollout
      rw [denotes_rollout hparts]
      rcases hparts with rfl | rfl
      · exact validateTemplate_iff (by decide)
      · exact validateTemplate_iff (by decide)
    · obtain ⟨deployment, text, ns, hparts⟩ := isScaleCommand_iff.1 hscale
      rw [denotes_scale hparts, validateCommand_eq hsplit hparts]
      exact validateScale_iff
    · refine iff_of_false (fun h => by cases h) ?_
      rintro ⟨-, -, -, hdenotes⟩
      unfold Denotes at hdenotes
      cases hkind : a.kind with
      | observeOnly =>
        rw [hkind] at hdenotes
        exact hobserve (isObserveCommand_iff.2 ⟨_, _, hdenotes.2⟩)
      | rolloutRestart =>
        rw [hkind] at hdenotes
        exact hrollout (isRolloutRestartCommand_iff.2 ⟨_, _, hdenotes.2⟩)
      | scaleOut =>
        rw [hkind] at hdenotes
        obtain ⟨text, n, -, -, -, hparts⟩ := hdenotes
        exact hscale (isScaleCommand_iff.2 ⟨_, text, _, hparts⟩)

end Reading

/-! ### Rendering and reading -/

/-- An allowed scale command, with this text as its count. -/
def ScalesWith (d : Decimals) (v : CommandValidator) (command text : String) : Prop :=
  ∃ parts deployment ns n, split command = .ok parts ∧
    MaybeDryRun (scaleTokens deployment text ns) parts ∧
      Targeted v ⟨ns, deployment, .scaleOut, some n, templateReason .scaleOut⟩ ∧
        d.isDecimal text = true ∧ d.toInt text = some n ∧ v.minReplicas ≤ n ∧ n ≤ v.maxReplicas

/-- What is read has the tokens of the argument vector of the action it is read as. -/
def DenotesItsArgv (d : Decimals) (v : CommandValidator) (command : String) : Prop :=
  ∀ a, validateRecoveryCommand d v command = .ok a →
    ∃ parts argv, split command = .ok parts ∧ recoveryArgv a = .ok argv ∧ MaybeDryRun argv parts

/-- The action is read back from its rendered command. -/
def RoundTrips (d : Decimals) (v : CommandValidator) (a : RecoveryAction) : Prop :=
  Accepts v a → (∀ n, a.replicas = some n → 0 ≤ n) →
    ∃ command b, renderedCommand a = .ok command ∧ validateRecoveryCommand d v command = .ok b ∧
      b.kind = a.kind ∧ b.ns = a.ns ∧ b.deployment = a.deployment ∧ b.replicas = a.replicas

section Words

/-- The characters of a name are plain. -/
theorem isPlain_of_name {c : Char} (h : isNameEdge c = true ∨ c = '-') : IsPlain c := by
  have hspecial : ∀ s ∈ [' ', '\t', '\r', '\n', '\'', '"', '\\'], c ≠ s := by
    rintro s hs rfl
    have hnone : ([' ', '\t', '\r', '\n', '\'', '"', '\\'].all fun s =>
        !isNameEdge s && s != '-') = true := by decide
    have hc := List.all_eq_true.1 hnone c hs
    rw [Bool.and_eq_true, Bool.not_eq_true', bne_iff_ne] at hc
    rcases h with h | h
    · rw [hc.1] at h
      cases h
    · exact hc.2 h
  simp only [List.forall_mem_cons] at hspecial
  simp [IsPlain, isWhitespace, isQuote, hspecial]

theorem isWord_of_name {name : String} (h : isK8sName name = true) : IsWord name := by
  obtain ⟨hmatch, -⟩ := isK8sName_iff.1 h
  refine ⟨?_, fun c hc => isPlain_of_name (chars_of_matches hmatch c hc)⟩
  rintro rfl
  cases h

/-- A count is written with digits only. -/
theorem isWord_replicas (n : ℕ) : IsWord ("--replicas=" ++ toString n) := by
  refine ⟨fun h => ?_, fun c hc => ?_⟩
  · have hchars := congrArg String.toList h
    rw [String.toList_append] at hchars
    cases hchars
  · rw [String.toList_append] at hc
    rcases List.mem_append.1 hc with hliteral | hdigit
    · have hplain : ("--replicas=".toList.all fun c => decide (IsPlain c)) = true := by decide
      exact of_decide_eq_true (List.all_eq_true.1 hplain c hliteral)
    · have hc := UnicodeDecimals.isDigit_of_mem_toString hdigit
      refine isPlain_of_name (.inl ?_)
      rw [Char.isDigit, Bool.and_eq_true] at hc
      rw [isNameEdge, Bool.or_eq_true, Bool.and_eq_true, Bool.and_eq_true]
      exact .inr ⟨decide_eq_true (of_decide_eq_true hc.1), decide_eq_true (of_decide_eq_true hc.2)⟩

/-- The words of an argument vector. -/
theorem isWord_argv {deployment ns : String} (hdeployment : IsWord deployment) (hns : IsWord ns) :
    (∀ word ∈ observeTokens deployment ns, IsWord word) ∧
      (∀ word ∈ rolloutTokens deployment ns, IsWord word) ∧
        ∀ n : ℕ, ∀ word ∈ scaleTokens deployment (toString n) ns, IsWord word := by
  have hall : (["kubectl", "get", "deployment", "-n", "-o", "json", "rollout", "restart",
      "scale"].all fun word => decide (IsWord word)) = true := by decide +kernel
  have hliteral := fun word hword => of_decide_eq_true (List.all_eq_true.1 hall word hword)
  simp only [List.forall_mem_cons] at hliteral
  refine ⟨?_, ?_, fun n => ?_⟩
  · simp [observeTokens, hliteral, hdeployment, hns]
  · simp [rolloutTokens, hliteral, hdeployment, hns]
  · simpa [scaleTokens, hliteral, hdeployment, hns] using isWord_replicas n

end Words

section Render

variable {a : RecoveryAction}

theorem toString_natCast (n : ℕ) : toString (n : ℤ) = toString n := rfl

theorem renderScaleCommand_eq (ns deployment : String) (replicas : ℤ) :
    renderScaleCommand ns deployment replicas =
      " ".intercalate (scaleArgv ns deployment replicas) := by
  have hfirst : "kubectl scale deployment " =
      "kubectl" ++ " " ++ "scale" ++ " " ++ "deployment" ++ " " := rfl
  have hcount : " --replicas=" = " " ++ "--replicas=" := rfl
  have hflag : " -n " = " " ++ "-n" ++ " " := rfl
  unfold renderScaleCommand scaleArgv
  rw [hfirst, hcount, hflag]
  simp only [String.intercalate_cons_cons, String.intercalate_singleton, String.append_assoc]

/-- A command is the line of its argument vector. -/
theorem renderRecoveryCommand_eq {argv : List String} (h : recoveryArgv a = .ok argv) :
    renderRecoveryCommand a = .ok (" ".intercalate argv) := by
  obtain ⟨ns, deployment, kind, replicas, reason⟩ := a
  unfold recoveryArgv at h
  unfold renderRecoveryCommand
  cases kind with
  | observeOnly =>
    cases h
    have hfirst : "kubectl get deployment " =
        "kubectl" ++ " " ++ "get" ++ " " ++ "deployment" ++ " " := rfl
    have hflag : " -n " = " " ++ "-n" ++ " " := rfl
    have hlast : " -o json" = " " ++ "-o" ++ " " ++ "json" := rfl
    rw [hfirst, hflag, hlast]
    simp only [String.intercalate_cons_cons, String.intercalate_singleton, String.append_assoc]
  | rolloutRestart =>
    cases h
    have hfirst : "kubectl rollout restart deployment " =
        "kubectl" ++ " " ++ "rollout" ++ " " ++ "restart" ++ " " ++ "deployment" ++ " " := rfl
    have hflag : " -n " = " " ++ "-n" ++ " " := rfl
    rw [hfirst, hflag]
    simp only [String.intercalate_cons_cons, String.intercalate_singleton, String.append_assoc]
  | scaleOut =>
    rcases replicas with - | replicas
    · cases h
    · rw [← Except.ok.inj h, ← renderScaleCommand_eq]

/-- The argument vector of an allowed action is its template. -/
theorem argv_eq_tokens {argv : List String} (h : recoveryArgv a = .ok argv) :
    (a.kind = .observeOnly → argv = observeTokens a.deployment a.ns) ∧
      (a.kind = .rolloutRestart → argv = rolloutTokens a.deployment a.ns) ∧
        (a.kind = .scaleOut → ∃ n, a.replicas = some n ∧
          argv = scaleTokens a.deployment (toString n) a.ns) := by
  obtain ⟨ns, deployment, kind, replicas, reason⟩ := a
  unfold recoveryArgv at h
  cases kind with
  | observeOnly =>
    cases h
    exact ⟨fun _ => rfl, nofun, nofun⟩
  | rolloutRestart =>
    cases h
    exact ⟨nofun, fun _ => rfl, nofun⟩
  | scaleOut =>
    rcases replicas with - | replicas
    · cases h
    · obtain rfl : scaleArgv ns deployment replicas = argv := Except.ok.inj h
      exact ⟨nofun, nofun, fun _ => ⟨_, rfl, rfl⟩⟩

end Render

section Main

variable {d : UnicodeDecimals} {v : CommandValidator} {command : String} {a : RecoveryAction}

/-- **A command has the tokens of its action** unless its count is not a plain numeral. -/
theorem denotesItsArgv_iff :
    DenotesItsArgv d.toDecimals v command ↔
      ∀ text, ScalesWith d.toDecimals v command text → ∃ n : ℕ, text = toString n := by
  constructor
  · rintro hargv text ⟨parts, deployment, ns, n, hsplit, hparts, htarget, hdecimal, hint, hrange⟩
    have hread : validateRecoveryCommand d.toDecimals v command =
        .ok ⟨ns, deployment, .scaleOut, some n, templateReason .scaleOut⟩ :=
      validateRecoveryCommand_iff.2 ⟨rfl, htarget, (if_pos rfl).mpr ⟨n, rfl, hrange⟩, parts, hsplit,
        text, n, hdecimal, hint, rfl, hparts⟩
    obtain ⟨parts', argv, hsplit', hrecovery, htokens⟩ := hargv _ hread
    obtain rfl : parts = parts' := Except.ok.inj (hsplit.symm.trans hsplit')
    obtain ⟨m, hm, rfl⟩ := (argv_eq_tokens hrecovery).2.2 rfl
    obtain rfl : n = m := Option.some.inj hm
    have hsame := (hparts.take rfl).symm.trans (htokens.take rfl)
    simp only [scaleTokens, List.cons.injEq, true_and, and_true, String.append_right_inj] at hsame
    unfold Decimals.toInt at hint
    split_ifs at hint
    obtain rfl : (d.value text : ℤ) = n := Option.some.inj hint
    exact ⟨d.value text, hsame⟩
  · intro hplain a ha
    obtain ⟨hreason, htarget, hallowed, parts, hsplit, hdenotes⟩ := validateRecoveryCommand_iff.1 ha
    obtain ⟨-, argv, -, hargv⟩ := exists_argv hallowed
    refine ⟨parts, argv, hsplit, hargv, ?_⟩
    obtain ⟨hobserve, hrollout, hscale⟩ := argv_eq_tokens hargv
    unfold Denotes at hdenotes
    cases hkind : a.kind with
    | observeOnly =>
      rw [hkind] at hdenotes
      rw [hobserve hkind]
      exact .inl hdenotes.2
    | rolloutRestart =>
      rw [hkind] at hdenotes
      rw [hrollout hkind]
      exact hdenotes.2
    | scaleOut =>
      rw [hkind] at hdenotes
      obtain ⟨text, n, hdecimal, hint, hreplicas, hparts⟩ := hdenotes
      obtain ⟨r, hr, hrange⟩ := (if_pos hkind).mp hallowed
      obtain rfl : r = n := Option.some.inj (hr.symm.trans hreplicas)
      obtain ⟨m, rfl⟩ := hplain text ⟨parts, _, _, r, hsplit, hparts, htarget, hdecimal, hint, hrange⟩
      obtain ⟨n, hn, rfl⟩ := hscale hkind
      obtain rfl : n = r := Option.some.inj (hn.symm.trans hreplicas)
      unfold Decimals.toInt at hint
      split_ifs at hint
      obtain rfl : (d.value (toString m) : ℤ) = n := Option.some.inj hint
      rw [d.value_toString]
      exact hparts

/-- The words of an allowed action's argument vector. -/
theorem isWord_of_argv {argv : List String} (htarget : Targeted v a)
    (hargv : recoveryArgv a = .ok argv) (hcount : ∀ n, a.replicas = some n → 0 ≤ n) :
    ∀ word ∈ argv, IsWord word := by
  obtain ⟨hobserve, hrollout, hscale⟩ := argv_eq_tokens hargv
  obtain ⟨hobserveWords, hrolloutWords, hscaleWords⟩ :=
    isWord_argv (isWord_of_name htarget.1.2) (isWord_of_name htarget.1.1)
  cases hkind : a.kind with
  | observeOnly =>
    rw [hobserve hkind]
    exact hobserveWords
  | rolloutRestart =>
    rw [hrollout hkind]
    exact hrolloutWords
  | scaleOut =>
    obtain ⟨n, hn, rfl⟩ := hscale hkind
    obtain ⟨m, rfl⟩ := Int.eq_ofNat_of_zero_le (hcount n hn)
    exact hscaleWords m

/-- The tokens of an action are read as the action. -/
theorem exists_read {argv : List String} (haccepts : Accepts v a)
    (hargv : recoveryArgv a = .ok argv) (hcount : ∀ n, a.replicas = some n → 0 ≤ n)
    (hshort : ∀ n, a.replicas = some n → Json.isLongInteger n = false) :
    validateRecoveryCommand d.toDecimals v (" ".intercalate argv) =
      .ok { a with reason := templateReason a.kind } := by
  obtain ⟨htarget, hallowed⟩ := accepts_iff_allowed.1 haccepts
  obtain ⟨hobserve, hrollout, hscale⟩ := argv_eq_tokens hargv
  refine validateRecoveryCommand_iff.2 ⟨rfl, htarget, hallowed, argv,
    split_intercalate (isWord_of_argv htarget hargv hcount), ?_⟩
  unfold Denotes
  unfold ReplicasAllowed at hallowed
  cases hkind : a.kind with
  | observeOnly =>
    rw [hkind, if_neg (by decide)] at hallowed
    exact ⟨hallowed, hobserve hkind⟩
  | rolloutRestart =>
    rw [hkind, if_neg (by decide)] at hallowed
    exact ⟨hallowed, .inl (hrollout hkind)⟩
  | scaleOut =>
    obtain ⟨n, hn, rfl⟩ := hscale hkind
    obtain ⟨m, rfl⟩ := Int.eq_ofNat_of_zero_le (hcount n hn)
    have hlong := hshort _ hn
    unfold Json.isLongInteger at hlong
    have hlt : m < 10 ^ 4300 := not_le.1 (of_decide_eq_false hlong)
    exact ⟨toString m, m, d.isDecimal_toString m, d.toInt_toString hlt, hn, .inl rfl⟩

/-- The text of an allowed action, where its count can be written. -/
theorem renderedCommand_eq {argv : List String} (hargv : recoveryArgv a = .ok argv)
    (hshort : ∀ n, a.replicas = some n → Json.isLongInteger n = false) :
    renderedCommand a = .ok (" ".intercalate argv) := by
  have hrender := renderRecoveryCommand_eq hargv
  unfold renderedCommand
  split
  · rename_i replicas _ hreplicas
    obtain ⟨text, htext⟩ := integerText_isOk_iff.2 (hshort replicas hreplicas)
    rw [htext]
    exact hrender
  · exact hrender

/-- **An action is read back from its command** unless its count is too long to be written. -/
theorem roundTrips_iff :
    RoundTrips d.toDecimals v a ↔
      (Accepts v a → (∀ n, a.replicas = some n → 0 ≤ n) →
        ∀ n, a.replicas = some n → Json.isLongInteger n = false) := by
  constructor
  · intro htrips haccepts hcount n hn
    obtain ⟨command, b, hrendered, -⟩ := htrips haccepts hcount
    obtain ⟨-, hallowed⟩ := accepts_iff_allowed.1 haccepts
    have hkind : a.kind = .scaleOut := by
      by_contra hne
      unfold ReplicasAllowed at hallowed
      rw [if_neg hne, hn] at hallowed
      cases hallowed
    unfold renderedCommand at hrendered
    rw [hkind, hn] at hrendered
    obtain ⟨text, htext, -⟩ := bind_eq_ok hrendered
    exact integerText_isOk_iff.1 ⟨text, htext⟩
  · intro hshort haccepts hcount
    obtain ⟨-, hallowed⟩ := accepts_iff_allowed.1 haccepts
    obtain ⟨-, argv, -, hargv⟩ := exists_argv hallowed
    have hshort := hshort haccepts hcount
    exact ⟨_, _, renderedCommand_eq hargv hshort, exists_read haccepts hargv hcount hshort, rfl, rfl,
      rfl, rfl⟩

/-- **When commands and actions correspond.** -/
theorem readsBack_iff (d : UnicodeDecimals) (v : CommandValidator) (command : String)
    (a : RecoveryAction) :
    (DenotesItsArgv d.toDecimals v command ∧ RoundTrips d.toDecimals v a) ↔
      (∀ text, ScalesWith d.toDecimals v command text → ∃ n : ℕ, text = toString n) ∧
      (Accepts v a → (∀ n, a.replicas = some n → 0 ≤ n) →
        ∀ n, a.replicas = some n → Json.isLongInteger n = false) := by
  rw [denotesItsArgv_iff, roundTrips_iff]

/-- `--replicas=03` is read as three replicas, for which `kubectl` is given `--replicas=3`. -/
theorem padded_count_not_readsBack :
    ¬∀ (d : UnicodeDecimals) (v : CommandValidator) (command : String) (a : RecoveryAction),
      DenotesItsArgv d.toDecimals v command ∧ RoundTrips d.toDecimals v a := by
  intro h
  obtain ⟨hargv, -⟩ := h .ascii ⟨["shop"], ["cart"], 1, 5⟩
    "kubectl scale deployment cart --replicas=03 -n shop" ⟨"", "", .observeOnly, none, ""⟩
  obtain ⟨parts, argv, hsplit, hrecovery, htokens⟩ := hargv
    ⟨"shop", "cart", .scaleOut, some 3, templateReason .scaleOut⟩ (by decide +kernel)
  obtain rfl : ["kubectl", "scale", "deployment", "cart", "--replicas=03", "-n", "shop"] = parts :=
    Except.ok.inj hsplit
  obtain rfl : ["kubectl", "scale", "deployment", "cart", "--replicas=3", "-n", "shop"] = argv :=
    Except.ok.inj hrecovery
  rcases htokens with h | h
  · simp at h
  · simp at h

end Main

end Execution
end AiopsK8s
