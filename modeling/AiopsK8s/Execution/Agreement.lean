/-
# The two backends of the executor

The Python validator and the Go guard check the same action: the syntax of the two
names, the allowlists and the replica bounds.  Where both accept they also run the same
argument vector (`recoveryArgv_guard`).

They differ on the bounds themselves.  The guard refuses a replica policy whose minimum
is not positive, and it cannot read an integer that does not fit 64 bits; the validator
compares whatever bounds it was given.  `agree_iff` says for every action that this is
the only difference.
-/

import AiopsK8s.Execution.Executor
import AiopsK8s.Execution.Guard

namespace AiopsK8s
namespace Execution

open Effect Supervision

/-- The names of the action are Kubernetes names on the allowlists. -/
def Targeted (v : CommandValidator) (a : RecoveryAction) : Prop :=
  (isK8sName a.ns = true ∧ isK8sName a.deployment = true) ∧
    a.ns ∈ v.allowedNamespaces ∧ a.deployment ∈ v.allowedDeployments

/-- The action scales to a count within the bounds, or does not scale and names no count. -/
def ReplicasAllowed (v : CommandValidator) (a : RecoveryAction) : Prop :=
  if a.kind = .scaleOut then ∃ r, a.replicas = some r ∧ v.minReplicas ≤ r ∧ r ≤ v.maxReplicas
  else a.replicas = none

/-- The validator accepts the action. -/
def Accepts (v : CommandValidator) (a : RecoveryAction) : Prop :=
  v.validateRecoveryAction a = .ok a

/-- The guard reads the request that the executor writes for the action, and accepts it. -/
def GuardAccepts (mode : ExecutionMode) (v : CommandValidator) (a : RecoveryAction) : Prop :=
  ∃ req, Guard.unmarshal (goGuardRequest mode v a) = some req ∧ Guard.validate req = .ok ()

/-- The validator and the guard accept the same action; if they do, both backends hand the
same argument vectors to their runner, none in mock mode and only dry runs in dry-run mode. -/
structure Agree (e : KubernetesExecutor) (a : RecoveryAction) : Prop where
  accepts_iff : Accepts e.validator a ↔ GuardAccepts e.mode e.validator a
  same_argv : Accepts e.validator a → ∀ req,
    Guard.unmarshal (goGuardRequest e.mode e.validator a) = some req → Guard.validate req = .ok () →
    ∃ out, e.executeRecovery a = .ok out ∧
      (∀ trim runner, (Guard.execute trim runner req).2 = out.ran) ∧
      (e.mode = .mock → out.ran = []) ∧
      (e.mode ≠ .mock → ∃ argv, out.ran = [argv] ∧
        (e.mode = .dryRun → a.kind ≠ .observeOnly → argv.getLast? = some "--dry-run=server"))

section Validator

variable {v : CommandValidator} {a : RecoveryAction}

theorem validateTarget_eq_ok :
    v.validateTarget a.ns a.deployment = .ok () ↔ Targeted v a := by
  unfold CommandValidator.validateTarget Targeted
  simp only [checks_seq]
  unfold CommandValidator.validateK8sName CommandValidator.validateAllowed
  split_ifs <;> simp_all

theorem validateActionReplicas_eq_ok :
    v.validateActionReplicas a = .ok () ↔ ReplicasAllowed v a := by
  obtain ⟨ns, deployment, kind, replicas, reason⟩ := a
  unfold CommandValidator.validateActionReplicas ReplicasAllowed
  rcases kind with _ | _ | _ <;> rcases replicas with _ | r <;>
    simp [CommandValidator.validateReplicas]

theorem accepts_iff_allowed : Accepts v a ↔ Targeted v a ∧ ReplicasAllowed v a := by
  rw [← validateTarget_eq_ok, ← validateActionReplicas_eq_ok]
  unfold Accepts CommandValidator.validateRecoveryAction
  constructor
  · intro h
    obtain ⟨⟨⟩, htarget, h⟩ := bind_eq_ok h
    obtain ⟨⟨⟩, hreplicas, -⟩ := bind_eq_ok h
    exact ⟨htarget, hreplicas⟩
  · rintro ⟨htarget, hreplicas⟩
    rw [htarget, hreplicas]
    rfl

end Validator

section Names

/-- The characters of a name take one byte each. -/
theorem utf8Size_of_name {c : Char} (h : isNameEdge c = true ∨ c = '-') : c.utf8Size = 1 := by
  rw [Char.utf8Size_eq_one_iff]
  rcases h with h | rfl
  · have hle : c ≤ 'z' ∨ c ≤ '9' := by
      unfold isNameEdge at h
      simp only [Bool.or_eq_true, Bool.and_eq_true, decide_eq_true_eq] at h
      exact h.imp (·.2) (·.2)
    rcases hle with hle | hle
    · exact UInt32.le_trans (Char.le_def.1 hle) (by decide)
    · exact UInt32.le_trans (Char.le_def.1 hle) (by decide)
  · decide

/-- The validator's pattern is the guard's with a bound on the length. -/
theorem isK8sName_iff {s : String} :
    isK8sName s = true ↔ Guard.matchesNamePattern s = true ∧ s.toList.length ≤ 63 := by
  unfold isK8sName Guard.matchesNamePattern
  rcases s.toList with _ | ⟨c, rest⟩
  · simp
  · simp only [isNameEdge, Bool.and_eq_true, Bool.or_eq_true, decide_eq_true_eq,
      List.isEmpty_iff, List.length_cons]
    constructor
    · rintro ⟨hc, rfl | ⟨⟨hlen, hall⟩, hlast⟩⟩
      · exact ⟨⟨hc, .inl rfl⟩, by simp⟩
      · exact ⟨⟨hc, .inr ⟨hall, hlast⟩⟩, by omega⟩
    · rintro ⟨⟨hc, rfl | ⟨hall, hlast⟩⟩, hlen⟩
      · exact ⟨hc, .inl rfl⟩
      · exact ⟨hc, .inr ⟨⟨by omega, hall⟩, hlast⟩⟩

theorem chars_of_matches {s : String} (h : Guard.matchesNamePattern s = true) :
    ∀ c ∈ s.toList, isNameEdge c = true ∨ c = '-' := by
  unfold Guard.matchesNamePattern at h
  generalize s.toList = l at h ⊢
  rcases l with _ | ⟨c, rest⟩
  · simp
  · simp only [Bool.and_eq_true, Bool.or_eq_true, List.isEmpty_iff, List.all_eq_true,
      beq_iff_eq] at h
    obtain ⟨hc, hrest⟩ := h
    intro d hd
    rcases List.mem_cons.1 hd with rfl | hd
    · exact .inl (by simpa [isNameEdge] using hc)
    · rcases hrest with rfl | ⟨hall, hlast⟩
      · simp at hd
      · rcases List.eq_nil_or_concat rest with rfl | ⟨init, last, rfl⟩
        · simp at hd
        · simp only [List.concat_eq_append, List.dropLast_concat, List.getLast?_concat,
            Option.any_some] at hall hlast
          rcases List.mem_append.1 (List.concat_eq_append ▸ hd) with hd | hd
          · exact (hall d hd).imp (by simp [isNameEdge]) id
          · obtain rfl := List.mem_singleton.1 hd
            exact .inl (by simpa [isNameEdge] using hlast)

theorem byteLength_of_matches {s : String} (h : Guard.matchesNamePattern s = true) :
    Guard.byteLength s = s.toList.length := by
  have hone : ∀ c ∈ s.toList, c.utf8Size = 1 := fun c hc =>
    utf8Size_of_name (chars_of_matches h c hc)
  unfold Guard.byteLength
  generalize s.toList = l at hone
  induction l with
  | nil => rfl
  | cons c l ih =>
      have hc := hone c List.mem_cons_self
      have hl := ih fun d hd => hone d (List.mem_cons_of_mem _ hd)
      rw [List.foldr_cons, hl, hc, List.length_cons]
      omega

/-- **The two name checks agree** on every text. -/
theorem validateKubernetesName_eq_ok {field s : String} :
    Guard.validateKubernetesName field s = .ok () ↔ isK8sName s = true := by
  rw [isK8sName_iff]
  unfold Guard.validateKubernetesName
  split_ifs with hempty hlong hmatch
  · subst hempty
    simp [Guard.matchesNamePattern]
  · refine iff_of_false (by simp) fun ⟨hmatch, hlen⟩ => ?_
    rw [byteLength_of_matches hmatch] at hlong
    exact hlong.not_ge hlen
  · rw [byteLength_of_matches hmatch] at hlong
    simp [hmatch]
    omega
  · simp [hmatch]

end Names

section Requests

variable {mode : ExecutionMode} {v : CommandValidator} {a : RecoveryAction}

/-- The integers of the request fit the guard's `int` fields. -/
def Readable (v : CommandValidator) (a : RecoveryAction) : Prop :=
  (Guard.FitsInt v.minReplicas ∧ Guard.FitsInt v.maxReplicas) ∧ ∀ r ∈ a.replicas, Guard.FitsInt r

/-- The request that the guard reads. -/
def readRequest (mode : ExecutionMode) (v : CommandValidator) (a : RecoveryAction) : Guard.Request :=
  ⟨mode.value, a.ns, a.deployment, a.kind.value, a.replicas,
    v.allowedNamespaces.mergeSort (· ≤ ·), v.allowedDeployments.mergeSort (· ≤ ·),
    v.minReplicas, v.maxReplicas⟩

theorem readStrings_texts (l : List String) : Guard.readStrings (.texts l) = some l := by
  unfold Guard.readStrings Json.texts Json.ofList
  simp only [List.mapM_map]
  induction l with
  | nil => rfl
  | cons s l ih => simp_all [List.mapM_cons, Function.comp_def, Guard.readString]

theorem unmarshal_goGuardRequest {req : Guard.Request} :
    Guard.unmarshal (goGuardRequest mode v a) = some req ↔
      Readable v a ∧ req = readRequest mode v a := by
  obtain ⟨ns, deployment, kind, replicas, reason⟩ := a
  have hmax : Guard.readInt (.int v.maxReplicas) =
      if Guard.FitsInt v.maxReplicas then some v.maxReplicas else none := rfl
  have hmin : Guard.readInt (.int v.minReplicas) =
      if Guard.FitsInt v.minReplicas then some v.minReplicas else none := rfl
  unfold Guard.unmarshal goGuardRequest Readable readRequest
  rcases replicas with _ | r
  · simp only [List.append_nil, List.cons_append, List.nil_append, Json.get, List.lookup_cons]
    simp only [String.reduceBEq, List.lookup_nil, Option.getD_some, Option.getD_none,
      Guard.readString, Guard.readIntPointer, readStrings_texts, hmin, hmax]
    clear hmin hmax
    split_ifs <;> simp [*, @eq_comm _ req]
  · have hr : Guard.readIntPointer (.int r) =
        if Guard.FitsInt r then some (some r) else none := rfl
    simp only [List.cons_append, List.nil_append, Json.get, List.lookup_cons]
    simp only [String.reduceBEq, Option.getD_some, Guard.readString, readStrings_texts, hmin, hmax,
      hr]
    clear hmin hmax hr
    split_ifs <;> simp [*, @eq_comm _ req]

/-- The action checks of the guard: the validator's, and a positive minimum. -/
theorem guardValidateAction_eq_ok :
    Guard.validateAction (readRequest mode v a) = .ok () ↔
      ReplicasAllowed v a ∧ (a.kind = .scaleOut → 1 ≤ v.minReplicas) := by
  obtain ⟨ns, deployment, kind, replicas, reason⟩ := a
  unfold Guard.validateAction readRequest ReplicasAllowed
  rcases kind with _ | _ | _ <;> rcases replicas with _ | r <;>
    simp only [RecoveryActionKind.value, Guard.validateReplicas] <;> simp
  split_ifs with hpolicy hbounds
  · refine iff_of_false (by simp) ?_
    omega
  · refine iff_of_false (by simp) ?_
    omega
  · refine iff_of_true rfl ?_
    omega

theorem guardValidate_eq_ok :
    Guard.validate (readRequest mode v a) = .ok () ↔
      Targeted v a ∧ ReplicasAllowed v a ∧ (a.kind = .scaleOut → 1 ≤ v.minReplicas) := by
  have hmode : (readRequest mode v a).mode ∈ ["mock", "dry-run", "real"] := by
    rcases mode with _ | _ | _ <;> simp [readRequest, ExecutionMode.value]
  unfold Guard.validate
  simp only [checks_seq, rejectIf_eq_ok, validateKubernetesName_eq_ok, not_not,
    guardValidateAction_eq_ok, hmode, true_and]
  simp only [readRequest, List.mem_mergeSort, Targeted, and_assoc]

theorem guardAccepts_iff :
    GuardAccepts mode v a ↔
      Readable v a ∧ Targeted v a ∧ ReplicasAllowed v a ∧
        (a.kind = .scaleOut → 1 ≤ v.minReplicas) := by
  unfold GuardAccepts
  constructor
  · rintro ⟨req, hread, hvalid⟩
    obtain ⟨hfits, rfl⟩ := unmarshal_goGuardRequest.1 hread
    exact ⟨hfits, guardValidate_eq_ok.1 hvalid⟩
  · rintro ⟨hfits, hvalid⟩
    exact ⟨_, unmarshal_goGuardRequest.2 ⟨hfits, rfl⟩, guardValidate_eq_ok.2 hvalid⟩

end Requests

section Arguments

variable {e : KubernetesExecutor} {a : RecoveryAction}

/-- The arguments of an action in a mode. -/
def modeArgv (mode : ExecutionMode) (a : RecoveryAction) (argv : List String) : List String :=
  if mode = .dryRun ∧ a.kind ≠ .observeOnly then argv ++ ["--dry-run=server"] else argv

/-- An action with an allowed count has a command and arguments. -/
theorem exists_argv {v : CommandValidator} (h : ReplicasAllowed v a) :
    ∃ command argv, renderRecoveryCommand a = .ok command ∧ recoveryArgv a = .ok argv := by
  obtain ⟨ns, deployment, kind, replicas, reason⟩ := a
  unfold ReplicasAllowed at h
  rcases kind with _ | _ | _
  · exact ⟨_, _, rfl, rfl⟩
  · exact ⟨_, _, rfl, rfl⟩
  · obtain ⟨r, rfl, -⟩ := by simpa using h
    exact ⟨_, _, rfl, rfl⟩

/-- The Python backend hands the arguments of the mode to its runner, in mock mode nothing. -/
theorem executeRecovery_ran (h : Accepts e.validator a) {command : String} {argv : List String}
    (hcommand : renderRecoveryCommand a = .ok command) (hargv : recoveryArgv a = .ok argv) :
    ∃ out, e.executeRecovery a = .ok out ∧
      out.ran = if e.mode = .mock then [] else [modeArgv e.mode a argv] := by
  unfold KubernetesExecutor.executeRecovery modeArgv
  rw [show e.validator.validateRecoveryAction a = .ok a from h]
  simp only [bind, Except.bind, hcommand, hargv, pure, Except.pure]
  split_ifs
  · exact ⟨_, rfl, rfl⟩
  · exact ⟨_, rfl, rfl⟩
  · exact ⟨_, rfl, rfl⟩

/-- The guard builds the same arguments. -/
theorem buildKubectlArgs_readRequest {mode : ExecutionMode} {v : CommandValidator}
    {argv : List String} (hvalid : Guard.validate (readRequest mode v a) = .ok ())
    (hargv : recoveryArgv a = .ok argv) :
    Guard.buildKubectlArgs (readRequest mode v a) = .ok (modeArgv mode a argv) := by
  obtain ⟨ns, deployment, kind, replicas, reason⟩ := a
  unfold Guard.buildKubectlArgs
  rw [hvalid]
  unfold recoveryArgv at hargv
  rcases kind with _ | _ | _ <;> rcases replicas with _ | r <;> rcases mode with _ | _ | _ <;>
    simp_all [readRequest, RecoveryActionKind.value, ExecutionMode.value, modeArgv, bind,
      Except.bind, pure, Except.pure, scaleArgv]

/-- The guard hands the same arguments to its runner. -/
theorem execute_ran {mode : ExecutionMode} {v : CommandValidator} {argv : List String}
    (hvalid : Guard.validate (readRequest mode v a) = .ok ()) (hargv : recoveryArgv a = .ok argv)
    (trim : String → String) (runner : Guard.Runner) :
    (Guard.execute trim runner (readRequest mode v a)).2 =
      if mode = .mock then [] else [modeArgv mode a argv] := by
  unfold Guard.execute
  rw [buildKubectlArgs_readRequest hvalid hargv]
  rcases mode with _ | _ | _ <;> simp [readRequest, ExecutionMode.value]

end Arguments

/-- **Where the two backends agree**: they do unless the validator accepts an action whose
integers the guard cannot read, or a `scale_out` under a minimum that is not positive. -/
theorem agree_iff (e : KubernetesExecutor) (a : RecoveryAction) :
    Agree e a ↔
      (Targeted e.validator a → ReplicasAllowed e.validator a →
        Readable e.validator a ∧ (a.kind = .scaleOut → 1 ≤ e.validator.minReplicas)) := by
  constructor
  · intro h htarget hreplicas
    have hguard := h.accepts_iff.1 (accepts_iff_allowed.2 ⟨htarget, hreplicas⟩)
    obtain ⟨hread, -, -, hmin⟩ := guardAccepts_iff.1 hguard
    exact ⟨hread, hmin⟩
  · intro h
    refine ⟨?_, ?_⟩
    · rw [accepts_iff_allowed, guardAccepts_iff]
      constructor
      · rintro ⟨htarget, hreplicas⟩
        obtain ⟨hread, hmin⟩ := h htarget hreplicas
        exact ⟨hread, htarget, hreplicas, hmin⟩
      · rintro ⟨-, htarget, hreplicas, -⟩
        exact ⟨htarget, hreplicas⟩
    · intro haccepts req hread hvalid
      obtain ⟨-, rfl⟩ := unmarshal_goGuardRequest.1 hread
      obtain ⟨command, argv, hcommand, hargv⟩ := exists_argv (accepts_iff_allowed.1 haccepts).2
      obtain ⟨out, hout, hran⟩ := executeRecovery_ran haccepts hcommand hargv
      refine ⟨out, hout, fun trim runner => ?_, fun hmock => ?_, fun hmock => ?_⟩
      · rw [hran, execute_ran hvalid hargv]
      · rw [hran, if_pos hmock]
      · refine ⟨_, by rw [hran, if_neg hmock], fun hdry hkind => ?_⟩
        rw [modeArgv, if_pos ⟨hdry, hkind⟩, List.getLast?_concat]

/-- A validator whose minimum is zero. -/
def zeroMinimum : KubernetesExecutor :=
  ⟨⟨["prod"], ["web"], 0, 5⟩, .mock, fun _ => (0, "", "")⟩

/-- **The validator accepts `scale_out` to zero** under a minimum of zero, and the guard
refuses the policy. -/
theorem scaleToZero_not_agree :
    ¬Agree zeroMinimum ⟨"prod", "web", .scaleOut, some 0, ""⟩ := by
  intro h
  have haccepts : Accepts zeroMinimum.validator ⟨"prod", "web", .scaleOut, some 0, ""⟩ := by
    refine accepts_iff_allowed.2 ⟨⟨by decide, ?_⟩, ?_⟩ <;>
      simp [zeroMinimum, ReplicasAllowed]
  obtain ⟨-, -, -, hmin⟩ := guardAccepts_iff.1 (h.accepts_iff.1 haccepts)
  have := hmin rfl
  simp [zeroMinimum] at this

end Execution
end AiopsK8s
