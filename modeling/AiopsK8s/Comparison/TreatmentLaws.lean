/-
# What a treatment record says

The laws of the record of `run_recovery_treatment`, for every behaviour of its surroundings.  The
`try` block declares the measurement valid before it has derived everything from the last snapshot,
and the closing reset stops at the first command that fails.  So a record is right about its
measurement exactly if the last snapshot is sound, and the baseline is asked for exactly if the
fault is deleted (`treatment_laws_iff`).
-/

import AiopsK8s.Comparison.Treatment
import AiopsK8s.Lib.Rounding

namespace AiopsK8s
namespace Comparison

open Effect Supervision Execution Lab

/-- The call exited with zero. -/
def KubectlCall.Succeeded (c : KubectlCall) : Prop :=
  ∃ stdout stderr, c.outcome = .ok (0, stdout, stderr)

/-- The three commands of a reset all succeeded. -/
def ResetSucceeded (call : TreatmentCall) (final : List KubectlCall) : Prop :=
  ∃ c₁ c₂ c₃ : KubectlCall, final = [c₁, c₂, c₃] ∧
    (c₁.argv = deleteArgv call.treatment.scenario ∧ c₁.Succeeded) ∧
    (c₂.argv = baselineArgv call.treatment.scenario call.config ∧ c₂.Succeeded) ∧
    c₃.argv = rolloutArgv call.treatment.scenario call.config ∧ c₃.Succeeded

/-- A reset attempts the deletion of the fault and the scale to the baseline. -/
def ResetAttempted (call : TreatmentCall) (final : List KubectlCall) : Prop :=
  deleteArgv call.treatment.scenario ∈ final.map (·.argv) ∧
    baselineArgv call.treatment.scenario call.config ∈ final.map (·.argv)

/-- The snapshot shows the deployment. -/
def Available (snapshot : Snapshot) : Prop :=
  ∃ status, deploymentStatus snapshot = .ok status ∧ (Json.get status "ok").truthy = true

/-- **What the record of a treatment says**, with the calls of the closing reset. -/
structure RecordLaws (call : TreatmentCall) (record : TreatmentRecord) (final : List KubectlCall) :
    Prop where
  measured : record.measurementValid = true →
    record.error = "" ∧ ∃ snapshot, record.after = some snapshot ∧ Available snapshot
  recovered : record.recoverySuccess = true → record.measurementValid = true ∧
    record.safetyValid = true ∧ record.availabilityRecovery = .finite 1
  cleaned : record.cleanupValid = true ↔ ResetSucceeded call final
  attempted : ResetAttempted call final

/-- A snapshot from which everything is derived: the deployment is shown, both counts are integers
and their quotient is a float. -/
def SoundSnapshot (py : Interpreter) (snapshot : Snapshot) : Prop :=
  ∃ status desired available, Json.getD snapshot "deployment_status" (.obj []) = .obj status ∧
    (Json.get status "ok").truthy = true ∧ countOf py status "desired_replicas" = .ok desired ∧
    countOf py status "available_replicas" = .ok available ∧
    (1 ≤ desired → (PyFloat.ofQuotient available desired.toNat).isSome = true)

section Laws

variable {σ : Type} {py : Interpreter} {runtime : RecoveryExperimentRuntime σ} {call : TreatmentCall}
  {polls : ℕ}

/-! ### The reset -/

/-- A command: it is noted, and what is no success raises. -/
theorem kubectlOrRaise_cases {argv : List String} {site site' : Site σ} {r : Except PyExn Unit}
    (h : (kubectlOrRaise runtime argv).run site = (r, site')) :
    ∃ c : KubectlCall, c.argv = argv ∧ c.outcome = (runtime.kubectl argv site.env).1 ∧
      site' = ⟨(runtime.kubectl argv site.env).2, site.calls ++ [c]⟩ ∧
      (r = .ok () ∧ c.Succeeded ∨ (∃ e, r = .error e) ∧ ¬c.Succeeded) := by
  rcases hcall : runtime.kubectl argv site.env with ⟨outcome, env⟩
  have hkubectl : (Site.kubectl runtime argv).run site =
      (outcome, ⟨env, site.calls ++ [⟨argv, outcome⟩]⟩) := by
    simp only [Eff.run, Site.kubectl, hcall]
  refine ⟨⟨argv, outcome⟩, rfl, rfl, ?_⟩
  unfold kubectlOrRaise at h
  rw [Eff.run_bind, hkubectl] at h
  rcases outcome with e | ⟨returnCode, stdout, stderr⟩
  · obtain ⟨rfl, rfl⟩ := Prod.mk.inj h
    refine ⟨rfl, .inr ⟨⟨e, rfl⟩, ?_⟩⟩
    rintro ⟨stdout, stderr, hok⟩
    cases hok
  · by_cases hcode : returnCode = 0
    · subst hcode
      obtain ⟨rfl, rfl⟩ := Prod.mk.inj h
      exact ⟨rfl, .inl ⟨rfl, stdout, stderr, rfl⟩⟩
    · simp only [Eff.raiseIf, Eff.when, ne_eq, hcode, not_false_eq_true, if_true, Eff.run_raise] at h
      obtain ⟨rfl, rfl⟩ := Prod.mk.inj h
      refine ⟨rfl, .inr ⟨⟨_, rfl⟩, ?_⟩⟩
      rintro ⟨_, _, hok⟩
      exact hcode (congrArg Prod.fst (Except.ok.inj hok))

/-- **A reset stops at the first command that fails.** -/
theorem resetTreatment_cases {site site' : Site σ} {r : Except PyExn Unit}
    (h : (resetTreatment runtime call.treatment.scenario call.config).run site = (r, site')) :
    ∃ c final, site'.calls = site.calls ++ c :: final ∧
      c.outcome = (runtime.kubectl (deleteArgv call.treatment.scenario) site.env).1 ∧
      (r = .ok () ↔ ResetSucceeded call (c :: final)) ∧
      (ResetAttempted call (c :: final) ↔ c.Succeeded) := by
  unfold resetTreatment at h
  have hdifferent : baselineArgv call.treatment.scenario call.config ≠
      deleteArgv call.treatment.scenario := by
    simp [baselineArgv, deleteArgv]
  rcases Eff.run_bind_cases h with ⟨e, hdelete, rfl⟩ | ⟨⟨⟩, site₁, hdelete, h⟩
  · obtain ⟨c, hargv, houtcome, rfl, ⟨hok, -⟩ | ⟨-, hfailed⟩⟩ := kubectlOrRaise_cases hdelete
    · cases hok
    · refine ⟨c, [], rfl, houtcome, iff_of_false nofun ?_, iff_of_false ?_ hfailed⟩
      · rintro ⟨c₁, c₂, c₃, hfinal, -⟩
        cases hfinal
      · rintro ⟨-, hscale⟩
        rw [List.map_singleton, List.mem_singleton, hargv] at hscale
        exact hdifferent hscale
  obtain ⟨c₁, hargv₁, houtcome, rfl, ⟨-, hok₁⟩ | ⟨⟨e, he⟩, -⟩⟩ := kubectlOrRaise_cases hdelete
  case inr => cases he
  rcases Eff.run_bind_cases h with ⟨e, hscale, rfl⟩ | ⟨⟨⟩, site₂, hscale, h⟩
  · obtain ⟨c₂, hargv₂, -, rfl, ⟨hok, -⟩ | ⟨-, hfailed⟩⟩ := kubectlOrRaise_cases hscale
    · cases hok
    · refine ⟨c₁, [c₂], by simp, houtcome, iff_of_false nofun ?_, iff_of_true ?_ hok₁⟩
      · rintro ⟨_, _, _, hfinal, -⟩
        cases hfinal
      · exact ⟨by simp [hargv₁], by simp [hargv₂]⟩
  obtain ⟨c₂, hargv₂, -, rfl, ⟨-, hok₂⟩ | ⟨⟨e, he⟩, -⟩⟩ := kubectlOrRaise_cases hscale
  case inr => cases he
  obtain ⟨c₃, hargv₃, -, rfl, hlast⟩ := kubectlOrRaise_cases h
  refine ⟨c₁, [c₂, c₃], by simp, houtcome, ?_, iff_of_true ?_ hok₁⟩
  · constructor
    · intro hr
      rcases hlast with ⟨-, hok₃⟩ | ⟨⟨e, rfl⟩, -⟩
      · exact ⟨c₁, c₂, c₃, rfl, ⟨hargv₁, hok₁⟩, ⟨hargv₂, hok₂⟩, hargv₃, hok₃⟩
      · cases hr
    · rintro ⟨_, _, _, hfinal, -, -, -, hok₃⟩
      obtain ⟨rfl, rfl, rfl⟩ : c₁ = _ ∧ c₂ = _ ∧ c₃ = _ := by simpa using hfinal
      rcases hlast with ⟨rfl, -⟩ | ⟨-, hfailed⟩
      · rfl
      · exact absurd hok₃ hfailed
  · exact ⟨by simp [hargv₁], by simp [hargv₂]⟩

/-! ### The `try` block -/

/-- Nothing was declared valid yet. -/
structure Unmeasured (lab : Lab σ) : Prop where
  measurementValid : lab.record.measurementValid = false
  recoverySuccess : lab.record.recoverySuccess = false
  error : lab.record.error = ""

theorem stable_perform {α : Type} {I : Lab σ → Prop} (m : Eff (Site σ) Halt α)
    (h : ∀ site lab, I lab → I { lab with site }) : Stable I (perform m) := Stable.zoom h

theorem unmeasured_perform {α : Type} (m : Eff (Site σ) Halt α) :
    Stable Unmeasured (perform m) :=
  stable_perform m fun _ _ h => ⟨h.measurementValid, h.recoverySuccess, h.error⟩

/-- Writing another field leaves the record unmeasured. -/
theorem unmeasured_write {f : TreatmentRecord → TreatmentRecord}
    (h : ∀ record, (f record).measurementValid = record.measurementValid ∧
      (f record).recoverySuccess = record.recoverySuccess ∧ (f record).error = record.error) :
    Stable Unmeasured (write f : Eff (Lab σ) Halt Unit) := by
  refine Stable.modify fun lab hlab => ?_
  obtain ⟨hmeasurement, hsuccess, herror⟩ := h lab.record
  exact ⟨hmeasurement.trans hlab.measurementValid, hsuccess.trans hlab.recoverySuccess,
    herror.trans hlab.error⟩

theorem unmeasured_measureBefore : Stable Unmeasured (measureBefore py runtime call) := by
  refine .bind (unmeasured_perform _) fun query => .bind (unmeasured_perform _) fun _ => ?_
  refine .bind (unmeasured_perform _) fun before => .bind (unmeasured_write fun _ => ?_) fun _ => ?_
  · exact ⟨rfl, rfl, rfl⟩
  refine .bind (unmeasured_perform _) fun value => .bind (unmeasured_write fun _ => ?_) fun _ => ?_
  · exact ⟨rfl, rfl, rfl⟩
  · exact .pure _

theorem unmeasured_injectFault (query : String) (before : Snapshot) :
    Stable Unmeasured (injectFault py runtime call polls query before) := by
  have hreplaced : Stable Unmeasured (waitForReplacedPod py runtime call polls before) := by
    refine .bind (unmeasured_perform _) fun _ => .bind (unmeasured_perform _) fun _ => ?_
    exact .bind (unmeasured_write fun _ => ⟨rfl, rfl, rfl⟩) fun _ => .pure _
  have hmetric : Stable Unmeasured (waitForFaultedMetric py runtime call polls query) := by
    refine .bind (unmeasured_perform _) fun _ => .bind (unmeasured_perform _) fun _ => ?_
    exact .bind (unmeasured_write fun _ => ⟨rfl, rfl, rfl⟩) fun _ => .pure _
  have hfault : Stable Unmeasured (waitForFault py runtime call polls query before) :=
    .ite (fun _ => hreplaced) fun _ => hmetric
  refine .bind (unmeasured_perform _) fun _ => .bind hfault fun _ => ?_
  exact .bind (unmeasured_write fun _ => ⟨rfl, rfl, rfl⟩) fun _ => .pure _

/-- What the executor said is in the record, and nothing was declared valid yet. -/
structure Executed (valid : Bool) (lab : Lab σ) : Prop where
  unmeasured : Unmeasured lab
  safetyValid : lab.record.safetyValid = valid

theorem Executed.perform {valid : Bool} {α : Type} (m : Eff (Site σ) Halt α) :
    Triple (Executed valid) (perform m) (fun _ => Executed valid) (fun _ => Unmeasured) := by
  have hstable : Stable (Executed valid) (Lab.perform m) := stable_perform m fun _ _ h =>
    ⟨⟨h.unmeasured.measurementValid, h.unmeasured.recoverySuccess, h.unmeasured.error⟩,
      h.safetyValid⟩
  exact hstable.weaken (fun _ h => h) (fun _ _ h => h) fun _ _ h => h.unmeasured

theorem carryOutAction_spec : Triple Unmeasured (carryOutAction runtime call)
    (fun result (lab : Lab σ) => Executed result.valid lab) (fun _ => Unmeasured) := by
  refine .bind (unmeasured_perform _) fun result => ?_
  refine .bind (Q := fun _ => Executed result.valid) (.modify fun lab h => ?_) fun _ => ?_
  · exact ⟨⟨h.measurementValid, h.recoverySuccess, h.error⟩, rfl⟩
  · exact .pure fun _ h => h

variable (py runtime call polls) in
/-- **Up to the last snapshot** nothing is declared valid; then the record holds the snapshot and
what the executor said. -/
theorem measure_spec : Triple Unmeasured (measure py runtime call polls)
    (fun measured (lab : Lab σ) => Executed measured.valid lab ∧
      lab.record.after = some measured.after) (fun _ => Unmeasured) := by
  refine .bind unmeasured_measureBefore fun start => ?_
  refine .bind (unmeasured_injectFault _ _) fun faultValue => ?_
  refine .bind carryOutAction_spec fun result => .bind (Executed.perform _) fun waited => ?_
  refine .bind (Q := fun _ => Executed result.valid) (.modify fun lab h => ?_) fun _ => ?_
  · exact ⟨⟨h.unmeasured.measurementValid, h.unmeasured.recoverySuccess, h.unmeasured.error⟩,
      h.safetyValid⟩
  refine .bind (Executed.perform _) fun after => ?_
  refine .bind (Q := fun _ lab => Executed result.valid lab ∧ lab.record.after = some after)
    (.modify fun lab h => ?_) fun _ => .pure fun lab h => h
  exact ⟨⟨⟨h.unmeasured.measurementValid, h.unmeasured.recoverySuccess, h.unmeasured.error⟩,
    h.safetyValid⟩, rfl⟩

/-! ### What is derived from the last snapshot -/

/-- An exception that `except Exception` catches and that has a text. -/
def Tells (e : PyExn) : Prop := e.isException = true ∧ e.text ≠ ""

theorem tells_of_append {cls : ExceptionClass} {a b : String} (hcls : cls ≠ .base) (ha : a ≠ "") :
    Tells ⟨cls, a ++ b⟩ := by
  refine ⟨by simpa [PyExn.isException] using hcls, fun h => ha ?_⟩
  exact (String.append_eq_empty_iff.1 h).1

theorem asMapping_error {value : Json} {e : PyExn} (h : asMapping value = .error e) : Tells e := by
  unfold asMapping at h
  split at h
  · cases h
  · obtain rfl := Except.error.inj h
    exact ⟨rfl, by simp⟩

theorem intOf_error {value : Json} {e : PyExn} (h : intOf py value = .error e) : Tells e := by
  unfold intOf at h
  split at h
  · cases h
  · cases h
  · obtain rfl := Except.error.inj h
    exact ⟨rfl, by decide⟩
  · split at h
    · cases h
    · obtain rfl := Except.error.inj h
      exact ⟨rfl, by decide⟩
  · split at h
    · cases h
    · obtain rfl := Except.error.inj h
      exact tells_of_append nofun (by decide)
  · obtain rfl := Except.error.inj h
    exact ⟨rfl, by simp⟩

theorem countOf_error {status : List (String × Json)} {key : String} {e : PyExn}
    (h : countOf py status key = .error e) : Tells e := by
  unfold countOf at h
  dsimp only at h
  split at h
  · exact intOf_error h
  · cases h

theorem clampedRatio_error {available desired : ℤ} {e : PyExn}
    (h : clampedRatio available desired = .error e) : Tells e := by
  unfold clampedRatio at h
  split at h
  · cases h
  · obtain rfl := Except.error.inj h
    exact ⟨rfl, by decide⟩

/-- The availability of a deployment whose counts are read. -/
def ratioOf (status : List (String × Json)) (desired available : ℤ) : Except PyExn PyFloat :=
  if (Json.get status "ok").truthy = false ∨ desired < 1 then .ok (.finite 0)
  else PyFloat.round6 <$> clampedRatio available desired

variable (py) in
/-- **The ways through `_availability_ratio`.** -/
theorem availabilityRatio_cases (snapshot : Snapshot) :
    (∃ e, availabilityRatio py snapshot = .error e ∧ Tells e) ∨
      ∃ status desired available, deploymentStatus snapshot = .ok status ∧
        countOf py status "desired_replicas" = .ok desired ∧
        countOf py status "available_replicas" = .ok available ∧
        availabilityRatio py snapshot = ratioOf status desired available := by
  unfold availabilityRatio
  rcases hstatus : deploymentStatus snapshot with e | status
  · exact .inl ⟨e, rfl, asMapping_error hstatus⟩
  rcases hdesired : countOf py status "desired_replicas" with e | desired
  · refine .inl ⟨e, ?_, countOf_error hdesired⟩
    simp only [bind, Except.bind, hdesired]
  rcases havailable : countOf py status "available_replicas" with e | available
  · refine .inl ⟨e, ?_, countOf_error havailable⟩
    simp only [bind, Except.bind, hdesired, havailable]
  · refine .inr ⟨status, desired, available, rfl, hdesired, havailable, ?_⟩
    simp only [bind, Except.bind, hdesired, havailable]
    rfl

theorem ratioOf_error {status : List (String × Json)} {desired available : ℤ} {e : PyExn}
    (h : ratioOf status desired available = .error e) : Tells e := by
  unfold ratioOf at h
  split at h
  · cases h
  · rcases hratio : clampedRatio available desired with e' | x
    · rw [hratio] at h
      obtain rfl := Except.error.inj h
      exact clampedRatio_error hratio
    · rw [hratio] at h
      cases h

theorem availabilityRatio_error {snapshot : Snapshot} {e : PyExn}
    (h : availabilityRatio py snapshot = .error e) : Tells e := by
  rcases availabilityRatio_cases py snapshot with ⟨e', he', htells⟩ | ⟨_, _, _, -, -, -, hratio⟩
  · rw [he'] at h
    obtain rfl := Except.error.inj h
    exact htells
  · rw [hratio] at h
    exact ratioOf_error h

/-- What the availability is derived from has its desired count, too. -/
theorem exists_desiredReplicas {snapshot : Snapshot} {x : PyFloat}
    (h : availabilityRatio py snapshot = .ok x) : ∃ desired, desiredReplicas py snapshot = .ok desired := by
  rcases availabilityRatio_cases py snapshot with ⟨e, he, -⟩ |
    ⟨status, desired, _, hstatus, hdesired, -, -⟩
  · rw [he] at h
    cases h
  · exact ⟨desired, by simp only [desiredReplicas, hstatus, bind, Except.bind, hdesired]⟩

theorem deploymentStatus_eq_ok {snapshot : Snapshot} {status : List (String × Json)} :
    deploymentStatus snapshot = .ok status ↔
      Json.getD snapshot "deployment_status" (.obj []) = .obj status := by
  unfold deploymentStatus asMapping
  split
  · rename_i fields hfields
    rw [hfields]
    exact ⟨fun h => congrArg Json.obj (Except.ok.inj h), fun h => congrArg Except.ok (Json.obj.inj h)⟩
  · rename_i value hvalue
    exact iff_of_false nofun fun h => hvalue status h

theorem ratioOf_isOk {status : List (String × Json)} {desired available : ℤ}
    (hok : (Json.get status "ok").truthy = true) :
    (∃ x, ratioOf status desired available = .ok x) ↔
      (1 ≤ desired → (PyFloat.ofQuotient available desired.toNat).isSome = true) := by
  unfold ratioOf clampedRatio
  by_cases hdesired : desired < 1
  · rw [if_pos (.inr hdesired)]
    exact iff_of_true ⟨_, rfl⟩ fun hle => absurd hdesired (not_lt.2 hle)
  · have hbranch : ¬((Json.get status "ok").truthy = false ∨ desired < 1) := by
      simp [hok, hdesired]
    rw [if_neg hbranch]
    rcases PyFloat.ofQuotient available desired.toNat with _ | x
    · refine iff_of_false ?_ fun h => ?_
      · rintro ⟨x, hx⟩
        cases hx
      · cases h (not_lt.1 hdesired)
    · exact iff_of_true ⟨_, rfl⟩ fun _ => rfl

/-- **A sound snapshot** shows the deployment and has an availability. -/
theorem soundSnapshot_iff {snapshot : Snapshot} :
    SoundSnapshot py snapshot ↔
      Available snapshot ∧ ∃ x, availabilityRatio py snapshot = .ok x := by
  constructor
  · rintro ⟨status, desired, available, hstatus, hok, hdesired, havailable, hquotient⟩
    have hmapping := deploymentStatus_eq_ok.2 hstatus
    refine ⟨⟨status, hmapping, hok⟩, ?_⟩
    obtain ⟨x, hx⟩ := (ratioOf_isOk hok).2 hquotient
    refine ⟨x, ?_⟩
    simp only [availabilityRatio, hmapping, hdesired, havailable, bind, Except.bind]
    exact hx
  · rintro ⟨⟨status, hmapping, hok⟩, x, hx⟩
    rcases availabilityRatio_cases py snapshot with ⟨e, he, -⟩ |
      ⟨status', desired, available, hmapping', hdesired, havailable, hratio⟩
    · rw [he] at hx
      cases hx
    · obtain rfl : status' = status := Except.ok.inj (hmapping'.symm.trans hmapping)
      exact ⟨status', desired, available, deploymentStatus_eq_ok.1 hmapping, hok, hdesired,
        havailable, (ratioOf_isOk hok).1 ⟨x, hratio.symm.trans hx⟩⟩

/-- What is clamped is a number between zero and one, unless it is none. -/
theorem clampUnit_cases (x : PyFloat) :
    clampUnit x = .nan ∨ ∃ q : ℚ, clampUnit x = .finite q ∧ 0 ≤ q ∧ q ≤ 1 := by
  have hclamp : ∀ y : ℚ, 0 ≤ y → ∃ q : ℚ,
      (if PyFloat.lt (.finite 1) (.finite y) then PyFloat.finite 1 else .finite y) = .finite q ∧
        0 ≤ q ∧ q ≤ 1 := by
    intro y hnonneg
    by_cases hy : 1 < y
    · exact ⟨1, if_pos (decide_eq_true hy), zero_le_one, le_rfl⟩
    · exact ⟨y, if_neg (by simpa [PyFloat.lt] using hy), hnonneg, not_lt.1 hy⟩
  cases x with
  | finite x =>
      right
      unfold clampUnit
      by_cases hx : x < 0
      · have hneg : PyFloat.lt (.finite x) (.finite 0) = true := decide_eq_true hx
        rw [hneg]
        exact hclamp 0 le_rfl
      · have hnonneg : PyFloat.lt (.finite x) (.finite 0) = false := decide_eq_false hx
        rw [hnonneg]
        exact hclamp x (not_lt.1 hx)
  | nan => exact .inl rfl
  | posInf => exact .inr ⟨1, rfl, zero_le_one, le_rfl⟩
  | negInf =>
      right
      exact hclamp 0 le_rfl

/-- What is clamped and rounded, and is at least one, is one. -/
theorem round6_clampUnit_eq_one {x : PyFloat}
    (h : PyFloat.ge (clampUnit x).round6 (.finite 1) = true) :
    (clampUnit x).round6 = .finite 1 := by
  rcases clampUnit_cases x with hnan | ⟨q, hq, -, hle⟩
  · rw [hnan] at h
    exact absurd h (PyFloat.not_nan_ge _)
  · rw [hq] at h ⊢
    have hone : Binary64.nearest (Round.round6 1) = 1 := by decide +kernel
    have hupper : Binary64.nearest (Round.round6 q) ≤ 1 :=
      (Binary64.nearest_mono (Round.round6_mono hle)).trans hone.le
    have hlower : 1 ≤ Binary64.nearest (Round.round6 q) := by
      simpa [PyFloat.ge, PyFloat.lt, PyFloat.eq, PyFloat.round6, le_iff_lt_or_eq] using h
    exact congrArg PyFloat.finite (le_antisymm hupper hlower)

/-- An availability of at least one is one. -/
theorem availabilityRatio_eq_one {snapshot : Snapshot} {x : PyFloat}
    (h : availabilityRatio py snapshot = .ok x) (hx : PyFloat.ge x (.finite 1) = true) :
    x = .finite 1 := by
  rcases availabilityRatio_cases py snapshot with ⟨e, he, -⟩ |
    ⟨status, desired, available, -, -, -, hratio⟩
  · rw [he] at h
    cases h
  rw [hratio] at h
  unfold ratioOf clampedRatio at h
  split at h
  · obtain rfl := Except.ok.inj h
    exact absurd hx (by decide +kernel)
  · rcases hquotient : PyFloat.ofQuotient available desired.toNat with _ | y
    · rw [hquotient] at h
      cases h
    · rw [hquotient] at h
      obtain rfl := Except.ok.inj h
      exact round6_clampUnit_eq_one hx

/-! ### The rest of the `try` block -/

/-- What the rest of the `try` block makes of a record. -/
def derivedRecord (call : TreatmentCall) (measured : Measured) (record : TreatmentRecord)
    (availability : PyFloat) (desired : ℤ) : TreatmentRecord :=
  { record with
    measurementValid := true
    metricImprovement := Comparison.metricImprovement measured.faultValue measured.recoveredValue
      call.treatment.scenario.metricDirection
    availabilityRecovery := availability
    replicaDelta := desired - call.config.baselineReplicas
    recoverySuccess := measured.valid && PyFloat.ge availability (.finite 1) }

/-- **The ways through the rest of the `try` block**: everything is derived, or the availability is
not, and the record says that it is valid all the same. -/
theorem derive_cases {measured : Measured} {lab lab' : Lab σ} {r : Except Halt Unit}
    (h : (derive py call measured).run lab = (r, lab')) :
    (∃ availability desired, availabilityRatio py measured.after = .ok availability ∧ r = .ok () ∧
        lab'.record = derivedRecord call measured lab.record availability desired) ∨
      ∃ e, availabilityRatio py measured.after = .error e ∧ r = .error (some e) ∧
        lab'.record.measurementValid = true ∧
        lab'.record.recoverySuccess = lab.record.recoverySuccess ∧
        lab'.record.after = lab.record.after := by
  unfold derive at h
  rcases havailability : availabilityRatio py measured.after with e | availability
  · right
    rw [havailability] at h
    obtain ⟨rfl, rfl⟩ := Prod.mk.inj h
    exact ⟨e, rfl, rfl, rfl, rfl, rfl⟩
  · left
    obtain ⟨desired, hdesired⟩ := exists_desiredReplicas havailability
    rw [havailability, hdesired] at h
    obtain ⟨rfl, rfl⟩ := Prod.mk.inj h
    exact ⟨availability, desired, rfl, rfl, rfl⟩

/-! ### The whole treatment -/

/-- The state before the `try` block. -/
theorem unmeasured_start (env : σ) : Unmeasured (Lab.start runtime call env) := ⟨rfl, rfl, rfl⟩

variable (py runtime call polls) in
/-- The last snapshot of a treatment that gets to it is sound. -/
def AfterSound (env : σ) : Prop :=
  ∀ measured lab, (measure py runtime call polls).run (Lab.start runtime call env) =
    (.ok measured, lab) → SoundSnapshot py measured.after

/-- **The record after the `try` block.** -/
theorem treat_laws {env : σ} {lab : Lab σ}
    (h : (treat py runtime call polls).run (Lab.start runtime call env) = (.ok (), lab)) :
    (lab.record.recoverySuccess = true → lab.record.measurementValid = true ∧
        lab.record.safetyValid = true ∧ lab.record.availabilityRecovery = .finite 1) ∧
      ((lab.record.measurementValid = true →
          lab.record.error = "" ∧ ∃ snapshot, lab.record.after = some snapshot ∧ Available snapshot) ↔
        AfterSound py runtime call polls env) := by
  unfold treat at h
  obtain ⟨outcome, lab₁, hattempt, h⟩ := Eff.run_bind_ok h
  have hrun := Eff.run_attempt_ok hattempt
  have hstart : Unmeasured (Lab.start runtime call env) := unmeasured_start env
  have hspec := measure_spec py runtime call polls _ hstart
  rcases Eff.run_bind_cases hrun with ⟨halt, hmeasure, rfl⟩ | ⟨measured, lab₂, hmeasure, hderive⟩
  · -- an exception before the last snapshot
    have hunmeasured := hspec.2 _ _ hmeasure
    obtain ⟨-, rfl⟩ := Prod.mk.inj h
    refine ⟨fun hsuccess => ?_, iff_of_true (fun hvalid => ?_) fun measured lab hok => ?_⟩
    · rw [hunmeasured.recoverySuccess] at hsuccess
      cases hsuccess
    · rw [hunmeasured.measurementValid] at hvalid
      cases hvalid
    · rw [hmeasure] at hok
      cases hok
  · obtain ⟨hexecuted, hafter⟩ := hspec.1 _ _ hmeasure
    have hsound : AfterSound py runtime call polls env ↔ SoundSnapshot py measured.after := by
      refine ⟨fun hall => hall _ _ hmeasure, fun hone measured' lab' hok => ?_⟩
      rw [hmeasure] at hok
      obtain ⟨hsame, -⟩ := Prod.mk.inj hok
      rwa [← Except.ok.inj hsame]
    rw [hsound, soundSnapshot_iff]
    rcases derive_cases hderive with ⟨availability, desired, havailability, rfl, hrecord⟩ |
      ⟨e, herror, rfl, hvalid, hsuccess, hafter'⟩
    · obtain ⟨-, rfl⟩ := Prod.mk.inj h
      rw [hrecord]
      refine ⟨fun hsuccess => ?_, ?_⟩
      · obtain ⟨hvalid, hge⟩ := (Bool.and_eq_true_iff.1 hsuccess)
        exact ⟨rfl, hexecuted.safetyValid.trans hvalid, availabilityRatio_eq_one havailability hge⟩
      · constructor
        · intro hmeasured
          obtain ⟨-, snapshot, hsnapshot, havailable⟩ := hmeasured rfl
          obtain rfl := Option.some.inj (hafter.symm.trans hsnapshot)
          exact ⟨havailable, availability, havailability⟩
        · rintro ⟨havailable, -⟩ -
          exact ⟨hexecuted.unmeasured.error, _, hafter, havailable⟩
    · obtain ⟨-, rfl⟩ := Prod.mk.inj h
      have htext := (availabilityRatio_error herror).2
      refine ⟨fun hsuccess' => ?_, iff_of_false (fun hmeasured => htext ?_) ?_⟩
      · have hnone := hsuccess.trans hexecuted.unmeasured.recoverySuccess
        exact absurd (hnone.symm.trans hsuccess') nofun
      · exact (hmeasured hvalid).1
      · rintro ⟨-, x, hx⟩
        rw [herror] at hx
        cases hx

/-! ### The closing reset -/

theorem run_performDirect {α : Type} (m : Eff (Site σ) PyExn α) (lab : Lab σ) :
    (Lab.perform (Site.direct m)).run lab =
      ((match (m.run lab.site).1 with
        | .ok a => .ok a
        | .error e => .error (some e)), { lab with site := (m.run lab.site).2 }) := by
  rcases hm : m.run lab.site with ⟨e | a, site⟩ <;>
    simp only [Eff.run, Lab.perform, Eff.zoom, Site.direct] at hm ⊢ <;> rw [hm]

/-- The `finally` block leaves what the `try` block measured. -/
structure SameMeasurement (record record' : TreatmentRecord) : Prop where
  measurementValid : record'.measurementValid = record.measurementValid
  recoverySuccess : record'.recoverySuccess = record.recoverySuccess
  safetyValid : record'.safetyValid = record.safetyValid
  availabilityRecovery : record'.availabilityRecovery = record.availabilityRecovery
  after : record'.after = record.after
  error : record'.error = record.error

/-- **The `finally` block** attempts the deletion, and says truly whether the reset succeeded. -/
theorem cleanUp_spec {lab lab' : Lab σ} {r : Except Halt Unit}
    (h : (cleanUp runtime call).run lab = (r, lab')) :
    ∃ c final, lab'.site.calls = lab.site.calls ++ c :: final ∧
      c.outcome = (runtime.kubectl (deleteArgv call.treatment.scenario) lab.site.env).1 ∧
      (ResetAttempted call (c :: final) ↔ c.Succeeded) ∧ r ≠ .error none ∧
      (r = .ok () → (lab'.record.cleanupValid = true ↔ ResetSucceeded call (c :: final)) ∧
        SameMeasurement lab.record lab'.record) := by
  rcases hreset : (resetTreatment runtime call.treatment.scenario call.config).run lab.site with
    ⟨outcome, site⟩
  obtain ⟨c, final, hcalls, houtcome, hsucceeded, hattempted⟩ := resetTreatment_cases hreset
  have hrun := run_performDirect (resetTreatment runtime call.treatment.scenario call.config) lab
  rw [hreset] at hrun
  unfold cleanUp at h
  rcases Eff.run_bind_cases h with ⟨halt, hattempt, rfl⟩ | ⟨caught, lab₁, hattempt, h⟩
  · -- an exception that is not caught
    rcases Eff.run_attempt_cases hattempt with ⟨_, _, hr⟩ | ⟨_, _, _, hr⟩ | ⟨halt', hraised, -, hr⟩
    · cases hr
    · cases hr
    · obtain rfl := Except.error.inj hr
      rw [hrun] at hraised
      obtain ⟨hhalt, rfl⟩ := Prod.mk.inj hraised
      rcases outcome with e | ⟨⟩
      · refine ⟨c, final, hcalls, houtcome, hattempted, ?_, nofun⟩
        obtain rfl := Except.error.inj hhalt
        nofun
      · cases hhalt
  · have hraised := Eff.run_attempt_ok hattempt
    rw [hrun] at hraised
    obtain ⟨hcaught, rfl⟩ := Prod.mk.inj hraised
    rcases outcome with e | ⟨⟩
    · obtain rfl := hcaught
      obtain ⟨rfl, rfl⟩ := Prod.mk.inj h
      refine ⟨c, final, hcalls, houtcome, hattempted, nofun, fun _ => ⟨?_, ?_⟩⟩
      · rw [← hsucceeded]
        exact iff_of_false nofun nofun
      · exact ⟨rfl, rfl, rfl, rfl, rfl, rfl⟩
    · obtain rfl := hcaught
      obtain ⟨rfl, rfl⟩ := Prod.mk.inj h
      refine ⟨c, final, hcalls, houtcome, hattempted, nofun, fun _ => ⟨?_, ?_⟩⟩
      · rw [← hsucceeded]
        exact iff_of_true rfl rfl
      · exact ⟨rfl, rfl, rfl, rfl, rfl, rfl⟩

variable (py runtime call polls)

/-- The state after the `try` block. -/
def tried (env : σ) : Lab σ := ((treat py runtime call polls).run (Lab.start runtime call env)).2

/-- The kubectl calls of the closing reset. -/
def finalCalls (env : σ) : List KubectlCall :=
  ((treatAndCleanUp py runtime call polls).run (Lab.start runtime call env)).2.site.calls.drop
    (tried py runtime call polls env).site.calls.length

/-- The closing reset deletes the fault. -/
def FaultDeleted (env : σ) : Prop :=
  ∃ stdout stderr, (runtime.kubectl (deleteArgv call.treatment.scenario)
    (tried py runtime call polls env).site.env).1 = .ok (0, stdout, stderr)

variable {py runtime call polls}

/-- **The closing block runs after every exit** but that of a wait which is still polling. -/
theorem treatAndCleanUp_cases {env : σ} {outcome : Except Halt Unit} {lab : Lab σ}
    (h : (treat py runtime call polls).run (Lab.start runtime call env) = (outcome, lab)) :
    (outcome = .error none ∧ ∃ lab', (treatAndCleanUp py runtime call polls).run
        (Lab.start runtime call env) = (.error none, lab')) ∨
      ∃ r lab', (cleanUp runtime call).run lab = (r, lab') ∧
        (treatAndCleanUp py runtime call polls).run (Lab.start runtime call env) =
          (match r with
            | .ok () => outcome
            | .error halt => .error halt, lab') := by
  simp only [Eff.run] at h ⊢
  unfold treatAndCleanUp
  rw [h]
  rcases outcome with (_ | e) | ⟨⟩
  · exact .inl ⟨rfl, lab, rfl⟩
  · right
    rcases hclean : cleanUp runtime call lab with ⟨halt | ⟨⟩, lab'⟩
    · exact ⟨.error halt, lab', rfl, by simp only [hclean]⟩
    · exact ⟨.ok (), lab', rfl, by simp only [hclean]⟩
  · right
    rcases hclean : cleanUp runtime call lab with ⟨halt | ⟨⟩, lab'⟩
    · exact ⟨.error halt, lab', rfl, by simp only [hclean]⟩
    · exact ⟨.ok (), lab', rfl, by simp only [hclean]⟩

theorem run_runRecoveryTreatment (env : σ) :
    (runRecoveryTreatment py runtime call polls).run env =
      match (treatAndCleanUp py runtime call polls).run (Lab.start runtime call env) with
      | (.ok (), lab) => (.ok lab.record, lab.site.env)
      | (.error halt, lab) => (.error halt, lab.site.env) := rfl

variable (py runtime call polls)

/-- **The laws of a treatment.**  A record that is returned obeys them exactly if the closing reset
deletes the fault and the last snapshot, if there is one, is sound; and where an exception passes
through, the baseline is asked for exactly if the fault was deleted. -/
theorem treatment_laws_iff (env : σ) :
    (∀ record env', (runRecoveryTreatment py runtime call polls).run env = (.ok record, env') →
      (RecordLaws call record (finalCalls py runtime call polls env) ↔
        FaultDeleted py runtime call polls env ∧ AfterSound py runtime call polls env)) ∧
      ∀ exc env', (runRecoveryTreatment py runtime call polls).run env = (.error (some exc), env') →
        (ResetAttempted call (finalCalls py runtime call polls env) ↔
          FaultDeleted py runtime call polls env) := by
  rcases htreat : (treat py runtime call polls).run (Lab.start runtime call env) with ⟨outcome, lab⟩
  have htried : tried py runtime call polls env = lab := congrArg Prod.snd htreat
  rcases treatAndCleanUp_cases htreat with ⟨-, lab', hwhole⟩ | ⟨r, lab', hclean, hwhole⟩
  · -- still polling: nothing is returned or raised
    rw [run_runRecoveryTreatment, hwhole]
    refine ⟨fun record env' hrun => ?_, fun exc env' hrun => ?_⟩
    · cases (Prod.mk.inj hrun).1
    · cases (Prod.mk.inj hrun).1
  obtain ⟨c, final, hcalls, houtcome, hattempted, hnotPolling, hok⟩ := cleanUp_spec hclean
  have hfinal : finalCalls py runtime call polls env = c :: final := by
    rw [finalCalls, hwhole, htried, hcalls, List.drop_left]
  have hdeleted : FaultDeleted py runtime call polls env ↔ c.Succeeded := by
    rw [FaultDeleted, htried, KubectlCall.Succeeded, houtcome]
  rw [hfinal, hdeleted, run_runRecoveryTreatment, hwhole]
  refine ⟨fun record env' hrun => ?_, fun _ _ _ => hattempted⟩
  rcases r with halt | ⟨⟩
  · cases (Prod.mk.inj hrun).1
  rcases outcome with halt | ⟨⟩
  · cases (Prod.mk.inj hrun).1
  obtain rfl := Except.ok.inj (Prod.mk.inj hrun).1
  obtain ⟨hcleaned, hsame⟩ := hok rfl
  obtain ⟨hrecovered, hmeasured⟩ := treat_laws htreat
  constructor
  · intro hlaws
    refine ⟨hattempted.1 hlaws.attempted, hmeasured.1 fun hvalid => ?_⟩
    have hvalid' := hlaws.measured (hsame.measurementValid.trans hvalid)
    rwa [hsame.error, hsame.after] at hvalid'
  · rintro ⟨hdeletes, hsound⟩
    refine ⟨fun hvalid => ?_, fun hsuccess => ?_, hcleaned, hattempted.2 hdeletes⟩
    · rw [hsame.error, hsame.after]
      exact hmeasured.2 hsound (hsame.measurementValid.symm.trans hvalid)
    · rw [hsame.measurementValid, hsame.safetyValid, hsame.availabilityRecovery]
      exact hrecovered (hsame.recoverySuccess.symm.trans hsuccess)

end Laws

/-! ### Two treatments -/

namespace Treatment

/-- A scenario whose metric is high while the fault lasts. -/
def scenario : RecoveryScenario :=
  ⟨"cpu-stress", "prod", "web", "cpu.yaml", "cpu", .prometheus, .high, .finite (1 / 2),
    .finite (1 / 5), some "cpu", none⟩

/-- One replica, or two. -/
def config : RecoveryExperimentConfig where
  baselineReplicas := 1
  scaleReplicas := 2
  faultDetectionTimeoutSeconds := 60
  recoveryTimeoutSeconds := 60
  pollIntervalSeconds := 5
  actions := [.observeOnly]
  scenarios := [scenario]
  ids_nodup := List.nodup_singleton _
  baseline_pos := le_rfl
  scale_gt := by decide

/-- Observing this scenario, in mock mode. -/
def observing : TreatmentCall :=
  ⟨⟨"cpu-stress__observe_only__repeat-01", scenario, .observeOnly, 1⟩, config, "mock", "", "python",
    []⟩

/-- A snapshot of a deployment. -/
def shown (ok : Bool) : Snapshot :=
  [("deployment_status", .obj [("ok", .bool ok), ("desired_replicas", .int 1),
    ("available_replicas", .int 1)])]

/-- The metric is high in its second sample; after the third the snapshots show `last`. -/
def bench (returnCode : List String → ℤ) (last : Snapshot) : RecoveryExperimentRuntime ℕ where
  kubectl argv := fun n => (.ok (returnCode argv, "", ""), n)
  queryMetric _ _ := fun n => (.ok (if n = 1 then .finite (9 / 10) else .finite (1 / 10)), n + 1)
  snapshot _ _ := fun n => (.ok (if n = 3 then last else shown true), n)
  sleep _ := pure ()
  monotonic := pure (.finite 0)
  goGuard _ _ := pure (emptyResult "mock" "")
  now _ := ""

/-- The deployment is gone after the action. -/
def gone : RecoveryExperimentRuntime ℕ := bench (fun _ => 0) (shown false)

/-- The fault cannot be deleted. -/
def undeletable : RecoveryExperimentRuntime ℕ :=
  bench (fun argv => if "delete" ∈ argv then 1 else 0) (shown true)

/-- An interpreter for documents of ASCII texts. -/
def ascii : Interpreter := { Python.ascii with intOfText := fun _ => none }

/-- A snapshot shows the deployment. -/
def isShown (snapshot : Snapshot) : Bool :=
  match deploymentStatus snapshot with
  | .ok status => (Json.get status "ok").truthy
  | .error _ => false

theorem isShown_of_available {snapshot : Snapshot} (h : Available snapshot) :
    isShown snapshot = true := by
  obtain ⟨status, hstatus, hok⟩ := h
  rw [isShown, hstatus]
  exact hok

end Treatment

open Treatment in
/-- **A deployment that is gone is measured, and a fault that stays keeps its replicas.**  The
record of the first treatment is valid without a deployment; the reset of the second one ends at
the deletion and never asks for the baseline. -/
theorem records_disobey :
    (∃ record env', (runRecoveryTreatment ascii gone observing 1).run 0 = (.ok record, env') ∧
        record.measurementValid = true ∧
        ¬RecordLaws observing record (finalCalls ascii gone observing 1 0)) ∧
      ∃ record env', (runRecoveryTreatment ascii undeletable observing 1).run 0 =
          (.ok record, env') ∧
        ¬RecordLaws observing record (finalCalls ascii undeletable observing 1 0) := by
  constructor
  · have hrecord : ((runRecoveryTreatment ascii gone observing 1).run 0).1.toOption.map
        (fun record => (record.measurementValid, record.after.map isShown)) =
          some (true, some false) := by decide +kernel
    rcases hrun : (runRecoveryTreatment ascii gone observing 1).run 0 with ⟨halt | record, env'⟩
    · rw [hrun] at hrecord
      cases hrecord
    · rw [hrun] at hrecord
      obtain ⟨hvalid, hafter⟩ := Prod.mk.inj (Option.some.inj hrecord)
      refine ⟨record, env', rfl, hvalid, fun hlaws => ?_⟩
      obtain ⟨-, snapshot, hsnapshot, havailable⟩ := hlaws.measured hvalid
      rw [hsnapshot, Option.map_some, isShown_of_available havailable] at hafter
      cases hafter
  · have hcalls : (finalCalls ascii undeletable observing 1 0).map (·.argv) =
        [deleteArgv scenario] := by decide +kernel
    have hreturns : ((runRecoveryTreatment ascii undeletable observing 1).run 0).1.toOption.isSome =
        true := by decide +kernel
    rcases hrun : (runRecoveryTreatment ascii undeletable observing 1).run 0 with
      ⟨halt | record, env'⟩
    · rw [hrun] at hreturns
      cases hreturns
    · refine ⟨record, env', rfl, fun hlaws => ?_⟩
      have hscale := hlaws.attempted.2
      rw [hcalls] at hscale
      exact absurd hscale (by decide)

end Comparison
end AiopsK8s
