/-
# The values of a record

A record of a treatment as the mapping that is written to the file of outcomes, and what its values
are: where the metric and the snapshots are values of the interpreter and its floats are the numbers
of the binary format, every number of a record is one of its floats (`record_holds`).
-/

import AiopsK8s.Comparison.TreatmentLaws
import AiopsK8s.Lib.JsonLine

namespace AiopsK8s
namespace Comparison

open Effect Supervision Execution JsonText

/-! ### The record as a mapping -/

/-- The `action` of a record. -/
def actionFields (action : RecoveryAction) : List (String × Json) :=
  [("namespace", .str action.ns), ("deployment", .str action.deployment),
    ("kind", .str action.kind.value), ("replicas", .ofOption .int action.replicas),
    ("reason", .str action.reason)]

/-- The `command_result` of a record. -/
def commandResultFields (result : CommandResult) : List (String × Json) :=
  [("command", .str result.command), ("mode", .str result.mode), ("valid", .bool result.valid),
    ("stdout", .str result.stdout), ("stderr", .str result.stderr)]

namespace TreatmentRecord

variable (r : TreatmentRecord)

/-- The entries of `_empty_treatment_record`, as they are in the end. -/
def initialEntries : List (String × Json) :=
  [("treatment_id", .str r.treatmentId), ("scenario", .str r.scenario),
    ("repetition", .int r.repetition), ("mode", .str r.mode), ("started_at", .str r.startedAt),
    ("finished_at", .str r.finishedAt), ("action", .obj (actionFields r.action)),
    ("recovery_success", .bool r.recoverySuccess),
    ("availability_recovery", .float r.availabilityRecovery),
    ("metric_improvement", .float r.metricImprovement),
    ("recovery_seconds", .float r.recoverySeconds), ("replica_delta", .int r.replicaDelta),
    ("command_count", .int r.commandCount), ("safety_valid", .bool r.safetyValid),
    ("measurement_valid", .bool r.measurementValid), ("cleanup_valid", .bool r.cleanupValid),
    ("error", .str r.error)]

/-- The entries that the treatment adds, in the order of the assignments. -/
def addedEntries : List (String × Option Json) :=
  [("before", r.before.map .obj), ("metric_before_fault", r.metricBeforeFault.map .float),
    ("fault", r.fault.map .obj), ("metric_at_fault", r.metricAtFault.map .float),
    ("fault_detection_seconds", r.faultDetectionSeconds.map .float),
    ("command_result", r.commandResult.map fun result => .obj (commandResultFields result)),
    ("metric_after_action", r.metricAfterAction.map .float), ("after", r.after.map .obj),
    ("cleanup_error", r.cleanupError.map .str)]

/-- The record, a mapping. -/
def toDict : List (String × Json) :=
  r.initialEntries ++ r.addedEntries.filterMap fun e => e.2.map (e.1, ·)

/-- Each key is there once. -/
theorem nodup_toDict : (r.toDict.map Prod.fst).Nodup := by
  have hadded : ((r.addedEntries.filterMap fun e => e.2.map (e.1, ·)).map Prod.fst).Sublist
      (r.addedEntries.map Prod.fst) := by
    induction r.addedEntries with
    | nil => exact .slnil
    | cons e entries ih =>
        rcases h : e.2 with _ | value
        · simp only [List.filterMap_cons, h, Option.map_none, List.map_cons]
          exact ih.cons _
        · simp only [List.filterMap_cons, h, Option.map_some, List.map_cons]
          exact ih.cons_cons _
  have hkeys : (r.initialEntries.map Prod.fst ++ r.addedEntries.map Prod.fst).Nodup := by
    simp only [initialEntries, addedEntries, List.map_cons, List.map_nil]
    decide
  rw [toDict, List.map_append]
  exact hkeys.sublist ((List.Sublist.refl _).append hadded)

end TreatmentRecord

/-! ### The floats of a record -/

variable {py : Python}

/-- The float is one of the interpreter's. -/
abbrev IsFloatValue (fl : Floats py) (x : PyFloat) : Prop := IsValue fl (.float x)

/-- **The floats of the interpreter are the numbers of the format**, all that are in its range. -/
def Binary (fl : Floats py) : Prop := ∀ q, |q| < Binary64.limit → fl.IsFloat (Binary64.nearest q)

/-- The float lies in the range of the format. -/
def InRange (x : PyFloat) : Prop := ∀ q, x = .finite q → |q| ≤ Binary64.largest

theorem inRange_sub (x y : PyFloat) : InRange (PyFloat.sub x y) := by
  have hexact : ∀ q, InRange (PyFloat.ofExact q) := by
    intro q z hz
    unfold PyFloat.ofExact at hz
    split_ifs at hz with hlimit hpos
    · obtain rfl := PyFloat.finite.inj hz
      exact Binary64.abs_nearest_le hlimit
  rcases x with x | - | - | - <;> rcases y with y | - | - | - <;>
    first | exact hexact _ | (intro q hq; cases hq)

theorem inRange_clampUnit (x : PyFloat) : InRange (clampUnit x) := by
  intro q hq
  rcases clampUnit_cases x with hnan | ⟨q', hq', hnonneg, hle⟩
  · rw [hnan] at hq
    cases hq
  · rw [hq'] at hq
    obtain rfl := PyFloat.finite.inj hq
    rw [abs_of_nonneg hnonneg]
    exact hle.trans Binary64.one_le_largest

/-- Rounding to six decimals stays in the range, whose ends are integers. -/
theorem abs_round6_le {q : ℚ} (h : |q| ≤ Binary64.largest) :
    |Round.round6 q| ≤ Binary64.largest := by
  obtain ⟨n, hn⟩ : ∃ n : ℤ, Binary64.largest = (n : ℚ) / 1000000 := by
    refine ⟨(2 ^ 53 - 1) * 2 ^ 971 * 1000000, ?_⟩
    rw [Int.cast_mul, Int.cast_mul, Int.cast_sub, Int.cast_pow, Int.cast_pow]
    unfold Binary64.largest
    rw [show (971 : ℤ) = ((971 : ℕ) : ℤ) from rfl, zpow_natCast]
    push_cast
    rw [mul_div_cancel_right₀ _ (by norm_num)]
  have hends : Round.round6 Binary64.largest = Binary64.largest ∧
      Round.round6 (-Binary64.largest) = -Binary64.largest := by
    rw [hn, Round.round6_grid, ← neg_div, ← Int.cast_neg, Round.round6_grid]
    exact ⟨rfl, rfl⟩
  obtain ⟨hlow, hhigh⟩ := abs_le.1 h
  exact abs_le.2 ⟨hends.2 ▸ Round.round6_mono hlow, hends.1 ▸ Round.round6_mono hhigh⟩

section Floats

variable {fl : Floats py} (hbinary : Binary fl)

include hbinary

/-- `round(x, 6)` of a float in the range is a float. -/
theorem isFloatValue_round6 {x : PyFloat} (hx : InRange x) :
    IsFloatValue fl (PyFloat.round6 x) := by
  cases x with
  | finite q => exact hbinary _ ((abs_round6_le (hx q rfl)).trans_lt Binary64.largest_lt_limit)
  | nan => trivial
  | posInf => trivial
  | negInf => trivial

theorem isFloatValue_zero : IsFloatValue fl (.finite 0) := by
  have h := hbinary 0 (by
    rw [abs_zero]
    exact Binary64.largest_nonneg.trans_lt Binary64.largest_lt_limit)
  rwa [Binary64.nearest_zero] at h

/-- A quotient of integers, clamped, is a float. -/
theorem isFloatValue_clampedRatio {available desired : ℤ} {x : PyFloat}
    (h : clampedRatio available desired = .ok x) : IsFloatValue fl x := by
  unfold clampedRatio at h
  split at h
  · rename_i y hy
    obtain ⟨hlimit, rfl⟩ := PyFloat.ofQuotient_eq_some.1 hy
    obtain rfl := Except.ok.inj h
    have hone : fl.IsFloat 1 := by
      have hnearest := hbinary 1 (by
        rw [abs_one]
        exact Binary64.one_le_largest.trans_lt Binary64.largest_lt_limit)
      rwa [show Binary64.nearest 1 = 1 by exact_mod_cast Binary64.nearest_natCast (n := 1) (by norm_num)]
        at hnearest
    have hupper : ∀ y, IsFloatValue fl y →
        IsFloatValue fl (if PyFloat.lt (.finite 1) y then .finite 1 else y) := by
      intro y hy
      split
      · exact hone
      · exact hy
    unfold clampUnit
    refine hupper _ ?_
    split
    · exact isFloatValue_zero hbinary
    · exact hbinary _ hlimit
  · cases h

theorem isFloatValue_availabilityRatio {py' : Interpreter} {snapshot : Snapshot} {x : PyFloat}
    (h : availabilityRatio py' snapshot = .ok x) : IsFloatValue fl x := by
  obtain ⟨status, -, h⟩ := bind_eq_ok h
  obtain ⟨desired, -, h⟩ := bind_eq_ok h
  obtain ⟨available, -, h⟩ := bind_eq_ok h
  split at h
  · obtain rfl := Except.ok.inj h
    exact isFloatValue_zero hbinary
  · rcases hratio : clampedRatio available desired with e | y
    · rw [hratio] at h
      cases h
    · rw [hratio] at h
      obtain rfl := Except.ok.inj h
      refine isFloatValue_round6 hbinary ?_
      unfold clampedRatio at hratio
      split at hratio
      · obtain rfl := Except.ok.inj hratio
        exact inRange_clampUnit _
      · cases hratio

theorem isFloatValue_availabilityEvidence {py' : Interpreter} {snapshot : Snapshot} {x : PyFloat}
    (h : availabilityEvidence py' snapshot = .ok x) : IsFloatValue fl x := by
  obtain ⟨status, -, h⟩ := bind_eq_ok h
  obtain ⟨_, -, h⟩ := bind_eq_ok h
  obtain ⟨desired, -, h⟩ := bind_eq_ok h
  obtain ⟨available, -, h⟩ := bind_eq_ok h
  obtain ⟨_, -, h⟩ := bind_eq_ok h
  exact isFloatValue_clampedRatio hbinary h

theorem isFloatValue_metricImprovement (faultValue recoveredValue : PyFloat)
    (direction : MetricDirection) :
    IsFloatValue fl (metricImprovement faultValue recoveredValue direction) :=
  isFloatValue_round6 hbinary (inRange_clampUnit _)

end Floats

/-! ### What a treatment writes -/

/-- The values of a record are values of the interpreter. -/
structure TreatmentRecord.Holds (fl : Floats py) (r : TreatmentRecord) : Prop where
  availabilityRecovery : IsFloatValue fl r.availabilityRecovery
  metricImprovement : IsFloatValue fl r.metricImprovement
  recoverySeconds : IsFloatValue fl r.recoverySeconds
  numbers : ∀ x, some x ∈ [r.metricBeforeFault, r.metricAtFault, r.faultDetectionSeconds,
    r.metricAfterAction] → IsFloatValue fl x
  snapshots : ∀ s, some s ∈ [r.before, r.fault, r.after] → IsValue fl (.obj s)

/-- The metric and the snapshots are values of the interpreter. -/
structure RecoveryExperimentRuntime.Yields {σ : Type} (fl : Floats py)
    (runtime : RecoveryExperimentRuntime σ) : Prop where
  queryMetric : ∀ url query env x env',
    runtime.queryMetric url query env = (.ok x, env') → IsFloatValue fl x
  snapshot : ∀ ns deployment env s env',
    runtime.snapshot ns deployment env = (.ok s, env') → IsValue fl (.obj s)

/-- Whatever the computation returns has the property. -/
def Gives {σ ε α : Type} (m : Eff σ ε α) (Q : α → Prop) : Prop :=
  Triple (fun _ => True) m (fun a _ => Q a) fun _ _ => True

section Gives

variable {σ α β : Type} {Q : α → Prop}

theorem Gives.bind {ε : Type} {m : Eff σ ε α} {f : α → Eff σ ε β} {R : β → Prop} (hm : Gives m Q)
    (hf : ∀ a, Q a → Gives (f a) R) : Gives (m >>= f) R :=
  Triple.bind hm fun a s hs => hf a hs s trivial

theorem Gives.pure {ε : Type} {a : α} (h : Q a) : Gives (Pure.pure a : Eff σ ε α) Q :=
  Triple.pure fun _ _ => h

theorem Gives.any {ε : Type} (m : Eff σ ε α) : Gives m fun _ => True := Triple.trivial

theorem Gives.ofExcept {ε : Type} {r : Except ε α} (h : ∀ a, r = .ok a → Q a) :
    Gives (Eff.ofExcept r : Eff σ ε α) Q :=
  Triple.ofExcept (fun a _ ha _ => h a ha) fun _ _ _ _ => trivial

theorem Gives.call {m : Eff σ PyExn α} (h : ∀ env a env', m env = (.ok a, env') → Q a) :
    Gives (Site.call m) Q := by
  intro site _
  refine ⟨fun a site' hrun => ?_, fun _ _ _ => trivial⟩
  rcases hm : m site.env with ⟨r, env'⟩
  rw [Site.call, Eff.run_zoom, Eff.run, hm] at hrun
  obtain rfl : r = .ok a := congrArg Prod.fst hrun
  exact h _ _ _ hm

theorem Gives.direct {m : Eff (Site σ) PyExn α} (h : Gives m Q) : Gives (Site.direct m) Q := by
  intro site _
  refine ⟨fun a site' hrun => ?_, fun _ _ _ => trivial⟩
  rcases hm : m site with ⟨e | b, site₁⟩
  · simp only [Eff.run, Site.direct, hm] at hrun
    cases hrun
  · simp only [Eff.run, Site.direct, hm] at hrun
    obtain rfl := Except.ok.inj (congrArg Prod.fst hrun)
    exact (h site trivial).1 _ _ hm

/-- A computation in the surroundings, from any state of the laboratory. -/
theorem Gives.perform {I : Lab σ → Prop} {m : Eff (Site σ) Halt α} (h : Gives m Q)
    (hI : ∀ site lab, I lab → I { lab with site }) :
    Triple I (Lab.perform m) (fun a lab => Q a ∧ I lab) (fun _ => I) := by
  intro lab hlab
  have hkept := stable_perform m hI lab hlab
  refine ⟨fun a lab' hrun => ⟨?_, hkept.1 a lab' hrun⟩, hkept.2⟩
  rcases hm : m lab.site with ⟨r, site⟩
  rw [Lab.perform, Eff.run_zoom, Eff.run, hm] at hrun
  obtain rfl : r = .ok a := congrArg Prod.fst hrun
  exact (h lab.site trivial).1 _ _ hm

end Gives

section Treatments

variable {σ : Type} {fl : Floats py} {py' : Interpreter} {runtime : RecoveryExperimentRuntime σ}
variable {call : TreatmentCall} {polls : ℕ}

/-- What is waited for has the property, and the seconds are a difference. -/
def Waited {α : Type} (Q : α → Prop) (p : α × PyFloat) : Prop :=
  Q p.1 ∧ ∃ stopped started, p.2 = PyFloat.sub stopped started

theorem gives_pollLoop {α : Type} {Q : α → Prop} {what : String}
    {probe : Eff (Site σ) PyExn (Except String α)} {started : PyFloat}
    {timeoutSeconds pollIntervalSeconds : ℤ}
    (hprobe : Gives probe fun found => ∀ a, found = .ok a → Q a) :
    Gives (pollLoop runtime what probe started timeoutSeconds pollIntervalSeconds polls)
      (Waited Q) := by
  have honce : Gives (pollOnce runtime probe started) fun found =>
      ∀ p, found = .ok p → Waited Q p := by
    unfold pollOnce
    refine hprobe.bind fun found hfound => ?_
    cases found with
    | error text => exact Gives.pure nofun
    | ok a =>
        refine (Gives.any _).bind fun stopped _ => Gives.pure fun p hp => ?_
        obtain rfl := Except.ok.inj hp
        exact ⟨hfound a rfl, stopped, started, rfl⟩
  induction polls with
  | zero => exact Triple.raise fun _ _ => trivial
  | succ polls ih =>
      have hattempt : Gives (Eff.attempt PyExn.isException (pollOnce runtime probe started))
          fun found => ∀ p, lastError found = .ok p → Waited Q p := by
        refine (Triple.attempt honce fun _ _ _ _ => trivial).weaken (fun _ h => h) ?_
          fun _ _ _ => trivial
        intro found _ hfound p hp
        cases found with
        | error e => cases hp
        | ok found => exact hfound p hp
      unfold pollLoop
      refine hattempt.direct.bind fun found hfound => ?_
      cases hlast : lastError found with
      | ok p => exact Gives.pure (hfound p hlast)
      | error text =>
          refine (Gives.any _).bind fun current _ => ?_
          refine Triple.ite (fun _ => Triple.raise fun _ _ => trivial) fun _ => ?_
          exact (Gives.any _).bind fun _ _ => ih

variable (hbinary : Binary fl) (hyields : runtime.Yields fl)

include hbinary hyields

theorem gives_sampleEvidence (scenario : RecoveryScenario) (prometheusUrl query : String) :
    Gives (sampleEvidence py' runtime scenario prometheusUrl query) (IsFloatValue fl) := by
  unfold sampleEvidence
  refine Triple.ite (fun _ => Gives.call fun env x env' h => hyields.queryMetric _ _ env x env' h)
    fun _ => ?_
  exact (Gives.any _).bind fun snapshot _ => Gives.ofExcept fun x hx =>
    isFloatValue_availabilityEvidence hbinary hx

theorem gives_waitForEvidence (scenario : RecoveryScenario) (prometheusUrl query : String)
    (timeoutSeconds pollIntervalSeconds : ℤ) (predicate : PyFloat → Bool) :
    Gives (waitForEvidence py' runtime polls scenario prometheusUrl query timeoutSeconds
      pollIntervalSeconds predicate) (Waited (IsFloatValue fl)) := by
  unfold waitForEvidence
  refine (Gives.any _).bind fun started _ => gives_pollLoop ?_
  unfold evidenceProbe
  refine (gives_sampleEvidence hbinary hyields _ _ _).bind fun value hvalue => ?_
  refine Triple.ite (fun _ => Gives.pure fun a ha => ?_) fun _ => Gives.pure nofun
  obtain rfl := Except.ok.inj ha
  exact hvalue

omit hbinary in
theorem gives_waitForPodReplacement (scenario : RecoveryScenario) (baselineUids : List String)
    (timeoutSeconds pollIntervalSeconds : ℤ) :
    Gives (waitForPodReplacement py' runtime polls scenario baselineUids timeoutSeconds
      pollIntervalSeconds) (Waited fun s => IsValue fl (.obj s)) := by
  unfold waitForPodReplacement
  refine (Gives.any _).bind fun _ _ => (Gives.any _).bind fun started _ => gives_pollLoop ?_
  unfold replacementProbe
  refine (Gives.call fun env s env' h => hyields.snapshot _ _ env s env' h).bind fun s hs => ?_
  refine (Gives.any _).bind fun uids _ => ?_
  refine Triple.ite (fun _ => Gives.pure fun a ha => ?_) fun _ => Gives.pure nofun
  obtain rfl := Except.ok.inj ha
  exact hs

/-- The record of the laboratory holds. -/
abbrev HoldsLab (fl : Floats py) (lab : Lab σ) : Prop := lab.record.Holds fl

omit hbinary hyields in
theorem performs {α : Type} {Q : α → Prop} {m : Eff (Site σ) Halt α} (h : Gives m Q) :
    Triple (HoldsLab fl) (Lab.perform m) (fun a lab => Q a ∧ HoldsLab fl lab)
      (fun _ => HoldsLab fl) :=
  h.perform fun _ _ hlab => hlab

omit hbinary hyields in
/-- A computation that returns nothing of interest. -/
theorem performs_any {α : Type} (m : Eff (Site σ) Halt α) :
    Triple (HoldsLab fl) (Lab.perform m) (fun _ => HoldsLab fl) (fun _ => HoldsLab fl) :=
  stable_perform m fun _ _ hlab => hlab

omit hbinary hyields in
/-- Writing what a computation returned. -/
theorem writes {α : Type} {Q : α → Prop} {a : α} {f : TreatmentRecord → TreatmentRecord}
    (h : ∀ r : TreatmentRecord, Q a → r.Holds fl → (f r).Holds fl) :
    Triple (fun lab => Q a ∧ HoldsLab fl lab) (Lab.write f : Eff (Lab σ) Halt Unit)
      (fun _ lab => Q a ∧ HoldsLab fl lab) (fun _ => HoldsLab fl) :=
  Triple.modify fun lab hlab => ⟨hlab.1, h lab.record hlab.1 hlab.2⟩

omit hbinary in
theorem takeSnapshot_holds : Triple (HoldsLab fl) (takeSnapshot runtime call)
    (fun s lab => IsValue fl (.obj s) ∧ HoldsLab fl lab) (fun _ => HoldsLab fl) :=
  performs (Gives.direct (Gives.call fun env s env' h => hyields.snapshot _ _ env s env' h))

theorem measureBefore_holds : Triple (HoldsLab fl) (measureBefore py' runtime call)
    (fun _ => HoldsLab fl) (fun _ => HoldsLab fl) := by
  unfold measureBefore
  refine .bind (performs_any _) fun query => .bind (performs_any _) fun _ => ?_
  refine .bind (takeSnapshot_holds hyields) fun before => ?_
  refine .bind (writes fun r hs hr => ⟨hr.availabilityRecovery, hr.metricImprovement,
    hr.recoverySeconds, hr.numbers, fun s hmem => ?_⟩) fun _ => ?_
  · rcases List.mem_cons.1 hmem with hfirst | hmem
    · obtain rfl := Option.some.inj hfirst
      exact hs
    · exact hr.snapshots s (List.mem_cons_of_mem _ hmem)
  refine .bind (.weaken (performs (Q := IsFloatValue fl) (Gives.direct ?_)) (fun _ h => h.2)
    (fun _ _ h => h) fun _ _ h => h) fun value => ?_
  · refine Triple.ite (fun _ => gives_sampleEvidence hbinary hyields _ _ _) fun _ => ?_
    exact Gives.ofExcept fun x hx => isFloatValue_availabilityEvidence hbinary hx
  refine .bind (writes fun r hx hr => ⟨hr.availabilityRecovery, hr.metricImprovement,
    hr.recoverySeconds, fun x hmem => ?_, hr.snapshots⟩) fun _ => .pure fun _ h => h.2
  rcases List.mem_cons.1 hmem with hfirst | hmem
  · obtain rfl := Option.some.inj hfirst
    exact hx
  · exact hr.numbers x (List.mem_cons_of_mem _ hmem)

omit hyields in
/-- The seconds of a wait, rounded. -/
theorem isFloatValue_waited {α : Type} {Q : α → Prop} {p : α × PyFloat} (h : Waited Q p) :
    IsFloatValue fl p.2.round6 := by
  obtain ⟨-, stopped, started, hp⟩ := h
  rw [hp]
  exact isFloatValue_round6 hbinary (inRange_sub _ _)

/-- What a wait for the fault returns: a value of the metric and the seconds. -/
abbrev WaitedValue (fl : Floats py) : PyFloat × PyFloat → Prop := Waited (IsFloatValue fl)

omit hbinary hyields in
/-- The snapshot that shows the fault is a value. -/
theorem holds_fault {r : TreatmentRecord} {s : Snapshot} (hs : IsValue fl (.obj s))
    (hr : r.Holds fl) : ({ r with fault := some s } : TreatmentRecord).Holds fl := by
  refine ⟨hr.availabilityRecovery, hr.metricImprovement, hr.recoverySeconds, hr.numbers, ?_⟩
  intro s' hmem
  simp only [List.mem_cons, Option.some.injEq, List.not_mem_nil, or_false] at hmem
  rcases hmem with hbefore | rfl | hafter
  · exact hr.snapshots s' (by simp [hbefore])
  · exact hs
  · exact hr.snapshots s' (by simp [hafter])

theorem waitForFault_holds (query : String) (before : Snapshot) :
    Triple (HoldsLab fl) (waitForFault py' runtime call polls query before)
      (fun p lab => WaitedValue fl p ∧ HoldsLab fl lab) (fun _ => HoldsLab fl) := by
  unfold waitForFault
  refine Triple.ite (fun _ => ?_) fun _ => ?_
  · unfold waitForReplacedPod
    refine .bind (performs_any _) fun uids => ?_
    refine .bind (performs (gives_waitForPodReplacement hyields _ _ _ _)) fun p => ?_
    refine .bind (writes fun r hp hr => holds_fault hp.1 hr) fun _ => ?_
    exact .pure fun lab h => ⟨⟨isFloatValue_zero hbinary, h.1.2⟩, h.2⟩
  · unfold waitForFaultedMetric
    refine .bind (performs (gives_waitForEvidence hbinary hyields _ _ _ _ _ _)) fun p => ?_
    by_cases hp : WaitedValue fl p
    swap
    · exact fun lab hlab => absurd hlab.1 hp
    refine .bind (.weaken (takeSnapshot_holds hyields) (fun _ h => h.2) (fun _ _ h => h)
      fun _ _ h => h) fun fault => ?_
    refine .bind (writes fun r hs hr => holds_fault hs hr) fun _ => ?_
    exact .pure fun lab h => ⟨hp, h.2⟩

theorem injectFault_holds (query : String) (before : Snapshot) :
    Triple (HoldsLab fl) (injectFault py' runtime call polls query before)
      (fun _ => HoldsLab fl) (fun _ => HoldsLab fl) := by
  unfold injectFault
  refine .bind (performs_any _) fun _ => ?_
  refine .bind (waitForFault_holds hbinary hyields query before) fun p => ?_
  refine .bind (writes fun r hp hr => ⟨hr.availabilityRecovery, hr.metricImprovement,
    hr.recoverySeconds, fun x hmem => ?_, hr.snapshots⟩) fun _ => .pure fun _ h => h.2
  simp only [List.mem_cons, Option.some.injEq, List.not_mem_nil, or_false] at hmem
  rcases hmem with hbefore | rfl | rfl | hafter
  · exact hr.numbers x (by simp [hbefore])
  · exact hp.1
  · exact isFloatValue_waited hbinary hp
  · exact hr.numbers x (by simp [hafter])

omit hbinary hyields in
theorem carryOutAction_holds : Triple (HoldsLab fl) (carryOutAction runtime call)
    (fun _ => HoldsLab fl) (fun _ => HoldsLab fl) := by
  unfold carryOutAction
  refine .bind (performs_any _) fun result => .bind (.modify fun lab hlab => ?_) fun _ =>
    .pure fun _ h => h
  exact ⟨hlab.availabilityRecovery, hlab.metricImprovement, hlab.recoverySeconds, hlab.numbers,
    hlab.snapshots⟩

theorem measure_holds : Triple (HoldsLab fl) (measure py' runtime call polls)
    (fun _ => HoldsLab fl) (fun _ => HoldsLab fl) := by
  unfold measure
  refine .bind (measureBefore_holds hbinary hyields) fun start => ?_
  refine .bind (injectFault_holds hbinary hyields _ _) fun faultValue => ?_
  refine .bind carryOutAction_holds fun result => ?_
  refine .bind (performs (gives_waitForEvidence hbinary hyields _ _ _ _ _ _)) fun p => ?_
  refine .bind (writes fun r hp hr => ⟨hr.availabilityRecovery, hr.metricImprovement,
    isFloatValue_waited hbinary hp, fun x hmem => ?_, hr.snapshots⟩) fun _ => ?_
  · simp only [List.mem_cons, Option.some.injEq, List.not_mem_nil, or_false] at hmem
    rcases hmem with h | h | h | rfl
    · exact hr.numbers x (by simp [h])
    · exact hr.numbers x (by simp [h])
    · exact hr.numbers x (by simp [h])
    · exact hp.1
  refine .bind (.weaken (takeSnapshot_holds hyields) (fun _ h => h.2) (fun _ _ h => h)
    fun _ _ h => h) fun after => ?_
  refine .bind (writes fun r hs hr => ⟨hr.availabilityRecovery, hr.metricImprovement,
    hr.recoverySeconds, hr.numbers, fun s hmem => ?_⟩) fun _ => .pure fun _ h => h.2
  simp only [List.mem_cons, Option.some.injEq, List.not_mem_nil, or_false] at hmem
  rcases hmem with h | h | rfl
  · exact hr.snapshots s (by simp [h])
  · exact hr.snapshots s (by simp [h])
  · exact hs

omit hyields in
theorem derive_holds (measured : Measured) : Triple (HoldsLab fl) (derive py' call measured)
    (fun _ (lab : Lab σ) => HoldsLab fl lab) (fun _ => HoldsLab fl) := by
  unfold derive
  refine .bind (Q := fun _ => HoldsLab fl) (.modify fun lab hlab => ?_) fun _ => ?_
  · exact ⟨hlab.availabilityRecovery, isFloatValue_metricImprovement hbinary _ _ _,
      hlab.recoverySeconds, hlab.numbers, hlab.snapshots⟩
  refine .bind (performs (Gives.direct (Gives.ofExcept fun x hx =>
    isFloatValue_availabilityRatio hbinary hx))) fun availability => ?_
  refine .bind (writes fun r hx hr => ⟨hx, hr.metricImprovement, hr.recoverySeconds, hr.numbers,
    hr.snapshots⟩) fun _ => ?_
  refine .bind (.weaken (performs_any _) (fun _ h => h.2) (fun _ _ h => h) fun _ _ h => h)
    fun desired => .modify fun lab hlab => ?_
  exact ⟨hlab.availabilityRecovery, hlab.metricImprovement, hlab.recoverySeconds, hlab.numbers,
    hlab.snapshots⟩

theorem treat_holds : Triple (HoldsLab fl) (treat py' runtime call polls)
    (fun _ => HoldsLab fl) (fun _ => HoldsLab fl) := by
  unfold treat
  refine .bind (Triple.attempt (.bind (measure_holds hbinary hyields) fun measured =>
    derive_holds hbinary measured) fun _ _ _ h => h) fun outcome => ?_
  cases outcome with
  | ok u => exact .pure fun _ h => h
  | error halt =>
      refine .modify fun lab hlab => ?_
      have hr := hlab.2
      exact ⟨hr.availabilityRecovery, hr.metricImprovement, hr.recoverySeconds, hr.numbers,
        hr.snapshots⟩

omit hbinary hyields in
theorem cleanUp_holds : Triple (HoldsLab fl) (cleanUp runtime call) (fun _ => HoldsLab fl)
    (fun _ => HoldsLab fl) := by
  have hsame : ∀ {r r' : TreatmentRecord}, r.Holds fl →
      r'.availabilityRecovery = r.availabilityRecovery →
      r'.metricImprovement = r.metricImprovement → r'.recoverySeconds = r.recoverySeconds →
      [r'.metricBeforeFault, r'.metricAtFault, r'.faultDetectionSeconds, r'.metricAfterAction] =
        [r.metricBeforeFault, r.metricAtFault, r.faultDetectionSeconds, r.metricAfterAction] →
      [r'.before, r'.fault, r'.after] = [r.before, r.fault, r.after] → r'.Holds fl :=
    fun hr h₁ h₂ h₃ h₄ h₅ => ⟨h₁ ▸ hr.availabilityRecovery, h₂ ▸ hr.metricImprovement,
      h₃ ▸ hr.recoverySeconds, h₄ ▸ hr.numbers, h₅ ▸ hr.snapshots⟩
  unfold cleanUp
  refine .bind (Triple.attempt (performs_any _) fun _ _ _ h => h) fun outcome => ?_
  have hfinish : Triple (HoldsLab fl) (Eff.modify fun lab : Lab σ => { lab with
      record := { lab.record with finishedAt := runtime.now lab.site.env } } : Eff (Lab σ) Halt Unit)
      (fun _ => HoldsLab fl) (fun _ => HoldsLab fl) :=
    .modify fun lab hlab => hsame hlab rfl rfl rfl rfl rfl
  cases outcome with
  | ok u =>
      exact .bind (Q := fun _ => HoldsLab fl)
        (.modify fun lab hlab => hsame hlab rfl rfl rfl rfl rfl) fun _ => hfinish
  | error halt =>
      exact .bind (Q := fun _ => HoldsLab fl)
        (.modify fun lab hlab => hsame hlab.2 rfl rfl rfl rfl rfl) fun _ => hfinish

/-- **The values of a record that a treatment returns** are values of the interpreter. -/
theorem record_holds {env env' : σ} {record : TreatmentRecord}
    (h : (runRecoveryTreatment py' runtime call polls).run env = (.ok record, env')) :
    record.Holds fl := by
  have hstart : HoldsLab fl (Lab.start runtime call env) := by
    have hzero := isFloatValue_zero hbinary
    exact ⟨hzero, hzero, hzero, by simp [Lab.start, emptyTreatmentRecord],
      by simp [Lab.start, emptyTreatmentRecord]⟩
  rw [run_runRecoveryTreatment] at h
  rcases htreat : (treat py' runtime call polls).run (Lab.start runtime call env) with
    ⟨outcome, lab⟩
  have hlab : HoldsLab fl lab := Stable.holds (treat_holds hbinary hyields) hstart htreat
  rcases treatAndCleanUp_cases htreat with ⟨-, lab', hrun⟩ | ⟨r, lab', hclean, hrun⟩
  · rw [hrun] at h
    cases h
  · have hlab' : HoldsLab fl lab' := Stable.holds cleanUp_holds hlab hclean
    rw [hrun] at h
    rcases r with halt | ⟨⟩
    · cases h
    · rcases outcome with halt | ⟨⟩
      · cases h
      · obtain rfl := Except.ok.inj (congrArg Prod.fst h)
        exact hlab'

end Treatments

end Comparison
end AiopsK8s
