/-
# The recovery monitor

`KubernetesSnapshotRecoveryMonitor` of `recovery_monitor.py`.  After a valid execution it inspects
the snapshot it was given and then, after a pause each, the ones it collects, until one of them
shows the state transition that the action asks for or `max_attempts` of them have been inspected.
A run is recorded with its calls, so that statements about what was collected are statements about
runs.

Two places raise: the text of an integer of more than 4300 digits, and a quotient of integers
beyond the range of a float.  `Measurable` says when a snapshot meets neither.
-/

import AiopsK8s.Lib.Binary64
import AiopsK8s.Lib.Effect
import AiopsK8s.Supervision.Models

namespace AiopsK8s
namespace Execution

open Effect Supervision PyFloat Binary64

/-- The text of an integer in a message. -/
def integerText (n : ℤ) : Except PyExn String :=
  if Json.isLongInteger n then
    .error (.valueError "Exceeds the limit (4300 digits) for integer string conversion")
  else .ok (toString n)

/-- `set(before) != set(after)`. -/
def identitiesDiffer (before after : List String) : Bool :=
  before.any (fun id => id ∉ after) || after.any (fun id => id ∉ before)

/-- The part of `_snapshot_transition_ready` that the kind of the action decides. -/
def actionTransitionReady (action : RecoveryAction) (before after : EvidenceSnapshot) :
    Bool × String :=
  let workloadChanged :=
    after.podIdentities ≠ [] && identitiesDiffer before.podIdentities after.podIdentities
  let availabilityImproved := decide (before.availableReplicas < after.availableReplicas)
  match action.kind with
  | .scaleOut =>
    if action.replicas ≠ some after.desiredReplicas then
      (false, "deployment did not reach the validated scale target")
    else if after.desiredReplicas ≤ before.desiredReplicas then
      (false, "scale_out did not increase desired replicas")
    else (true, "")
  | .rolloutRestart =>
    if workloadChanged then (true, "")
    else (false, "rollout restart has not produced a new pod identity")
  | .observeOnly =>
    if workloadChanged || availabilityImproved then (true, "")
    else (false, "observation found no verifiable recovery state change")

/-- `_snapshot_transition_ready`. -/
def snapshotTransitionReady (action : RecoveryAction) (before after : EvidenceSnapshot) :
    Except PyExn (Bool × String) :=
  if after.desiredReplicas < 1 then .ok (false, "deployment has no desired replicas")
  else if after.availableReplicas < after.desiredReplicas then do
    let available ← integerText after.availableReplicas
    let desired ← integerText after.desiredReplicas
    return (false, "available replicas " ++ available ++ " remain below desired replicas " ++
      desired)
  else if after.podStatuses.any (fun status => status ∉ ["Running", "Succeeded"]) then
    .ok (false, "one or more pods are not in a ready running state")
  else .ok (actionTransitionReady action before after)

/-- The message of the division of two integers whose quotient has no float. -/
def divisionOverflow : PyExn := ⟨.overflow, "integer division result too large for a float"⟩

/-- `n / max(desired, 1)`. -/
def replicaRatio (n desired : ℤ) : Except PyExn ℚ :=
  match ofQuotient n (max desired 1).toNat with
  | some (finite x) => .ok x
  | _ => .error divisionOverflow

/-- `min(max(change, gain, 0.0), 1.0)`. -/
def clampedGain (change : PyFloat) (gain : ℚ) : ℚ :=
  match change with
  | finite x => min (max (max x gain) 0) 1
  | posInf => 1
  | _ => min (max gain 0) 1

/-- `_availability_improvement`. -/
def availabilityImprovement (before after : EvidenceSnapshot) : Except PyExn ℚ := do
  let beforeRatio ← replicaRatio before.availableReplicas before.desiredReplicas
  let afterRatio ← replicaRatio after.availableReplicas after.desiredReplicas
  let replicaGain ←
    replicaRatio (max (after.availableReplicas - before.availableReplicas) 0) after.desiredReplicas
  return nearest (Round.round6
    (clampedGain (sub (finite afterRatio) (finite beforeRatio)) replicaGain))

/-- `_failed_assessment`. -/
def failedAssessment (reason : String) : RecoveryAssessment := ⟨false, 0, reason, 20 / 100, true⟩

/-- The assessment of a snapshot that shows the transition. -/
def recoveredAssessment (improvement : ℚ) : RecoveryAssessment :=
  ⟨true, improvement, "", 85 / 100, false⟩

/-- The assessment once every attempt is used. -/
def unrecoveredAssessment (improvement : ℚ) (reason : String) : RecoveryAssessment :=
  ⟨false, improvement, reason, 35 / 100, true⟩

/-- A call of the monitor to its surroundings. -/
inductive MonitorCall where
  | sleeper (seconds : ℚ)
  | collect (ns deployment : String)
  deriving DecidableEq

/-- What an assessment called and how it ended. -/
structure Watch where
  calls : List MonitorCall
  outcome : Except PyExn RecoveryAssessment

namespace Watch

/-- The calls made before a run. -/
def after (calls : List MonitorCall) (watch : Watch) : Watch :=
  ⟨calls ++ watch.calls, watch.outcome⟩

/-- The number of snapshots collected. -/
def collections (watch : Watch) : ℕ :=
  watch.calls.countP fun call => match call with
    | .collect _ _ => true
    | .sleeper _ => false

end Watch

/-- `KubernetesSnapshotRecoveryMonitor`, with the checks of `__post_init__`. -/
structure SnapshotRecoveryMonitor where
  maxAttempts : ℕ
  intervalSeconds : ℚ
  maxAttempts_pos : 1 ≤ maxAttempts
  intervalSeconds_nonneg : 0 ≤ intervalSeconds

/-- The two reads of one attempt: whether the snapshot shows the transition, why not, and how much
the availability improved. -/
def inspect (action : RecoveryAction) (before current : EvidenceSnapshot) :
    Except PyExn (Bool × String × ℚ) := do
  let (ready, reason) ← snapshotTransitionReady action before current
  let improvement ← availabilityImprovement before current
  return (ready, reason, improvement)

namespace SnapshotRecoveryMonitor

variable (monitor : SnapshotRecoveryMonitor) (action : RecoveryAction) (before : EvidenceSnapshot)
  (later : ℕ → EvidenceSnapshot)

/-- The loop of `assess` over the attempts that are left; `later n` is the snapshot that the
provider collects after `n` others. -/
def attemptLoop :
    List ℕ → EvidenceSnapshot → ℕ → ℚ → String → Watch
  | [], _, _, improvement, lastReason => ⟨[], .ok (unrecoveredAssessment improvement lastReason)⟩
  | attempt :: attempts, current, collected, _, _ =>
    match inspect action before current with
    | .error e => ⟨[], .error e⟩
    | .ok (ready, lastReason, improvement) =>
      if ready then ⟨[], .ok (recoveredAssessment improvement)⟩
      else if attempt + 1 < monitor.maxAttempts then
        (attemptLoop attempts (later collected) (collected + 1) improvement lastReason).after
          [.sleeper monitor.intervalSeconds, .collect action.ns action.deployment]
      else attemptLoop attempts current collected improvement lastReason

/-- `assess`. -/
def assess (after : EvidenceSnapshot) (executionResult : CommandResult) : Watch :=
  if executionResult.valid then
    monitor.attemptLoop action before later (List.range monitor.maxAttempts) after 0 0
      "Kubernetes state transition was not observed"
  else
    ⟨[], .ok (failedAssessment (if executionResult.stderr = "" then "Kubernetes action failed"
      else executionResult.stderr))⟩

end SnapshotRecoveryMonitor

/-- The pod identities of two snapshots are not those of one set. -/
def IdentitiesChanged (before after : EvidenceSnapshot) : Prop :=
  after.podIdentities ≠ [] ∧ ∃ id, ¬(id ∈ before.podIdentities ↔ id ∈ after.podIdentities)

/-- The state transition that an action of a kind asks for. -/
def ActionTransition (action : RecoveryAction) (before after : EvidenceSnapshot) : Prop :=
  match action.kind with
  | .scaleOut =>
    action.replicas = some after.desiredReplicas ∧ before.desiredReplicas < after.desiredReplicas
  | .rolloutRestart => IdentitiesChanged before after
  | .observeOnly =>
    IdentitiesChanged before after ∨ before.availableReplicas < after.availableReplicas

/-- The transition condition: every desired replica is available, every pod runs, and the
deployment has made the transition of the action. -/
def TransitionReady (action : RecoveryAction) (before after : EvidenceSnapshot) : Prop :=
  1 ≤ after.desiredReplicas ∧ after.desiredReplicas ≤ after.availableReplicas ∧
    (∀ status ∈ after.podStatuses, status = "Running" ∨ status = "Succeeded") ∧
      ActionTransition action before after

theorem identitiesDiffer_iff {before after : List String} :
    identitiesDiffer before after = true ↔ ∃ id, ¬(id ∈ before ↔ id ∈ after) := by
  rw [identitiesDiffer, Bool.or_eq_true, List.any_eq_true, List.any_eq_true]
  constructor
  · rintro (⟨id, hid, hnot⟩ | ⟨id, hid, hnot⟩)
    · exact ⟨id, fun h => of_decide_eq_true hnot (h.1 hid)⟩
    · exact ⟨id, fun h => of_decide_eq_true hnot (h.2 hid)⟩
  · rintro ⟨id, hid⟩
    by_cases hbefore : id ∈ before
    · exact .inl ⟨id, hbefore, decide_eq_true fun hafter => hid (iff_of_true hbefore hafter)⟩
    · have hafter : id ∈ after := by
        by_contra hafter
        exact hid (iff_of_false hbefore hafter)
      exact .inr ⟨id, hafter, decide_eq_true hbefore⟩

theorem actionTransitionReady_iff {action : RecoveryAction} {before after : EvidenceSnapshot} :
    (actionTransitionReady action before after).1 = true ↔
      ActionTransition action before after := by
  have hchanged : (decide (after.podIdentities ≠ []) &&
      identitiesDiffer before.podIdentities after.podIdentities) = true ↔
        IdentitiesChanged before after := by
    rw [Bool.and_eq_true, decide_eq_true_iff, identitiesDiffer_iff, IdentitiesChanged]
  unfold actionTransitionReady ActionTransition
  cases action.kind with
  | scaleOut =>
    dsimp only
    split_ifs with hreplicas hdesired
    · exact iff_of_false id fun h => hreplicas h.1
    · exact iff_of_false id fun h => absurd h.2 (not_lt.2 hdesired)
    · exact iff_of_true rfl ⟨not_not.1 hreplicas, not_le.1 hdesired⟩
  | rolloutRestart =>
    dsimp only
    rw [← hchanged]
    split_ifs with h
    · exact iff_of_true rfl h
    · exact iff_of_false id h
  | observeOnly =>
    have hobserved : ((decide (after.podIdentities ≠ []) &&
        identitiesDiffer before.podIdentities after.podIdentities) ||
          decide (before.availableReplicas < after.availableReplicas)) = true ↔
        IdentitiesChanged before after ∨ before.availableReplicas < after.availableReplicas := by
      rw [Bool.or_eq_true, hchanged, decide_eq_true_iff]
    dsimp only
    rw [← hobserved]
    split_ifs with h
    · exact iff_of_true rfl h
    · exact iff_of_false id h

/-- `n / max(desired, 1)` has a float. -/
def HasRatio (n desired : ℤ) : Prop := |(n : ℚ) / ((max desired 1).toNat : ℕ)| < limit

/-- A snapshot on which no read of `assess` raises: the quotients of the replica counts have
floats, and counts that are written to a message have at most 4300 digits. -/
structure Measurable (before after : EvidenceSnapshot) : Prop where
  written : 1 ≤ after.desiredReplicas → after.availableReplicas < after.desiredReplicas →
    Json.isLongInteger after.availableReplicas = false ∧
      Json.isLongInteger after.desiredReplicas = false
  beforeRatio : HasRatio before.availableReplicas before.desiredReplicas
  afterRatio : HasRatio after.availableReplicas after.desiredReplicas
  gainRatio : HasRatio (max (after.availableReplicas - before.availableReplicas) 0)
    after.desiredReplicas

theorem replicaRatio_isOk_iff {n desired : ℤ} :
    (∃ x, replicaRatio n desired = .ok x) ↔ HasRatio n desired := by
  unfold replicaRatio
  by_cases h : HasRatio n desired
  · rw [ofQuotient_eq_some.2 ⟨h, rfl⟩]
    exact iff_of_true ⟨_, rfl⟩ h
  · have hnone : ofQuotient n (max desired 1).toNat = none := if_neg h
    rw [hnone]
    refine iff_of_false ?_ h
    rintro ⟨x, hx⟩
    cases hx

theorem availabilityImprovement_isOk_iff {before after : EvidenceSnapshot} :
    (∃ x, availabilityImprovement before after = .ok x) ↔
      HasRatio before.availableReplicas before.desiredReplicas ∧
        HasRatio after.availableReplicas after.desiredReplicas ∧
          HasRatio (max (after.availableReplicas - before.availableReplicas) 0)
            after.desiredReplicas := by
  rw [← replicaRatio_isOk_iff, ← replicaRatio_isOk_iff, ← replicaRatio_isOk_iff]
  constructor
  · rintro ⟨x, h⟩
    obtain ⟨beforeRatio, hbefore, h⟩ := bind_eq_ok h
    obtain ⟨afterRatio, hafter, h⟩ := bind_eq_ok h
    obtain ⟨gain, hgain, h⟩ := bind_eq_ok h
    exact ⟨⟨_, hbefore⟩, ⟨_, hafter⟩, _, hgain⟩
  · rintro ⟨⟨beforeRatio, hbefore⟩, ⟨afterRatio, hafter⟩, gain, hgain⟩
    unfold availabilityImprovement
    rw [hbefore, hafter, hgain]
    exact ⟨_, rfl⟩

theorem integerText_isOk_iff {n : ℤ} :
    (∃ text, integerText n = .ok text) ↔ Json.isLongInteger n = false := by
  unfold integerText
  split_ifs with h
  · refine iff_of_false ?_ (by simp [h])
    rintro ⟨text, htext⟩
    cases htext
  · exact iff_of_true ⟨_, rfl⟩ (Bool.eq_false_of_not_eq_true h)

/-- The first read of an attempt: it raises where the message cannot be written, and else decides
the transition. -/
theorem snapshotTransitionReady_spec (action : RecoveryAction) (before after : EvidenceSnapshot) :
    (∃ ready reason, snapshotTransitionReady action before after = .ok (ready, reason) ∧
        (ready = true ↔ TransitionReady action before after) ∧
        (1 ≤ after.desiredReplicas → after.availableReplicas < after.desiredReplicas →
          Json.isLongInteger after.availableReplicas = false ∧
            Json.isLongInteger after.desiredReplicas = false)) ∨
      ((∃ e, snapshotTransitionReady action before after = .error e) ∧
        1 ≤ after.desiredReplicas ∧ after.availableReplicas < after.desiredReplicas ∧
          ¬(Json.isLongInteger after.availableReplicas = false ∧
            Json.isLongInteger after.desiredReplicas = false)) := by
  unfold snapshotTransitionReady
  split_ifs with hdesired havailable hstatus
  · refine .inl ⟨_, _, rfl, iff_of_false Bool.false_ne_true ?_,
      fun h => absurd hdesired (not_lt.2 h)⟩
    rintro ⟨h, -⟩
    omega
  · have hready : ¬TransitionReady action before after := by
      rintro ⟨-, h, -⟩
      omega
    rcases havailableText : integerText after.availableReplicas with e | available
    · refine .inr ⟨⟨e, rfl⟩, not_lt.1 hdesired, havailable, fun h => ?_⟩
      obtain ⟨text, htext⟩ := integerText_isOk_iff.2 h.1
      rw [havailableText] at htext
      cases htext
    · rcases hdesiredText : integerText after.desiredReplicas with e | desired
      · refine .inr ⟨⟨e, rfl⟩, not_lt.1 hdesired, havailable, fun h => ?_⟩
        obtain ⟨text, htext⟩ := integerText_isOk_iff.2 h.2
        rw [hdesiredText] at htext
        cases htext
      · exact .inl ⟨_, _, rfl, iff_of_false Bool.false_ne_true hready, fun _ _ =>
          ⟨integerText_isOk_iff.1 ⟨_, havailableText⟩, integerText_isOk_iff.1 ⟨_, hdesiredText⟩⟩⟩
  · refine .inl ⟨_, _, rfl, iff_of_false Bool.false_ne_true ?_, fun _ h => absurd h havailable⟩
    rintro ⟨-, -, h, -⟩
    obtain ⟨status, hmem, hnot⟩ := List.any_eq_true.1 hstatus
    refine of_decide_eq_true hnot ?_
    rcases h status hmem with rfl | rfl
    · exact List.mem_cons_self
    · exact List.mem_cons_of_mem _ List.mem_cons_self
  · refine .inl ⟨(actionTransitionReady action before after).1, _, rfl,
      actionTransitionReady_iff.trans ?_, fun _ h => absurd h havailable⟩
    refine ⟨fun h => ⟨not_lt.1 hdesired, not_lt.1 havailable, fun status hmem => ?_, h⟩,
      fun h => h.2.2.2⟩
    by_contra hnot
    refine hstatus (List.any_eq_true.2 ⟨status, hmem, decide_eq_true fun hin => hnot ?_⟩)
    simpa using hin

/-- **What one attempt finds out.**  A measurable snapshot is decided, another raises. -/
theorem inspect_of_measurable (action : RecoveryAction) {before current : EvidenceSnapshot}
    (h : Measurable before current) :
    ∃ ready reason improvement, inspect action before current = .ok (ready, reason, improvement) ∧
      (ready = true ↔ TransitionReady action before current) := by
  obtain ⟨improvement, himprovement⟩ :=
    availabilityImprovement_isOk_iff.2 ⟨h.beforeRatio, h.afterRatio, h.gainRatio⟩
  rcases snapshotTransitionReady_spec action before current with
    ⟨ready, reason, hok, hready, -⟩ | ⟨-, hdesired, havailable, hlong⟩
  · refine ⟨ready, reason, improvement, ?_, hready⟩
    rw [inspect, hok]
    show (availabilityImprovement before current >>= _) = _
    rw [himprovement]
    rfl
  · exact absurd (h.written hdesired havailable) hlong

theorem inspect_of_not_measurable (action : RecoveryAction) {before current : EvidenceSnapshot}
    (h : ¬Measurable before current) : ∃ e, inspect action before current = .error e := by
  rcases hinspect : inspect action before current with e | result
  · exact ⟨e, rfl⟩
  · obtain ⟨⟨ready, reason⟩, hok, hrest⟩ := bind_eq_ok hinspect
    obtain ⟨improvement, himprovement, -⟩ := bind_eq_ok hrest
    obtain ⟨hbefore, hafter, hgain⟩ := availabilityImprovement_isOk_iff.1 ⟨_, himprovement⟩
    rcases snapshotTransitionReady_spec action before current with
      ⟨_, _, -, -, hwritten⟩ | ⟨⟨e, herror⟩, -⟩
    · exact absurd ⟨hwritten, hbefore, hafter, hgain⟩ h
    · rw [herror] at hok
      cases hok

/-- The snapshot of the attempt `k`: the one that was given, and then the ones collected. -/
def inspected (after : EvidenceSnapshot) (later : ℕ → EvidenceSnapshot) : ℕ → EvidenceSnapshot
  | 0 => after
  | k + 1 => later k

/-- An attempt after which the loop goes on. -/
def Refused (action : RecoveryAction) (before current : EvidenceSnapshot) : Prop :=
  ∃ reason improvement, inspect action before current = .ok (false, reason, improvement)

theorem ready_iff_of_inspect {action : RecoveryAction} {before current : EvidenceSnapshot}
    {ready : Bool} {reason : String} {improvement : ℚ}
    (h : inspect action before current = .ok (ready, reason, improvement)) :
    ready = true ↔ TransitionReady action before current := by
  have hmeasurable : Measurable before current := by
    by_contra hnot
    obtain ⟨e, he⟩ := inspect_of_not_measurable _ hnot
    rw [he] at h
    cases h
  obtain ⟨ready', reason', improvement', hok, hready⟩ := inspect_of_measurable _ hmeasurable
  rw [hok] at h
  cases h
  exact hready

theorem Refused.not_ready {action : RecoveryAction} {before current : EvidenceSnapshot}
    (h : Refused action before current) : ¬TransitionReady action before current := by
  obtain ⟨reason, improvement, hok⟩ := h
  exact fun hready => Bool.false_ne_true ((ready_iff_of_inspect hok).2 hready)

namespace Watch

@[simp] theorem outcome_after (calls : List MonitorCall) (watch : Watch) :
    (watch.after calls).outcome = watch.outcome := rfl

@[simp] theorem collections_after (seconds : ℚ) (ns deployment : String) (watch : Watch) :
    (watch.after [.sleeper seconds, .collect ns deployment]).collections =
      watch.collections + 1 := by
  simp [after, collections]

@[simp] theorem collections_nil (outcome : Except PyExn RecoveryAssessment) :
    (Watch.mk [] outcome).collections = 0 := rfl

end Watch

namespace SnapshotRecoveryMonitor

variable (monitor : SnapshotRecoveryMonitor) (action : RecoveryAction)
  (before after : EvidenceSnapshot) (later : ℕ → EvidenceSnapshot)

/-- How a run over the attempts from `k` on ends: at the first attempt that raises or shows the
transition, or once all of them are refused. -/
def EndsAt (k n : ℕ) (watch : Watch) : Prop :=
  (∃ j < n, (∀ i < j, Refused action before (inspected after later (k + i))) ∧
    watch.collections = j ∧
      ((∃ e, inspect action before (inspected after later (k + j)) = .error e ∧
          watch.outcome = .error e) ∨
        ∃ reason improvement,
          inspect action before (inspected after later (k + j)) = .ok (true, reason, improvement) ∧
            watch.outcome = .ok (recoveredAssessment improvement))) ∨
    ((∀ i < n, Refused action before (inspected after later (k + i))) ∧
      watch.collections = n - 1 ∧
        ∃ improvement reason, watch.outcome = .ok (unrecoveredAssessment improvement reason))

/-- A pause and a collection before a run. -/
theorem EndsAt.retry {action : RecoveryAction} {before after : EvidenceSnapshot}
    {later : ℕ → EvidenceSnapshot} {k n : ℕ} {watch : Watch} {seconds : ℚ} {ns deployment : String}
    (hn : 0 < n) (hk : Refused action before (inspected after later k))
    (h : EndsAt action before after later (k + 1) n watch) :
    EndsAt action before after later k (n + 1)
      (watch.after [.sleeper seconds, .collect ns deployment]) := by
  have hshift : ∀ i, k + 1 + i = k + (i + 1) := fun i => by omega
  have hrefused : ∀ m, (∀ i < m, Refused action before (inspected after later (k + 1 + i))) →
      ∀ i < m + 1, Refused action before (inspected after later (k + i)) := by
    intro m hm i hi
    rcases i with - | i
    · exact hk
    · rw [← hshift]
      exact hm i (by omega)
  rcases h with ⟨j, hj, hbefore, hcollections, hend⟩ | ⟨hall, hcollections, hend⟩
  · refine .inl ⟨j + 1, by omega, hrefused j hbefore, by simp [hcollections], ?_⟩
    rw [← hshift]
    exact hend
  · exact .inr ⟨hrefused n hall, by simp [hcollections]; omega, hend⟩

/-- **The loop stops at the first attempt that decides.**  By induction on the attempts that are
left. -/
theorem endsAt_attemptLoop (n : ℕ) : ∀ (k : ℕ) (improvement : ℚ) (lastReason : String),
    k + n = monitor.maxAttempts →
      EndsAt action before after later k n
        (monitor.attemptLoop action before later (List.range' k n) (inspected after later k) k
          improvement lastReason) := by
  induction n with
  | zero =>
      intro k improvement lastReason _
      refine .inr ⟨fun i hi => absurd hi (Nat.not_lt_zero i), rfl, ?_⟩
      exact ⟨improvement, lastReason, rfl⟩
  | succ n ih =>
      intro k improvement lastReason hk
      rw [List.range'_succ, attemptLoop]
      rcases hinspect : inspect action before (inspected after later k) with
        e | ⟨ready, reason, gain⟩
      · exact .inl ⟨0, by omega, fun i hi => absurd hi (Nat.not_lt_zero i), rfl,
          .inl ⟨e, hinspect, rfl⟩⟩
      · rcases ready with - | -
        · have hrefused : Refused action before (inspected after later k) :=
            ⟨reason, gain, hinspect⟩
          rcases Nat.eq_zero_or_pos n with rfl | hn
          · have hlast : ¬k + 1 < monitor.maxAttempts := by omega
            simp only [Bool.false_eq_true, if_false, if_neg hlast, List.range'_zero, attemptLoop]
            refine .inr ⟨fun i hi => ?_, rfl, _, _, rfl⟩
            obtain rfl : i = 0 := by omega
            exact hrefused
          · have hnext : k + 1 < monitor.maxAttempts := by omega
            simp only [Bool.false_eq_true, if_false, if_pos hnext]
            exact EndsAt.retry hn hrefused (ih (k + 1) gain reason (by omega))
        · exact .inl ⟨0, by omega, fun i hi => absurd hi (Nat.not_lt_zero i), rfl,
            .inr ⟨reason, gain, hinspect, rfl⟩⟩

/-- A run after a valid execution. -/
theorem endsAt_assess {executionResult : CommandResult} (h : executionResult.valid = true) :
    EndsAt action before after later 0 monitor.maxAttempts
      (monitor.assess action before later after executionResult) := by
  rw [assess, if_pos h, List.range_eq_range']
  exact monitor.endsAt_attemptLoop action before after later _ 0 0 _ (by omega)

/-- The attempt `k` is made unless an earlier snapshot shows the transition. -/
def Reached (k : ℕ) : Prop :=
  k < monitor.maxAttempts ∧ ∀ j < k, ¬TransitionReady action before (inspected after later j)

/-- The pods of a snapshot are some of those before the action, and not all. -/
def LostIdentities (before after : EvidenceSnapshot) : Prop :=
  after.podIdentities ≠ [] ∧ (∀ id ∈ after.podIdentities, id ∈ before.podIdentities) ∧
    ∃ id ∈ before.podIdentities, id ∉ after.podIdentities

/-- What an assessment promises: a success after a valid execution if and only if one of the
snapshots shows the transition, no collection after the first that does nor after the last
attempt, and after a restart all replicas available and a new pod among them. -/
structure ReportsRecovery (executionResult : CommandResult) : Prop where
  reported : executionResult.valid = true → ∃ assessment,
    (monitor.assess action before later after executionResult).outcome = .ok assessment ∧
      (assessment.recoverySuccess = true ↔
        ∃ k < monitor.maxAttempts, TransitionReady action before (inspected after later k))
  first : executionResult.valid = true → ∀ k,
    Reached monitor action before after later k →
      TransitionReady action before (inspected after later k) →
        (monitor.assess action before later after executionResult).collections = k
  bounded : (monitor.assess action before later after executionResult).collections ≤
    monitor.maxAttempts - 1
  renewed : ∀ assessment,
    (monitor.assess action before later after executionResult).outcome = .ok assessment →
      assessment.recoverySuccess = true → action.kind = .rolloutRestart →
        let current := inspected after later
          (monitor.assess action before later after executionResult).collections
        current.desiredReplicas ≤ current.availableReplicas ∧
          ∃ id ∈ current.podIdentities, id ∉ before.podIdentities

/-- A restart that changed the identities without a new one has lost some. -/
theorem exists_new_of_not_lost {before after : EvidenceSnapshot}
    (hchanged : IdentitiesChanged before after) (h : ¬LostIdentities before after) :
    ∃ id ∈ after.podIdentities, id ∉ before.podIdentities := by
  obtain ⟨hne, id, hid⟩ := hchanged
  by_contra hnone
  have hsub : ∀ x ∈ after.podIdentities, x ∈ before.podIdentities := fun x hx => by
    by_contra hnot
    exact hnone ⟨x, hx, hnot⟩
  refine h ⟨hne, hsub, id, ?_⟩
  by_contra hnot
  exact hid ⟨fun hb => by_contra fun ha => hnot ⟨hb, ha⟩, hsub id⟩

theorem transition_of_restart {action : RecoveryAction} {before current : EvidenceSnapshot}
    (hkind : action.kind = .rolloutRestart) (h : TransitionReady action before current) :
    current.desiredReplicas ≤ current.availableReplicas ∧ IdentitiesChanged before current := by
  obtain ⟨-, havailable, -, haction⟩ := h
  rw [ActionTransition, hkind] at haction
  exact ⟨havailable, haction⟩

/-- A run that returns and whose first ready snapshot has lost no pods keeps the promise. -/
theorem reportsRecovery_of_reached {executionResult : CommandResult}
    (h : executionResult.valid = true → ∀ k, Reached monitor action before after later k →
      Measurable before (inspected after later k) ∧
        (action.kind = .rolloutRestart →
          TransitionReady action before (inspected after later k) →
            ¬LostIdentities before (inspected after later k))) :
    ReportsRecovery monitor action before after later executionResult := by
  have hpos := monitor.maxAttempts_pos
  rcases hvalid : executionResult.valid with - | -
  · have hfailed : monitor.assess action before later after executionResult =
        ⟨[], .ok (failedAssessment (if executionResult.stderr = "" then "Kubernetes action failed"
          else executionResult.stderr))⟩ := by
      rw [assess, hvalid]
      rfl
    refine ⟨fun hv => ?_, fun hv => ?_, ?_, fun assessment hok hsuccess => ?_⟩
    · rw [hvalid] at hv
      cases hv
    · rw [hvalid] at hv
      cases hv
    · rw [hfailed]
      exact Nat.zero_le _
    · rw [hfailed] at hok
      cases hok
      cases hsuccess
  · rcases monitor.endsAt_assess action before after later hvalid with
      ⟨j, hj, hbefore, hcollections, ⟨e, he, -⟩ | ⟨reason, gain, hinspect, hok⟩⟩ |
        ⟨hall, hcollections, gain, reason, hok⟩
    · have hreached : Reached monitor action before after later j :=
        ⟨hj, fun i hi => by simpa using (hbefore i hi).not_ready⟩
      obtain ⟨_, _, _, hinspect, -⟩ :=
        inspect_of_measurable action (h hvalid j hreached).1
      rw [Nat.zero_add, hinspect] at he
      cases he
    · rw [Nat.zero_add] at hinspect
      have hready : TransitionReady action before (inspected after later j) :=
        (ready_iff_of_inspect hinspect).1 rfl
      have hnot : ∀ i < j, ¬TransitionReady action before (inspected after later i) :=
        fun i hi => by simpa using (hbefore i hi).not_ready
      refine ⟨fun _ => ⟨_, hok, iff_of_true rfl ⟨j, hj, hready⟩⟩, fun _ k hk hkready => ?_, ?_,
        fun assessment _ _ hkind => ?_⟩
      · rw [hcollections]
        rcases lt_trichotomy j k with hlt | heq | hgt
        · exact absurd hready (hk.2 j hlt)
        · exact heq
        · exact absurd hkready (hnot k hgt)
      · omega
      · dsimp only
        rw [hcollections]
        obtain ⟨havailable, hchanged⟩ := transition_of_restart hkind hready
        exact ⟨havailable, exists_new_of_not_lost hchanged ((h hvalid j ⟨hj, hnot⟩).2 hkind hready)⟩
    · have hnot : ∀ i < monitor.maxAttempts,
          ¬TransitionReady action before (inspected after later i) :=
        fun i hi => by simpa using (hall i hi).not_ready
      refine ⟨fun _ => ⟨_, hok, iff_of_false Bool.false_ne_true ?_⟩, fun _ k hk hkready => ?_, ?_,
        fun assessment hok' hsuccess => ?_⟩
      · rintro ⟨k, hk, hready⟩
        exact hnot k hk hready
      · exact absurd hkready (hnot k hk.1)
      · omega
      · rw [hok] at hok'
        cases hok'
        cases hsuccess

/-- **When an assessment keeps its promise.**  After a valid execution it does unless a snapshot
that it reaches cannot be measured, or the one it accepts for a restart only lost pods. -/
theorem reportsRecovery_iff (executionResult : CommandResult) :
    ReportsRecovery monitor action before after later executionResult ↔
      (executionResult.valid = true → ∀ k, Reached monitor action before after later k →
        Measurable before (inspected after later k) ∧
          (action.kind = .rolloutRestart →
            TransitionReady action before (inspected after later k) →
              ¬LostIdentities before (inspected after later k))) := by
  refine ⟨fun hreports hvalid k hk => ?_, monitor.reportsRecovery_of_reached action before after
    later⟩
  obtain ⟨assessment, hok, hsuccess⟩ := hreports.reported hvalid
  refine ⟨?_, fun hkind hready => ?_⟩
  · by_contra hmeasurable
    obtain ⟨e, he⟩ := inspect_of_not_measurable action hmeasurable
    have hnotRefused : ¬Refused action before (inspected after later k) := by
      rintro ⟨_, _, hinspect⟩
      rw [hinspect] at he
      cases he
    rcases monitor.endsAt_assess action before after later hvalid with
      ⟨j, hj, hbefore, -, ⟨e', -, herror⟩ | ⟨reason, gain, hinspect, -⟩⟩ | ⟨hall, -, -⟩
    · rw [herror] at hok
      cases hok
    · rw [Nat.zero_add] at hinspect
      rcases lt_trichotomy j k with hlt | rfl | hgt
      · exact hk.2 j hlt ((ready_iff_of_inspect hinspect).1 rfl)
      · rw [hinspect] at he
        cases he
      · have hrefused := hbefore k hgt
        rw [Nat.zero_add] at hrefused
        exact hnotRefused hrefused
    · have hrefused := hall k hk.1
      rw [Nat.zero_add] at hrefused
      exact hnotRefused hrefused
  · rintro ⟨-, hsub, -⟩
    obtain ⟨-, id, hmem, hnew⟩ :=
      hreports.renewed assessment hok (hsuccess.2 ⟨k, hk.1, hready⟩) hkind
    rw [hreports.first hvalid k hk hready] at hmem
    exact hnew (hsub id hmem)

/-- A deployment all of whose pods run. -/
def runningSnapshot (identities : List String) : EvidenceSnapshot :=
  ⟨"shop", "cart", [], identities.length, identities.length, 0, identities.map fun _ => "Running",
    identities, [], none, none, "", "kubernetes"⟩

/-- One of two pods is gone after a restart and none is new: the restart is reported as a
success. -/
theorem shrunk_not_reportsRecovery :
    ¬∀ (monitor : SnapshotRecoveryMonitor) (action : RecoveryAction)
      (before after : EvidenceSnapshot) (later : ℕ → EvidenceSnapshot)
      (executionResult : CommandResult),
        ReportsRecovery monitor action before after later executionResult := by
  intro h
  have hreports := h ⟨1, 5, le_rfl, by decide⟩ ⟨"shop", "cart", .rolloutRestart, none, ""⟩
    (runningSnapshot ["cart-a", "cart-b"]) (runningSnapshot ["cart-a"])
    (fun _ => runningSnapshot ["cart-a"]) ⟨"", "real", true, "", "", []⟩
  obtain ⟨-, id, hmem, hnew⟩ :=
    hreports.renewed (recoveredAssessment 0) (by decide +kernel) rfl rfl
  have hone : id ∈ ["cart-a"] := by
    rw [hreports.first rfl 0 ⟨Nat.one_pos, fun j hj => absurd hj (Nat.not_lt_zero j)⟩ ?_] at hmem
    · exact hmem
    · refine ⟨le_rfl, le_rfl, fun status hstatus => .inl (List.mem_singleton.1 hstatus), ?_⟩
      exact ⟨List.cons_ne_nil _ _, "cart-b", by decide⟩
  exact hnew (List.mem_cons.2 (.inl (List.mem_singleton.1 hone)))

end SnapshotRecoveryMonitor

end Execution
end AiopsK8s
