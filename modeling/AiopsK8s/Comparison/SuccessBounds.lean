/-
# How far a recorded success may fall

The other scores of an action are clamped to `[0, 1]`, so of the numbers of its records only the
mean `recovery_success` can bring a safe action below the sentinel `-1`.  A mean of at least `-3.3`
keeps every safe action ahead under every policy, whatever its other numbers are, and one of at most
`-5.7` puts it behind every unsafe action of its scenario under `ha_first`, whatever they are; between
the two the other scores decide (`safeRanked_success`).

Rounding keeps the order, so a score is bounded by the score of the bounds of its terms: each step
of the source is followed with a constant on either side.
-/

import AiopsK8s.Comparison.SafetyFirst
import AiopsK8s.Lib.Rounding

namespace AiopsK8s
namespace Comparison

open Arithmetic Binary64 Effect PyFloat Supervision

section Scores

variable {sum : List PyFloat → PyFloat}

/-- A float from `0` to `1`. -/
def InUnit (x : PyFloat) : Prop := ge x (finite 0) = true ∧ ge (finite 1) x = true

theorem inUnit_finite {q : ℚ} (h₀ : 0 ≤ q) (h₁ : q ≤ 1) : InUnit (finite q) :=
  ⟨ge_finite.2 (.inr ⟨q, rfl, h₀⟩), finite_ge.2 (.inr ⟨q, rfl, h₁⟩)⟩

theorem InUnit.max {x y : PyFloat} (hx : InUnit x) (hy : InUnit y) :
    InUnit ((floats sum).max x y) := by
  unfold Arithmetic.max
  split
  · exact hy
  · exact hx

theorem lit_zero : (floats sum).lit 0 = finite 0 := by
  show PyFloat.lit 0 = finite 0
  decide +kernel

theorem lit_one : (floats sum).lit 1 = finite 1 := by
  show PyFloat.lit 1 = finite 1
  decide +kernel

/-- **What is clamped lies between `0` and `1`**, unless it is a `nan`. -/
theorem inUnit_unit {x : PyFloat} (hx : x ≠ nan) : InUnit (unit (floats sum) x) := by
  have hzero : InUnit (finite 0) := inUnit_finite le_rfl zero_le_one
  have hone : InUnit (finite 1) := inUnit_finite zero_le_one le_rfl
  unfold unit Arithmetic.min Arithmetic.max
  rw [lit_zero, lit_one]
  rcases x with q | - | - | -
  · by_cases hneg : q < 0
    · have hlt : (floats sum).lt (finite q) (finite 0) = true := decide_eq_true hneg
      rw [if_pos hlt]
      split
      · exact hone
      · exact hzero
    · have hlt : ¬(floats sum).lt (finite q) (finite 0) = true := by
        simpa [floats, PyFloat.lt] using hneg
      rw [if_neg hlt]
      split
      · exact hone
      · rename_i hle
        exact inUnit_finite (not_lt.1 hneg) (by simpa [floats, PyFloat.lt] using hle)
  · exact absurd rfl hx
  · exact hone
  · exact hzero

/-- The cost score of an action. -/
theorem inUnit_costScore {kind : RecoveryActionKind} {delta : ℤ} {cost : PyFloat}
    (h : costScore (floats sum) kind delta = .ok cost) : InUnit cost := by
  cases kind with
  | observeOnly =>
      obtain rfl := Except.ok.inj h
      rw [lit_one]
      exact inUnit_finite zero_le_one le_rfl
  | rolloutRestart =>
      obtain rfl := Except.ok.inj h
      exact inUnit_finite (q := nearest 0.65) (by decide +kernel) (by decide +kernel)
  | scaleOut =>
      obtain ⟨d, hd, h⟩ := bind_eq_ok h
      obtain rfl := Except.ok.inj h
      obtain ⟨_, rfl⟩ := PyFloat.ofInt_eq_some.1 (converted_eq_ok.1 hd)
      have hd : 0 ≤ nearest ((max delta 0 : ℤ) : ℚ) :=
        nearest_nonneg (by exact_mod_cast le_max_right delta 0)
      generalize nearest ((max delta 0 : ℤ) : ℚ) = d at hd
      have hlow : InUnit (PyFloat.lit 0.10) :=
        inUnit_finite (q := nearest 0.10) (by decide +kernel) (by decide +kernel)
      have hproduct : ge (mul (PyFloat.lit 0.25) (finite d)) (finite 0) = true :=
        mul_ge_bound (c := nearest 0.25) (a := 0) (by decide +kernel)
          (ge_finite.2 (.inr ⟨d, rfl, hd⟩)) (by decide +kernel)
      have habove : ge (finite 1) (sub (PyFloat.lit 0.75) (mul (PyFloat.lit 0.25) (finite d))) =
          true :=
        sub_le_bound (a := 1) (b := 0) (by decide +kernel) hproduct (by decide +kernel)
      unfold Arithmetic.max
      split
      · -- The difference is above the lower bound `0.10`.
        rename_i hlt
        refine ⟨ge_trans ?_ hlow.1, habove⟩
        exact Bool.or_eq_true _ _ ▸ .inl hlt
      · exact hlow

/-- The infrastructure score of an action. -/
theorem inUnit_infrastructure {overhead commands : PyFloat} (hoverhead : InUnit overhead)
    (hcommands : commands.Nonneg) : InUnit ((floats sum).max ((floats sum).lit 0)
      (sub (sub ((floats sum).lit 1) overhead)
        ((floats sum).min (mul commands (PyFloat.lit 0.05)) (PyFloat.lit 0.25)))) := by
  rw [lit_zero, lit_one]
  have hmin : ge ((floats sum).min (mul commands (PyFloat.lit 0.05)) (PyFloat.lit 0.25))
      (finite 0) = true := by
    unfold Arithmetic.min
    split
    · decide +kernel
    · have hpos := hcommands.mul_pos (c := nearest 0.05) (by decide +kernel)
      rw [PyFloat.lit]
      generalize mul commands (finite (nearest 0.05)) = x at hpos
      rcases x with q | - | - | -
      · exact ge_finite.2 (.inr ⟨q, rfl, hpos⟩)
      · exact hpos.elim
      · rfl
      · exact hpos.elim
  have hrest : ge (finite 1) (sub (finite 1) overhead) = true :=
    sub_le_bound (a := 1) (b := 0) (by decide +kernel) hoverhead.1 (by decide +kernel)
  have habove := sub_le_bound (z := finite 1) hrest hmin (by decide +kernel)
  unfold Arithmetic.max
  split
  · rename_i hlt
    exact ⟨Bool.or_eq_true _ _ ▸ .inl hlt, habove⟩
  · exact inUnit_finite le_rfl zero_le_one

/-- The numbers of an action that its scores read are no `nan`. -/
structure Compared (o : RecoveryOutcome PyFloat) : Prop where
  success : o.recoverySuccess ≠ nan
  availability : o.availabilityRecovery ≠ nan
  improvement : o.metricImprovement ≠ nan
  seconds : o.recoverySeconds ≠ nan

/-- The time score of an action. -/
theorem inUnit_time {seconds : PyFloat} (h : seconds ≠ nan) :
    InUnit (sub ((floats sum).lit 1) (unit (floats sum)
      (div ((floats sum).max seconds ((floats sum).lit 0)) (PyFloat.lit 60)))) := by
  have hmax : (floats sum).max seconds ((floats sum).lit 0) ≠ nan := by
    unfold Arithmetic.max
    split
    · simp [floats, PyFloat.lit]
    · exact h
  have hdiv : div ((floats sum).max seconds ((floats sum).lit 0)) (PyFloat.lit 60) ≠ nan := by
    generalize (floats sum).max seconds ((floats sum).lit 0) = x at hmax
    rcases x with q | - | - | -
    · exact ofExact_ne_nan _
    · exact absurd rfl hmax
    · exact infinityOf_ne_nan _
    · exact infinityOf_ne_nan _
  have hunit : InUnit (unit (floats sum) _) := inUnit_unit hdiv
  rw [lit_one]
  exact ⟨sub_ge_bound (a := 1) (b := 1) (by decide +kernel) hunit.2 (by decide +kernel),
    sub_le_bound (a := 1) (b := 0) (by decide +kernel) hunit.1 (by decide +kernel)⟩

/-- A reward as it is weighted from the scores. -/
def weighted (weights : RewardWeights) (ha application infrastructure cost : PyFloat) : PyFloat :=
  round6 (add (add (add (mul (PyFloat.lit weights.ha) ha)
    (mul (PyFloat.lit weights.application) application))
    (mul (PyFloat.lit weights.infrastructure) infrastructure))
    (mul (PyFloat.lit weights.cost) cost))

/-- **The reward of a safe action**: weighted from its recorded success, which is not clamped, and
scores that are. -/
theorem reward_of_safe {weights : RewardWeights} {o : RecoveryOutcome PyFloat}
    {item : ActionEvaluation PyFloat}
    (h : evaluateRecoveryAction (floats sum) weights o = .ok item) (hsafe : item.Safe)
    (hcompared : Compared o) :
    ∃ availability improvement time infrastructure cost : PyFloat, InUnit availability ∧
      InUnit improvement ∧ InUnit time ∧ InUnit infrastructure ∧ InUnit cost ∧
      item.predictedReward = weighted weights
        (add (mul (PyFloat.lit 0.60) o.recoverySuccess) (mul (PyFloat.lit 0.40) availability))
        (add (mul (PyFloat.lit 0.55) improvement) (mul (PyFloat.lit 0.45) time))
        infrastructure cost := by
  have houtcome := evaluateRecoveryAction_outcome h
  have hscored : ¬(o.safetyValid = false ∨ o.measurementValid = false) := by
    rw [← houtcome, hsafe.1, hsafe.2]
    simp
  rw [evaluateRecoveryAction, if_neg hscored] at h
  obtain ⟨replicas, hreplicas, h⟩ := bind_eq_ok h
  obtain ⟨commands, hcommands, h⟩ := bind_eq_ok h
  obtain ⟨cost, hcost, h⟩ := bind_eq_ok h
  obtain rfl := Except.ok.inj h
  have hreplicas : replicas.Nonneg :=
    PyFloat.nonneg_ofInt (le_max_right _ _) (converted_eq_ok.1 hreplicas)
  have hcommands : commands.Nonneg :=
    PyFloat.nonneg_ofInt (le_max_right _ _) (converted_eq_ok.1 hcommands)
  have hoverhead : div replicas (PyFloat.lit 4) ≠ nan :=
    (hreplicas.div_pos (c := nearest 4) (by decide +kernel)).ne_nan
  exact ⟨_, _, _, _, _, inUnit_unit hcompared.availability, inUnit_unit hcompared.improvement,
    inUnit_time hcompared.seconds, inUnit_infrastructure (inUnit_unit hoverhead) hcommands,
    inUnit_costScore hcost, rfl⟩

/-- The weights of a policy, as far as the bounds need them: what it makes of an availability score
of at least `-1.981` is at least `-0.991`, and the other scores add to that. -/
structure Bounding (weights : RewardWeights) : Prop where
  ha_pos : 0 < nearest weights.ha
  application_pos : 0 < nearest weights.application
  infrastructure_pos : 0 < nearest weights.infrastructure
  cost_pos : 0 < nearest weights.cost
  ha : ge (mul (PyFloat.lit weights.ha) (finite (-1.981))) (finite (-0.991)) = true

theorem bounding_of_mem {policy : String × RewardWeights}
    (h : policy ∈ recoveryRewardPolicies) : Bounding policy.2 := by
  simp only [recoveryRewardPolicies, List.mem_cons, List.not_mem_nil, or_false] at h
  rcases h with rfl | rfl | rfl | rfl <;> constructor <;> decide +kernel

variable {success availability improvement time infrastructure cost : PyFloat}

/-- **A success of at least `-3.3` keeps the reward above `-1`.** -/
theorem weighted_ge {weights : RewardWeights} (hw : Bounding weights)
    (hsuccess : ge success (finite (-3.3)) = true) (havailability : InUnit availability)
    (himprovement : InUnit improvement) (htime : InUnit time)
    (hinfrastructure : InUnit infrastructure) (hcost : InUnit cost) :
    ge (weighted weights
      (add (mul (PyFloat.lit 0.60) success) (mul (PyFloat.lit 0.40) availability))
      (add (mul (PyFloat.lit 0.55) improvement) (mul (PyFloat.lit 0.45) time))
      infrastructure cost) (finite (-0.992)) = true := by
  have hzero : ∀ {w : ℚ} {x : PyFloat}, 0 < nearest w → ge x (finite 0) = true →
      ge (mul (PyFloat.lit w) x) (finite 0) = true := by
    intro w x hw hx
    refine mul_ge_bound hw hx ?_
    have hmul : mul (finite (nearest w)) (finite 0) = finite 0 := by
      show ofExact (nearest w * 0) = finite 0
      rw [mul_zero]
      decide +kernel
    rw [hmul]
    decide +kernel
  have hha : ge (add (mul (PyFloat.lit 0.60) success) (mul (PyFloat.lit 0.40) availability))
      (finite (-1.981)) = true :=
    add_ge_bound (a := -1.9805) (b := 0)
      (mul_ge_bound (by decide +kernel) hsuccess (by decide +kernel))
      (hzero (by decide +kernel) havailability.1) (by decide +kernel)
  have happlication : ge (add (mul (PyFloat.lit 0.55) improvement) (mul (PyFloat.lit 0.45) time))
      (finite 0) = true :=
    add_ge_bound (hzero (by decide +kernel) himprovement.1)
      (hzero (by decide +kernel) htime.1) (by decide +kernel)
  refine round6_ge_bound (a := -0.9915) ?_ (by decide +kernel)
  refine add_ge_bound (a := -0.9912) ?_ (hzero hw.cost_pos hcost.1) (by decide +kernel)
  refine add_ge_bound (a := -0.9911) ?_ (hzero hw.infrastructure_pos hinfrastructure.1)
    (by decide +kernel)
  exact add_ge_bound (mul_ge_bound hw.ha_pos hha hw.ha)
    (hzero hw.application_pos happlication) (by decide +kernel)

/-- The weights of `ha_first`. -/
def haFirst : RewardWeights := ⟨0.50, 0.25, 0.15, 0.10, haFirst_nonneg, haFirst_sum_one⟩

theorem haFirst_mem : ("ha_first", haFirst) ∈ recoveryRewardPolicies := by
  simp [recoveryRewardPolicies, haFirst]

/-- **A success of at most `-5.7` puts the reward below `-1`.** -/
theorem weighted_le (hsuccess : ge (finite (-5.7)) success = true)
    (havailability : InUnit availability) (himprovement : InUnit improvement) (htime : InUnit time)
    (hinfrastructure : InUnit infrastructure) (hcost : InUnit cost) :
    ge (finite (-1.009)) (weighted haFirst
      (add (mul (PyFloat.lit 0.60) success) (mul (PyFloat.lit 0.40) availability))
      (add (mul (PyFloat.lit 0.55) improvement) (mul (PyFloat.lit 0.45) time))
      infrastructure cost) = true := by
  have hha : ge (finite (-3.0199))
      (add (mul (PyFloat.lit 0.60) success) (mul (PyFloat.lit 0.40) availability)) = true :=
    add_le_bound (a := -3.41999) (b := 0.40001)
      (mul_le_bound (by decide +kernel) hsuccess (by decide +kernel))
      (mul_le_bound (by decide +kernel) havailability.2 (by decide +kernel)) (by decide +kernel)
  have happlication : ge (finite 1.0001)
      (add (mul (PyFloat.lit 0.55) improvement) (mul (PyFloat.lit 0.45) time)) = true :=
    add_le_bound (a := 0.55001) (b := 0.45001)
      (mul_le_bound (by decide +kernel) himprovement.2 (by decide +kernel))
      (mul_le_bound (by decide +kernel) htime.2 (by decide +kernel)) (by decide +kernel)
  refine round6_le_bound (a := -1.0095) ?_ (by decide +kernel)
  refine add_le_bound (a := -1.1097) (b := 0.10001) ?_
    (mul_le_bound (by decide +kernel) hcost.2 (by decide +kernel)) (by decide +kernel)
  refine add_le_bound (a := -1.2598) (b := 0.15001) ?_
    (mul_le_bound (by decide +kernel) hinfrastructure.2 (by decide +kernel)) (by decide +kernel)
  exact add_le_bound (a := -1.5099) (b := 0.25004)
    (mul_le_bound (by decide +kernel) hha (by decide +kernel))
    (mul_le_bound (by decide +kernel) happlication (by decide +kernel)) (by decide +kernel)

/-- **No other score makes the reward a `nan`.** -/
theorem weighted_ne_nan (hsuccess : success ≠ nan) (havailability : InUnit availability)
    (himprovement : InUnit improvement) (htime : InUnit time)
    (hinfrastructure : InUnit infrastructure) (hcost : InUnit cost) :
    weighted haFirst
      (add (mul (PyFloat.lit 0.60) success) (mul (PyFloat.lit 0.40) availability))
      (add (mul (PyFloat.lit 0.55) improvement) (mul (PyFloat.lit 0.45) time))
      infrastructure cost ≠ nan := by
  have happlication₀ : ge (add (mul (PyFloat.lit 0.55) improvement) (mul (PyFloat.lit 0.45) time))
      (finite 0) = true :=
    add_ge_bound (a := 0) (b := 0)
      (mul_ge_bound (by decide +kernel) himprovement.1 (by decide +kernel))
      (mul_ge_bound (by decide +kernel) htime.1 (by decide +kernel)) (by decide +kernel)
  have happlication₁ : ge (finite 2)
      (add (mul (PyFloat.lit 0.55) improvement) (mul (PyFloat.lit 0.45) time)) = true :=
    add_le_bound (a := 1) (b := 1)
      (mul_le_bound (by decide +kernel) himprovement.2 (by decide +kernel))
      (mul_le_bound (by decide +kernel) htime.2 (by decide +kernel)) (by decide +kernel)
  obtain ⟨p, hp⟩ := exists_mul_finite (c := nearest 0.40) (by decide +kernel) havailability.1 havailability.2
    (by decide +kernel) (by decide +kernel)
  obtain ⟨q, hq⟩ := exists_mul_finite (c := nearest 0.25) (by decide +kernel) happlication₀ happlication₁
    (by decide +kernel) (by decide +kernel)
  obtain ⟨r, hr⟩ := exists_mul_finite (c := nearest 0.15) (by decide +kernel) hinfrastructure.1 hinfrastructure.2
    (by decide +kernel) (by decide +kernel)
  obtain ⟨s, hs⟩ := exists_mul_finite (c := nearest 0.10) (by decide +kernel) hcost.1 hcost.2
    (by decide +kernel) (by decide +kernel)
  have hha := add_finite_ne_nan
    (mul_finite_ne_nan (c := nearest 0.60) hsuccess (by decide +kernel)) p
  have hreward := add_finite_ne_nan (add_finite_ne_nan (add_finite_ne_nan
    (mul_finite_ne_nan (c := nearest 0.50) hha (by decide +kernel)) q) r) s
  refine round6_ne_nan ?_
  rw [← hp, ← hq, ← hr, ← hs] at hreward
  exact hreward

end Scores

/-! ### The order -/

section Order

variable {sum : List PyFloat → PyFloat} {outcomes aggregated : List (RecoveryOutcome PyFloat)}

/-- A larger reward is ranked before the sentinel. -/
theorem ranksBefore_of_reward {x y : ActionEvaluation PyFloat} {c : ℚ} (hc : -1 < c)
    (hx : ge x.predictedReward (finite c) = true) (hy : y.predictedReward = PyFloat.lit (-1)) :
    ranksBefore (floats sum) x y = true := by
  have hone : PyFloat.neg (PyFloat.lit (-1)) = finite 1 := by decide +kernel
  have hlt : PyFloat.lt (PyFloat.neg x.predictedReward) (finite 1) = true := by
    rcases ge_finite.1 hx with h | ⟨q, h, hq⟩
    · rw [h]
      rfl
    · rw [h]
      exact decide_eq_true (by linarith)
  have hne : PyFloat.eq (PyFloat.neg x.predictedReward) (finite 1) = false := by
    rw [← Bool.not_eq_true, PyFloat.eq_iff]
    rintro ⟨_, heq⟩
    rw [heq, PyFloat.lt_self] at hlt
    cases hlt
  unfold ranksBefore RankKey.lt
  show (if PyFloat.eq (PyFloat.neg x.predictedReward) (PyFloat.neg y.predictedReward) = false then
    PyFloat.lt (PyFloat.neg x.predictedReward) (PyFloat.neg y.predictedReward) else _) = true
  rw [hy, hone, if_pos hne]
  exact hlt

/-- A smaller one is not. -/
theorem not_ranksBefore_of_reward {x y : ActionEvaluation PyFloat} {c : ℚ} (hc : c < -1)
    (hx : ge (finite c) x.predictedReward = true) (hy : y.predictedReward = PyFloat.lit (-1)) :
    ¬ranksBefore (floats sum) x y = true := by
  have hone : PyFloat.neg (PyFloat.lit (-1)) = finite 1 := by decide +kernel
  have hlt : PyFloat.lt (finite 1) (PyFloat.neg x.predictedReward) = true := by
    rcases finite_ge.1 hx with h | ⟨q, h, hq⟩
    · rw [h]
      rfl
    · rw [h]
      exact decide_eq_true (by linarith)
  have hne : PyFloat.eq (PyFloat.neg x.predictedReward) (finite 1) = false := by
    rw [← Bool.not_eq_true, PyFloat.eq_iff]
    rintro ⟨_, heq⟩
    rw [heq, PyFloat.lt_self] at hlt
    cases hlt
  unfold ranksBefore RankKey.lt
  show ¬(if PyFloat.eq (PyFloat.neg x.predictedReward) (PyFloat.neg y.predictedReward) = false then
    PyFloat.lt (PyFloat.neg x.predictedReward) (PyFloat.neg y.predictedReward) else _) = true
  rw [hy, hone, if_pos hne, PyFloat.lt_asymm hlt]
  exact Bool.false_ne_true

variable (sum) in
/-- The mean of a number over the repetitions of an action. -/
def meanOf (number : RecoveryOutcome PyFloat → PyFloat) (outcomes : List (RecoveryOutcome PyFloat))
    (o : RecoveryOutcome PyFloat) : PyFloat :=
  (floats sum).mean ((repetitions outcomes o.pair).map number)

/-- The record is one of a safe action: every repetition of its action is safe and measured. -/
def OfSafe (outcomes : List (RecoveryOutcome PyFloat)) (o : RecoveryOutcome PyFloat) : Prop :=
  FullySafe outcomes o.scenario o.action.kind.value

variable (sum) in
/-- The mean numbers of the safe actions are no `nan`. -/
def MeansCompared (outcomes : List (RecoveryOutcome PyFloat)) : Prop :=
  ∀ o ∈ outcomes, OfSafe outcomes o →
    meanOf sum (·.recoverySuccess) outcomes o ≠ nan ∧
      meanOf sum (·.availabilityRecovery) outcomes o ≠ nan ∧
      meanOf sum (·.metricImprovement) outcomes o ≠ nan ∧
      meanOf sum (·.recoverySeconds) outcomes o ≠ nan

/-- An aggregate has the mean numbers of its repetitions. -/
theorem means_of_aggregated (h : aggregateRepetitions (floats sum) outcomes = .ok aggregated)
    {o : RecoveryOutcome PyFloat} (ho : o ∈ aggregated) :
    o.recoverySuccess = meanOf sum (·.recoverySuccess) outcomes o ∧
      o.availabilityRecovery = meanOf sum (·.availabilityRecovery) outcomes o ∧
      o.metricImprovement = meanOf sum (·.metricImprovement) outcomes o ∧
      o.recoverySeconds = meanOf sum (·.recoverySeconds) outcomes o := by
  have hgroup := mem_aggregated h ho
  unfold meanOf
  generalize repetitions outcomes o.pair = values at hgroup ⊢
  cases values with
  | nil => cases hgroup
  | cons first rest =>
      obtain ⟨replicaDelta, _, hgroup⟩ := bind_eq_ok hgroup
      obtain ⟨commandCount, _, hgroup⟩ := bind_eq_ok hgroup
      obtain rfl := Except.ok.inj hgroup
      exact ⟨rfl, rfl, rfl, rfl⟩

/-- What is known of a record is known of the aggregate of its action. -/
theorem exists_record (h : aggregateRepetitions (floats sum) outcomes = .ok aggregated)
    {a : RecoveryOutcome PyFloat} (ha : a ∈ aggregated) : ∃ o ∈ outcomes, o.pair = a.pair :=
  (mem_map_pair_aggregated h).1 (List.mem_map_of_mem ha)

theorem ofSafe_congr {o a : RecoveryOutcome PyFloat} (h : o.pair = a.pair) :
    OfSafe outcomes o ↔ OfSafe outcomes a := by
  obtain ⟨hscenario, hkind⟩ := Prod.mk.inj h
  rw [OfSafe, OfSafe, hscenario, hkind]

theorem meanOf_congr (number : RecoveryOutcome PyFloat → PyFloat)
    {o a : RecoveryOutcome PyFloat} (h : o.pair = a.pair) :
    meanOf sum number outcomes o = meanOf sum number outcomes a := by
  rw [meanOf, meanOf, h]

/-- The numbers of a safe aggregate are no `nan`, and its success is the recorded mean. -/
theorem compared_of_aggregated (h : aggregateRepetitions (floats sum) outcomes = .ok aggregated)
    (hmeans : MeansCompared sum outcomes) {a : RecoveryOutcome PyFloat} (ha : a ∈ aggregated)
    (hsafe : OfSafe outcomes a) : Compared a := by
  obtain ⟨o, ho, hpair⟩ := exists_record h ha
  obtain ⟨hsuccess, havailability, himprovement, hseconds⟩ := means_of_aggregated h ha
  obtain ⟨hs, hv, hm, ht⟩ := hmeans o ho ((ofSafe_congr hpair).2 hsafe)
  rw [meanOf_congr _ hpair] at hs hv hm ht
  exact ⟨hsuccess ▸ hs, havailability ▸ hv, himprovement ▸ hm, hseconds ▸ ht⟩

/-- The evaluations of a scenario are those of its aggregates. -/
theorem exists_of_evaluationsOf {weights : RewardWeights} {scenario : String}
    {evaluations : List (ActionEvaluation PyFloat)}
    (h : evaluationsOf sum outcomes weights scenario = .ok evaluations) :
    ∃ aggregated, aggregateRepetitions (floats sum) outcomes = .ok aggregated ∧
      (aggregated.filter fun o => o.scenario = scenario).mapM
        (evaluateRecoveryAction (floats sum) weights) = .ok evaluations := bind_eq_ok h

/-- **A bounded success keeps the safe actions ahead.** -/
theorem safeAhead_of_success (hmeans : MeansCompared sum outcomes)
    (hsuccess : ∀ o ∈ outcomes, OfSafe outcomes o →
      ge (meanOf sum (·.recoverySuccess) outcomes o) (finite (-3.3)) = true)
    {policy : String × RewardWeights} (hpolicy : policy ∈ recoveryRewardPolicies)
    {scenario : String} {evaluations : List (ActionEvaluation PyFloat)}
    (h : evaluationsOf sum outcomes policy.2 scenario = .ok evaluations) :
    SafeAhead sum evaluations := by
  obtain ⟨aggregated, haggregated, hevaluations⟩ := exists_of_evaluationsOf h
  intro i j x y hx hy hsafex hsafey
  obtain ⟨a, ha, hitem⟩ := exists_of_mem_mapM hevaluations (List.mem_of_getElem? hx)
  obtain ⟨b, _, hother⟩ := exists_of_mem_mapM hevaluations (List.mem_of_getElem? hy)
  have ha := (List.mem_filter.1 ha).1
  obtain rfl := evaluateRecoveryAction_outcome hitem
  have hsafe : OfSafe outcomes x.outcome := (fullySafe_iff haggregated ha).2 hsafex
  obtain ⟨o, ho, hpair⟩ := exists_record haggregated ha
  have hbound := hsuccess o ho ((ofSafe_congr hpair).2 hsafe)
  rw [meanOf_congr _ hpair, ← (means_of_aggregated haggregated ha).1] at hbound
  obtain ⟨_, _, _, _, _, havailability, himprovement, htime, hinfrastructure, hcost, hreward⟩ :=
    reward_of_safe hitem hsafex (compared_of_aggregated haggregated hmeans ha hsafe)
  have hge := weighted_ge (bounding_of_mem hpolicy) hbound havailability himprovement htime
    hinfrastructure hcost
  rw [← hreward] at hge
  exact .inl (ranksBefore_of_reward (by norm_num) hge (reward_of_not_safe hother hsafey))

/-- **A success of at most `-5.7` leaves a safe action behind an unsafe one.** -/
theorem not_safeAhead_of_success (hmeans : MeansCompared sum outcomes)
    {o u : RecoveryOutcome PyFloat} (ho : o ∈ outcomes) (hu : u ∈ outcomes)
    (hscenario : u.scenario = o.scenario) (hsafe : OfSafe outcomes o) (hexposed : ¬OfSafe outcomes u)
    (hsuccess : ge (finite (-5.7)) (meanOf sum (·.recoverySuccess) outcomes o) = true)
    {evaluations : List (ActionEvaluation PyFloat)}
    (h : evaluationsOf sum outcomes haFirst o.scenario = .ok evaluations) :
    ¬SafeAhead sum evaluations := by
  obtain ⟨aggregated, haggregated, hevaluations⟩ := exists_of_evaluationsOf h
  have hevaluated : ∀ r ∈ outcomes, r.scenario = o.scenario → ∃ a ∈ aggregated, a.pair = r.pair ∧
      ∃ item ∈ evaluations, evaluateRecoveryAction (floats sum) haFirst a = .ok item := by
    intro r hr hrscenario
    obtain ⟨a, ha, hpair⟩ := List.mem_map.1
      ((mem_map_pair_aggregated haggregated).2 ⟨r, hr, rfl⟩)
    have hin : a ∈ aggregated.filter fun a => a.scenario = o.scenario :=
      List.mem_filter.2 ⟨ha, decide_eq_true ((congrArg Prod.fst hpair).trans hrscenario)⟩
    exact ⟨a, ha, hpair, exists_mem_of_mapM hevaluations hin⟩
  obtain ⟨a, ha, hpair, x, hx, hitem⟩ := hevaluated o ho rfl
  obtain ⟨b, hb, hpairb, y, hy, hother⟩ := hevaluated u hu hscenario
  obtain rfl := evaluateRecoveryAction_outcome hitem
  obtain rfl := evaluateRecoveryAction_outcome hother
  have hsafea := (ofSafe_congr hpair).2 hsafe
  have hsafex : x.Safe := (fullySafe_iff haggregated ha).1 hsafea
  have hsafey : ¬y.Safe := fun hy =>
    hexposed ((ofSafe_congr hpairb).1 ((fullySafe_iff haggregated hb).2 hy))
  -- No reward of the scenario is a `nan`, so nothing parts the two.
  have hnan : ∀ z ∈ evaluations, z.predictedReward ≠ .nan := by
    intro z hz
    obtain ⟨c, hc, hcitem⟩ := exists_of_mem_mapM hevaluations hz
    have hc := (List.mem_filter.1 hc).1
    obtain rfl := evaluateRecoveryAction_outcome hcitem
    by_cases hsafez : z.Safe
    · have hsafez := (fullySafe_iff haggregated hc).2 hsafez
      have hcompared := compared_of_aggregated haggregated hmeans hc hsafez
      obtain ⟨_, _, _, _, _, hv, hm, ht, hi, hcost, hreward⟩ :=
        reward_of_safe hcitem ((fullySafe_iff haggregated hc).1 hsafez) hcompared
      rw [hreward]
      exact weighted_ne_nan hcompared.success hv hm ht hi hcost
    · rw [reward_of_not_safe hcitem hsafez]
      simp [PyFloat.lit]
  obtain ⟨i, hi⟩ := List.getElem?_of_mem hx
  obtain ⟨j, hj⟩ := List.getElem?_of_mem hy
  rw [← meanOf_congr _ hpair, ← (means_of_aggregated haggregated ha).1] at hsuccess
  obtain ⟨_, _, _, _, _, havailability, himprovement, htime, hinfrastructure, hcost, hreward⟩ :=
    reward_of_safe hitem hsafex (compared_of_aggregated haggregated hmeans ha hsafea)
  have hle := weighted_le hsuccess havailability himprovement htime hinfrastructure hcost
  rw [← hreward] at hle
  intro hahead
  rcases hahead i j x y hi hj hsafex hsafey with hbefore | ⟨k, z, _, _, hk, hz⟩
  · exact not_ranksBefore_of_reward (by norm_num) hle (reward_of_not_safe hother hsafey) hbefore
  · exact hnan z (List.mem_of_getElem? hk) hz

/-- The recorded numbers of a safe action are not negative. -/
def RecordedNonneg (outcomes : List (RecoveryOutcome PyFloat)) : Prop :=
  ∀ o ∈ outcomes, OfSafe outcomes o → o.recoverySuccess.Nonneg ∧ o.availabilityRecovery.Nonneg ∧
    o.metricImprovement.Nonneg ∧ o.recoverySeconds.Nonneg

/-- The mean of numbers that are not negative is not negative. -/
theorem meanOf_nonneg (total : Summation) {number : RecoveryOutcome PyFloat → PyFloat}
    {o : RecoveryOutcome PyFloat} (h : ∀ r ∈ outcomes, r.pair = o.pair → (number r).Nonneg) :
    (meanOf total.sum number outcomes o).Nonneg := by
  refine (total.nonneg _ fun x hx => ?_).div_count _
  obtain ⟨r, hr, rfl⟩ := List.mem_map.1 hx
  obtain ⟨hmem, hpair⟩ := mem_repetitions.1 hr
  exact h r hmem hpair

/-- Records that are not negative have means within the bounds. -/
theorem means_of_nonneg (total : Summation) (h : RecordedNonneg outcomes) :
    MeansCompared total.sum outcomes ∧ ∀ o ∈ outcomes, OfSafe outcomes o →
      ge (meanOf total.sum (·.recoverySuccess) outcomes o) (finite (-3.3)) = true := by
  have hrecorded : ∀ {o}, OfSafe outcomes o → ∀ r ∈ outcomes, r.pair = o.pair →
      r.recoverySuccess.Nonneg ∧ r.availabilityRecovery.Nonneg ∧ r.metricImprovement.Nonneg ∧
        r.recoverySeconds.Nonneg :=
    fun hsafe r hr hpair => h r hr ((ofSafe_congr hpair).2 hsafe)
  refine ⟨fun o _ hsafe => ⟨?_, ?_, ?_, ?_⟩, fun o _ hsafe => ?_⟩
  · exact (meanOf_nonneg total fun r hr hpair => (hrecorded hsafe r hr hpair).1).ne_nan
  · exact (meanOf_nonneg total fun r hr hpair => (hrecorded hsafe r hr hpair).2.1).ne_nan
  · exact (meanOf_nonneg total fun r hr hpair => (hrecorded hsafe r hr hpair).2.2.1).ne_nan
  · exact (meanOf_nonneg total fun r hr hpair => (hrecorded hsafe r hr hpair).2.2.2).ne_nan
  · have hmean : (meanOf total.sum (·.recoverySuccess) outcomes o).Nonneg :=
      meanOf_nonneg total fun r hr hpair => (hrecorded hsafe r hr hpair).1
    generalize meanOf total.sum (·.recoverySuccess) outcomes o = x at hmean
    rcases x with q | - | - | -
    · refine ge_finite.2 (.inr ⟨q, rfl, le_trans ?_ hmean⟩)
      norm_num
    · exact hmean.elim
    · rfl
    · exact hmean.elim

/-- A safe action with a recorded success of `-3` and an action that is not safe. -/
def trailingOutcomes : List (RecoveryOutcome PyFloat) :=
  [exampleOutcome .observeOnly (-3) true, exampleOutcome .rolloutRestart 1 false]

theorem countsInRange_trailing : CountsInRange trailingOutcomes := by
  refine List.forall_mem_cons.2 ⟨⟨?_, ?_⟩, List.forall_mem_cons.2 ⟨⟨?_, ?_⟩, by simp⟩⟩ <;>
    unfold MeanInRange <;> decide +kernel

end Order

end Comparison
end AiopsK8s
