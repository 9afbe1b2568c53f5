/-
# Whether safe actions come first

An action with an unsafe or unmeasured repetition has the reward `-1`, and that is all that puts it
behind the others.  The reward of a safe action is a sum of clamped scores but for the recorded
`recovery_success`, which is neither clamped nor checked when it is loaded, so the sum may fall
below `-1`.

`safeRanked_iff` says when the safe actions are ahead: where each has a key below those of the unsafe
ones of its scenario.  The key of a `nan` is not compared with any other; such an action keeps its
place, and parts those recorded before it from those after it.
-/

import AiopsK8s.Comparison.Ranking

namespace AiopsK8s
namespace Comparison

open Arithmetic Binary64 Effect Supervision

/-! ### When an analysis returns -/

section Range

variable {sum : List PyFloat → PyFloat}

/-- The mean of some integers is within the range of a float. -/
def MeanInRange (values : List ℤ) : Prop := |(values.sum : ℚ) / values.length| < limit

/-- The mean counts of every recorded action are within the range of a float. -/
def CountsInRange (outcomes : List (RecoveryOutcome PyFloat)) : Prop :=
  ∀ o ∈ outcomes, MeanInRange ((repetitions outcomes o.pair).map (·.replicaDelta)) ∧
    MeanInRange ((repetitions outcomes o.pair).map (·.commandCount))

variable (sum) in
theorem roundedMean_eq_ok {values : List ℤ} {n : ℤ} :
    roundedMean (floats sum) values = .ok n ↔ MeanInRange values ∧
      n = Round.roundHalfEven (nearest ((values.sum : ℚ) / values.length)) := by
  constructor
  · intro h
    obtain ⟨mean, hmean, h⟩ := bind_eq_ok h
    obtain ⟨hrange, rfl⟩ := PyFloat.ofQuotient_eq_some.1 (converted_eq_ok.1 hmean)
    exact ⟨hrange, (Option.some.inj (converted_eq_ok.1 h)).symm⟩
  · rintro ⟨hrange, rfl⟩
    have hmean : (floats sum).meanInt values =
        some (.finite (nearest ((values.sum : ℚ) / values.length))) :=
      PyFloat.ofQuotient_eq_some.2 ⟨hrange, rfl⟩
    rw [roundedMean, hmean]
    rfl

/-- A rounded mean has a float again. -/
theorem abs_roundedMean_le {values : List ℤ} {n : ℤ}
    (h : roundedMean (floats sum) values = .ok n) : |(n : ℚ)| ≤ largest := by
  obtain ⟨hrange, rfl⟩ := (roundedMean_eq_ok sum).1 h
  exact PyFloat.abs_roundHalfEven_nearest_le hrange

variable {outcomes aggregated : List (RecoveryOutcome PyFloat)}

/-- The counts of an aggregate are rounded means. -/
theorem counts_of_aggregated (h : aggregateRepetitions (floats sum) outcomes = .ok aggregated)
    {o : RecoveryOutcome PyFloat} (ho : o ∈ aggregated) :
    roundedMean (floats sum) ((repetitions outcomes o.pair).map (·.replicaDelta)) =
        .ok o.replicaDelta ∧
      roundedMean (floats sum) ((repetitions outcomes o.pair).map (·.commandCount)) =
        .ok o.commandCount := by
  have hgroup := mem_aggregated h ho
  generalize repetitions outcomes o.pair = values at hgroup ⊢
  cases values with
  | nil => cases hgroup
  | cons first rest =>
      obtain ⟨replicaDelta, hreplica, hgroup⟩ := bind_eq_ok hgroup
      obtain ⟨commandCount, hcommand, hgroup⟩ := bind_eq_ok hgroup
      obtain rfl := Except.ok.inj hgroup
      exact ⟨hreplica, hcommand⟩

variable (sum) in
/-- **What is aggregated**: the outcomes whose mean counts have floats. -/
theorem exists_aggregated_iff :
    (∃ aggregated, aggregateRepetitions (floats sum) outcomes = .ok aggregated) ↔
      CountsInRange outcomes := by
  constructor
  · rintro ⟨aggregated, h⟩ o ho
    obtain ⟨a, ha, hpair⟩ := List.mem_map.1 ((mem_map_pair_aggregated h).2 ⟨o, ho, rfl⟩)
    obtain ⟨hreplica, hcommand⟩ := counts_of_aggregated h ha
    rw [hpair] at hreplica hcommand
    exact ⟨((roundedMean_eq_ok sum).1 hreplica).1, ((roundedMean_eq_ok sum).1 hcommand).1⟩
  · intro h
    refine exists_mapM_ok fun group hgroup => ?_
    obtain ⟨pair, values⟩ := group
    have hne : values ≠ [] := Dict.ne_nil_of_mem_groupBy hgroup
    obtain ⟨⟨o, ho, rfl⟩, rfl⟩ := mem_groups.1 hgroup
    obtain ⟨hreplica, hcommand⟩ := h o ho
    have hreplica := (roundedMean_eq_ok sum).2 ⟨hreplica, rfl⟩
    have hcommand := (roundedMean_eq_ok sum).2 ⟨hcommand, rfl⟩
    generalize repetitions outcomes o.pair = values at hne hreplica hcommand ⊢
    cases values with
    | nil => exact absurd rfl hne
    | cons first rest =>
        simp only [aggregateGroup, hreplica, hcommand, bind, Except.bind, pure, Except.pure]
        exact ⟨_, rfl⟩

theorem exists_ofInt_max {n m : ℤ} (hm : |(m : ℚ)| ≤ largest) (h : n ≤ |m|) :
    ∃ x, PyFloat.ofInt (max n 0) = some x := by
  refine PyFloat.exists_ofInt hm ?_
  rw [abs_of_nonneg (le_max_right n 0)]
  exact max_le h (abs_nonneg m)

/-- **Every aggregate is evaluated.** -/
theorem exists_evaluation_of_aggregated
    (h : aggregateRepetitions (floats sum) outcomes = .ok aggregated)
    {o : RecoveryOutcome PyFloat} (ho : o ∈ aggregated) (weights : RewardWeights) :
    ∃ item, evaluateRecoveryAction (floats sum) weights o = .ok item := by
  obtain ⟨hreplica, hcommand⟩ := counts_of_aggregated h ho
  obtain ⟨replicas, hreplicas⟩ := exists_ofInt_max (abs_roundedMean_le hreplica)
    (le_abs_self o.replicaDelta)
  obtain ⟨commands, hcommands⟩ := exists_ofInt_max (n := o.commandCount - 1)
    (abs_roundedMean_le hcommand) ((sub_one_lt _).le.trans (le_abs_self _))
  have hreplicas : converted .overflow ((floats sum).ofInt (max o.replicaDelta 0)) =
      .ok replicas := converted_eq_ok.2 hreplicas
  have hcommands : converted .overflow ((floats sum).ofInt (max (o.commandCount - 1) 0)) =
      .ok commands := converted_eq_ok.2 hcommands
  obtain ⟨cost, hcost⟩ : ∃ cost, costScore (floats sum) o.action.kind o.replicaDelta =
      .ok cost := by
    cases o.action.kind with
    | observeOnly => exact ⟨_, rfl⟩
    | rolloutRestart => exact ⟨_, rfl⟩
    | scaleOut =>
        unfold costScore
        rw [hreplicas]
        exact ⟨_, rfl⟩
  unfold evaluateRecoveryAction
  split_ifs
  · exact ⟨_, rfl⟩
  · unfold scoredEvaluation
    rw [hreplicas, hcommands, hcost]
    exact ⟨_, rfl⟩

variable (sum) in
/-- **When an analysis returns.** -/
theorem exists_analysis_iff :
    (∃ analysis, analyzeRecoveryOutcomes (floats sum) outcomes = .ok analysis) ↔
      CountsInRange outcomes := by
  rw [← exists_aggregated_iff sum]
  constructor
  · rintro ⟨analysis, h⟩
    obtain ⟨aggregated, haggregated, _⟩ := bind_eq_ok h
    exact ⟨aggregated, haggregated⟩
  · rintro ⟨aggregated, h⟩
    exact exists_analysis_of h fun weights o ho => exists_evaluation_of_aggregated h ho weights

end Range

/-! ### Which actions are ahead -/

section Order

variable {sum : List PyFloat → PyFloat}

/-- The action is safe and measured in all of its repetitions, as its aggregate says. -/
def ActionEvaluation.Safe (item : ActionEvaluation PyFloat) : Prop :=
  item.outcome.safetyValid = true ∧ item.outcome.measurementValid = true

/-- Every repetition of an action of the scenario is safe and measured. -/
def FullySafe (outcomes : List (RecoveryOutcome PyFloat)) (scenario action : String) : Prop :=
  ∀ o ∈ outcomes, o.scenario = scenario → o.action.kind.value = action →
    o.safetyValid = true ∧ o.measurementValid = true

/-- Safe actions are ranked above the others, and one that is not safe is selected only if none of
the scenario is. -/
def SafeRanked (outcomes : List (RecoveryOutcome PyFloat)) (analysis : RecoveryAnalysis PyFloat) :
    Prop :=
  ∀ policy ∈ analysis.policies, ∀ entry ∈ policy.2,
    (∀ x ∈ entry.2.ranking, ∀ y ∈ entry.2.ranking, FullySafe outcomes entry.1 x.action →
      ¬FullySafe outcomes entry.1 y.action → x.rank < y.rank) ∧
    (¬FullySafe outcomes entry.1 entry.2.selectedAction →
      ∀ x ∈ entry.2.ranking, ¬FullySafe outcomes entry.1 x.action)

variable (sum) in
/-- The keys put the safe actions ahead: each is below those of the actions that are not safe, or a
`nan` parts them, which was recorded between the two or is the reward of the safe one itself. -/
def SafeAhead (evaluations : List (ActionEvaluation PyFloat)) : Prop :=
  ∀ (i j : ℕ) (x y : ActionEvaluation PyFloat), evaluations[i]? = some x →
    evaluations[j]? = some y → x.Safe → ¬y.Safe → ranksBefore (floats sum) x y = true ∨
      ∃ (k : ℕ) (z : ActionEvaluation PyFloat), i ≤ k ∧ k < j ∧ evaluations[k]? = some z ∧
        z.predictedReward = .nan

/-- An action that is not safe has the reward `-1`. -/
theorem reward_of_not_safe {weights : RewardWeights} {outcome : RecoveryOutcome PyFloat}
    {item : ActionEvaluation PyFloat}
    (h : evaluateRecoveryAction (floats sum) weights outcome = .ok item) (hsafe : ¬item.Safe) :
    item.predictedReward = PyFloat.lit (-1) := by
  have houtcome := evaluateRecoveryAction_outcome h
  have hsentinel : outcome.safetyValid = false ∨ outcome.measurementValid = false := by
    by_contra hneither
    rw [not_or, Bool.not_eq_false, Bool.not_eq_false, ← houtcome] at hneither
    exact hsafe hneither
  rw [evaluateRecoveryAction, if_pos hsentinel] at h
  obtain rfl := Except.ok.inj h
  rfl

/-- The reward of an action is `nan`. -/
def ActionEvaluation.isNan (item : ActionEvaluation PyFloat) : Bool :=
  item.predictedReward = .nan

theorem neg_eq_nan {x : PyFloat} : PyFloat.neg x = .nan ↔ x = .nan := by
  cases x <;> simp [PyFloat.neg]

theorem ranksBefore_nan {z : ActionEvaluation PyFloat} (hz : z.predictedReward = .nan)
    (a : ActionEvaluation PyFloat) :
    ranksBefore (floats sum) a z = false ∧ ranksBefore (floats sum) z a = false := by
  have hkey : (z.key (floats sum)).negatedReward = .nan := neg_eq_nan.2 hz
  have hleft : PyFloat.eq (a.key (floats sum)).negatedReward .nan = false := by
    cases (a.key (floats sum)).negatedReward <;> rfl
  have hright : PyFloat.eq .nan (a.key (floats sum)).negatedReward = false := rfl
  have hcompared := PyFloat.lt_nan (a.key (floats sum)).negatedReward
  constructor
  · unfold ranksBefore RankKey.lt
    rw [hkey]
    exact (if_pos hleft).trans hcompared.1
  · unfold ranksBefore RankKey.lt
    rw [hkey]
    exact (if_pos hright).trans hcompared.2

/-- Rewards that are not `nan` are compared. -/
theorem comparedBy_floats {a b : ActionEvaluation PyFloat} (ha : a.isNan = false)
    (hb : b.isNan = false) : ComparedBy (floats sum) PyFloat.extended
      (a.key (floats sum)).negatedReward (b.key (floats sum)).negatedReward := by
  have hkey : ∀ {x : ActionEvaluation PyFloat}, x.isNan = false →
      (x.key (floats sum)).negatedReward ≠ .nan := by
    intro x hx h
    rw [ActionEvaluation.isNan, decide_eq_false_iff_not] at hx
    exact hx (neg_eq_nan.1 h)
  exact ⟨PyFloat.lt_iff_extended (hkey ha) (hkey hb), PyFloat.eq_iff_extended (hkey ha) (hkey hb)⟩

/-- **Which evaluations are sorted with the safe ones first.** -/
theorem pairwise_sorted_safe {weights : RewardWeights} {l : List (RecoveryOutcome PyFloat)}
    {evaluations : List (ActionEvaluation PyFloat)}
    (h : l.mapM (evaluateRecoveryAction (floats sum) weights) = .ok evaluations)
    (hkinds : (l.map (·.action.kind)).Nodup) :
    ((Sorting.sorted (ranksBefore (floats sum)) evaluations).Pairwise fun a b =>
      b.Safe → a.Safe) ↔ SafeAhead sum evaluations := by
  have hnan : ∀ z : ActionEvaluation PyFloat, z.isNan = true ↔ z.predictedReward = .nan :=
    fun z => decide_eq_true_iff
  have hkinds' : evaluations.Pairwise fun a b => a.outcome.action.kind ≠ b.outcome.action.kind := by
    rw [← map_outcome_evaluations h, List.map_map] at hkinds
    exact List.pairwise_map.1 hkinds
  have hcompared : ∀ a ∈ evaluations.filter (fun a => !a.isNan), a.isNan = false := by
    intro a ha
    simpa using (List.mem_filter.1 ha).2
  have hloose : ∀ z ∈ evaluations, z.isNan = true → z.Safe ∧
      ∀ a, ranksBefore (floats sum) a z = false ∧ ranksBefore (floats sum) z a = false := by
    intro z hz hloose
    refine ⟨?_, ranksBefore_nan ((hnan z).1 hloose)⟩
    obtain ⟨outcome, _, hitem⟩ := exists_of_mem_mapM h hz
    by_contra hsafe
    have hreward := reward_of_not_safe hitem hsafe
    rw [(hnan z).1 hloose] at hreward
    cases hreward
  have hordered : Sorting.OrderedBy (ranksBefore (floats sum))
      (evaluations.filter fun a => !a.isNan) :=
    orderedBy_ranksBefore fun a ha b hb => comparedBy_floats (hcompared a ha) (hcompared b hb)
  have htotal : evaluations.Pairwise fun a b => a.isNan = false → b.isNan = false →
      ranksBefore (floats sum) a b = true ∨ ranksBefore (floats sum) b a = true :=
    hkinds'.imp fun hne ha hb =>
      ranksBefore_total (comparedBy_floats ha hb) (comparedBy_floats hb ha) hne
  rw [Sorting.pairwise_sorted_iff hloose hordered htotal]
  simp only [hnan]
  rfl

variable {outcomes aggregated : List (RecoveryOutcome PyFloat)}

/-- An aggregate is safe if all repetitions are. -/
theorem fullySafe_iff (haggregated : aggregateRepetitions (floats sum) outcomes = .ok aggregated)
    {item : ActionEvaluation PyFloat} (hitem : item.outcome ∈ aggregated) :
    FullySafe outcomes item.outcome.scenario item.outcome.action.kind.value ↔ item.Safe := by
  obtain ⟨_, hsafety, hmeasured⟩ := aggregateGroup_ok (mem_aggregated haggregated hitem)
  unfold ActionEvaluation.Safe FullySafe
  rw [hsafety, hmeasured, List.all_eq_true, List.all_eq_true]
  constructor
  · intro h
    have hpair : ∀ o ∈ repetitions outcomes item.outcome.pair,
        o.safetyValid = true ∧ o.measurementValid = true := by
      intro o ho
      obtain ⟨hmem, hpair⟩ := mem_repetitions.1 ho
      have hkind : o.action.kind = item.outcome.action.kind := congrArg Prod.snd hpair
      exact h o hmem (congrArg Prod.fst hpair) (congrArg _ hkind)
    exact ⟨fun o ho => (hpair o ho).1, fun o ho => (hpair o ho).2⟩
  · rintro ⟨hsafe, hmeasured⟩ o ho hscenario hkind
    have hmem : o ∈ repetitions outcomes item.outcome.pair :=
      mem_repetitions.2 ⟨ho, Prod.ext hscenario (RecoveryActionKind.value_inj hkind)⟩
    exact ⟨hsafe o hmem, hmeasured o hmem⟩

/-- **Which scenarios are ranked with the safe actions first.** -/
theorem entry_safe_iff (haggregated : aggregateRepetitions (floats sum) outcomes = .ok aggregated)
    {weights : RewardWeights} {scenario : String} {r : String × ScenarioRanking PyFloat}
    (h : rankScenario (floats sum) aggregated weights scenario = .ok r)
    {evaluations : List (ActionEvaluation PyFloat)}
    (hevaluations : (aggregated.filter fun o => o.scenario = scenario).mapM
      (evaluateRecoveryAction (floats sum) weights) = .ok evaluations) :
    ((∀ x ∈ r.2.ranking, ∀ y ∈ r.2.ranking, FullySafe outcomes r.1 x.action →
        ¬FullySafe outcomes r.1 y.action → x.rank < y.rank) ∧
      (¬FullySafe outcomes r.1 r.2.selectedAction →
        ∀ x ∈ r.2.ranking, ¬FullySafe outcomes r.1 x.action)) ↔ SafeAhead sum evaluations := by
  obtain ⟨evaluations', hevaluations', hname, hresult⟩ := rankScenario_ok h
  obtain rfl := Except.ok.inj (hevaluations'.symm.trans hevaluations)
  rw [← pairwise_sorted_safe hevaluations (nodup_kinds haggregated scenario), hname]
  obtain ⟨hranking, hselected⟩ := scenarioRanking_ok hresult
  have hsafe : ∀ item ∈ Sorting.sorted (ranksBefore (floats sum)) evaluations',
      (FullySafe outcomes scenario item.outcome.action.kind.value ↔ item.Safe) := by
    intro item hitem
    have hmem := List.mem_map_of_mem (f := (·.outcome)) (Sorting.mem_sorted.1 hitem)
    rw [map_outcome_evaluations hevaluations] at hmem
    obtain ⟨hmem, hscenario⟩ := List.mem_filter.1 hmem
    rw [← fullySafe_iff haggregated hmem, ← of_decide_eq_true hscenario]
  generalize Sorting.sorted (ranksBefore (floats sum)) evaluations' = sorted at *
  have hat : ∀ x, x ∈ r.2.ranking ↔ ∃ (i : ℕ) (item : ActionEvaluation PyFloat),
      sorted[i]? = some item ∧ x = evaluationToDict item (i + 1) := by
    intro x
    rw [hranking, rankedActions, List.mem_mapIdx]
    constructor
    · rintro ⟨i, hi, rfl⟩
      exact ⟨i, _, List.getElem?_eq_getElem hi, rfl⟩
    · rintro ⟨i, item, hi, rfl⟩
      obtain ⟨hlt, rfl⟩ := List.getElem?_eq_some_iff.1 hi
      exact ⟨i, hlt, rfl⟩
  constructor
  · rintro ⟨habove, _⟩
    refine List.pairwise_iff_getElem.2 fun i j hi hj hij hsafej => ?_
    by_contra hsafei
    have hxi := (hat _).2 ⟨i, _, List.getElem?_eq_getElem hi, rfl⟩
    have hxj := (hat _).2 ⟨j, _, List.getElem?_eq_getElem hj, rfl⟩
    have hrank := habove _ hxj _ hxi ((hsafe _ (List.getElem_mem hj)).2 hsafej)
      fun hfull => hsafei ((hsafe _ (List.getElem_mem hi)).1 hfull)
    simp only [evaluationToDict] at hrank
    omega
  · intro hpairwise
    refine ⟨fun x hx y hy hsafex hsafey => ?_, fun hexposed x hx hsafex => ?_⟩
    · obtain ⟨i, itemx, hxi, rfl⟩ := (hat x).1 hx
      obtain ⟨j, itemy, hyj, rfl⟩ := (hat y).1 hy
      obtain ⟨hi, rfl⟩ := List.getElem?_eq_some_iff.1 hxi
      obtain ⟨hj, rfl⟩ := List.getElem?_eq_some_iff.1 hyj
      have hsafei := (hsafe _ (List.getElem_mem hi)).1 hsafex
      have hsafej : ¬sorted[j].Safe := fun h => hsafey ((hsafe _ (List.getElem_mem hj)).2 h)
      show i + 1 < j + 1
      rcases lt_trichotomy i j with hij | rfl | hij
      · omega
      · exact absurd hsafei hsafej
      · exact absurd (List.pairwise_iff_getElem.1 hpairwise j i hj hi hij hsafei) hsafej
    · obtain ⟨i, itemx, hxi, rfl⟩ := (hat x).1 hx
      obtain ⟨hi, rfl⟩ := List.getElem?_eq_some_iff.1 hxi
      have hsafei := (hsafe _ (List.getElem_mem hi)).1 hsafex
      have hpos : 0 < sorted.length := by omega
      rw [List.head?_eq_getElem?, List.getElem?_map, List.getElem?_eq_getElem hpos] at hselected
      have hfirst : ¬sorted[0].Safe := by
        intro h
        rw [← Option.some.inj hselected] at hexposed
        exact hexposed ((hsafe _ (List.getElem_mem hpos)).2 h)
      rcases Nat.eq_zero_or_pos i with rfl | hi'
      · exact hfirst hsafei
      · exact hfirst (List.pairwise_iff_getElem.1 hpairwise 0 i hpos hi hi' hsafei)

/-- The evaluations of a scenario under some weights. -/
def evaluationsOf (sum : List PyFloat → PyFloat) (outcomes : List (RecoveryOutcome PyFloat))
    (weights : RewardWeights) (scenario : String) :
    Except ComparisonError (List (ActionEvaluation PyFloat)) := do
  let aggregated ← aggregateRepetitions (floats sum) outcomes
  (aggregated.filter fun o => o.scenario = scenario).mapM
    (evaluateRecoveryAction (floats sum) weights)

/-- **When safe actions come first**: the analysis returns where the mean counts have floats, and it
ranks every safe action above every other one of its scenario exactly where the keys put it there. -/
theorem safeRanked_iff (outcomes : List (RecoveryOutcome PyFloat)) :
    (∃ analysis, analyzeRecoveryOutcomes (floats sum) outcomes = .ok analysis ∧
      SafeRanked outcomes analysis) ↔
    CountsInRange outcomes ∧ ∀ policy ∈ recoveryRewardPolicies, ∀ scenario evaluations,
      evaluationsOf sum outcomes policy.2 scenario = .ok evaluations →
        SafeAhead sum evaluations := by
  constructor
  · rintro ⟨analysis, h, hsafe⟩
    refine ⟨(exists_analysis_iff sum).1 ⟨analysis, h⟩, fun policy hpolicy scenario evaluations he => ?_⟩
    obtain ⟨aggregated, haggregated, h⟩ := bind_eq_ok h
    obtain ⟨policies, hpolicies, h⟩ := bind_eq_ok h
    obtain rfl := Except.ok.inj h
    obtain ⟨aggregated', haggregated', he⟩ := bind_eq_ok he
    obtain rfl := Except.ok.inj (haggregated'.symm.trans haggregated)
    obtain ⟨entries, hentries, hpolicy⟩ := exists_mem_of_mapM hpolicies hpolicy
    obtain ⟨scenarios, hscenarios, hpolicy⟩ := bind_eq_ok hpolicy
    obtain rfl := Except.ok.inj hpolicy
    by_cases hrecorded : scenario ∈ scenariosOf aggregated'
    · obtain ⟨entry, hentry, hscenario⟩ := exists_mem_of_mapM hscenarios hrecorded
      exact (entry_safe_iff haggregated hscenario he).1 (hsafe _ hentries entry hentry)
    · have hnone : aggregated'.filter (fun o => o.scenario = scenario) = [] := by
        refine List.filter_eq_nil_iff.2 fun o ho hscenario => hrecorded ?_
        rw [scenariosOf, Sorting.mem_sortedSet]
        exact List.mem_map.2 ⟨o, ho, of_decide_eq_true hscenario⟩
      rw [hnone, List.mapM_nil] at he
      obtain rfl := Except.ok.inj he
      intro i j x y hx
      simp at hx
  · rintro ⟨hrange, hahead⟩
    obtain ⟨analysis, h⟩ := (exists_analysis_iff sum).2 hrange
    refine ⟨analysis, h, fun policyEntry hpolicyEntry entry hentry => ?_⟩
    obtain ⟨aggregated, haggregated, h⟩ := bind_eq_ok h
    obtain ⟨policies, hpolicies, h⟩ := bind_eq_ok h
    obtain rfl := Except.ok.inj h
    obtain ⟨policy, hpolicy, hpolicies⟩ := exists_of_mem_mapM hpolicies hpolicyEntry
    obtain ⟨scenarios, hscenarios, hpolicies⟩ := bind_eq_ok hpolicies
    obtain rfl := Except.ok.inj hpolicies
    obtain ⟨scenario, _, hscenario⟩ := exists_of_mem_mapM hscenarios hentry
    obtain ⟨evaluations, hevaluations, _⟩ := rankScenario_ok hscenario
    refine (entry_safe_iff haggregated hscenario hevaluations).2 ?_
    refine hahead policy hpolicy scenario evaluations ?_
    rw [evaluationsOf, haggregated]
    exact hevaluations

/-- A sum from the left. -/
def leftSum (values : List PyFloat) : PyFloat := values.foldl PyFloat.add (.finite 0)

/-- An outcome of the one deployment of the example. -/
def exampleOutcome (kind : RecoveryActionKind) (success : ℚ) (safe : Bool) :
    RecoveryOutcome PyFloat :=
  ⟨"cpu-stress", ⟨"online-boutique", "frontend", kind, none, ""⟩, .finite success, .finite 1,
    .finite 1, .finite 10, 0, 1, safe, true⟩

/-- A safe action with a recorded success of `-100` and an action that is not safe. -/
def strandedOutcomes : List (RecoveryOutcome PyFloat) :=
  [exampleOutcome .observeOnly (-100) true, exampleOutcome .rolloutRestart 1 false]

/-- The first scenario of the first policy: its name, the selected action and those ranked. -/
def firstEntry (analysis : Except ComparisonError (RecoveryAnalysis PyFloat)) :
    Option (String × String × List String) :=
  match analysis with
  | .ok analysis => (analysis.policies.head?.bind fun policy => policy.2.head?).map fun entry =>
      (entry.1, entry.2.selectedAction, entry.2.ranking.map (·.action))
  | .error _ => none

theorem firstEntry_stranded :
    firstEntry (analyzeRecoveryOutcomes (floats leftSum) strandedOutcomes) =
      some ("cpu-stress", "rollout_restart", ["rollout_restart", "observe_only"]) := by
  decide +kernel

end Order

end Comparison
end AiopsK8s
