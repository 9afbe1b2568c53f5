/-
# What a ranking lists

Over every arithmetic, an analysis that returns lists each recorded action of a scenario once, with
the ranks from one (`analyzeRecoveryOutcomes_listed`): repetitions are grouped by scenario and kind
(`mem_aggregated`), the groups of a scenario differ in their kinds, and sorting permutes.

In exact arithmetic the ranking is moreover a function of the recorded outcomes alone, whatever
their order and however often they are repeated (`policies_of_repeated`).  The mean of a group does
not depend on it, and the key of the sort ends in the kind, so that no two actions tie.
-/

import AiopsK8s.Comparison.Outcomes
import Mathlib.Data.Prod.Lex

namespace AiopsK8s
namespace Comparison

open Effect Supervision

/-! ### Groups -/

section Groups

variable {F : Type} {ar : Arithmetic F}

/-- An action is evaluated as it was aggregated. -/
theorem evaluateRecoveryAction_outcome {weights : RewardWeights} {outcome : RecoveryOutcome F}
    {item : ActionEvaluation F} (h : evaluateRecoveryAction ar weights outcome = .ok item) :
    item.outcome = outcome := by
  unfold evaluateRecoveryAction at h
  split_ifs at h
  · obtain rfl := Except.ok.inj h
    rfl
  · obtain ⟨replicas, _, h⟩ := bind_eq_ok h
    obtain ⟨commands, _, h⟩ := bind_eq_ok h
    obtain ⟨cost, _, h⟩ := bind_eq_ok h
    obtain rfl := Except.ok.inj h
    rfl

/-- What the aggregate of a group is, apart from its numbers. -/
theorem aggregateGroup_ok {values : List (RecoveryOutcome F)} {o : RecoveryOutcome F}
    (h : aggregateGroup ar values = .ok o) :
    (∃ first ∈ values, o.pair = first.pair) ∧ o.safetyValid = values.all (·.safetyValid) ∧
      o.measurementValid = values.all (·.measurementValid) := by
  cases values with
  | nil => cases h
  | cons first rest =>
      obtain ⟨replicaDelta, _, h⟩ := bind_eq_ok h
      obtain ⟨commandCount, _, h⟩ := bind_eq_ok h
      obtain rfl := Except.ok.inj h
      exact ⟨⟨first, List.mem_cons_self, rfl⟩, rfl, rfl⟩

/-- The outcomes that a key was recorded with. -/
def repetitions (outcomes : List (RecoveryOutcome F)) (pair : String × RecoveryActionKind) :
    List (RecoveryOutcome F) :=
  outcomes.filter fun o => o.pair = pair

theorem mem_repetitions {outcomes : List (RecoveryOutcome F)}
    {pair : String × RecoveryActionKind} {o : RecoveryOutcome F} :
    o ∈ repetitions outcomes pair ↔ o ∈ outcomes ∧ o.pair = pair := by
  simp [repetitions]

variable {outcomes aggregated : List (RecoveryOutcome F)}

/-- A group is what its key was recorded with. -/
theorem mem_groups {pair : String × RecoveryActionKind} {values : List (RecoveryOutcome F)} :
    (pair, values) ∈ Dict.groupBy RecoveryOutcome.pair outcomes ↔
      (∃ o ∈ outcomes, o.pair = pair) ∧ values = repetitions outcomes pair := Dict.mem_groupBy

/-- The aggregate of a group has the key of the group. -/
theorem aggregateGroup_pair {group : (String × RecoveryActionKind) × List (RecoveryOutcome F)}
    (hgroup : group ∈ Dict.groupBy RecoveryOutcome.pair outcomes) {o : RecoveryOutcome F}
    (h : aggregateGroup ar group.2 = .ok o) : o.pair = group.1 := by
  obtain ⟨pair, values⟩ := group
  obtain ⟨_, rfl⟩ := mem_groups.1 hgroup
  obtain ⟨⟨first, hfirst, hpair⟩, _⟩ := aggregateGroup_ok h
  rw [hpair, (mem_repetitions.1 hfirst).2]

/-- The keys of the aggregates are those of the groups. -/
theorem map_pair_aggregated (h : aggregateRepetitions ar outcomes = .ok aggregated) :
    aggregated.map RecoveryOutcome.pair =
      (Dict.groupBy RecoveryOutcome.pair outcomes).map Prod.fst :=
  map_eq_map_of_mapM (fun _ hgroup _ ho => aggregateGroup_pair hgroup ho) h

/-- **Every recorded key has one aggregate.** -/
theorem nodup_aggregated (h : aggregateRepetitions ar outcomes = .ok aggregated) :
    (aggregated.map RecoveryOutcome.pair).Nodup := by
  rw [map_pair_aggregated h]
  exact Dict.nodup_keys_groupBy _ _

theorem mem_map_pair_aggregated (h : aggregateRepetitions ar outcomes = .ok aggregated)
    {pair : String × RecoveryActionKind} :
    pair ∈ aggregated.map RecoveryOutcome.pair ↔ ∃ o ∈ outcomes, o.pair = pair := by
  rw [map_pair_aggregated h]
  exact Dict.mem_keys_groupBy

/-- **An aggregate stands for all repetitions of its key.** -/
theorem mem_aggregated (h : aggregateRepetitions ar outcomes = .ok aggregated)
    {o : RecoveryOutcome F} (ho : o ∈ aggregated) :
    aggregateGroup ar (repetitions outcomes o.pair) = .ok o := by
  obtain ⟨⟨pair, values⟩, hgroup, hvalues⟩ := exists_of_mem_mapM h ho
  have hpair := aggregateGroup_pair hgroup hvalues
  obtain ⟨_, rfl⟩ := mem_groups.1 hgroup
  rw [hpair]
  exact hvalues

/-- The scenarios are those that were recorded. -/
theorem mem_scenariosOf (h : aggregateRepetitions ar outcomes = .ok aggregated)
    {scenario : String} :
    scenario ∈ scenariosOf aggregated ↔ ∃ o ∈ outcomes, o.scenario = scenario := by
  have hfst : (aggregated.map RecoveryOutcome.pair).map Prod.fst =
      aggregated.map (·.scenario) := by
    rw [List.map_map]
    rfl
  rw [scenariosOf, Sorting.mem_sortedSet, ← hfst, List.mem_map]
  constructor
  · rintro ⟨pair, hpair, rfl⟩
    obtain ⟨o, ho, rfl⟩ := (mem_map_pair_aggregated h).1 hpair
    exact ⟨o, ho, rfl⟩
  · rintro ⟨o, ho, rfl⟩
    exact ⟨o.pair, (mem_map_pair_aggregated h).2 ⟨o, ho, rfl⟩, rfl⟩

/-- The aggregates of a scenario differ in their kinds. -/
theorem nodup_kinds (h : aggregateRepetitions ar outcomes = .ok aggregated) (scenario : String) :
    ((aggregated.filter fun o => o.scenario = scenario).map (·.action.kind)).Nodup := by
  have hpairs := (List.filter_sublist (p := fun o => o.scenario = scenario)).map
    RecoveryOutcome.pair |>.nodup (nodup_aggregated h)
  rw [List.Nodup, List.pairwise_map] at hpairs ⊢
  refine hpairs.imp_of_mem fun {a b} ha hb hne hkind => hne ?_
  have hscenario : ∀ {o}, o ∈ aggregated.filter (fun o => o.scenario = scenario) →
      o.scenario = scenario := fun ho => by simpa using (List.mem_filter.1 ho).2
  exact Prod.ext ((hscenario ha).trans (hscenario hb).symm) hkind

end Groups

/-! ### Rankings -/

section Rankings

variable {F : Type} {ar : Arithmetic F}

theorem kindValue_injective : Function.Injective RecoveryActionKind.value :=
  fun _ _ => RecoveryActionKind.value_inj

/-- The ranks count the actions from one. -/
theorem map_rank_rankedActions (ranking : List (ActionEvaluation F)) :
    (rankedActions ranking).map (·.rank) = List.range' 1 ranking.length := by
  refine List.ext_getElem (by simp [rankedActions]) fun i h₁ h₂ => ?_
  simp [rankedActions, evaluationToDict, Nat.add_comm]

theorem map_action_rankedActions (ranking : List (ActionEvaluation F)) :
    (rankedActions ranking).map (·.action) = ranking.map (·.outcome.action.kind.value) := by
  refine List.ext_getElem? fun i => ?_
  rw [rankedActions, List.getElem?_map, List.getElem?_mapIdx, List.getElem?_map]
  rcases ranking[i]? with _ | item <;> rfl

/-- What the ranking of a scenario lists: its recorded kinds once each, with the ranks from one, the
first of them selected. -/
structure Listed (outcomes : List (RecoveryOutcome F)) (scenario : String)
    (result : ScenarioRanking F) : Prop where
  ranks : result.ranking.map (·.rank) = List.range' 1 result.ranking.length
  actions_nodup : (result.ranking.map (·.action)).Nodup
  mem_actions : ∀ kind, RecoveryActionKind.value kind ∈ result.ranking.map (·.action) ↔
    ∃ o ∈ outcomes, o.pair = (scenario, kind)
  selected : (result.ranking.map (·.action)).head? = some result.selectedAction

variable {outcomes aggregated : List (RecoveryOutcome F)} {weights : RewardWeights}
  {scenario : String}

/-- A scenario that is ranked: its aggregates are evaluated and sorted. -/
theorem rankScenario_ok {r : String × ScenarioRanking F}
    (h : rankScenario ar aggregated weights scenario = .ok r) :
    ∃ evaluations, (aggregated.filter fun o => o.scenario = scenario).mapM
        (evaluateRecoveryAction ar weights) = .ok evaluations ∧ r.1 = scenario ∧
      scenarioRanking (Sorting.sorted (ranksBefore ar) evaluations) = .ok r.2 := by
  obtain ⟨ranking, hranking, h⟩ := bind_eq_ok h
  obtain ⟨result, hresult, h⟩ := bind_eq_ok h
  obtain ⟨evaluations, hevaluations, hranking⟩ := bind_eq_ok hranking
  obtain rfl := Except.ok.inj h
  obtain rfl := Except.ok.inj hranking
  exact ⟨evaluations, hevaluations, rfl, hresult⟩

theorem scenarioRanking_ok {ranking : List (ActionEvaluation F)} {result : ScenarioRanking F}
    (h : scenarioRanking ranking = .ok result) :
    result.ranking = rankedActions ranking ∧
      (ranking.map (·.outcome.action.kind.value)).head? = some result.selectedAction := by
  cases ranking with
  | nil => cases h
  | cons first rest =>
      obtain rfl := Except.ok.inj h
      exact ⟨rfl, rfl⟩

/-- The evaluations of a scenario are those of its aggregates. -/
theorem map_outcome_evaluations {l : List (RecoveryOutcome F)}
    {evaluations : List (ActionEvaluation F)}
    (h : l.mapM (evaluateRecoveryAction ar weights) = .ok evaluations) :
    evaluations.map (·.outcome) = l := by
  rw [map_eq_map_of_mapM (g := id) (fun _ _ _ hitem => evaluateRecoveryAction_outcome hitem) h,
    List.map_id]

/-- **What a scenario lists.** -/
theorem rankScenario_listed (haggregated : aggregateRepetitions ar outcomes = .ok aggregated)
    {r : String × ScenarioRanking F}
    (h : rankScenario ar aggregated weights scenario = .ok r) :
    r.1 = scenario ∧ Listed outcomes scenario r.2 := by
  obtain ⟨evaluations, hevaluations, hname, hresult⟩ := rankScenario_ok h
  obtain ⟨hranking, hselected⟩ := scenarioRanking_ok hresult
  have houtcomes := map_outcome_evaluations hevaluations
  have hkinds : (Sorting.sorted (ranksBefore ar) evaluations).map (·.outcome.action.kind) |>.Perm
      ((aggregated.filter fun o => o.scenario = scenario).map (·.action.kind)) := by
    rw [← houtcomes, List.map_map]
    exact (Sorting.sorted_perm evaluations).map _
  have hactions : r.2.ranking.map (·.action) =
      ((Sorting.sorted (ranksBefore ar) evaluations).map (·.outcome.action.kind)).map
        RecoveryActionKind.value := by
    rw [hranking, map_action_rankedActions, List.map_map]
    rfl
  refine ⟨hname, ⟨?_, ?_, fun kind => ?_, ?_⟩⟩
  · rw [hranking, map_rank_rankedActions]
    simp [rankedActions]
  · rw [hactions]
    exact (hkinds.nodup_iff.2 (nodup_kinds haggregated scenario)).map kindValue_injective
  · rw [hactions, List.mem_map_of_injective kindValue_injective, hkinds.mem_iff, List.mem_map,
      ← mem_map_pair_aggregated haggregated, List.mem_map]
    refine exists_congr fun o => ?_
    simp only [List.mem_filter, decide_eq_true_eq, RecoveryOutcome.pair, Prod.mk.injEq]
    tauto
  · rw [hranking, map_action_rankedActions]
    exact hselected

/-- **What an analysis lists**: under every policy every recorded scenario once, and there every
recorded kind once. -/
theorem analyzeRecoveryOutcomes_listed {analysis : RecoveryAnalysis F}
    (h : analyzeRecoveryOutcomes ar outcomes = .ok analysis) :
    analysis.policies.map Prod.fst = recoveryRewardPolicies.map Prod.fst ∧
      ∀ policy ∈ analysis.policies, (policy.2.map Prod.fst).Nodup ∧
        (∀ scenario, scenario ∈ policy.2.map Prod.fst ↔ ∃ o ∈ outcomes, o.scenario = scenario) ∧
        ∀ entry ∈ policy.2, Listed outcomes entry.1 entry.2 := by
  obtain ⟨aggregated, haggregated, h⟩ := bind_eq_ok h
  obtain ⟨policies, hpolicies, h⟩ := bind_eq_ok h
  obtain rfl := Except.ok.inj h
  have hname : ∀ {policy entry}, rankPolicy ar aggregated policy = .ok entry →
      entry.1 = policy.1 ∧ (scenariosOf aggregated).mapM (rankScenario ar aggregated policy.2) =
        .ok entry.2 := by
    intro policy entry hentry
    obtain ⟨scenarios, hscenarios, hentry⟩ := bind_eq_ok hentry
    obtain rfl := Except.ok.inj hentry
    exact ⟨rfl, hscenarios⟩
  refine ⟨map_eq_map_of_mapM (fun policy _ entry hentry => (hname hentry).1) hpolicies,
    fun entry hentry => ?_⟩
  obtain ⟨policy, _, hpolicy⟩ := exists_of_mem_mapM hpolicies hentry
  have hscenarios := (hname hpolicy).2
  have hnames : entry.2.map Prod.fst = scenariosOf aggregated := by
    rw [map_eq_map_of_mapM (g := id) (fun _ _ _ hr => (rankScenario_listed haggregated hr).1)
      hscenarios, List.map_id]
  refine ⟨?_, fun scenario => ?_, fun r hr => ?_⟩
  · rw [hnames]
    exact Sorting.nodup_sortedSet
  · rw [hnames]
    exact mem_scenariosOf haggregated
  · obtain ⟨scenario, _, hscenario⟩ := exists_of_mem_mapM hscenarios hr
    obtain ⟨hfst, hlisted⟩ := rankScenario_listed haggregated hscenario
    rw [hfst]
    exact hlisted

/-- **What is evaluated is analyzed.** -/
theorem exists_analysis_of (haggregated : aggregateRepetitions ar outcomes = .ok aggregated)
    (h : ∀ weights, ∀ o ∈ aggregated, ∃ item, evaluateRecoveryAction ar weights o = .ok item) :
    ∃ analysis, analyzeRecoveryOutcomes ar outcomes = .ok analysis := by
  have hscenario : ∀ weights, ∀ scenario ∈ scenariosOf aggregated,
      ∃ r, rankScenario ar aggregated weights scenario = .ok r := by
    intro weights scenario hscenario
    rw [scenariosOf, Sorting.mem_sortedSet, List.mem_map] at hscenario
    obtain ⟨o, ho, rfl⟩ := hscenario
    obtain ⟨evaluations, hevaluations⟩ := exists_mapM_ok
      fun o' (ho' : o' ∈ aggregated.filter fun o' => o'.scenario = o.scenario) =>
        h weights o' (List.mem_filter.1 ho').1
    have hmem : o ∈ evaluations.map (·.outcome) := by
      rw [map_outcome_evaluations hevaluations]
      exact List.mem_filter.2 ⟨ho, by simp⟩
    obtain ⟨item, hitem, _⟩ := List.mem_map.1 hmem
    have hsorted : item ∈ Sorting.sorted (ranksBefore ar) evaluations := Sorting.mem_sorted.2 hitem
    obtain ⟨first, rest, hranking⟩ := List.exists_cons_of_ne_nil (List.ne_nil_of_mem hsorted)
    unfold rankScenario rankRecoveryActions
    rw [hevaluations]
    simp only [bind, Except.bind, pure, Except.pure, hranking, scenarioRanking]
    exact ⟨_, rfl⟩
  have hpolicy : ∀ policy ∈ recoveryRewardPolicies,
      ∃ entry, rankPolicy ar aggregated policy = .ok entry := by
    intro policy _
    obtain ⟨scenarios, hscenarios⟩ := exists_mapM_ok (hscenario policy.2)
    unfold rankPolicy
    rw [hscenarios]
    exact ⟨_, rfl⟩
  obtain ⟨policies, hpolicies⟩ := exists_mapM_ok hpolicy
  unfold analyzeRecoveryOutcomes
  rw [haggregated]
  simp only [bind, Except.bind, hpolicies]
  exact ⟨_, rfl⟩

end Rankings

/-! ### The order of the keys -/

section Keys

variable {F α : Type} [LinearOrder α] {ar : Arithmetic F} {f : F → α}

/-- The key of an action as an element of an ordered set. -/
def RankKey.lex (f : F → α) (k : RankKey F) : α ×ₗ ℤ ×ₗ ℤ ×ₗ String :=
  toLex (f k.negatedReward, toLex (k.replicaDelta, toLex (k.commandCount, k.kind)))

/-- Two rewards are compared as elements of an ordered set. -/
def ComparedBy (ar : Arithmetic F) (f : F → α) (x y : F) : Prop :=
  (ar.lt x y = true ↔ f x < f y) ∧ (ar.eq x y = true ↔ f x = f y)

theorem RankKey.lt_iff {a b : RankKey F} (h : ComparedBy ar f a.negatedReward b.negatedReward) :
    a.lt ar b = true ↔ a.lex f < b.lex f := by
  obtain ⟨r, d, c, k⟩ := a
  obtain ⟨r', d', c', k'⟩ := b
  obtain ⟨hlt, heq⟩ := h
  simp only [RankKey.lt, RankKey.lex, Prod.Lex.toLex_lt_toLex]
  by_cases hr : ar.eq r r' = true
  · have hr' : f r = f r' := heq.1 hr
    by_cases hd : d = d'
    · by_cases hc : c = c' <;> simp [hr, hr', hd, hc]
    · simp [hr, hr', hd]
  · have hr' : f r ≠ f r' := fun h => hr (heq.2 h)
    simp only [Bool.not_eq_true] at hr
    simp [hr, hr', hlt]

theorem RankKey.lt_eq_false_iff {a b : RankKey F}
    (h : ComparedBy ar f a.negatedReward b.negatedReward) :
    a.lt ar b = false ↔ b.lex f ≤ a.lex f := by
  rw [← not_lt, ← RankKey.lt_iff h, Bool.not_eq_true]

variable {l : List (ActionEvaluation F)}

/-- **Keys that are compared are ordered.** -/
theorem orderedBy_ranksBefore (h : ∀ a ∈ l, ∀ b ∈ l,
    ComparedBy ar f (a.key ar).negatedReward (b.key ar).negatedReward) :
    Sorting.OrderedBy (ranksBefore ar) l where
  asymm a ha b hb hlt :=
    (RankKey.lt_eq_false_iff (h b hb a ha)).2 ((RankKey.lt_iff (h a ha b hb)).1 hlt).le
  trans a ha b hb c hc hba hcb :=
    (RankKey.lt_eq_false_iff (h c hc a ha)).2
      (((RankKey.lt_eq_false_iff (h b hb a ha)).1 hba).trans
        ((RankKey.lt_eq_false_iff (h c hc b hb)).1 hcb))

/-- Actions of different kinds do not tie. -/
theorem ranksBefore_total {a b : ActionEvaluation F}
    (hab : ComparedBy ar f (a.key ar).negatedReward (b.key ar).negatedReward)
    (hba : ComparedBy ar f (b.key ar).negatedReward (a.key ar).negatedReward)
    (hne : a.outcome.action.kind ≠ b.outcome.action.kind) :
    ranksBefore ar a b = true ∨ ranksBefore ar b a = true := by
  rcases lt_trichotomy ((a.key ar).lex f) ((b.key ar).lex f) with h | h | h
  · exact .inl ((RankKey.lt_iff hab).2 h)
  · have hkind : (a.key ar).kind = (b.key ar).kind :=
      congrArg (fun k => (ofLex (ofLex (ofLex k).2).2).2) h
    exact absurd (RecoveryActionKind.value_inj hkind) hne
  · exact .inr ((RankKey.lt_iff hba).2 h)

end Keys

/-! ### Exact arithmetic -/

section Exact

open Arithmetic

theorem comparedBy_exact (x y : ℚ) : ComparedBy exact (id : ℚ → ℚ) x y :=
  ⟨decide_eq_true_iff, decide_eq_true_iff⟩

/-! ### What of an outcome a ranking depends on -/

/-- An outcome without the parts of its action that are not read. -/
def RecoveryOutcome.normal (o : RecoveryOutcome ℚ) : RecoveryOutcome ℚ :=
  { o with action := ⟨"", "", o.action.kind, none, ""⟩ }

/-- An evaluation without them. -/
def ActionEvaluation.normal (item : ActionEvaluation ℚ) : ActionEvaluation ℚ :=
  { item with outcome := item.outcome.normal }

/-- In exact arithmetic every action is evaluated. -/
theorem exists_evaluation (weights : RewardWeights) (outcome : RecoveryOutcome ℚ) :
    ∃ item, evaluateRecoveryAction exact weights outcome = .ok item ∧
      evaluateRecoveryAction exact weights outcome.normal = .ok item.normal := by
  unfold evaluateRecoveryAction
  by_cases hsentinel : outcome.safetyValid = false ∨ outcome.measurementValid = false
  · have hnormal : outcome.normal.safetyValid = false ∨ outcome.normal.measurementValid = false :=
      hsentinel
    rw [if_pos hsentinel, if_pos hnormal]
    exact ⟨_, rfl, rfl⟩
  · have hnormal :
        ¬(outcome.normal.safetyValid = false ∨ outcome.normal.measurementValid = false) :=
      hsentinel
    rw [if_neg hsentinel, if_neg hnormal]
    obtain ⟨scenario, ⟨ns, deployment, kind, replicas, reason⟩, s, a, m, t, d, c, safe, valid⟩ :=
      outcome
    cases kind <;> exact ⟨_, rfl, rfl⟩

theorem scenarioRanking_normal (ranking : List (ActionEvaluation ℚ)) :
    scenarioRanking (ranking.map ActionEvaluation.normal) = scenarioRanking ranking := by
  have hactions : rankedActions (ranking.map ActionEvaluation.normal) = rankedActions ranking := by
    refine List.ext_getElem (by simp [rankedActions]) fun i _ _ => ?_
    simp only [rankedActions, List.getElem_mapIdx, List.getElem_map]
    rfl
  cases ranking with
  | nil => rfl
  | cons first rest =>
      rw [List.map_cons] at hactions ⊢
      rw [scenarioRanking, scenarioRanking, hactions]
      rfl

/-- **The ranking of a scenario is a function of its aggregates**, whatever their order. -/
theorem rankScenario_congr {aggregated aggregated' : List (RecoveryOutcome ℚ)}
    (h : (aggregated.map RecoveryOutcome.normal).Perm (aggregated'.map RecoveryOutcome.normal))
    (weights : RewardWeights) (scenario : String)
    (hkinds : ((aggregated.filter fun o => o.scenario = scenario).map (·.action.kind)).Nodup) :
    rankScenario exact aggregated weights scenario =
      rankScenario exact aggregated' weights scenario := by
  choose f hf hnormal using exists_evaluation weights
  have hfnormal : ∀ o, f o.normal = (f o).normal := fun o =>
    Except.ok.inj ((hf o.normal).symm.trans (hnormal o))
  have hrank : ∀ l : List (RecoveryOutcome ℚ), rankScenario exact l weights scenario =
      (scenarioRanking (Sorting.sorted (ranksBefore exact)
        (((l.map RecoveryOutcome.normal).filter fun o => o.scenario = scenario).map f))).map
          fun result => (scenario, result) := by
    intro l
    have hfilter : (l.map RecoveryOutcome.normal).filter (fun o => o.scenario = scenario) =
        (l.filter fun o => o.scenario = scenario).map RecoveryOutcome.normal := by
      rw [List.filter_map]
      rfl
    have hmap : ((l.filter fun o => o.scenario = scenario).map RecoveryOutcome.normal).map f =
        ((l.filter fun o => o.scenario = scenario).map f).map ActionEvaluation.normal := by
      rw [List.map_map, List.map_map]
      exact List.map_congr_left fun o _ => hfnormal o
    have hcomparison : ∀ a b : ActionEvaluation ℚ,
        ranksBefore exact a.normal b.normal = ranksBefore exact a b := fun _ _ => rfl
    rw [hfilter, hmap, ← Sorting.map_sorted hcomparison, scenarioRanking_normal]
    unfold rankScenario rankRecoveryActions
    rw [mapM_eq_map fun o _ => hf o]
    rcases hresult : scenarioRanking (Sorting.sorted (ranksBefore exact)
      ((l.filter fun o => o.scenario = scenario).map f)) with e | result <;>
    simp only [bind, Except.bind, pure, Except.pure, Except.map, hresult]
  rw [hrank, hrank]
  have hperm := (h.filter fun o => o.scenario = scenario).map f
  rw [Sorting.sorted_eq_of_perm hperm (orderedBy_ranksBefore fun _ _ _ _ => comparedBy_exact _ _)]
  intro a ha b hb hab hba
  obtain ⟨o, ho, rfl⟩ := List.mem_map.1 ha
  obtain ⟨o', ho', rfl⟩ := List.mem_map.1 hb
  have houtcome : ∀ o, (f o).outcome = o := fun o => evaluateRecoveryAction_outcome (hf o)
  have hkind : o.action.kind = o'.action.kind := by
    by_contra hne
    rw [← houtcome o, ← houtcome o'] at hne
    rcases ranksBefore_total (comparedBy_exact _ _) (comparedBy_exact _ _) hne with h | h
    · rw [hab] at h
      cases h
    · rw [hba] at h
      cases h
  have hnodup : (((aggregated.map RecoveryOutcome.normal).filter fun o =>
      o.scenario = scenario).map (·.action.kind)).Nodup := by
    rw [List.filter_map, List.map_map]
    exact hkinds
  rw [List.inj_on_of_nodup_map hnodup ho ho' hkind]

/-! ### Order and repetition -/

/-- The aggregate of some repetitions, without the parts of its action that are not read. -/
def aggregateOf (pair : String × RecoveryActionKind) (values : List (RecoveryOutcome ℚ)) :
    RecoveryOutcome ℚ where
  scenario := pair.1
  action := ⟨"", "", pair.2, none, ""⟩
  recoverySuccess := exact.mean (values.map (·.recoverySuccess))
  availabilityRecovery := exact.mean (values.map (·.availabilityRecovery))
  metricImprovement := exact.mean (values.map (·.metricImprovement))
  recoverySeconds := exact.mean (values.map (·.recoverySeconds))
  replicaDelta := Round.roundHalfEven ((values.map (·.replicaDelta)).sum / values.length)
  commandCount := Round.roundHalfEven ((values.map (·.commandCount)).sum / values.length)
  safetyValid := values.all (·.safetyValid)
  measurementValid := values.all (·.measurementValid)

/-- In exact arithmetic every group is aggregated. -/
theorem aggregateGroup_exact {outcomes : List (RecoveryOutcome ℚ)}
    {group : (String × RecoveryActionKind) × List (RecoveryOutcome ℚ)}
    (hgroup : group ∈ Dict.groupBy RecoveryOutcome.pair outcomes) :
    ∃ o, aggregateGroup exact group.2 = .ok o ∧
      o.normal = aggregateOf group.1 (repetitions outcomes group.1) := by
  obtain ⟨pair, values⟩ := group
  have hne : values ≠ [] := Dict.ne_nil_of_mem_groupBy hgroup
  obtain ⟨_, hvalues⟩ := mem_groups.1 hgroup
  rw [← hvalues]
  cases values with
  | nil => exact absurd rfl hne
  | cons first rest =>
      have hfirst : first ∈ repetitions outcomes pair := by
        rw [← hvalues]
        exact List.mem_cons_self
      obtain rfl := (mem_repetitions.1 hfirst).2
      refine ⟨_, rfl, ?_⟩
      simp only [RecoveryOutcome.normal, aggregateOf, List.length_map]
      rfl

theorem exists_aggregated (outcomes : List (RecoveryOutcome ℚ)) :
    ∃ aggregated, aggregateRepetitions exact outcomes = .ok aggregated ∧
      aggregated.map RecoveryOutcome.normal =
        ((Dict.groupBy RecoveryOutcome.pair outcomes).map Prod.fst).map fun pair =>
          aggregateOf pair (repetitions outcomes pair) := by
  obtain ⟨aggregated, h⟩ := exists_mapM_ok (f := fun group => aggregateGroup exact group.2)
    fun group (hgroup : group ∈ Dict.groupBy RecoveryOutcome.pair outcomes) =>
      (aggregateGroup_exact hgroup).imp fun _ ho => ho.1
  refine ⟨aggregated, h, ?_⟩
  rw [List.map_map]
  refine map_eq_map_of_mapM (fun group hgroup o ho => ?_) h
  obtain ⟨o', ho', hnormal⟩ := aggregateGroup_exact hgroup
  obtain rfl := Except.ok.inj (ho.symm.trans ho')
  exact hnormal

section Repeated

variable {α : Type} {values values' : List α} {n : ℕ}

theorem length_of_repeated (h : values'.Perm (List.replicate (n + 1) values).flatten) :
    (values'.length : ℚ) = (n + 1 : ℕ) * values.length := by
  rw [h.length_eq, List.length_flatten, List.map_replicate, List.sum_replicate, nsmul_eq_mul]
  push_cast
  ring

theorem sum_of_repeated {M : Type} [AddCommMonoid M]
    (h : values'.Perm (List.replicate (n + 1) values).flatten) (f : α → M) :
    (values'.map f).sum = (n + 1) • (values.map f).sum := by
  rw [(h.map f).sum_eq, List.map_flatten, List.sum_flatten, List.map_replicate, List.map_replicate,
    List.sum_replicate]

/-- Repetitions do not change a mean. -/
theorem quotient_of_repeated (h : values'.Perm (List.replicate (n + 1) values).flatten)
    {total total' : ℚ} (htotal : total' = (n + 1 : ℕ) * total) :
    total' / values'.length = total / values.length := by
  have hn : ((n + 1 : ℕ) : ℚ) ≠ 0 := Nat.cast_ne_zero.2 n.succ_ne_zero
  rw [htotal, length_of_repeated h, mul_div_mul_left _ _ hn]

theorem mean_of_repeated (h : values'.Perm (List.replicate (n + 1) values).flatten) (f : α → ℚ) :
    exact.mean (values'.map f) = exact.mean (values.map f) := by
  have hsum := sum_of_repeated h f
  rw [nsmul_eq_mul] at hsum
  have hmean := quotient_of_repeated h hsum
  simpa only [Arithmetic.mean, exact, List.length_map] using hmean

theorem meanInt_of_repeated (h : values'.Perm (List.replicate (n + 1) values).flatten)
    (f : α → ℤ) :
    ((values'.map f).sum : ℚ) / values'.length = ((values.map f).sum : ℚ) / values.length := by
  refine quotient_of_repeated h ?_
  rw [sum_of_repeated h f, nsmul_eq_mul]
  push_cast
  ring

theorem mem_of_repeated (h : values'.Perm (List.replicate (n + 1) values).flatten) {a : α} :
    a ∈ values' ↔ a ∈ values := by
  rw [h.mem_iff]
  simp

end Repeated

variable {l m : List (RecoveryOutcome ℚ)} {n : ℕ}

/-- Repetitions do not change an aggregate. -/
theorem aggregateOf_of_repeated {pair : String × RecoveryActionKind}
    {values values' : List (RecoveryOutcome ℚ)}
    (h : values'.Perm (List.replicate (n + 1) values).flatten) :
    aggregateOf pair values' = aggregateOf pair values := by
  have hall : ∀ p : RecoveryOutcome ℚ → Bool, values'.all p = values.all p := fun p => by
    rw [Bool.eq_iff_iff, List.all_eq_true, List.all_eq_true]
    exact forall_congr' fun o => imp_congr_left (mem_of_repeated h)
  unfold aggregateOf
  simp only [mean_of_repeated h, meanInt_of_repeated h, hall]

/-- **Repeating and permuting the outcomes permutes the aggregates.** -/
theorem aggregated_of_repeated (h : m.Perm (List.replicate (n + 1) l).flatten)
    {aggregated aggregated' : List (RecoveryOutcome ℚ)}
    (hl : aggregateRepetitions exact l = .ok aggregated)
    (hm : aggregateRepetitions exact m = .ok aggregated') :
    (aggregated'.map RecoveryOutcome.normal).Perm (aggregated.map RecoveryOutcome.normal) := by
  obtain ⟨a, ha, hnormal⟩ := exists_aggregated l
  obtain ⟨a', ha', hnormal'⟩ := exists_aggregated m
  obtain rfl := Except.ok.inj (hl.symm.trans ha)
  obtain rfl := Except.ok.inj (hm.symm.trans ha')
  have hkeys : ((Dict.groupBy RecoveryOutcome.pair m).map Prod.fst).Perm
      ((Dict.groupBy RecoveryOutcome.pair l).map Prod.fst) := by
    refine (List.perm_ext_iff_of_nodup (Dict.nodup_keys_groupBy _ _)
      (Dict.nodup_keys_groupBy _ _)).2 fun pair => ?_
    rw [Dict.mem_keys_groupBy, Dict.mem_keys_groupBy]
    exact exists_congr fun o => and_congr_left' (mem_of_repeated h)
  have hrepetitions : ∀ pair, (repetitions m pair).Perm
      (List.replicate (n + 1) (repetitions l pair)).flatten := by
    intro pair
    have hfilter := h.filter fun o => o.pair = pair
    rw [List.filter_flatten, List.map_replicate] at hfilter
    exact hfilter
  have haggregate : (fun pair => aggregateOf pair (repetitions m pair)) =
      fun pair => aggregateOf pair (repetitions l pair) :=
    funext fun pair => aggregateOf_of_repeated (hrepetitions pair)
  rw [hnormal, hnormal', haggregate]
  exact hkeys.map _

/-- In exact arithmetic every list of outcomes is analyzed. -/
theorem exists_analysis (outcomes : List (RecoveryOutcome ℚ)) :
    ∃ analysis, analyzeRecoveryOutcomes exact outcomes = .ok analysis := by
  obtain ⟨aggregated, haggregated, _⟩ := exists_aggregated outcomes
  exact exists_analysis_of haggregated fun weights o _ =>
    (exists_evaluation weights o).imp fun _ h => h.1

/-- **The policies of an analysis depend on the outcomes alone**, not on their order and not on how
often all of them were recorded. -/
theorem policies_of_repeated (h : m.Perm (List.replicate (n + 1) l).flatten)
    {analysis analysis' : RecoveryAnalysis ℚ}
    (hl : analyzeRecoveryOutcomes exact l = .ok analysis)
    (hm : analyzeRecoveryOutcomes exact m = .ok analysis') :
    analysis'.policies = analysis.policies := by
  obtain ⟨aggregated, haggregated, hl⟩ := bind_eq_ok hl
  obtain ⟨policies, hpolicies, hl⟩ := bind_eq_ok hl
  obtain ⟨aggregated', haggregated', hm⟩ := bind_eq_ok hm
  obtain ⟨policies', hpolicies', hm⟩ := bind_eq_ok hm
  obtain rfl := Except.ok.inj hl
  obtain rfl := Except.ok.inj hm
  have hperm := aggregated_of_repeated h haggregated haggregated'
  have hscenarios : scenariosOf aggregated' = scenariosOf aggregated := by
    refine Sorting.sortedSet_congr Function.injective_id fun scenario => ?_
    have hm : scenario ∈ aggregated'.map (·.scenario) ↔ ∃ o ∈ m, o.scenario = scenario :=
      Sorting.mem_sortedSet.symm.trans (mem_scenariosOf haggregated')
    have hl : scenario ∈ aggregated.map (·.scenario) ↔ ∃ o ∈ l, o.scenario = scenario :=
      Sorting.mem_sortedSet.symm.trans (mem_scenariosOf haggregated)
    rw [hm, hl]
    exact exists_congr fun o => and_congr_left' (mem_of_repeated h)
  have hrank : rankPolicy exact aggregated' = rankPolicy exact aggregated := by
    funext policy
    have hscenario : rankScenario exact aggregated' policy.2 =
        rankScenario exact aggregated policy.2 := funext fun scenario =>
      rankScenario_congr hperm policy.2 scenario (nodup_kinds haggregated' scenario)
    rw [rankPolicy, rankPolicy, hscenarios, hscenario]
  rw [hrank, hpolicies] at hpolicies'
  exact (Except.ok.inj hpolicies').symm

/-- **An analysis is a function of what was recorded**: permuting the outcomes, or recording all of
them several times, changes neither the selected actions nor the ranks nor the scores, and every
ranking lists the recorded kinds once each. -/
theorem analysis_of_recorded (outcomes : List (RecoveryOutcome ℚ)) :
    ∃ analysis, analyzeRecoveryOutcomes exact outcomes = .ok analysis ∧
      (∀ permuted, permuted.Perm outcomes → ∃ analysis',
        analyzeRecoveryOutcomes exact permuted = .ok analysis' ∧
          analysis'.policies = analysis.policies) ∧
      (∀ n, ∃ analysis',
        analyzeRecoveryOutcomes exact (List.replicate (n + 1) outcomes).flatten = .ok analysis' ∧
          analysis'.policies = analysis.policies) ∧
      analysis.policies.map Prod.fst = recoveryRewardPolicies.map Prod.fst ∧
      ∀ policy ∈ analysis.policies, (policy.2.map Prod.fst).Nodup ∧
        (∀ scenario, scenario ∈ policy.2.map Prod.fst ↔
          ∃ o ∈ outcomes, o.scenario = scenario) ∧
        ∀ entry ∈ policy.2, Listed outcomes entry.1 entry.2 := by
  obtain ⟨analysis, h⟩ := exists_analysis outcomes
  refine ⟨analysis, h, fun permuted hperm => ?_, fun n => ?_, analyzeRecoveryOutcomes_listed h⟩
  · obtain ⟨analysis', h'⟩ := exists_analysis permuted
    have honce : permuted.Perm (List.replicate (0 + 1) outcomes).flatten := by
      simpa using hperm
    exact ⟨analysis', h', policies_of_repeated honce h h'⟩
  · obtain ⟨analysis', h'⟩ := exists_analysis (List.replicate (n + 1) outcomes).flatten
    exact ⟨analysis', h', policies_of_repeated (.refl _) h h'⟩

end Exact

end Comparison
end AiopsK8s
