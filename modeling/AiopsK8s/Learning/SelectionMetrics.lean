/-
# The metrics of a candidate selection

`_candidate_selection_metrics` of `partition_learning.py`.  In every lineage group of at least two
rows three rows are chosen: the one with the best prediction, the one with the best reward and the
one with the least baseline score, ties by the candidate key.  Agreement counts the groups in which
the first two are of one *candidate*; a regret is the reward of the best *row* less that of the
chosen one.  The two notions meet where a candidate has one reward in a group
(`selectionLaws`).
-/

import AiopsK8s.Lib.Arithmetic
import AiopsK8s.Learning.GroupSplit
import Mathlib.Data.Prod.Lex

namespace AiopsK8s
namespace Learning

open Effect Binary64 Sorting
open AiopsK8s.Partition (PartitionError)

/-- A row and its prediction. -/
abbrev ScoredRow : Type := PartitionRankingTrainingRow × ℚ

/-- `row.features["baseline_score"]`. -/
def PartitionRankingTrainingRow.baselineScore (row : PartitionRankingTrainingRow) : ℚ :=
  (row.features.lookup "baseline_score").get row.baselineScore_mem

/-- A group of at least two rows. -/
structure ComparableGroup where
  first : ScoredRow
  second : ScoredRow
  rest : List ScoredRow

namespace ComparableGroup

/-- The rows of the group. -/
def rows (group : ComparableGroup) : List ScoredRow := group.first :: group.second :: group.rest

/-- The test `len(group) >= 2`. -/
def ofRows : List ScoredRow → Option ComparableGroup
  | first :: second :: rest => some ⟨first, second, rest⟩
  | _ => none

variable (group : ComparableGroup)

/-- `learned`. -/
def learned : PartitionRankingTrainingRow :=
  (maxBy (fun item => toLex (item.2, item.1.candidateKey)) group.first
    (group.second :: group.rest)).1

/-- `reward_best`. -/
def rewardBest : PartitionRankingTrainingRow :=
  (maxBy (fun item : ScoredRow => toLex (item.1.targetReward, item.1.candidateKey)) group.first
    (group.second :: group.rest)).1

/-- `baseline`. -/
def baseline : PartitionRankingTrainingRow :=
  (minBy (fun item : ScoredRow => toLex (item.1.baselineScore, item.1.candidateKey)) group.first
    (group.second :: group.rest)).1

/-- `learned.candidate_key == reward_best.candidate_key`. -/
def agrees : Bool := group.learned.candidateKey = group.rewardBest.candidateKey

/-- `reward_best.target_reward - row.target_reward`. -/
def regret (row : PartitionRankingTrainingRow) : PyFloat :=
  PyFloat.sub (.finite group.rewardBest.targetReward) (.finite row.targetReward)

end ComparableGroup

/-- The dictionary that `_candidate_selection_metrics` returns. -/
structure SelectionMetrics where
  candidateSelectionAgreement : PyFloat
  candidateSelectionAgreementAvailable : PyFloat
  learnedRegret : PyFloat
  learnedRegretAvailable : PyFloat
  baselineRegret : PyFloat
  baselineRegretAvailable : PyFloat
  rankingGroupCount : PyFloat
  deriving DecidableEq

section Metrics

variable (py : Python) (sha256 : String → String) (summation : Summation)

/-- `[group for group in groups.values() if len(group) >= 2]`. -/
def comparableGroups (rows : List PartitionRankingTrainingRow) (predictions : List ℚ) :
    List ComparableGroup :=
  ((Dict.groupBy (fun item : ScoredRow => groupKey py sha256 item.1)
    (rows.zip predictions)).map Prod.snd).filterMap ComparableGroup.ofRows

/-- The mean of the regrets: `sum(regrets) / len(regrets)`. -/
def meanRegret (regrets : List PyFloat) : PyFloat :=
  PyFloat.div (summation.sum regrets) (.finite regrets.length)

/-- `agreement / len(comparable)`, a quotient of integers. -/
def agreementOf (groups : List ComparableGroup) : PyFloat :=
  .finite (nearest ((groups.countP ComparableGroup.agrees : ℕ) / (groups.length : ℕ)))

/-- `_candidate_selection_metrics`; `zip` refuses lists of different lengths. -/
def candidateSelectionMetrics (rows : List PartitionRankingTrainingRow) (predictions : List ℚ) :
    Except PartitionError SelectionMetrics := do
  rejectIf (rows.length ≠ predictions.length) .value
  let comparable := comparableGroups py sha256 rows predictions
  if comparable = [] then
    return ⟨.finite 0, .finite 0, .finite 0, .finite 0, .finite 0, .finite 0, .finite 0⟩
  else
    return {
      candidateSelectionAgreement := agreementOf comparable
      candidateSelectionAgreementAvailable := .finite 1
      learnedRegret := meanRegret summation (comparable.map fun group => group.regret group.learned)
      learnedRegretAvailable := .finite 1
      baselineRegret :=
        meanRegret summation (comparable.map fun group => group.regret group.baseline)
      baselineRegretAvailable := .finite 1
      rankingGroupCount := .finite (nearest comparable.length) }

end Metrics

namespace ComparableGroup

variable {group : ComparableGroup}

theorem rows_of_ofRows {rows : List ScoredRow} (h : ofRows rows = some group) :
    group.rows = rows := by
  match rows, h with
  | _ :: _ :: _, rfl => rfl

theorem ofRows_isSome {rows : List ScoredRow} : (ofRows rows).isSome = true ↔ 2 ≤ rows.length := by
  match rows with
  | [] => simp [ofRows]
  | [_] => simp [ofRows]
  | _ :: _ :: _ => simp [ofRows]

/-- The row of an item of the group is one of its rows. -/
theorem exists_rewardBest : ∃ item ∈ group.rows, item.1 = group.rewardBest :=
  ⟨_, maxBy_mem _ _ _, rfl⟩

theorem exists_learned : ∃ item ∈ group.rows, item.1 = group.learned := ⟨_, maxBy_mem _ _ _, rfl⟩

theorem exists_baseline : ∃ item ∈ group.rows, item.1 = group.baseline := ⟨_, minBy_mem _ _ _, rfl⟩

/-- **The best reward is the largest of the group**, whatever its candidate. -/
theorem targetReward_le_rewardBest {item : ScoredRow} (h : item ∈ group.rows) :
    item.1.targetReward ≤ group.rewardBest.targetReward :=
  Prod.Lex.monotone_fst _ _
    (le_maxBy (fun item : ScoredRow => toLex (item.1.targetReward, item.1.candidateKey)) h)

/-- The regret of a row of the group is not negative. -/
theorem regret_nonneg {row : PartitionRankingTrainingRow}
    (h : ∃ item ∈ group.rows, item.1 = row) : (group.regret row).Nonneg := by
  obtain ⟨item, hitem, rfl⟩ := h
  have hle := targetReward_le_rewardBest hitem
  refine PyFloat.nonneg_ofExact ?_
  linarith

/-- A row with the best reward has no regret. -/
theorem regret_eq_zero {row : PartitionRankingTrainingRow}
    (h : row.targetReward = group.rewardBest.targetReward) : group.regret row = .finite 0 := by
  have hzero : PyFloat.ofExact 0 = .finite 0 := by decide +kernel
  unfold regret
  change PyFloat.ofExact (_ + -row.targetReward) = _
  rw [← h, add_neg_cancel, hzero]

end ComparableGroup

/-- The number of lineage groups of at least two rows. -/
def repeatedGroups (key : PartitionRankingTrainingRow → String)
    (rows : List PartitionRankingTrainingRow) : ℕ :=
  ((rows.map key).dedup.filter fun id => 2 ≤ (rows.filter fun row => key row = id).length).length

section Laws

variable {py : Python} {sha256 : String → String} {summation : Summation}
  {rows : List PartitionRankingTrainingRow} {predictions : List ℚ}

/-- The rows of a comparable group are rows of one lineage. -/
theorem rows_of_mem_comparableGroups {group : ComparableGroup}
    (h : group ∈ comparableGroups py sha256 rows predictions) :
    ∃ id, group.rows =
      (rows.zip predictions).filter fun item => groupKey py sha256 item.1 = id := by
  obtain ⟨values, hvalues, hgroup⟩ := List.mem_filterMap.1 h
  obtain ⟨⟨id, values⟩, hmem, rfl⟩ := List.mem_map.1 hvalues
  obtain ⟨-, rfl⟩ := Dict.mem_groupBy.1 hmem
  exact ⟨id, ComparableGroup.rows_of_ofRows hgroup⟩

/-- The rows among the scored rows with a property of the row. -/
theorem map_fst_filter_zip (hlength : rows.length = predictions.length)
    (p : PartitionRankingTrainingRow → Bool) :
    ((rows.zip predictions).filter fun item => p item.1).map Prod.fst = rows.filter p := by
  have hmap : (rows.zip predictions).map Prod.fst = rows :=
    List.map_fst_zip hlength.le
  conv_rhs => rw [← hmap, List.filter_map]
  rfl

/-- **Every group of at least two rows is compared, once.** -/
theorem length_comparableGroups (hlength : rows.length = predictions.length) :
    (comparableGroups py sha256 rows predictions).length =
      repeatedGroups (groupKey py sha256) rows := by
  obtain ⟨key, hkey⟩ : ∃ key, key = groupKey py sha256 := ⟨_, rfl⟩
  obtain ⟨scored, hscored⟩ : ∃ scored, scored = Dict.groupBy (fun item : ScoredRow => key item.1)
    (rows.zip predictions) := ⟨_, rfl⟩
  have hnodup : (scored.map Prod.fst).Nodup := by
    rw [hscored]
    exact Dict.nodup_keys_groupBy _ _
  have hgroups : (comparableGroups py sha256 rows predictions).length =
      ((scored.filter fun group => 2 ≤ group.2.length).map Prod.fst).length := by
    rw [comparableGroups, ← hkey, ← hscored, List.length_filterMap_eq_countP, List.countP_map,
      List.length_map, ← List.countP_eq_length_filter]
    refine List.countP_congr fun group _ => ?_
    rw [decide_eq_true_iff]
    exact ComparableGroup.ofRows_isSome
  rw [hgroups, ← hkey, repeatedGroups]
  refine List.Perm.length_eq ((List.perm_ext_iff_of_nodup
    (hnodup.sublist (List.filter_sublist.map _)) ((List.nodup_dedup _).filter _)).2 fun id => ?_)
  have hcount : ∀ id, ((rows.zip predictions).filter fun item => key item.1 = id).length =
      (rows.filter fun row => key row = id).length := fun id => by
    rw [← map_fst_filter_zip hlength fun row => key row = id, List.length_map]
  rw [List.mem_map, List.mem_filter, List.mem_dedup, List.mem_map, decide_eq_true_iff]
  constructor
  · rintro ⟨⟨id, values⟩, hgroup, rfl⟩
    obtain ⟨hmem, htwo⟩ := List.mem_filter.1 hgroup
    rw [hscored] at hmem
    obtain ⟨⟨item, hitem, hid⟩, rfl⟩ := Dict.mem_groupBy.1 hmem
    exact ⟨⟨item.1, (List.of_mem_zip hitem).1, hid⟩, hcount id ▸ of_decide_eq_true htwo⟩
  · rintro ⟨⟨row, hrow, hid⟩, htwo⟩
    rw [← hcount] at htwo
    obtain ⟨item, hitem⟩ := List.exists_mem_of_length_pos (Nat.lt_of_lt_of_le Nat.zero_lt_two htwo)
    obtain ⟨hitem, hitemId⟩ := List.mem_filter.1 hitem
    refine ⟨(id, _), List.mem_filter.2 ⟨?_, decide_eq_true htwo⟩, rfl⟩
    rw [hscored]
    exact Dict.mem_groupBy.2 ⟨⟨item, hitem, of_decide_eq_true hitemId⟩, rfl⟩

/-- The mean of regrets that are not negative is not negative. -/
theorem meanRegret_nonneg (summation : Summation) {regrets : List PyFloat}
    (h : ∀ x ∈ regrets, x.Nonneg) : (meanRegret summation regrets).Nonneg :=
  (summation.nonneg _ h).div_count _

theorem meanRegret_eq_zero (summation : Summation) {regrets : List PyFloat}
    (h : ∀ x ∈ regrets, x = .finite 0) : meanRegret summation regrets = .finite 0 := by
  have hzero : PyFloat.ofExact 0 = .finite 0 := by decide +kernel
  rw [meanRegret, summation.zero _ h]
  change PyFloat.ofExact (0 / _) = _
  rw [zero_div, hzero]

end Laws

/-- In no lineage group has a candidate two rewards. -/
def OneReward (key : PartitionRankingTrainingRow → String)
    (rows : List PartitionRankingTrainingRow) : Prop :=
  ∀ a ∈ rows, ∀ b ∈ rows, key a = key b → a.candidateKey = b.candidateKey →
    a.targetReward = b.targetReward

/-- What the metrics of a selection satisfy. -/
structure SelectionLaws (key : PartitionRankingTrainingRow → String)
    (rows : List PartitionRankingTrainingRow) (metrics : SelectionMetrics) : Prop where
  learnedRegret_nonneg : metrics.learnedRegret.Nonneg
  baselineRegret_nonneg : metrics.baselineRegret.Nonneg
  agreement_range : ∃ q, 0 ≤ q ∧ q ≤ 1 ∧ metrics.candidateSelectionAgreement = .finite q
  groupCount : metrics.rankingGroupCount = .finite (nearest (repeatedGroups key rows)) ∧
    (repeatedGroups key rows < 2 ^ 53 →
      metrics.rankingGroupCount = .finite (repeatedGroups key rows))
  agreement_one : metrics.candidateSelectionAgreement = .finite 1 → OneReward key rows →
    repeatedGroups key rows < 2 ^ 53 → metrics.learnedRegret = .finite 0

section Laws

variable {py : Python} {sha256 : String → String} {summation : Summation}
  {rows : List PartitionRankingTrainingRow} {predictions : List ℚ}

theorem agreement_range (groups : List ComparableGroup) :
    ∃ q, 0 ≤ q ∧ q ≤ 1 ∧ agreementOf groups = .finite q := by
  obtain ⟨a, ha⟩ : ∃ a, a = groups.countP ComparableGroup.agrees := ⟨_, rfl⟩
  have hle : a ≤ groups.length := ha ▸ List.countP_le_length
  refine ⟨_, nearest_nonneg (div_nonneg (Nat.cast_nonneg _) (Nat.cast_nonneg _)), ?_, rfl⟩
  rw [← ha]
  rcases Nat.eq_zero_or_pos groups.length with hzero | hpos
  · rw [hzero, Nat.cast_zero, div_zero, nearest_zero]
    exact zero_le_one
  · have hlength : (0 : ℚ) < groups.length := by exact_mod_cast hpos
    rcases Nat.eq_or_lt_of_le hle with heq | hlt
    · rw [heq, div_self hlength.ne']
      decide +kernel
    · have hone : |(a : ℚ) / groups.length| < 2 ^ (0 : ℤ) := by
        rw [abs_of_nonneg (by positivity), zpow_zero, div_lt_one hlength]
        exact_mod_cast hlt
      exact (le_abs_self _).trans (abs_nearest_le_two_zpow (by decide) hone)

/-- Full agreement is agreement in every group. -/
theorem agrees_of_agreementOf_eq_one {groups : List ComparableGroup}
    (hlimit : groups.length < 2 ^ 53) (h : agreementOf groups = .finite 1) :
    ∀ group ∈ groups, group.agrees = true := by
  rcases Nat.eq_zero_or_pos groups.length with hzero | hpos
  · intro group hmem
    rw [List.length_eq_zero_iff.1 hzero] at hmem
    cases hmem
  · have hone := (nearest_div_eq_one_iff hpos List.countP_le_length hlimit.le).1
      (PyFloat.finite.inj h)
    exact List.countP_eq_length.1 hone

/-- **The laws of the selection metrics.** -/
theorem selectionLaws (py : Python) (sha256 : String → String) (summation : Summation)
    (rows : List PartitionRankingTrainingRow) (predictions : List ℚ)
    (hlength : rows.length = predictions.length) :
    ∃ metrics, candidateSelectionMetrics py sha256 summation rows predictions = .ok metrics ∧
      SelectionLaws (groupKey py sha256) rows metrics := by
  obtain ⟨groups, hgroups⟩ :
    ∃ groups, groups = comparableGroups py sha256 rows predictions := ⟨_, rfl⟩
  have hcount : groups.length = repeatedGroups (groupKey py sha256) rows :=
    hgroups ▸ length_comparableGroups hlength
  have hreject : ¬rows.length ≠ predictions.length := not_not.2 hlength
  unfold candidateSelectionMetrics
  simp only [rejectIf, if_neg hreject, bind, Except.bind, ← hgroups]
  by_cases hnil : groups = []
  · rw [if_pos hnil]
    have hzero : repeatedGroups (groupKey py sha256) rows = 0 := by
      rw [← hcount, hnil]
      rfl
    refine ⟨_, rfl, le_rfl, le_rfl, ⟨0, le_rfl, zero_le_one, rfl⟩, ?_, fun _ _ _ => rfl⟩
    rw [hzero, Nat.cast_zero, nearest_zero]
    exact ⟨rfl, fun _ => rfl⟩
  · rw [if_neg hnil]
    refine ⟨_, rfl, ?_, ?_, agreement_range groups, ?_, ?_⟩
    · refine meanRegret_nonneg summation fun x hx => ?_
      obtain ⟨group, -, rfl⟩ := List.mem_map.1 hx
      exact ComparableGroup.regret_nonneg ComparableGroup.exists_learned
    · refine meanRegret_nonneg summation fun x hx => ?_
      obtain ⟨group, -, rfl⟩ := List.mem_map.1 hx
      exact ComparableGroup.regret_nonneg ComparableGroup.exists_baseline
    · rw [hcount]
      exact ⟨rfl, fun hlimit => by rw [nearest_natCast hlimit]⟩
    · intro hagreement hreward hlimit
      have hagrees := agrees_of_agreementOf_eq_one (hcount ▸ hlimit) hagreement
      refine meanRegret_eq_zero summation fun x hx => ?_
      obtain ⟨group, hgroup, rfl⟩ := List.mem_map.1 hx
      refine ComparableGroup.regret_eq_zero ?_
      obtain ⟨id, hrows⟩ := rows_of_mem_comparableGroups (hgroups ▸ hgroup)
      have hmem : ∀ item ∈ group.rows, item.1 ∈ rows ∧ groupKey py sha256 item.1 = id := by
        intro item hitem
        rw [hrows] at hitem
        obtain ⟨hzip, hid⟩ := List.mem_filter.1 hitem
        exact ⟨(List.of_mem_zip hzip).1, of_decide_eq_true hid⟩
      obtain ⟨learned, hlearned, heq⟩ := group.exists_learned
      obtain ⟨best, hbest, heq'⟩ := group.exists_rewardBest
      obtain ⟨hlearnedRow, hlearnedId⟩ := hmem learned hlearned
      obtain ⟨hbestRow, hbestId⟩ := hmem best hbest
      rw [← heq, ← heq']
      refine hreward _ hlearnedRow _ hbestRow (hlearnedId.trans hbestId.symm) ?_
      rw [heq, heq']
      exact of_decide_eq_true (hagrees group hgroup)

end Laws

theorem isSome_baselineScore :
    (List.lookup "baseline_score" [("baseline_score", (0 : ℚ))]).isSome = true := rfl

/-- A row of the first job with a candidate and a reward. -/
def rewardRow (candidate : String) (reward : ℚ) (h : -1 ≤ reward ∧ reward ≤ 1) :
    PartitionRankingTrainingRow :=
  ⟨"j1", candidate, "s1", [("baseline_score", 0)], reward, "runs/j1/versions/1",
    isSome_baselineScore, h⟩

theorem selectionLaws_two_candidates :
    ∃ metrics, candidateSelectionMetrics Python.ascii jobDigest .leftToRight
        [rewardRow "a" 0 (by decide), rewardRow "b" 1 (by decide)] [0, 1] = .ok metrics ∧
      SelectionLaws (groupKey Python.ascii jobDigest)
        [rewardRow "a" 0 (by decide), rewardRow "b" 1 (by decide)] metrics :=
  selectionLaws _ _ _ _ _ rfl

/-- A candidate that was observed twice, with the rewards `0` and `1`: the first row is chosen for
its prediction, the second is the best, and they are one candidate. -/
theorem agreement_without_zero_regret :
    ¬∀ (py : Python) (sha256 : String → String) (summation : Summation)
      (rows : List PartitionRankingTrainingRow) (predictions : List ℚ),
        rows.length = predictions.length → ∀ metrics,
          candidateSelectionMetrics py sha256 summation rows predictions = .ok metrics →
            metrics.candidateSelectionAgreement = .finite 1 → metrics.learnedRegret = .finite 0 := by
  intro h
  have hregret := h Python.ascii jobDigest .leftToRight
    [rewardRow "a" 0 (by decide), rewardRow "a" 1 (by decide)] [0, 0] rfl
    ⟨.finite 1, .finite 1, .finite 1, .finite 1, .finite 1, .finite 1, .finite 1⟩
    (by decide +kernel) rfl
  exact absurd (PyFloat.finite.inj hregret) (by decide)

end Learning
end AiopsK8s
