/-
# Splitting the training rows by lineage

`group_key` and `group_holdout_split` of `partition_learning.py`.  The rows are grouped by the
digest of their job, their input snapshot and the root of their runtime outcome; the group
identifiers are sorted and shuffled, the first of them become the test groups, and every row goes
to the side of its group.

What `random.Random(seed).shuffle` does is left open but for one thing: it permutes.
-/

import AiopsK8s.Lib.Binary64
import AiopsK8s.Lib.Grouping
import AiopsK8s.Lib.JsonText
import AiopsK8s.Lib.Sorting
import AiopsK8s.Partition.Decode
import Mathlib.Data.List.Dedup

namespace AiopsK8s
namespace Learning

open Effect JsonText Binary64
open AiopsK8s.Partition (PartitionError)

/-- The characters before the first occurrence of a separator. -/
def beforeChars (separator : List Char) : List Char → List Char
  | [] => []
  | c :: rest => if separator.isPrefixOf (c :: rest) then [] else c :: beforeChars separator rest

/-- `text.split(separator, 1)[0]`. -/
def beforeText (separator text : String) : String :=
  String.ofList (beforeChars separator.toList text.toList)

/-- `PartitionRankingTrainingRow` as `_read_training_rows` returns it, less the fields that neither
the split nor the selection metrics read: its features and its reward are finite, every feature of
the schema is there, and the reward is in range. -/
structure PartitionRankingTrainingRow where
  jobId : String
  candidateKey : String
  inputSnapshotHash : String
  features : List (String × ℚ)
  targetReward : ℚ
  runtimeOutcomeRef : String
  baselineScore_mem : (features.lookup "baseline_score").isSome = true
  targetReward_range : -1 ≤ targetReward ∧ targetReward ≤ 1

/-- `random.Random(seed).shuffle(ids)`, of which only that it permutes is known. -/
structure Shuffle where
  shuffle : ℤ → List String → List String
  perm : ∀ seed ids, (shuffle seed ids).Perm ids

/-- `PartitionRankingGroupSplit`. -/
structure PartitionRankingGroupSplit where
  train : List PartitionRankingTrainingRow
  test : List PartitionRankingTrainingRow

section Split

variable (py : Python) (sha256 : String → String) (random : Shuffle)

/-- `group_key`. -/
def groupKey (row : PartitionRankingTrainingRow) : String :=
  sha256 (canonicalJson py (.obj [("job_id", .str row.jobId),
    ("input_snapshot_hash", .str row.inputSnapshotHash),
    ("lineage_root", .str (beforeText "/versions/" row.runtimeOutcomeRef))]))

/-- The checks of `test_fraction`. -/
def fractionOf : Json → Except PartitionError ℚ
  | .int n =>
    match PyFloat.ofInt n with
    | none => .error .overflow
    | some _ => .error (.contract "invalid_split" "test_fraction must be between 0 and 1")
  | .float (.finite fraction) =>
    if 0 < fraction ∧ fraction < 1 then .ok fraction
    else .error (.contract "invalid_split" "test_fraction must be between 0 and 1")
  | .float _ => .error (.contract "invalid_split" "test_fraction must be between 0 and 1")
  | _ => .error (.contract "invalid_split" "test_fraction must be numeric")

/-- The check of `seed`. -/
def seedOf : Json → Except PartitionError ℤ
  | .int seed => .ok seed
  | _ => .error (.contract "invalid_split" "seed must be an integer")

/-- `min(len(group_ids) - 1, max(1, round(len(group_ids) * float(test_fraction))))`.  The length of
a list is far below the range of a float, and so is a fraction of it. -/
def testCount (groups : ℕ) (fraction : ℚ) : ℤ :=
  min (groups - 1) (max 1 (Round.roundHalfEven (nearest (nearest groups * fraction))))

/-- `group_holdout_split`. -/
def groupHoldoutSplit (rows : List PartitionRankingTrainingRow) (testFraction seed : Json) :
    Except PartitionError PartitionRankingGroupSplit := do
  let fraction ← fractionOf testFraction
  let seed ← seedOf seed
  let grouped := Dict.groupBy (groupKey py sha256) rows
  rejectIf (grouped.length < 2) (.contract "insufficient_training_data"
    "at least two independent lineage groups are required")
  let groupIds := Sorting.sorted (fun a b => decide (a < b)) (grouped.map Prod.fst)
  let groupIds := random.shuffle seed groupIds
  let testIds := groupIds.take (testCount groupIds.length fraction).toNat
  let train := rows.filter fun row => groupKey py sha256 row ∉ testIds
  let test := rows.filter fun row => groupKey py sha256 row ∈ testIds
  rejectIf (train = [] ∨ test = []) (.contract "insufficient_training_data"
    "group split must retain train and test rows")
  return ⟨train, test⟩

end Split

/-- **At least one test group and one other**, however the fraction is rounded. -/
theorem testCount_range {groups : ℕ} (h : 2 ≤ groups) (fraction : ℚ) :
    1 ≤ testCount groups fraction ∧ testCount groups fraction ≤ groups - 1 := by
  unfold testCount
  omega

/-- The number of lineage groups of some rows. -/
def groupCount (key : PartitionRankingTrainingRow → String)
    (rows : List PartitionRankingTrainingRow) : ℕ := (rows.map key).dedup.length

/-- A split of rows by their lineage: neither side is empty, each row is on one side, where the
rows keep their order, no group is on both sides, and of the groups at least one and not all are
on the test side. -/
structure IsHoldout (key : PartitionRankingTrainingRow → String)
    (rows : List PartitionRankingTrainingRow) (split : PartitionRankingGroupSplit) : Prop where
  train_ne_nil : split.train ≠ []
  test_ne_nil : split.test ≠ []
  sides : ∃ side : PartitionRankingTrainingRow → Bool,
    split.train = rows.filter (fun row => !side row) ∧ split.test = rows.filter side
  apart : ∀ a ∈ split.train, ∀ b ∈ split.test, key a ≠ key b
  testGroups : 1 ≤ groupCount key split.test ∧
    groupCount key split.test ≤ groupCount key rows - 1

section Groups

variable {key : PartitionRankingTrainingRow → String} {rows : List PartitionRankingTrainingRow}

/-- The keys of the groups are the groups. -/
theorem length_groupBy_eq_groupCount :
    (Dict.groupBy key rows).length = groupCount key rows := by
  rw [groupCount, ← List.length_map (f := Prod.fst)]
  refine List.Perm.length_eq ((List.perm_ext_iff_of_nodup (Dict.nodup_keys_groupBy key rows)
    (List.nodup_dedup _)).2 fun id => ?_)
  rw [Dict.mem_keys_groupBy, List.mem_dedup, List.mem_map]

/-- Selecting some of the groups selects as many. -/
theorem groupCount_filter {ids : List String} (hnodup : ids.Nodup)
    (hsub : ∀ id ∈ ids, ∃ row ∈ rows, key row = id) :
    groupCount key (rows.filter fun row => key row ∈ ids) = ids.length := by
  refine List.Perm.length_eq ((List.perm_ext_iff_of_nodup (List.nodup_dedup _) hnodup).2
    fun id => ?_)
  rw [List.mem_dedup, List.mem_map]
  constructor
  · rintro ⟨row, hrow, rfl⟩
    exact of_decide_eq_true (List.mem_filter.1 hrow).2
  · intro hid
    obtain ⟨row, hrow, rfl⟩ := hsub id hid
    exact ⟨row, List.mem_filter.2 ⟨hrow, decide_eq_true hid⟩, rfl⟩

/-- **Some but not all of the groups make a holdout.** -/
theorem isHoldout_of_take {ids : List String} {n : ℕ}
    (hids : ids.Nodup) (hmem : ∀ id, id ∈ ids ↔ ∃ row ∈ rows, key row = id)
    (hpos : 1 ≤ n) (hlt : n < ids.length) :
    IsHoldout key rows ⟨rows.filter fun row => key row ∉ ids.take n,
      rows.filter fun row => key row ∈ ids.take n⟩ := by
  have hnodup : (ids.take n).Nodup := hids.sublist (List.take_sublist n ids)
  have hlength : (ids.take n).length = n := List.length_take_of_le hlt.le
  have hcount : groupCount key (rows.filter fun row => key row ∈ ids.take n) = n := by
    rw [groupCount_filter hnodup fun id hid => (hmem id).1 (List.mem_of_mem_take hid), hlength]
  have hall : groupCount key rows = ids.length := by
    refine List.Perm.length_eq ((List.perm_ext_iff_of_nodup (List.nodup_dedup _) hids).2
      fun id => ?_)
    rw [List.mem_dedup, List.mem_map, hmem]
  have hgroups : 1 ≤ groupCount key (rows.filter fun row => key row ∈ ids.take n) ∧
      groupCount key (rows.filter fun row => key row ∈ ids.take n) ≤ groupCount key rows - 1 := by
    omega
  refine ⟨?_, ?_, ⟨fun row => key row ∈ ids.take n, ?_, rfl⟩, ?_, hgroups⟩
  · -- the first group that is not taken has a row
    have hnext : ids[n] ∉ ids.take n := by
      intro h
      obtain ⟨i, hi, heq⟩ := List.mem_take_iff_getElem.1 h
      have := (List.Nodup.getElem_inj_iff hids).1 heq
      omega
    obtain ⟨row, hrow, hkey⟩ := (hmem _).1 (List.getElem_mem hlt)
    refine List.ne_nil_of_mem (a := row) (List.mem_filter.2 ⟨hrow, decide_eq_true ?_⟩)
    rw [hkey]
    exact hnext
  · intro hnil
    dsimp only at hnil
    rw [hnil] at hcount
    have hzero : groupCount key [] = 0 := rfl
    omega
  · exact List.filter_congr fun row _ => decide_not
  · intro a ha b hb heq
    have hnot := of_decide_eq_true (List.mem_filter.1 ha).2
    rw [heq] at hnot
    exact hnot (of_decide_eq_true (List.mem_filter.1 hb).2)

end Groups

/-- **Every split holds out whole groups**, at least one of them and not all. -/
theorem groupHoldoutSplit_isHoldout (py : Python) (sha256 : String → String) (random : Shuffle)
    (rows : List PartitionRankingTrainingRow) (fraction : ℚ) (seed : ℤ)
    (hgroups : 2 ≤ groupCount (groupKey py sha256) rows) (hpos : 0 < fraction)
    (hlt : fraction < 1) :
    ∃ split, groupHoldoutSplit py sha256 random rows (.float (.finite fraction)) (.int seed) =
        .ok split ∧ IsHoldout (groupKey py sha256) rows split := by
  obtain ⟨key, hkey⟩ : ∃ key, key = groupKey py sha256 := ⟨_, rfl⟩
  obtain ⟨ids, hids⟩ : ∃ ids, ids = random.shuffle seed (Sorting.sorted
    (fun a b => decide (a < b)) ((Dict.groupBy key rows).map Prod.fst)) := ⟨_, rfl⟩
  have hperm : ids.Perm ((Dict.groupBy key rows).map Prod.fst) := by
    rw [hids]
    exact (random.perm _ _).trans (Sorting.sorted_perm _)
  have hnodup : ids.Nodup := hperm.nodup_iff.2 (Dict.nodup_keys_groupBy key rows)
  have hmem : ∀ id, id ∈ ids ↔ ∃ row ∈ rows, key row = id := fun id =>
    hperm.mem_iff.trans Dict.mem_keys_groupBy
  have hlength : ids.length = groupCount key rows := by
    rw [hperm.length_eq, List.length_map, length_groupBy_eq_groupCount]
  rw [← hkey] at hgroups ⊢
  have hcount : 2 ≤ ids.length := hlength ▸ hgroups
  obtain ⟨hone, hrest⟩ := testCount_range hcount fraction
  obtain ⟨n, hn⟩ : ∃ n, n = (testCount ids.length fraction).toNat := ⟨_, rfl⟩
  have hholdout : IsHoldout key rows _ :=
    isHoldout_of_take (n := n) hnodup hmem (by omega) (by omega)
  refine ⟨_, ?_, hholdout⟩
  have hfew : ¬(Dict.groupBy key rows).length < 2 := by
    rw [length_groupBy_eq_groupCount]
    omega
  have hsides := not_or.2 ⟨hholdout.train_ne_nil, hholdout.test_ne_nil⟩
  have hfraction : fractionOf (.float (.finite fraction)) = .ok fraction := if_pos ⟨hpos, hlt⟩
  unfold groupHoldoutSplit
  rw [hfraction, ← hkey]
  simp only [seedOf, bind, Except.bind, rejectIf, if_neg hfew, ← hids, ← hn]
  rw [if_neg hsides]
  rfl

/-- SHA-256 on the lineage of the first of two jobs, and on that of the other. -/
def jobDigest (text : String) : String :=
  if text = "\x7b\"input_snapshot_hash\":\"s1\",\"job_id\":\"j1\"," ++
      "\"lineage_root\":\"runs/j1\"\x7d" then
    "7b8e068bf783912a1576e370015ba934751a6f5c749f27dbef792e56b7d3a8a7"
  else "a1f94c15f3b04a3c616f7ed54528b28f58d4829b08d45db8124904a4ae31a07d"

/-- A row of a job. -/
def jobRow (job snapshot outcome : String) : PartitionRankingTrainingRow :=
  ⟨job, "candidate", snapshot, [("baseline_score", 0)], 0, outcome, rfl, by decide⟩

/-- The shuffle that moves nothing. -/
def identityShuffle : Shuffle := ⟨fun _ ids => ids, fun _ _ => .rfl⟩

theorem groupHoldoutSplit_two_jobs :
    ∃ split, groupHoldoutSplit Python.ascii jobDigest identityShuffle
        [jobRow "j1" "s1" "runs/j1/versions/1", jobRow "j2" "s2" "runs/j2/versions/1",
          jobRow "j1" "s1" "runs/j1/versions/2"] (.float (.finite (1 / 4))) (.int 17) = .ok split ∧
      IsHoldout (groupKey Python.ascii jobDigest)
        [jobRow "j1" "s1" "runs/j1/versions/1", jobRow "j2" "s2" "runs/j2/versions/1",
          jobRow "j1" "s1" "runs/j1/versions/2"] split :=
  groupHoldoutSplit_isHoldout _ _ _ _ _ _ (by decide +kernel) (by norm_num) (by norm_num)

end Learning
end AiopsK8s
