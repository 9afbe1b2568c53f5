/-
# The ranking of candidates

`partition_features.candidate_key` and the deterministic part of `partition_ranking`: candidates
are ordered by validity, score and split points, the first valid one is selected, and the selection
names it by its key.
-/

import AiopsK8s.Lib.Dict
import AiopsK8s.Lib.Sorting
import AiopsK8s.Partition.Features
import AiopsK8s.Partition.Strategies
import Mathlib.Data.List.Lex
import Mathlib.Data.Prod.Lex

namespace AiopsK8s
namespace Partition

/-- `RankingContext`. -/
structure RankingContext where
  request : NormalizedPartitionRequest
  intent : PartitionIntent

/-- `RankingContext.strategy_version`, as the planner sets it. -/
def RankingContext.strategyVersion (context : RankingContext) : String :=
  context.intent.strategyVersion

/-- `candidate_key`.  The version of a strategy is a proper text, so `_text` returns it as it
is. -/
def candidateKey (rt : Runtime) (strategyVersion : String) (candidate : PartitionCandidate) : String :=
  rt.digest (.obj
    [("split_points", .ofList .int candidate.splitPoints),
      ("assignments", .ofList (fun p : LogicalPartition =>
        .obj [("partition_id", .str p.partitionId), ("device_id", .str p.deviceId)])
        candidate.partitions),
      ("strategy_version", .str strategyVersion)])

/-- `<` of the keys that candidates are sorted by, `(not valid, score, split_points)`: tuples are
compared where they first differ. -/
def rankLt (c d : PartitionCandidate) : Bool :=
  if c.valid ≠ d.valid then c.valid
  else PyFloat.ltThen c.score d.score (c.splitPoints < d.splitPoints)

/-- The key of a candidate whose score is a number. -/
def rankKey (candidate : PartitionCandidate) : Bool ×ₗ WithBot (WithTop ℚ) ×ₗ List ℤ :=
  toLex (!candidate.valid, toLex (candidate.score.extended, candidate.splitPoints))

theorem rankLt_iff {c d : PartitionCandidate} (hc : c.score ≠ .nan) (hd : d.score ≠ .nan) :
    rankLt c d = true ↔ rankKey c < rankKey d := by
  unfold rankLt rankKey
  rw [Prod.Lex.toLex_lt_toLex, Prod.Lex.toLex_lt_toLex]
  rcases c.valid with - | - <;> rcases d.valid with - | -
  all_goals simp [PyFloat.ltThen_iff hc hd]

/-- **Candidates whose scores are numbers are ordered.** -/
theorem orderedBy_rankLt {candidates : List PartitionCandidate}
    (h : ∀ c ∈ candidates, c.score ≠ .nan) : Sorting.OrderedBy rankLt candidates :=
  Sorting.orderedBy_of_key rankKey fun c hc d hd => rankLt_iff (h c hc) (h d hd)

namespace DeterministicPolicyRanker

/-- `ranker_id`. -/
def rankerId : String := "deterministic-policy-ranker"

/-- `ranker_version`. -/
def rankerVersion : String := "1.0"

/-- The order of the candidates. -/
def ordered (rt : Runtime) (candidates : List PartitionCandidate) : List PartitionCandidate :=
  rt.sorter.sort rankLt candidates

/-- An entry of the ranking. -/
def entry (rt : Runtime) (context : RankingContext) (candidate : PartitionCandidate) (rank : ℤ) :
    CandidateRankingEntry where
  candidateKey := candidateKey rt context.strategyVersion candidate
  baselineScore := candidate.score
  predictedReward := none
  predictionConfidence := none
  rank := rank
  eligible := candidate.valid
  warnings := candidate.rejectionReasons
  featureContributions := []

/-- `selection_from_deterministic_order`. -/
def selectionFromDeterministicOrder (rt : Runtime) (context : RankingContext)
    (ordered : List PartitionCandidate) (selected : Option PartitionCandidate) :
    CandidateSelection where
  mode := .deterministic
  activeRankerId := rankerId
  activeRankerVersion := rankerVersion
  baselineSelectedCandidateKey := selected.map (candidateKey rt context.strategyVersion)
  learnedSelectedCandidateKey := none
  finalSelectedCandidateKey := selected.map (candidateKey rt context.strategyVersion)
  modelVersion := none
  modelArtifactHash := none
  featureSchemaVersion := featureSchemaVersion
  entries := ordered.zipIdx.map fun (candidate, index) => entry rt context candidate (index + 1)
  confidence := .finite 1
  fallbackUsed := false
  fallbackReason := none
  rationale := ["Deterministic policy orders valid candidates by score and split points."]

/-- `DeterministicPolicyRanker.rank`. -/
def rank (rt : Runtime) (context : RankingContext) (candidates : List PartitionCandidate) :
    CandidateSelection :=
  selectionFromDeterministicOrder rt context (ordered rt candidates)
    ((ordered rt candidates).find? (·.valid))

end DeterministicPolicyRanker

namespace GuardedCandidateSelector

/-- The keys of the valid candidates. -/
def validKeys (rt : Runtime) (context : RankingContext) (candidates : List PartitionCandidate) :
    List String :=
  (candidates.filter (·.valid)).map (candidateKey rt context.strategyVersion)

/-- `_ensure_valid_final`. -/
def ensureValidFinal (rt : Runtime) (selection : CandidateSelection) (context : RankingContext)
    (candidates : List PartitionCandidate) : CandidateSelection :=
  let validKeys := (validKeys rt context candidates).map some
  if selection.finalSelectedCandidateKey ∈ validKeys ∨ validKeys = [] then selection
  else
    { selection with
      finalSelectedCandidateKey :=
        if selection.baselineSelectedCandidateKey ∈ validKeys then
          selection.baselineSelectedCandidateKey
        else validKeys.head?.join
      fallbackUsed := true
      fallbackReason := some "final_selection_not_rank_eligible" }

/-- `GuardedCandidateSelector.select` in deterministic mode. -/
def selectDeterministic (rt : Runtime) (context : RankingContext)
    (candidates : List PartitionCandidate) : CandidateSelection :=
  ensureValidFinal rt (DeterministicPolicyRanker.rank rt context candidates) context candidates

end GuardedCandidateSelector

/-! ### What is selected -/

section Selected

open DeterministicPolicyRanker GuardedCandidateSelector

variable {rt : Runtime} {context : RankingContext} {candidates : List PartitionCandidate}

/-- The ranker selects a valid candidate where there is one. -/
theorem find?_ordered (rt : Runtime) (candidates : List PartitionCandidate) :
    (∃ selected ∈ candidates, selected.valid = true ∧
      (ordered rt candidates).find? (·.valid) = some selected) ∨
    ((ordered rt candidates).find? (·.valid) = none ∧ candidates.filter (·.valid) = []) := by
  rcases hselected : (ordered rt candidates).find? (·.valid) with _ | selected
  · refine .inr ⟨hselected, List.filter_eq_nil_iff.2 fun c hc => ?_⟩
    exact List.find?_eq_none.1 hselected c (rt.sorter.mem_sort.2 hc)
  · exact .inl ⟨selected, rt.sorter.mem_sort.1 (List.mem_of_find?_eq_some hselected),
      List.find?_some hselected, hselected⟩

/-- The repair changes nothing: what the ranker selects is valid where anything is. -/
theorem selectDeterministic_eq :
    selectDeterministic rt context candidates = rank rt context candidates := by
  rw [selectDeterministic, ensureValidFinal]
  refine if_pos ?_
  rcases find?_ordered rt candidates with ⟨selected, hmem, hvalid, hselected⟩ | ⟨-, hnone⟩
  · refine .inl ?_
    have hfinal : (rank rt context candidates).finalSelectedCandidateKey
        = some (candidateKey rt context.strategyVersion selected) := by
      rw [rank, hselected]
      rfl
    rw [hfinal]
    exact List.mem_map_of_mem (List.mem_map_of_mem (List.mem_filter.2 ⟨hmem, hvalid⟩))
  · refine .inr ?_
    rw [validKeys, hnone]
    rfl

/-- What is selected comes first among the valid candidates: by its score, then by its split
points. -/
theorem selected_first (hnan : ∀ c ∈ candidates, c.score ≠ .nan) {selected : PartitionCandidate}
    (h : (ordered rt candidates).find? (·.valid) = some selected) {c : PartitionCandidate}
    (hc : c ∈ candidates) (hvalid : c.valid = true) :
    PyFloat.lt selected.score c.score = true ∨
      (selected.score = c.score ∧ selected.splitPoints ≤ c.splitPoints) := by
  have hmem : selected ∈ candidates := rt.sorter.mem_sort.1 (List.mem_of_find?_eq_some h)
  have hselected : selected.valid = true := List.find?_some h
  have hlt : rankLt c selected = false :=
    rt.sorter.find?_sort h (orderedBy_rankLt hnan) c hc hvalid
  unfold rankLt PyFloat.ltThen at hlt
  rw [hselected, hvalid, if_neg (by simp)] at hlt
  split_ifs at hlt with heq
  · have hsame := (PyFloat.eq_iff.1 heq).2
    exact .inr ⟨hsame.symm, not_lt.1 (by simpa using hlt)⟩
  · rcases PyFloat.lt_or_eq_or_lt (hnan selected hmem) (hnan c hc) with hbefore | hequal | hafter
    · exact .inl hbefore
    · rw [PyFloat.eq_comm] at hequal
      exact absurd hequal heq
    · rw [hlt] at hafter
      cases hafter

end Selected

end Partition
end AiopsK8s
