/-
# The planner selects the best candidate

The candidates of the splits have distinct split points, so where their keys are distinct the way
over the ranking and back loses none, and the plan is the best of them (`plan_optimal`).  Where an
integer is too large for a float there is no plan (`plan_overflows`).

With fewer than two participants left the planner refuses without looking at a candidate
(`plan_of_few_survivors`), also where the one that is left could hold the whole model.
-/

import AiopsK8s.Lib.JsonText
import AiopsK8s.Partition.Acceptance
import AiopsK8s.Partition.Splits

namespace AiopsK8s
namespace Partition

open Effect

namespace ModelPartitionOrchestrationAgent

open Raising

section Planning

variable {rt : Runtime} {policy : ModelPartitionPolicy} {planId : String} {roundPlan : RoundPlan}
  {normalized : NormalizedPartitionRequest} {intent : PartitionIntent} {exclusions : Exclusions}
  {splitPoints : List ℕ} {candidate : PartitionCandidate}

/-- The way back from keys to candidates, where the keys are distinct. -/
theorem lookup_candidateKey {version : String} {cs : List PartitionCandidate}
    (hkeys : (cs.map (candidateKey rt version)).Nodup) (hmem : candidate ∈ cs) :
    (Dict.ofEntries (cs.map fun c => (candidateKey rt version c, c))).lookup
      (candidateKey rt version candidate) = some candidate := by
  have hnodup : ((cs.map fun c => (candidateKey rt version c, c)).map Prod.fst).Nodup := by
    rw [List.map_map]
    exact hkeys
  rw [Dict.ofEntries_of_nodup hnodup, ← Dict.mem_iff_lookup hnodup]
  exact List.mem_map_of_mem hmem

/-- **The ranking and back.**  The plan of a selection among candidates with distinct keys names the
first valid one in the order of the ranking, and lists all of them. -/
theorem planOfSelection_eq {cs : List PartitionCandidate}
    (hkeys : (cs.map (candidateKey rt intent.strategyVersion)).Nodup) :
    planOfSelection rt policy planId roundPlan intent.strategyVersion cs
        (GuardedCandidateSelector.selectDeterministic rt ⟨normalized, intent⟩ cs) =
      match (DeterministicPolicyRanker.ordered rt cs).find? (·.valid) with
      | none => safeFailure policy planId roundPlan ["no_feasible_partition"]
          (DeterministicPolicyRanker.ordered rt cs)
          (DeterministicPolicyRanker.rank rt ⟨normalized, intent⟩ cs)
      | some selected => selectedPlan policy planId roundPlan selected
          ((DeterministicPolicyRanker.ordered rt cs).filter (· ≠ selected))
          ("Selected the feasible candidate with the lowest versioned " ++
            "latency, memory-pressure, and communication score.")
          (DeterministicPolicyRanker.rank rt ⟨normalized, intent⟩ cs) := by
  have hlookup : ∀ c ∈ DeterministicPolicyRanker.ordered rt cs,
      (Dict.ofEntries (cs.map fun c => (candidateKey rt intent.strategyVersion c, c))).lookup
        (candidateKey rt intent.strategyVersion c) = some c := fun c hc =>
    lookup_candidateKey hkeys (rt.sorter.mem_sort.1 hc)
  have hordered : (DeterministicPolicyRanker.rank rt ⟨normalized, intent⟩ cs).entries.filterMap
      (fun entry => (Dict.ofEntries (cs.map fun c =>
        (candidateKey rt intent.strategyVersion c, c))).lookup entry.candidateKey)
      = DeterministicPolicyRanker.ordered rt cs := by
    rw [DeterministicPolicyRanker.rank, DeterministicPolicyRanker.selectionFromDeterministicOrder,
      List.filterMap_map]
    refine (List.filterMap_eq_map_iff_forall_eq_some.2 fun item hitem => ?_).trans
      (List.zipIdx_map_fst 0 _)
    exact hlookup item.1 (List.fst_mem_of_mem_zipIdx hitem)
  rw [planOfSelection, selectDeterministic_eq]
  simp only [hordered]
  rcases hfind : (DeterministicPolicyRanker.ordered rt cs).find? (·.valid) with _ | selected
  · have hfinal : (DeterministicPolicyRanker.rank rt ⟨normalized, intent⟩ cs).finalSelectedCandidateKey
        = none := by
      rw [DeterministicPolicyRanker.rank, hfind]
      rfl
    rw [hfinal, hfind]
    rfl
  · have hfinal : (DeterministicPolicyRanker.rank rt ⟨normalized, intent⟩ cs).finalSelectedCandidateKey
        = some (candidateKey rt intent.strategyVersion selected) := by
      rw [DeterministicPolicyRanker.rank, hfind]
      rfl
    rw [hfinal, Option.bind_some, hlookup selected (List.mem_of_find?_eq_some hfind),
      hfind]

/-- The keys of the candidates of different splits are different. -/
def KeysDistinct (rt : Runtime) (policy : ModelPartitionPolicy) (roundPlan : RoundPlan)
    (normalized : NormalizedPartitionRequest) (intent : PartitionIntent) (exclusions : Exclusions) :
    Prop :=
  ∀ s t c d, Split roundPlan normalized intent exclusions s →
    Split roundPlan normalized intent exclusions t →
    Builds rt policy roundPlan normalized intent exclusions s c →
    Builds rt policy roundPlan normalized intent exclusions t d →
    candidateKey rt intent.strategyVersion c = candidateKey rt intent.strategyVersion d → s = t

/-- A candidate of the round plan that nothing rejects. -/
def Feasible (rt : Runtime) (policy : ModelPartitionPolicy) (roundPlan : RoundPlan)
    (normalized : NormalizedPartitionRequest) (intent : PartitionIntent) (exclusions : Exclusions)
    (candidate : PartitionCandidate) : Prop :=
  ∃ s, Split roundPlan normalized intent exclusions s ∧
    Builds rt policy roundPlan normalized intent exclusions s candidate ∧
    candidate.rejectionReasons = []

/-- **The candidates of the planner**: one of each split, with distinct keys. -/
theorem candidates_spec (hsurvivors : 1 ≤ (survivors roundPlan exclusions).length)
    (hkeys : KeysDistinct rt policy roundPlan normalized intent exclusions)
    {cs : List PartitionCandidate}
    (hcs : candidates rt policy roundPlan normalized intent exclusions = .ok cs) :
    (cs.map (candidateKey rt intent.strategyVersion)).Nodup ∧
      ∀ c, c ∈ cs ↔ ∃ s, Split roundPlan normalized intent exclusions s ∧
        Builds rt policy roundPlan normalized intent exclusions s c := by
  have hsplit : ∀ {s}, s ∈ candidateSplits roundPlan normalized intent exclusions →
      Split roundPlan normalized intent exclusions s := (mem_candidateSplits hsurvivors).1
  refine ⟨?_, fun c => ⟨fun hc => ?_, ?_⟩⟩
  · rw [List.Nodup, List.pairwise_map]
    refine pairwise_mapM hcs nodup_candidateSplits fun s hs t ht c d hc hd hne heq => ?_
    exact hne (hkeys s t c d (hsplit hs) (hsplit ht) hc hd heq)
  · obtain ⟨s, hs, hbuilds⟩ := exists_of_mem_mapM hcs hc
    exact ⟨s, hsplit hs, hbuilds⟩
  · rintro ⟨s, hs, hbuilds⟩
    obtain ⟨d, hd, hbuilds'⟩ := exists_mem_of_mapM hcs ((mem_candidateSplits hsurvivors).2 hs)
    obtain rfl : c = d := Except.ok.inj (hbuilds.symm.trans hbuilds')
    exact hd

/-- There are candidates where every split has one. -/
theorem exists_candidates (hsurvivors : 1 ≤ (survivors roundPlan exclusions).length)
    (hbuilds : EverySplitBuilds rt policy roundPlan normalized intent exclusions) :
    ∃ cs, candidates rt policy roundPlan normalized intent exclusions = .ok cs :=
  exists_mapM_ok fun s hs => hbuilds s ((mem_candidateSplits hsurvivors).1 hs)

/-- **With fewer than two participants left no candidate is looked at.** -/
theorem plan_of_few_survivors (hfull : intent.strategyId ≠ "federated-full-model-v1")
    (h : (survivors roundPlan exclusions).length < 2) :
    plan rt policy planId roundPlan exclusions normalized intent = .ok (safeFailure policy planId
      roundPlan ["insufficient_participants_after_failure"] [] none) := by
  rw [plan, if_neg hfull, if_pos (.inl h)]
  rfl

/-- What a plan of at least two participants is, with the candidates that it was chosen from. -/
theorem plan_eq (planId : String) (hfull : intent.strategyId ≠ "federated-full-model-v1")
    (hsurvivors : 2 ≤ (survivors roundPlan exclusions).length)
    (hlayers : (survivors roundPlan exclusions).length ≤ roundPlan.layers.length)
    (hbuilds : EverySplitBuilds rt policy roundPlan normalized intent exclusions)
    (hkeys : KeysDistinct rt policy roundPlan normalized intent exclusions) :
    ∃ cs, (cs.map (candidateKey rt intent.strategyVersion)).Nodup ∧
      (∀ c, c ∈ cs ↔ ∃ s, Split roundPlan normalized intent exclusions s ∧
        Builds rt policy roundPlan normalized intent exclusions s c) ∧
      plan rt policy planId roundPlan exclusions normalized intent = .ok (planOfSelection rt policy
        planId roundPlan intent.strategyVersion cs
        (GuardedCandidateSelector.selectDeterministic rt ⟨normalized, intent⟩ cs)) := by
  have hone : 1 ≤ (survivors roundPlan exclusions).length := by omega
  obtain ⟨cs, hcs⟩ := exists_candidates hone hbuilds
  obtain ⟨hnodup, hmem⟩ := candidates_spec hone hkeys hcs
  refine ⟨cs, hnodup, hmem, ?_⟩
  rw [plan, if_neg hfull, if_neg (by omega), hcs]
  rfl

/-- No score is `nan`. -/
def ScoresAreNumbers (rt : Runtime) (policy : ModelPartitionPolicy) (roundPlan : RoundPlan)
    (normalized : NormalizedPartitionRequest) (intent : PartitionIntent) (exclusions : Exclusions) :
    Prop :=
  ∀ s c, Split roundPlan normalized intent exclusions s →
    Builds rt policy roundPlan normalized intent exclusions s c → c.score ≠ .nan

/-- **The scores of an inference request are numbers.** -/
theorem scoresAreNumbers_of_inference (hpolicy : policy.Checked)
    (h : normalized.planType ≠ "training") :
    ScoresAreNumbers rt policy roundPlan normalized intent exclusions := by
  intro s c _ hbuilds
  have hnone : candidateIntent normalized intent = none := if_neg h
  unfold Builds at hbuilds
  rw [hnone] at hbuilds
  exact ((figures_buildCandidate hpolicy (by simp) hbuilds).2 rfl).ne_nan

/-- What a plan says of the candidates of its round plan. -/
structure Optimal (rt : Runtime) (policy : ModelPartitionPolicy) (roundPlan : RoundPlan)
    (normalized : NormalizedPartitionRequest) (intent : PartitionIntent) (exclusions : Exclusions)
    (p : PartitionExecutionPlan) : Prop where
  /-- The plan is valid exactly when a candidate is feasible. -/
  valid_iff : p.valid = true ↔ ∃ c, Feasible rt policy roundPlan normalized intent exclusions c
  /-- A valid plan selects a candidate, and no other does. -/
  selected_iff : p.valid = true ↔ p.selectedCandidate.isSome = true
  /-- What is selected is feasible. -/
  feasible : ∀ selected ∈ p.selectedCandidate,
    Feasible rt policy roundPlan normalized intent exclusions selected
  /-- No feasible candidate has a lower score, or lower split points at the same score.  The score of
  a training candidate with an infinite time is not a number, and then nothing is said. -/
  minimal : (normalized.planType = "training" →
      ScoresAreNumbers rt policy roundPlan normalized intent exclusions) →
    ∀ selected ∈ p.selectedCandidate, ∀ c,
      Feasible rt policy roundPlan normalized intent exclusions c →
      PyFloat.lt selected.score c.score = true ∨
        (selected.score = c.score ∧ selected.splitPoints ≤ c.splitPoints)
  /-- No candidate is listed twice. -/
  nodup : (p.selectedCandidate.toList ++ p.alternativeCandidates).Nodup
  /-- The selected candidate and the alternatives are the candidates of all splits. -/
  complete : ∀ c, c ∈ p.selectedCandidate.toList ++ p.alternativeCandidates ↔
    ∃ s, Split roundPlan normalized intent exclusions s ∧
      Builds rt policy roundPlan normalized intent exclusions s c

/-- A candidate is feasible when it is among the candidates and valid. -/
theorem feasible_iff {cs : List PartitionCandidate}
    (hmem : ∀ c, c ∈ cs ↔ ∃ s, Split roundPlan normalized intent exclusions s ∧
      Builds rt policy roundPlan normalized intent exclusions s c) :
    Feasible rt policy roundPlan normalized intent exclusions candidate ↔
      candidate ∈ cs ∧ candidate.valid = true := by
  rw [hmem]
  constructor
  · rintro ⟨s, hs, hbuilds, hreasons⟩
    exact ⟨⟨s, hs, hbuilds⟩, hbuilds.spec.2.2 hreasons⟩
  · rintro ⟨⟨s, hs, hbuilds⟩, hvalid⟩
    exact ⟨s, hs, hbuilds, hbuilds.spec.2.1 hvalid⟩

/-- A plan that selects nothing, where nothing is feasible. -/
theorem optimal_of_refusal {p : PartitionExecutionPlan} (hvalid : p.valid = false)
    (hselected : p.selectedCandidate = none) (hnodup : p.alternativeCandidates.Nodup)
    (hnone : ∀ c, ¬Feasible rt policy roundPlan normalized intent exclusions c)
    (hcomplete : ∀ c, c ∈ p.alternativeCandidates ↔
      ∃ s, Split roundPlan normalized intent exclusions s ∧
        Builds rt policy roundPlan normalized intent exclusions s c) :
    Optimal rt policy roundPlan normalized intent exclusions p where
  valid_iff := by
    rw [hvalid]
    exact ⟨fun h => absurd h (by decide), fun ⟨c, hc⟩ => absurd hc (hnone c)⟩
  selected_iff := by simp [hvalid, hselected]
  feasible := by simp [hselected]
  minimal := by simp [hselected]
  nodup := by simpa [hselected] using hnodup
  complete := by simpa [hselected] using hcomplete

/-- The plan of a selection among all candidates is optimal. -/
theorem optimal_planOfSelection {cs : List PartitionCandidate} (hpolicy : policy.Checked)
    (hkeys : (cs.map (candidateKey rt intent.strategyVersion)).Nodup)
    (hmem : ∀ c, c ∈ cs ↔ ∃ s, Split roundPlan normalized intent exclusions s ∧
      Builds rt policy roundPlan normalized intent exclusions s c) :
    Optimal rt policy roundPlan normalized intent exclusions (planOfSelection rt policy planId roundPlan
      intent.strategyVersion cs
      (GuardedCandidateSelector.selectDeterministic rt ⟨normalized, intent⟩ cs)) := by
  have hperm : (DeterministicPolicyRanker.ordered rt cs).Perm cs := rt.sorter.perm _ _
  have hnodup : (DeterministicPolicyRanker.ordered rt cs).Nodup :=
    hperm.nodup_iff.2 (List.Nodup.of_map _ hkeys)
  rw [planOfSelection_eq hkeys]
  rcases hfind : (DeterministicPolicyRanker.ordered rt cs).find? (·.valid) with _ | selected
  · have hnone : ∀ c ∈ cs, ¬c.valid = true := fun c hc =>
      List.find?_eq_none.1 hfind c (hperm.mem_iff.2 hc)
    rw [hfind]
    refine optimal_of_refusal rfl rfl hnodup (fun c hc => ?_) fun c => ?_
    · obtain ⟨hc, hvalid⟩ := (feasible_iff hmem).1 hc
      exact hnone c hc hvalid
    · rw [← hmem, ← hperm.mem_iff]
      exact Iff.rfl
  · rw [hfind]
    have hselected : selected ∈ cs := rt.sorter.mem_sort.1 (List.mem_of_find?_eq_some hfind)
    have hvalid : selected.valid = true := List.find?_some hfind
    have hfeasible : Feasible rt policy roundPlan normalized intent exclusions selected :=
      (feasible_iff hmem).2 ⟨hselected, hvalid⟩
    refine ⟨⟨fun _ => ⟨selected, hfeasible⟩, fun _ => rfl⟩, ⟨fun _ => rfl, fun _ => rfl⟩, ?_, ?_, ?_,
      fun c => ?_⟩
    · intro c hc
      obtain rfl : selected = c := Option.some.inj hc
      exact hfeasible
    · intro htraining c hc d hd
      obtain rfl : selected = c := Option.some.inj hc
      obtain ⟨hd, hdvalid⟩ := (feasible_iff hmem).1 hd
      have hscores : ScoresAreNumbers rt policy roundPlan normalized intent exclusions := by
        by_cases htype : normalized.planType = "training"
        · exact htraining htype
        · exact scoresAreNumbers_of_inference hpolicy htype
      refine selected_first (fun e he => ?_) hfind hd hdvalid
      obtain ⟨s, hs, hbuilds⟩ := (hmem e).1 he
      exact hscores s e hs hbuilds
    · refine List.nodup_cons.2 ⟨fun h => ?_, hnodup.filter _⟩
      have hne := (List.mem_filter.1 h).2
      rw [decide_eq_true_iff] at hne
      exact hne rfl
    · rw [← hmem, ← hperm.mem_iff]
      show c ∈ selected :: (DeterministicPolicyRanker.ordered rt cs).filter (· ≠ selected) ↔ _
      rw [List.mem_cons, List.mem_filter, decide_eq_true_iff]
      by_cases hc : c = selected
      · subst hc
        simpa using hperm.mem_iff.2 hselected
      · simp [hc]

/-- With fewer layers than participants there is no split. -/
theorem not_split (htwo : 2 ≤ (survivors roundPlan exclusions).length)
    (hlayers : roundPlan.layers.length < (survivors roundPlan exclusions).length) (s : List ℕ) :
    ¬Split roundPlan normalized intent exclusions s := by
  intro hs
  have hlength := hs.length
  rcases hs.length_le with hle | rfl
  · omega
  · rw [List.length_nil] at hlength
    omega

/-- What a request that passes the common checks is planned with. -/
theorem planned_with {request : PartitionPlanningRequest} {strategy : PartitionStrategy}
    (hrequest : PartitionCommonProcessor.process rt request = .ok normalized)
    (hintent : strategy.buildPartitionIntent rt normalized = .ok intent) :
    (∀ p ∈ normalized.roundPlan.participants,
        p ∈ normalized.roundPlan.devices.map (·.deviceId)) ∧
      normalized.roundPlan.layers ≠ [] ∧
      (normalized.planType = "training" →
        intent.objectiveWeights.map Prod.fst = trainingObjectives) := by
  obtain ⟨-, hparticipants, -, hdevices, -, -, hfeasible⟩ :=
    PartitionCommonProcessor.process_eq_ok hrequest
  obtain ⟨-, hlayers, hknown⟩ := PartitionCommonProcessor.validateFeasibility_eq_ok hfeasible
  rw [← hparticipants, ← hdevices] at hknown
  exact ⟨hknown, hlayers, PartitionStrategy.objectiveWeights_named hintent⟩

/-- **Where the candidate of a split cannot be computed, `_plan` raises `OverflowError`.** -/
theorem plan_overflows {request : PartitionPlanningRequest} {strategy : PartitionStrategy}
    (hrequest : PartitionCommonProcessor.process rt request = .ok normalized)
    (hintent : strategy.buildPartitionIntent rt normalized = .ok intent)
    (hfull : intent.strategyId ≠ "federated-full-model-v1")
    (htwo : 2 ≤ (survivors normalized.roundPlan exclusions).length)
    (h : ¬InRange rt policy normalized.roundPlan normalized intent exclusions) :
    plan rt policy planId normalized.roundPlan exclusions normalized intent
      = .error .overflow := by
  obtain ⟨hknown, hne, hweights⟩ := planned_with hrequest hintent
  have hlayers : ¬normalized.roundPlan.layers.length <
      (survivors normalized.roundPlan exclusions).length := fun hlt =>
    h fun s hs => absurd hs (not_split htwo hlt s)
  have hsplit : ∀ s, s ∈ candidateSplits normalized.roundPlan normalized intent exclusions ↔
      Split normalized.roundPlan normalized intent exclusions s := fun s =>
    mem_candidateSplits (by omega)
  rw [plan, if_neg hfull, if_neg (by omega)]
  rcases hcs : candidates rt policy normalized.roundPlan normalized intent exclusions with e | cs
  · have hoverflow : Raises (· = .overflow) (candidates rt policy normalized.roundPlan normalized intent
        exclusions) := Raises.mapM fun s hs =>
      raises_buildCandidate converts_or_overflows hknown hweights hne ((hsplit s).1 hs)
    obtain rfl := hoverflow e hcs
    rfl
  · refine absurd (fun s hs hfailed => ?_) h
    obtain ⟨c, -, hc⟩ := exists_mem_of_mapM hcs ((hsplit s).2 hs)
    cases hc.symm.trans hfailed

/-- **The planner selects the best candidate.**  For every request that passes the common checks and
the intent of a strategy that splits the model: with at least two participants left, and where no
figure of a candidate overflows, `_plan` returns a plan that is optimal among the candidates of all
splits; with fewer participants it returns a refusal. -/
theorem plan_optimal (planId : String) (exclusions : Exclusions) (hpolicy : policy.Checked)
    {request : PartitionPlanningRequest} {strategy : PartitionStrategy}
    (hrequest : PartitionCommonProcessor.process rt request = .ok normalized)
    (hintent : strategy.buildPartitionIntent rt normalized = .ok intent)
    (hfull : intent.strategyId ≠ "federated-full-model-v1")
    (hkeys : KeysDistinct rt policy normalized.roundPlan normalized intent exclusions) :
    (2 ≤ (survivors normalized.roundPlan exclusions).length →
      InRange rt policy normalized.roundPlan normalized intent exclusions →
      ∃ p, plan rt policy planId normalized.roundPlan exclusions normalized intent = .ok p ∧
        Optimal rt policy normalized.roundPlan normalized intent exclusions p) ∧
    ((survivors normalized.roundPlan exclusions).length < 2 →
      ∃ p, plan rt policy planId normalized.roundPlan exclusions normalized intent = .ok p ∧
        p.valid = false ∧ p.errors = ["insufficient_participants_after_failure"]) := by
  obtain ⟨hknown, hne, hweights⟩ := planned_with hrequest hintent
  refine ⟨fun htwo hrange => ?_, fun hfew => ⟨_, plan_of_few_survivors hfull hfew, rfl, rfl⟩⟩
  rcases Nat.lt_or_ge normalized.roundPlan.layers.length
    (survivors normalized.roundPlan exclusions).length with hlayers | hlayers
  · have hnone : ∀ s, ¬Split normalized.roundPlan normalized intent exclusions s :=
      not_split htwo hlayers
    refine ⟨safeFailure policy planId normalized.roundPlan
      ["insufficient_participants_after_failure"] [] none, ?_, ?_⟩
    · rw [plan, if_neg hfull, if_pos (.inr hlayers)]
      rfl
    · refine optimal_of_refusal rfl rfl List.nodup_nil (fun c => ?_) fun c => ?_
      · rintro ⟨s, hs, -⟩
        exact hnone s hs
      · refine ⟨fun hc => absurd hc List.not_mem_nil, ?_⟩
        rintro ⟨s, hs, -⟩
        exact absurd hs (hnone s)
  · have hbuilds : EverySplitBuilds rt policy normalized.roundPlan normalized intent exclusions :=
      everySplitBuilds_of_inRange hknown hne hweights hrange
    obtain ⟨cs, hnodup, hmem, hplan⟩ := plan_eq planId hfull htwo hlayers hbuilds hkeys
    exact ⟨_, hplan, optimal_planOfSelection hpolicy hnodup hmem⟩

end Planning

/-! ### A model on two devices -/

/-- The document that the key of a split of `twoDeviceRequest` is the digest of. -/
def splitKeyText (boundary : String) : String :=
  "\x7b\"assignments\":[\x7b\"device_id\":\"a\",\"partition_id\":\"partition-1\"\x7d," ++
    "\x7b\"device_id\":\"b\",\"partition_id\":\"partition-2\"\x7d]," ++
    "\"split_points\":[" ++ boundary ++
    "],\"strategy_version\":\"inference-partition-v1:1\"\x7d"

/-- The SHA-256 digests of the keys of the three splits. -/
def splitDigest (text : String) : String :=
  if text = splitKeyText "1" then
    "543b9a44d758b8cccdb431de01dc4c590f7bf268d7073beff767e070be0e6807"
  else if text = splitKeyText "2" then
    "cb7b115d72bf821880d37097fa657d2d688c47ac8fe2d656a81930c1fe833f31"
  else if text = splitKeyText "3" then
    "0381610b4489309ca8b93fe323e96a072452786bd757eaa123b2443e78b1d2f0"
  else "0000000000000000000000000000000000000000000000000000000000000000"

theorem splitDigest_hex (text : String) : IsHexDigest (splitDigest text) := by
  unfold splitDigest
  split_ifs
  · exact isHexDigest_of_all (by decide) (by decide)
  · exact isHexDigest_of_all (by decide) (by decide)
  · exact isHexDigest_of_all (by decide) (by decide)
  · exact isHexDigest_of_all (by decide) (by decide)

/-- The conversions that the splits of `twoDeviceRequest` need. -/
def twoDeviceRuntime : Runtime where
  toPython := Python.ascii
  canonicalJson := JsonText.canonicalJson Python.ascii
  sha256 := splitDigest
  sha256_hex := splitDigest_hex
  formatG _ := "1"
  intOfText _ := none
  reprTuple _ := ""
  summation := .leftToRight
  sorter := .insertion

theorem proper_block : Text.Proper "block" := by decide
theorem proper_profile : Text.Proper "profile" := by decide
theorem proper_registry : Text.Proper "registry" := by decide
theorem proper_one : Text.Proper "1" := by decide
theorem four_nonneg : (0 : ℤ) ≤ 4 := by decide
theorem proper_layerNames :
    ∀ s ∈ ["embedding", "attention", "feedforward", "head"], Text.Proper s := by decide
theorem layerNames_ne_nil : ["embedding", "attention", "feedforward", "head"] ≠ [] := by decide
theorem layerNames_nodup : ["embedding", "attention", "feedforward", "head"].Nodup := by decide

/-- A block of four layers of a byte each. -/
def fourLayerBlock : ModelBlock :=
  ⟨"block", ["embedding", "attention", "feedforward", "head"], 4, 1, 4, proper_block,
    proper_layerNames, layerNames_ne_nil, layerNames_nodup, four_nonneg, Int.one_nonneg, four_nonneg⟩

theorem blocks_ne_nil : [fourLayerBlock] ≠ [] := List.cons_ne_nil _ _
theorem blockIds_nodup : ([fourLayerBlock].map (·.blockId)).Nodup := by decide
theorem allLayers_nodup : ([fourLayerBlock].flatMap (·.layerNames)).Nodup := by decide
theorem thousand_units : (1 / 1000000 : ℚ) ≤ 1000 := by norm_num
theorem five_hundred_units : (1 / 1000000 : ℚ) ≤ 500 := by norm_num
theorem one_le_six : (1 : ℤ) ≤ 6 := by decide
theorem six_nonneg : (0 : ℤ) ≤ 6 := by decide

/-- The device of the first participant holds the whole model. -/
def fastDevice : ResourceDevice :=
  ⟨"a", "gpu", 1000, 10, 10, PartitionPlanValidator.proper_a, PartitionPlanValidator.proper_gpu,
    thousand_units, PartitionPlanValidator.one_le_ten, PartitionPlanValidator.ten_nonneg,
    PartitionPlanValidator.ten_le_ten⟩

/-- The device of the second is half as fast, and has no memory for three layers. -/
def smallDevice : ResourceDevice :=
  ⟨"b", "gpu", 500, 6, 6, PartitionPlanValidator.proper_b, PartitionPlanValidator.proper_gpu,
    five_hundred_units, one_le_six, six_nonneg, le_refl 6⟩

/-- A byte takes two milliseconds from one to the other. -/
def deviceLink : NetworkLink :=
  ⟨"a", "b", 1000, 1, PartitionPlanValidator.proper_a, PartitionPlanValidator.proper_b,
    thousand_units, PartitionPlanValidator.latency_nonneg⟩

/-- A model of four layers on two devices. -/
def twoDeviceContext : PartitionSystemContext where
  snapshotId := "snapshot"
  snapshotVersion := "1"
  collectedAt := "2026-01-01T00:00:00Z"
  modelStructureProfile := ⟨"profile", "model", "1", [fourLayerBlock], proper_profile,
    PartitionPlanValidator.proper_model, proper_one, blocks_ne_nil, blockIds_nodup, allLayers_nodup⟩
  modelRegistryContext := ⟨"registry", "1", "model", "1", proper_registry, proper_one,
    PartitionPlanValidator.proper_model, proper_one⟩
  devices := [fastDevice, smallDevice]
  networkLinks := [deviceLink]
  workloadForecast := none

/-- A request to serve it. -/
def twoDeviceRequest : PartitionPlanningRequest where
  envelope := ⟨"inference", "plan", "job", "operator", "ticket", "2026-01-01T00:00:00Z", "1.0"⟩
  plan := .inference
    { modelId := "model"
      approvedModelVersion := "1"
      serviceObjective := "serve"
      latencySloMs := 1000
      minimumThroughputRps := .finite 1
      availabilityTarget := 1
      trafficPolicy := []
      concurrencyPolicy := [("max_requests", .int 1000)]
      participants := ["a", "b"]
      resourceBudget := []
      constraints := PartitionPlanValidator.tenByteRoundPlan.constraints }
  context := twoDeviceContext
  legacyInput := false
  approvedExecutionMode := some PartitionPlanValidator.tenByteRoundPlan.executionMode
  legacyLayers := none

/-- The strategy that serves it. -/
def twoDeviceStrategy : PartitionStrategy := .inference
  { strategyId := "inference-partition-v1"
    strategyVersion := "inference-partition-v1:1"
    policyVersion := "1"
    supportedModes := ["split_inference"]
    objectiveWeights := [("latency", 1)]
    baseConfidence := 1
    missingForecastPenalty := 0
    legacyInputPenalty := 0
    strategyVersion_proper := by decide }

/-- A policy that only looks at the latency. -/
def latencyPolicy : ModelPartitionPolicy := ⟨"1", 1, 0, 0, 1000, 1000000, 1⟩

theorem checked_latencyPolicy : latencyPolicy.Checked :=
  ⟨by decide, by decide, by decide, by decide, by decide, by decide⟩

/-- What the common checks make of the request. -/
def twoDeviceNormalized : NormalizedPartitionRequest where
  planType := "inference"
  jobId := "job"
  modelId := "model"
  approvedModelVersion := "1"
  approvedExecutionMode := PartitionPlanValidator.tenByteRoundPlan.executionMode
  participants := ["a", "b"]
  layers := PartitionCommonProcessor.layersFromProfile twoDeviceContext.modelStructureProfile
  devices := twoDeviceContext.devices
  networkLinks := twoDeviceContext.networkLinks
  constraints := PartitionPlanValidator.tenByteRoundPlan.constraints
  contextSnapshotId := "snapshot"
  contextSnapshotHash := twoDeviceRuntime.digest (.obj twoDeviceContext.toDict)
  inputSignature := twoDeviceRuntime.digest (PartitionCommonProcessor.inputPayload twoDeviceRuntime
    twoDeviceRequest PartitionPlanValidator.tenByteRoundPlan.executionMode
    (PartitionCommonProcessor.layersFromProfile twoDeviceContext.modelStructureProfile))
  legacyInput := false
  workloadForecast := none

theorem process_twoDeviceRequest :
    PartitionCommonProcessor.process twoDeviceRuntime twoDeviceRequest = .ok twoDeviceNormalized :=
  rfl

/-- The document of the key of a split of two devices. -/
def splitKey (rt : Runtime) (boundary : ℤ) : String :=
  rt.digest (.obj [("split_points", .ofList .int [boundary]),
    ("assignments", .arr [
      .obj [("partition_id", .str "partition-1"), ("device_id", .str "a")],
      .obj [("partition_id", .str "partition-2"), ("device_id", .str "b")]]),
    ("strategy_version", .str "inference-partition-v1:1")])

theorem splitKey_injective {i j : ℤ} (hi : i ∈ [1, 2, 3]) (hj : j ∈ [1, 2, 3])
    (h : splitKey twoDeviceRuntime i = splitKey twoDeviceRuntime j) : i = j := by
  have hkeys : ∀ i ∈ [1, 2, 3], ∀ j ∈ [1, 2, 3],
      splitKey twoDeviceRuntime i = splitKey twoDeviceRuntime j → i = j := by
    decide +kernel
  exact hkeys i hi j hj h

section TwoDevices

variable {rt : Runtime} {policy : ModelPartitionPolicy} {roundPlan : RoundPlan}
  {normalized : NormalizedPartitionRequest} {intent : PartitionIntent} {exclusions : Exclusions}

/-- The key of a candidate on both devices. -/
theorem candidateKey_eq_splitKey {s : List ℕ} {c : PartitionCandidate} {i : ℕ} (hs : s = [i])
    (hsplit : Split roundPlan normalized intent exclusions s)
    (hbuilds : Builds rt policy roundPlan normalized intent exclusions s c)
    (hsurvivors : survivors roundPlan exclusions = ["a", "b"])
    (hversion : intent.strategyVersion = "inference-partition-v1:1") :
    candidateKey rt intent.strategyVersion c = splitKey rt i := by
  obtain ⟨hids, hdevices⟩ := hbuilds.layout hsplit
  rw [hsurvivors] at hids hdevices
  have hpoints : c.splitPoints = [(i : ℤ)] := by
    rw [hbuilds.spec.1, hs]
    rfl
  obtain ⟨p, q, hpartitions⟩ : ∃ p q, c.partitions = [p, q] :=
    List.length_eq_two.1 (by simpa using congrArg List.length hdevices)
  rw [hpartitions] at hids hdevices
  obtain ⟨hp, hq⟩ : p.partitionId = "partition-1" ∧ q.partitionId = "partition-2" := by
    have hnames : (List.range ["a", "b"].length).map partitionName = ["partition-1", "partition-2"] := by
      decide +kernel
    rw [hnames] at hids
    simpa using hids
  obtain ⟨hdp, hdq⟩ : p.deviceId = "a" ∧ q.deviceId = "b" := by simpa using hdevices
  unfold candidateKey splitKey
  rw [hpoints, hpartitions, hversion]
  simp [Json.ofList, hp, hq, hdp, hdq]

/-- **The keys of the splits of four layers on two devices are distinct**, whatever is left out. -/
theorem keysDistinct_twoDevices
    (hdigest : ∀ boundary ∈ [1, 2, 3], splitKey rt boundary = splitKey twoDeviceRuntime boundary)
    (hparticipants : roundPlan.participants = ["a", "b"]) (hlayers : roundPlan.layers.length = 4)
    (hversion : intent.strategyVersion = "inference-partition-v1:1") :
    KeysDistinct rt policy roundPlan normalized intent exclusions := by
  intro s t c d hs ht hc hd hkey
  have hsublist : (survivors roundPlan exclusions).Sublist ["a", "b"] := by
    rw [← hparticipants]
    exact List.filter_sublist
  have hs' := hs.length
  have ht' := ht.length
  rcases Nat.lt_or_ge (survivors roundPlan exclusions).length 2 with hfew | htwo
  · obtain rfl := List.length_eq_zero_iff.1 (show s.length = 0 by omega)
    exact (List.length_eq_zero_iff.1 (show t.length = 0 by omega)).symm
  · have hsurvivors : survivors roundPlan exclusions = ["a", "b"] :=
      hsublist.eq_of_length_le htwo
    rw [hsurvivors] at hs' ht'
    obtain ⟨i, hi⟩ := List.length_eq_one_iff.1 (show s.length = 1 from by simpa using hs')
    obtain ⟨j, hj⟩ := List.length_eq_one_iff.1 (show t.length = 1 from by simpa using ht')
    rw [candidateKey_eq_splitKey hi hs hc hsurvivors hversion,
      candidateKey_eq_splitKey hj ht hd hsurvivors hversion] at hkey
    have hbounds : ∀ {u : List ℕ} {k : ℕ}, u = [k] →
        Split roundPlan normalized intent exclusions u → (k : ℤ) ∈ ([1, 2, 3] : List ℤ) := by
      rintro u k rfl hu
      obtain ⟨hlow, hhigh⟩ := hu.interior k (by simp)
      simp only [List.mem_cons, List.not_mem_nil, or_false]
      omega
    rw [hdigest _ (hbounds hi hs), hdigest _ (hbounds hj ht)] at hkey
    have hij := splitKey_injective (hbounds hi hs) (hbounds hj ht) hkey
    rw [hi, hj, Int.ofNat_inj.1 hij]

end TwoDevices

theorem exists_twoDeviceIntent : ∃ intent,
    twoDeviceStrategy.buildPartitionIntent twoDeviceRuntime twoDeviceNormalized = .ok intent ∧
      intent.strategyId = "inference-partition-v1" ∧
      intent.strategyVersion = "inference-partition-v1:1" :=
  ⟨_, rfl, rfl, rfl⟩

/-- The candidates of a model on two devices are in range. -/
theorem inRange_twoDevices {intent : PartitionIntent} :
    InRange twoDeviceRuntime latencyPolicy twoDeviceNormalized.roundPlan twoDeviceNormalized intent
      .none := by
  have hlimit : ∀ {n : ℤ}, (n : ℚ) ≤ 2 ^ 53 - 1 → (n : ℚ) < Binary64.limit := by
    intro n hn
    refine (hn.trans ?_).trans_lt Binary64.largest_lt_limit
    exact le_mul_of_one_le_right (by norm_num) (one_le_zpow₀ one_le_two (by norm_num))
  refine inRange_of_bytes checked_latencyPolicy (by decide) (by decide)
    (fun h => absurd h (by decide)) ?_ (hlimit ?_)
  · intro d hd
    have hsmall : ∀ d ∈ twoDeviceNormalized.roundPlan.devices, d.memoryAvailableBytes ≤ 10 := by
      decide
    refine hlimit ((show (d.memoryAvailableBytes : ℚ) ≤ 10 by exact_mod_cast hsmall d hd).trans ?_)
    norm_num
  · have htotal : 3 * (twoDeviceNormalized.roundPlan.layers.length *
        totalBytes twoDeviceNormalized.roundPlan.layers) = 144 := by
      decide
    rw [htotal]
    norm_num

/-- What is planned for two devices: with its valid alternative and the split that does not fit. -/
theorem selected_twoDevices : ((do
    let intent ← twoDeviceStrategy.buildPartitionIntent twoDeviceRuntime twoDeviceNormalized
    let p ← plan twoDeviceRuntime latencyPolicy "plan" twoDeviceNormalized.roundPlan .none
      twoDeviceNormalized intent
    return (p.selectedCandidate.map (·.splitPoints),
      p.alternativeCandidates.map fun c => (c.splitPoints, c.valid))) :
      Except PartitionError _) = .ok (some [3], [([2], true), ([1], false)]) := by
  decide +kernel

/-- **The plan for two devices is optimal**: of the three splits one does not fit, and the faster of
the other two is selected. -/
theorem plan_twoDevices : ∃ intent p,
    twoDeviceStrategy.buildPartitionIntent twoDeviceRuntime twoDeviceNormalized = .ok intent ∧
    plan twoDeviceRuntime latencyPolicy "plan" twoDeviceNormalized.roundPlan .none
      twoDeviceNormalized intent = .ok p ∧
    Optimal twoDeviceRuntime latencyPolicy twoDeviceNormalized.roundPlan twoDeviceNormalized intent
      .none p ∧
    p.selectedCandidate.map (·.splitPoints) = some [3] ∧
    p.alternativeCandidates.map (fun c => (c.splitPoints, c.valid)) = [([2], true), ([1], false)] := by
  obtain ⟨intent, hintent, hid, hversion⟩ := exists_twoDeviceIntent
  have hfull : intent.strategyId ≠ "federated-full-model-v1" := by
    rw [hid]
    decide
  obtain ⟨p, hp, hoptimal⟩ := (plan_optimal "plan" .none checked_latencyPolicy
    process_twoDeviceRequest hintent hfull (keysDistinct_twoDevices (fun _ _ => rfl) rfl rfl hversion)).1
      (by decide) inRange_twoDevices
  have hselected := selected_twoDevices
  rw [hintent] at hselected
  simp only [bind, Except.bind, hp] at hselected
  obtain ⟨hfirst, hrest⟩ := Prod.mk.inj (Except.ok.inj hselected)
  exact ⟨intent, p, hintent, hp, hoptimal, hfirst, hrest⟩

/-! ### One participant left -/

/-- The device that is left holds the whole model. -/
theorem sole_candidate : ∃ c, buildCandidate twoDeviceRuntime latencyPolicy
    twoDeviceNormalized.roundPlan ["a"] [] ⟨["b"], [], [], []⟩ none = .ok c ∧
      c.rejectionReasons = [] := by
  have hreasons : (buildCandidate twoDeviceRuntime latencyPolicy twoDeviceNormalized.roundPlan ["a"]
      [] ⟨["b"], [], [], []⟩ none).map (·.rejectionReasons) = .ok [] := by
    decide +kernel
  rcases hc : buildCandidate twoDeviceRuntime latencyPolicy twoDeviceNormalized.roundPlan ["a"] []
    ⟨["b"], [], [], []⟩ none with e | c
  · rw [hc] at hreasons
    cases hreasons
  · rw [hc] at hreasons
    exact ⟨c, rfl, Except.ok.inj hreasons⟩

/-- **With one participant left the plan is refused, although its candidate is feasible.** -/
theorem sole_survivor_refused : ¬∀ rt policy planId request normalized strategy intent exclusions,
    PartitionCommonProcessor.process rt request = .ok normalized →
    PartitionStrategy.buildPartitionIntent rt normalized strategy = .ok intent →
    intent.strategyId ≠ "federated-full-model-v1" →
    KeysDistinct rt policy normalized.roundPlan normalized intent exclusions →
    ∃ p, plan rt policy planId normalized.roundPlan exclusions normalized intent = .ok p ∧
      (p.valid = true ↔
        ∃ c, Feasible rt policy normalized.roundPlan normalized intent exclusions c) := by
  intro h
  obtain ⟨intent, hintent, hid, hversion⟩ := exists_twoDeviceIntent
  have hfull : intent.strategyId ≠ "federated-full-model-v1" := by
    rw [hid]
    decide
  obtain ⟨p, hp, hvalid⟩ := h twoDeviceRuntime latencyPolicy "plan" twoDeviceRequest _ _ intent
    ⟨["b"], [], [], []⟩ process_twoDeviceRequest hintent hfull
    (keysDistinct_twoDevices (fun _ _ => rfl) rfl rfl hversion)
  rw [plan_of_few_survivors hfull (by decide)] at hp
  obtain rfl := Except.ok.inj hp
  obtain ⟨c, hc, hreasons⟩ := sole_candidate
  have hsplit : Split twoDeviceNormalized.roundPlan twoDeviceNormalized intent
      ⟨["b"], [], [], []⟩ [] :=
    ⟨.nil, by simp, by decide, by simp [Considered]⟩
  have hfeasible := hvalid.2 ⟨c, [], hsplit, hc, hreasons⟩
  cases hfeasible

end ModelPartitionOrchestrationAgent

end Partition
end AiopsK8s
