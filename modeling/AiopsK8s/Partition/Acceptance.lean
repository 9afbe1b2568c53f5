/-
# What an accepted plan satisfies

A plan is accepted when no rule of the validator reports an error (`accepts_iff`).

The search for a cycle ends on every graph and finds a cycle exactly where there is one, so the
execution graph of an accepted plan is acyclic (`acyclic`).

The rule on the transfers compares the limit with the total that the candidate states.  What its
edges carry between devices stays below the limit only where the limit does not lie between the
stated total and what is carried (`transfers_within_limit_iff`).
-/

import AiopsK8s.Partition.Validator
import Mathlib.Data.List.Dedup

namespace AiopsK8s
namespace Partition
namespace PartitionPlanValidator

open Effect Relation

section Rules

variable {p : Prop} [Decidable p] {error : String} {errors rules : List String}

@[simp] theorem failing_eq_nil : failing p error = [] ↔ ¬p := by
  unfold failing
  split_ifs with h <;> simp [h]

@[simp] theorem result_valid : (result errors rules).valid = true ↔ errors = [] := by
  cases errors with
  | nil => simp [result]
  | cons error errors => simp [result, List.eraseDups_cons]

@[simp] theorem result_errors_eq_nil : (result errors rules).errors = [] ↔ errors = [] := by
  cases errors with
  | nil => simp [result]
  | cons error errors => simp [result, List.eraseDups_cons]

end Rules

/-- The constraints of a request. -/
def ValidationRequest.constraints : ValidationRequest → PartitionConstraints
  | legacy roundPlan => roundPlan.constraints
  | v2 request => request.plan.constraints

/-- The validator accepts a plan. -/
def Accepts (rt : Runtime) (registry : PartitionStrategyRegistry) (request : ValidationRequest)
    (plan : PartitionExecutionPlan) : Prop :=
  ∃ r, validate rt registry request plan = .ok r ∧ r.valid = true

/-- Every rule but the one on the transfers holds of a plan and its candidate. -/
def PassesOtherRules (rt : Runtime) (registry : PartitionStrategyRegistry) :
    ValidationRequest → PartitionExecutionPlan → PartitionCandidate → Prop
  | .legacy roundPlan, plan, selected =>
      identityErrors roundPlan.toRoundPlan plan = [] ∧
        candidateErrors roundPlan.toRoundPlan plan selected = .ok []
  | .v2 request, plan, selected =>
      ∃ normalized, PartitionCommonProcessor.process rt request = .ok normalized ∧
        identityErrors normalized.roundPlan plan = [] ∧
        candidateErrors normalized.roundPlan plan selected = .ok [] ∧
        v2Errors rt registry request normalized plan = .ok []

variable {rt : Runtime} {registry : PartitionStrategyRegistry} {request : ValidationRequest}
  {plan : PartitionExecutionPlan} {selected : PartitionCandidate}

theorem legacyErrors_eq_nil {roundPlan : RoundPlan} :
    legacyErrors roundPlan plan = .ok [] ↔
      ∃ selected, plan.selectedCandidate = some selected ∧ identityErrors roundPlan plan = [] ∧
        candidateErrors roundPlan plan selected = .ok [] ∧
        transferErrors roundPlan.constraints selected = [] := by
  unfold legacyErrors
  cases plan.selectedCandidate with
  | none => simp
  | some selected =>
      rcases hc : candidateErrors roundPlan plan selected with e | errors
      · simp [hc, bind, Except.bind]
      · simp [hc, bind, Except.bind, pure, Except.pure]

theorem validateLegacy_valid {roundPlan : RoundPlan} :
    (∃ r, validateLegacy roundPlan plan = .ok r ∧ r.valid = true) ↔
      legacyErrors roundPlan plan = .ok [] := by
  unfold validateLegacy
  rcases legacyErrors roundPlan plan with e | errors
  · simp [bind, Except.bind]
  · simp [bind, Except.bind, pure, Except.pure]

theorem validateV2_valid {request : PartitionPlanningRequest} :
    (∃ r, validateV2 rt registry request plan = .ok r ∧ r.valid = true) ↔
      ∃ normalized, PartitionCommonProcessor.process rt request = .ok normalized ∧
        legacyErrors normalized.roundPlan plan = .ok [] ∧
        v2Errors rt registry request normalized plan = .ok [] := by
  unfold validateV2
  rcases PartitionCommonProcessor.process rt request with e | normalized
  · cases e <;> simp
  · simp only [Except.ok.injEq, exists_eq_left', validateLegacy]
    rcases legacyErrors normalized.roundPlan plan with e | errors
    · simp [bind, Except.bind]
    · rcases v2Errors rt registry request normalized plan with e | errors'
      · simp [bind, Except.bind, pure, Except.pure]
      · simp [bind, Except.bind, pure, Except.pure]

/-- **A plan is accepted exactly when every rule holds of its candidate.** -/
theorem accepts_iff : Accepts rt registry request plan ↔
    ∃ selected, plan.selectedCandidate = some selected ∧
      PassesOtherRules rt registry request plan selected ∧
      transferErrors request.constraints selected = [] := by
  cases request with
  | legacy roundPlan =>
      rw [Accepts, validate, validateLegacy_valid, legacyErrors_eq_nil]
      simp only [PassesOtherRules, and_assoc]
      rfl
  | v2 request =>
      rw [Accepts, validate, validateV2_valid]
      constructor
      · rintro ⟨normalized, hprocess, hlegacy, hv2⟩
        obtain ⟨selected, hselected, hidentity, hcandidate, htransfer⟩ :=
          legacyErrors_eq_nil.1 hlegacy
        have hconstraints : normalized.roundPlan.constraints =
            (ValidationRequest.v2 request).constraints :=
          (PartitionCommonProcessor.process_eq_ok hprocess).2.2.2.2.2.1
        exact ⟨selected, hselected, ⟨normalized, hprocess, hidentity, hcandidate, hv2⟩,
          hconstraints ▸ htransfer⟩
      · rintro ⟨selected, hselected, ⟨normalized, hprocess, hidentity, hcandidate, hv2⟩, htransfer⟩
        have hconstraints : normalized.roundPlan.constraints =
            (ValidationRequest.v2 request).constraints :=
          (PartitionCommonProcessor.process_eq_ok hprocess).2.2.2.2.2.1
        refine ⟨normalized, hprocess, legacyErrors_eq_nil.2 ?_, hv2⟩
        exact ⟨selected, hselected, hidentity, hcandidate, hconstraints ▸ htransfer⟩

/-- The candidate of an accepted plan, with the round plan that it was checked against. -/
theorem Accepts.candidateErrors_eq (h : Accepts rt registry request plan)
    (hselected : plan.selectedCandidate = some selected) :
    ∃ roundPlan, candidateErrors roundPlan plan selected = .ok [] := by
  obtain ⟨selected', hselected', hpasses, -⟩ := accepts_iff.1 h
  obtain rfl : selected' = selected := Option.some.inj (hselected'.symm.trans hselected)
  cases request with
  | legacy roundPlan => exact ⟨_, hpasses.2⟩
  | v2 request =>
      obtain ⟨normalized, -, -, hcandidate, -⟩ := hpasses
      exact ⟨_, hcandidate⟩

/-- The rules that hold of a candidate. -/
theorem candidateErrors_eq_nil {roundPlan : RoundPlan} :
    candidateErrors roundPlan plan selected = .ok [] ↔
      (∃ errors, selected.partitions.mapM (partitionErrors roundPlan) = .ok errors ∧
        errors.flatten = []) ∧
      (plan.valid = true ∧ selected.valid = true) ∧ coverageErrors roundPlan plan selected = [] ∧
      (selected.partitions.map (·.partitionId)).Nodup ∧ nodeErrors plan selected = [] ∧
      (∀ edge ∈ selected.graphEdges, edgeErrors roundPlan plan selected edge = []) ∧
      (isTrainingPlan plan = true → trainingGraphErrors plan.approvedExecutionMode selected = []) ∧
      hasCycle (adjacency selected) ≠ some true ∧
      latencyErrors roundPlan.constraints.maxEndToEndLatencyMs selected = [] := by
  unfold candidateErrors
  rcases selected.partitions.mapM (partitionErrors roundPlan) with e | errors
  · simp [bind, Except.bind]
  · simp [bind, Except.bind, pure, Except.pure]
    tauto

/-! ### The execution graph -/

/-- An edge of an execution graph. -/
def GraphEdge (selected : PartitionCandidate) (a b : String) : Prop :=
  ∃ edge ∈ selected.graphEdges, edge.sourcePartition = a ∧ edge.targetPartition = b

/-- The successors of a node. -/
def successors (adjacency : List (String × List String)) (node : String) : List String :=
  (adjacency.lookup node).getD []

/-- Every successor is a node. -/
def Closed (adjacency : List (String × List String)) : Prop :=
  ∀ node ∈ adjacency.map Prod.fst, ∀ target ∈ successors adjacency node,
    target ∈ adjacency.map Prod.fst

theorem successors_of_unknown {adjacency : List (String × List String)} {node : String}
    (h : node ∉ adjacency.map Prod.fst) : successors adjacency node = [] := by
  rw [successors, Dict.lookup_eq_none.2 h]
  rfl

/-- **The search ends and finds a cycle exactly where there is one.** -/
theorem hasCycle_iff {adjacency : List (String × List String)} (h : Closed adjacency) :
    ∃ found, hasCycle adjacency = some found ∧
      (found = true ↔ Dfs.Cyclic (successors adjacency)) :=
  Dfs.hasCycle_spec h fun _ => successors_of_unknown

/-- The successors that the validator enters for a node. -/
theorem mem_successors_adjacency {a b : String} :
    b ∈ successors (adjacency selected) a ↔
      ∃ edge ∈ selected.graphEdges, EdgeKnown selected edge ∧ edge.sourcePartition = a ∧
        edge.targetPartition = b := by
  rw [successors, adjacency, Dict.lookup_map_self]
  simp only [List.mem_dedup]
  constructor
  · intro hb
    split_ifs at hb with ha
    · obtain ⟨edge, hedge, rfl⟩ := List.mem_map.1 hb
      obtain ⟨hmem, hknown⟩ := List.mem_filter.1 hedge
      rw [decide_eq_true_iff] at hknown
      exact ⟨edge, hmem, hknown.1, hknown.2, rfl⟩
    · exact absurd hb List.not_mem_nil
  · rintro ⟨edge, hmem, hknown, rfl, rfl⟩
    rw [if_pos hknown.1]
    refine List.mem_map.2 ⟨edge, List.mem_filter.2 ⟨hmem, ?_⟩, rfl⟩
    rw [decide_eq_true_iff]
    exact ⟨hknown, rfl⟩

theorem keys_adjacency : (adjacency selected).map Prod.fst = (nodeIds selected).dedup := by
  simp [adjacency, Function.comp_def]

theorem closed_adjacency (selected : PartitionCandidate) : Closed (adjacency selected) := by
  intro node _ target htarget
  obtain ⟨edge, -, hknown, -, rfl⟩ := mem_successors_adjacency.1 htarget
  rw [keys_adjacency, List.mem_dedup]
  exact hknown.2

/-- Every edge of an accepted candidate joins two of its nodes. -/
theorem edgeKnown_of_errors {roundPlan : RoundPlan} {edge : ExecutionGraphEdge}
    (h : edgeErrors roundPlan plan selected edge = []) : EdgeKnown selected edge := by
  by_contra hunknown
  rw [edgeErrors, if_pos hunknown] at h
  cases h

/-- **The execution graph of an accepted plan has no cycle.** -/
theorem acyclic_of_accepts (h : Accepts rt registry request plan)
    (hselected : plan.selectedCandidate = some selected) (node : String) :
    ¬TransGen (GraphEdge selected) node node := by
  obtain ⟨roundPlan, hcandidate⟩ := h.candidateErrors_eq hselected
  obtain ⟨-, -, -, -, -, hedges, -, hcycle, -⟩ := candidateErrors_eq_nil.1 hcandidate
  obtain ⟨found, hfound, hiff⟩ := hasCycle_iff (closed_adjacency selected)
  intro hpath
  have hsub : ∀ a b, GraphEdge selected a b → Dfs.Edge (successors (adjacency selected)) a b := by
    rintro a b ⟨edge, hmem, ha, hb⟩
    exact mem_successors_adjacency.2
      ⟨edge, hmem, edgeKnown_of_errors (hedges edge hmem), ha, hb⟩
  have hcyclic : Dfs.Cyclic (successors (adjacency selected)) :=
    ⟨node, TransGen.mono hsub node node hpath⟩
  rw [hfound, hiff.2 hcyclic] at hcycle
  exact hcycle rfl

/-- Two ways to list the same graph. -/
def SameGraph (adjacency adjacency' : List (String × List String)) : Prop :=
  ∀ node, SameElements (successors adjacency node) (successors adjacency' node)

/-- The order in which nodes and successors are listed does not matter. -/
theorem hasCycle_eq_of_sameGraph {adjacency adjacency' : List (String × List String)}
    (h : Closed adjacency) (h' : Closed adjacency') (hsame : SameGraph adjacency adjacency') :
    hasCycle adjacency = hasCycle adjacency' := by
  obtain ⟨found, hfound, hiff⟩ := hasCycle_iff h
  obtain ⟨found', hfound', hiff'⟩ := hasCycle_iff h'
  have hedge : Dfs.Edge (successors adjacency) = Dfs.Edge (successors adjacency') := by
    funext a b
    exact propext ⟨fun hb => (hsame a).1 hb, fun hb => (hsame a).2 hb⟩
  have hcyclic : found = true ↔ found' = true := by
    rw [hiff, hiff', Dfs.Cyclic, Dfs.Cyclic, hedge]
  rw [hfound, hfound', Bool.eq_iff_iff.2 hcyclic]

/-- **The search for a cycle** ends on every closed graph, finds a cycle exactly where a node
reaches itself, does not depend on the order of nodes and successors, and so accepts no plan whose
execution graph has a cycle. -/
theorem cycle_search (rt : Runtime) (registry : PartitionStrategyRegistry) :
    (∀ adjacency, Closed adjacency → ∃ found, hasCycle adjacency = some found ∧
      (found = true ↔ ∃ node, TransGen (fun a b => b ∈ successors adjacency a) node node)) ∧
    (∀ adjacency adjacency', Closed adjacency → Closed adjacency' →
      SameGraph adjacency adjacency' → hasCycle adjacency = hasCycle adjacency') ∧
    ∀ request plan selected, Accepts rt registry request plan →
      plan.selectedCandidate = some selected →
      ∀ node, ¬TransGen (GraphEdge selected) node node := by
  refine ⟨fun adjacency h => hasCycle_iff h, fun _ _ h h' hsame => ?_, fun _ _ _ h hselected => ?_⟩
  · exact hasCycle_eq_of_sameGraph h h' hsame
  · exact acyclic_of_accepts h hselected

/-! ### The transfers -/

/-- The device of a node of the graph. -/
def deviceOf (selected : PartitionCandidate) (node : String) : Option String :=
  (selected.graphNodes.find? (·.partitionId = node)).map (·.deviceId)

/-- What the edges between different devices carry. -/
def crossDeviceBytes (selected : PartitionCandidate) : ℤ :=
  ((selected.graphEdges.filter fun edge =>
    deviceOf selected edge.sourcePartition ≠ deviceOf selected edge.targetPartition).map
      (·.transferBytes)).sum

theorem transferErrors_eq_nil {constraints : PartitionConstraints} :
    transferErrors constraints selected = [] ↔
      ∀ limit ∈ constraints.maxTransferBytes, selected.totalTransferBytes ≤ limit := by
  unfold transferErrors
  cases constraints.maxTransferBytes <;> simp

/-- **What an accepted plan carries between devices is within the limit** exactly where the limit
does not lie between the total that the candidate states and what its edges carry. -/
theorem transfers_within_limit_iff (rt : Runtime) (registry : PartitionStrategyRegistry)
    (request : ValidationRequest) (plan : PartitionExecutionPlan) :
    (Accepts rt registry request plan → ∀ limit ∈ request.constraints.maxTransferBytes,
      ∀ selected ∈ plan.selectedCandidate, crossDeviceBytes selected ≤ limit) ↔
    ∀ limit ∈ request.constraints.maxTransferBytes, ∀ selected ∈ plan.selectedCandidate,
      PassesOtherRules rt registry request plan selected →
      limit < selected.totalTransferBytes ∨ crossDeviceBytes selected ≤ limit := by
  constructor
  · intro h limit hlimit selected hselected hpasses
    by_cases hstated : limit < selected.totalTransferBytes
    · exact .inl hstated
    · refine .inr (h (accepts_iff.2 ⟨selected, hselected, hpasses, ?_⟩) limit hlimit selected hselected)
      refine transferErrors_eq_nil.2 fun limit' hlimit' => ?_
      obtain rfl : limit = limit' := Option.some.inj (hlimit.symm.trans hlimit')
      exact not_lt.1 hstated
  · intro h haccepts limit hlimit selected hselected
    obtain ⟨selected', hselected', hpasses, htransfer⟩ := accepts_iff.1 haccepts
    obtain rfl : selected' = selected := Option.some.inj (hselected'.symm.trans hselected)
    rcases h limit hlimit selected' hselected hpasses with hstated | hwithin
    · exact absurd (transferErrors_eq_nil.1 htransfer limit hlimit) (not_le.2 hstated)
    · exact hwithin

/-- The conversions for a round plan, for which the validator computes no digest. -/
def constantRuntime : Runtime where
  toPython := Python.ascii
  canonicalJson _ := ""
  sha256 _ := "0000000000000000000000000000000000000000000000000000000000000000"
  sha256_hex _ := isHexDigest_of_all (by decide) (by decide)
  formatG _ := ""
  intOfText _ := none
  reprTuple _ := ""
  summation := .leftToRight
  sorter := .insertion

theorem proper_gpu : Text.Proper "gpu" := by decide
theorem proper_a : Text.Proper "a" := by decide
theorem proper_b : Text.Proper "b" := by decide
theorem proper_job : Text.Proper "job" := by decide
theorem proper_model : Text.Proper "model" := by decide
theorem proper_operator : Text.Proper "operator" := by decide
theorem proper_ticket : Text.Proper "ticket" := by decide
theorem proper_embedding : Text.Proper "embedding" := by decide
theorem proper_head : Text.Proper "head" := by decide
theorem proper_splitInference : Text.Proper "split_inference" := by decide
theorem proper_participants : ∀ p ∈ ["a", "b"], Text.Proper p := by decide
theorem one_le_ten : (1 : ℤ) ≤ 10 := by decide
theorem ten_nonneg : (0 : ℤ) ≤ 10 := by decide
theorem ten_le_ten : (10 : ℤ) ≤ 10 := by decide
theorem latency_nonneg : (0 : ℚ) ≤ 1 := by norm_num
theorem headroom_nonneg : (0 : ℚ) ≤ 0 := by norm_num
theorem headroom_lt_one : (0 : ℚ) < 1 := by norm_num
theorem no_latency_limit : ∀ l ∈ (none : Option ℚ), 1 / 1000000 ≤ l := by simp
theorem ten_byte_limit : ∀ b ∈ some (10 : ℤ), 1 ≤ b := by simp

/-- A layer of a byte each. -/
def byteLayer (name : String) (h : Text.Proper name) : ModelLayer :=
  ⟨name, 1, 1, 1, 1, h, ModelBlock.one_ge_millionth, Int.one_nonneg, Int.one_nonneg,
    Int.one_nonneg⟩

/-- A device of ten bytes. -/
def tenByteDevice (name : String) (h : Text.Proper name) : ResourceDevice :=
  ⟨name, "gpu", 1, 10, 10, h, proper_gpu, ModelBlock.one_ge_millionth, one_le_ten, ten_nonneg,
    ten_le_ten⟩

/-- Two layers on two devices, with ten bytes between them at most. -/
def tenByteRoundPlan : FederatedRoundPlan where
  jobId := "job"
  modelId := "model"
  executionMode := ⟨"split_inference", true, "operator", "ticket", proper_splitInference, rfl,
    proper_operator, proper_ticket⟩
  layers := [byteLayer "embedding" proper_embedding, byteLayer "head" proper_head]
  participants := ["a", "b"]
  devices := [tenByteDevice "a" proper_a, tenByteDevice "b" proper_b]
  networkLinks := [⟨"a", "b", 1, 1, proper_a, proper_b, ModelBlock.one_ge_millionth, latency_nonneg⟩]
  constraints := ⟨none, some 10, 0, no_latency_limit, ten_byte_limit, headroom_nonneg,
    headroom_lt_one⟩
  jobId_proper := proper_job
  modelId_proper := proper_model
  participants_proper := proper_participants

/-- A candidate whose edge carries more than it states in total. -/
def understatedFigures : PartitionCandidate ℚ where
  splitPoints := [1]
  partitions := [⟨"partition-1", "a", ["embedding"], 1, 3⟩,
    ⟨"partition-2", "b", ["head"], 1, 3⟩]
  graphNodes := [⟨"partition-1", "a"⟩, ⟨"partition-2", "b"⟩]
  graphEdges := [⟨"partition-1", "partition-2", 1000, 1, "forward"⟩]
  estimatedComputeMs := 0
  estimatedTransferMs := 1
  estimatedTotalLatencyMs := 1
  totalTransferBytes := 0
  maximumMemoryPressure := 0
  valid := true
  rejectionReasons := []
  score := 0
  estimatedStepTimeMs := 0
  gradientTransferBytes := 0
  maximumLoadImbalance := 0
  predictedResilienceRisk := 0

/-- The candidate, with floats. -/
def understatedCandidate : PartitionCandidate := understatedFigures.map .finite

/-- The plan that selects it. -/
def understatedPlan : PartitionExecutionPlan :=
  { PartitionExecutionPlan.legacy "plan" "job" "model" "split_inference" "1" with
    selectedCandidate := some understatedCandidate
    valid := true }

theorem legacyErrors_understatedPlan :
    legacyErrors tenByteRoundPlan.toRoundPlan understatedPlan = .ok [] := by
  decide +kernel

/-- **A plan that carries a thousand bytes over a limit of ten is accepted.** -/
theorem understated_accepted : ¬∀ rt registry request plan, Accepts rt registry request plan →
    ∀ limit ∈ request.constraints.maxTransferBytes, ∀ selected ∈ plan.selectedCandidate,
      crossDeviceBytes selected ≤ limit := by
  intro h
  have haccepts : Accepts constantRuntime ⟨[]⟩ (.legacy tenByteRoundPlan) understatedPlan :=
    validateLegacy_valid.2 legacyErrors_understatedPlan
  have hwithin : crossDeviceBytes understatedCandidate ≤ 10 :=
    h _ _ _ _ haccepts 10 rfl understatedCandidate rfl
  have hcarried : crossDeviceBytes understatedCandidate = 1000 := by decide +kernel
  rw [hcarried] at hwithin
  exact absurd hwithin (by decide)

end PartitionPlanValidator

end Partition
end AiopsK8s
