/-
# The figures of a candidate

The estimates of the planner are floats that are computed from figures which are not negative.  A
time, a share of memory and a number of bytes stay so, and may be infinite where the figures of a
request are large (`figures_place`, `figures_hop`).  The imbalance and the risk of a training candidate
are quotients of times: where a time is infinite they are not a number, and neither is the score.  So
no figure of a candidate is negative, and the score of an inference candidate is a number
(`figures_buildCandidate`).
-/

import AiopsK8s.Partition.Agent

namespace AiopsK8s
namespace Partition

open Effect

/-- What `ModelPartitionPolicy.from_dict` checks of the figures that planning reads. -/
structure ModelPartitionPolicy.Checked (policy : ModelPartitionPolicy) : Prop where
  version : Text.Proper policy.version
  latencyWeight : 0 ≤ policy.latencyWeight
  memoryPressureWeight : 0 ≤ policy.memoryPressureWeight
  communicationWeight : 0 ≤ policy.communicationWeight
  latencyReferenceMs : 0 < policy.latencyReferenceMs
  transferReferenceBytes : 0 < policy.transferReferenceBytes

/-- The figures of a candidate have a property. -/
structure PartitionCandidate.Figures (P : PyFloat → Prop) (c : PartitionCandidate) : Prop where
  computeUnits : ∀ p ∈ c.partitions, P p.computeUnits
  edgeTransferMs : ∀ e ∈ c.graphEdges, P e.estimatedTransferMs
  estimatedComputeMs : P c.estimatedComputeMs
  estimatedTransferMs : P c.estimatedTransferMs
  estimatedTotalLatencyMs : P c.estimatedTotalLatencyMs
  maximumMemoryPressure : P c.maximumMemoryPressure
  score : P c.score
  estimatedStepTimeMs : P c.estimatedStepTimeMs
  maximumLoadImbalance : P c.maximumLoadImbalance
  predictedResilienceRisk : P c.predictedResilienceRisk

theorem PartitionCandidate.Figures.imp {P Q : PyFloat → Prop} {c : PartitionCandidate}
    (h : c.Figures P) (hPQ : ∀ x, P x → Q x) : c.Figures Q :=
  ⟨fun p hp => hPQ _ (h.computeUnits p hp), fun e he => hPQ _ (h.edgeTransferMs e he),
    hPQ _ h.estimatedComputeMs, hPQ _ h.estimatedTransferMs, hPQ _ h.estimatedTotalLatencyMs,
    hPQ _ h.maximumMemoryPressure, hPQ _ h.score, hPQ _ h.estimatedStepTimeMs,
    hPQ _ h.maximumLoadImbalance, hPQ _ h.predictedResilienceRisk⟩

theorem PartitionCandidate.Figures.and {P Q : PyFloat → Prop} {c : PartitionCandidate}
    (hP : c.Figures P) (hQ : c.Figures Q) : c.Figures fun x => P x ∧ Q x :=
  ⟨fun p hp => ⟨hP.computeUnits p hp, hQ.computeUnits p hp⟩,
    fun e he => ⟨hP.edgeTransferMs e he, hQ.edgeTransferMs e he⟩,
    ⟨hP.estimatedComputeMs, hQ.estimatedComputeMs⟩, ⟨hP.estimatedTransferMs, hQ.estimatedTransferMs⟩,
    ⟨hP.estimatedTotalLatencyMs, hQ.estimatedTotalLatencyMs⟩,
    ⟨hP.maximumMemoryPressure, hQ.maximumMemoryPressure⟩, ⟨hP.score, hQ.score⟩,
    ⟨hP.estimatedStepTimeMs, hQ.estimatedStepTimeMs⟩,
    ⟨hP.maximumLoadImbalance, hQ.maximumLoadImbalance⟩,
    ⟨hP.predictedResilienceRisk, hQ.predictedResilienceRisk⟩⟩

/-- The figures of a candidate. -/
def PartitionCandidate.figures (c : PartitionCandidate) : List PyFloat :=
  c.partitions.map (·.computeUnits) ++ c.graphEdges.map (·.estimatedTransferMs) ++
    [c.estimatedComputeMs, c.estimatedTransferMs, c.estimatedTotalLatencyMs, c.maximumMemoryPressure,
      c.score, c.estimatedStepTimeMs, c.maximumLoadImbalance, c.predictedResilienceRisk]

theorem PartitionCandidate.figures_of_forall {P : PyFloat → Prop} {c : PartitionCandidate}
    (h : ∀ x ∈ c.figures, P x) : c.Figures P := by
  simp only [figures, List.forall_mem_append, List.forall_mem_map, List.forall_mem_cons] at h
  obtain ⟨⟨hunits, htransfer⟩, h₁, h₂, h₃, h₄, h₅, h₆, h₇, h₈, -⟩ := h
  exact ⟨hunits, htransfer, h₁, h₂, h₃, h₄, h₅, h₆, h₇, h₈⟩

namespace PartitionExecutionPlan

/-- The figures of the candidates of a plan have a property. -/
structure Figures (P : PyFloat → Prop) (p : PartitionExecutionPlan) : Prop where
  selectedCandidate : ∀ c ∈ p.selectedCandidate, c.Figures P
  alternativeCandidates : ∀ c ∈ p.alternativeCandidates, c.Figures P

/-- The figures of the candidates of a plan. -/
def figures (p : PartitionExecutionPlan) : List PyFloat :=
  (p.selectedCandidate.toList ++ p.alternativeCandidates).flatMap (·.figures)

variable {P Q : PyFloat → Prop} {p : PartitionExecutionPlan}

theorem figures_of_forall (h : ∀ x ∈ p.figures, P x) : p.Figures P := by
  have hcandidate : ∀ c ∈ p.selectedCandidate.toList ++ p.alternativeCandidates, c.Figures P :=
    fun c hc => PartitionCandidate.figures_of_forall fun x hx =>
      h x (List.mem_flatMap.2 ⟨c, hc, hx⟩)
  exact ⟨fun c hc => hcandidate c (List.mem_append_left _ (Option.mem_toList.2 hc)),
    fun c hc => hcandidate c (List.mem_append_right _ hc)⟩

theorem Figures.imp (h : p.Figures P) (hPQ : ∀ x, P x → Q x) : p.Figures Q :=
  ⟨fun c hc => (h.selectedCandidate c hc).imp hPQ, fun c hc => (h.alternativeCandidates c hc).imp hPQ⟩

theorem Figures.and (hP : p.Figures P) (hQ : p.Figures Q) : p.Figures fun x => P x ∧ Q x :=
  ⟨fun c hc => (hP.selectedCandidate c hc).and (hQ.selectedCandidate c hc),
    fun c hc => (hP.alternativeCandidates c hc).and (hQ.alternativeCandidates c hc)⟩

end PartitionExecutionPlan

namespace ModelPartitionOrchestrationAgent

open PyFloat

/-! ### The operations -/

section Operations

variable {values : List PyFloat} {x : PyFloat}

theorem nonneg_maxOrZero (h : ∀ v ∈ values, Nonneg v) : Nonneg (maxOrZero values) := by
  cases values with
  | nil => exact le_refl (0 : ℚ)
  | cons x values => exact Nonneg.maximum h

theorem nonneg_accumulate (h : ∀ v ∈ values, Nonneg v) : Nonneg (accumulate values) :=
  Summation.nonneg_foldl values (.finite 0) (le_refl (0 : ℚ)) h

theorem nonneg_sum {rt : Runtime} (h : ∀ v ∈ values, Nonneg v) : Nonneg (rt.summation.sum values) :=
  rt.summation.nonneg values h

theorem nonneg_milliseconds {rate : ℚ} (hx : Nonneg x) (hrate : 0 < rate) :
    Nonneg (milliseconds x rate) :=
  (hx.div_pos hrate).mul_pos (by norm_num)

theorem lt_maxOrZero_minOrZero (h : ∀ v ∈ values, Nonneg v) :
    lt (maxOrZero values) (minOrZero values) = false := by
  cases values with
  | nil => rfl
  | cons x values => exact lt_maximum_minimum fun v hv => (h v hv).ne_nan

theorem nonneg_minOrZero (h : ∀ v ∈ values, Nonneg v) : Nonneg (minOrZero values) := by
  cases values with
  | nil => exact le_refl (0 : ℚ)
  | cons x values => exact h _ (minimum_mem x values)

theorem notNeg_loadImbalance (h : ∀ v ∈ values, Nonneg v) : NotNeg (loadImbalance values) := by
  have hmax := nonneg_maxOrZero h
  unfold loadImbalance
  split_ifs
  · exact le_refl (0 : ℚ)
  · exact (notNeg_sub hmax (nonneg_minOrZero h) (lt_maxOrZero_minOrZero h)).div hmax.notNeg

/-- A figure that is held at zero from below. -/
theorem notNeg_maximum_zero (x : PyFloat) : NotNeg (maximum x [.finite 0]) := by
  rcases x with x | - | - | -
  · by_cases hlt : x < 0
    · simp [maximum, lt, hlt, NotNeg]
    · simp [maximum, lt, hlt, NotNeg, not_lt.1 hlt]
  · trivial
  · trivial
  · exact le_refl (0 : ℚ)

variable (rt : Runtime)

theorem notNeg_predictedResilienceRisk (values : List PyFloat) (participants : ℕ) :
    NotNeg (predictedResilienceRisk rt values participants) := by
  unfold predictedResilienceRisk
  by_cases h : values = [] ∨ participants = 0
  · rw [if_pos h]
    exact le_refl (0 : ℚ)
  · rw [if_neg h]
    exact NotNeg.minimum (List.forall_mem_cons.2 ⟨notNeg_maximum_zero _,
      List.forall_mem_singleton.2 (zero_le_one (α := ℚ))⟩)

end Operations

/-! ### Scores -/

section Scores

variable {policy : ModelPartitionPolicy} {latencyMs pressure imbalance risk x : PyFloat} {bytes : ℤ}
  {intent : PartitionIntent}

/-- The weights of an intent are not negative. -/
def Weighted (intent : PartitionIntent) : Prop := ∀ w ∈ intent.objectiveWeights, 0 ≤ w.2

theorem weightOf_nonneg {name : String} {weight : ℚ} (hweights : Weighted intent)
    (h : weightOf intent name = .ok weight) : 0 ≤ weight := by
  unfold weightOf at h
  split at h
  · cases h
  · rename_i found hfound
    obtain rfl := Except.ok.inj h
    exact hweights _ (Dict.mem_of_lookup_reverse ((Dict.lookup_ofEntries _ _).symm.trans hfound))

/-- A term of a score. -/
theorem nonneg_weighted_capped {weight : ℚ} (hweight : 0 ≤ weight) (hx : Nonneg x) :
    Nonneg (weighted weight (capped x)) := by
  obtain ⟨q, hq, hnonneg, -⟩ := hx.minimum_one
  unfold weighted capped
  rw [hq]
  exact nonneg_mul_finite hweight hnonneg

theorem notNeg_weighted {weight : ℚ} (hweight : 0 ≤ weight) (hx : NotNeg x) :
    NotNeg (weighted weight x) :=
  NotNeg.mul (x := .finite weight) hweight hx

theorem nonneg_intQuotient {n m : ℤ} (hn : 0 ≤ n) (h : intQuotient n m = .ok x) : Nonneg x := by
  unfold intQuotient at h
  split at h
  · cases h
  · rename_i quotient hquotient
    obtain rfl := Except.ok.inj h
    exact nonneg_ofQuotient hn hquotient

theorem nonneg_score (hpolicy : policy.Checked) (hlatency : Nonneg latencyMs)
    (hpressure : Nonneg pressure) (hbytes : 0 ≤ bytes)
    (h : score policy latencyMs pressure bytes = .ok x) : Nonneg x := by
  obtain ⟨communication, hcommunication, h⟩ := bind_eq_ok h
  obtain rfl := Except.ok.inj h
  exact (((nonneg_weighted_capped hpolicy.latencyWeight
    (hlatency.div_pos hpolicy.latencyReferenceMs)).add
      (nonneg_weighted_capped hpolicy.memoryPressureWeight hpressure)).add
        (nonneg_weighted_capped hpolicy.communicationWeight
          (nonneg_intQuotient hbytes hcommunication))).round6

theorem notNeg_scoreTraining (hpolicy : policy.Checked) (hweights : Weighted intent)
    (hlatency : Nonneg latencyMs) (himbalance : NotNeg imbalance) (hpressure : Nonneg pressure)
    (hbytes : 0 ≤ bytes) (hrisk : NotNeg risk)
    (h : scoreTraining policy latencyMs imbalance pressure bytes risk intent = .ok x) :
    NotNeg x := by
  obtain ⟨communication, hcommunication, h⟩ := bind_eq_ok h
  obtain ⟨step, hstep, h⟩ := bind_eq_ok h
  obtain ⟨balance, hbalance, h⟩ := bind_eq_ok h
  obtain ⟨memory, hmemory, h⟩ := bind_eq_ok h
  obtain ⟨transfer, htransfer, h⟩ := bind_eq_ok h
  obtain ⟨resilience, hresilience, h⟩ := bind_eq_ok h
  obtain rfl := Except.ok.inj h
  have h₁ := nonneg_weighted_capped (weightOf_nonneg hweights hstep)
    (hlatency.div_pos hpolicy.latencyReferenceMs)
  have h₂ := notNeg_weighted (weightOf_nonneg hweights hbalance) himbalance
  have h₃ := nonneg_weighted_capped (weightOf_nonneg hweights hmemory) hpressure
  have h₄ := nonneg_weighted_capped (weightOf_nonneg hweights htransfer)
    (nonneg_intQuotient hbytes hcommunication)
  have h₅ := notNeg_weighted (weightOf_nonneg hweights hresilience) hrisk
  exact ((((h₁.notNeg.add h₂).add h₃.notNeg).add h₄.notNeg).add h₅).round6

end Scores

/-! ### Placements and hops -/

section Parts

variable {rt : Runtime} {roundPlan : RoundPlan} {limits : List (String × ℤ)}
  {participants : List String} {runs : List (List ModelLayer)} {placed : List Placement}

/-- What is placed takes a number of units, of milliseconds and a share of memory. -/
structure Placement.Figures (placement : Placement) : Prop where
  computeUnits : Nonneg placement.partition.computeUnits
  computeMs : Nonneg placement.computeMs
  memoryPressure : Nonneg placement.memoryPressure

theorem memoryDemand_nonneg {layers : List ModelLayer} {demand : ℤ}
    (h : memoryDemand layers = .ok demand) : 0 ≤ demand := by
  unfold memoryDemand at h
  split at h
  · cases h
  · rename_i activation hactivation
    obtain rfl := Except.ok.inj h
    obtain ⟨layer, _, rfl⟩ := List.mem_map.1 (List.max?_eq_some_iff.1 hactivation).1
    have hparameters : 0 ≤ (layers.map (·.parameterBytes)).sum := by
      refine List.sum_nonneg fun x hx => ?_
      obtain ⟨l, _, rfl⟩ := List.mem_map.1 hx
      exact l.parameterBytes_nonneg
    have hworking : 0 ≤ (layers.map (·.workingMemoryBytes)).sum := by
      refine List.sum_nonneg fun x hx => ?_
      obtain ⟨l, _, rfl⟩ := List.mem_map.1 hx
      exact l.workingMemoryBytes_nonneg
    have hactivation := layer.activationBytes_nonneg
    omega

/-- **A placement has no negative figure.** -/
theorem figures_place {index : ℕ} {deviceId : String} {layers : List ModelLayer}
    {placement : Placement} (h : place rt roundPlan limits index deviceId layers = .ok placement) :
    placement.Figures := by
  unfold place at h
  split at h
  · cases h
  · rename_i device hdevice
    obtain ⟨demand, hdemand, h⟩ := bind_eq_ok h
    obtain ⟨pressure, hpressure, h⟩ := bind_eq_ok h
    obtain ⟨_, _, h⟩ := bind_eq_ok h
    obtain rfl := Except.ok.inj h
    have hunits : Nonneg (rt.summation.sum (layers.map fun layer => .finite layer.computeUnits)) := by
      refine nonneg_sum fun x hx => ?_
      obtain ⟨layer, _, rfl⟩ := List.mem_map.1 hx
      exact (by norm_num : (0 : ℚ) ≤ 1 / 1000000).trans layer.computeUnits_min
    have hrate := (by norm_num : (0 : ℚ) < 1 / 1000000).trans_le device.computeUnitsPerSecond_min
    exact ⟨hunits, nonneg_milliseconds hunits hrate,
      nonneg_intQuotient (memoryDemand_nonneg hdemand) hpressure⟩

theorem figures_placements (h : placements rt roundPlan limits participants runs = .ok placed) :
    ∀ placement ∈ placed, placement.Figures := by
  intro placement hplacement
  obtain ⟨item, _, hplace⟩ := exists_of_mem_mapM h hplacement
  exact figures_place hplace

/-- A hop takes a number of milliseconds, and carries a number of bytes. -/
structure Hop.Figures (hop : Hop) : Prop where
  edge : ∀ e ∈ hop.edge, Nonneg e.estimatedTransferMs ∧ 0 ≤ e.transferBytes
  transferMs : ∀ ms ∈ hop.transferMs, Nonneg ms

theorem figures_rejected (reason : String) : (Hop.rejected reason).Figures :=
  ⟨by simp [Hop.edge], by simp [Hop.transferMs]⟩

/-- **A hop has no negative figure.** -/
theorem figures_hop {links : List (String × String)} {source target : LogicalPartition}
    {targetNode edgeType : String} {bytes : ℤ} (hbytes : 0 ≤ bytes) {joint : Hop}
    (h : hop roundPlan links source target targetNode edgeType bytes = .ok joint) :
    joint.Figures := by
  unfold hop at h
  dsimp only at h
  split_ifs at h
  · obtain rfl := Except.ok.inj h
    exact figures_rejected _
  · split at h
    · obtain rfl := Except.ok.inj h
      exact figures_rejected _
    · rename_i link _
      obtain ⟨ms, hms, h⟩ := bind_eq_ok h
      obtain rfl := Except.ok.inj h
      have hms : Nonneg ms := by
        unfold transferTime at hms
        split at hms
        · cases hms
        · rename_i number hnumber
          obtain rfl := Except.ok.inj hms
          have hbandwidth := (by norm_num : (0 : ℚ) < 1 / 1000000).trans_le link.bandwidth_min
          have hlatency : Nonneg (.finite link.latencyMs) := link.latencyMs_nonneg
          exact hlatency.add (nonneg_milliseconds (nonneg_ofInt hbytes hnumber) hbandwidth)
      refine ⟨fun e he => ?_, fun t ht => ?_⟩
      · obtain rfl := Option.some.inj he
        exact ⟨hms.round6, hbytes⟩
      · obtain rfl := Option.some.inj ht
        exact hms

theorem figures_hops {links : List (String × String)} {splitPoints : List ℕ}
    {partitions : List LogicalPartition} {joined : List Hop}
    (h : hops roundPlan links splitPoints partitions = .ok joined) :
    ∀ hop ∈ joined, hop.Figures := by
  intro joint hmem
  obtain ⟨⟨⟨source, target⟩, boundary⟩, _, h⟩ := exists_of_mem_mapM h hmem
  dsimp only at h
  split at h
  · cases h
  · rename_i layer _
    exact figures_hop layer.activationBytes_nonneg h

/-- What a participant sends to the aggregator. -/
theorem parameterBytes_nonneg : 0 ≤ (roundPlan.layers.map (·.parameterBytes)).sum := by
  refine List.sum_nonneg fun x hx => ?_
  obtain ⟨layer, _, rfl⟩ := List.mem_map.1 hx
  exact layer.parameterBytes_nonneg

/-- The hops of the remote participants to the aggregator. -/
theorem figures_remote {links : List (String × String)} {remote : List LogicalPartition}
    {aggregator : LogicalPartition} {joined : List Hop}
    (h : remote.mapM (fun partition => hop roundPlan links partition aggregator "aggregation"
      "aggregation" (roundPlan.layers.map (·.parameterBytes)).sum) = .ok joined) :
    ∀ joint ∈ joined, joint.Figures := by
  intro joint hjoint
  obtain ⟨p, _, h⟩ := exists_of_mem_mapM h hjoint
  exact figures_hop parameterBytes_nonneg h

theorem figures_edges {joined : List Hop} (h : ∀ hop ∈ joined, hop.Figures) :
    ∀ e ∈ joined.filterMap Hop.edge, Nonneg e.estimatedTransferMs ∧ 0 ≤ e.transferBytes := by
  intro e he
  obtain ⟨hop, hhop, hedge⟩ := List.mem_filterMap.1 he
  exact (h hop hhop).edge e hedge

theorem nonneg_transferMs {joined : List Hop} (h : ∀ hop ∈ joined, hop.Figures) :
    ∀ ms ∈ joined.filterMap Hop.transferMs, Nonneg ms := by
  intro ms hms
  obtain ⟨hop, hhop, htransfer⟩ := List.mem_filterMap.1 hms
  exact (h hop hhop).transferMs ms htransfer

theorem transferBytes_nonneg {edges : List ExecutionGraphEdge}
    (h : ∀ e ∈ edges, Nonneg e.estimatedTransferMs ∧ 0 ≤ e.transferBytes) :
    0 ≤ (edges.map (·.transferBytes)).sum := by
  refine List.sum_nonneg fun x hx => ?_
  obtain ⟨e, he, rfl⟩ := List.mem_map.1 hx
  exact (h e he).2

end Parts

/-! ### Graphs -/

/-- The figures of a graph. -/
structure GraphSummary.Figures (graph : GraphSummary) : Prop where
  edges : ∀ e ∈ graph.edges, Nonneg e.estimatedTransferMs ∧ 0 ≤ e.transferBytes
  transferMs : Nonneg graph.transferMs
  transferBytes : 0 ≤ graph.transferBytes
  stepTimeMs : Nonneg graph.stepTimeMs
  gradientBytes : 0 ≤ graph.gradientBytes
  loadImbalance : NotNeg graph.loadImbalance

section Graphs

variable {rt : Runtime} {partitions : List LogicalPartition} {joined : List Hop}
  {computeMs : List PyFloat} {forward : GraphSummary} {first last : LogicalPartition}

theorem figures_forwardGraph (hhops : ∀ hop ∈ joined, hop.Figures) :
    (forwardGraph partitions joined).Figures :=
  ⟨figures_edges hhops, nonneg_accumulate (nonneg_transferMs hhops),
    transferBytes_nonneg (figures_edges hhops), le_refl (0 : ℚ), le_refl _, le_refl (0 : ℚ)⟩

theorem figures_buildTrainingGraph (hforward : forward.Figures)
    (hcompute : ∀ ms ∈ computeMs, Nonneg ms) :
    (buildTrainingGraph rt partitions first last forward computeMs).Figures := by
  have htwo : (0 : ℚ) < 2 := two_pos
  have hbytes := hforward.transferBytes
  refine ⟨fun e he => ?_, hforward.transferMs.mul_pos htwo, ?_,
    ((nonneg_sum hcompute).mul_pos htwo).add (hforward.transferMs.mul_pos htwo), hbytes,
    notNeg_loadImbalance hcompute⟩
  · rcases List.mem_append.1 he with he | he
    · rcases List.mem_append.1 he with he | he
      · rcases List.mem_append.1 he with he | he
        · obtain ⟨f, hf, rfl⟩ := List.mem_map.1 he
          exact hforward.edges f hf
        · obtain rfl := List.mem_singleton.1 he
          exact ⟨le_refl (0 : ℚ), hbytes⟩
      · obtain ⟨f, hf, rfl⟩ := List.mem_map.1 he
        exact hforward.edges f (List.mem_reverse.1 hf)
    · obtain rfl := List.mem_singleton.1 he
      exact ⟨le_refl (0 : ℚ), hbytes⟩
  · dsimp only [buildTrainingGraph]
    omega

theorem figures_graphOf {intent : Option PartitionIntent} (hhops : ∀ hop ∈ joined, hop.Figures)
    (hcompute : ∀ ms ∈ computeMs, Nonneg ms) :
    (graphOf rt intent partitions joined computeMs).Figures := by
  have hforward : (forwardGraph partitions joined).Figures := figures_forwardGraph hhops
  unfold graphOf
  split
  · exact figures_buildTrainingGraph hforward hcompute
  · exact hforward

end Graphs

/-! ### Candidates -/

section Candidates

variable {rt : Runtime} {policy : ModelPartitionPolicy} {roundPlan : RoundPlan}
  {participants : List String} {splitPoints : List ℕ} {exclusions : Exclusions}
  {c : PartitionCandidate}

/-- The figures that `_build_candidate` and `_build_federated_full_model_candidate` sum up. -/
theorem figures_placed {placed : List Placement} (h : ∀ placement ∈ placed, placement.Figures) :
    (∀ p ∈ placed.map (·.partition), Nonneg p.computeUnits) ∧
      (∀ ms ∈ placed.map (·.computeMs), Nonneg ms) ∧
      Nonneg (maxOrZero (placed.map (·.memoryPressure))) := by
  refine ⟨fun p hp => ?_, fun ms hms => ?_, nonneg_maxOrZero fun v hv => ?_⟩
  · obtain ⟨placement, hplacement, rfl⟩ := List.mem_map.1 hp
    exact (h placement hplacement).computeUnits
  · obtain ⟨placement, hplacement, rfl⟩ := List.mem_map.1 hms
    exact (h placement hplacement).computeMs
  · obtain ⟨placement, hplacement, rfl⟩ := List.mem_map.1 hv
    exact (h placement hplacement).memoryPressure

/-- The time of a candidate: that of a step, or that of the computation and of the transfers. -/
theorem nonneg_latency (intent : Option PartitionIntent) {computeMs : List PyFloat}
    {graph : GraphSummary} (hcompute : ∀ ms ∈ computeMs, Nonneg ms) (hgraph : graph.Figures) :
    Nonneg (if intent.isSome then graph.stepTimeMs
      else (accumulate computeMs).add graph.transferMs) := by
  split_ifs
  · exact hgraph.stepTimeMs
  · exact (nonneg_accumulate hcompute).add hgraph.transferMs

/-- **No figure of a candidate is negative.** -/
theorem figures_buildCandidate {intent : Option PartitionIntent} (hpolicy : policy.Checked)
    (hweights : ∀ i ∈ intent, Weighted i)
    (h : buildCandidate rt policy roundPlan participants splitPoints exclusions intent = .ok c) :
    c.Figures NotNeg ∧ (intent = none → Nonneg c.score) := by
  obtain ⟨placed, hplaced, h⟩ := bind_eq_ok h
  obtain ⟨joined, hjoined, h⟩ := bind_eq_ok h
  obtain ⟨score, hscore, h⟩ := bind_eq_ok h
  obtain rfl := Except.ok.inj h
  obtain ⟨hunits, hcompute, hpressure⟩ := figures_placed (figures_placements hplaced)
  have hgraph : (graphOf rt intent (placed.map (·.partition)) joined
      (placed.map (·.computeMs))).Figures := figures_graphOf (figures_hops hjoined) hcompute
  have hsum := nonneg_accumulate hcompute
  have hrisk : NotNeg (if intent.isSome then
      predictedResilienceRisk rt (placed.map (·.computeMs)) participants.length
      else .finite 0) := by
    split_ifs
    · exact notNeg_predictedResilienceRisk rt _ _
    · exact le_refl (0 : ℚ)
  have hlatency := nonneg_latency intent hcompute hgraph
  have hnumber : intent = none → Nonneg score := by
    rintro rfl
    exact nonneg_score hpolicy hlatency hpressure hgraph.transferBytes hscore
  have hscored : NotNeg score := by
    cases intent with
    | none => exact (hnumber rfl).notNeg
    | some i =>
        exact notNeg_scoreTraining hpolicy (hweights i rfl) hgraph.stepTimeMs
          hgraph.loadImbalance hpressure hgraph.transferBytes hrisk hscore
  refine ⟨⟨fun p hp => (hunits p hp).notNeg, fun e he => (hgraph.edges e he).1.notNeg,
    hsum.round6.notNeg, hgraph.transferMs.round6.notNeg, hlatency.round6.notNeg,
    hpressure.round6.notNeg, hscored, hgraph.stepTimeMs.round6.notNeg, hgraph.loadImbalance.round6,
    hrisk.round6⟩, hnumber⟩

theorem figures_buildFederated {intent : PartitionIntent} (hpolicy : policy.Checked)
    (hweights : Weighted intent)
    (h : buildFederatedFullModelCandidate rt policy roundPlan participants exclusions intent
      = .ok c) : c.Figures NotNeg := by
  obtain ⟨placed, hplaced, h⟩ := bind_eq_ok h
  obtain ⟨hunits, hcompute, hpressure⟩ := figures_placed (figures_placements hplaced)
  dsimp only at h
  split at h
  · cases h
  · obtain ⟨joined, hjoined, h⟩ := bind_eq_ok h
    obtain ⟨score, hscore, h⟩ := bind_eq_ok h
    obtain rfl := Except.ok.inj h
    have hhops := figures_remote hjoined
    have hedges := figures_edges hhops
    have hcomputed := nonneg_maxOrZero hcompute
    have htransfer := nonneg_maxOrZero (nonneg_transferMs hhops)
    have hstep := hcomputed.add htransfer
    have himbalance := notNeg_loadImbalance hcompute
    have hrisk := notNeg_predictedResilienceRisk rt (placed.map (·.computeMs)) participants.length
    exact ⟨fun p hp => (hunits p hp).notNeg, fun e he => (hedges e he).1.notNeg,
      hcomputed.round6.notNeg, htransfer.round6.notNeg, hstep.round6.notNeg,
      hpressure.round6.notNeg, notNeg_scoreTraining hpolicy hweights hstep himbalance hpressure
        (transferBytes_nonneg hedges) hrisk hscore, hstep.round6.notNeg, himbalance.round6,
      hrisk.round6⟩

end Candidates

end ModelPartitionOrchestrationAgent
end Partition
end AiopsK8s
