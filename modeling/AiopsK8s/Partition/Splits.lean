/-
# The splits of a model

`_plan` considers the splits of a model among the participants that are left: increasing boundaries
inside the model, one fewer than participants (`mem_candidateSplits`).  A request that passes the
common checks, with the intent of a strategy for it, has a candidate of every split: every device is
known, every run of layers is non-empty and every weight is named.  What remains are integers that are
too large for a float.  The planner divides and converts the bytes of devices and layers; where they
are in range (`InRange`) every split has a candidate (`everySplitBuilds_of_inRange`), and they are
where the bytes of the whole model are (`inRange_of_bytes`).
-/

import AiopsK8s.Lib.Raising
import AiopsK8s.Lib.Rounding
import AiopsK8s.Partition.Figures

namespace AiopsK8s
namespace Partition

open Effect

/-- What the common checks say of the participants. -/
theorem PartitionCommonProcessor.validateFeasibility_eq_ok {request : PartitionPlanningRequest}
    {layers : List ModelLayer}
    (h : PartitionCommonProcessor.validateFeasibility request layers = .ok ()) :
    2 ≤ request.plan.participants.length ∧ layers ≠ [] ∧
      ∀ p ∈ request.plan.participants, p ∈ request.context.devices.map (·.deviceId) := by
  obtain ⟨_, hsize, h⟩ := bind_eq_ok h
  obtain ⟨_, hknown, _⟩ := bind_eq_ok h
  have hsize := rejectIf_eq_ok.1 hsize
  rw [not_or, not_or] at hsize
  refine ⟨not_lt.1 hsize.1, hsize.2.1, fun p hp => ?_⟩
  have hp := rejectAny_eq_ok.1 hknown p hp
  rwa [decide_eq_false_iff_not, not_not] at hp

/-- The intent of a training request names its weights. -/
theorem PartitionStrategy.objectiveWeights_named {rt : Runtime}
    {normalized : NormalizedPartitionRequest} {strategy : PartitionStrategy} {intent : PartitionIntent}
    (h : strategy.buildPartitionIntent rt normalized = .ok intent)
    (htraining : normalized.planType = "training") :
    intent.objectiveWeights.map Prod.fst = trainingObjectives := by
  cases strategy with
  | inference s =>
      obtain ⟨_, htype, _⟩ := bind_eq_ok h
      have htype := (not_or.1 (rejectIf_eq_ok.1 htype)).1
      rw [htraining] at htype
      exact absurd (by decide) htype
  | training s =>
      obtain ⟨_, _, h⟩ := bind_eq_ok h
      obtain rfl := Except.ok.inj h
      exact s.objectiveWeights_named
  | federated s =>
      obtain ⟨_, _, h⟩ := bind_eq_ok h
      obtain rfl := Except.ok.inj h
      exact s.objectiveWeights_named

theorem exists_memoryDemand {layers : List ModelLayer} (h : layers ≠ []) :
    ∃ demand, memoryDemand layers = .ok demand := by
  unfold memoryDemand
  rcases hmax : (layers.map (·.activationBytes)).max? with _ | activation
  · rw [List.max?_eq_none_iff, List.map_eq_nil_iff] at hmax
    exact absurd hmax h
  · rw [hmax]
    exact ⟨_, rfl⟩

namespace ModelPartitionOrchestrationAgent

open Raising

/-! ### Every considered split yields a candidate -/

variable {rt : Runtime}

theorem exists_lookup_devicesOf (roundPlan : RoundPlan) {deviceId : String}
    (h : deviceId ∈ roundPlan.devices.map (·.deviceId)) :
    ∃ device, (devicesOf roundPlan).lookup deviceId = some device := by
  refine Dict.exists_lookup_ofEntries ?_
  rw [List.map_map]
  exact h

/-- The device that a participant is placed on is one of the round plan. -/
theorem mem_of_lookup_devicesOf {roundPlan : RoundPlan} {deviceId : String} {device : ResourceDevice}
    (h : (devicesOf roundPlan).lookup deviceId = some device) : device ∈ roundPlan.devices := by
  have hmem := Dict.mem_of_lookup_reverse ((Dict.lookup_ofEntries _ _).symm.trans h)
  obtain ⟨d, hd, heq⟩ := List.mem_map.1 hmem
  obtain rfl := (Prod.mk.inj heq).2
  exact hd

/-- The bytes that some layers need. -/
def totalBytes (layers : List ModelLayer) : ℤ :=
  (layers.map fun l => l.parameterBytes + l.workingMemoryBytes + l.activationBytes).sum

theorem layerBytes_nonneg (layers : List ModelLayer) : ∀ x ∈ layers.map fun l : ModelLayer =>
    l.parameterBytes + l.workingMemoryBytes + l.activationBytes, 0 ≤ x := by
  intro x hx
  obtain ⟨l, _, rfl⟩ := List.mem_map.1 hx
  have hparameters := l.parameterBytes_nonneg
  have hworking := l.workingMemoryBytes_nonneg
  have hactivation := l.activationBytes_nonneg
  omega

theorem activationBytes_le {layers : List ModelLayer} {layer : ModelLayer} (h : layer ∈ layers) :
    layer.activationBytes ≤ totalBytes layers := by
  have hparameters := layer.parameterBytes_nonneg
  have hworking := layer.workingMemoryBytes_nonneg
  have hsingle := List.single_le_sum (layerBytes_nonneg layers) _ (List.mem_map_of_mem h)
  exact le_trans (by omega) hsingle

/-- Some of the layers need no more than all of them. -/
theorem memoryDemand_le {layers run : List ModelLayer} {demand : ℤ} (hrun : run.Sublist layers)
    (h : memoryDemand run = .ok demand) : demand ≤ totalBytes layers := by
  have hle : totalBytes run ≤ totalBytes layers :=
    (hrun.map _).sum_le_sum (layerBytes_nonneg layers)
  refine le_trans ?_ hle
  unfold memoryDemand at h
  split at h
  · cases h
  · rename_i activation hactivation
    obtain rfl := Except.ok.inj h
    have hmax : activation ≤ (run.map (·.activationBytes)).sum := by
      refine List.single_le_sum (fun x hx => ?_) _ (List.max?_eq_some_iff.1 hactivation).1
      obtain ⟨l, _, rfl⟩ := List.mem_map.1 hx
      exact l.activationBytes_nonneg
    have htotal : totalBytes run = (run.map (·.parameterBytes)).sum +
        (run.map (·.workingMemoryBytes)).sum + (run.map (·.activationBytes)).sum := by
      unfold totalBytes
      rw [List.sum_map_add, List.sum_map_add]
    omega

/-- The integers that a candidate is computed from are converted to floats with certain errors
only. -/
structure Converts (Allowed : PartitionError → Prop) (policy : ModelPartitionPolicy)
    (roundPlan : RoundPlan) : Prop where
  pressure : ∀ demand available, 0 ≤ demand → demand ≤ totalBytes roundPlan.layers →
    Raises Allowed (intQuotient demand (max 1 available))
  memory : ∀ device ∈ roundPlan.devices,
    Raises Allowed (allowedMemory device roundPlan.constraints)
  transfer : ∀ link, ∀ layer ∈ roundPlan.layers,
    Raises Allowed (transferTime link layer.activationBytes)
  communication : ∀ bytes, 0 ≤ bytes →
    bytes ≤ 3 * (roundPlan.layers.length * totalBytes roundPlan.layers) →
    Raises Allowed (intQuotient bytes policy.transferReferenceBytes)

section Converting

variable {Allowed : PartitionError → Prop} {policy : ModelPartitionPolicy} {roundPlan : RoundPlan}

theorem raises_place (hconverts : Converts Allowed policy roundPlan) {limits : List (String × ℤ)}
    {index : ℕ} {deviceId : String} {run : List ModelLayer}
    (hdevice : deviceId ∈ roundPlan.devices.map (·.deviceId)) (hne : run ≠ [])
    (hrun : run.Sublist roundPlan.layers) :
    Raises Allowed (place rt roundPlan limits index deviceId run) := by
  obtain ⟨device, hlookup⟩ := exists_lookup_devicesOf roundPlan hdevice
  obtain ⟨demand, hdemand⟩ := exists_memoryDemand hne
  unfold place
  rw [hlookup]
  dsimp only
  rw [hdemand]
  have hpressure := hconverts.pressure demand device.memoryAvailableBytes
    (memoryDemand_nonneg hdemand) (memoryDemand_le hrun hdemand)
  refine raises_bind.2 ⟨raises_ok demand, fun d hd => ?_⟩
  obtain rfl := Except.ok.inj hd
  exact hpressure.bind fun _ =>
    (hconverts.memory device (mem_of_lookup_devicesOf hlookup)).bind fun _ => raises_ok _

theorem raises_hop (hconverts : Converts Allowed policy roundPlan) {links : List (String × String)}
    {source target : LogicalPartition} {targetNode edgeType : String} {layer : ModelLayer}
    (hlayer : layer ∈ roundPlan.layers) :
    Raises Allowed (hop roundPlan links source target targetNode edgeType layer.activationBytes) := by
  unfold hop
  dsimp only
  split_ifs
  · exact raises_ok _
  · split
    · exact raises_ok _
    · exact (hconverts.transfer _ layer hlayer).bind fun _ => raises_ok _

/-- What goes over the hops of a split. -/
theorem transferBytes_hops_le {links : List (String × String)} {splitPoints : List ℕ}
    {partitions : List LogicalPartition} {joined : List Hop}
    (hsplits : splitPoints.length ≤ roundPlan.layers.length)
    (h : hops roundPlan links splitPoints partitions = .ok joined) :
    ((joined.filterMap Hop.edge).map (·.transferBytes)).sum
      ≤ roundPlan.layers.length * totalBytes roundPlan.layers := by
  have hbytes : ∀ x ∈ (joined.filterMap Hop.edge).map (·.transferBytes),
      x ≤ totalBytes roundPlan.layers := by
    intro x hx
    obtain ⟨e, he, rfl⟩ := List.mem_map.1 hx
    obtain ⟨joint, hjoint, hedge⟩ := List.mem_filterMap.1 he
    obtain ⟨item, _, hitem⟩ := exists_of_mem_mapM h hjoint
    dsimp only at hitem
    split at hitem
    · cases hitem
    · rename_i layer hlayer
      have hle := activationBytes_le (List.mem_of_getElem? hlayer)
      unfold hop at hitem
      dsimp only at hitem
      split_ifs at hitem
      · obtain rfl := Except.ok.inj hitem
        cases hedge
      · split at hitem
        · obtain rfl := Except.ok.inj hitem
          cases hedge
        · obtain ⟨ms, _, hitem⟩ := bind_eq_ok hitem
          obtain rfl := Except.ok.inj hitem
          obtain rfl := Option.some.inj hedge
          exact hle
  have hcount : (joined.filterMap Hop.edge).length ≤ roundPlan.layers.length := by
    have hjoined := (mapM_eq_ok h).length_eq
    rw [List.length_zip] at hjoined
    exact (List.length_filterMap_le _ _).trans (by omega)
  have htotal : 0 ≤ totalBytes roundPlan.layers :=
    List.sum_nonneg (layerBytes_nonneg roundPlan.layers)
  have hsum := List.sum_le_card_nsmul _ _ hbytes
  rw [List.length_map, nsmul_eq_mul] at hsum
  exact hsum.trans (mul_le_mul_of_nonneg_right (by exact_mod_cast hcount) htotal)

/-- A training graph carries three times as much. -/
theorem transferBytes_graphOf_le {intent : Option PartitionIntent} {partitions : List LogicalPartition}
    {joined : List Hop} {computeMs : List PyFloat} {most : ℤ} (hmost : 0 ≤ most)
    (h : ((joined.filterMap Hop.edge).map (·.transferBytes)).sum ≤ most) :
    (graphOf rt intent partitions joined computeMs).transferBytes ≤ 3 * most := by
  unfold graphOf
  split
  · dsimp only [buildTrainingGraph, forwardGraph]
    omega
  · dsimp only [forwardGraph]
    omega

end Converting

/-! ### Placements -/

/-- The name of a partition. -/
def partitionName (index : ℕ) : String := s!"partition-{index + 1}"

section Placements

variable {roundPlan : RoundPlan} {limits : List (String × ℤ)} {participants : List String}
  {runs : List (List ModelLayer)} {placed : List Placement}

/-- What a pass of the loop over the participants returns. -/
theorem place_eq_ok {index : ℕ} {deviceId : String} {run : List ModelLayer}
    {placement : Placement} (h : place rt roundPlan limits index deviceId run = .ok placement) :
    placement.partition.partitionId = partitionName index ∧
      placement.partition.deviceId = deviceId ∧
      placement.partition.layerNames = run.map (·.name) ∧
      memoryDemand run = .ok placement.partition.memoryDemandBytes ∧
      ∃ device allowed, (devicesOf roundPlan).lookup deviceId = some device ∧
        allowedMemory device roundPlan.constraints = .ok allowed ∧
        placement.rejectionReasons =
          memoryReasons limits deviceId allowed placement.partition.memoryDemandBytes := by
  unfold place at h
  split at h
  · cases h
  · rename_i device hdevice
    obtain ⟨demand, hdemand, h⟩ := bind_eq_ok h
    obtain ⟨_, _, h⟩ := bind_eq_ok h
    obtain ⟨allowed, hallowed, h⟩ := bind_eq_ok h
    obtain rfl := Except.ok.inj h
    exact ⟨rfl, rfl, rfl, hdemand, device, allowed, hdevice, hallowed, rfl⟩

/-- **What the placements say**, in the order of the participants. -/
theorem layout_placements (h : placements rt roundPlan limits participants runs = .ok placed)
    (hlength : participants.length = runs.length) :
    (placed.map (·.partition)).map (·.partitionId)
        = (List.range participants.length).map partitionName ∧
      (placed.map (·.partition)).map (·.deviceId) = participants ∧
      (placed.map (·.partition)).map (·.layerNames) = runs.map (·.map (·.name)) := by
  have hplace : ∀ item ∈ (participants.zip runs).zipIdx, ∀ placement,
      place rt roundPlan limits item.2 item.1.1 item.1.2 = .ok placement →
        placement.partition.partitionId = partitionName item.2 ∧
        placement.partition.deviceId = item.1.1 ∧
        placement.partition.layerNames = item.1.2.map (·.name) := fun item _ placement hitem =>
    ⟨(place_eq_ok hitem).1, (place_eq_ok hitem).2.1, (place_eq_ok hitem).2.2.1⟩
  have hids := map_eq_map_of_mapM (g := fun item => partitionName item.2)
    (k := fun placement => placement.partition.partitionId)
    (fun item hmem placement hitem => (hplace item hmem placement hitem).1) h
  have hdevices := map_eq_map_of_mapM (g := fun item => item.1.1)
    (k := fun placement => placement.partition.deviceId)
    (fun item hmem placement hitem => (hplace item hmem placement hitem).2.1) h
  have hnames := map_eq_map_of_mapM (g := fun item => item.1.2.map (·.name))
    (k := fun placement => placement.partition.layerNames)
    (fun item hmem placement hitem => (hplace item hmem placement hitem).2.2) h
  have hzip : ((participants.zip runs).zipIdx).map Prod.fst = participants.zip runs :=
    List.zipIdx_map_fst 0 _
  have hindex : ((participants.zip runs).zipIdx).map Prod.snd = List.range participants.length := by
    rw [List.zipIdx_map_snd, List.length_zip, ← hlength, min_self, List.range_eq_range']
  refine ⟨?_, ?_, ?_⟩
  · rw [List.map_map, ← hindex, List.map_map]
    exact hids
  · have hfst : ((participants.zip runs).zipIdx.map Prod.fst).map Prod.fst = participants := by
      rw [hzip]
      exact List.map_fst_zip hlength.le
    rw [List.map_map]
    refine Eq.trans ?_ hfst
    rw [List.map_map]
    exact hdevices
  · have hsnd : ((participants.zip runs).zipIdx.map Prod.fst).map Prod.snd = runs := by
      rw [hzip]
      exact List.map_snd_zip hlength.ge
    rw [List.map_map]
    refine Eq.trans ?_ (congrArg (·.map fun run => run.map (·.name)) hsnd)
    rw [List.map_map, List.map_map]
    exact hnames

end Placements

/-! ### Runs of layers -/

theorem length_runs (layers : List ModelLayer) (splitPoints : List ℕ) :
    (runs layers splitPoints).length = splitPoints.length + 1 := by
  simp [runs]

/-- Neighbours in an increasing list. -/
theorem lt_of_mem_zip_tail {l : List ℕ} (h : l.Pairwise (· < ·)) {a b : ℕ}
    (hab : (a, b) ∈ l.zip l.tail) : a < b ∧ b ∈ l := by
  induction l with
  | nil => cases hab
  | cons c l ih =>
      obtain ⟨hc, hl⟩ := List.pairwise_cons.1 h
      cases l with
      | nil => cases hab
      | cons d l =>
          rw [List.tail_cons, List.zip_cons_cons, List.mem_cons] at hab
          rcases hab with heq | hab
          · obtain ⟨rfl, rfl⟩ := Prod.mk.inj heq
            exact ⟨hc _ List.mem_cons_self, by simp⟩
          · obtain ⟨hlt, hmem⟩ := ih hl hab
            exact ⟨hlt, List.mem_cons_of_mem _ hmem⟩

/-- Between increasing interior boundaries no run of layers is empty. -/
theorem runs_ne_nil {layers : List ModelLayer} {splitPoints : List ℕ}
    (hincreasing : splitPoints.Pairwise (· < ·))
    (hinterior : ∀ b ∈ splitPoints, 1 ≤ b ∧ b < layers.length) (hlayers : layers ≠ [])
    {run : List ModelLayer} (hrun : run ∈ runs layers splitPoints) : run ≠ [] := by
  have hpos : 0 < layers.length := List.length_pos_of_ne_nil hlayers
  have hboundaries : (0 :: splitPoints ++ [layers.length]).Pairwise (· < ·) := by
    rw [List.cons_append, List.pairwise_cons, List.pairwise_append]
    refine ⟨fun b hb => ?_, hincreasing, by simp, fun b hb c hc => ?_⟩
    · rcases List.mem_append.1 hb with hb | hb
      · exact (hinterior b hb).1
      · rw [List.mem_singleton.1 hb]
        exact hpos
    · rw [List.mem_singleton.1 hc]
      exact (hinterior b hb).2
  obtain ⟨⟨start, stop⟩, hpair, rfl⟩ := List.mem_map.1 hrun
  obtain ⟨hlt, hstop⟩ := lt_of_mem_zip_tail hboundaries hpair
  have hle : stop ≤ layers.length := by
    rw [List.cons_append, List.mem_cons, List.mem_append, List.mem_singleton] at hstop
    rcases hstop with rfl | hmem | rfl
    · omega
    · exact (hinterior stop hmem).2.le
    · exact le_rfl
  refine List.ne_nil_of_length_pos ?_
  rw [List.length_take, List.length_drop]
  omega

/-- The runs are parts of the model. -/
theorem sublist_of_mem_runs {layers run : List ModelLayer} {splitPoints : List ℕ}
    (hrun : run ∈ runs layers splitPoints) : run.Sublist layers := by
  obtain ⟨item, _, rfl⟩ := List.mem_map.1 hrun
  exact (List.take_sublist _ _).trans (List.drop_sublist _ _)

theorem exists_weightOf {intent : PartitionIntent} {name : String}
    (h : intent.objectiveWeights.map Prod.fst = trainingObjectives)
    (hname : name ∈ trainingObjectives) : ∃ weight, weightOf intent name = .ok weight := by
  have hnodup : (intent.objectiveWeights.map Prod.fst).Nodup := by
    rw [h]
    decide
  obtain ⟨⟨key, weight⟩, hmem, hkey⟩ := List.mem_map.1 (h ▸ hname)
  have hlookup : (Dict.ofEntries intent.objectiveWeights).lookup name = some weight := by
    rw [Dict.ofEntries_of_nodup hnodup, ← Dict.mem_iff_lookup hnodup]
    obtain rfl : key = name := hkey
    exact hmem
  rw [weightOf, hlookup]
  exact ⟨weight, rfl⟩

theorem raises_scoreTraining {Allowed : PartitionError → Prop} {intent : PartitionIntent}
    {policy : ModelPartitionPolicy} {stepTimeMs loadImbalance memoryPressure risk : PyFloat}
    {transferBytes : ℤ} (h : intent.objectiveWeights.map Prod.fst = trainingObjectives)
    (hcommunication : Raises Allowed (intQuotient transferBytes policy.transferReferenceBytes)) :
    Raises Allowed (scoreTraining policy stepTimeMs loadImbalance memoryPressure transferBytes risk
      intent) := by
  have hweight : ∀ {name}, name ∈ trainingObjectives → Raises Allowed (weightOf intent name) := by
    intro name hname
    obtain ⟨weight, hweight⟩ := exists_weightOf h hname
    rw [hweight]
    exact raises_ok weight
  exact hcommunication.bind fun _ => (hweight (by decide)).bind fun _ =>
    (hweight (by decide)).bind fun _ => (hweight (by decide)).bind fun _ =>
      (hweight (by decide)).bind fun _ => (hweight (by decide)).bind fun _ => raises_ok _

section Planning

variable {policy : ModelPartitionPolicy} {planId : String} {roundPlan : RoundPlan}
  {normalized : NormalizedPartitionRequest} {intent : PartitionIntent} {exclusions : Exclusions}
  {splitPoints : List ℕ} {candidate : PartitionCandidate}

/-- A split of the model among the participants that are left: increasing boundaries inside the
model, one fewer than participants, that the planner considers. -/
structure Split (roundPlan : RoundPlan) (normalized : NormalizedPartitionRequest)
    (intent : PartitionIntent) (exclusions : Exclusions) (splitPoints : List ℕ) : Prop where
  increasing : splitPoints.Pairwise (· < ·)
  interior : ∀ b ∈ splitPoints, 1 ≤ b ∧ b < roundPlan.layers.length
  length : splitPoints.length + 1 = (survivors roundPlan exclusions).length
  considered : Considered normalized intent exclusions splitPoints

/-- The candidate of a split. -/
def Builds (rt : Runtime) (policy : ModelPartitionPolicy) (roundPlan : RoundPlan)
    (normalized : NormalizedPartitionRequest) (intent : PartitionIntent) (exclusions : Exclusions)
    (splitPoints : List ℕ) (candidate : PartitionCandidate) : Prop :=
  buildCandidate rt policy roundPlan (survivors roundPlan exclusions) splitPoints exclusions
    (candidateIntent normalized intent) = .ok candidate

/-- **The planner enumerates the splits.** -/
theorem mem_candidateSplits (h : 1 ≤ (survivors roundPlan exclusions).length) :
    splitPoints ∈ candidateSplits roundPlan normalized intent exclusions ↔
      Split roundPlan normalized intent exclusions splitPoints := by
  rw [candidateSplits, List.mem_filter, decide_eq_true_iff,
    mem_combinations_of_pairwise List.pairwise_lt_range']
  simp only [List.mem_range'_1]
  constructor
  · rintro ⟨⟨hincreasing, hlength, hinterior⟩, hconsidered⟩
    exact ⟨hincreasing, fun b hb => by have := hinterior b hb; omega, by omega, hconsidered⟩
  · rintro ⟨hincreasing, hinterior, hlength, hconsidered⟩
    exact ⟨⟨hincreasing, by omega, fun b hb => by have := hinterior b hb; omega⟩, hconsidered⟩

theorem nodup_candidateSplits : (candidateSplits roundPlan normalized intent exclusions).Nodup :=
  (nodup_combinations List.nodup_range' _).filter _

/-- A candidate has the boundaries of its split, and is valid when nothing rejects it. -/
theorem Builds.spec (h : Builds rt policy roundPlan normalized intent exclusions splitPoints candidate) :
    candidate.splitPoints = splitPoints.map Int.ofNat ∧
      (candidate.valid = true ↔ candidate.rejectionReasons = []) := by
  obtain ⟨_, _, h⟩ := bind_eq_ok h
  obtain ⟨_, _, h⟩ := bind_eq_ok h
  obtain ⟨_, _, h⟩ := bind_eq_ok h
  obtain rfl := Except.ok.inj h
  exact ⟨rfl, List.isEmpty_iff⟩

/-- No candidate of a split needs an integer that is too large for a float. -/
def InRange (rt : Runtime) (policy : ModelPartitionPolicy) (roundPlan : RoundPlan)
    (normalized : NormalizedPartitionRequest) (intent : PartitionIntent) (exclusions : Exclusions) :
    Prop :=
  ∀ s, Split roundPlan normalized intent exclusions s →
    buildCandidate rt policy roundPlan (survivors roundPlan exclusions) s exclusions
      (candidateIntent normalized intent) ≠ .error .overflow

/-- Every split has a candidate. -/
def EverySplitBuilds (rt : Runtime) (policy : ModelPartitionPolicy) (roundPlan : RoundPlan)
    (normalized : NormalizedPartitionRequest) (intent : PartitionIntent) (exclusions : Exclusions) :
    Prop :=
  ∀ s, Split roundPlan normalized intent exclusions s →
    ∃ c, Builds rt policy roundPlan normalized intent exclusions s c

/-- A split needs as many layers as participants. -/
theorem Split.length_le (h : Split roundPlan normalized intent exclusions splitPoints) :
    (survivors roundPlan exclusions).length ≤ roundPlan.layers.length ∨ splitPoints = [] := by
  have hmem : splitPoints ∈ combinations (List.range' 1 (roundPlan.layers.length - 1))
      splitPoints.length := by
    rw [mem_combinations_of_pairwise List.pairwise_lt_range']
    refine ⟨h.increasing, rfl, fun b hb => ?_⟩
    have := h.interior b hb
    rw [List.mem_range'_1]
    omega
  have hle := (mem_combinations.1 hmem).1.length_le
  rw [List.length_range'] at hle
  have hlength := h.length
  rcases Nat.eq_zero_or_pos splitPoints.length with hzero | hpos
  · exact .inr (List.length_eq_zero_iff.1 hzero)
  · left
    omega

/-- **A split yields a candidate, if its integers are converted to floats.** -/
theorem raises_buildCandidate {Allowed : PartitionError → Prop}
    (hconverts : Converts Allowed policy roundPlan)
    (hknown : ∀ p ∈ roundPlan.participants, p ∈ roundPlan.devices.map (·.deviceId))
    (hweights : normalized.planType = "training" →
      intent.objectiveWeights.map Prod.fst = trainingObjectives)
    (hlayers : roundPlan.layers ≠ [])
    (h : Split roundPlan normalized intent exclusions splitPoints) :
    Raises Allowed (buildCandidate rt policy roundPlan (survivors roundPlan exclusions) splitPoints
      exclusions (candidateIntent normalized intent)) := by
  have hplaced : Raises Allowed (placements rt roundPlan exclusions.memoryLimits
      (survivors roundPlan exclusions) (runs roundPlan.layers splitPoints)) := by
    refine Raises.mapM fun item hitem => ?_
    obtain ⟨⟨device, run⟩, index⟩ := item
    have hpair := List.of_mem_zip (List.fst_mem_of_mem_zipIdx hitem)
    refine raises_place hconverts (hknown device (List.mem_filter.1 hpair.1).1) ?_
      (sublist_of_mem_runs hpair.2)
    exact runs_ne_nil h.increasing h.interior hlayers hpair.2
  refine raises_bind.2 ⟨hplaced, fun placed hplaced => ?_⟩
  have hhops : Raises Allowed (hops roundPlan exclusions.excludedLinks splitPoints
      (placed.map (·.partition))) := by
    refine Raises.mapM fun item hitem => ?_
    obtain ⟨⟨source, target⟩, boundary⟩ := item
    have hboundary := h.interior boundary (List.of_mem_zip hitem).2
    have hlayer : boundary - 1 < roundPlan.layers.length := by omega
    have hget : roundPlan.layers[boundary - 1]? = some roundPlan.layers[boundary - 1] :=
      List.getElem?_eq_getElem hlayer
    simp only [hget]
    exact raises_hop hconverts (List.getElem_mem hlayer)
  refine raises_bind.2 ⟨hhops, fun joined hjoined => Raises.bind ?_ fun _ => raises_ok _⟩
  have hcount : splitPoints.length ≤ roundPlan.layers.length := by
    have hlength := h.length
    rcases h.length_le with hle | rfl
    · omega
    · exact Nat.zero_le _
  have hforward := transferBytes_hops_le hcount hjoined
  have hedges := transferBytes_nonneg (figures_edges (figures_hops hjoined))
  have hgraph : (graphOf rt (candidateIntent normalized intent) (placed.map (·.partition)) joined
      (placed.map (·.computeMs))).Figures :=
    figures_graphOf (figures_hops hjoined) (figures_placed (figures_placements hplaced)).2.1
  have hcommunication := hconverts.communication _ hgraph.transferBytes
    (transferBytes_graphOf_le (hedges.trans hforward) hforward)
  unfold candidateScore
  split
  · exact hcommunication.bind fun _ => raises_ok _
  · rename_i i hi
    have htraining : normalized.planType = "training" ∧ intent = i := by
      unfold candidateIntent at hi
      split_ifs at hi with htype
      exact ⟨htype, Option.some.inj hi⟩
    exact raises_scoreTraining (htraining.2 ▸ hweights htraining.1) hcommunication

theorem overflows_intQuotient (n m : ℤ) :
    Raises (· = PartitionError.overflow) (intQuotient n m) := by
  unfold intQuotient
  split
  · exact raises_error.2 rfl
  · exact raises_ok _

/-- What is not converted overflows. -/
theorem converts_or_overflows : Converts (· = .overflow) policy roundPlan where
  pressure _ _ _ _ := overflows_intQuotient _ _
  memory _ _ := by
    unfold allowedMemory
    split
    · exact raises_error.2 rfl
    · split
      · exact raises_error.2 rfl
      · exact raises_ok _
  transfer _ _ _ := by
    unfold transferTime
    split
    · exact raises_error.2 rfl
    · exact raises_ok _
  communication _ _ _ := overflows_intQuotient _ _

/-- **The partitions of a candidate** are numbered, and on the participants that are left. -/
theorem Builds.layout (h : Split roundPlan normalized intent exclusions splitPoints)
    (hbuilds : Builds rt policy roundPlan normalized intent exclusions splitPoints candidate) :
    candidate.partitions.map (·.partitionId)
        = (List.range (survivors roundPlan exclusions).length).map partitionName ∧
      candidate.partitions.map (·.deviceId) = survivors roundPlan exclusions := by
  obtain ⟨placed, hplaced, hrest⟩ := bind_eq_ok hbuilds
  obtain ⟨_, _, hrest⟩ := bind_eq_ok hrest
  obtain ⟨_, _, hrest⟩ := bind_eq_ok hrest
  obtain rfl := Except.ok.inj hrest
  have hlength : (survivors roundPlan exclusions).length
      = (runs roundPlan.layers splitPoints).length := by
    rw [length_runs, h.length]
  obtain ⟨hids, hdevices, -⟩ := layout_placements hplaced hlength
  exact ⟨hids, hdevices⟩

/-- **In range every split has a candidate.** -/
theorem everySplitBuilds_of_inRange
    (hknown : ∀ p ∈ roundPlan.participants, p ∈ roundPlan.devices.map (·.deviceId))
    (hlayers : roundPlan.layers ≠ [])
    (hweights : normalized.planType = "training" →
      intent.objectiveWeights.map Prod.fst = trainingObjectives)
    (h : InRange rt policy roundPlan normalized intent exclusions) :
    EverySplitBuilds rt policy roundPlan normalized intent exclusions := by
  intro s hs
  unfold Builds
  rcases hbuilt : buildCandidate rt policy roundPlan (survivors roundPlan exclusions) s exclusions
    (candidateIntent normalized intent) with e | c
  · obtain rfl := raises_buildCandidate converts_or_overflows hknown hweights hlayers hs e hbuilt
    exact absurd hbuilt (h s hs)
  · exact ⟨c, rfl⟩

/-! ### Bytes in range -/

theorem intQuotient_eq_ok_iff {n m : ℤ} (hn : 0 ≤ n) (hm : 0 < m) :
    (∃ x, intQuotient n m = .ok x) ↔ (n : ℚ) < Binary64.limit * m := by
  have hm' : (0 : ℚ) < m := by exact_mod_cast hm
  have hcast : ((m.toNat : ℕ) : ℚ) = m := by exact_mod_cast Int.toNat_of_nonneg hm.le
  have hrange : |(n : ℚ) / m.toNat| < Binary64.limit ↔ (n : ℚ) < Binary64.limit * m := by
    rw [hcast, abs_of_nonneg (div_nonneg (by exact_mod_cast hn) hm'.le), div_lt_iff₀ hm']
  rw [← hrange]
  unfold intQuotient
  constructor
  · rintro ⟨x, hx⟩
    split at hx
    · cases hx
    · rename_i quotient hquotient
      exact (PyFloat.ofQuotient_eq_some.1 hquotient).1
  · intro h
    rw [PyFloat.ofQuotient_eq_some.2 ⟨h, rfl⟩]
    exact ⟨_, rfl⟩

theorem exists_intQuotient {n m : ℤ} (hn : 0 ≤ n) (hm : 1 ≤ m) (h : (n : ℚ) < Binary64.limit) :
    ∃ x, intQuotient n m = .ok x := by
  refine (intQuotient_eq_ok_iff hn (by omega)).2 (h.trans_le ?_)
  exact le_mul_of_one_le_right (Binary64.largest_nonneg.trans Binary64.largest_lt_limit.le)
    (by exact_mod_cast hm)

theorem exists_ofInt_of_lt {n : ℤ} (hn : 0 ≤ n) (h : (n : ℚ) < Binary64.limit) :
    PyFloat.ofInt n = some (.finite (Binary64.nearest n)) := by
  have hn' : (0 : ℚ) ≤ n := by exact_mod_cast hn
  exact PyFloat.ofInt_eq_some.2 ⟨by rwa [abs_of_nonneg hn'], rfl⟩

/-- The share of its memory that a device may use. -/
theorem exists_usableRatio (constraints : PartitionConstraints) :
    ∃ r, constraints.usableRatio = .finite r ∧ 0 ≤ r ∧ r ≤ 1 := by
  have hlow : 0 ≤ 1 + -constraints.minimumMemoryHeadroomRatio := by
    linarith [constraints.headroom_lt_one]
  have hhigh : 1 + -constraints.minimumMemoryHeadroomRatio ≤ 1 := by
    linarith [constraints.headroom_nonneg]
  have hrange : |1 + -constraints.minimumMemoryHeadroomRatio| < Binary64.limit := by
    rw [abs_of_nonneg hlow]
    exact hhigh.trans_lt (Binary64.one_le_largest.trans_lt Binary64.largest_lt_limit)
  have hone : Binary64.nearest 1 = 1 := by
    exact_mod_cast Binary64.nearest_natCast (n := 1) (by norm_num)
  refine ⟨_, if_pos hrange, Binary64.nearest_nonneg hlow, ?_⟩
  exact (Binary64.nearest_mono hhigh).trans_eq hone

theorem exists_allowedMemory (device : ResourceDevice) (constraints : PartitionConstraints)
    (h : (device.memoryAvailableBytes : ℚ) < Binary64.limit) :
    ∃ allowed, allowedMemory device constraints = .ok allowed := by
  obtain ⟨r, hr, hlow, hhigh⟩ := exists_usableRatio constraints
  have havailable : (0 : ℚ) ≤ device.memoryAvailableBytes := by
    exact_mod_cast device.memoryAvailableBytes_nonneg
  have hnearest := Binary64.nearest_nonneg havailable
  have hrange : |Binary64.nearest device.memoryAvailableBytes * r| < Binary64.limit := by
    have hle := Binary64.abs_nearest_le (q := device.memoryAvailableBytes)
      (by rwa [abs_of_nonneg havailable])
    rw [abs_of_nonneg hnearest] at hle
    rw [abs_of_nonneg (mul_nonneg hnearest hlow)]
    exact ((mul_le_of_le_one_right hnearest hhigh).trans hle).trans_lt Binary64.largest_lt_limit
  have hproduct : PyFloat.mul (.finite (Binary64.nearest device.memoryAvailableBytes)) (.finite r)
      = .finite (Binary64.nearest (Binary64.nearest device.memoryAvailableBytes * r)) := if_pos hrange
  unfold allowedMemory
  rw [exists_ofInt_of_lt device.memoryAvailableBytes_nonneg h]
  dsimp only
  rw [hr, hproduct]
  exact ⟨_, rfl⟩

/-- **Where the bytes of the devices and three times those of the model are in range, so is every
candidate.** -/
theorem inRange_of_bytes (hpolicy : policy.Checked)
    (hknown : ∀ p ∈ roundPlan.participants, p ∈ roundPlan.devices.map (·.deviceId))
    (hlayers : roundPlan.layers ≠ [])
    (hweights : normalized.planType = "training" →
      intent.objectiveWeights.map Prod.fst = trainingObjectives)
    (hmemory : ∀ d ∈ roundPlan.devices, (d.memoryAvailableBytes : ℚ) < Binary64.limit)
    (hbytes : ((3 * (roundPlan.layers.length * totalBytes roundPlan.layers) : ℤ) : ℚ)
      < Binary64.limit) :
    InRange rt policy roundPlan normalized intent exclusions := by
  have htotal : 0 ≤ totalBytes roundPlan.layers :=
    List.sum_nonneg (layerBytes_nonneg roundPlan.layers)
  have hlength : (1 : ℤ) ≤ roundPlan.layers.length := by
    have hpos := List.length_pos_of_ne_nil hlayers
    omega
  have hmost : totalBytes roundPlan.layers
      ≤ 3 * (roundPlan.layers.length * totalBytes roundPlan.layers) := by
    nlinarith
  have hlimit : ∀ {n : ℤ}, n ≤ 3 * (roundPlan.layers.length * totalBytes roundPlan.layers) →
      (n : ℚ) < Binary64.limit := fun hn => lt_of_le_of_lt (by exact_mod_cast hn) hbytes
  have hconverts : Converts (fun _ => False) policy roundPlan := by
    refine ⟨fun demand available hdemand hle => ?_, fun device hdevice => ?_,
      fun link layer hlayer => ?_, fun bytes hnonneg hle => ?_⟩
    · obtain ⟨x, hx⟩ := exists_intQuotient hdemand (le_max_left 1 available) (hlimit (hle.trans hmost))
      rw [hx]
      exact raises_ok x
    · obtain ⟨x, hx⟩ := exists_allowedMemory device roundPlan.constraints
        (hmemory device hdevice)
      rw [hx]
      exact raises_ok x
    · have hactivation := hlimit ((activationBytes_le hlayer).trans hmost)
      unfold transferTime
      rw [exists_ofInt_of_lt layer.activationBytes_nonneg hactivation]
      exact raises_ok _
    · obtain ⟨x, hx⟩ := exists_intQuotient hnonneg hpolicy.transferReferenceBytes (hlimit hle)
      rw [hx]
      exact raises_ok x
  exact fun s hs hfailed => raises_buildCandidate hconverts hknown hweights hlayers hs _ hfailed

end Planning

end ModelPartitionOrchestrationAgent

end Partition
end AiopsK8s
