/-
# The layout of a candidate

What the planner builds when nothing rejects it.  The runs between the boundaries of a split are
the layers of the model in their order (`flatten_runs`), so the partitions of a split cover the
model; each is held by its own participant, fits the memory that the device has left and the limits
of a replanning (`Fits`), and is joined to the next one by a link that is not excluded
(`SplitLayout`).  A federated candidate places the whole model on every participant and joins all of
them to the first (`ReplicaLayout`).
-/

import AiopsK8s.Lib.Decimal
import AiopsK8s.Lib.Neighbours
import AiopsK8s.Partition.Feedback
import AiopsK8s.Partition.Optimality
import AiopsK8s.Partition.Selection

namespace AiopsK8s
namespace Partition
namespace ModelPartitionOrchestrationAgent

open Effect

/-! ### Runs of layers -/

theorem flatten_slices {α : Type} (l : List α) (bounds : List ℕ) (a n : ℕ)
    (h : (a :: bounds ++ [n]).Pairwise (· ≤ ·)) :
    (((a :: bounds ++ [n]).zip (a :: bounds ++ [n]).tail).map fun (start, stop) =>
      (l.drop start).take (stop - start)).flatten = (l.drop a).take (n - a) := by
  induction bounds generalizing a with
  | nil => simp
  | cons b bounds ih =>
      rw [List.cons_append, List.pairwise_cons] at h
      obtain ⟨ha, hrest⟩ := h
      have hab : a ≤ b := ha b (by simp)
      have hbn : b ≤ n := by
        rw [List.cons_append, List.pairwise_cons] at hrest
        exact hrest.1 n (by simp)
      have hrest := ih b hrest
      simp only [List.cons_append, List.tail_cons, List.zip_cons_cons, List.map_cons,
        List.flatten_cons] at hrest ⊢
      rw [hrest, show n - a = (b - a) + (n - b) by omega, List.take_add, List.drop_drop,
        show a + (b - a) = b by omega]

/-- **The runs of a split are the layers of the model.** -/
theorem flatten_runs {layers : List ModelLayer} {splitPoints : List ℕ}
    (hincreasing : splitPoints.Pairwise (· < ·))
    (hinterior : ∀ b ∈ splitPoints, 1 ≤ b ∧ b < layers.length) :
    (runs layers splitPoints).flatten = layers := by
  have hbounds : (0 :: splitPoints ++ [layers.length]).Pairwise (· ≤ ·) := by
    rw [List.cons_append, List.pairwise_cons, List.pairwise_append]
    refine ⟨fun b _ => b.zero_le, hincreasing.imp le_of_lt, by simp, fun b hb c hc => ?_⟩
    rw [List.mem_singleton.1 hc]
    exact (hinterior b hb).2.le
  have hflatten := flatten_slices layers splitPoints 0 layers.length hbounds
  rw [List.drop_zero, Nat.sub_zero, List.take_length] at hflatten
  exact hflatten

/-! ### Partitions -/

theorem partitionName_injective : Function.Injective partitionName := by
  intro i j h
  have hdigits : (toString (i + 1)).toList = (toString (j + 1)).toList := by
    have hchars := congrArg String.toList h
    simpa [partitionName] using hchars
  have hvalue := congrArg UnicodeDecimals.ascii.value (String.toList_inj.1 hdigits)
  rw [UnicodeDecimals.value_toString, UnicodeDecimals.value_toString] at hvalue
  omega

/-- A partition holds some layers of the model and fits its device: their memory demand is within
what the constraints leave of the device and within the limit of a replanning. -/
def Fits (roundPlan : RoundPlan) (limits : List (String × ℤ)) (p : LogicalPartition) : Prop :=
  ∃ run device allowed, p.layerNames = run.map (·.name) ∧
    (∀ layer ∈ run, layer ∈ roundPlan.layers) ∧ run ≠ [] ∧
    memoryDemand run = .ok p.memoryDemandBytes ∧
    (devicesOf roundPlan).lookup p.deviceId = some device ∧
    allowedMemory device roundPlan.constraints = .ok allowed ∧ p.memoryDemandBytes ≤ allowed ∧
    ∀ limit ∈ limits.lookup p.deviceId, p.memoryDemandBytes ≤ limit

/-- There is a link between two devices that is not excluded. -/
def Linked (roundPlan : RoundPlan) (exclusions : Exclusions) (source target : String) : Prop :=
  (source, target) ∈ roundPlan.networkLinks.map (·.pair) ∧
    (source, target) ∉ exclusions.excludedLinks

variable {rt : Runtime} {roundPlan : RoundPlan} {limits : List (String × ℤ)}
  {participants : List String} {runs : List (List ModelLayer)} {placed : List Placement}

theorem memoryReasons_eq_nil {deviceId : String} {allowed demand : ℤ} :
    memoryReasons limits deviceId allowed demand = [] ↔
      demand ≤ allowed ∧ ∀ limit ∈ limits.lookup deviceId, demand ≤ limit := by
  unfold memoryReasons
  rcases limits.lookup deviceId with _ | limit
  · simp
  · simp

/-- Placements that nothing rejects fit. -/
theorem fits_placements (h : placements rt roundPlan limits participants runs = .ok placed)
    (hlayers : ∀ run ∈ runs, run ≠ [] ∧ ∀ layer ∈ run, layer ∈ roundPlan.layers)
    (hreasons : placed.flatMap (·.rejectionReasons) = []) :
    ∀ p ∈ placed.map (·.partition), Fits roundPlan limits p := by
  intro p hp
  obtain ⟨placement, hplacement, rfl⟩ := List.mem_map.1 hp
  obtain ⟨⟨⟨deviceId, run⟩, index⟩, hitem, hplace⟩ := exists_of_mem_mapM h hplacement
  obtain ⟨-, hdevice, hnames, hdemand, device, allowed, hlookup, hallowed, hreason⟩ :=
    place_eq_ok hplace
  have hrun := hlayers run (List.of_mem_zip (List.fst_mem_of_mem_zipIdx hitem)).2
  have hnone : placement.rejectionReasons = [] := List.flatMap_eq_nil_iff.1 hreasons _ hplacement
  rw [hreason] at hnone
  obtain ⟨hle, hlimit⟩ := memoryReasons_eq_nil.1 hnone
  refine ⟨run, device, allowed, hnames, hrun.2, hrun.1, hdemand, ?_, hallowed, hle, ?_⟩
  · rw [hdevice]
    exact hlookup
  · rw [hdevice]
    exact hlimit

theorem nodup_partitionIds {partitions : List LogicalPartition} {n : ℕ}
    (h : partitions.map (·.partitionId) = (List.range n).map partitionName) :
    (partitions.map (·.partitionId)).Nodup := by
  rw [h]
  exact List.Nodup.map partitionName_injective List.nodup_range

/-! ### Hops -/

/-- The ends of an edge and its type. -/
def endpoints (edge : ExecutionGraphEdge) : String × String × String :=
  (edge.sourcePartition, edge.targetPartition, edge.edgeType)

/-- A hop that is not rejected goes over a link. -/
theorem hop_joined {exclusions : Exclusions} {source target : LogicalPartition}
    {targetNode edgeType : String} {bytes : ℤ} {joint : Hop}
    (h : hop roundPlan exclusions.excludedLinks source target targetNode edgeType bytes = .ok joint)
    (hreason : joint.reason = none) :
    Linked roundPlan exclusions source.deviceId target.deviceId ∧
      joint.edge.map endpoints = some (source.partitionId, targetNode, edgeType) := by
  unfold hop at h
  dsimp only at h
  split_ifs at h with hexcluded
  · obtain rfl := Except.ok.inj h
    cases hreason
  · rcases hlink : (linksOf roundPlan).lookup (source.deviceId, target.deviceId) with _ | link
    · rw [hlink] at h
      obtain rfl := Except.ok.inj h
      cases hreason
    · rw [hlink] at h
      obtain ⟨_, _, h⟩ := bind_eq_ok h
      obtain rfl := Except.ok.inj h
      obtain ⟨before, after, hsplit, -⟩ := List.lookup_eq_some_iff.1 hlink
      have hitem : ((source.deviceId, target.deviceId), link) ∈ linksOf roundPlan := by simp [hsplit]
      obtain ⟨l, hl, heq⟩ := List.mem_map.1 (Dict.mem_of_lookup_reverse (Dict.mem_ofEntries.1 hitem))
      exact ⟨⟨List.mem_map.2 ⟨l, hl, (Prod.mk.inj heq).1⟩, hexcluded⟩, rfl⟩

theorem reason_of_mem {joined : List Hop} (h : joined.filterMap Hop.reason = []) {hop : Hop}
    (hhop : hop ∈ joined) : hop.reason = none := by
  rw [List.filterMap_eq_nil_iff] at h
  exact h hop hhop

/-- The edges of hops that are not rejected. -/
theorem edges_of_joined {α : Type} {items : List α} {joined : List Hop} {P : α → Prop}
    {shape : α → String × String × String} (hreasons : joined.filterMap Hop.reason = [])
    (h : List.Forall₂ (fun item hop => hop.reason = none →
      P item ∧ hop.edge.map endpoints = some (shape item)) items joined) :
    (∀ item ∈ items, P item) ∧ (joined.filterMap Hop.edge).map endpoints = items.map shape := by
  induction h with
  | nil => exact ⟨List.forall_mem_nil P, rfl⟩
  | @cons item hop items joined hpass _ ih =>
      have hnone := reason_of_mem hreasons List.mem_cons_self
      rw [List.filterMap_cons_none hnone] at hreasons
      obtain ⟨hitem, hedge⟩ := hpass hnone
      obtain ⟨hitems, hedges⟩ := ih hreasons
      obtain ⟨edge, hsome, hshape⟩ := Option.map_eq_some_iff.1 hedge
      refine ⟨List.forall_mem_cons.2 ⟨hitem, hitems⟩, ?_⟩
      rw [List.filterMap_cons_some hsome, List.map_cons, List.map_cons, hshape, hedges]

/-! ### Layouts -/

/-- The nodes of the execution graph with their devices. -/
def nodesOf (c : PartitionCandidate) : List (String × String) :=
  c.graphNodes.map fun n => (n.partitionId, n.deviceId)

/-- Where the partitions of a candidate are, and that they fit. -/
structure Layout (roundPlan : RoundPlan) (exclusions : Exclusions) (participants : List String)
    (c : PartitionCandidate) : Prop where
  valid : c.valid = true
  ids : c.partitions.map (·.partitionId) = (List.range c.partitions.length).map partitionName
  devices : c.partitions.map (·.deviceId) = participants
  fits : ∀ p ∈ c.partitions, Fits roundPlan exclusions.memoryLimits p
  transfer : ∀ limit ∈ roundPlan.constraints.maxTransferBytes, c.totalTransferBytes ≤ limit
  latency : ∀ limit ∈ roundPlan.constraints.maxEndToEndLatencyMs, ∃ ms ≤ limit,
    c.estimatedTotalLatencyMs = (PyFloat.finite ms).round6

/-- The graph of an inference candidate: its partitions, each joined to the next one. -/
structure ForwardGraph (c : PartitionCandidate) : Prop where
  nodes : nodesOf c = c.partitions.map fun p => (p.partitionId, p.deviceId)
  edges : c.graphEdges.map endpoints =
    c.consecutive.map fun pair => (pair.1.partitionId, pair.2.partitionId, "forward")

/-- The name of the forward pass of a partition. -/
def forwardName (p : LogicalPartition) : String := s!"{p.partitionId}:forward"

/-- The name of the backward pass of a partition. -/
def backwardName (p : LogicalPartition) : String := s!"{p.partitionId}:backward"

/-- The graph of a training candidate: the forward pass, the backward pass in the opposite order,
and the aggregation on the first device. -/
structure TrainingGraph (c : PartitionCandidate) (first last : LogicalPartition) : Prop where
  head : c.partitions.head? = some first
  getLast : c.partitions.getLast? = some last
  nodes : nodesOf c = c.partitions.map (fun p => (forwardName p, p.deviceId)) ++
    c.partitions.reverse.map (fun p => (backwardName p, p.deviceId)) ++
    [("aggregation", first.deviceId)]
  edges : c.graphEdges.map endpoints =
    c.consecutive.map (fun pair => (forwardName pair.1, forwardName pair.2, "forward")) ++
    [(forwardName last, backwardName last, "gradient")] ++
    (c.consecutive.map fun pair =>
      (backwardName pair.2, backwardName pair.1, "backward")).reverse ++
    [(backwardName first, "aggregation", "aggregation")]

/-- The layout of a split: the partitions hold the layers of the model in their order, and each is
linked to the next one. -/
structure SplitLayout (roundPlan : RoundPlan) (exclusions : Exclusions) (participants : List String)
    (training : Bool) (c : PartitionCandidate) : Prop
    extends Layout roundPlan exclusions participants c where
  covers : c.partitions.flatMap (·.layerNames) = roundPlan.layers.map (·.name)
  linked : ∀ pair ∈ c.consecutive, Linked roundPlan exclusions pair.1.deviceId pair.2.deviceId
  forward : training = false → ForwardGraph c
  backward : training = true → ∃ first last, TrainingGraph c first last

/-- The layout of a federated candidate: every partition is a replica of the model, and all are
linked to the first. -/
structure ReplicaLayout (roundPlan : RoundPlan) (exclusions : Exclusions)
    (participants : List String) (c : PartitionCandidate) (aggregator : LogicalPartition)
    (remote : List LogicalPartition) : Prop
    extends Layout roundPlan exclusions participants c where
  partitions : c.partitions = aggregator :: remote
  replicas : ∀ p ∈ c.partitions, p.layerNames = roundPlan.layers.map (·.name)
  linked : ∀ p ∈ remote, Linked roundPlan exclusions p.deviceId aggregator.deviceId
  nodes : nodesOf c = c.partitions.map (fun p => (p.partitionId, p.deviceId)) ++
    [("aggregation", aggregator.deviceId)]
  edges : c.graphEdges.map endpoints =
    remote.map fun p => (p.partitionId, "aggregation", "aggregation")

variable {policy : ModelPartitionPolicy} {exclusions : Exclusions} {splitPoints : List ℕ}
  {candidate : PartitionCandidate}

/-- A time that no limit rejects is finite. -/
theorem limitReasons_eq_nil {constraints : PartitionConstraints} {transferBytes : ℤ}
    {latencyMs : PyFloat} (hlatency : latencyMs.Nonneg)
    (h : limitReasons constraints transferBytes latencyMs = []) :
    (∀ limit ∈ constraints.maxTransferBytes, transferBytes ≤ limit) ∧
      ∀ limit ∈ constraints.maxEndToEndLatencyMs, ∃ ms ≤ limit, latencyMs = .finite ms := by
  unfold limitReasons at h
  obtain ⟨htransfer, hslo⟩ := List.append_eq_nil_iff.1 h
  rw [ite_eq_right_iff] at htransfer hslo
  refine ⟨fun limit hlimit => ?_, fun limit hlimit => ?_⟩
  · by_contra hlt
    exact List.cons_ne_nil _ _ (htransfer ⟨limit, hlimit, not_le.1 hlt⟩)
  · have hlt : ¬PyFloat.lt (.finite limit) latencyMs = true := fun hlt =>
      List.cons_ne_nil _ _ (hslo ⟨limit, hlimit, hlt⟩)
    cases latencyMs with
    | finite ms => exact ⟨ms, by simpa [PyFloat.lt] using hlt, rfl⟩
    | posInf => exact absurd rfl hlt
    | negInf => cases hlatency
    | nan => cases hlatency

/-- The hops between the partitions of a split, where nothing rejects them. -/
theorem hops_joined {partitions : List LogicalPartition} {joined : List Hop}
    (h : hops roundPlan exclusions.excludedLinks splitPoints partitions = .ok joined)
    (hlength : splitPoints.length + 1 = partitions.length)
    (hreasons : joined.filterMap Hop.reason = []) :
    (joined.filterMap Hop.edge).map endpoints = (partitions.zip partitions.tail).map
        (fun pair => (pair.1.partitionId, pair.2.partitionId, "forward")) ∧
      ∀ pair ∈ partitions.zip partitions.tail,
        Linked roundPlan exclusions pair.1.deviceId pair.2.deviceId := by
  have hpass := (mapM_eq_ok h).imp (S := fun item hop' => hop'.reason = none →
      Linked roundPlan exclusions item.1.1.deviceId item.1.2.deviceId ∧
        hop'.edge.map endpoints = some (item.1.1.partitionId, item.1.2.partitionId, "forward"))
    fun item hop' hitem hreason => by
      obtain ⟨⟨source, target⟩, boundary⟩ := item
      simp only at hitem
      split at hitem
      · cases hitem
      · exact hop_joined hitem hreason
  obtain ⟨hlinked, hedges⟩ := edges_of_joined
    (P := fun item : (LogicalPartition × LogicalPartition) × ℕ =>
      Linked roundPlan exclusions item.1.1.deviceId item.1.2.deviceId) hreasons hpass
  have hfst : ((partitions.zip partitions.tail).zip splitPoints).map Prod.fst
      = partitions.zip partitions.tail := by
    refine List.map_fst_zip ?_
    rw [List.length_zip, List.length_tail]
    omega
  refine ⟨?_, fun pair hpair => ?_⟩
  · refine hedges.trans (Eq.trans ?_ (congrArg (·.map fun pair : _ × _ =>
      (pair.1.partitionId, pair.2.partitionId, "forward")) hfst))
    rw [List.map_map]
    rfl
  · rw [← hfst] at hpair
    obtain ⟨item, hitem, rfl⟩ := List.mem_map.1 hpair
    exact hlinked item hitem

/-- The graph of a split with an intent. -/
theorem trainingGraph_buildTrainingGraph {c : PartitionCandidate} {first last : LogicalPartition}
    {joined : List Hop} {computeMs : List PyFloat} (hhead : c.partitions.head? = some first)
    (hlast : c.partitions.getLast? = some last)
    (hnodes : c.graphNodes = (buildTrainingGraph rt c.partitions first last
      (forwardGraph c.partitions joined) computeMs).nodes)
    (hedges : c.graphEdges = (buildTrainingGraph rt c.partitions first last
      (forwardGraph c.partitions joined) computeMs).edges)
    (hjoined : (joined.filterMap Hop.edge).map endpoints = c.consecutive.map
      fun pair => (pair.1.partitionId, pair.2.partitionId, "forward")) :
    TrainingGraph c first last := by
  have hshape : ∀ f : String × String × String → String × String × String,
      (joined.filterMap Hop.edge).map (fun e => f (endpoints e)) =
        c.consecutive.map fun pair => f (pair.1.partitionId, pair.2.partitionId, "forward") := by
    intro f
    have hmap := congrArg (List.map f) hjoined
    rwa [List.map_map, List.map_map] at hmap
  refine ⟨hhead, hlast, ?_, ?_⟩
  · rw [nodesOf, hnodes]
    simp [buildTrainingGraph, forwardName, backwardName, Function.comp_def]
  · rw [hedges]
    have hforward := hshape fun ends => (s!"{ends.1}:forward", s!"{ends.2.1}:forward", "forward")
    have hbackward := hshape fun ends =>
      (s!"{ends.2.1}:backward", s!"{ends.1}:backward", "backward")
    simp only [endpoints] at hforward hbackward
    simp only [buildTrainingGraph, forwardGraph, List.map_append, List.map_map, List.map_reverse,
      Function.comp_def, endpoints, List.map_cons, List.map_nil, hforward, hbackward, forwardName,
      backwardName]

/-- **A split that nothing rejects is laid out as its kind demands.** -/
theorem splitLayout_buildCandidate {intent : Option PartitionIntent}
    (hincreasing : splitPoints.Pairwise (· < ·))
    (hinterior : ∀ b ∈ splitPoints, 1 ≤ b ∧ b < roundPlan.layers.length)
    (hlength : splitPoints.length + 1 = participants.length) (hlayers : roundPlan.layers ≠ [])
    (h : buildCandidate rt policy roundPlan participants splitPoints exclusions intent = .ok candidate)
    (hvalid : candidate.rejectionReasons = []) :
    SplitLayout roundPlan exclusions participants intent.isSome candidate := by
  obtain ⟨placed, hplaced, h⟩ := bind_eq_ok h
  obtain ⟨joined, hjoined, h⟩ := bind_eq_ok h
  obtain ⟨score, _, h⟩ := bind_eq_ok h
  obtain rfl := Except.ok.inj h
  dsimp only at hvalid
  obtain ⟨hreasons, hlimits⟩ := List.append_eq_nil_iff.1 hvalid
  obtain ⟨hplacedReasons, hjoinedReasons⟩ := List.append_eq_nil_iff.1 hreasons
  obtain ⟨-, hcompute, -⟩ := figures_placed (figures_placements hplaced)
  have hgraph : (graphOf rt intent (placed.map (·.partition)) joined
      (placed.map (·.computeMs))).Figures := figures_graphOf (figures_hops hjoined) hcompute
  obtain ⟨htransfer, hlatency⟩ := limitReasons_eq_nil
    (nonneg_latency intent hcompute hgraph) hlimits
  have hruns : participants.length = (ModelPartitionOrchestrationAgent.runs roundPlan.layers
      splitPoints).length := by
    rw [length_runs]
    exact hlength.symm
  obtain ⟨hids, hdevices, hnames⟩ := layout_placements hplaced hruns
  have hcount : (placed.map (·.partition)).length = participants.length := by
    rw [← hdevices]
    simp
  have hrun : ∀ run ∈ ModelPartitionOrchestrationAgent.runs roundPlan.layers splitPoints,
      run ≠ [] ∧ ∀ layer ∈ run, layer ∈ roundPlan.layers := by
    refine fun run hrun => ⟨runs_ne_nil hincreasing hinterior hlayers hrun, fun layer hlayer => ?_⟩
    have hmem := List.mem_flatten.2 ⟨run, hrun, hlayer⟩
    rwa [flatten_runs hincreasing hinterior] at hmem
  have hfits := fits_placements hplaced hrun hplacedReasons
  have hhops := hops_joined hjoined (hlength.trans hcount.symm) hjoinedReasons
  refine ⟨⟨?_, ?_, hdevices, hfits, htransfer, fun limit hlimit => ?_⟩,
    ?_, hhops.2, fun htraining => ?_, fun htraining => ?_⟩
  · dsimp only
    rw [hvalid]
    rfl
  · dsimp only
    rw [hcount]
    exact hids
  · obtain ⟨ms, hms, heq⟩ := hlatency limit hlimit
    exact ⟨ms, hms, congrArg PyFloat.round6 heq⟩
  · dsimp only
    rw [List.flatMap_def, hnames, ← List.map_flatten, flatten_runs hincreasing hinterior]
  · obtain rfl : intent = none := by simpa using htraining
    refine ⟨?_, hhops.1⟩
    simp [nodesOf, graphOf, forwardGraph, Function.comp_def]
  · obtain ⟨i, rfl⟩ := Option.isSome_iff_exists.1 htraining
    have hne : placed.map (·.partition) ≠ [] := by
      intro hnil
      rw [hnil, List.length_nil] at hcount
      omega
    have hhead := List.head?_eq_some_head hne
    have hlast := List.getLast?_eq_some_getLast hne
    have hgraph : graphOf rt (some i) (placed.map (·.partition)) joined (placed.map (·.computeMs)) =
        buildTrainingGraph rt (placed.map (·.partition)) ((placed.map (·.partition)).head hne)
          ((placed.map (·.partition)).getLast hne) (forwardGraph (placed.map (·.partition)) joined)
          (placed.map (·.computeMs)) := by
      unfold graphOf
      rw [hhead, hlast]
    exact ⟨_, _, trainingGraph_buildTrainingGraph hhead hlast (congrArg GraphSummary.nodes hgraph)
      (congrArg GraphSummary.edges hgraph) hhops.1⟩

/-- **A federated candidate that nothing rejects is laid out as replicas.** -/
theorem replicaLayout_buildFederated {intent : PartitionIntent} (hlayers : roundPlan.layers ≠ [])
    (h : buildFederatedFullModelCandidate rt policy roundPlan participants exclusions intent
      = .ok candidate) (hvalid : candidate.rejectionReasons = []) :
    ∃ aggregator remote,
      ReplicaLayout roundPlan exclusions participants candidate aggregator remote := by
  obtain ⟨placed, hplaced, h⟩ := bind_eq_ok h
  have hruns : participants.length = (participants.map fun _ => roundPlan.layers).length := by simp
  obtain ⟨hids, hdevices, hnames⟩ := layout_placements hplaced hruns
  have hcount : (placed.map (·.partition)).length = participants.length := by
    rw [← hdevices]
    simp
  have hrun : ∀ run ∈ participants.map fun _ => roundPlan.layers,
      run ≠ [] ∧ ∀ layer ∈ run, layer ∈ roundPlan.layers := by
    intro run hrun
    obtain ⟨_, _, rfl⟩ := List.mem_map.1 hrun
    exact ⟨hlayers, fun _ hlayer => hlayer⟩
  rcases hpartitions : placed.map (·.partition) with _ | ⟨aggregator, remote⟩
  · simp only [hpartitions] at h
    cases h
  · simp only [hpartitions] at h
    obtain ⟨joined, hjoined, h⟩ := bind_eq_ok h
    obtain ⟨score, _, h⟩ := bind_eq_ok h
    obtain rfl := Except.ok.inj h
    dsimp only at hvalid
    obtain ⟨hreasons, hlimits⟩ := List.append_eq_nil_iff.1 hvalid
    obtain ⟨hplacedReasons, hjoinedReasons⟩ := List.append_eq_nil_iff.1 hreasons
    obtain ⟨-, hcompute, -⟩ := figures_placed (figures_placements hplaced)
    have hstep := (nonneg_maxOrZero hcompute).add
      (nonneg_maxOrZero (nonneg_transferMs (figures_remote hjoined)))
    obtain ⟨htransfer, hlatency⟩ := limitReasons_eq_nil hstep hlimits
    have hfits := fits_placements hplaced hrun hplacedReasons
    rw [hpartitions] at hids hdevices hnames hcount hfits
    have hpass := (mapM_eq_ok hjoined).imp (S := fun partition hop' => hop'.reason = none →
        Linked roundPlan exclusions partition.deviceId aggregator.deviceId ∧
          hop'.edge.map endpoints = some (partition.partitionId, "aggregation", "aggregation"))
      fun partition hop' hitem hreason => hop_joined hitem hreason
    obtain ⟨hlinked, hedges⟩ := edges_of_joined
      (P := fun partition : LogicalPartition =>
        Linked roundPlan exclusions partition.deviceId aggregator.deviceId) hjoinedReasons hpass
    refine ⟨aggregator, remote, ⟨?_, ?_, hdevices, hfits, htransfer, fun limit hlimit => ?_⟩, rfl,
      fun p hp => ?_, hlinked, ?_, hedges⟩
    · dsimp only
      rw [hvalid]
      rfl
    · dsimp only
      rw [hcount]
      exact hids
    · obtain ⟨ms, hms, heq⟩ := hlatency limit hlimit
      exact ⟨ms, hms, congrArg PyFloat.round6 heq⟩
    · have hmem := List.mem_map_of_mem (f := (·.layerNames)) hp
      rw [hnames, List.map_map] at hmem
      obtain ⟨_, _, heq⟩ := List.mem_map.1 hmem
      exact heq.symm
    · simp [nodesOf, Function.comp_def]

/-! ### What a plan chooses -/

/-- What a plan is: a refusal, or the choice of a candidate that is laid out for its strategy over
the participants that are left. -/
def Chosen (roundPlan : RoundPlan) (normalized : NormalizedPartitionRequest)
    (intent : PartitionIntent) (exclusions : Exclusions) (plan : PartitionExecutionPlan) : Prop :=
  (plan.valid = false ∧ plan.selectedCandidate = none) ∨
  ∃ selected, plan.valid = true ∧ plan.selectedCandidate = some selected ∧
    2 ≤ (survivors roundPlan exclusions).length ∧
    ((intent.strategyId = "federated-full-model-v1" ∧ ∃ aggregator remote, ReplicaLayout roundPlan
        exclusions (survivors roundPlan exclusions) selected aggregator remote) ∨
      (intent.strategyId ≠ "federated-full-model-v1" ∧ ∃ splitPoints,
        Split roundPlan normalized intent exclusions splitPoints ∧
        selected.splitPoints = splitPoints.map Int.ofNat ∧
        SplitLayout roundPlan exclusions (survivors roundPlan exclusions)
          (candidateIntent normalized intent).isSome selected))

variable {normalized : NormalizedPartitionRequest} {intent : PartitionIntent}
  {planId : String} {p : PartitionExecutionPlan}

/-- A federated candidate is valid when nothing rejects it. -/
theorem valid_buildFederated {participants : List String}
    (h : buildFederatedFullModelCandidate rt policy roundPlan participants exclusions intent
      = .ok candidate) : candidate.valid = true ↔ candidate.rejectionReasons = [] := by
  obtain ⟨placed, _, h⟩ := bind_eq_ok h
  dsimp only at h
  split at h
  · cases h
  · obtain ⟨_, _, h⟩ := bind_eq_ok h
    obtain ⟨score, _, h⟩ := bind_eq_ok h
    obtain rfl := Except.ok.inj h
    exact List.isEmpty_iff

open GuardedCandidateSelector in
/-- What is selected among candidates with distinct keys is valid. -/
theorem valid_of_final {cs : List PartitionCandidate} {context : RankingContext}
    (hkeys : (cs.map (candidateKey rt context.strategyVersion)).Nodup) {key : String}
    (hfinal : Final rt context cs (some key)) {c : PartitionCandidate}
    (hlookup : (Dict.ofEntries (cs.map fun c => (candidateKey rt context.strategyVersion c, c))).lookup
      key = some c) : c ∈ cs ∧ c.valid = true := by
  obtain hmem | ⟨-, hnone⟩ := hfinal
  · obtain ⟨key', hkey', hsome⟩ := List.mem_map.1 hmem
    obtain rfl := Option.some.inj hsome
    obtain ⟨d, hd, rfl⟩ := List.mem_map.1 hkey'
    obtain ⟨hd, hvalid⟩ := List.mem_filter.1 hd
    rw [lookup_candidateKey hkeys hd] at hlookup
    obtain rfl := Option.some.inj hlookup
    exact ⟨hd, hvalid⟩
  · cases hnone

/-- A federated plan chooses its one candidate where nothing rejects it. -/
theorem chosen_federated {selection : CandidateSelection} {context : RankingContext}
    (hid : intent.strategyId = "federated-full-model-v1")
    (htwo : 2 ≤ (survivors roundPlan exclusions).length) (hlayers : roundPlan.layers ≠ [])
    (hbuilt : buildFederatedFullModelCandidate rt policy roundPlan (survivors roundPlan exclusions)
      exclusions intent = .ok candidate)
    (hfinal : GuardedCandidateSelector.Final rt context [candidate]
      selection.finalSelectedCandidateKey) :
    Chosen roundPlan normalized intent exclusions
      (federatedPlanOfSelection policy planId roundPlan candidate selection) := by
  unfold federatedPlanOfSelection
  rcases hkey : selection.finalSelectedCandidateKey with _ | key
  · exact .inl ⟨rfl, rfl⟩
  · rw [hkey] at hfinal
    have hvalid : candidate.valid = true := by
      obtain hmem | ⟨-, hnone⟩ := hfinal
      · obtain ⟨key', hkey', -⟩ := List.mem_map.1 hmem
        obtain ⟨d, hd, -⟩ := List.mem_map.1 hkey'
        obtain ⟨hd, hvalid⟩ := List.mem_filter.1 hd
        rwa [List.mem_singleton.1 hd] at hvalid
      · cases hnone
    have hreasons := (valid_buildFederated hbuilt).1 hvalid
    exact .inr ⟨candidate, rfl, rfl, htwo,
      .inl ⟨hid, replicaLayout_buildFederated hlayers hbuilt hreasons⟩⟩

/-- **What `_plan` chooses is laid out for the strategy of the request**, in every selection mode. -/
theorem chosen_planSelecting {sel : Selecting rt} {request : PartitionPlanningRequest}
    (hrequest : PartitionCommonProcessor.process rt request = .ok normalized)
    (hkeys : KeysDistinct rt policy normalized.roundPlan normalized intent exclusions)
    (h : planSelecting rt sel policy planId normalized.roundPlan exclusions normalized intent
      = .ok p) : Chosen normalized.roundPlan normalized intent exclusions p := by
  obtain ⟨-, hparticipants, hlayers, hdevices, -, -, hfeasible⟩ :=
    PartitionCommonProcessor.process_eq_ok hrequest
  obtain ⟨-, hne, hknown⟩ := PartitionCommonProcessor.validateFeasibility_eq_ok hfeasible
  rw [← hparticipants, ← hdevices] at hknown
  unfold planSelecting at h
  dsimp only at h
  split_ifs at h with hid hfew hfew
  · obtain rfl := Except.ok.inj h
    exact .inl ⟨rfl, rfl⟩
  · obtain ⟨candidate, hbuilt, h⟩ := bind_eq_ok h
    obtain ⟨selection, hselection, h⟩ := bind_eq_ok h
    obtain rfl := Except.ok.inj h
    rw [not_or] at hfew
    exact chosen_federated hid (not_lt.1 hfew.1) hfew.2 hbuilt
      (GuardedCandidateSelector.select_sound hselection).final
  · obtain rfl := Except.ok.inj h
    exact .inl ⟨rfl, rfl⟩
  · rw [not_or, not_lt, not_lt] at hfew
    obtain ⟨cs, hcs, h⟩ := bind_eq_ok h
    obtain ⟨hnodup, hmem⟩ := candidates_spec (by omega) hkeys hcs
    obtain ⟨selection, hselection, h⟩ := bind_eq_ok h
    obtain rfl := Except.ok.inj h
    have hfinal := (GuardedCandidateSelector.select_sound hselection).final
    unfold planOfSelection
    dsimp only
    rcases hkey : selection.finalSelectedCandidateKey with _ | key
    · exact .inl ⟨rfl, rfl⟩
    rw [hkey] at hfinal
    rw [Option.bind_some]
    rcases hlookup : (Dict.ofEntries (cs.map fun c =>
      (candidateKey rt intent.strategyVersion c, c))).lookup key with _ | selected
    · exact .inl ⟨rfl, rfl⟩
    obtain ⟨hselected, hvalid⟩ := valid_of_final hnodup hfinal hlookup
    obtain ⟨splitPoints, hsplit, hbuilds⟩ := (hmem selected).1 hselected
    exact .inr ⟨selected, rfl, rfl, hfew.1, .inr ⟨hid, splitPoints, hsplit, hbuilds.spec.1,
      splitLayout_buildCandidate hsplit.increasing hsplit.interior hsplit.length hne hbuilds
        (hbuilds.spec.2.1 hvalid)⟩⟩

end ModelPartitionOrchestrationAgent
end Partition
end AiopsK8s
