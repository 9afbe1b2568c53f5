/-
# The rules on the graph of a layout

What the validator finds in the execution graph of a candidate that the planner has laid out:
nothing.  The nodes are named after the partitions and lie in an order in which every edge goes
forward, so the graph has no cycle, and every edge joins two devices as its type allows (`Drawn`,
`graphRules_of_drawn`).  The three kinds of graph of the planner, forward, training and aggregation,
are instances.
-/

import AiopsK8s.Partition.Acceptance
import AiopsK8s.Partition.Layout

namespace AiopsK8s
namespace Partition

open Effect ModelPartitionOrchestrationAgent

namespace PartitionPlanValidator

/-! ### Names -/

theorem forward_inj {a b : String} (h : s!"{a}:forward" = s!"{b}:forward") : a = b := by
  have hchars := congrArg String.toList h
  exact String.toList_inj.1 (by simpa [toString] using hchars)

theorem backward_inj {a b : String} (h : s!"{a}:backward" = s!"{b}:backward") : a = b := by
  have hchars := congrArg String.toList h
  exact String.toList_inj.1 (by simpa [toString] using hchars)

theorem forward_ne_backward (a b : String) : s!"{a}:forward" ≠ s!"{b}:backward" := by
  intro h
  have hchars := congrArg (fun s => s.toList.reverse) h
  simp [toString] at hchars

theorem forward_ne_aggregation (a : String) : s!"{a}:forward" ≠ "aggregation" := by
  intro h
  have hchars := congrArg (fun s => s.toList.reverse) h
  simp [toString] at hchars

theorem backward_ne_aggregation (a : String) : s!"{a}:backward" ≠ "aggregation" := by
  intro h
  have hchars := congrArg (fun s => s.toList.reverse) h
  simp [toString] at hchars

theorem partitionName_ne_aggregation (i : ℕ) : partitionName i ≠ "aggregation" := by
  intro h
  have hchars := congrArg (fun s => s.toList.head?) h
  simp [partitionName, toString] at hchars

/-- The names of the forward passes, the backward passes and the aggregation are distinct. -/
theorem nodup_passes {ids : List String} (h : ids.Nodup) :
    (ids.map (fun id => s!"{id}:forward") ++ ids.map (fun id => s!"{id}:backward") ++
      ["aggregation"]).Nodup := by
  rw [List.nodup_append, List.nodup_append]
  refine ⟨⟨h.map fun _ _ => forward_inj, h.map fun _ _ => backward_inj, ?_⟩, by simp, ?_⟩
  · intro name hname other hother
    obtain ⟨a, _, rfl⟩ := List.mem_map.1 hname
    obtain ⟨b, _, rfl⟩ := List.mem_map.1 hother
    exact forward_ne_backward a b
  · intro name hname other hother
    obtain rfl := List.mem_singleton.1 hother
    rcases List.mem_append.1 hname with hname | hname
    · obtain ⟨a, _, rfl⟩ := List.mem_map.1 hname
      exact forward_ne_aggregation a
    · obtain ⟨a, _, rfl⟩ := List.mem_map.1 hname
      exact backward_ne_aggregation a

/-- Pairs that are listed one after the other, or all first members before all second ones. -/
theorem perm_flatMap_pair {α β : Type} (f g : α → β) (l : List α) :
    (l.flatMap fun a => [f a, g a]).Perm (l.map f ++ l.map g) := by
  induction l with
  | nil => exact .nil
  | cons a l ih =>
      rw [List.flatMap_cons, List.map_cons, List.map_cons, List.cons_append, List.cons_append,
        List.cons_append, List.nil_append]
      refine .cons _ ((List.Perm.cons _ ih).trans ?_)
      exact List.perm_middle.symm

/-! ### Drawings -/

/-- How an edge of a type may go: forward over a link, backward over a link the other way, and to an
aggregation over a link; a gradient, and the aggregation of a training graph, stay on a device. -/
def Allowed (roundPlan : RoundPlan) (exclusions : Exclusions) (edgeType source target : String) :
    Prop :=
  (edgeType = "forward" ∧ Linked roundPlan exclusions source target) ∨
  (edgeType = "backward" ∧ Linked roundPlan exclusions target source) ∨
  (edgeType = "gradient" ∧ source = target) ∨
  (edgeType = "aggregation" ∧ (source = target ∨ Linked roundPlan exclusions source target))

section Rules

variable {roundPlan : RoundPlan} {plan : PartitionExecutionPlan} {c : PartitionCandidate}
  {entries : List (String × LogicalPartition)} {exclusions : Exclusions}

theorem nodeIds_eq : nodeIds c = (nodesOf c).map Prod.fst := by
  simp [nodeIds, nodesOf, Function.comp_def]

/-- **A drawing of a candidate**: its nodes stand for partitions, each under a name of its own, in an
order in which every edge goes forward, and every edge joins two devices as its type allows. -/
structure Drawn (roundPlan : RoundPlan) (exclusions : Exclusions) (c : PartitionCandidate)
    (entries : List (String × LogicalPartition)) : Prop where
  own : ∀ item ∈ entries, item.2 ∈ c.partitions
  keys : (entries.map Prod.fst).Nodup
  nodes : (nodesOf c).Perm (entries.map fun item => (item.1, item.2.deviceId))
  edges : ∀ edge ∈ c.graphEdges,
    [edge.sourcePartition, edge.targetPartition].Sublist (nodeIds c) ∧
    ∃ source target, (edge.sourcePartition, source) ∈ entries ∧
      (edge.targetPartition, target) ∈ entries ∧
      Allowed roundPlan exclusions edge.edgeType source.deviceId target.deviceId

theorem Drawn.nodup (h : Drawn roundPlan exclusions c entries) : (nodeIds c).Nodup := by
  have hperm := h.nodes.map Prod.fst
  rw [List.map_map] at hperm
  rw [nodeIds_eq]
  exact hperm.nodup_iff.2 h.keys

/-- The ends of an edge are among those that are listed. -/
theorem mem_of_endpoints {ends : List (String × String × String)}
    (h : c.graphEdges.map endpoints = ends) {edge : ExecutionGraphEdge} (hedge : edge ∈ c.graphEdges) :
    (edge.sourcePartition, edge.targetPartition, edge.edgeType) ∈ ends := by
  rw [← h]
  exact List.mem_map_of_mem hedge

/-! ### The graphs of the planner -/

/-- The nodes of a graph that stand for its partitions. -/
def ownEntries (partitions : List LogicalPartition) : List (String × LogicalPartition) :=
  partitions.map fun p => (p.partitionId, p)

theorem own_ownEntries {partitions : List LogicalPartition} {item : String × LogicalPartition}
    (h : item ∈ ownEntries partitions) : item.2 ∈ partitions := by
  obtain ⟨p, hp, rfl⟩ := List.mem_map.1 h
  exact hp

theorem mem_ownEntries {partitions : List LogicalPartition} {p : LogicalPartition}
    (h : p ∈ partitions) : (p.partitionId, p) ∈ ownEntries partitions :=
  List.mem_map_of_mem (f := fun p : LogicalPartition => (p.partitionId, p)) h

/-- **An inference candidate is drawn.** -/
theorem drawn_forward (hgraph : ForwardGraph c)
    (hids : (c.partitions.map (·.partitionId)).Nodup)
    (hlinked : ∀ pair ∈ c.consecutive,
      Linked roundPlan exclusions pair.1.deviceId pair.2.deviceId) :
    Drawn roundPlan exclusions c (ownEntries c.partitions) := by
  refine ⟨fun _ => own_ownEntries, ?_, ?_, fun edge hedge => ?_⟩
  · rw [ownEntries, List.map_map]
    exact hids
  · rw [hgraph.nodes, ownEntries, List.map_map]
    exact List.Perm.of_eq rfl
  · obtain ⟨⟨source, target⟩, hpair, heq⟩ :=
      List.mem_map.1 (mem_of_endpoints hgraph.edges hedge)
    obtain ⟨hsource, htarget, htype⟩ : source.partitionId = edge.sourcePartition ∧
        target.partitionId = edge.targetPartition ∧ "forward" = edge.edgeType := by
      simpa using heq
    have horder : [source, target].Sublist c.partitions := sublist_of_mem_zip_tail hpair
    have hnodes : nodeIds c = c.partitions.map (·.partitionId) := by
      rw [nodeIds_eq, hgraph.nodes, List.map_map]
      rfl
    rw [hnodes, ← hsource, ← htarget]
    exact ⟨horder.map LogicalPartition.partitionId, source, target,
      mem_ownEntries (horder.subset List.mem_cons_self),
      mem_ownEntries (horder.subset (List.mem_cons_of_mem _ List.mem_cons_self)),
      .inl ⟨htype.symm, hlinked _ hpair⟩⟩

/-- The nodes of a training graph, as the validator expects them. -/
def trainingEntries (partitions : List LogicalPartition) (first : LogicalPartition) :
    List (String × LogicalPartition) :=
  partitions.flatMap (fun p => [(forwardName p, p), (backwardName p, p)]) ++
    [("aggregation", first)]

theorem perm_trainingEntries (partitions : List LogicalPartition) (first : LogicalPartition) :
    (trainingEntries partitions first).Perm (partitions.map (fun p => (forwardName p, p)) ++
      partitions.reverse.map (fun p => (backwardName p, p)) ++ [("aggregation", first)]) := by
  refine List.Perm.append_right _ ((perm_flatMap_pair _ _ partitions).trans ?_)
  exact List.Perm.append_left _ ((List.reverse_perm partitions).symm.map _)

theorem nodup_keys_trainingEntries {partitions : List LogicalPartition} {first : LogicalPartition}
    (hids : (partitions.map (·.partitionId)).Nodup) :
    ((trainingEntries partitions first).map Prod.fst).Nodup := by
  have hperm := (List.Perm.append_right [("aggregation", first)] (perm_flatMap_pair
    (fun p => (forwardName p, p)) (fun p => (backwardName p, p)) partitions)).map Prod.fst
  have hpasses := nodup_passes hids
  rw [List.map_map, List.map_map] at hpasses
  refine hperm.nodup_iff.2 ?_
  rw [List.map_append, List.map_append, List.map_map, List.map_map]
  exact hpasses

theorem mem_trainingEntries {partitions : List LogicalPartition} {first p : LogicalPartition}
    (h : p ∈ partitions) : (forwardName p, p) ∈ trainingEntries partitions first ∧
      (backwardName p, p) ∈ trainingEntries partitions first ∧
      ("aggregation", first) ∈ trainingEntries partitions first := by
  refine ⟨?_, ?_, ?_⟩
  · exact List.mem_append_left _ (List.mem_flatMap.2 ⟨p, h, by simp⟩)
  · exact List.mem_append_left _ (List.mem_flatMap.2 ⟨p, h, by simp⟩)
  · exact List.mem_append_right _ (List.mem_singleton_self _)

theorem own_trainingEntries {partitions : List LogicalPartition} {first : LogicalPartition}
    (hfirst : first ∈ partitions) {item : String × LogicalPartition}
    (h : item ∈ trainingEntries partitions first) : item.2 ∈ partitions := by
  rcases List.mem_append.1 h with h | h
  · obtain ⟨p, hp, hitem⟩ := List.mem_flatMap.1 h
    simp only [List.mem_cons, List.not_mem_nil, or_false] at hitem
    rcases hitem with rfl | rfl
    · exact hp
    · exact hp
  · obtain rfl := List.mem_singleton.1 h
    exact hfirst

/-- The nodes of a training graph in their order. -/
theorem nodeIds_training {first last : LogicalPartition} (hgraph : TrainingGraph c first last) :
    nodeIds c = c.partitions.map forwardName ++ c.partitions.reverse.map backwardName ++
      ["aggregation"] := by
  rw [nodeIds_eq, hgraph.nodes]
  simp [Function.comp_def]

/-- **A training candidate is drawn.** -/
theorem drawn_training {first last : LogicalPartition} (hgraph : TrainingGraph c first last)
    (hids : (c.partitions.map (·.partitionId)).Nodup)
    (hlinked : ∀ pair ∈ c.consecutive,
      Linked roundPlan exclusions pair.1.deviceId pair.2.deviceId) :
    Drawn roundPlan exclusions c (trainingEntries c.partitions first) := by
  have hfirst : first ∈ c.partitions := List.mem_of_head? hgraph.head
  have hlast : last ∈ c.partitions := List.mem_of_getLast? hgraph.getLast
  refine ⟨fun _ => own_trainingEntries hfirst, nodup_keys_trainingEntries hids, ?_,
    fun edge hedge => ?_⟩
  · have hperm := (perm_trainingEntries c.partitions first).symm.map
      fun item => (item.1, item.2.deviceId)
    rw [hgraph.nodes]
    refine (List.Perm.of_eq ?_).trans hperm
    simp [Function.comp_def]
  · rw [nodeIds_training hgraph]
    have hends := mem_of_endpoints hgraph.edges hedge
    simp only [List.mem_append, List.mem_reverse, List.mem_singleton] at hends
    rcases hends with ((hends | hends) | hends) | hends
    · obtain ⟨⟨source, target⟩, hpair, heq⟩ := List.mem_map.1 hends
      obtain ⟨hsource, htarget, htype⟩ : forwardName source = edge.sourcePartition ∧
          forwardName target = edge.targetPartition ∧ "forward" = edge.edgeType := by
        simpa using heq
      have horder : [source, target].Sublist c.partitions := sublist_of_mem_zip_tail hpair
      rw [← hsource, ← htarget]
      refine ⟨?_, source, target, (mem_trainingEntries (horder.subset (by simp))).1,
        (mem_trainingEntries (horder.subset (by simp))).1,
        .inl ⟨htype.symm, hlinked _ hpair⟩⟩
      exact ((horder.map forwardName).trans (List.sublist_append_left _ _)).trans
        (List.sublist_append_left _ _)
    · obtain ⟨hsource, htarget, htype⟩ : edge.sourcePartition = forwardName last ∧
          edge.targetPartition = backwardName last ∧ edge.edgeType = "gradient" := by
        simpa using hends
      rw [hsource, htarget]
      refine ⟨?_, last, last, (mem_trainingEntries hlast).1, (mem_trainingEntries hlast).2.1,
        .inr (.inr (.inl ⟨htype, rfl⟩))⟩
      refine List.Sublist.trans ?_ (List.sublist_append_left _ _)
      exact (List.singleton_sublist.2 (List.mem_map_of_mem hlast)).append
        (List.singleton_sublist.2 (List.mem_map_of_mem (List.mem_reverse.2 hlast)))
    · obtain ⟨⟨source, target⟩, hpair, heq⟩ := List.mem_map.1 hends
      obtain ⟨hsource, htarget, htype⟩ : backwardName target = edge.sourcePartition ∧
          backwardName source = edge.targetPartition ∧ "backward" = edge.edgeType := by
        simpa using heq
      have horder : [source, target].Sublist c.partitions := sublist_of_mem_zip_tail hpair
      rw [← hsource, ← htarget]
      refine ⟨?_, target, source, (mem_trainingEntries (horder.subset (by simp))).2.1,
        (mem_trainingEntries (horder.subset (by simp))).2.1,
        .inr (.inl ⟨htype.symm, hlinked _ hpair⟩)⟩
      refine List.Sublist.trans ?_ (List.sublist_append_left _ _)
      exact (horder.reverse.map backwardName).trans (List.sublist_append_right _ _)
    · obtain ⟨hsource, htarget, htype⟩ : edge.sourcePartition = backwardName first ∧
          edge.targetPartition = "aggregation" ∧ edge.edgeType = "aggregation" := by
        simpa using hends
      rw [hsource, htarget]
      refine ⟨?_, first, first, (mem_trainingEntries hfirst).2.1, (mem_trainingEntries hfirst).2.2,
        .inr (.inr (.inr ⟨htype, .inl rfl⟩))⟩
      refine List.Sublist.append (List.singleton_sublist.2 (List.mem_append_right _ ?_))
        (List.Sublist.refl _)
      exact List.mem_map_of_mem (List.mem_reverse.2 hfirst)

/-- **A federated candidate is drawn.** -/
theorem drawn_aggregation {participants : List String} {aggregator : LogicalPartition}
    {remote : List LogicalPartition}
    (hlayout : ReplicaLayout roundPlan exclusions participants c aggregator remote) :
    Drawn roundPlan exclusions c (ownEntries c.partitions ++ [("aggregation", aggregator)]) := by
  have hids : (c.partitions.map (·.partitionId)).Nodup := nodup_partitionIds hlayout.ids
  have hnodes : nodeIds c = c.partitions.map (·.partitionId) ++ ["aggregation"] := by
    rw [nodeIds_eq, hlayout.nodes]
    simp [Function.comp_def]
  refine ⟨fun item hitem => ?_, ?_, ?_, fun edge hedge => ?_⟩
  · rcases List.mem_append.1 hitem with hitem | hitem
    · exact own_ownEntries hitem
    · rw [List.mem_singleton.1 hitem, hlayout.partitions]
      exact List.mem_cons_self
  · rw [List.map_append, ownEntries, List.map_map, List.nodup_append]
    refine ⟨hids, by simp, fun name hname other hother => ?_⟩
    obtain rfl := List.mem_singleton.1 hother
    have hmem : name ∈ c.partitions.map (·.partitionId) := hname
    rw [hlayout.ids] at hmem
    obtain ⟨i, _, rfl⟩ := List.mem_map.1 hmem
    exact partitionName_ne_aggregation i
  · rw [hlayout.nodes]
    refine List.Perm.of_eq ?_
    simp [ownEntries, Function.comp_def]
  · obtain ⟨source, hsource, heq⟩ := List.mem_map.1 (mem_of_endpoints hlayout.edges hedge)
    obtain ⟨hid, htarget, htype⟩ : source.partitionId = edge.sourcePartition ∧
        "aggregation" = edge.targetPartition ∧ "aggregation" = edge.edgeType := by
      simpa using heq
    have hmem : source ∈ c.partitions := by
      rw [hlayout.partitions]
      exact List.mem_cons_of_mem _ hsource
    rw [hnodes, ← hid, ← htarget]
    refine ⟨?_, source, aggregator, List.mem_append_left _ (mem_ownEntries hmem),
      List.mem_append_right _ (List.mem_singleton_self _),
      .inr (.inr (.inr ⟨htype.symm, .inr (hlayout.linked source hsource)⟩))⟩
    exact (List.singleton_sublist.2 (List.mem_map_of_mem hmem)).append (List.Sublist.refl _)

/-! ### The rules on a graph -/

/-- What the rules on the graph report: nothing. -/
structure GraphRules (roundPlan : RoundPlan) (plan : PartitionExecutionPlan)
    (c : PartitionCandidate) : Prop where
  nodes : nodeErrors plan c = []
  edges : ∀ edge ∈ c.graphEdges, edgeErrors roundPlan plan c edge = []
  training : isTrainingPlan plan = true → trainingGraphErrors plan.approvedExecutionMode c = []
  acyclic : hasCycle (adjacency c) ≠ some true

/-- The link that an edge needs is there. -/
theorem hasRequiredNetworkLink_of_allowed {edgeType source target : String}
    (hbackward : edgeType = "backward" → isTrainingPlan plan = true)
    (h : Allowed roundPlan exclusions edgeType source target) :
    hasRequiredNetworkLink roundPlan plan source target edgeType = true := by
  simp only [hasRequiredNetworkLink, decide_eq_true_iff]
  rcases h with ⟨-, hlink⟩ | ⟨htype, hlink⟩ | ⟨-, hself⟩ | ⟨-, hself | hlink⟩
  · exact .inr (.inl hlink.1)
  · exact .inr (.inr ⟨hbackward htype, htype, hlink.1⟩)
  · exact .inl hself
  · exact .inl hself
  · exact .inr (.inl hlink.1)

/-- **A drawing passes the rules.** -/
theorem graphRules_of_drawn (hdrawn : Drawn roundPlan exclusions c entries)
    (hentries : graphNodePartitions plan c.partitions = Dict.ofEntries entries)
    (hbackward : ∀ edge ∈ c.graphEdges, edge.edgeType = "backward" → isTrainingPlan plan = true)
    (htraining : isTrainingPlan plan = true →
      trainingGraphErrors plan.approvedExecutionMode c = []) : GraphRules roundPlan plan c := by
  rw [Dict.ofEntries_of_nodup hdrawn.keys] at hentries
  refine ⟨?_, fun edge hedge => ?_, htraining, ?_⟩
  · rw [nodeErrors, failing_eq_nil, hentries]
    exact not_not.2 ⟨hdrawn.nodes.subset, hdrawn.nodes.symm.subset⟩
  · obtain ⟨horder, source, target, hsource, htarget, hallowed⟩ := hdrawn.edges edge hedge
    have hknown : EdgeKnown c edge :=
      ⟨horder.subset List.mem_cons_self, horder.subset (by simp)⟩
    have hlink := hasRequiredNetworkLink_of_allowed (hbackward edge hedge) hallowed
    rw [edgeErrors, if_neg (not_not.2 hknown), hentries]
    simp only [(Dict.mem_iff_lookup hdrawn.keys).1 hsource,
      (Dict.mem_iff_lookup hdrawn.keys).1 htarget, hlink]
    rfl
  · obtain ⟨found, hfound, hiff⟩ := hasCycle_iff (closed_adjacency c)
    intro hcycle
    rw [hfound] at hcycle
    refine not_cyclic_of_topological hdrawn.nodup (fun a b hb => ?_)
      (hiff.1 (Option.some.inj hcycle))
    obtain ⟨edge, hedge, -, rfl, rfl⟩ := mem_successors_adjacency.1 hb
    exact (hdrawn.edges edge hedge).1

theorem graphNodePartitions_inference (hplan : isTrainingPlan plan = false)
    {partitions : List LogicalPartition} (hne : partitions ≠ []) :
    graphNodePartitions plan partitions = Dict.ofEntries (ownEntries partitions) := by
  cases partitions with
  | nil => exact absurd rfl hne
  | cons first rest =>
      rw [graphNodePartitions, if_pos hplan]
      rfl

/-- **The graph of an inference candidate passes the rules.** -/
theorem graphRules_forward (hgraph : ForwardGraph c) (hplan : isTrainingPlan plan = false)
    (hne : c.partitions ≠ []) (hids : (c.partitions.map (·.partitionId)).Nodup)
    (hlinked : ∀ pair ∈ c.consecutive,
      Linked roundPlan exclusions pair.1.deviceId pair.2.deviceId) : GraphRules roundPlan plan c := by
  refine graphRules_of_drawn (drawn_forward hgraph hids hlinked)
    (graphNodePartitions_inference hplan hne) (fun edge hedge htype => ?_) fun htrue => ?_
  · obtain ⟨pair, -, heq⟩ := List.mem_map.1 (mem_of_endpoints hgraph.edges hedge)
    have hforward : "forward" = edge.edgeType := (Prod.mk.inj (Prod.mk.inj heq).2).2
    rw [← hforward] at htype
    exact absurd htype (by decide)
  · rw [hplan] at htrue
    cases htrue

theorem graphNodePartitions_training (hplan : isTrainingPlan plan = true)
    (hmode : plan.approvedExecutionMode ≠ "federated_learning")
    {partitions : List LogicalPartition} {first : LogicalPartition}
    (hfirst : partitions.head? = some first) :
    graphNodePartitions plan partitions = Dict.ofEntries (trainingEntries partitions first) := by
  cases partitions with
  | nil => cases hfirst
  | cons p rest =>
      obtain rfl : p = first := Option.some.inj hfirst
      rw [graphNodePartitions, if_neg (by simp [hplan]), if_neg hmode]
      rfl

/-- The edges that a training plan must have are those of a training graph. -/
theorem trainingGraphErrors_training {first last : LogicalPartition}
    (hgraph : TrainingGraph c first last) {mode : String} (hmode : mode ∈ trainingGraphModes)
    (hnot : mode ≠ "federated_learning") : trainingGraphErrors mode c = [] := by
  rw [trainingGraphErrors, if_neg (not_not.2 hmode), failing_eq_nil, not_not]
  have hactual := hgraph.edges
  have hexpected : expectedTrainingEdges mode c.partitions =
      c.consecutive.map (fun pair => (forwardName pair.1, forwardName pair.2, "forward")) ++
        c.consecutive.map (fun pair => (backwardName pair.2, backwardName pair.1, "backward")) ++
        [(forwardName last, backwardName last, "gradient"),
          (backwardName first, "aggregation", "aggregation")] := by
    unfold expectedTrainingEdges
    rw [if_neg hnot, hgraph.head, hgraph.getLast]
    rfl
  have hends : c.graphEdges.map (fun e => (e.sourcePartition, e.targetPartition, e.edgeType))
      = c.graphEdges.map endpoints := rfl
  rw [hends, hactual, hexpected]
  constructor
  · intro ends hmem
    simp only [List.mem_append, List.mem_reverse, List.mem_cons, List.not_mem_nil, or_false]
      at hmem ⊢
    tauto
  · intro ends hmem
    simp only [List.mem_append, List.mem_reverse, List.mem_cons, List.not_mem_nil, or_false]
      at hmem ⊢
    tauto

/-- **The graph of a training candidate passes the rules.** -/
theorem graphRules_training {first last : LogicalPartition} (hgraph : TrainingGraph c first last)
    (hplan : isTrainingPlan plan = true) (hmode : plan.approvedExecutionMode ∈ trainingGraphModes)
    (hnot : plan.approvedExecutionMode ≠ "federated_learning")
    (hids : (c.partitions.map (·.partitionId)).Nodup)
    (hlinked : ∀ pair ∈ c.consecutive,
      Linked roundPlan exclusions pair.1.deviceId pair.2.deviceId) : GraphRules roundPlan plan c :=
  graphRules_of_drawn (drawn_training hgraph hids hlinked)
    (graphNodePartitions_training hplan hnot hgraph.head) (fun _ _ _ => hplan)
    fun _ => trainingGraphErrors_training hgraph hmode hnot

/-- **The graph of a federated candidate passes the rules.** -/
theorem graphRules_aggregation {participants : List String} {aggregator : LogicalPartition}
    {remote : List LogicalPartition}
    (hlayout : ReplicaLayout roundPlan exclusions participants c aggregator remote)
    (hplan : isTrainingPlan plan = true)
    (hmode : plan.approvedExecutionMode = "federated_learning") : GraphRules roundPlan plan c := by
  have hentries : graphNodePartitions plan c.partitions = Dict.ofEntries
      (ownEntries c.partitions ++ [("aggregation", aggregator)]) := by
    rw [hlayout.partitions, graphNodePartitions, if_neg (by simp [hplan]), if_pos hmode]
    rfl
  refine graphRules_of_drawn (drawn_aggregation hlayout) hentries (fun _ _ _ => hplan) fun _ => ?_
  rw [hmode, trainingGraphErrors, if_neg (by decide), failing_eq_nil, not_not]
  have hends : c.graphEdges.map (fun e => (e.sourcePartition, e.targetPartition, e.edgeType))
      = c.graphEdges.map endpoints := rfl
  rw [hends, hlayout.edges, expectedTrainingEdges, if_pos rfl, hlayout.partitions, List.tail_cons]
  exact ⟨List.Subset.refl _, List.Subset.refl _⟩

end Rules

end PartitionPlanValidator

end Partition
end AiopsK8s
