/-
# What a replanning leaves out

A valid plan that `replan_request` returns uses nothing that its directive excludes: no excluded
device holds a partition or a node of the graph, a partition is within the limit on its device, and
the split is not an excluded one.  A link is excluded in the direction of the forward pass: no
forward edge and no edge to an aggregator goes over it, and a backward edge goes over the reverse of
a link that is not excluded.  A federated plan has no split, so a split is never excluded for it.
-/

import AiopsK8s.Partition.Agreement

namespace AiopsK8s
namespace Partition
namespace ModelPartitionOrchestrationAgent

open Effect PartitionPlanValidator

/-- **What a candidate honours of some exclusions.** -/
structure Honours (roundPlan : RoundPlan) (exclusions : Exclusions) (c : PartitionCandidate) :
    Prop where
  partitions : ∀ p ∈ c.partitions, p.deviceId ∈ roundPlan.participants ∧
    p.deviceId ∉ exclusions.excludedDevices ∧
    ∀ limit ∈ exclusions.memoryLimits.lookup p.deviceId, p.memoryDemandBytes ≤ limit
  nodes : ∀ node ∈ c.graphNodes, node.deviceId ∉ exclusions.excludedDevices
  joins : ∀ edge ∈ c.graphEdges, ∃ source target,
    (edge.sourcePartition, source) ∈ nodesOf c ∧ (edge.targetPartition, target) ∈ nodesOf c
  edges : ∀ edge ∈ c.graphEdges, ∀ source target, (edge.sourcePartition, source) ∈ nodesOf c →
    (edge.targetPartition, target) ∈ nodesOf c →
    Allowed roundPlan exclusions edge.edgeType source target

section Honours

variable {roundPlan : RoundPlan} {exclusions : Exclusions} {c : PartitionCandidate}
  {entries : List (String × LogicalPartition)}

/-- The node of an entry is on the device of its partition. -/
theorem mem_nodesOf (h : Drawn roundPlan exclusions c entries) {name : String}
    {p : LogicalPartition} (hp : (name, p) ∈ entries) : (name, p.deviceId) ∈ nodesOf c :=
  h.nodes.symm.subset (List.mem_map_of_mem (f := fun item : String × LogicalPartition =>
    (item.1, item.2.deviceId)) hp)

/-- A node has one device. -/
theorem device_unique (h : Drawn roundPlan exclusions c entries) {name device device' : String}
    (hdevice : (name, device) ∈ nodesOf c) (hdevice' : (name, device') ∈ nodesOf c) :
    device = device' := by
  have hnodup : ((nodesOf c).map Prod.fst).Nodup := nodeIds_eq (c := c) ▸ h.nodup
  rw [Dict.mem_iff_lookup hnodup] at hdevice hdevice'
  exact Option.some.inj (hdevice.symm.trans hdevice')

/-- **A drawing over the survivors honours the exclusions.** -/
theorem honours_of_drawn (hlayout : Layout roundPlan exclusions (survivors roundPlan exclusions) c)
    (h : Drawn roundPlan exclusions c entries) : Honours roundPlan exclusions c := by
  have hsurvives : ∀ p ∈ c.partitions, p.deviceId ∈ survivors roundPlan exclusions := by
    intro p hp
    rw [← hlayout.devices]
    exact List.mem_map_of_mem hp
  have hleft : ∀ p ∈ c.partitions, p.deviceId ∉ exclusions.excludedDevices := fun p hp =>
    of_decide_eq_true (List.mem_filter.1 (hsurvives p hp)).2
  refine ⟨fun p hp => ?_, fun node hnode => ?_, fun edge hedge => ?_, fun edge hedge s t hs ht => ?_⟩
  · obtain ⟨-, -, -, -, -, -, -, -, -, -, hlimit⟩ := hlayout.fits p hp
    exact ⟨survivors_subset (hsurvives p hp), hleft p hp, hlimit⟩
  · have hmem : (node.partitionId, node.deviceId) ∈ nodesOf c := List.mem_map_of_mem hnode
    obtain ⟨item, hitem, heq⟩ := List.mem_map.1 (h.nodes.subset hmem)
    rw [← (Prod.mk.inj heq).2]
    exact hleft _ (h.own item hitem)
  · obtain ⟨-, source, target, hsource, htarget, -⟩ := h.edges edge hedge
    exact ⟨_, _, mem_nodesOf h hsource, mem_nodesOf h htarget⟩
  · obtain ⟨-, source, target, hsource, htarget, hallowed⟩ := h.edges edge hedge
    rw [device_unique h hs (mem_nodesOf h hsource), device_unique h ht (mem_nodesOf h htarget)]
    exact hallowed

end Honours

variable {rt : Runtime} {sel : Selecting rt} {registry : PartitionStrategyRegistry}
  {policy : ModelPartitionPolicy} {request : PartitionPlanningRequest}
  {normalized : NormalizedPartitionRequest} {intent : PartitionIntent} {exclusions : Exclusions}
  {planId : String}
  {p previous : PartitionExecutionPlan} {directive : RepartitionDirective} {attempt : ℤ}

/-- What is chosen honours the exclusions. -/
theorem honours_of_chosen (h : Chosen normalized.roundPlan normalized intent exclusions p)
    (hvalid : p.valid = true) : ∃ c, p.selectedCandidate = some c ∧
      Honours normalized.roundPlan exclusions c ∧
      (intent.strategyId ≠ "federated-full-model-v1" →
        c.splitPoints ∉ exclusions.excludedSplits) := by
  obtain ⟨hfalse, -⟩ | ⟨c, -, hselected, -, hlayout⟩ := h
  · rw [hfalse] at hvalid
    cases hvalid
  refine ⟨c, hselected, ?_⟩
  obtain ⟨hid, aggregator, remote, hlayout⟩ | ⟨hid, splitPoints, hsplit, hpoints, hlayout⟩ := hlayout
  · exact ⟨honours_of_drawn hlayout.toLayout (drawn_aggregation hlayout), fun h => absurd hid h⟩
  · refine ⟨?_, fun _ => hpoints ▸ hsplit.considered.1⟩
    have hids := nodup_partitionIds hlayout.ids
    by_cases htraining : (candidateIntent normalized intent).isSome = true
    · obtain ⟨first, last, hgraph⟩ := hlayout.backward htraining
      exact honours_of_drawn hlayout.toLayout (drawn_training hgraph hids hlayout.linked)
    · have hgraph := hlayout.forward (Bool.eq_false_iff.2 htraining)
      exact honours_of_drawn hlayout.toLayout (drawn_forward hgraph hids hlayout.linked)

/-- A replanning is refused before anything is planned. -/
def Refused (policy : ModelPartitionPolicy) (previous : PartitionExecutionPlan)
    (directive : RepartitionDirective) (attempt : ℤ) : Prop :=
  policy.maxReplanAttempts < attempt ∨ directive.errors ≠ [] ∨ previous.selectedCandidate = none

/-- **A replanning uses nothing that is left out.**  Its plan is the next version of the previous
one; it is valid only where the attempts are not used up, the directive states no error and the
previous plan had a candidate, and then its candidate honours the directive. -/
theorem replanRequest_honours (hkeys : DigestsDistinct rt registry policy request)
    (h : replanRequest rt sel registry policy planId request previous directive attempt = .ok p) :
    p.planVersion = previous.planVersion + 1 ∧ p.parentPlanId = some previous.planId ∧
    (p.valid = false → p.selectedCandidate = none) ∧
    (p.valid = true → ¬Refused policy previous directive attempt ∧
      ∃ normalized intent c, prepare rt registry request = .ok (normalized, intent) ∧
        p.selectedCandidate = some c ∧ Honours normalized.roundPlan directive.exclusions c ∧
        (intent.strategyId ≠ "federated-full-model-v1" →
          c.splitPoints ∉ directive.excludedSplits ∧
          c.splitPoints ∉ directive.excludedCandidateSplits)) := by
  obtain ⟨⟨normalized, intent⟩, hprepare, h⟩ := bind_eq_ok h
  obtain ⟨plan, hplan, h⟩ := bind_eq_ok h
  obtain rfl := Except.ok.inj h
  obtain ⟨hprocess, -⟩ := prepare_eq_ok hprepare
  refine ⟨rfl, rfl, ?_⟩
  dsimp only [withReplanMetadata]
  unfold replanned at hplan
  split_ifs at hplan with hattempt herrors hprevious
  · obtain rfl := Except.ok.inj hplan
    exact ⟨fun _ => rfl, fun hvalid => Bool.noConfusion hvalid⟩
  · obtain rfl := Except.ok.inj hplan
    exact ⟨fun _ => rfl, fun hvalid => Bool.noConfusion hvalid⟩
  · obtain rfl := Except.ok.inj hplan
    exact ⟨fun _ => rfl, fun hvalid => Bool.noConfusion hvalid⟩
  · have hchosen := chosen_planSelecting hprocess (hkeys _ _ _ hprepare) hplan
    refine ⟨fun hvalid => ?_, fun hvalid => ⟨?_, ?_⟩⟩
    · obtain ⟨-, hnone⟩ | ⟨c, htrue, -⟩ := hchosen
      · exact hnone
      · rw [hvalid] at htrue
        cases htrue
    · rintro (h | h | h)
      · exact hattempt h
      · exact herrors h
      · exact hprevious h
    · obtain ⟨c, hselected, hhonours, hsplit⟩ := honours_of_chosen hchosen hvalid
      refine ⟨normalized, intent, c, hprepare, hselected, hhonours, fun hid => ?_⟩
      have hpoints := hsplit hid
      rw [RepartitionDirective.exclusions, List.mem_append, not_or] at hpoints
      exact hpoints

/-- **The plan for two devices is replanned without its split**: another one is chosen. -/
theorem replanRequest_withoutFirst : ∃ registry previous p normalized intent c,
    prepare servingRuntime registry twoDeviceRequest = .ok (normalized, intent) ∧
    replanRequest servingRuntime baselineOnly registry latencyPolicy "next" twoDeviceRequest
      previous withoutFirst 1 = .ok p ∧
    previous.selectedCandidate.map (·.splitPoints) = some [3] ∧
    p.valid = true ∧ p.parentPlanId = some previous.planId ∧ p.selectedCandidate = some c ∧
    c.splitPoints = [2] ∧ Honours normalized.roundPlan withoutFirst.exclusions c := by
  obtain ⟨registry, _, _, previous, p, h⟩ := exists_twoDevices
  obtain ⟨-, hparent, -, hhonours⟩ := replanRequest_honours
    (digestsDistinct_of_keyed h.loaded keyed_twoDevices) h.next
  obtain ⟨-, normalized, intent, c, hprepare, hselected, hhonours, -⟩ := hhonours h.next_valid
  have hsplit := h.next_split
  rw [hselected] at hsplit
  exact ⟨registry, previous, p, normalized, intent, c, hprepare, h.next, h.first_split, h.next_valid,
    hparent, hselected, Option.some.inj hsplit, hhonours⟩

end ModelPartitionOrchestrationAgent
end Partition
end AiopsK8s
