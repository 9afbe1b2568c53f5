/-
# What the layers of a profile account for

A request without layers of its own is planned with layers that the common processor derives from
the blocks of its profile.  It gives every layer of a block the same share with `//`, so the shares
add up to what the block states only where the number of layers divides it, and the memory that a
federated replica is said to need falls short of the model everywhere else (`accounts_iff`).
-/

import AiopsK8s.Partition.Acceptance
import AiopsK8s.Partition.Agent
import Mathlib.Algebra.BigOperators.Group.List.Lemmas
import Mathlib.Algebra.Order.BigOperators.Group.List

namespace AiopsK8s
namespace Partition

open Effect

namespace ModelBlock

/-- What the layers of a block have of a figure. -/
def shared (b : ModelBlock) (figure : ModelLayer → ℤ) : ℤ := (b.layers.map figure).sum

theorem shared_parameterBytes (b : ModelBlock) :
    b.shared (·.parameterBytes) = b.layerCount * (b.parameterBytes / b.layerCount) := by
  simp [shared, layers, layer, layerCount, Function.comp_def]

theorem shared_workingMemoryBytes (b : ModelBlock) :
    b.shared (·.workingMemoryBytes) = b.layerCount * (b.workingMemoryBytes / b.layerCount) := by
  simp [shared, layers, layer, layerCount, Function.comp_def]

end ModelBlock

/-- Equal shares add up to a total exactly when they divide it. -/
theorem le_mul_ediv_iff {total count : ℤ} (hcount : 0 < count) :
    total ≤ count * (total / count) ↔ count ∣ total := by
  have hdiv := Int.emod_add_mul_ediv total count
  have hmod := Int.emod_nonneg total hcount.ne'
  rw [Int.dvd_iff_emod_eq_zero]
  omega

namespace ModelStructureProfile

variable {profile : ModelStructureProfile}

/-- The parameters and the working memory of all blocks and the largest activation. -/
def memory (profile : ModelStructureProfile) : ℤ :=
  (profile.blocks.map (·.parameterBytes)).sum + (profile.blocks.map (·.workingMemoryBytes)).sum +
    (profile.blocks.map (·.activationBytes)).max?.getD 0

/-- The number of layers of a block divides its figures. -/
def Divisible (profile : ModelStructureProfile) : Prop :=
  ∀ b ∈ profile.blocks, b.layerCount ∣ b.parameterBytes ∧ b.layerCount ∣ b.workingMemoryBytes

theorem sum_layersFromProfile (figure : ModelLayer → ℤ) :
    ((PartitionCommonProcessor.layersFromProfile profile).map figure).sum
      = (profile.blocks.map fun b => b.shared figure).sum := by
  unfold PartitionCommonProcessor.layersFromProfile
  induction profile.blocks with
  | nil => rfl
  | cons b blocks ih =>
      rw [List.flatMap_cons, List.map_append, List.sum_append, ih, List.map_cons, List.sum_cons]
      rfl

/-- Every activation of a block is that of a layer. -/
theorem exists_layer_activation {b : ModelBlock} (hb : b ∈ profile.blocks) :
    b.activationBytes ∈
      (PartitionCommonProcessor.layersFromProfile profile).map (·.activationBytes) := by
  obtain ⟨name, hname⟩ := List.exists_mem_of_ne_nil _ b.layerNames_ne_nil
  refine List.mem_map.2 ⟨b.layer ⟨name, hname⟩, List.mem_flatMap.2 ⟨b, hb, ?_⟩, rfl⟩
  exact List.mem_map_of_mem (List.mem_attach _ _)

theorem activation_le {activation : ℤ}
    (h : ((PartitionCommonProcessor.layersFromProfile profile).map (·.activationBytes)).max?
      = some activation) :
    (profile.blocks.map (·.activationBytes)).max?.getD 0 ≤ activation := by
  obtain ⟨-, hmax⟩ := List.max?_eq_some_iff.1 h
  rcases hblocks : (profile.blocks.map (·.activationBytes)).max? with _ | largest
  · rw [List.max?_eq_none_iff, List.map_eq_nil_iff] at hblocks
    exact absurd hblocks profile.blocks_ne_nil
  · obtain ⟨hlargest, -⟩ := List.max?_eq_some_iff.1 hblocks
    obtain ⟨b, hb, rfl⟩ := List.mem_map.1 hlargest
    rw [hblocks]
    exact hmax _ (exists_layer_activation hb)

/-- Where the layers divide the figures, the layers need what the blocks state. -/
theorem memory_le_of_divisible (h : profile.Divisible) {demand : ℤ}
    (hdemand : memoryDemand (PartitionCommonProcessor.layersFromProfile profile) = .ok demand) :
    profile.memory ≤ demand := by
  unfold memoryDemand at hdemand
  split at hdemand
  · cases hdemand
  · rename_i activation hactivation
    obtain rfl := Except.ok.inj hdemand
    have hparameters : (profile.blocks.map (·.parameterBytes)).sum
        ≤ (profile.blocks.map fun b => b.shared (·.parameterBytes)).sum := by
      refine List.sum_le_sum fun b hb => ?_
      rw [b.shared_parameterBytes]
      exact (le_mul_ediv_iff b.layerCount_pos).2 (h b hb).1
    have hworking : (profile.blocks.map (·.workingMemoryBytes)).sum
        ≤ (profile.blocks.map fun b => b.shared (·.workingMemoryBytes)).sum := by
      refine List.sum_le_sum fun b hb => ?_
      rw [b.shared_workingMemoryBytes]
      exact (le_mul_ediv_iff b.layerCount_pos).2 (h b hb).2
    have hactivation := activation_le hactivation
    rw [sum_layersFromProfile, sum_layersFromProfile, memory]
    omega

end ModelStructureProfile

namespace ModelPartitionOrchestrationAgent

variable {rt : Runtime} {policy : ModelPartitionPolicy} {roundPlan : RoundPlan}
  {participants : List String} {exclusions : Exclusions} {intent : PartitionIntent}
  {candidate : PartitionCandidate}

/-- What a placement says a device needs is what the layers placed on it need. -/
theorem memoryDemand_of_place {limits : List (String × ℤ)} {index : ℕ} {deviceId : String}
    {layers : List ModelLayer} {placement : Placement}
    (h : place rt roundPlan limits index deviceId layers = .ok placement) :
    memoryDemand layers = .ok placement.partition.memoryDemandBytes := by
  unfold place at h
  split at h
  · cases h
  · obtain ⟨demand, hdemand, h⟩ := bind_eq_ok h
    obtain ⟨_, _, h⟩ := bind_eq_ok h
    obtain ⟨_, _, h⟩ := bind_eq_ok h
    obtain rfl := Except.ok.inj h
    exact hdemand

/-- The partitions of a federated candidate are the placements of the whole model. -/
theorem partitions_eq_placements
    (h : buildFederatedFullModelCandidate rt policy roundPlan participants exclusions intent
      = .ok candidate) : ∃ placed, placements rt roundPlan exclusions.memoryLimits participants
        (participants.map fun _ => roundPlan.layers) = .ok placed ∧
      candidate.partitions = placed.map (·.partition) := by
  obtain ⟨placed, hplaced, h⟩ := bind_eq_ok h
  refine ⟨placed, hplaced, ?_⟩
  rcases hplaces : placed.map (·.partition) with _ | ⟨aggregator, remote⟩
  · simp only [hplaces] at h
    cases h
  · simp only [hplaces] at h
    obtain ⟨_, _, h⟩ := bind_eq_ok h
    obtain ⟨_, _, h⟩ := bind_eq_ok h
    obtain rfl := Except.ok.inj h
    exact hplaces.symm

/-- Every replica of a federated candidate needs what the layers of the model need. -/
theorem memoryDemand_of_replica
    (h : buildFederatedFullModelCandidate rt policy roundPlan participants exclusions intent
      = .ok candidate) {partition : LogicalPartition} (hpartition : partition ∈ candidate.partitions) :
    memoryDemand roundPlan.layers = .ok partition.memoryDemandBytes := by
  obtain ⟨placed, hplaced, hpartitions⟩ := partitions_eq_placements h
  rw [hpartitions] at hpartition
  obtain ⟨placement, hplacement, rfl⟩ := List.mem_map.1 hpartition
  obtain ⟨⟨⟨deviceId, layers⟩, index⟩, hmem, hplace⟩ := exists_of_mem_mapM hplaced hplacement
  have hlayers : layers = roundPlan.layers := by
    have hzip := (List.of_mem_zip (List.fst_mem_of_mem_zipIdx hmem)).2
    obtain ⟨_, _, rfl⟩ := List.mem_map.1 hzip
    rfl
  rw [← hlayers]
  exact memoryDemand_of_place hplace

end ModelPartitionOrchestrationAgent

/-! ### Conservation -/

/-- The layers of a block account for its figures. -/
def ModelBlock.Accounted (b : ModelBlock) : Prop :=
  b.parameterBytes ≤ b.shared (·.parameterBytes) ∧
    b.workingMemoryBytes ≤ b.shared (·.workingMemoryBytes)

theorem ModelBlock.accounted_iff (b : ModelBlock) :
    b.Accounted ↔ b.layerCount ∣ b.parameterBytes ∧ b.layerCount ∣ b.workingMemoryBytes := by
  rw [Accounted, b.shared_parameterBytes, b.shared_workingMemoryBytes,
    le_mul_ediv_iff b.layerCount_pos, le_mul_ediv_iff b.layerCount_pos]

namespace PartitionCommonProcessor

/-- **Deriving layers never under-counts the model exactly where the layers of every block divide
its figures**: the figures of its layers then add up to those of the block, and every replica of a
federated candidate needs at least the parameters and the working memory of all blocks and the
largest activation. -/
theorem accounts_iff (profile : ModelStructureProfile) :
    ((∀ b ∈ profile.blocks, b.Accounted) ∧
      ∀ (rt : Runtime) (policy : ModelPartitionPolicy) (roundPlan : RoundPlan)
        (participants : List String) (exclusions : Exclusions) (intent : PartitionIntent)
        (candidate : PartitionCandidate), roundPlan.layers = layersFromProfile profile →
        ModelPartitionOrchestrationAgent.buildFederatedFullModelCandidate rt policy roundPlan
          participants exclusions intent = .ok candidate →
        ∀ partition ∈ candidate.partitions, profile.memory ≤ partition.memoryDemandBytes) ↔
      profile.Divisible := by
  constructor
  · rintro ⟨hblocks, -⟩ b hb
    exact b.accounted_iff.1 (hblocks b hb)
  · intro hdivisible
    refine ⟨fun b hb => b.accounted_iff.2 (hdivisible b hb), ?_⟩
    intro rt policy roundPlan participants exclusions intent candidate hlayers hcandidate partition
      hpartition
    refine ModelStructureProfile.memory_le_of_divisible hdivisible ?_
    rw [← hlayers]
    exact ModelPartitionOrchestrationAgent.memoryDemand_of_replica hcandidate hpartition

theorem proper_encoder : Text.Proper "encoder" := by decide
theorem proper_projections : ∀ s ∈ ["query", "key", "value"], Text.Proper s := by decide
theorem projections_ne_nil : ["query", "key", "value"] ≠ [] := by decide
theorem projections_nodup : ["query", "key", "value"].Nodup := by decide

/-- A block of three layers and ten bytes of parameters. -/
def tenByteBlock : ModelBlock where
  blockId := "encoder"
  layerNames := ["query", "key", "value"]
  parameterBytes := 10
  activationBytes := 1
  workingMemoryBytes := 1
  blockId_proper := proper_encoder
  layerNames_proper := proper_projections
  layerNames_ne_nil := projections_ne_nil
  layerNames_nodup := projections_nodup
  parameterBytes_nonneg := PartitionPlanValidator.ten_nonneg
  activationBytes_nonneg := Int.one_nonneg
  workingMemoryBytes_nonneg := Int.one_nonneg

theorem proper_profile : Text.Proper "profile" := by decide
theorem proper_one : Text.Proper "1" := by decide
theorem blocks_ne_nil : [tenByteBlock] ≠ [] := List.cons_ne_nil _ _
theorem blockIds_nodup : ([tenByteBlock].map (·.blockId)).Nodup := by decide
theorem allLayers_nodup : ([tenByteBlock].flatMap (·.layerNames)).Nodup := by decide

/-- A profile of that block. -/
def tenByteProfile : ModelStructureProfile where
  profileId := "profile"
  modelId := "model"
  modelVersion := "1"
  blocks := [tenByteBlock]
  profileId_proper := proper_profile
  modelId_proper := PartitionPlanValidator.proper_model
  modelVersion_proper := proper_one
  blocks_ne_nil := blocks_ne_nil
  blockIds_nodup := blockIds_nodup
  layerNames_nodup := allLayers_nodup

/-- **A layer of a third of ten bytes has three of them**, and the tenth is nowhere. -/
theorem tenth_byte_lost : ¬∀ profile : ModelStructureProfile, ∀ b ∈ profile.blocks, b.Accounted := by
  intro h
  have haccounted := (h tenByteProfile tenByteBlock List.mem_cons_self).1
  exact absurd haccounted (by decide)

end PartitionCommonProcessor

end Partition
end AiopsK8s
