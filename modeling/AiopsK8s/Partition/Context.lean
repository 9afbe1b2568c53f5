/-
# The system snapshot of a planning request

The records of `partition_context`: the blocks of a model, its registry entry, the
forecast of its workload and the snapshot that holds them together with the devices
and the links.  A record carries what its `from_dict` has checked of it alone.  The
snapshot is built without checks by the adapters, so what `from_dict` demands of the
snapshot as a whole is a predicate (`PartitionSystemContext.IsReadable`), and a
snapshot is read back from its `to_dict` exactly under it (`fromDict_toDict_iff`).
-/

import AiopsK8s.Partition.Models

namespace AiopsK8s
namespace Partition

open Effect Text

/-- `partition_context._require_unique`. -/
def Decoder.requireUnique (d : Decoder) (values : List String) (field : String) :
    Except PartitionError Unit :=
  rejectIf (¬values.Nodup) (.contract d.code s!"{field} must be unique")

/-- A block of a model: layers that stay on one device. -/
structure ModelBlock where
  blockId : String
  layerNames : List String
  parameterBytes : ℤ
  activationBytes : ℤ
  workingMemoryBytes : ℤ
  blockId_proper : Proper blockId
  layerNames_proper : ∀ s ∈ layerNames, Proper s
  layerNames_ne_nil : layerNames ≠ []
  layerNames_nodup : layerNames.Nodup
  parameterBytes_nonneg : 0 ≤ parameterBytes
  activationBytes_nonneg : 0 ≤ activationBytes
  workingMemoryBytes_nonneg : 0 ≤ workingMemoryBytes

namespace ModelBlock

/-- `ModelBlock.from_dict`. -/
def fromDict (py : Python) (payload : List (String × Json)) : Except PartitionError ModelBlock := do
  let layerNames ← snapshot.texts py
    (← snapshot.sequence (Json.get payload "layer_names")
      "model_structure_profile.blocks[].layer_names")
    "model_structure_profile.blocks[].layer_names[]"
  if hne : layerNames.1 = [] then
    snapshot.fail "model_structure_profile.blocks[].layer_names is required"
  else if hnodup : ¬layerNames.1.Nodup then
    snapshot.fail "model_structure_profile.blocks[].layer_names must be unique"
  else
    let blockId ← snapshot.text py (Json.get payload "block_id")
      "model_structure_profile.blocks[].block_id"
    let parameterBytes ← snapshot.intOfAtLeast (Json.get payload "parameter_bytes")
      "model_structure_profile.blocks[].parameter_bytes" 0
    let activationBytes ← snapshot.intOfAtLeast (Json.get payload "activation_bytes")
      "model_structure_profile.blocks[].activation_bytes" 0
    let workingMemoryBytes ← snapshot.intOfAtLeast (Json.get payload "working_memory_bytes")
      "model_structure_profile.blocks[].working_memory_bytes" 0
    .ok ⟨blockId.1, layerNames.1, parameterBytes.1, activationBytes.1, workingMemoryBytes.1,
      proper_val blockId, all_proper_val layerNames, hne, nodup_of_not hnodup,
      nonneg_val parameterBytes, nonneg_val activationBytes, nonneg_val workingMemoryBytes⟩

def toDict (b : ModelBlock) : List (String × Json) :=
  [("block_id", .str b.blockId), ("layer_names", .texts b.layerNames),
    ("parameter_bytes", .int b.parameterBytes), ("activation_bytes", .int b.activationBytes),
    ("working_memory_bytes", .int b.workingMemoryBytes)]

@[simp] theorem fromDict_toDict (py : Python) (b : ModelBlock) : fromDict py b.toDict = .ok b := by
  simp [fromDict, toDict, Json.get_cons_ne, Json.texts, Json.ofList,
    Decoder.texts_str b.layerNames_proper, b.layerNames_ne_nil, b.layerNames_nodup,
    Decoder.text_proper b.blockId_proper, Decoder.intOfAtLeast_int b.parameterBytes_nonneg,
    Decoder.intOfAtLeast_int b.activationBytes_nonneg,
    Decoder.intOfAtLeast_int b.workingMemoryBytes_nonneg, bind, Except.bind]

end ModelBlock

/-- The blocks of a model version. -/
structure ModelStructureProfile where
  profileId : String
  modelId : String
  modelVersion : String
  blocks : List ModelBlock
  profileId_proper : Proper profileId
  modelId_proper : Proper modelId
  modelVersion_proper : Proper modelVersion
  blocks_ne_nil : blocks ≠ []
  blockIds_nodup : (blocks.map (·.blockId)).Nodup
  layerNames_nodup : (blocks.flatMap (·.layerNames)).Nodup

namespace ModelStructureProfile

/-- `ModelStructureProfile.from_dict`. -/
def fromDict (py : Python) (payload : List (String × Json)) :
    Except PartitionError ModelStructureProfile := do
  let blocks ← snapshot.records (ModelBlock.fromDict py)
    (← snapshot.sequence (Json.get payload "blocks") "model_structure_profile.blocks")
    "model_structure_profile.blocks[]"
  if hne : blocks = [] then
    snapshot.fail "model_structure_profile.blocks is required"
  else if hids : ¬(blocks.map (·.blockId)).Nodup then
    snapshot.fail "model_structure_profile.blocks.block_id must be unique"
  else if hnames : ¬(blocks.flatMap (·.layerNames)).Nodup then
    snapshot.fail "model_structure_profile.blocks.layer_names must be unique"
  else
    let profileId ← snapshot.text py (Json.get payload "profile_id")
      "model_structure_profile.profile_id"
    let modelId ← snapshot.text py (Json.get payload "model_id") "model_structure_profile.model_id"
    let modelVersion ← snapshot.text py (Json.get payload "model_version")
      "model_structure_profile.model_version"
    .ok ⟨profileId.1, modelId.1, modelVersion.1, blocks, proper_val profileId, proper_val modelId,
      proper_val modelVersion, hne, nodup_of_not hids, nodup_of_not hnames⟩

def toDict (p : ModelStructureProfile) : List (String × Json) :=
  [("profile_id", .str p.profileId), ("model_id", .str p.modelId),
    ("model_version", .str p.modelVersion), ("blocks", .ofList (fun b => .obj b.toDict) p.blocks)]

@[simp] theorem fromDict_toDict (py : Python) (p : ModelStructureProfile) :
    fromDict py p.toDict = .ok p := by
  simp [fromDict, toDict, Json.get_cons_ne, Json.ofList,
    Decoder.records_toDict (fun b _ => ModelBlock.fromDict_toDict py b), p.blocks_ne_nil,
    p.blockIds_nodup, p.layerNames_nodup, Decoder.text_proper p.profileId_proper,
    Decoder.text_proper p.modelId_proper, Decoder.text_proper p.modelVersion_proper, bind,
    Except.bind]

end ModelStructureProfile

/-- The registry entry of a model. -/
structure ModelRegistryContext where
  registryId : String
  registryVersion : String
  modelId : String
  approvedModelVersion : String
  registryId_proper : Proper registryId
  registryVersion_proper : Proper registryVersion
  modelId_proper : Proper modelId
  approvedModelVersion_proper : Proper approvedModelVersion

namespace ModelRegistryContext

/-- `ModelRegistryContext.from_dict`. -/
def fromDict (py : Python) (payload : List (String × Json)) :
    Except PartitionError ModelRegistryContext := do
  let registryId ← snapshot.text py (Json.get payload "registry_id")
    "model_registry_context.registry_id"
  let registryVersion ← snapshot.text py (Json.get payload "registry_version")
    "model_registry_context.registry_version"
  let modelId ← snapshot.text py (Json.get payload "model_id") "model_registry_context.model_id"
  let approvedModelVersion ← snapshot.text py (Json.get payload "approved_model_version")
    "model_registry_context.approved_model_version"
  .ok ⟨registryId.1, registryVersion.1, modelId.1, approvedModelVersion.1, proper_val registryId,
    proper_val registryVersion, proper_val modelId, proper_val approvedModelVersion⟩

def toDict (r : ModelRegistryContext) : List (String × Json) :=
  [("registry_id", .str r.registryId), ("registry_version", .str r.registryVersion),
    ("model_id", .str r.modelId), ("approved_model_version", .str r.approvedModelVersion)]

@[simp] theorem fromDict_toDict (py : Python) (r : ModelRegistryContext) :
    fromDict py r.toDict = .ok r := by
  simp [fromDict, toDict, Json.get_cons_ne, Decoder.text_proper r.registryId_proper,
    Decoder.text_proper r.registryVersion_proper, Decoder.text_proper r.modelId_proper,
    Decoder.text_proper r.approvedModelVersion_proper, bind, Except.bind]

end ModelRegistryContext

/-- What is expected of the workload. -/
structure WorkloadForecast where
  forecastId : String
  horizonSeconds : ℤ
  expectedRequestRate : ℚ
  expectedBatchSize : ℤ
  expectedSequenceLength : ℤ
  uncertainty : ℚ
  source : String
  forecastId_proper : Proper forecastId
  horizonSeconds_pos : 1 ≤ horizonSeconds
  expectedRequestRate_nonneg : 0 ≤ expectedRequestRate
  expectedBatchSize_pos : 1 ≤ expectedBatchSize
  expectedSequenceLength_pos : 1 ≤ expectedSequenceLength
  uncertainty_nonneg : 0 ≤ uncertainty
  uncertainty_le_one : uncertainty ≤ 1
  source_proper : Proper source

namespace WorkloadForecast

/-- `WorkloadForecast.from_dict`. -/
def fromDict (py : Python) (payload : List (String × Json)) :
    Except PartitionError WorkloadForecast := do
  let uncertainty ← snapshot.float py (Json.get payload "uncertainty") "workload_forecast.uncertainty"
    .zero
  if h : 1 < uncertainty.1 then
    snapshot.fail "workload_forecast.uncertainty must be at most 1.0"
  else
    let forecastId ← snapshot.text py (Json.get payload "forecast_id") "workload_forecast.forecast_id"
    let horizonSeconds ← snapshot.intOfAtLeast (Json.get payload "horizon_seconds")
      "workload_forecast.horizon_seconds" 1
    let expectedRequestRate ← snapshot.float py (Json.get payload "expected_request_rate")
      "workload_forecast.expected_request_rate" .zero
    let expectedBatchSize ← snapshot.intOfAtLeast (Json.get payload "expected_batch_size")
      "workload_forecast.expected_batch_size" 1
    let expectedSequenceLength ← snapshot.intOfAtLeast (Json.get payload "expected_sequence_length")
      "workload_forecast.expected_sequence_length" 1
    let source ← snapshot.text py (Json.get payload "source") "workload_forecast.source"
    .ok ⟨forecastId.1, horizonSeconds.1, expectedRequestRate.1, expectedBatchSize.1,
      expectedSequenceLength.1, uncertainty.1, source.1, proper_val forecastId,
      one_le_val horizonSeconds, nonneg_number expectedRequestRate, one_le_val expectedBatchSize,
      one_le_val expectedSequenceLength, nonneg_number uncertainty, not_lt.1 h, proper_val source⟩

def toDict (f : WorkloadForecast) : List (String × Json) :=
  [("forecast_id", .str f.forecastId), ("horizon_seconds", .int f.horizonSeconds),
    ("expected_request_rate", .number f.expectedRequestRate),
    ("expected_batch_size", .int f.expectedBatchSize),
    ("expected_sequence_length", .int f.expectedSequenceLength),
    ("uncertainty", .number f.uncertainty), ("source", .str f.source)]

@[simp] theorem fromDict_toDict (py : Python) (f : WorkloadForecast) :
    fromDict py f.toDict = .ok f := by
  have hle : ¬1 < f.uncertainty := not_lt.2 f.uncertainty_le_one
  simp [fromDict, toDict, Json.get_cons_ne, Decoder.float_zero f.uncertainty_nonneg, hle,
    Decoder.text_proper f.forecastId_proper, Decoder.intOfAtLeast_int f.horizonSeconds_pos,
    Decoder.float_zero f.expectedRequestRate_nonneg,
    Decoder.intOfAtLeast_int f.expectedBatchSize_pos,
    Decoder.intOfAtLeast_int f.expectedSequenceLength_pos, Decoder.text_proper f.source_proper,
    bind, Except.bind]

end WorkloadForecast

/-- The snapshot that a plan is computed from. -/
structure PartitionSystemContext where
  snapshotId : String
  snapshotVersion : String
  collectedAt : String
  modelStructureProfile : ModelStructureProfile
  modelRegistryContext : ModelRegistryContext
  devices : List ResourceDevice
  networkLinks : List NetworkLink
  workloadForecast : Option WorkloadForecast

/-- The name of a link in messages and in the check for repeated links. -/
def NetworkLink.arrow (l : NetworkLink) : String := s!"{l.sourceDevice}->{l.targetDevice}"

namespace PartitionSystemContext

/-- The forecast of a snapshot, if it has one. -/
def forecastFromDict (py : Python) : Json → Except PartitionError (Option WorkloadForecast)
  | .null => .ok none
  | value => do
      let fields ← snapshot.mapping value "workload_forecast"
      .ok (some (← WorkloadForecast.fromDict py fields))

/-- `PartitionSystemContext.from_dict`. -/
def fromDict (py : Python) (payload : Json) : Except PartitionError PartitionSystemContext := do
  let payload ← snapshot.mapping payload "system_context"
  let devices ← snapshot.records (ResourceDevice.fromDict py)
    (← snapshot.sequence (Json.get payload "devices") "system_context.devices")
    "system_context.devices[]"
  rejectIf (devices = []) (.contract snapshot.code "system_context.devices is required")
  snapshot.requireUnique (devices.map (·.deviceId)) "system_context.devices"
  let networkLinks ← snapshot.records (NetworkLink.fromDict py)
    (← snapshot.sequence (Json.get payload "network_links") "system_context.network_links")
    "system_context.network_links[]"
  snapshot.requireUnique (networkLinks.map (·.arrow)) "system_context.network_links"
  rejectAny networkLinks (fun l => l.sourceDevice ∉ devices.map (·.deviceId) ∨
      l.targetDevice ∉ devices.map (·.deviceId)) fun link =>
    .contract snapshot.code s!"network link {link.arrow} references an unknown device"
  let profile ← ModelStructureProfile.fromDict py
    (← snapshot.mapping (Json.get payload "model_structure_profile") "model_structure_profile")
  let registry ← ModelRegistryContext.fromDict py
    (← snapshot.mapping (Json.get payload "model_registry_context") "model_registry_context")
  rejectIf (profile.modelId ≠ registry.modelId ∨ profile.modelVersion ≠ registry.approvedModelVersion)
    (.contract "model_version_mismatch"
      "model structure profile and model registry context must match")
  let snapshotId ← snapshot.text py (Json.get payload "snapshot_id") "system_context.snapshot_id"
  let snapshotVersion ← snapshot.text py (Json.get payload "snapshot_version")
    "system_context.snapshot_version"
  let collectedAt ← snapshot.text py (Json.get payload "collected_at") "system_context.collected_at"
  let workloadForecast ← forecastFromDict py (Json.get payload "workload_forecast")
  .ok ⟨snapshotId.1, snapshotVersion.1, collectedAt.1, profile, registry, devices, networkLinks,
    workloadForecast⟩

def toDict (c : PartitionSystemContext) : List (String × Json) :=
  [("snapshot_id", .str c.snapshotId), ("snapshot_version", .str c.snapshotVersion),
    ("collected_at", .str c.collectedAt),
    ("model_structure_profile", .obj c.modelStructureProfile.toDict),
    ("model_registry_context", .obj c.modelRegistryContext.toDict),
    ("devices", .ofList (fun d => .obj d.toDict) c.devices),
    ("network_links", .ofList (fun l => .obj l.toDict) c.networkLinks),
    ("workload_forecast", .ofOption (fun f => .obj f.toDict) c.workloadForecast)]

/-- What `from_dict` demands of the snapshot as a whole. -/
structure IsReadable (c : PartitionSystemContext) : Prop where
  devices_ne_nil : c.devices ≠ []
  devices_nodup : (c.devices.map (·.deviceId)).Nodup
  links_nodup : (c.networkLinks.map (·.arrow)).Nodup
  links_known : ∀ l ∈ c.networkLinks, l.sourceDevice ∈ c.devices.map (·.deviceId) ∧
    l.targetDevice ∈ c.devices.map (·.deviceId)
  same_model : c.modelStructureProfile.modelId = c.modelRegistryContext.modelId
  same_version : c.modelStructureProfile.modelVersion = c.modelRegistryContext.approvedModelVersion
  snapshotId : Proper c.snapshotId
  snapshotVersion : Proper c.snapshotVersion
  collectedAt : Proper c.collectedAt

theorem forecastFromDict_ofOption (py : Python) (f : Option WorkloadForecast) :
    forecastFromDict py (.ofOption (fun f => .obj f.toDict) f) = .ok f := by
  rcases f with _ | f
  · rfl
  · simp [Json.ofOption, forecastFromDict, bind, Except.bind]

/-- **A snapshot is read back from its own `to_dict`** exactly when it satisfies the conditions
on the whole snapshot. -/
theorem fromDict_toDict_iff {py : Python} {c : PartitionSystemContext} :
    fromDict py (.obj c.toDict) = .ok c ↔ c.IsReadable := by
  have hread : fromDict py (.obj c.toDict) = (do
      rejectIf (c.devices = []) (.contract snapshot.code "system_context.devices is required")
      snapshot.requireUnique (c.devices.map (·.deviceId)) "system_context.devices"
      snapshot.requireUnique (c.networkLinks.map (·.arrow)) "system_context.network_links"
      rejectAny c.networkLinks (fun l => l.sourceDevice ∉ c.devices.map (·.deviceId) ∨
          l.targetDevice ∉ c.devices.map (·.deviceId)) fun link =>
        .contract snapshot.code s!"network link {link.arrow} references an unknown device"
      rejectIf (c.modelStructureProfile.modelId ≠ c.modelRegistryContext.modelId ∨
          c.modelStructureProfile.modelVersion ≠ c.modelRegistryContext.approvedModelVersion)
        (.contract "model_version_mismatch"
          "model structure profile and model registry context must match")
      let snapshotId ← snapshot.text py (.str c.snapshotId) "system_context.snapshot_id"
      let snapshotVersion ← snapshot.text py (.str c.snapshotVersion)
        "system_context.snapshot_version"
      let collectedAt ← snapshot.text py (.str c.collectedAt) "system_context.collected_at"
      .ok ⟨snapshotId.1, snapshotVersion.1, collectedAt.1, c.modelStructureProfile,
        c.modelRegistryContext, c.devices, c.networkLinks, c.workloadForecast⟩) := by
    unfold fromDict toDict
    simp [Json.get_cons_ne, Json.ofList,
      Decoder.records_toDict (fun d _ => ResourceDevice.fromDict_toDict py d),
      Decoder.records_toDict (fun l _ => NetworkLink.fromDict_toDict py l),
      forecastFromDict_ofOption, bind, Except.bind]
  rw [hread]
  constructor
  · intro h
    obtain ⟨_, h₁, h⟩ := bind_eq_ok h
    obtain ⟨_, h₂, h⟩ := bind_eq_ok h
    obtain ⟨_, h₃, h⟩ := bind_eq_ok h
    obtain ⟨_, h₄, h⟩ := bind_eq_ok h
    obtain ⟨_, h₅, h⟩ := bind_eq_ok h
    obtain ⟨s₁, h₆, h⟩ := bind_eq_ok h
    obtain ⟨s₂, h₇, h⟩ := bind_eq_ok h
    obtain ⟨s₃, h₈, h⟩ := bind_eq_ok h
    have hc := Except.ok.inj h
    have hunique : ∀ {values : List String} {field : String},
        snapshot.requireUnique values field = .ok () → values.Nodup :=
      fun hvalues => not_not.1 (rejectIf_eq_ok.1 hvalues)
    have hlinks : ∀ l ∈ c.networkLinks, l.sourceDevice ∈ c.devices.map (·.deviceId) ∧
        l.targetDevice ∈ c.devices.map (·.deviceId) := by
      intro l hl
      have hknown := rejectAny_eq_ok.1 h₄ l hl
      rwa [decide_eq_false_iff_not, not_or, not_not, not_not] at hknown
    have hmodel := rejectIf_eq_ok.1 h₅
    rw [not_or, not_not, not_not] at hmodel
    refine ⟨rejectIf_eq_ok.1 h₁, hunique h₂, hunique h₃, hlinks, hmodel.1, hmodel.2, ?_, ?_, ?_⟩
    · rw [← show s₁.1 = c.snapshotId from congrArg PartitionSystemContext.snapshotId hc]
      exact s₁.2
    · rw [← show s₂.1 = c.snapshotVersion from congrArg PartitionSystemContext.snapshotVersion hc]
      exact s₂.2
    · rw [← show s₃.1 = c.collectedAt from congrArg PartitionSystemContext.collectedAt hc]
      exact s₃.2
  · intro h
    have hunique : ∀ {values : List String} (field : String), values.Nodup →
        snapshot.requireUnique values field = .ok () :=
      fun _ hvalues => rejectIf_eq_ok.2 (not_not.2 hvalues)
    have hlinks : ∀ l ∈ c.networkLinks, decide (l.sourceDevice ∉ c.devices.map (·.deviceId) ∨
        l.targetDevice ∉ c.devices.map (·.deviceId)) = false := by
      intro l hl
      rw [decide_eq_false_iff_not, not_or, not_not, not_not]
      exact h.links_known l hl
    have hmodel : ¬(c.modelStructureProfile.modelId ≠ c.modelRegistryContext.modelId ∨
        c.modelStructureProfile.modelVersion ≠ c.modelRegistryContext.approvedModelVersion) := by
      rw [not_or, not_not, not_not]
      exact ⟨h.same_model, h.same_version⟩
    rw [rejectIf_eq_ok.2 h.devices_ne_nil, hunique _ h.devices_nodup, hunique _ h.links_nodup,
      rejectAny_eq_ok.2 hlinks, rejectIf_eq_ok.2 hmodel, Decoder.text_proper h.snapshotId,
      Decoder.text_proper h.snapshotVersion, Decoder.text_proper h.collectedAt]
    rfl

end PartitionSystemContext

end Partition
end AiopsK8s
