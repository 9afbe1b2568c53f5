/-
# Common checks of a request

`partition_common`: what planner and validator derive from a request before a strategy sees it.
A request without layers of its own gets them from the blocks of its model profile: the figures of
a block are divided among its layers with `//`, so what its layers account for is what it states
only where the number of its layers divides the figures.
-/

import AiopsK8s.Partition.Coordination
import AiopsK8s.Partition.Plans
import Mathlib.Data.Rat.Floor
import Mathlib.Tactic.NormNum

namespace AiopsK8s
namespace Partition

open Effect Text

/-- The fields of a round plan.  `FederatedRoundPlan(...)` is also built from a request that
`FederatedRoundPlan.from_dict` has not checked. -/
structure RoundPlan where
  jobId : String
  modelId : String
  executionMode : ApprovedExecutionMode
  layers : List ModelLayer
  participants : List String
  devices : List ResourceDevice
  networkLinks : List NetworkLink
  constraints : PartitionConstraints

/-- A round plan that `from_dict` has checked. -/
def FederatedRoundPlan.toRoundPlan (p : FederatedRoundPlan) : RoundPlan :=
  ⟨p.jobId, p.modelId, p.executionMode, p.layers, p.participants, p.devices, p.networkLinks,
    p.constraints⟩

/-- `NormalizedPartitionRequest`. -/
structure NormalizedPartitionRequest where
  planType : String
  jobId : String
  modelId : String
  approvedModelVersion : String
  approvedExecutionMode : ApprovedExecutionMode
  participants : List String
  layers : List ModelLayer
  devices : List ResourceDevice
  networkLinks : List NetworkLink
  constraints : PartitionConstraints
  contextSnapshotId : String
  contextSnapshotHash : String
  inputSignature : String
  legacyInput : Bool
  workloadForecast : Option WorkloadForecast

/-- `_round_plan_from_normalized`. -/
def NormalizedPartitionRequest.roundPlan (r : NormalizedPartitionRequest) : RoundPlan :=
  ⟨r.jobId, r.modelId, r.approvedExecutionMode, r.layers, r.participants, r.devices,
    r.networkLinks, r.constraints⟩

namespace CoordinationPlan

def participants : CoordinationPlan → List String
  | training plan => plan.participants
  | inference plan => plan.participants

def constraints : CoordinationPlan → PartitionConstraints
  | training plan => plan.constraints
  | inference plan => plan.constraints

end CoordinationPlan

/-! ### Layers of a profile -/

namespace ModelBlock

/-- `len(block.layer_names)`. -/
def layerCount (b : ModelBlock) : ℤ := b.layerNames.length

theorem layerCount_pos (b : ModelBlock) : 0 < b.layerCount := by
  have hpos : 0 < b.layerNames.length := List.length_pos_of_ne_nil b.layerNames_ne_nil
  rw [layerCount]
  omega

theorem div_nonneg {i : ℤ} (h : 0 ≤ i) (b : ModelBlock) : 0 ≤ i / b.layerCount :=
  Int.ediv_nonneg h b.layerCount_pos.le

theorem one_ge_millionth : (1 / 1000000 : ℚ) ≤ 1 := by norm_num

/-- The layer of a name of the block. -/
def layer (b : ModelBlock) (name : {s : String // s ∈ b.layerNames}) : ModelLayer where
  name := name.1
  computeUnits := 1
  parameterBytes := b.parameterBytes / b.layerCount
  activationBytes := b.activationBytes
  workingMemoryBytes := b.workingMemoryBytes / b.layerCount
  name_proper := b.layerNames_proper name.1 name.2
  computeUnits_min := one_ge_millionth
  parameterBytes_nonneg := b.div_nonneg b.parameterBytes_nonneg
  activationBytes_nonneg := b.activationBytes_nonneg
  workingMemoryBytes_nonneg := b.div_nonneg b.workingMemoryBytes_nonneg

/-- The layers of a block. -/
def layers (b : ModelBlock) : List ModelLayer := b.layerNames.attach.map b.layer

end ModelBlock

/-- What a device needs for layers: `sum(parameter_bytes) + sum(working_memory_bytes) +
max(activation_bytes)`.  `max` of nothing raises `ValueError`. -/
def memoryDemand (layers : List ModelLayer) : Except PartitionError ℤ :=
  match (layers.map (·.activationBytes)).max? with
  | none => .error .value
  | some activation =>
      .ok ((layers.map (·.parameterBytes)).sum + (layers.map (·.workingMemoryBytes)).sum + activation)

/-- `1.0 - minimum_memory_headroom_ratio`. -/
def PartitionConstraints.usableRatio (constraints : PartitionConstraints) : PyFloat :=
  PyFloat.sub (.finite 1) (.finite constraints.minimumMemoryHeadroomRatio)

/-- `int(device.memory_available_bytes * (1.0 - minimum_memory_headroom_ratio))`. -/
def allowedMemory (device : ResourceDevice) (constraints : PartitionConstraints) :
    Except PartitionError ℤ :=
  match PyFloat.ofInt device.memoryAvailableBytes with
  | none => .error .overflow
  | some available =>
      match (PyFloat.mul available constraints.usableRatio).toInt with
      | none => .error .overflow
      | some allowed => .ok allowed

/-- Ten bytes with a headroom of a tenth: the product is nine, where `10 * (1 - 0.1)` of the float
`0.1` is below it. -/
example : (PyFloat.mul (.finite 10) (PyFloat.sub (.finite 1) (PyFloat.lit (1 / 10)))).toInt = some 9 := by
  decide +kernel

namespace PartitionCommonProcessor

/-- `_layers_from_profile`. -/
def layersFromProfile (profile : ModelStructureProfile) : List ModelLayer :=
  profile.blocks.flatMap ModelBlock.layers

/-- `_approved_mode`. -/
def approvedMode (request : PartitionPlanningRequest) :
    Except PartitionError ApprovedExecutionMode :=
  match request.approvedExecutionMode with
  | none => .error (.contract "approved_mode_required" "execution mode must be approved upstream")
  | some mode => do
      rejectIf (strip mode.name = "" ∨ mode.approved = false ∨ mode.approvedBy = "" ∨
          mode.approvalRef = "")
        (.contract "approved_mode_required" "execution mode must be approved upstream")
      return mode

/-- `is_federated_learning` of `_validate_feasibility`. -/
def isFederatedLearning (request : PartitionPlanningRequest) : Bool :=
  request.approvedExecutionMode.elim false (·.name = "federated_learning")

/-- `_validate_feasibility`. -/
def validateFeasibility (request : PartitionPlanningRequest) (layers : List ModelLayer) :
    Except PartitionError Unit := do
  let participants := request.plan.participants
  let federated := isFederatedLearning request
  rejectIf (participants.length < 2 ∨ layers = [] ∨
      (federated = false ∧ layers.length < participants.length))
    (.contract "early_feasibility_failed"
      (if federated then "federated learning requires a full model and at least two participants"
        else "each participant requires a non-empty model partition"))
  rejectAny participants (· ∉ request.context.devices.map (·.deviceId)) fun _ =>
    .contract "early_feasibility_failed" "each participant requires a device snapshot"
  let requiredPairs :=
    if federated then participants.tail.map fun participant => (participant, participants.headD "")
    else participants.zip participants.tail
  rejectAny requiredPairs (· ∉ request.context.networkLinks.map (·.pair)) fun _ =>
    .contract "early_feasibility_failed" "required participant network evidence is unavailable"

/-- `asdict(request.envelope)`. -/
def envelopeDict (e : CoordinationPlanEnvelope) : List (String × Json) :=
  [("plan_type", .str e.planType), ("plan_id", .str e.planId), ("job_id", .str e.jobId),
    ("approved_by", .str e.approvedBy), ("approval_ref", .str e.approvalRef),
    ("approved_at", .str e.approvedAt), ("schema_version", .str e.schemaVersion)]

/-- `signature_payload`.  `asdict` of a coordination plan has the fields of its payload. -/
def inputPayload (rt : Runtime) (request : PartitionPlanningRequest) (mode : ApprovedExecutionMode)
    (layers : List ModelLayer) : Json :=
  .obj [("envelope", .obj (envelopeDict request.envelope)), ("plan", .obj request.plan.toDict),
    ("approved_execution_mode", .obj mode.toDict),
    ("layers", .ofList (fun l => .obj l.toDict) layers),
    ("devices", .ofList (fun d => .obj d.toDict) request.context.devices),
    ("network_links", .ofList (fun l => .obj l.toDict) request.context.networkLinks),
    ("context_snapshot_id", .str request.context.snapshotId),
    ("context_snapshot_hash", .str (rt.digest (.obj request.context.toDict))),
    ("legacy_input", .bool request.legacyInput),
    ("workload_forecast_available", .bool request.context.workloadForecast.isSome)]

/-- The layers that a request is planned with: `request.legacy_layers or
self._layers_from_profile(request)`. -/
def layersOf (request : PartitionPlanningRequest) : List ModelLayer :=
  match request.legacyLayers with
  | some (layer :: layers) => layer :: layers
  | _ => layersFromProfile request.context.modelStructureProfile

/-- `PartitionCommonProcessor.process`. -/
def process (rt : Runtime) (request : PartitionPlanningRequest) :
    Except PartitionError NormalizedPartitionRequest := do
  rejectIf (request.envelope.planType ∉ ["training", "inference"])
    (.contract "unsupported_plan_type" s!"unsupported plan type: {request.envelope.planType}")
  rejectIf (request.envelope.approvedBy = "" ∨ request.envelope.approvalRef = "")
    (.contract "approval_provenance_required" "approved_by and approval_ref are required")
  let mode ← approvedMode request
  let profile := request.context.modelStructureProfile
  let registry := request.context.modelRegistryContext
  rejectAny [request.plan.approvedModelVersion, registry.approvedModelVersion, profile.modelVersion]
    (strip · = "") fun _ =>
    .contract "model_version_mismatch" "approved model version must be non-empty text"
  rejectIf (request.plan.modelId ≠ registry.modelId ∨
      request.plan.approvedModelVersion ≠ registry.approvedModelVersion ∨
      profile.modelId ≠ request.plan.modelId ∨
      profile.modelVersion ≠ request.plan.approvedModelVersion)
    (.contract "model_version_mismatch" "planning request and model context must match")
  validateFeasibility request (layersOf request)
  return {
    planType := request.envelope.planType
    jobId := request.envelope.jobId
    modelId := request.plan.modelId
    approvedModelVersion := request.plan.approvedModelVersion
    approvedExecutionMode := mode
    participants := request.plan.participants
    layers := layersOf request
    devices := request.context.devices
    networkLinks := request.context.networkLinks
    constraints := request.plan.constraints
    contextSnapshotId := request.context.snapshotId
    contextSnapshotHash := rt.digest (.obj request.context.toDict)
    inputSignature := rt.digest (inputPayload rt request mode (layersOf request))
    legacyInput := request.legacyInput
    workloadForecast := request.context.workloadForecast }

/-- **What a request that passes is planned with.** -/
theorem process_eq_ok {rt : Runtime} {request : PartitionPlanningRequest}
    {normalized : NormalizedPartitionRequest} (h : process rt request = .ok normalized) :
    normalized.planType = request.envelope.planType ∧
      normalized.participants = request.plan.participants ∧
      normalized.layers = layersOf request ∧ normalized.devices = request.context.devices ∧
      normalized.networkLinks = request.context.networkLinks ∧
      normalized.constraints = request.plan.constraints ∧
      validateFeasibility request normalized.layers = .ok () := by
  obtain ⟨_, _, h⟩ := bind_eq_ok h
  obtain ⟨_, _, h⟩ := bind_eq_ok h
  obtain ⟨mode, _, h⟩ := bind_eq_ok h
  obtain ⟨_, _, h⟩ := bind_eq_ok h
  obtain ⟨_, _, h⟩ := bind_eq_ok h
  obtain ⟨_, hfeasible, h⟩ := bind_eq_ok h
  obtain rfl := Except.ok.inj h
  exact ⟨rfl, rfl, rfl, rfl, rfl, rfl, hfeasible⟩

end PartitionCommonProcessor

end Partition
end AiopsK8s
