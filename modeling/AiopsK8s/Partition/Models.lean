/-
# Models of a planning request

The records of `partition_models` that describe the job: the approved execution
mode, the layers, the devices, the links, the constraints and the V1 round plan.
A record carries what its `from_dict` has checked, so no later module checks it
again, and each record is read back from its own `to_dict` (`fromDict_toDict`).

A V1 round plan is read back under conditions that `from_dict` checks on the whole
plan (`FederatedRoundPlan.Readable`): the planner builds round plans from V2 requests,
and those need not satisfy them (`fromDict_toDict_iff`).
-/

import AiopsK8s.Partition.Decode

namespace AiopsK8s
namespace Partition

open Effect Text

/-- An execution mode that the upstream coordinator has approved. -/
structure ApprovedExecutionMode where
  name : String
  approved : Bool
  approvedBy : String
  approvalRef : String
  name_proper : Proper name
  approved_true : approved = true
  approvedBy_proper : Proper approvedBy
  approvalRef_proper : Proper approvalRef
  deriving DecidableEq

namespace ApprovedExecutionMode

/-- `ApprovedExecutionMode.from_dict`. -/
def fromDict (py : Python) (payload : List (String × Json)) :
    Except PartitionError ApprovedExecutionMode := do
  let name ← contract.text py (Json.get payload "name") "execution_mode.name"
  requireTrue (Json.get payload "approved") (.contract "approved_mode_required"
    "execution mode must be approved by the upstream coordinator")
  let approvedBy ← stripped py (Json.get payload "approved_by")
  let approvalRef ← stripped py (Json.get payload "approval_ref")
  if h : approvedBy.1 = "" ∨ approvalRef.1 = "" then
    .error (.contract "approval_provenance_required" "approved_by and approval_ref are required")
  else
    .ok ⟨name.1, true, approvedBy.1, approvalRef.1, name.2, rfl,
      approvedBy.2 fun hb => h (.inl hb), approvalRef.2 fun hr => h (.inr hr)⟩

def toDict (m : ApprovedExecutionMode) : List (String × Json) :=
  [("name", .str m.name), ("approved", .bool m.approved), ("approved_by", .str m.approvedBy),
    ("approval_ref", .str m.approvalRef)]

@[simp] theorem fromDict_toDict (py : Python) (m : ApprovedExecutionMode) :
    fromDict py m.toDict = .ok m := by
  have hne : ¬(m.approvedBy = "" ∨ m.approvalRef = "") := by
    simp [m.approvedBy_proper.ne_empty, m.approvalRef_proper.ne_empty]
  obtain ⟨name, approved, approvedBy, approvalRef, hname, rfl, hb, hr⟩ := m
  simp only at hne
  simp [fromDict, toDict, Json.get_cons_ne, Decoder.text_proper hname, requireTrue,
    stripped_proper hb, stripped_proper hr, hne, bind, Except.bind]

end ApprovedExecutionMode

/-- A model layer. -/
structure ModelLayer where
  name : String
  computeUnits : ℚ
  parameterBytes : ℤ
  activationBytes : ℤ
  workingMemoryBytes : ℤ
  name_proper : Proper name
  computeUnits_min : 1 / 1000000 ≤ computeUnits
  parameterBytes_nonneg : 0 ≤ parameterBytes
  activationBytes_nonneg : 0 ≤ activationBytes
  workingMemoryBytes_nonneg : 0 ≤ workingMemoryBytes
  deriving DecidableEq

namespace ModelLayer

/-- `ModelLayer.from_dict`. -/
def fromDict (py : Python) (payload : List (String × Json)) : Except PartitionError ModelLayer := do
  let name ← contract.text py (Json.get payload "name") "layers.name"
  let computeUnits ← contract.float py (Json.get payload "compute_units") "layers.compute_units"
    .millionth
  let parameterBytes ← contract.int (Json.get payload "parameter_bytes") "layers.parameter_bytes" 0
  let activationBytes ← contract.int (Json.get payload "activation_bytes")
    "layers.activation_bytes" 0
  let workingMemoryBytes ← contract.int (Json.get payload "working_memory_bytes")
    "layers.working_memory_bytes" 0
  .ok ⟨name.1, computeUnits.1, parameterBytes.1, activationBytes.1, workingMemoryBytes.1, name.2,
    computeUnits.2, parameterBytes.2, activationBytes.2, workingMemoryBytes.2⟩

def toDict (l : ModelLayer) : List (String × Json) :=
  [("name", .str l.name), ("compute_units", .number l.computeUnits),
    ("parameter_bytes", .int l.parameterBytes), ("activation_bytes", .int l.activationBytes),
    ("working_memory_bytes", .int l.workingMemoryBytes)]

@[simp] theorem fromDict_toDict (py : Python) (l : ModelLayer) : fromDict py l.toDict = .ok l := by
  simp [fromDict, toDict, Json.get_cons_ne, Decoder.text_proper l.name_proper,
    Decoder.float_millionth l.computeUnits_min,
    Decoder.int_int l.parameterBytes_nonneg, Decoder.int_int l.activationBytes_nonneg,
    Decoder.int_int l.workingMemoryBytes_nonneg, bind, Except.bind]

end ModelLayer

/-- A device with its snapshot of free memory. -/
structure ResourceDevice where
  deviceId : String
  deviceType : String
  computeUnitsPerSecond : ℚ
  memoryCapacityBytes : ℤ
  memoryAvailableBytes : ℤ
  deviceId_proper : Proper deviceId
  deviceType_proper : Proper deviceType
  computeUnitsPerSecond_min : 1 / 1000000 ≤ computeUnitsPerSecond
  memoryCapacityBytes_pos : 1 ≤ memoryCapacityBytes
  memoryAvailableBytes_nonneg : 0 ≤ memoryAvailableBytes
  available_le_capacity : memoryAvailableBytes ≤ memoryCapacityBytes
  deriving DecidableEq

namespace ResourceDevice

/-- `ResourceDevice.from_dict`. -/
def fromDict (py : Python) (payload : List (String × Json)) :
    Except PartitionError ResourceDevice := do
  let deviceId ← contract.text py (Json.get payload "device_id") "devices.device_id"
  let deviceType ← contract.text py (Json.get payload "device_type") "devices.device_type"
  let computeUnitsPerSecond ← contract.float py (Json.get payload "compute_units_per_second")
    "devices.compute_units_per_second" .millionth
  let memoryCapacityBytes ← contract.int (Json.get payload "memory_capacity_bytes")
    "devices.memory_capacity_bytes" 1
  let memoryAvailableBytes ← contract.int (Json.get payload "memory_available_bytes")
    "devices.memory_available_bytes" 0
  if h : memoryAvailableBytes.1 ≤ memoryCapacityBytes.1 then
    .ok ⟨deviceId.1, deviceType.1, computeUnitsPerSecond.1, memoryCapacityBytes.1,
      memoryAvailableBytes.1, deviceId.2, deviceType.2, computeUnitsPerSecond.2,
      memoryCapacityBytes.2, memoryAvailableBytes.2, h⟩
  else
    .error (.contract "invalid_memory_snapshot"
      s!"available memory exceeds capacity for {deviceId.1}")

def toDict (d : ResourceDevice) : List (String × Json) :=
  [("device_id", .str d.deviceId), ("device_type", .str d.deviceType),
    ("compute_units_per_second", .number d.computeUnitsPerSecond),
    ("memory_capacity_bytes", .int d.memoryCapacityBytes),
    ("memory_available_bytes", .int d.memoryAvailableBytes)]

@[simp] theorem fromDict_toDict (py : Python) (d : ResourceDevice) :
    fromDict py d.toDict = .ok d := by
  simp [fromDict, toDict, Json.get_cons_ne, Decoder.text_proper d.deviceId_proper,
    Decoder.text_proper d.deviceType_proper,
    Decoder.float_millionth d.computeUnitsPerSecond_min,
    Decoder.int_int d.memoryCapacityBytes_pos, Decoder.int_int d.memoryAvailableBytes_nonneg,
    d.available_le_capacity, bind, Except.bind]

end ResourceDevice

/-- A directed link between two devices. -/
structure NetworkLink where
  sourceDevice : String
  targetDevice : String
  bandwidthBytesPerSecond : ℚ
  latencyMs : ℚ
  sourceDevice_proper : Proper sourceDevice
  targetDevice_proper : Proper targetDevice
  bandwidth_min : 1 / 1000000 ≤ bandwidthBytesPerSecond
  latencyMs_nonneg : 0 ≤ latencyMs
  deriving DecidableEq

namespace NetworkLink

/-- `NetworkLink.from_dict`. -/
def fromDict (py : Python) (payload : List (String × Json)) : Except PartitionError NetworkLink := do
  let sourceDevice ← contract.text py (Json.get payload "source_device")
    "network_links.source_device"
  let targetDevice ← contract.text py (Json.get payload "target_device")
    "network_links.target_device"
  let bandwidth ← contract.float py (Json.get payload "bandwidth_bytes_per_second")
    "network_links.bandwidth_bytes_per_second" .millionth
  let latencyMs ← contract.float py (Json.get payload "latency_ms") "network_links.latency_ms" .zero
  .ok ⟨sourceDevice.1, targetDevice.1, bandwidth.1, latencyMs.1, sourceDevice.2, targetDevice.2,
    bandwidth.2, latencyMs.2⟩

def toDict (l : NetworkLink) : List (String × Json) :=
  [("source_device", .str l.sourceDevice), ("target_device", .str l.targetDevice),
    ("bandwidth_bytes_per_second", .number l.bandwidthBytesPerSecond),
    ("latency_ms", .number l.latencyMs)]

@[simp] theorem fromDict_toDict (py : Python) (l : NetworkLink) : fromDict py l.toDict = .ok l := by
  simp [fromDict, toDict, Json.get_cons_ne, Decoder.text_proper l.sourceDevice_proper,
    Decoder.text_proper l.targetDevice_proper,
    Decoder.float_millionth l.bandwidth_min,
    Decoder.float_zero l.latencyMs_nonneg, bind, Except.bind]

/-- The devices that a link connects. -/
def pair (l : NetworkLink) : String × String := (l.sourceDevice, l.targetDevice)

end NetworkLink

/-- The limits of a plan. -/
structure PartitionConstraints where
  maxEndToEndLatencyMs : Option ℚ
  maxTransferBytes : Option ℤ
  minimumMemoryHeadroomRatio : ℚ
  latency_min : ∀ l ∈ maxEndToEndLatencyMs, 1 / 1000000 ≤ l
  transfer_min : ∀ b ∈ maxTransferBytes, 1 ≤ b
  headroom_nonneg : 0 ≤ minimumMemoryHeadroomRatio
  headroom_lt_one : minimumMemoryHeadroomRatio < 1
  deriving DecidableEq

namespace PartitionConstraints

/-- A value that may be `None`. -/
def optional {α : Type} {p : α → Prop} (decode : Json → Except PartitionError {a : α // p a}) :
    Json → Except PartitionError {o : Option α // ∀ a ∈ o, p a}
  | .null => .ok ⟨none, by simp⟩
  | value => do
      let a ← decode value
      .ok ⟨some a.1, by simpa using a.2⟩

/-- `PartitionConstraints.from_dict`. -/
def fromDict (py : Python) (payload : List (String × Json)) :
    Except PartitionError PartitionConstraints := do
  let headroom ← contract.float py
    (Json.getD payload "minimum_memory_headroom_ratio" (.number 0))
    "constraints.minimum_memory_headroom_ratio" .zero
  if h : 1 ≤ headroom.1 then
    contract.fail "minimum_memory_headroom_ratio must be below 1.0"
  else
    let latency ← optional (fun value => contract.float py value
      "constraints.max_end_to_end_latency_ms" .millionth)
      (Json.get payload "max_end_to_end_latency_ms")
    let transfer ← optional (fun value => contract.int value "constraints.max_transfer_bytes" 1)
      (Json.get payload "max_transfer_bytes")
    .ok ⟨latency.1, transfer.1, headroom.1, latency.2, transfer.2, headroom.2, not_le.1 h⟩

def toDict (c : PartitionConstraints) : List (String × Json) :=
  [("max_end_to_end_latency_ms", .ofOption .number c.maxEndToEndLatencyMs),
    ("max_transfer_bytes", .ofOption .int c.maxTransferBytes),
    ("minimum_memory_headroom_ratio", .number c.minimumMemoryHeadroomRatio)]

theorem optional_ofOption {α : Type} {p : α → Prop} {encode : α → Json}
    {decode : Json → Except PartitionError {a : α // p a}} {o : Option α} (ho : ∀ a ∈ o, p a)
    (hnull : ∀ a, encode a ≠ .null)
    (hdecode : ∀ a (h : p a), decode (encode a) = .ok ⟨a, h⟩) :
    optional decode (.ofOption encode o) = .ok ⟨o, ho⟩ := by
  rcases o with _ | a
  · rfl
  · have hdec := hdecode a (ho a rfl)
    simp only [Json.ofOption]
    unfold optional
    split
    · exact absurd ‹_› (hnull a)
    · simp [hdec, bind, Except.bind]

@[simp] theorem fromDict_toDict (py : Python) (c : PartitionConstraints) :
    fromDict py c.toDict = .ok c := by
  have hlatency : optional (fun value => contract.float py value
      "constraints.max_end_to_end_latency_ms" .millionth)
      (.ofOption .number c.maxEndToEndLatencyMs) = .ok ⟨_, c.latency_min⟩ :=
    optional_ofOption _ (by simp [Json.number]) fun q h => Decoder.float_millionth h
  have htransfer : optional (fun value => contract.int value "constraints.max_transfer_bytes" 1)
      (.ofOption .int c.maxTransferBytes) = .ok ⟨_, c.transfer_min⟩ :=
    optional_ofOption _ (by simp) fun i h => Decoder.int_int h
  have hheadroom : contract.float py (.number c.minimumMemoryHeadroomRatio)
      "constraints.minimum_memory_headroom_ratio" .zero = .ok ⟨_, c.headroom_nonneg⟩ :=
    Decoder.float_zero c.headroom_nonneg
  have hlt : ¬1 ≤ c.minimumMemoryHeadroomRatio := not_le.2 c.headroom_lt_one
  simp only [fromDict, toDict, Json.get_cons_self, bind, Except.bind]
  rw [Json.getD_cons_ne (by decide), Json.getD_cons_ne (by decide), Json.getD_cons_self,
    Json.get_cons_ne (by decide), Json.get_cons_self, hheadroom]
  simp only [hlt, dite_false]
  rw [hlatency, htransfer]

end PartitionConstraints

/-- A V1 round plan, and the form in which every request reaches planner and validator. -/
structure FederatedRoundPlan where
  jobId : String
  modelId : String
  executionMode : ApprovedExecutionMode
  layers : List ModelLayer
  participants : List String
  devices : List ResourceDevice
  networkLinks : List NetworkLink
  constraints : PartitionConstraints
  jobId_proper : Proper jobId
  modelId_proper : Proper modelId
  participants_proper : ∀ p ∈ participants, Proper p
  deriving DecidableEq

/-- `tuple(_text(item, field) for item in items)`. -/
def Decoder.texts (d : Decoder) (py : Python) (items : List Json) (field : String) :
    Except PartitionError {l : List String // ∀ s ∈ l, Proper s} := do
  let texts ← items.mapM fun item => d.text py item field
  .ok ⟨texts.map (·.1), fun s hs => by
    obtain ⟨t, -, rfl⟩ := List.mem_map.1 hs
    exact t.2⟩

/-- `tuple(T.from_dict(_mapping(item, field)) for item in items)`. -/
def Decoder.records {α : Type} (d : Decoder)
    (fromDict : List (String × Json) → Except PartitionError α) (items : List Json)
    (field : String) : Except PartitionError (List α) :=
  items.mapM fun item => do fromDict (← d.mapping item field)

/-- Records are read back from what their `to_dict` wrote. -/
theorem Decoder.records_toDict {α : Type} {d : Decoder}
    {fromDict : List (String × Json) → Except PartitionError α} {toDict : α → List (String × Json)}
    {field : String} {l : List α} (h : ∀ a ∈ l, fromDict (toDict a) = .ok a) :
    d.records fromDict (l.map fun a => .obj (toDict a)) field = .ok l := by
  refine mapM_map_ok fun a ha => ?_
  rw [Decoder.mapping_obj]
  exact h a ha

theorem Decoder.texts_str {d : Decoder} {py : Python} {field : String} {l : List String}
    (h : ∀ s ∈ l, Proper s) : d.texts py (l.map .str) field = .ok ⟨l, h⟩ := by
  have hall : ∃ r : List {s : String // Proper s},
      (l.map Json.str).mapM (fun item => d.text py item field) = .ok r ∧ r.map (·.1) = l := by
    induction l with
    | nil => exact ⟨[], rfl, rfl⟩
    | cons s l ih =>
        obtain ⟨r, hr, hl⟩ := ih fun t ht => h t (List.mem_cons_of_mem _ ht)
        refine ⟨⟨s, h s List.mem_cons_self⟩ :: r, ?_, by rw [List.map_cons, hl]⟩
        rw [List.map_cons, List.mapM_cons, Decoder.text_proper (h s List.mem_cons_self), hr]
        rfl
  obtain ⟨r, hr, hl⟩ := hall
  subst hl
  unfold Decoder.texts
  rw [hr]
  rfl

/-- What `FederatedRoundPlan.from_dict` demands of the plan as a whole. -/
structure Readable (layers : List ModelLayer) (participants : List String)
    (devices : List ResourceDevice) (links : List NetworkLink) : Prop where
  two_layers : 2 ≤ layers.length
  two_participants : 2 ≤ participants.length
  participants_le_layers : participants.length ≤ layers.length
  layers_nodup : (layers.map (·.name)).Nodup
  participants_nodup : participants.Nodup
  devices_nodup : (devices.map (·.deviceId)).Nodup
  links_nodup : (links.map (·.pair)).Nodup
  participants_known : ∀ p ∈ participants, p ∈ devices.map (·.deviceId)
  links_known : ∀ l ∈ links, l.sourceDevice ∈ devices.map (·.deviceId) ∧
    l.targetDevice ∈ devices.map (·.deviceId)
  chain : ∀ e ∈ participants.zip participants.tail, e ∈ links.map (·.pair)

/-- Membership of a pair of names in a list of pairs is decided by comparing the names. -/
instance lawfulBEq_pair : LawfulBEq (String × String) := inferInstance

namespace FederatedRoundPlan

/-- The checks of `from_dict` on the whole plan. -/
def checks (rt : Runtime) (layers : List ModelLayer) (participants : List String)
    (devices : List ResourceDevice) (links : List NetworkLink) : Except PartitionError Unit := do
  rejectIf (layers.length < 2)
    (.contract "insufficient_layers" "at least two ordered layers are required")
  rejectIf (participants.length < 2)
    (.contract "insufficient_participants" "at least two participants are required")
  rejectIf (layers.length < participants.length)
    (.contract "insufficient_layers" "each participant requires a non-empty partition")
  requireUnique id (layers.map (·.name)) "duplicate_layer"
  requireUnique id participants "duplicate_participant"
  requireUnique id (devices.map (·.deviceId)) "duplicate_device"
  requireUnique (fun p => rt.reprTuple [.str p.1, .str p.2]) (links.map (·.pair))
    "duplicate_network_link"
  rejectAny participants (· ∉ devices.map (·.deviceId)) fun participant =>
    .contract "unknown_participant" s!"participant {participant} has no device snapshot"
  rejectAny links (fun l => l.sourceDevice ∉ devices.map (·.deviceId) ∨
      l.targetDevice ∉ devices.map (·.deviceId)) fun link =>
    .contract "unknown_network_device"
      s!"link {link.sourceDevice}->{link.targetDevice} references an unknown device"
  rejectAny (participants.zip participants.tail) (· ∉ links.map (·.pair)) fun (source, target) =>
    .contract "missing_network_link" s!"missing link {source}->{target}"

/-- `FederatedRoundPlan.from_dict`. -/
def fromDict (rt : Runtime) (payload : Json) : Except PartitionError FederatedRoundPlan := do
  let payload ← contract.mapping payload "round_plan"
  let layers ← contract.records (ModelLayer.fromDict rt.toPython)
    (← contract.sequence (Json.get payload "layers") "layers") "layers[]"
  let participants ← contract.texts rt.toPython
    (← contract.sequence (Json.get payload "participants") "participants") "participants[]"
  let devices ← contract.records (ResourceDevice.fromDict rt.toPython)
    (← contract.sequence (Json.get payload "devices") "devices") "devices[]"
  let links ← contract.records (NetworkLink.fromDict rt.toPython)
    (← contract.sequence (Json.get payload "network_links") "network_links") "network_links[]"
  checks rt layers participants.1 devices links
  let jobId ← contract.text rt.toPython (Json.get payload "job_id") "job_id"
  let modelId ← contract.text rt.toPython (Json.get payload "model_id") "model_id"
  let executionMode ← ApprovedExecutionMode.fromDict rt.toPython
    (← contract.mapping (Json.get payload "execution_mode") "execution_mode")
  let constraints ← PartitionConstraints.fromDict rt.toPython
    (← contract.mapping (Json.getD payload "constraints" (.obj [])) "constraints")
  .ok ⟨jobId.1, modelId.1, executionMode, layers, participants.1, devices, links, constraints,
    jobId.2, modelId.2, participants.2⟩

def toDict (p : FederatedRoundPlan) : List (String × Json) :=
  [("job_id", .str p.jobId), ("model_id", .str p.modelId),
    ("execution_mode", .obj p.executionMode.toDict),
    ("layers", .ofList (fun l => .obj l.toDict) p.layers),
    ("participants", .texts p.participants),
    ("devices", .ofList (fun d => .obj d.toDict) p.devices),
    ("network_links", .ofList (fun l => .obj l.toDict) p.networkLinks),
    ("constraints", .obj p.constraints.toDict)]

theorem checks_eq_ok {rt : Runtime} {layers : List ModelLayer} {participants : List String}
    {devices : List ResourceDevice} {links : List NetworkLink} :
    checks rt layers participants devices links = .ok () ↔
      Readable layers participants devices links := by
  unfold checks
  simp only [checks_seq, rejectIf_eq_ok, requireUnique_eq_ok, rejectAny_eq_ok, not_lt,
    decide_eq_false_iff_not, not_not, not_or]
  constructor
  · rintro ⟨h₁, h₂, h₃, h₄, h₅, h₆, h₇, h₈, h₉, h₁₀⟩
    exact ⟨h₁, h₂, h₃, h₄, h₅, h₆, h₇, h₈, h₉, h₁₀⟩
  · rintro ⟨h₁, h₂, h₃, h₄, h₅, h₆, h₇, h₈, h₉, h₁₀⟩
    exact ⟨h₁, h₂, h₃, h₄, h₅, h₆, h₇, h₈, h₉, h₁₀⟩

/-- The conditions under which a round plan is read back. -/
def IsReadable (p : FederatedRoundPlan) : Prop :=
  Readable p.layers p.participants p.devices p.networkLinks

/-- **A round plan is read back from its own `to_dict`** exactly when it satisfies the
conditions on the whole plan. -/
theorem fromDict_toDict_iff {rt : Runtime} {p : FederatedRoundPlan} :
    fromDict rt (.obj p.toDict) = .ok p ↔ p.IsReadable := by
  have hread : fromDict rt (.obj p.toDict) =
      checks rt p.layers p.participants p.devices p.networkLinks >>= fun _ => .ok p := by
    unfold fromDict toDict
    simp [Json.get_cons_ne, Json.getD_cons_ne, Json.ofList, Json.texts,
      Decoder.records_toDict (fun l _ => ModelLayer.fromDict_toDict rt.toPython l),
      Decoder.records_toDict (fun l _ => ResourceDevice.fromDict_toDict rt.toPython l),
      Decoder.records_toDict (fun l _ => NetworkLink.fromDict_toDict rt.toPython l),
      Decoder.texts_str p.participants_proper, Decoder.text_proper p.jobId_proper,
      Decoder.text_proper p.modelId_proper, bind, Except.bind]
  have hchecks : checks rt p.layers p.participants p.devices p.networkLinks = .ok () ↔
      p.IsReadable := checks_eq_ok
  rw [hread, ← hchecks]
  rcases checks rt p.layers p.participants p.devices p.networkLinks with e | ⟨⟩ <;>
    simp [bind, Except.bind]

end FederatedRoundPlan

end Partition
end AiopsK8s
