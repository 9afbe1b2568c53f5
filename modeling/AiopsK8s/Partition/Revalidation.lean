/-
# Validation of a report before it is saved

A report of `run_partition_planning` says itself that its plan was validated; the repository does
not rely on it.  `_is_independently_valid` decodes the round plan, the plan and the request of the
report again, computes from the request which round plan it should be, and validates the plan once
more.  A report without a request comes from a V1 round plan: `LegacyFederatedRoundPlanAdapter`
makes the request of it that the planner was asked with.

The two validations do not accept the same reports.  A valid report of a request is accepted exactly
when the figures of its plan are finite and its round plan can be decoded
(`isIndependentlyValid_filed`), which the planner does not ask for.  A V1 report is validated as a
request of the adapter, so against a service level of its own: one millisecond where the round plan
states no limit (`isIndependentlyValid_legacy`).
-/

import AiopsK8s.Partition.Conversions
import AiopsK8s.Partition.ReadBack

namespace AiopsK8s
namespace Partition

open Effect Text

/-! ### The adapter of V1 round plans -/

namespace LegacyFederatedRoundPlanAdapter

/-- `LEGACY_SCHEMA_VERSION`. -/
def schemaVersion : String := "legacy-1.0"

/-- `_model_version`. -/
def modelVersion (rt : Runtime) (modelId : String) : String :=
  "legacy-" ++ String.ofList ((rt.sha256 modelId).toList.take 16)

theorem modelVersion_proper (rt : Runtime) (modelId : String) : Proper (modelVersion rt modelId) := by
  obtain ⟨hlength, hdigits⟩ := rt.sha256_hex modelId
  refine Proper.append ⟨'l', "egacy-".toList, rfl, by decide⟩ ?_
  have hne : (rt.sha256 modelId).toList.take 16 ≠ [] := by
    intro hnil
    have htake := congrArg List.length hnil
    rw [List.length_take, hlength] at htake
    cases htake
  have hspace : ∀ c ∈ (rt.sha256 modelId).toList.take 16, isSpace c = false := by
    intro c hc
    have hall : ∀ d ∈ "0123456789abcdef".toList, isSpace d = false := by simp [isSpace]
    exact hall c (hdigits c (List.mem_of_mem_take hc))
  refine proper_iff_ends.2 ⟨fun hempty => hne ?_, fun c hc => hspace c ?_, fun c hc => hspace c ?_⟩
  · simpa using congrArg String.toList hempty
  · simpa using List.mem_of_head? hc
  · simpa using List.mem_of_getLast? hc

/-- The block of one layer. -/
def block (layer : ModelLayer) : ModelBlock where
  blockId := layer.name
  layerNames := [layer.name]
  parameterBytes := layer.parameterBytes
  activationBytes := layer.activationBytes
  workingMemoryBytes := layer.workingMemoryBytes
  blockId_proper := layer.name_proper
  layerNames_proper := fun _ hs => List.mem_singleton.1 hs ▸ layer.name_proper
  layerNames_ne_nil := List.cons_ne_nil _ _
  layerNames_nodup := List.nodup_singleton _
  parameterBytes_nonneg := layer.parameterBytes_nonneg
  activationBytes_nonneg := layer.activationBytes_nonneg
  workingMemoryBytes_nonneg := layer.workingMemoryBytes_nonneg

/-- A round plan that `FederatedRoundPlan.from_dict` has checked as a whole. -/
abbrev CheckedRoundPlan : Type := {p : FederatedRoundPlan // p.IsReadable}

theorem blocks_ne_nil (p : CheckedRoundPlan) : p.1.layers.map block ≠ [] := by
  intro hnil
  have hlength := p.2.two_layers
  rw [List.map_eq_nil_iff.1 hnil] at hlength
  cases hlength

theorem blockIds (layers : List ModelLayer) :
    (layers.map block).map (·.blockId) = layers.map (·.name) := by
  rw [List.map_map]
  rfl

theorem blockLayers (layers : List ModelLayer) :
    (layers.map block).flatMap (·.layerNames) = layers.map (·.name) := by
  induction layers with
  | nil => rfl
  | cons layer layers ih => rw [List.map_cons, List.flatMap_cons, ih]; rfl

theorem profileId_proper {version : String} (h : Proper version) :
    Proper ("legacy-profile-" ++ version) :=
  h.append ⟨'l', "egacy-profile-".toList, rfl, by decide⟩

theorem registryId_proper {modelId : String} (h : Proper modelId) :
    Proper ("legacy-registry-" ++ modelId) :=
  h.append ⟨'l', "egacy-registry-".toList, rfl, by decide⟩

theorem schemaVersion_proper : Proper schemaVersion := by decide

/-- The model of a V1 round plan: a block for each layer. -/
def profile (rt : Runtime) (p : CheckedRoundPlan) : ModelStructureProfile where
  profileId := "legacy-profile-" ++ modelVersion rt p.1.modelId
  modelId := p.1.modelId
  modelVersion := modelVersion rt p.1.modelId
  blocks := p.1.layers.map block
  profileId_proper := profileId_proper (modelVersion_proper rt p.1.modelId)
  modelId_proper := p.1.modelId_proper
  modelVersion_proper := modelVersion_proper rt p.1.modelId
  blocks_ne_nil := blocks_ne_nil p
  blockIds_nodup := (blockIds p.1.layers).symm ▸ p.2.layers_nodup
  layerNames_nodup := (blockLayers p.1.layers).symm ▸ p.2.layers_nodup

/-- The registry entry of a V1 round plan. -/
def registryContext (rt : Runtime) (p : CheckedRoundPlan) : ModelRegistryContext where
  registryId := "legacy-registry-" ++ p.1.modelId
  registryVersion := schemaVersion
  modelId := p.1.modelId
  approvedModelVersion := modelVersion rt p.1.modelId
  registryId_proper := registryId_proper p.1.modelId_proper
  registryVersion_proper := schemaVersion_proper
  modelId_proper := p.1.modelId_proper
  approvedModelVersion_proper := modelVersion_proper rt p.1.modelId

/-- `adapt`. -/
def adapt (rt : Runtime) (p : CheckedRoundPlan) : PartitionPlanningRequest where
  envelope := {
    planType := "inference"
    planId := "legacy-plan-" ++ p.1.jobId
    jobId := p.1.jobId
    approvedBy := p.1.executionMode.approvedBy
    approvalRef := p.1.executionMode.approvalRef
    approvedAt := "legacy-input"
    schemaVersion := schemaVersion }
  plan := .inference {
    modelId := p.1.modelId
    approvedModelVersion := modelVersion rt p.1.modelId
    serviceObjective := "legacy federated round partitioning"
    latencySloMs := p.1.constraints.maxEndToEndLatencyMs.getD 1
    minimumThroughputRps := .finite 1
    availabilityTarget := 0
    trafficPolicy := []
    concurrencyPolicy := []
    participants := p.1.participants
    resourceBudget := []
    constraints := p.1.constraints }
  context := {
    snapshotId := "legacy-snapshot-" ++ p.1.jobId
    snapshotVersion := schemaVersion
    collectedAt := "legacy-input"
    modelStructureProfile := profile rt p
    modelRegistryContext := registryContext rt p
    devices := p.1.devices
    networkLinks := p.1.networkLinks
    workloadForecast := none }
  legacyInput := true
  approvedExecutionMode := some p.1.executionMode
  legacyLayers := some p.1.layers

/-- The layers of a V1 round plan are planned as they are. -/
theorem layersOf_adapt (rt : Runtime) (p : CheckedRoundPlan) :
    PartitionCommonProcessor.layersOf (adapt rt p) = p.1.layers := by
  have hne : p.1.layers ≠ [] := fun hnil => blocks_ne_nil p (by rw [hnil]; rfl)
  unfold PartitionCommonProcessor.layersOf adapt
  dsimp only
  split
  next layer layers hlayers => exact (Option.some.inj hlayers).symm
  next hlayers =>
    rcases hnil : p.1.layers with _ | ⟨layer, layers⟩
    · exact absurd hnil hne
    · exact absurd (congrArg some hnil) (hlayers layer layers)

end LegacyFederatedRoundPlanAdapter

open LegacyFederatedRoundPlanAdapter (CheckedRoundPlan)

/-! ### Reports -/

namespace RoundPlan

/-- `FederatedRoundPlan.to_dict` of a round plan that was not decoded. -/
def toDict (p : RoundPlan) : List (String × Json) :=
  [("job_id", .str p.jobId), ("model_id", .str p.modelId),
    ("execution_mode", .obj p.executionMode.toDict),
    ("layers", .ofList (fun l => .obj l.toDict) p.layers),
    ("participants", .texts p.participants),
    ("devices", .ofList (fun d => .obj d.toDict) p.devices),
    ("network_links", .ofList (fun l => .obj l.toDict) p.networkLinks),
    ("constraints", .obj p.constraints.toDict)]

/-- Round plans are compared field by field. -/
def same (p q : RoundPlan) : Bool :=
  decide (p.jobId = q.jobId) && decide (p.modelId = q.modelId) &&
    decide (p.executionMode = q.executionMode) && decide (p.layers = q.layers) &&
    decide (p.participants = q.participants) && decide (p.devices = q.devices) &&
    decide (p.networkLinks = q.networkLinks) && decide (p.constraints = q.constraints)

theorem same_self (p : RoundPlan) : p.same p = true := by simp [same]

end RoundPlan

namespace FederatedRoundPlan

variable {rt : Runtime} {payload : Json} {p : FederatedRoundPlan}

/-- A round plan that `from_dict` returns satisfies the conditions on the whole plan. -/
theorem fromDict_isReadable (h : fromDict rt payload = .ok p) : p.IsReadable := by
  obtain ⟨_, _, h⟩ := bind_eq_ok h
  obtain ⟨_, _, h⟩ := bind_eq_ok h
  obtain ⟨layers, _, h⟩ := bind_eq_ok h
  obtain ⟨_, _, h⟩ := bind_eq_ok h
  obtain ⟨participants, _, h⟩ := bind_eq_ok h
  obtain ⟨_, _, h⟩ := bind_eq_ok h
  obtain ⟨devices, _, h⟩ := bind_eq_ok h
  obtain ⟨_, _, h⟩ := bind_eq_ok h
  obtain ⟨links, _, h⟩ := bind_eq_ok h
  obtain ⟨_, hchecks, h⟩ := bind_eq_ok h
  obtain ⟨jobId, _, h⟩ := bind_eq_ok h
  obtain ⟨modelId, _, h⟩ := bind_eq_ok h
  obtain ⟨_, _, h⟩ := bind_eq_ok h
  obtain ⟨_, _, h⟩ := bind_eq_ok h
  obtain ⟨_, _, h⟩ := bind_eq_ok h
  obtain ⟨_, _, h⟩ := bind_eq_ok h
  obtain rfl := Except.ok.inj h
  exact checks_eq_ok.1 hchecks

/-- `FederatedRoundPlan.from_dict`, with what it has checked. -/
def read (rt : Runtime) (payload : Json) : Except PartitionError CheckedRoundPlan :=
  match h : fromDict rt payload with
  | .ok p => .ok ⟨p, fromDict_isReadable h⟩
  | .error e => .error e

theorem read_eq_ok {c : CheckedRoundPlan} : read rt payload = .ok c ↔ fromDict rt payload = .ok c.1 := by
  unfold read
  split
  next q hq => simp [hq, Subtype.ext_iff]
  next e he => simp [he]

theorem read_eq_error {e : PartitionError} :
    read rt payload = .error e ↔ fromDict rt payload = .error e := by
  unfold read
  split
  next q hq => simp [hq]
  next e' he => simp [he]

/-- A round plan is read back from its own `to_dict`, if the checks on the whole plan pass. -/
theorem fromDict_toDict (rt : Runtime) (p : FederatedRoundPlan) :
    fromDict rt (.obj p.toDict) =
      checks rt p.layers p.participants p.devices p.networkLinks >>= fun _ => .ok p := by
  unfold fromDict toDict
  simp [Json.get_cons_ne, Json.getD_cons_ne, Json.ofList, Json.texts,
    Decoder.records_toDict (fun l _ => ModelLayer.fromDict_toDict rt.toPython l),
    Decoder.records_toDict (fun l _ => ResourceDevice.fromDict_toDict rt.toPython l),
    Decoder.records_toDict (fun l _ => NetworkLink.fromDict_toDict rt.toPython l),
    Decoder.texts_str p.participants_proper, Decoder.text_proper p.jobId_proper,
    Decoder.text_proper p.modelId_proper, bind, Except.bind]

/-- Where they do not pass, it is refused with a contract error. -/
theorem fromDict_toDict_refused (h : ¬p.IsReadable) :
    ∃ code message, fromDict rt (.obj p.toDict) = .error (.contract code message) := by
  rw [fromDict_toDict]
  rcases hchecks : checks rt p.layers p.participants p.devices p.networkLinks with e | ⟨⟩
  · have hcontract := raises_checks e hchecks
    cases e with
    | contract code message => exact ⟨code, message, rfl⟩
    | _ => exact absurd hcontract id
  · exact absurd (checks_eq_ok.1 hchecks) h

end FederatedRoundPlan

/-- `PartitionValidationResult.to_dict`. -/
def PartitionValidationResult.toDict (v : PartitionValidationResult) : List (String × Json) :=
  [("valid", .bool v.valid), ("errors", .texts v.errors), ("checked_rules", .texts v.checkedRules)]

/-- The report of a plan, before it is saved: `request` is the document of a V2 request. -/
def planningReport (request : Option Policy) (roundPlan : List (String × Json))
    (plan : PartitionExecutionPlan) (validation : PartitionValidationResult)
    (evaluation replanning : Json) : List (String × Json) :=
  [("schema_version", .str "1.0"), ("kind", .str "model_partition_orchestration"),
    ("status", .str (if plan.valid = true ∧ validation.valid = true then "planned" else "blocked"))] ++
  (match request with
    | some request => [("planning_request", .obj request)]
    | none => []) ++
  [("round_plan", .obj roundPlan), ("plan", .obj plan.toDict),
    ("validation", .obj validation.toDict), ("evaluation", evaluation), ("replanning", replanning)]

/-! ### The independent validation -/

namespace PartitionPlanRepository

/-- What `_is_independently_valid` catches: `KeyError`, `PartitionContractError` and `TypeError`. -/
def caught : PartitionError → Bool
  | .contract _ _ | .key | .type => true
  | .overflow | .value => false

variable (rt : Runtime)

/-- The request and the plan of a report, `none` where the round plan is not that of the request.
`plan` are the fields of `report["plan"]`, which `save` has found to be a mapping. -/
def decodeReport (report plan : List (String × Json)) :
    Except PartitionError (Option (PartitionPlanningRequest × PartitionExecutionPlan)) := do
  let roundPlan ← FederatedRoundPlan.read rt (← required report "round_plan")
  let plan ← PartitionExecutionPlan.fromDict rt plan
  match Json.get report "planning_request" with
  | .obj payload =>
      let request ← PartitionPlanningRequest.fromDict rt.toPython (.obj payload)
      let normalized ← PartitionCommonProcessor.process rt request
      return if roundPlan.1.toRoundPlan.same normalized.roundPlan then some (request, plan) else none
  | _ => return some (LegacyFederatedRoundPlanAdapter.adapt rt roundPlan, plan)

/-- The only error that is tolerated, for a V1 round plan. -/
def throughputUnverifiable : List String := ["predicted_throughput_unverifiable"]

/-- `_is_independently_valid` of a repository with the policy document `policy`. -/
def isIndependentlyValid (policy : Json) (report plan : List (String × Json)) :
    Except PartitionError Bool :=
  match decodeReport rt report plan with
  | .error e => if caught e then .ok false else .error e
  | .ok none => .ok false
  | .ok (some (request, plan)) => do
      let registry ← PartitionStrategyRegistry.ofPolicy rt policy
      let validation ← PartitionPlanValidator.validate rt registry (.v2 request) plan
      return validation.valid ||
        (request.legacyInput && decide (SameElements validation.errors throughputUnverifiable))

end PartitionPlanRepository

/-! ### The round plan of a request -/

section RoundPlans

variable {rt : Runtime} {request : PartitionPlanningRequest} {normalized : NormalizedPartitionRequest}

/-- A snapshot that `from_dict` returns satisfies the conditions on the devices and the links. -/
theorem PartitionSystemContext.fromDict_links {py : Python} {payload : Json}
    {c : PartitionSystemContext} (h : fromDict py payload = .ok c) :
    (c.devices.map (·.deviceId)).Nodup ∧ (c.networkLinks.map (·.arrow)).Nodup ∧
      (∀ l ∈ c.networkLinks, l.sourceDevice ∈ c.devices.map (·.deviceId) ∧
        l.targetDevice ∈ c.devices.map (·.deviceId)) ∧ c.snapshotId ≠ "" := by
  obtain ⟨_, _, h⟩ := bind_eq_ok h
  obtain ⟨_, _, h⟩ := bind_eq_ok h
  obtain ⟨devices, _, h⟩ := bind_eq_ok h
  obtain ⟨_, _, h⟩ := bind_eq_ok h
  obtain ⟨_, hdevices, h⟩ := bind_eq_ok h
  obtain ⟨_, _, h⟩ := bind_eq_ok h
  obtain ⟨links, _, h⟩ := bind_eq_ok h
  obtain ⟨_, hlinks, h⟩ := bind_eq_ok h
  obtain ⟨_, hknown, h⟩ := bind_eq_ok h
  obtain ⟨_, _, h⟩ := bind_eq_ok h
  obtain ⟨profile, _, h⟩ := bind_eq_ok h
  obtain ⟨_, _, h⟩ := bind_eq_ok h
  obtain ⟨registry, _, h⟩ := bind_eq_ok h
  obtain ⟨_, _, h⟩ := bind_eq_ok h
  obtain ⟨snapshotId, _, h⟩ := bind_eq_ok h
  obtain ⟨_, _, h⟩ := bind_eq_ok h
  obtain ⟨_, _, h⟩ := bind_eq_ok h
  obtain ⟨_, _, h⟩ := bind_eq_ok h
  obtain rfl := Except.ok.inj h
  refine ⟨not_not.1 (rejectIf_eq_ok.1 hdevices), not_not.1 (rejectIf_eq_ok.1 hlinks),
    fun l hl => ?_, snapshotId.2.ne_empty⟩
  have hl := rejectAny_eq_ok.1 hknown l hl
  rwa [decide_eq_false_iff_not, not_or, not_not, not_not] at hl

theorem CoordinationPlan.fromDict_participants {py : Python} {planType : String} {payload : Policy}
    {plan : CoordinationPlan} (h : fromDict py planType payload = .ok plan) :
    ∀ s ∈ plan.participants, Proper s := by
  unfold fromDict at h
  split_ifs at h
  · obtain ⟨plan, hplan, rfl⟩ := map_eq_ok_iff.1 h
    obtain ⟨_, _, h⟩ := bind_eq_ok hplan
    obtain ⟨_, _, h⟩ := bind_eq_ok h
    obtain ⟨_, _, h⟩ := bind_eq_ok h
    obtain ⟨participants, hparticipants, h⟩ := bind_eq_ok h
    obtain ⟨_, _, h⟩ := bind_eq_ok h
    obtain ⟨_, _, h⟩ := bind_eq_ok h
    obtain ⟨_, _, h⟩ := bind_eq_ok h
    obtain ⟨_, _, h⟩ := bind_eq_ok h
    obtain ⟨_, _, h⟩ := bind_eq_ok h
    obtain ⟨_, _, h⟩ := bind_eq_ok h
    obtain ⟨_, _, h⟩ := bind_eq_ok h
    obtain rfl := Except.ok.inj h
    exact (participantsFromDict_eq_ok hparticipants).1
  · obtain ⟨plan, hplan, rfl⟩ := map_eq_ok_iff.1 h
    obtain ⟨_, _, h⟩ := bind_eq_ok hplan
    obtain ⟨_, _, h⟩ := bind_eq_ok h
    obtain ⟨_, _, h⟩ := bind_eq_ok h
    obtain ⟨_, _, h⟩ := bind_eq_ok h
    obtain ⟨_, _, h⟩ := bind_eq_ok h
    obtain ⟨_, _, h⟩ := bind_eq_ok h
    obtain ⟨_, _, h⟩ := bind_eq_ok h
    obtain ⟨_, _, h⟩ := bind_eq_ok h
    obtain ⟨_, _, h⟩ := bind_eq_ok h
    obtain ⟨participants, hparticipants, h⟩ := bind_eq_ok h
    obtain ⟨_, _, h⟩ := bind_eq_ok h
    obtain ⟨_, _, h⟩ := bind_eq_ok h
    obtain ⟨_, _, h⟩ := bind_eq_ok h
    obtain rfl := Except.ok.inj h
    exact (participantsFromDict_eq_ok hparticipants).1

/-- What a request that `from_dict` returns has been checked for. -/
structure PartitionPlanningRequest.Decoded (request : PartitionPlanningRequest) : Prop where
  jobId : Proper request.envelope.jobId
  participants : ∀ s ∈ request.plan.participants, Proper s
  devices_nodup : (request.context.devices.map (·.deviceId)).Nodup
  links_nodup : (request.context.networkLinks.map (·.arrow)).Nodup
  links_known : ∀ l ∈ request.context.networkLinks,
    l.sourceDevice ∈ request.context.devices.map (·.deviceId) ∧
      l.targetDevice ∈ request.context.devices.map (·.deviceId)
  snapshotId : request.context.snapshotId ≠ ""
  legacyInput : request.legacyInput = false
  legacyLayers : request.legacyLayers = none

theorem PartitionPlanningRequest.fromDict_decoded {py : Python} {payload : Json}
    (h : fromDict py payload = .ok request) : request.Decoded := by
  obtain ⟨_, _, h⟩ := bind_eq_ok h
  obtain ⟨_, _, h⟩ := bind_eq_ok h
  obtain ⟨envelope, henvelope, h⟩ := bind_eq_ok h
  obtain ⟨_, _, h⟩ := bind_eq_ok h
  obtain ⟨plan, hplan, h⟩ := bind_eq_ok h
  obtain ⟨_, _, h⟩ := bind_eq_ok h
  obtain ⟨context, hcontext, h⟩ := bind_eq_ok h
  obtain ⟨_, _, h⟩ := bind_eq_ok h
  obtain ⟨_, _, h⟩ := bind_eq_ok h
  obtain rfl := Except.ok.inj h
  obtain ⟨hdevices, hlinks, hknown, hsnapshot⟩ := PartitionSystemContext.fromDict_links hcontext
  refine ⟨?_, CoordinationPlan.fromDict_participants hplan, hdevices, hlinks, hknown, hsnapshot,
    rfl, rfl⟩
  obtain ⟨_, _, h⟩ := bind_eq_ok henvelope
  obtain ⟨_, _, h⟩ := bind_eq_ok h
  obtain ⟨_, _, h⟩ := bind_eq_ok h
  obtain ⟨_, _, h⟩ := bind_eq_ok h
  obtain ⟨_, _, h⟩ := bind_eq_ok h
  obtain ⟨_, _, h⟩ := bind_eq_ok h
  obtain ⟨_, _, h⟩ := bind_eq_ok h
  obtain ⟨jobId, _, h⟩ := bind_eq_ok h
  obtain ⟨_, _, h⟩ := bind_eq_ok h
  obtain ⟨_, _, h⟩ := bind_eq_ok h
  obtain rfl := Except.ok.inj h
  exact jobId.2

theorem PartitionPlanningRequest.Decoded.named (h : request.Decoded) : request.Named :=
  ⟨h.jobId, h.snapshotId⟩

/-- The layers of a profile have the names of its blocks. -/
theorem PartitionCommonProcessor.layerNames (profile : ModelStructureProfile) :
    (layersFromProfile profile).map (·.name) = profile.blocks.flatMap (·.layerNames) := by
  rw [layersFromProfile, List.map_flatMap]
  refine List.flatMap_congr fun b _ => ?_
  rw [ModelBlock.layers, List.map_map]
  exact List.attach_map_subtype_val b.layerNames

/-- Only a first participant and the layers are left to check in the round plan of a request. -/
theorem readable_iff (hrequest : request.Decoded)
    (hprocess : PartitionCommonProcessor.process rt request = .ok normalized) :
    Readable normalized.layers normalized.participants normalized.devices normalized.networkLinks ↔
      request.plan.participants.Nodup ∧
        (PartitionCommonProcessor.isFederatedLearning request = true →
          request.plan.participants.length ≤ (PartitionCommonProcessor.layersOf request).length ∧
            ∀ pair ∈ request.plan.participants.zip request.plan.participants.tail,
              pair ∈ request.context.networkLinks.map (·.pair)) := by
  obtain ⟨-, hparticipants, hlayers, hdevices, hlinks, -, hfeasible⟩ :=
    PartitionCommonProcessor.process_eq_ok hprocess
  obtain ⟨htwo, -, hknown⟩ := PartitionCommonProcessor.validateFeasibility_eq_ok hfeasible
  rw [hlayers] at hfeasible
  rw [hparticipants, hlayers, hdevices, hlinks]
  have hnames : ((PartitionCommonProcessor.layersOf request).map (·.name)).Nodup := by
    unfold PartitionCommonProcessor.layersOf
    rw [hrequest.legacyLayers]
    dsimp only
    rw [PartitionCommonProcessor.layerNames]
    exact request.context.modelStructureProfile.layerNames_nodup
  have hpairs : (request.context.networkLinks.map (·.pair)).Nodup := by
    have harrows : request.context.networkLinks.map (·.arrow)
        = (request.context.networkLinks.map (·.pair)).map fun pair => s!"{pair.1}->{pair.2}" := by
      rw [List.map_map]
      rfl
    exact (harrows ▸ hrequest.links_nodup).of_map _
  obtain ⟨_, hsize, hfeasible⟩ := bind_eq_ok hfeasible
  obtain ⟨_, _, hfeasible⟩ := bind_eq_ok hfeasible
  have hsize := rejectIf_eq_ok.1 hsize
  constructor
  · intro h
    exact ⟨h.participants_nodup, fun _ => ⟨h.participants_le_layers, h.chain⟩⟩
  · rintro ⟨hnodup, hfederated⟩
    have hrest : request.plan.participants.length ≤ (PartitionCommonProcessor.layersOf request).length ∧
        ∀ pair ∈ request.plan.participants.zip request.plan.participants.tail,
          pair ∈ request.context.networkLinks.map (·.pair) := by
      by_cases hmode : PartitionCommonProcessor.isFederatedLearning request = true
      · exact hfederated hmode
      · rw [Bool.not_eq_true] at hmode
        refine ⟨not_lt.1 fun hlt => hsize (.inr (.inr ⟨hmode, hlt⟩)), fun pair hpair => ?_⟩
        rw [hmode] at hfeasible
        have hpair := rejectAny_eq_ok.1 hfeasible pair hpair
        rwa [decide_eq_false_iff_not, not_not] at hpair
    exact ⟨htwo.trans hrest.1, htwo, hrest.1, hnames, hnodup, hrequest.devices_nodup, hpairs, hknown,
      hrequest.links_known, hrest.2⟩

/-- The round plan of a request, as the record that `from_dict` returns. -/
theorem exists_roundPlan (hrequest : request.Decoded)
    (hprocess : PartitionCommonProcessor.process rt request = .ok normalized) :
    ∃ roundPlan : FederatedRoundPlan, roundPlan.toRoundPlan = normalized.roundPlan ∧
      (roundPlan.IsReadable ↔ Readable normalized.layers normalized.participants normalized.devices
        normalized.networkLinks) := by
  obtain ⟨hjob, hmodel, -⟩ := ModelPartitionOrchestrationAgent.process_texts hprocess
  obtain ⟨-, hparticipants, -⟩ := PartitionCommonProcessor.process_eq_ok hprocess
  exact ⟨⟨normalized.jobId, normalized.modelId, normalized.approvedExecutionMode, normalized.layers,
    normalized.participants, normalized.devices, normalized.networkLinks, normalized.constraints,
    hjob ▸ hrequest.jobId, hmodel, hparticipants ▸ hrequest.participants⟩, rfl, Iff.rfl⟩

end RoundPlans

/-! ### What is accepted -/

namespace PartitionPlanRepository

open ModelPartitionOrchestrationAgent PartitionPlanValidator

section Reports

variable {rt : Runtime} {sel : Selecting rt} {registry : PartitionStrategyRegistry}
  {policy : ModelPartitionPolicy} {document : Json} {payload : Policy}
  {request : PartitionPlanningRequest} {normalized : NormalizedPartitionRequest}
  {p : PartitionExecutionPlan} {validation : PartitionValidationResult}
  {evaluation replanning : Json}

theorem required_planningReport (requestDocument : Option Policy) (roundPlan : List (String × Json)) :
    required (planningReport requestDocument roundPlan p validation evaluation replanning)
      "round_plan" = .ok (.obj roundPlan) := by
  cases requestDocument <;> simp [required, planningReport, List.lookup_cons]

theorem get_planningReport (requestDocument : Option Policy) (roundPlan : List (String × Json)) :
    Json.get (planningReport requestDocument roundPlan p validation evaluation replanning)
      "planning_request" = .ofOption .obj requestDocument := by
  cases requestDocument <;> simp [Json.get, Json.ofOption, planningReport, List.lookup_cons]

/-- A report whose plan is not read back is not accepted. -/
theorem isIndependentlyValid_refused {report plan : List (String × Json)}
    (h : ∃ code message, PartitionExecutionPlan.fromDict rt plan = .error (.contract code message))
    {roundPlan : CheckedRoundPlan} {json : Json} (hjson : required report "round_plan" = .ok json)
    (hroundPlan : FederatedRoundPlan.read rt json = .ok roundPlan) :
    isIndependentlyValid rt document report plan = .ok false := by
  obtain ⟨code, message, hread⟩ := h
  unfold isIndependentlyValid decodeReport
  simp only [hjson, hroundPlan, hread, bind, Except.bind, caught, if_true]

/-- **A report of a request is validated again with the verdict of the planner's validator, if its
plan is finite and its round plan can be decoded.**  A plan may have been replanned any number of
times.  What the planner does not ask for is that the figures of every candidate are finite, also of
one that is rejected, that no participant is named twice and, in federated learning, that there is a
layer for every participant and a link from each participant to the next. -/
theorem isIndependentlyValid_filed (hpolicy : policy.Checked)
    (hregistry : PartitionStrategyRegistry.ofPolicy rt document = .ok registry)
    (hrequest : PartitionPlanningRequest.fromDict rt.toPython (.obj payload) = .ok request)
    (hprocess : PartitionCommonProcessor.process rt request = .ok normalized)
    (hplan : Filed rt sel registry policy request p)
    (hvalidation : validate rt registry (.v2 request) p = .ok validation) :
    ∃ accepted, isIndependentlyValid rt document
        (planningReport (some payload) normalized.roundPlan.toDict p validation evaluation replanning)
        p.toDict = .ok accepted ∧
      (accepted = true ↔ validation.valid = true ∧ (p.Figures fun x => x.isFinite = true) ∧
        request.plan.participants.Nodup ∧
        (PartitionCommonProcessor.isFederatedLearning request = true →
          request.plan.participants.length ≤ (PartitionCommonProcessor.layersOf request).length ∧
            ∀ pair ∈ request.plan.participants.zip request.plan.participants.tail,
              pair ∈ request.context.networkLinks.map (·.pair))) := by
  have hdecoded := PartitionPlanningRequest.fromDict_decoded hrequest
  obtain ⟨roundPlan, hroundPlan, hreadable⟩ := exists_roundPlan hdecoded hprocess
  obtain ⟨-, hread, hrefused⟩ := fromDict_filed hpolicy hregistry hdecoded.named hplan
  have hdict : normalized.roundPlan.toDict = roundPlan.toDict := by rw [← hroundPlan]; rfl
  rw [readable_iff hdecoded hprocess] at hreadable
  by_cases hround : roundPlan.IsReadable
  · have hroundRead : FederatedRoundPlan.read rt (.obj roundPlan.toDict) = .ok ⟨roundPlan, hround⟩ :=
      FederatedRoundPlan.read_eq_ok.2 (FederatedRoundPlan.fromDict_toDict_iff.2 hround)
    by_cases hfinite : p.Figures fun x => x.isFinite = true
    · refine ⟨validation.valid, ?_, fun h => ⟨h, hfinite, hreadable.1 hround⟩, And.left⟩
      unfold isIndependentlyValid decodeReport
      rw [required_planningReport, get_planningReport, hdict]
      simp only [bind, Except.bind, hroundRead, hread.2 hfinite, Json.ofOption, hrequest, hprocess,
        hroundPlan, RoundPlan.same_self, if_true, pure, Except.pure, hregistry, hvalidation,
        hdecoded.legacyInput, Bool.false_and, Bool.or_false]
    · refine ⟨false, ?_, fun h => (by cases h), fun h => absurd h.2.1 hfinite⟩
      exact isIndependentlyValid_refused (hrefused hfinite)
        (required_planningReport (some payload) normalized.roundPlan.toDict) (hdict ▸ hroundRead)
  · obtain ⟨code, message, hrefused⟩ : ∃ code message, FederatedRoundPlan.fromDict rt
        (.obj roundPlan.toDict) = .error (.contract code message) :=
      FederatedRoundPlan.fromDict_toDict_refused hround
    have hroundRead := FederatedRoundPlan.read_eq_error.2 hrefused
    refine ⟨false, ?_, fun h => (by cases h), fun h => absurd (hreadable.2 h.2.2) hround⟩
    unfold isIndependentlyValid decodeReport
    rw [required_planningReport, hdict]
    simp only [bind, Except.bind, hroundRead, caught, if_true]

/-- The verdict on a V1 round plan: every error of the validator counts, except that its throughput
cannot be verified. -/
theorem accepted_legacy {errors : List String} (hmem : throughputUnverifiable ⊆ errors) :
    ((result errors v2CheckedRules).valid || (true && decide (SameElements
      (result errors v2CheckedRules).errors throughputUnverifiable))) = true ↔
        errors ⊆ throughputUnverifiable := by
  have hvalid : (result errors v2CheckedRules).valid = false := by
    have hfirst := List.mem_eraseDups.2 (hmem List.mem_cons_self)
    rw [result, List.isEmpty_eq_false_iff]
    exact List.ne_nil_of_mem hfirst
  have hset : ∀ e, e ∈ (result errors v2CheckedRules).errors ↔ e ∈ errors :=
    fun e => List.mem_eraseDups
  rw [hvalid, Bool.false_or, Bool.true_and, decide_eq_true_iff]
  constructor
  · exact fun h e he => h.1 ((hset e).2 he)
  · exact fun h => ⟨fun e he => h ((hset e).1 he), fun e he => (hset e).2 (hmem he)⟩

/-- What the validator finds in a plan for a V1 round plan. -/
theorem findings_legacy {roundPlan : CheckedRoundPlan} {selected : PartitionCandidate}
    (htype : normalized.planType = "inference")
    (hconstraints : normalized.constraints = roundPlan.1.constraints)
    (hselected : p.selectedCandidate = some selected)
    (havailable : predictedSnapshotAvailabilityFeasibility normalized.roundPlan selected = 1) :
    findings (LegacyFederatedRoundPlanAdapter.adapt rt roundPlan) normalized p = .ok
      (latencyErrors roundPlan.1.constraints.maxEndToEndLatencyMs selected ++
        (latencyErrors (some (roundPlan.1.constraints.maxEndToEndLatencyMs.getD 1)) selected ++
          throughputUnverifiable)) := by
  have hreplica : replicaFindings normalized selected = [] := by
    rw [replicaFindings, htype]
    rfl
  have hlevels : inferenceSlaErrors (LegacyFederatedRoundPlanAdapter.adapt rt roundPlan)
      normalized.roundPlan selected = .ok
        (latencyErrors (some (roundPlan.1.constraints.maxEndToEndLatencyMs.getD 1)) selected ++
          throughputUnverifiable) := by
    simp [inferenceSlaErrors, LegacyFederatedRoundPlanAdapter.adapt,
      predictedInferenceThroughputCapacity, Json.get, havailable, failing, throughputUnverifiable,
      bind, Except.bind, pure, Except.pure]
  unfold findings
  rw [hselected]
  simp only [htype, if_true, hlevels, hreplica, hconstraints, List.nil_append, bind, Except.bind, pure,
    Except.pure]

/-- The limit of a round plan and the service level of the adapter are kept together. -/
theorem late_legacy {limit : Option ℚ} {selected : PartitionCandidate} :
    latencyErrors limit selected ++ (latencyErrors (some (limit.getD 1)) selected ++
        throughputUnverifiable) ⊆ throughputUnverifiable ↔
      PyFloat.lt (.finite (limit.getD 1)) selected.estimatedTotalLatencyMs = false := by
  cases limit with
  | none =>
      simp only [latencyErrors, failing, Option.getD_none, List.nil_append]
      split_ifs with hlate <;> simp [hlate, throughputUnverifiable]
  | some limit =>
      simp only [latencyErrors, failing, Option.getD_some]
      split_ifs with hlate <;> simp [hlate, throughputUnverifiable]

/-- A latency that is finite. -/
theorem latency_le {limit : ℚ} {x : PyFloat} (h : x.isFinite = true) :
    PyFloat.lt (.finite limit) x = false ↔ ∃ ms ≤ limit, x = .finite ms := by
  obtain ⟨q, rfl⟩ := PyFloat.isFinite_iff.1 h
  simp [PyFloat.lt]

/-- Of a plan whose figures are finite only the latency is in question, and the throughput always. -/
theorem exists_findings_legacy (rt : Runtime) {roundPlan : CheckedRoundPlan}
    (htype : normalized.planType = "inference")
    (hconstraints : normalized.constraints = roundPlan.1.constraints)
    (hfinite : p.Figures fun x => x.isFinite = true)
    (havailable : ∀ selected, p.selectedCandidate = some selected →
      predictedSnapshotAvailabilityFeasibility normalized.roundPlan selected = 1) :
    ∃ errors, findings (LegacyFederatedRoundPlanAdapter.adapt rt roundPlan) normalized p = .ok errors ∧
      throughputUnverifiable ⊆ errors ∧
      (errors ⊆ throughputUnverifiable ↔ ∃ selected ∈ p.selectedCandidate,
        ∃ ms ≤ roundPlan.1.constraints.maxEndToEndLatencyMs.getD 1,
          selected.estimatedTotalLatencyMs = .finite ms) := by
  rcases hselected : p.selectedCandidate with _ | selected
  · refine ⟨["selected_candidate_required", "predicted_throughput_unverifiable",
      "snapshot_availability_unverifiable"], ?_, by decide, ?_⟩
    · unfold findings
      rw [hselected, htype]
      rfl
    · simp [throughputUnverifiable]
  · refine ⟨_, findings_legacy htype hconstraints hselected (havailable selected hselected),
      fun e he => by simp [he], ?_⟩
    rw [late_legacy, latency_le (hfinite.selectedCandidate selected hselected).estimatedTotalLatencyMs]
    simp

/-- **A report of a V1 round plan is accepted exactly when the figures of its plan are finite and the
plan keeps the service level of the adapter**: the limit of the round plan, and one millisecond where
it states none.  Nothing else is found, and the throughput, which cannot be verified for a V1 round
plan, is tolerated. -/
theorem isIndependentlyValid_legacy {roundPlan : CheckedRoundPlan} (hpolicy : policy.Checked)
    (hregistry : PartitionStrategyRegistry.ofPolicy rt document = .ok registry)
    (hmodes : SplitsKnownModes registry)
    (hkeys : DigestsDistinct rt registry policy (LegacyFederatedRoundPlanAdapter.adapt rt roundPlan))
    (hplan : Filed rt sel registry policy (LegacyFederatedRoundPlanAdapter.adapt rt roundPlan) p) :
    ∃ accepted, isIndependentlyValid rt document
        (planningReport none roundPlan.1.toDict p validation evaluation replanning) p.toDict
          = .ok accepted ∧
      (accepted = true ↔ (p.Figures fun x => x.isFinite = true) ∧
        ∃ selected ∈ p.selectedCandidate, ∃ ms ≤ roundPlan.1.constraints.maxEndToEndLatencyMs.getD 1,
          selected.estimatedTotalLatencyMs = .finite ms) := by
  have hnamed : (LegacyFederatedRoundPlanAdapter.adapt rt roundPlan).Named := by
    refine ⟨roundPlan.1.jobId_proper, fun hempty => ?_⟩
    have hchars := congrArg String.toList hempty
    simp [LegacyFederatedRoundPlanAdapter.adapt] at hchars
  have hnames : ((PartitionCommonProcessor.layersOf
      (LegacyFederatedRoundPlanAdapter.adapt rt roundPlan)).map (·.name)).Nodup := by
    rw [LegacyFederatedRoundPlanAdapter.layersOf_adapt]
    exact roundPlan.2.layers_nodup
  have hstandard := PartitionStrategyRegistry.standard_ofPolicy hregistry
  obtain ⟨hplanned, hread, hrefused⟩ := fromDict_filed hpolicy hregistry hnamed hplan
  have hroundRead : FederatedRoundPlan.read rt (.obj roundPlan.1.toDict) = .ok roundPlan :=
    FederatedRoundPlan.read_eq_ok.2 (FederatedRoundPlan.fromDict_toDict_iff.2 roundPlan.2)
  by_cases hfinite : p.Figures fun x => x.isFinite = true
  swap
  · exact ⟨false, isIndependentlyValid_refused (hrefused hfinite)
      (required_planningReport none roundPlan.1.toDict) hroundRead, fun h => (by cases h),
      fun h => absurd h.1 hfinite⟩
  obtain ⟨normalized, intent, hprepare, hproduced⟩ := produced_of_planned hkeys hplanned
  obtain ⟨htype, -, hlayers, -, -, hconstraints, -⟩ :=
    PartitionCommonProcessor.process_eq_ok (prepare_eq_ok hprepare).1
  rw [← hlayers] at hnames
  have hverdict := validateV2_produced hstandard hmodes hprepare hnames hproduced
  have hdecode : decodeReport rt
      (planningReport none roundPlan.1.toDict p validation evaluation replanning) p.toDict
        = .ok (some (LegacyFederatedRoundPlanAdapter.adapt rt roundPlan, p)) := by
    unfold decodeReport
    rw [required_planningReport, get_planningReport]
    simp only [bind, Except.bind, hroundRead, hread.2 hfinite, Json.ofOption, pure, Except.pure]
  have hlegacy : (LegacyFederatedRoundPlanAdapter.adapt rt roundPlan).legacyInput = true := rfl
  obtain ⟨errors, hfindings, hmem, haccepted⟩ :=
    exists_findings_legacy rt htype hconstraints hfinite fun _ hselected =>
      feasibility_produced hstandard hmodes hprepare hnames hproduced htype hselected
  refine ⟨_, ?_, (accepted_legacy hmem).trans (haccepted.trans (and_iff_right hfinite).symm)⟩
  unfold isIndependentlyValid
  rw [hdecode]
  simp only [hregistry, validate, hverdict, hfindings, hlegacy, bind, Except.bind, pure, Except.pure]

theorem twoDeviceRequest_isReadable : twoDeviceRequest.IsReadable where
  envelope := ⟨by decide, by decide, by decide, by decide, by decide, by decide, by decide⟩
  plan := {
    modelId := by decide
    approvedModelVersion := by decide
    serviceObjective := by decide
    latencySloMs := by norm_num [twoDeviceRequest]
    minimumThroughputRps := ⟨1, rfl, by norm_num⟩
    availability_nonneg := by norm_num
    availability_le_one := by norm_num
    participants := by decide
    participants_ne_nil := by decide }
  planType := by
    refine ⟨fun h => absurd h (by decide), fun ⟨plan, h⟩ => ?_⟩
    cases h
  context := ⟨by decide, by decide, by decide, by decide, by decide, by decide, by decide, by decide,
    by decide⟩
  same_model := rfl
  same_version := rfl
  legacyInput := rfl
  mode := by simp [twoDeviceRequest]
  legacyLayers := rfl

/-- The plan for two devices is accepted when it is validated again. -/
theorem isIndependentlyValid_twoDevices : ∃ (registry : PartitionStrategyRegistry)
    (payload : Policy) (normalized : NormalizedPartitionRequest) (p : PartitionExecutionPlan)
    (validation : PartitionValidationResult),
    PartitionPlanningRequest.fromDict servingRuntime.toPython (.obj payload) = .ok twoDeviceRequest ∧
    planRequest servingRuntime baselineOnly registry latencyPolicy "plan" twoDeviceRequest = .ok p ∧
    isIndependentlyValid servingRuntime inferencePolicyDocument
      (planningReport (some payload) normalized.roundPlan.toDict p validation .null .null) p.toDict
        = .ok true := by
  obtain ⟨payload, -, hrequest⟩ := bind_eq_ok
    (PartitionPlanningRequest.fromDict_toDict_iff.2 twoDeviceRequest_isReadable)
  obtain ⟨registry, normalized, intent, p, _, h⟩ := exists_twoDevices
  have hkeys : DigestsDistinct servingRuntime registry latencyPolicy twoDeviceRequest :=
    digestsDistinct_of_keyed h.loaded keyed_twoDevices
  obtain ⟨normalized', intent', hprepare, hproduced⟩ := produced_of_planned hkeys (.first h.first)
  obtain ⟨rfl, rfl⟩ := Prod.mk.inj (Except.ok.inj (hprepare.symm.trans h.prepared))
  have hnames : ((PartitionCommonProcessor.layersOf twoDeviceRequest).map (·.name)).Nodup := by decide
  obtain ⟨-, -, hlayers, -⟩ := PartitionCommonProcessor.process_eq_ok (prepare_eq_ok h.prepared).1
  rw [← hlayers] at hnames
  have hvalidation : validate servingRuntime registry (.v2 twoDeviceRequest) p =
      .ok (result [] v2CheckedRules) := by
    have hverdict := validateV2_produced (PartitionStrategyRegistry.standard_ofPolicy h.loaded)
      h.modes h.prepared hnames hproduced
    rw [h.nothing] at hverdict
    exact hverdict
  have hplanId : Proper "plan" := by decide
  obtain ⟨accepted, haccepted, hiff⟩ := isIndependentlyValid_filed checked_latencyPolicy h.loaded
    hrequest (prepare_eq_ok h.prepared).1 (.first hplanId h.first) hvalidation
  have htrue : accepted = true := hiff.2 ⟨rfl, PartitionExecutionPlan.figures_of_forall
    (List.forall_mem_append.1 h.finite).1, by decide, fun h => by cases h⟩
  exact ⟨registry, payload, normalized', p, _, hrequest, h.first, htrue ▸ haccepted⟩

/-- The round plan of `twoDeviceRequest`, as V1 states it. -/
def fourLayerRoundPlan : FederatedRoundPlan :=
  { tenByteRoundPlan with
    layers := twoDeviceNormalized.layers
    devices := twoDeviceNormalized.devices
    networkLinks := twoDeviceNormalized.networkLinks }

theorem fourLayerRoundPlan_isReadable : fourLayerRoundPlan.IsReadable :=
  ⟨by decide, by decide, by decide, by decide, by decide, by decide, by decide, by decide, by decide,
    by decide⟩

/-- Four layers on two devices, as `from_dict` has checked them. -/
def checkedRoundPlan : CheckedRoundPlan := ⟨fourLayerRoundPlan, fourLayerRoundPlan_isReadable⟩

theorem keyed_checkedRoundPlan : keyed inferencePolicyDocument
    (LegacyFederatedRoundPlanAdapter.adapt servingRuntime checkedRoundPlan) =
      .ok (["a", "b"], 4, "inference-partition-v1:1") := by
  decide +kernel

set_option maxRecDepth 4000 in
theorem validate_checkedRoundPlan : ((do
    let registry ← PartitionStrategyRegistry.ofPolicy servingRuntime inferencePolicyDocument
    let p ← planRequest servingRuntime baselineOnly registry latencyPolicy "plan"
      (LegacyFederatedRoundPlanAdapter.adapt servingRuntime checkedRoundPlan)
    let validation ← validate servingRuntime registry (.legacy fourLayerRoundPlan) p
    return (registry.entries.all (fun entry => entry.1 = "inference"), validation.valid,
      p.selectedCandidate.map (·.estimatedTotalLatencyMs))) :
        Except PartitionError (Bool × Bool × Option PyFloat)) = .ok (true, true, some (.finite 7)) := by
  decide +kernel

/-- A V1 round plan without a limit: its plan is valid and takes more than a millisecond, so the
repository does not accept the report. -/
theorem isIndependentlyValid_withoutLimit : ∃ registry p validation,
    planRequest servingRuntime baselineOnly registry latencyPolicy "plan"
      (LegacyFederatedRoundPlanAdapter.adapt servingRuntime checkedRoundPlan) = .ok p ∧
    validate servingRuntime registry (.legacy fourLayerRoundPlan) p = .ok validation ∧
    validation.valid = true ∧
    isIndependentlyValid servingRuntime inferencePolicyDocument
      (planningReport none fourLayerRoundPlan.toDict p validation .null .null) p.toDict
        = .ok false := by
  obtain ⟨registry, hregistry, h⟩ := bind_eq_ok validate_checkedRoundPlan
  obtain ⟨p, hplan, h⟩ := bind_eq_ok h
  obtain ⟨validation, hvalidation, h⟩ := bind_eq_ok h
  obtain ⟨hentries, h⟩ := Prod.mk.inj (Except.ok.inj h)
  obtain ⟨hvalid, hlatency⟩ := Prod.mk.inj h
  have hmodes : SplitsKnownModes registry := by
    intro mode s hentry
    have htype : "training" = "inference" :=
      of_decide_eq_true (List.all_eq_true.1 hentries _ hentry)
    exact absurd htype (by decide)
  have hplanId : Proper "plan" := by decide
  obtain ⟨accepted, haccepted, hiff⟩ := isIndependentlyValid_legacy checked_latencyPolicy hregistry
    hmodes (digestsDistinct_of_keyed hregistry keyed_checkedRoundPlan) (.first hplanId hplan)
  have hfalse : accepted = false := by
    rw [Bool.eq_false_iff]
    intro htrue
    obtain ⟨-, selected, hselected, ms, hle, hms⟩ := hiff.1 htrue
    rw [Option.mem_def.1 hselected, Option.map_some, hms] at hlatency
    obtain rfl := PyFloat.finite.inj (Option.some.inj hlatency)
    exact absurd hle (by decide)
  exact ⟨registry, p, validation, hplan, hvalidation, hvalid, hfalse ▸ haccepted⟩

end Reports

end PartitionPlanRepository

end Partition
end AiopsK8s
