/-
# Planning requests

The records of `partition_coordination`: the envelope of an approved coordination plan, the
training and the inference plan, and the request that carries one of them with a snapshot and an
approved execution mode.  `from_dict` checks every record, and the adapters build the same records
without it, so here they hold plain texts and numbers; what `from_dict` demands is `IsReadable`.

`partition_planning_request_to_dict` of `federated_coordination_adapter` writes a request, and a
request is read back from it exactly under `PartitionPlanningRequest.IsReadable`
(`fromDict_toDict_iff`).
-/

import AiopsK8s.Partition.Context

namespace AiopsK8s
namespace Partition

open Effect Text

/-- A mapping. -/
abbrev Policy := List (String × Json)

/-- The envelope of an approved coordination plan. -/
structure CoordinationPlanEnvelope where
  planType : String
  planId : String
  jobId : String
  approvedBy : String
  approvalRef : String
  approvedAt : String
  schemaVersion : String
  deriving DecidableEq

namespace CoordinationPlanEnvelope

/-- `CoordinationPlanEnvelope.from_dict`. -/
def fromDict (py : Python) (payload : Policy) : Except PartitionError CoordinationPlanEnvelope := do
  requireTrue (Json.get payload "approved")
    (.contract "approved_plan_required" "coordination plan must be approved")
  let planType ← contract.text py (Json.get payload "plan_type") "coordination_plan.plan_type"
  rejectIf (planType.1 ∉ ["training", "inference"])
    (.contract "unsupported_plan_type" s!"unsupported plan type: {planType.1}")
  let approvedBy ← stripped py (Json.get payload "approved_by")
  let approvalRef ← stripped py (Json.get payload "approval_ref")
  rejectIf (approvedBy.1 = "" ∨ approvalRef.1 = "")
    (.contract "approval_provenance_required" "approved_by and approval_ref are required")
  let planId ← contract.text py (Json.get payload "plan_id") "coordination_plan.plan_id"
  let jobId ← contract.text py (Json.get payload "job_id") "coordination_plan.job_id"
  let approvedAt ← contract.text py (Json.get payload "approved_at") "coordination_plan.approved_at"
  let schemaVersion ← contract.text py (Json.get payload "schema_version")
    "coordination_plan.schema_version"
  .ok ⟨planType.1, planId.1, jobId.1, approvedBy.1, approvalRef.1, approvedAt.1, schemaVersion.1⟩

/-- What `from_dict` demands. -/
structure IsReadable (e : CoordinationPlanEnvelope) : Prop where
  planType : e.planType ∈ ["training", "inference"]
  planId : Proper e.planId
  jobId : Proper e.jobId
  approvedBy : Proper e.approvedBy
  approvalRef : Proper e.approvalRef
  approvedAt : Proper e.approvedAt
  schemaVersion : Proper e.schemaVersion

end CoordinationPlanEnvelope

/-- `_participants`. -/
def participantsFromDict (py : Python) (payload : Policy) : Except PartitionError (List String) := do
  let participants ← contract.texts py
    (← contract.sequence (Json.get payload "participants") "coordination_plan.payload.participants")
    "coordination_plan.payload.participants[]"
  rejectIf (participants.1 = [])
    (.contract contract.code "coordination_plan.payload.participants is required")
  return participants.1

/-- The path of a field of the payload in messages. -/
def payloadPath (field : String) : String := s!"coordination_plan.payload.{field}"

/-- `_text` of a field of the payload. -/
def payloadText (py : Python) (payload : Policy) (field : String) : Except PartitionError String := do
  return (← contract.text py (Json.get payload field) (payloadPath field)).1

/-- `_mapping` of a field of the payload. -/
def payloadMapping (payload : Policy) (field : String) : Except PartitionError Policy :=
  contract.mapping (Json.get payload field) (payloadPath field)

/-- The plan of a training job. -/
structure TrainingCoordinationPlan where
  modelId : String
  approvedModelVersion : String
  coordinationMode : String
  participants : List String
  roundPolicy : Policy
  aggregationPolicy : Policy
  synchronizationPolicy : Policy
  trainingObjective : String
  resourceBudget : Policy
  constraints : PartitionConstraints

namespace TrainingCoordinationPlan

/-- `TrainingCoordinationPlan.from_dict`. -/
def fromDict (py : Python) (payload : Policy) : Except PartitionError TrainingCoordinationPlan := do
  return {
    modelId := ← payloadText py payload "model_id"
    approvedModelVersion := ← payloadText py payload "approved_model_version"
    coordinationMode := ← payloadText py payload "coordination_mode"
    participants := ← participantsFromDict py payload
    roundPolicy := ← payloadMapping payload "round_policy"
    aggregationPolicy := ← payloadMapping payload "aggregation_policy"
    synchronizationPolicy := ← payloadMapping payload "synchronization_policy"
    trainingObjective := ← payloadText py payload "training_objective"
    resourceBudget := ← payloadMapping payload "resource_budget"
    constraints := ← PartitionConstraints.fromDict py (← payloadMapping payload "constraints") }

/-- The payload that `partition_planning_request_to_dict` writes for a training plan. -/
def toDict (p : TrainingCoordinationPlan) : Policy :=
  [("model_id", .str p.modelId), ("approved_model_version", .str p.approvedModelVersion),
    ("coordination_mode", .str p.coordinationMode), ("participants", .texts p.participants),
    ("round_policy", .obj p.roundPolicy), ("aggregation_policy", .obj p.aggregationPolicy),
    ("synchronization_policy", .obj p.synchronizationPolicy),
    ("training_objective", .str p.trainingObjective), ("resource_budget", .obj p.resourceBudget),
    ("constraints", .obj p.constraints.toDict)]

/-- What `from_dict` demands. -/
structure IsReadable (p : TrainingCoordinationPlan) : Prop where
  modelId : Proper p.modelId
  approvedModelVersion : Proper p.approvedModelVersion
  coordinationMode : Proper p.coordinationMode
  participants : ∀ s ∈ p.participants, Proper s
  participants_ne_nil : p.participants ≠ []
  trainingObjective : Proper p.trainingObjective

end TrainingCoordinationPlan

/-- The plan of an inference service.  The throughput may be a quotient, so it may be infinite. -/
structure InferenceCoordinationPlan where
  modelId : String
  approvedModelVersion : String
  serviceObjective : String
  latencySloMs : ℚ
  minimumThroughputRps : PyFloat
  availabilityTarget : ℚ
  trafficPolicy : Policy
  concurrencyPolicy : Policy
  participants : List String
  resourceBudget : Policy
  constraints : PartitionConstraints

namespace InferenceCoordinationPlan

/-- `InferenceCoordinationPlan.from_dict`. -/
def fromDict (py : Python) (payload : Policy) :
    Except PartitionError InferenceCoordinationPlan := do
  let availability ← contract.float py (Json.get payload "availability_target")
    (payloadPath "availability_target") .zero
  rejectIf (1 < availability.1)
    (.contract contract.code "coordination_plan.payload.availability_target must be at most 1.0")
  return {
    modelId := ← payloadText py payload "model_id"
    approvedModelVersion := ← payloadText py payload "approved_model_version"
    serviceObjective := ← payloadText py payload "service_objective"
    latencySloMs := (← contract.float py (Json.get payload "latency_slo_ms")
      (payloadPath "latency_slo_ms") .millionth).1
    minimumThroughputRps := .finite (← contract.float py (Json.get payload "minimum_throughput_rps")
      (payloadPath "minimum_throughput_rps") .millionth).1
    availabilityTarget := availability.1
    trafficPolicy := ← payloadMapping payload "traffic_policy"
    concurrencyPolicy := ← payloadMapping payload "concurrency_policy"
    participants := ← participantsFromDict py payload
    resourceBudget := ← payloadMapping payload "resource_budget"
    constraints := ← PartitionConstraints.fromDict py (← payloadMapping payload "constraints") }

/-- The payload that `partition_planning_request_to_dict` writes for an inference plan. -/
def toDict (p : InferenceCoordinationPlan) : Policy :=
  [("model_id", .str p.modelId), ("approved_model_version", .str p.approvedModelVersion),
    ("service_objective", .str p.serviceObjective), ("latency_slo_ms", .number p.latencySloMs),
    ("minimum_throughput_rps", .float p.minimumThroughputRps),
    ("availability_target", .number p.availabilityTarget),
    ("traffic_policy", .obj p.trafficPolicy), ("concurrency_policy", .obj p.concurrencyPolicy),
    ("participants", .texts p.participants), ("resource_budget", .obj p.resourceBudget),
    ("constraints", .obj p.constraints.toDict)]

/-- What `from_dict` demands. -/
structure IsReadable (p : InferenceCoordinationPlan) : Prop where
  modelId : Proper p.modelId
  approvedModelVersion : Proper p.approvedModelVersion
  serviceObjective : Proper p.serviceObjective
  latencySloMs : 1 / 1000000 ≤ p.latencySloMs
  minimumThroughputRps : ∃ r, p.minimumThroughputRps = .finite r ∧ 1 / 1000000 ≤ r
  availability_nonneg : 0 ≤ p.availabilityTarget
  availability_le_one : p.availabilityTarget ≤ 1
  participants : ∀ s ∈ p.participants, Proper s
  participants_ne_nil : p.participants ≠ []

end InferenceCoordinationPlan

/-- `TrainingCoordinationPlan | InferenceCoordinationPlan`. -/
inductive CoordinationPlan where
  | training (plan : TrainingCoordinationPlan)
  | inference (plan : InferenceCoordinationPlan)

namespace CoordinationPlan

def modelId : CoordinationPlan → String
  | training plan => plan.modelId
  | inference plan => plan.modelId

def approvedModelVersion : CoordinationPlan → String
  | training plan => plan.approvedModelVersion
  | inference plan => plan.approvedModelVersion

/-- The plan that `PartitionPlanningRequest.from_dict` decodes. -/
def fromDict (py : Python) (planType : String) (payload : Policy) :
    Except PartitionError CoordinationPlan :=
  if planType = "training" then training <$> TrainingCoordinationPlan.fromDict py payload
  else inference <$> InferenceCoordinationPlan.fromDict py payload

/-- `plan_payload` in `partition_planning_request_to_dict`. -/
def toDict : CoordinationPlan → Policy
  | training plan => plan.toDict
  | inference plan => plan.toDict

/-- What `from_dict` demands. -/
def IsReadable : CoordinationPlan → Prop
  | training plan => plan.IsReadable
  | inference plan => plan.IsReadable

end CoordinationPlan

/-- A request to plan a partition. -/
structure PartitionPlanningRequest where
  envelope : CoordinationPlanEnvelope
  plan : CoordinationPlan
  context : PartitionSystemContext
  legacyInput : Bool
  approvedExecutionMode : Option ApprovedExecutionMode
  legacyLayers : Option (List ModelLayer)

namespace PartitionPlanningRequest

/-- `ApprovedExecutionMode.from_dict` of a mode that is not `None`. -/
def modeFromDict (py : Python) : Json → Except PartitionError ApprovedExecutionMode
  | .null => .error (.contract "approved_mode_required"
      "approved_execution_mode is required from the upstream coordinator")
  | value => do
      ApprovedExecutionMode.fromDict py (← contract.mapping value "approved_execution_mode")

/-- `PartitionPlanningRequest.from_dict`. -/
def fromDict (py : Python) (payload : Json) : Except PartitionError PartitionPlanningRequest := do
  let payload ← contract.mapping payload "partition_planning_request"
  let coordinationPlan ← contract.mapping (Json.get payload "coordination_plan") "coordination_plan"
  let envelope ← CoordinationPlanEnvelope.fromDict py coordinationPlan
  let planPayload ← contract.mapping (Json.get coordinationPlan "payload")
    "coordination_plan.payload"
  let plan ← CoordinationPlan.fromDict py envelope.planType planPayload
  let context ← PartitionSystemContext.fromDict py
    (.obj (← contract.mapping (Json.get payload "system_context") "system_context"))
  let mode ← modeFromDict py (Json.get payload "approved_execution_mode")
  rejectIf (plan.modelId ≠ context.modelRegistryContext.modelId ∨
      plan.approvedModelVersion ≠ context.modelRegistryContext.approvedModelVersion)
    (.contract "model_version_mismatch"
      "coordination plan and model registry context must match")
  return ⟨envelope, plan, context, false, some mode, none⟩

/-- The coordination plan that `partition_planning_request_to_dict` writes. -/
def coordinationPlanToDict (r : PartitionPlanningRequest) : Policy :=
  [("plan_type", .str r.envelope.planType), ("plan_id", .str r.envelope.planId),
    ("job_id", .str r.envelope.jobId), ("approved", .bool true),
    ("approved_by", .str r.envelope.approvedBy), ("approval_ref", .str r.envelope.approvalRef),
    ("approved_at", .str r.envelope.approvedAt),
    ("schema_version", .str r.envelope.schemaVersion), ("payload", .obj r.plan.toDict)]

/-- `partition_planning_request_to_dict`. -/
def toDict (r : PartitionPlanningRequest) : Except PartitionError Policy :=
  match r.approvedExecutionMode with
  | none => .error (.contract "approved_mode_required" "approved execution mode is required")
  | some mode => .ok
      [("coordination_plan", .obj r.coordinationPlanToDict),
        ("system_context", .obj r.context.toDict), ("approved_execution_mode", .obj mode.toDict)]

/-- What `from_dict` demands of a request, and what it leaves out. -/
structure IsReadable (r : PartitionPlanningRequest) : Prop where
  envelope : r.envelope.IsReadable
  plan : r.plan.IsReadable
  planType : r.envelope.planType = "training" ↔ ∃ plan, r.plan = .training plan
  context : r.context.IsReadable
  same_model : r.plan.modelId = r.context.modelRegistryContext.modelId
  same_version : r.plan.approvedModelVersion = r.context.modelRegistryContext.approvedModelVersion
  legacyInput : r.legacyInput = false
  mode : r.approvedExecutionMode ≠ none
  legacyLayers : r.legacyLayers = none

end PartitionPlanningRequest

/-! ### What is read back -/

section ReadBack

variable {py : Python}

/-- A text that is decoded to itself is proper. -/
theorem proper_of_val {s : String} {t : {s : String // Proper s}} (h : t.1 = s) : Proper s := h ▸ t.2

theorem payloadText_str {payload : Policy} {field s : String} (hs : Json.get payload field = .str s)
    (h : Proper s) : payloadText py payload field = .ok s := by
  rw [payloadText, hs, Decoder.text_proper h]
  rfl

theorem proper_of_payloadText {payload : Policy} {field s : String}
    (h : payloadText py payload field = .ok s) : Proper s := by
  obtain ⟨t, _, h⟩ := bind_eq_ok h
  exact proper_of_val (Except.ok.inj h)

theorem payloadMapping_obj {payload fields : Policy} {field : String}
    (h : Json.get payload field = .obj fields) : payloadMapping payload field = .ok fields := by
  rw [payloadMapping, h]
  rfl

theorem participantsFromDict_texts {payload : Policy} {l : List String}
    (hl : Json.get payload "participants" = .texts l) (h : ∀ s ∈ l, Proper s) (hne : l ≠ []) :
    participantsFromDict py payload = .ok l := by
  have htexts : contract.texts py (l.map .str) "coordination_plan.payload.participants[]"
      = .ok ⟨l, h⟩ := Decoder.texts_str h
  have hcheck : rejectIf (l = []) (PartitionError.contract contract.code
      "coordination_plan.payload.participants is required") = .ok () := rejectIf_eq_ok.2 hne
  rw [participantsFromDict, hl]
  simp only [Json.texts, Json.ofList, Decoder.sequence_arr, bind, Except.bind, htexts, hcheck]
  rfl

theorem participantsFromDict_eq_ok {payload : Policy} {l : List String}
    (h : participantsFromDict py payload = .ok l) : (∀ s ∈ l, Proper s) ∧ l ≠ [] := by
  obtain ⟨_, _, h⟩ := bind_eq_ok h
  obtain ⟨texts, _, h⟩ := bind_eq_ok h
  obtain ⟨_, hne, h⟩ := bind_eq_ok h
  obtain rfl : texts.1 = l := Except.ok.inj h
  exact ⟨texts.2, rejectIf_eq_ok.1 hne⟩

theorem TrainingCoordinationPlan.fromDict_toDict_iff {p : TrainingCoordinationPlan} :
    fromDict py p.toDict = .ok p ↔ p.IsReadable := by
  constructor
  · intro h
    obtain ⟨modelId, h₁, h⟩ := bind_eq_ok h
    obtain ⟨version, h₂, h⟩ := bind_eq_ok h
    obtain ⟨mode, h₃, h⟩ := bind_eq_ok h
    obtain ⟨participants, h₄, h⟩ := bind_eq_ok h
    obtain ⟨_, _, h⟩ := bind_eq_ok h
    obtain ⟨_, _, h⟩ := bind_eq_ok h
    obtain ⟨_, _, h⟩ := bind_eq_ok h
    obtain ⟨objective, h₅, h⟩ := bind_eq_ok h
    obtain ⟨_, _, h⟩ := bind_eq_ok h
    obtain ⟨_, _, h⟩ := bind_eq_ok h
    obtain ⟨_, _, h⟩ := bind_eq_ok h
    obtain rfl := Except.ok.inj h
    have hparticipants := participantsFromDict_eq_ok h₄
    exact ⟨proper_of_payloadText h₁, proper_of_payloadText h₂, proper_of_payloadText h₃,
      hparticipants.1, hparticipants.2, proper_of_payloadText h₅⟩
  · intro h
    have hconstraints := PartitionConstraints.fromDict_toDict py p.constraints
    have h₁ : payloadText py p.toDict "model_id" = .ok p.modelId := payloadText_str rfl h.modelId
    have h₂ : payloadText py p.toDict "approved_model_version" = .ok p.approvedModelVersion :=
      payloadText_str rfl h.approvedModelVersion
    have h₃ : payloadText py p.toDict "coordination_mode" = .ok p.coordinationMode :=
      payloadText_str rfl h.coordinationMode
    have h₄ : participantsFromDict py p.toDict = .ok p.participants :=
      participantsFromDict_texts rfl h.participants h.participants_ne_nil
    have h₅ : payloadText py p.toDict "training_objective" = .ok p.trainingObjective :=
      payloadText_str rfl h.trainingObjective
    have h₆ : payloadMapping p.toDict "round_policy" = .ok p.roundPolicy := payloadMapping_obj rfl
    have h₇ : payloadMapping p.toDict "aggregation_policy" = .ok p.aggregationPolicy :=
      payloadMapping_obj rfl
    have h₈ : payloadMapping p.toDict "synchronization_policy" = .ok p.synchronizationPolicy :=
      payloadMapping_obj rfl
    have h₉ : payloadMapping p.toDict "resource_budget" = .ok p.resourceBudget :=
      payloadMapping_obj rfl
    have h₁₀ : payloadMapping p.toDict "constraints" = .ok p.constraints.toDict :=
      payloadMapping_obj rfl
    simp only [fromDict, bind, Except.bind, h₁, h₂, h₃, h₄, h₅, h₆, h₇, h₈, h₉, h₁₀, hconstraints]
    rfl

theorem InferenceCoordinationPlan.fromDict_toDict_iff {p : InferenceCoordinationPlan} :
    fromDict py p.toDict = .ok p ↔ p.IsReadable := by
  constructor
  · intro h
    obtain ⟨availability, _, h⟩ := bind_eq_ok h
    obtain ⟨_, hbound, h⟩ := bind_eq_ok h
    obtain ⟨modelId, h₁, h⟩ := bind_eq_ok h
    obtain ⟨version, h₂, h⟩ := bind_eq_ok h
    obtain ⟨objective, h₃, h⟩ := bind_eq_ok h
    obtain ⟨latency, _, h⟩ := bind_eq_ok h
    obtain ⟨throughput, _, h⟩ := bind_eq_ok h
    obtain ⟨_, _, h⟩ := bind_eq_ok h
    obtain ⟨_, _, h⟩ := bind_eq_ok h
    obtain ⟨participants, h₄, h⟩ := bind_eq_ok h
    obtain ⟨_, _, h⟩ := bind_eq_ok h
    obtain ⟨_, _, h⟩ := bind_eq_ok h
    obtain ⟨_, _, h⟩ := bind_eq_ok h
    obtain rfl := Except.ok.inj h
    have hparticipants := participantsFromDict_eq_ok h₄
    exact ⟨proper_of_payloadText h₁, proper_of_payloadText h₂, proper_of_payloadText h₃, latency.2,
      ⟨throughput.1, rfl, throughput.2⟩, availability.2, not_lt.1 (rejectIf_eq_ok.1 hbound),
      hparticipants.1, hparticipants.2⟩
  · intro h
    obtain ⟨r, hr, hrmin⟩ := h.minimumThroughputRps
    have hconstraints := PartitionConstraints.fromDict_toDict py p.constraints
    have havailability : contract.float py (Json.get p.toDict "availability_target")
        (payloadPath "availability_target") .zero
          = .ok ⟨p.availabilityTarget, h.availability_nonneg⟩ := Decoder.float_zero _
    have hbound : rejectIf (1 < p.availabilityTarget) (PartitionError.contract contract.code
        "coordination_plan.payload.availability_target must be at most 1.0") = .ok () :=
      rejectIf_eq_ok.2 (not_lt.2 h.availability_le_one)
    have hlatency : contract.float py (Json.get p.toDict "latency_slo_ms")
        (payloadPath "latency_slo_ms") .millionth = .ok ⟨p.latencySloMs, h.latencySloMs⟩ :=
      Decoder.float_millionth _
    have hthroughput : contract.float py (Json.get p.toDict "minimum_throughput_rps")
        (payloadPath "minimum_throughput_rps") .millionth = .ok ⟨r, hrmin⟩ := by
      have hget : Json.get p.toDict "minimum_throughput_rps" = .number r := by
        rw [Json.number, ← hr]
        rfl
      rw [hget]
      exact Decoder.float_millionth _
    have h₁ : payloadText py p.toDict "model_id" = .ok p.modelId := payloadText_str rfl h.modelId
    have h₂ : payloadText py p.toDict "approved_model_version" = .ok p.approvedModelVersion :=
      payloadText_str rfl h.approvedModelVersion
    have h₃ : payloadText py p.toDict "service_objective" = .ok p.serviceObjective :=
      payloadText_str rfl h.serviceObjective
    have h₄ : participantsFromDict py p.toDict = .ok p.participants :=
      participantsFromDict_texts rfl h.participants h.participants_ne_nil
    have h₅ : payloadMapping p.toDict "traffic_policy" = .ok p.trafficPolicy :=
      payloadMapping_obj rfl
    have h₆ : payloadMapping p.toDict "concurrency_policy" = .ok p.concurrencyPolicy :=
      payloadMapping_obj rfl
    have h₇ : payloadMapping p.toDict "resource_budget" = .ok p.resourceBudget :=
      payloadMapping_obj rfl
    have h₈ : payloadMapping p.toDict "constraints" = .ok p.constraints.toDict :=
      payloadMapping_obj rfl
    simp only [fromDict, bind, Except.bind, havailability, hbound, hlatency, hthroughput, h₁, h₂, h₃,
      h₄, h₅, h₆, h₇, h₈, hconstraints]
    rw [← hr]
    rfl

theorem map_eq_ok_iff {ε α β : Type} {f : α → β} {x : Except ε α} {b : β} :
    f <$> x = .ok b ↔ ∃ a, x = .ok a ∧ f a = b := by
  rcases x with e | a <;> simp [Functor.map, Except.map]

theorem CoordinationPlan.fromDict_toDict_iff {planType : String} {plan : CoordinationPlan} :
    fromDict py planType plan.toDict = .ok plan ↔
      plan.IsReadable ∧ (planType = "training" ↔ ∃ p, plan = .training p) := by
  rcases plan with p | p
  · by_cases htype : planType = "training"
    · simp [fromDict, htype, map_eq_ok_iff, toDict, IsReadable,
        TrainingCoordinationPlan.fromDict_toDict_iff]
    · simp [fromDict, htype, map_eq_ok_iff]
  · by_cases htype : planType = "training"
    · simp [fromDict, htype, map_eq_ok_iff]
    · simp [fromDict, htype, map_eq_ok_iff, toDict, IsReadable,
        InferenceCoordinationPlan.fromDict_toDict_iff]

theorem CoordinationPlanEnvelope.fromDict_toDict_iff {r : PartitionPlanningRequest} :
    fromDict py r.coordinationPlanToDict = .ok r.envelope ↔ r.envelope.IsReadable := by
  constructor
  · intro h
    obtain ⟨_, _, h⟩ := bind_eq_ok h
    obtain ⟨planType, _, h⟩ := bind_eq_ok h
    obtain ⟨_, hknown, h⟩ := bind_eq_ok h
    obtain ⟨approvedBy, _, h⟩ := bind_eq_ok h
    obtain ⟨approvalRef, _, h⟩ := bind_eq_ok h
    obtain ⟨_, hprovenance, h⟩ := bind_eq_ok h
    obtain ⟨planId, _, h⟩ := bind_eq_ok h
    obtain ⟨jobId, _, h⟩ := bind_eq_ok h
    obtain ⟨approvedAt, _, h⟩ := bind_eq_ok h
    obtain ⟨schemaVersion, _, h⟩ := bind_eq_ok h
    have he := Except.ok.inj h
    have hknown := not_not.1 (rejectIf_eq_ok.1 hknown)
    have hprovenance := rejectIf_eq_ok.1 hprovenance
    rw [not_or] at hprovenance
    rw [← he]
    exact ⟨hknown, planId.2, jobId.2, approvedBy.2 hprovenance.1, approvalRef.2 hprovenance.2,
      approvedAt.2, schemaVersion.2⟩
  · intro h
    have htype : Proper r.envelope.planType := by
      have hall : ∀ s ∈ ["training", "inference"], Proper s := by decide
      exact hall _ h.planType
    have hkind : ¬(¬r.envelope.planType = "training" ∧ ¬r.envelope.planType = "inference") := by
      have hmem := h.planType
      rw [List.mem_pair] at hmem
      exact fun hnot => hmem.elim hnot.1 hnot.2
    have hknown : rejectIf (¬r.envelope.planType = "training" ∧ ¬r.envelope.planType = "inference")
        (PartitionError.contract "unsupported_plan_type"
          s!"unsupported plan type: {r.envelope.planType}") = .ok () := rejectIf_eq_ok.2 hkind
    have hprovenance : rejectIf (r.envelope.approvedBy = "" ∨ r.envelope.approvalRef = "")
        (PartitionError.contract "approval_provenance_required"
          "approved_by and approval_ref are required") = .ok () :=
      rejectIf_eq_ok.2 (not_or.2 ⟨h.approvedBy.ne_empty, h.approvalRef.ne_empty⟩)
    simp [fromDict, PartitionPlanningRequest.coordinationPlanToDict, Json.get_cons_ne, requireTrue,
      Decoder.text_proper htype, hknown, stripped_proper h.approvedBy,
      stripped_proper h.approvalRef, hprovenance, Decoder.text_proper h.planId,
      Decoder.text_proper h.jobId, Decoder.text_proper h.approvedAt,
      Decoder.text_proper h.schemaVersion, bind, Except.bind]

/-- **A request is read back from what was written** exactly when it is what `from_dict` builds. -/
theorem PartitionPlanningRequest.fromDict_toDict_iff {r : PartitionPlanningRequest} :
    (r.toDict >>= fun payload => fromDict py (.obj payload)) = .ok r ↔ r.IsReadable := by
  rcases hmode : r.approvedExecutionMode with _ | mode
  · have hnone : r.toDict = .error (.contract "approved_mode_required"
        "approved execution mode is required") := by rw [toDict, hmode]
    rw [hnone]
    constructor
    · intro h
      cases h
    · intro h
      exact absurd hmode h.mode
  · have hread : (r.toDict >>= fun payload => fromDict py (.obj payload)) = (do
        let envelope ← CoordinationPlanEnvelope.fromDict py r.coordinationPlanToDict
        let plan ← CoordinationPlan.fromDict py envelope.planType r.plan.toDict
        let context ← PartitionSystemContext.fromDict py (.obj r.context.toDict)
        rejectIf (plan.modelId ≠ context.modelRegistryContext.modelId ∨
            plan.approvedModelVersion ≠ context.modelRegistryContext.approvedModelVersion)
          (.contract "model_version_mismatch"
            "coordination plan and model registry context must match")
        return ⟨envelope, plan, context, false, some mode, none⟩) := by
      have hpayload : Json.get r.coordinationPlanToDict "payload" = .obj r.plan.toDict := rfl
      simp [toDict, hmode, fromDict, Json.get_cons_ne, hpayload, modeFromDict, bind, Except.bind]
    rw [hread]
    constructor
    · intro h
      obtain ⟨envelope, he, h⟩ := bind_eq_ok h
      obtain ⟨plan, hp, h⟩ := bind_eq_ok h
      obtain ⟨context, hc, h⟩ := bind_eq_ok h
      obtain ⟨_, hmodel, h⟩ := bind_eq_ok h
      have hr := Except.ok.inj h
      have hmodel := rejectIf_eq_ok.1 hmodel
      rw [not_or, not_not, not_not] at hmodel
      obtain rfl : envelope = r.envelope := congrArg PartitionPlanningRequest.envelope hr
      obtain rfl : plan = r.plan := congrArg PartitionPlanningRequest.plan hr
      obtain rfl : context = r.context := congrArg PartitionPlanningRequest.context hr
      have hplan := CoordinationPlan.fromDict_toDict_iff.1 hp
      exact ⟨CoordinationPlanEnvelope.fromDict_toDict_iff.1 he, hplan.1, hplan.2,
        PartitionSystemContext.fromDict_toDict_iff.1 hc, hmodel.1, hmodel.2,
        (congrArg PartitionPlanningRequest.legacyInput hr).symm, by rw [hmode]; simp,
        (congrArg PartitionPlanningRequest.legacyLayers hr).symm⟩
    · intro h
      have hmodel : ¬(r.plan.modelId ≠ r.context.modelRegistryContext.modelId ∨
          r.plan.approvedModelVersion ≠ r.context.modelRegistryContext.approvedModelVersion) := by
        rw [not_or, not_not, not_not]
        exact ⟨h.same_model, h.same_version⟩
      rw [CoordinationPlanEnvelope.fromDict_toDict_iff.2 h.envelope]
      simp only [bind, Except.bind]
      rw [CoordinationPlan.fromDict_toDict_iff.2 ⟨h.plan, h.planType⟩]
      simp only
      rw [PartitionSystemContext.fromDict_toDict_iff.2 h.context]
      simp only
      rw [rejectIf_eq_ok.2 hmodel]
      rw [← h.legacyInput, ← hmode, ← h.legacyLayers]
      rfl

end ReadBack

end Partition
end AiopsK8s
