/-
# Requests from a federated coordination plan

`federated_coordination_adapter`: the plan of schema 0.4 that the coordinator sends, the contexts
that the providers add to it, and the request that `FederatedCoordinationV04Adapter.adapt` builds of
the three.  The service does not plan for that request; it writes it with
`partition_planning_request_to_dict` and plans for what `PartitionPlanningRequest.from_dict` reads.

The adapter checks less than `from_dict`.  `adapt_readBack_iff` says what it leaves out: the names
and the identifiers of the context as a whole, a coordination mode with white space around it, an
availability above one and a throughput that is computed as a quotient.
-/

import AiopsK8s.Partition.Coordination
import Mathlib.Data.List.Sort
import Mathlib.Tactic.NormNum

namespace AiopsK8s
namespace Partition

open Effect Text

/-- The helpers of `federated_coordination_adapter`. -/
def federated : Decoder := ⟨"invalid_federated_coordination_plan"⟩

/-- `SUPPORTED_SCHEMA_VERSION`. -/
def supportedSchemaVersion : String := "0.4"

/-- `MODE_MAPPING`: the plan type and the execution mode of a selected mode. -/
def modeMapping (taskType selectedMode : String) : Option (String × {s : String // Proper s}) :=
  if taskType = "federated_training" ∧ selectedMode = "FL" then
    some ("training", ⟨"federated_learning", by decide⟩)
  else if taskType = "federated_training" ∧ selectedMode = "SL" then
    some ("training", ⟨"split_learning", by decide⟩)
  else if taskType = "distributed_inference" ∧ selectedMode = "PARTITIONED" then
    some ("inference", ⟨"split_inference", by decide⟩)
  else none

/-- A candidate participant. -/
structure FederatedParticipantV04 where
  clientId : String
  priority : ℤ
  clientId_proper : Proper clientId
  priority_pos : 1 ≤ priority

namespace FederatedParticipantV04

/-- One of `candidate_participants`. -/
def fromDict (py : Python) (item : Json) : Except PartitionError FederatedParticipantV04 := do
  let fields ← federated.mapping item "candidate_participants[]"
  let clientId ← federated.text py (Json.get fields "client_id") "candidate_participants[].client_id"
  let priority ← federated.intOfAtLeast (Json.get fields "priority")
    "candidate_participants[].priority" 1
  return ⟨clientId.1, priority.1, proper_val clientId, one_le_val priority⟩

/-- The order of `sorted`: by priority, then by identifier. -/
def Before (a b : FederatedParticipantV04) : Prop :=
  a.priority < b.priority ∨ (a.priority = b.priority ∧ a.clientId ≤ b.clientId)

instance (a b : FederatedParticipantV04) : Decidable (Before a b) := inferInstanceAs (Decidable (_ ∨ _))

end FederatedParticipantV04

/-- The coordinator's plan. -/
structure FederatedCoordinationPlanV04 where
  schemaVersion : String
  taskType : String
  planId : String
  jobId : String
  sessionId : String
  modelId : String
  modelVersion : String
  selectedMode : String
  fallbackOrder : List String
  participants : List FederatedParticipantV04
  coordinationMode : Policy
  federatedStrategy : Policy
  participationPolicy : Policy
  servingPolicy : Policy
  originalPayload : Policy
  schemaVersion_proper : Proper schemaVersion
  planId_proper : Proper planId
  jobId_proper : Proper jobId
  modelId_proper : Proper modelId
  modelVersion_proper : Proper modelVersion

namespace FederatedCoordinationPlanV04

section Decoding

variable (py : Python) (upper : String → String)

/-- `left or right`. -/
def pyOr (left right : Json) : Json := if left.truthy then left else right

/-- `_version`. -/
def version (value : Json) (field : String) : Except PartitionError {s : String // Proper s} :=
  match value with
  | .bool _ => federated.fail s!"{field} is invalid"
  | value => federated.text py value field

/-- `_text(item, field).upper()` of the entries of `fallback_order`. -/
def fallbackOrderFromDict (modePayload : Policy) (modeField : String) :
    Except PartitionError (List String) := do
  let items ← federated.sequence (Json.getD modePayload "fallback_order" (.arr []))
    s!"{modeField}.fallback_order"
  items.mapM fun item => do
    return upper (← federated.text py item s!"{modeField}.fallback_order[]").1

/-- The participants of the plan, sorted. -/
def participantsFromDict (payload : Policy) :
    Except PartitionError (List FederatedParticipantV04) := do
  let items ← federated.sequence (Json.get payload "candidate_participants") "candidate_participants"
  let participants ← items.mapM (FederatedParticipantV04.fromDict py)
  rejectIf (participants.length < 2)
    (.contract "insufficient_participants" "at least two candidate participants are required")
  rejectIf (¬(participants.map (·.clientId)).Nodup ∨ ¬(participants.map (·.priority)).Nodup)
    (.contract federated.code "candidate participant IDs and priorities must be unique")
  return participants.insertionSort FederatedParticipantV04.Before

/-- `dict(_mapping(payload.get(field, {}), field))`. -/
def policyFromDict (payload : Policy) (field : String) : Except PartitionError Policy :=
  federated.mapping (Json.getD payload field (.obj [])) field

/-- `FederatedCoordinationPlanV04.from_dict`. -/
def fromDict (payload : Json) : Except PartitionError FederatedCoordinationPlanV04 := do
  let payload ← federated.mapping payload "coordination_plan"
  let schemaVersion ← federated.text py (Json.get payload "schema_version") "schema_version"
  rejectIf (schemaVersion.1 ≠ supportedSchemaVersion)
    (.contract "unsupported_coordination_schema"
      s!"schema_version must be {supportedSchemaVersion}")
  let taskType ← federated.text py (Json.get payload "task_type") "task_type"
  let modeField := if taskType.1 = "federated_training" then "learning_mode" else "inference_mode"
  rejectIf (taskType.1 ∉ ["federated_training", "distributed_inference"])
    (.contract "unsupported_coordination_task" s!"unsupported task_type: {taskType.1}")
  let modePayload ← federated.mapping (Json.get payload modeField) modeField
  let selected ← federated.text py (Json.get modePayload "selected") s!"{modeField}.selected"
  let selectedMode := upper selected.1
  rejectIf (modeMapping taskType.1 selectedMode = none)
    (.contract "unsupported_coordination_mode"
      s!"unsupported selected mode: {taskType.1}/{selectedMode}")
  let fallbackOrder ← fallbackOrderFromDict py upper modePayload modeField
  let participants ← participantsFromDict py payload
  let modelRef ← federated.mapping (Json.get payload "model_ref") "model_ref"
  let planId ← federated.text py
    (pyOr (Json.get payload "inference_plan_id") (Json.get payload "round_plan_id"))
    "round_plan_id or inference_plan_id"
  let jobId ← federated.text py (Json.get payload "job_id") "job_id"
  let sessionId ← federated.text py (Json.get payload "session_id") "session_id"
  let modelId ← federated.text py (Json.get modelRef "model_id") "model_ref.model_id"
  let modelVersion ← version py (Json.get modelRef "version") "model_ref.version"
  let coordinationMode ← policyFromDict payload "coordination_mode"
  let federatedStrategy ← policyFromDict payload "federated_strategy"
  let participationPolicy ← policyFromDict payload "participation_policy"
  let servingPolicy ← policyFromDict payload "serving_policy"
  return ⟨schemaVersion.1, taskType.1, planId.1, jobId.1, sessionId.1, modelId.1, modelVersion.1,
    selectedMode, fallbackOrder, participants, coordinationMode, federatedStrategy,
    participationPolicy, servingPolicy, payload, proper_val schemaVersion,
    proper_val planId, proper_val jobId, proper_val modelId, proper_val modelVersion⟩

end Decoding

/-- `participant_ids`. -/
def participantIds (plan : FederatedCoordinationPlanV04) : List String :=
  plan.participants.map (·.clientId)

end FederatedCoordinationPlanV04

/-- What a provider knows of the participants. -/
structure ParticipantContext where
  snapshotId : String
  snapshotVersion : String
  collectedAt : String
  devices : List ResourceDevice
  networkLinks : List NetworkLink
  workloadForecast : Option WorkloadForecast
  source : String

/-- What a provider knows of the model. -/
structure ModelContext where
  profile : ModelStructureProfile
  registry : ModelRegistryContext
  source : String

namespace FederatedCoordinationV04Adapter

section Adapter

variable (py : Python) (divide : ℚ → ℚ → PyFloat)

/-- `_validate_model_context`. -/
def validateModelContext (plan : FederatedCoordinationPlanV04) (context : ModelContext) :
    Except PartitionError Unit :=
  rejectIf (context.profile.modelId ≠ plan.modelId ∨ context.profile.modelVersion ≠ plan.modelVersion ∨
      context.registry.modelId ≠ plan.modelId ∨
      context.registry.approvedModelVersion ≠ plan.modelVersion)
    (.contract "model_context_missing"
      "model_ref does not match the approved model registry context")

/-- The links that a plan needs: from every participant to the aggregator, or along the chain. -/
def requiredLinks (plan : FederatedCoordinationPlanV04) : List (String × String) :=
  match plan.participantIds with
  | [] => []
  | aggregator :: rest =>
      if plan.selectedMode = "FL" then
        (rest.filter (· ≠ aggregator)).map fun participant => (participant, aggregator)
      else plan.participantIds.zip rest

/-- `_validate_participant_context`. -/
def validateParticipantContext (plan : FederatedCoordinationPlanV04) (context : ParticipantContext) :
    Except PartitionError Unit := do
  rejectIf (∃ participant ∈ plan.participantIds, participant ∉ context.devices.map (·.deviceId))
    (.contract "participant_context_missing"
      "resource context is missing for one or more candidate participants")
  rejectIf (∃ link ∈ requiredLinks plan, link ∉ context.networkLinks.map (·.pair))
    (.contract "network_evidence_missing"
      "required participant bandwidth evidence is unavailable")

/-- `_required_serving_number`. -/
def requiredServingNumber (plan : FederatedCoordinationPlanV04) (field : String) :
    Except PartitionError {q : ℚ // Minimum.millionth.value ≤ q} :=
  federated.float py (Json.get plan.servingPolicy field) s!"serving_policy.{field}" .millionth

/-- `max_concurrent_requests`, which both the throughput and the concurrency policy use. -/
def maxConcurrentRequests (plan : FederatedCoordinationPlanV04) :
    Except PartitionError {i : ℤ // 1 ≤ i} :=
  federated.intOfAtLeast (Json.get plan.servingPolicy "max_concurrent_requests")
    "serving_policy.max_concurrent_requests" 1

/-- `concurrency / timeout`. -/
def requestsPerSecond (concurrency : ℤ) (timeout : ℚ) : Except PartitionError PyFloat :=
  match Json.floatOfInt concurrency with
  | some q => .ok (divide q timeout)
  | none => .error .overflow

/-- `_minimum_throughput`. -/
def minimumThroughput (plan : FederatedCoordinationPlanV04) : Except PartitionError PyFloat :=
  match Json.get plan.servingPolicy "minimum_throughput_rps" with
  | .null => do
      let concurrency ← maxConcurrentRequests plan
      let timeout ← requiredServingNumber py plan "request_timeout_sec"
      requestsPerSecond divide concurrency.1 timeout.1
  | explicit => do
      return .finite (← federated.float py explicit "serving_policy.minimum_throughput_rps"
        .millionth).1

/-- `availability_target` of the serving policy. -/
def availabilityTarget (plan : FederatedCoordinationPlanV04) :
    Except PartitionError {q : ℚ // Minimum.zero.value ≤ q} :=
  federated.float py (Json.getD plan.servingPolicy "availability_target" (.number 0))
    "serving_policy.availability_target" .zero

/-- `_constraints`. -/
def constraints (plan : FederatedCoordinationPlanV04) : Except PartitionError PartitionConstraints :=
  if plan.taskType = "distributed_inference" then do
    let latency ← requiredServingNumber py plan "target_latency_ms"
    return ⟨some latency.1, none, 1 / 10, by rintro _ ⟨⟩; exact latency.2, by simp, by norm_num,
      by norm_num⟩
  else return ⟨none, none, 1 / 10, by simp, by simp, by norm_num, by norm_num⟩

/-- The selected coordination mode of a plan. -/
def selectedCoordinationMode (plan : FederatedCoordinationPlanV04) : Json :=
  FederatedCoordinationPlanV04.pyOr (Json.get plan.coordinationMode "selected") (.str "SYNC")

/-- `str(plan.coordination_mode.get("selected") or "SYNC")`. -/
def coordinationModeText (plan : FederatedCoordinationPlanV04) : String :=
  py.str (selectedCoordinationMode plan)

/-- The training plan of `adapt`. -/
def trainingPlan (plan : FederatedCoordinationPlanV04) (constraints : PartitionConstraints) :
    TrainingCoordinationPlan where
  modelId := plan.modelId
  approvedModelVersion := plan.modelVersion
  coordinationMode := coordinationModeText py plan
  participants := plan.participantIds
  roundPolicy := plan.participationPolicy
  aggregationPolicy := plan.federatedStrategy
  synchronizationPolicy := plan.coordinationMode
  trainingObjective := s!"{plan.taskType}:{plan.selectedMode}"
  resourceBudget := []
  constraints

/-- The inference plan of `adapt`. -/
def inferencePlan (plan : FederatedCoordinationPlanV04) (constraints : PartitionConstraints) :
    Except PartitionError InferenceCoordinationPlan := do
  let latency ← requiredServingNumber py plan "target_latency_ms"
  let throughput ← minimumThroughput py divide plan
  let availability ← availabilityTarget py plan
  let concurrency ← maxConcurrentRequests plan
  return {
    modelId := plan.modelId
    approvedModelVersion := plan.modelVersion
    serviceObjective := s!"distributed inference for {plan.modelId}"
    latencySloMs := latency.1
    minimumThroughputRps := throughput
    availabilityTarget := availability.1
    trafficPolicy := plan.servingPolicy
    concurrencyPolicy := Json.set plan.servingPolicy "max_requests" (.int concurrency.1)
    participants := plan.participantIds
    resourceBudget := []
    constraints }

/-- `v2_plan` of `adapt`. -/
def coordinationPlan (plan : FederatedCoordinationPlanV04) (planType : String)
    (constraints : PartitionConstraints) : Except PartitionError CoordinationPlan :=
  if planType = "training" then do
    -- `str` of the mode raises for an integer of more than 4300 digits
    rejectIf ((selectedCoordinationMode plan).hasLongInteger = true) .value
    return .training (trainingPlan py plan constraints)
  else do return .inference (← inferencePlan py divide plan constraints)

/-- The snapshot of `adapt`. -/
def systemContext (participants : ParticipantContext) (model : ModelContext) :
    PartitionSystemContext where
  snapshotId := participants.snapshotId
  snapshotVersion := participants.snapshotVersion
  collectedAt := participants.collectedAt
  modelStructureProfile := model.profile
  modelRegistryContext := model.registry
  devices := participants.devices
  networkLinks := participants.networkLinks
  workloadForecast := participants.workloadForecast

/-- The upstream agent. -/
def federatedCoordinationAgent : String := "FederatedCoordinationAgent"

/-- `adapt`. -/
def adapt (plan : FederatedCoordinationPlanV04) (participants : ParticipantContext)
    (model : ModelContext) : Except PartitionError PartitionPlanningRequest := do
  validateModelContext plan model
  validateParticipantContext plan participants
  match modeMapping plan.taskType plan.selectedMode with
  | none => .error .key
  | some (planType, executionMode) => do
      let constraints ← constraints py plan
      let v2Plan ← coordinationPlan py divide plan planType constraints
      return {
        envelope := {
          planType
          planId := plan.planId
          jobId := plan.jobId
          approvedBy := federatedCoordinationAgent
          approvalRef := plan.planId
          approvedAt := participants.collectedAt
          schemaVersion := plan.schemaVersion }
        plan := v2Plan
        context := systemContext participants model
        legacyInput := false
        approvedExecutionMode := some ⟨executionMode.1, true, federatedCoordinationAgent, plan.planId,
          proper_val executionMode, rfl, by decide, plan.planId_proper⟩
        legacyLayers := none }

/-- The condition under which the planner reads the adapted request back. -/
structure ReadsBack (plan : FederatedCoordinationPlanV04) (participants : ParticipantContext) :
    Prop where
  snapshotId : Proper participants.snapshotId
  snapshotVersion : Proper participants.snapshotVersion
  collectedAt : Proper participants.collectedAt
  devices_nodup : (participants.devices.map (·.deviceId)).Nodup
  links_nodup : (participants.networkLinks.map (·.arrow)).Nodup
  links_known : ∀ l ∈ participants.networkLinks,
    l.sourceDevice ∈ participants.devices.map (·.deviceId) ∧
      l.targetDevice ∈ participants.devices.map (·.deviceId)
  mode : plan.taskType = "federated_training" → Proper (coordinationModeText py plan)
  availability : plan.taskType = "distributed_inference" →
    ∀ q, availabilityTarget py plan = .ok q → q.1 ≤ 1
  throughput : plan.taskType = "distributed_inference" →
    Json.get plan.servingPolicy "minimum_throughput_rps" = .null →
    ∀ n t, maxConcurrentRequests plan = .ok n →
      requiredServingNumber py plan "request_timeout_sec" = .ok t →
      ∃ r, requestsPerSecond divide n.1 t.1 = .ok (.finite r) ∧ 1 / 1000000 ≤ r

end Adapter

section ReadBack

variable {py : Python} {divide : ℚ → ℚ → PyFloat} {upper : String → String} {payload : Json}
  {plan : FederatedCoordinationPlanV04} {participants : ParticipantContext} {model : ModelContext}
  {request : PartitionPlanningRequest}

/-- `from_dict` leaves a plan of at least two participants. -/
theorem two_participants (h : FederatedCoordinationPlanV04.fromDict py upper payload = .ok plan) :
    2 ≤ plan.participants.length := by
  obtain ⟨fields, _, h⟩ := bind_eq_ok h
  obtain ⟨_, _, h⟩ := bind_eq_ok h
  obtain ⟨_, _, h⟩ := bind_eq_ok h
  obtain ⟨_, _, h⟩ := bind_eq_ok h
  obtain ⟨_, _, h⟩ := bind_eq_ok h
  obtain ⟨_, _, h⟩ := bind_eq_ok h
  obtain ⟨_, _, h⟩ := bind_eq_ok h
  obtain ⟨_, _, h⟩ := bind_eq_ok h
  obtain ⟨_, _, h⟩ := bind_eq_ok h
  obtain ⟨sorted, hsorted, h⟩ := bind_eq_ok h
  obtain ⟨_, _, h⟩ := bind_eq_ok h
  obtain ⟨_, _, h⟩ := bind_eq_ok h
  obtain ⟨_, _, h⟩ := bind_eq_ok h
  obtain ⟨_, _, h⟩ := bind_eq_ok h
  obtain ⟨_, _, h⟩ := bind_eq_ok h
  obtain ⟨_, _, h⟩ := bind_eq_ok h
  obtain ⟨_, _, h⟩ := bind_eq_ok h
  obtain ⟨_, _, h⟩ := bind_eq_ok h
  obtain ⟨_, _, h⟩ := bind_eq_ok h
  obtain ⟨_, _, h⟩ := bind_eq_ok h
  obtain rfl := Except.ok.inj h
  obtain ⟨_, _, hsorted⟩ := bind_eq_ok hsorted
  obtain ⟨items, _, hsorted⟩ := bind_eq_ok hsorted
  obtain ⟨_, htwo, hsorted⟩ := bind_eq_ok hsorted
  obtain ⟨_, _, hsorted⟩ := bind_eq_ok hsorted
  obtain rfl := Except.ok.inj hsorted
  show 2 ≤ (items.insertionSort _).length
  rw [List.length_insertionSort]
  exact not_lt.1 (rejectIf_eq_ok.1 htwo)

/-- The modes of `MODE_MAPPING`. -/
theorem modeMapping_eq_some {taskType selectedMode planType : String} {mode : {s : String // Proper s}}
    (h : modeMapping taskType selectedMode = some (planType, mode)) :
    (taskType = "federated_training" ∧ planType = "training" ∧
        (selectedMode = "FL" ∨ selectedMode = "SL")) ∨
      (taskType = "distributed_inference" ∧ planType = "inference" ∧
        selectedMode = "PARTITIONED") := by
  unfold modeMapping at h
  split_ifs at h with h₁ h₂ h₃ <;> cases h
  · exact .inl ⟨h₁.1, rfl, .inl h₁.2⟩
  · exact .inl ⟨h₂.1, rfl, .inr h₂.2⟩
  · exact .inr ⟨h₃.1, rfl, h₃.2⟩

theorem participantIds_proper (plan : FederatedCoordinationPlanV04) :
    ∀ s ∈ plan.participantIds, Proper s := by
  intro s hs
  obtain ⟨p, _, rfl⟩ := List.mem_map.1 hs
  exact p.clientId_proper

/-- The training plan is read back when its mode is proper. -/
theorem trainingPlan_isReadable_iff {c : PartitionConstraints} (hne : plan.participantIds ≠ [])
    (htask : plan.taskType = "federated_training")
    (hmode : plan.selectedMode = "FL" ∨ plan.selectedMode = "SL") :
    (trainingPlan py plan c).IsReadable ↔ Proper (coordinationModeText py plan) := by
  have hobjective : Proper s!"{plan.taskType}:{plan.selectedMode}" := by
    rw [htask]
    rcases hmode with hmode | hmode <;> rw [hmode] <;> decide
  constructor
  · exact fun h => h.coordinationMode
  · exact fun h => ⟨plan.modelId_proper, plan.modelVersion_proper, h, participantIds_proper plan, hne,
      hobjective⟩

/-- The throughput that is given is in range, and only a quotient need not be. -/
theorem minimumThroughput_iff {throughput : PyFloat}
    (h : minimumThroughput py divide plan = .ok throughput) :
    (∃ r, throughput = .finite r ∧ 1 / 1000000 ≤ r) ↔
      (Json.get plan.servingPolicy "minimum_throughput_rps" = .null →
        ∀ n t, maxConcurrentRequests plan = .ok n →
          requiredServingNumber py plan "request_timeout_sec" = .ok t →
          ∃ r, requestsPerSecond divide n.1 t.1 = .ok (.finite r) ∧ 1 / 1000000 ≤ r) := by
  unfold minimumThroughput at h
  split at h
  · rename_i hnull
    obtain ⟨n, hn, h⟩ := bind_eq_ok h
    obtain ⟨t, ht, h⟩ := bind_eq_ok h
    constructor
    · rintro ⟨r, rfl, hr⟩ _ n' t' hn' ht'
      obtain rfl : n = n' := Except.ok.inj (hn.symm.trans hn')
      obtain rfl : t = t' := Except.ok.inj (ht.symm.trans ht')
      exact ⟨r, h, hr⟩
    · intro hall
      obtain ⟨r, hr, hmin⟩ := hall hnull n t hn ht
      exact ⟨r, Except.ok.inj (h.symm.trans hr), hmin⟩
  · rename_i hnull
    obtain ⟨r, _, h⟩ := bind_eq_ok h
    obtain rfl := Except.ok.inj h
    exact ⟨fun _ hn => absurd hn hnull, fun _ => ⟨r.1, rfl, r.2⟩⟩

/-- The inference plan is read back when its availability and its throughput are in range. -/
theorem inferencePlan_isReadable_iff {c : PartitionConstraints} {p : InferenceCoordinationPlan}
    (hne : plan.participantIds ≠ []) (h : inferencePlan py divide plan c = .ok p) :
    p.IsReadable ↔ (∀ q, availabilityTarget py plan = .ok q → q.1 ≤ 1) ∧
      (Json.get plan.servingPolicy "minimum_throughput_rps" = .null →
        ∀ n t, maxConcurrentRequests plan = .ok n →
          requiredServingNumber py plan "request_timeout_sec" = .ok t →
          ∃ r, requestsPerSecond divide n.1 t.1 = .ok (.finite r) ∧ 1 / 1000000 ≤ r) := by
  obtain ⟨latency, _, h⟩ := bind_eq_ok h
  obtain ⟨throughput, hthroughput, h⟩ := bind_eq_ok h
  obtain ⟨availability, havailability, h⟩ := bind_eq_ok h
  obtain ⟨concurrency, _, h⟩ := bind_eq_ok h
  obtain rfl := Except.ok.inj h
  have hobjective : Proper s!"distributed inference for {plan.modelId}" :=
    plan.modelId_proper.append (a := "distributed inference for ") ⟨'d', _, rfl, by decide⟩
  rw [← minimumThroughput_iff hthroughput]
  constructor
  · intro hp
    refine ⟨fun q hq => ?_, hp.minimumThroughputRps⟩
    obtain rfl : availability = q := Except.ok.inj (havailability.symm.trans hq)
    exact hp.availability_le_one
  · rintro ⟨hle, hr⟩
    exact ⟨plan.modelId_proper, plan.modelVersion_proper, hobjective, latency.2, hr, availability.2,
      hle availability havailability, participantIds_proper plan, hne⟩

/-- A plan is read back under the conditions on its own task. -/
theorem coordinationPlan_isReadable_iff {planType : String} {mode : {s : String // Proper s}}
    {c : PartitionConstraints} {v2Plan : CoordinationPlan} (hne : plan.participantIds ≠ [])
    (hmapping : modeMapping plan.taskType plan.selectedMode = some (planType, mode))
    (h : coordinationPlan py divide plan planType c = .ok v2Plan) :
    v2Plan.IsReadable ↔
      (plan.taskType = "federated_training" → Proper (coordinationModeText py plan)) ∧
        (plan.taskType = "distributed_inference" →
          ∀ q, availabilityTarget py plan = .ok q → q.1 ≤ 1) ∧
        (plan.taskType = "distributed_inference" →
          Json.get plan.servingPolicy "minimum_throughput_rps" = .null →
          ∀ n t, maxConcurrentRequests plan = .ok n →
            requiredServingNumber py plan "request_timeout_sec" = .ok t →
            ∃ r, requestsPerSecond divide n.1 t.1 = .ok (.finite r) ∧ 1 / 1000000 ≤ r) := by
  rcases modeMapping_eq_some hmapping with ⟨htask, rfl, hmode⟩ | ⟨htask, rfl, _⟩
  · obtain ⟨_, _, h⟩ := bind_eq_ok h
    obtain rfl := Except.ok.inj h
    show (trainingPlan py plan c).IsReadable ↔ _
    rw [trainingPlan_isReadable_iff hne htask hmode]
    simp [htask]
  · obtain ⟨p, hp, h⟩ := bind_eq_ok h
    obtain rfl := Except.ok.inj h
    show p.IsReadable ↔ _
    rw [inferencePlan_isReadable_iff hne hp]
    simp [htask]

/-- The plan has the type of the envelope and the model of the coordinator. -/
theorem coordinationPlan_eq_ok {planType : String} {mode : {s : String // Proper s}}
    {c : PartitionConstraints} {v2Plan : CoordinationPlan}
    (hmapping : modeMapping plan.taskType plan.selectedMode = some (planType, mode))
    (h : coordinationPlan py divide plan planType c = .ok v2Plan) :
    planType ∈ ["training", "inference"] ∧ (planType = "training" ↔ ∃ p, v2Plan = .training p) ∧
      v2Plan.modelId = plan.modelId ∧ v2Plan.approvedModelVersion = plan.modelVersion := by
  rcases modeMapping_eq_some hmapping with ⟨_, rfl, _⟩ | ⟨_, rfl, _⟩
  · obtain ⟨_, _, h⟩ := bind_eq_ok h
    obtain rfl := Except.ok.inj h
    exact ⟨by decide, by simp, rfl, rfl⟩
  · obtain ⟨p, hp, h⟩ := bind_eq_ok h
    obtain rfl := Except.ok.inj h
    obtain ⟨_, _, hp⟩ := bind_eq_ok hp
    obtain ⟨_, _, hp⟩ := bind_eq_ok hp
    obtain ⟨_, _, hp⟩ := bind_eq_ok hp
    obtain ⟨_, _, hp⟩ := bind_eq_ok hp
    obtain rfl := Except.ok.inj hp
    exact ⟨by decide, by simp, rfl, rfl⟩

/-- The adapted request is what `from_dict` builds under the conditions that the adapter leaves
out. -/
theorem adapt_isReadable_iff
    (hplan : FederatedCoordinationPlanV04.fromDict py upper payload = .ok plan)
    (hadapt : adapt py divide plan participants model = .ok request) :
    request.IsReadable ↔ ReadsBack py divide plan participants := by
  have htwo := two_participants hplan
  have hne : plan.participantIds ≠ [] := by
    intro hnil
    rw [FederatedCoordinationPlanV04.participantIds, List.map_eq_nil_iff] at hnil
    rw [hnil] at htwo
    simp at htwo
  obtain ⟨_, hmodel, hadapt⟩ := bind_eq_ok hadapt
  obtain ⟨_, hparticipants, hadapt⟩ := bind_eq_ok hadapt
  have hmodel := rejectIf_eq_ok.1 hmodel
  rw [not_or, not_or, not_or, not_not, not_not, not_not, not_not] at hmodel
  obtain ⟨hprofile, hversion, hregistry, happroved⟩ := hmodel
  have hdevices : participants.devices ≠ [] := by
    intro hnil
    obtain ⟨_, hknown, _⟩ := bind_eq_ok hparticipants
    obtain ⟨s, l, hs⟩ := List.exists_cons_of_ne_nil hne
    refine rejectIf_eq_ok.1 hknown ⟨s, by rw [hs]; exact List.mem_cons_self, ?_⟩
    simp [hnil]
  split at hadapt
  · cases hadapt
  rename_i planType mode hmapping
  obtain ⟨c, _, hadapt⟩ := bind_eq_ok hadapt
  obtain ⟨v2Plan, hv2, hadapt⟩ := bind_eq_ok hadapt
  obtain rfl := Except.ok.inj hadapt
  have hcontext : (systemContext participants model).IsReadable ↔
      Proper participants.snapshotId ∧ Proper participants.snapshotVersion ∧
        Proper participants.collectedAt ∧ (participants.devices.map (·.deviceId)).Nodup ∧
        (participants.networkLinks.map (·.arrow)).Nodup ∧
        ∀ l ∈ participants.networkLinks,
          l.sourceDevice ∈ participants.devices.map (·.deviceId) ∧
            l.targetDevice ∈ participants.devices.map (·.deviceId) := by
    constructor
    · intro h
      exact ⟨h.snapshotId, h.snapshotVersion, h.collectedAt, h.devices_nodup, h.links_nodup,
        h.links_known⟩
    · rintro ⟨hid, hver, hat, hnodup, hlinks, hknown⟩
      exact ⟨hdevices, hnodup, hlinks, hknown, hprofile.trans hregistry.symm,
        hversion.trans happroved.symm, hid, hver, hat⟩
  have hplanReadable := coordinationPlan_isReadable_iff hne hmapping hv2
  obtain ⟨hkind, htype, hmodelId, hmodelVersion⟩ := coordinationPlan_eq_ok hmapping hv2
  have hagent : Proper federatedCoordinationAgent := by decide
  constructor
  · intro h
    obtain ⟨hid, hver, hat, hnodup, hlinks, hknown⟩ := hcontext.1 h.context
    obtain ⟨hmode, havailability, hthroughput⟩ := hplanReadable.1 h.plan
    exact ⟨hid, hver, hat, hnodup, hlinks, hknown, hmode, havailability, hthroughput⟩
  · intro h
    have hreadable := hplanReadable.2 ⟨h.mode, h.availability, h.throughput⟩
    have hsnapshot := hcontext.2 ⟨h.snapshotId, h.snapshotVersion, h.collectedAt, h.devices_nodup,
      h.links_nodup, h.links_known⟩
    exact ⟨⟨hkind, plan.planId_proper, plan.jobId_proper, hagent, plan.planId_proper, h.collectedAt,
      plan.schemaVersion_proper⟩, hreadable, htype, hsnapshot, hmodelId.trans hregistry.symm,
      hmodelVersion.trans happroved.symm, rfl, by simp, rfl⟩

/-- The plan of an inference service, with its availability. -/
def servingPayload (availability : ℚ) : Policy :=
  [("schema_version", .str "0.4"), ("task_type", .str "distributed_inference"),
    ("inference_plan_id", .str "plan"), ("job_id", .str "job"), ("session_id", .str "session"),
    ("model_ref", .obj [("model_id", .str "model"), ("version", .str "1")]),
    ("inference_mode", .obj [("selected", .str "PARTITIONED")]),
    ("candidate_participants", .arr
      [.obj [("client_id", .str "a"), ("priority", .int 1)],
        .obj [("client_id", .str "b"), ("priority", .int 2)]]),
    ("serving_policy", .obj
      [("target_latency_ms", .number 100), ("minimum_throughput_rps", .number 1),
        ("availability_target", .number availability), ("max_concurrent_requests", .int 1)])]

/-- The plan that is decoded. -/
def servingPlan (availability : ℚ) : FederatedCoordinationPlanV04 where
  schemaVersion := "0.4"
  taskType := "distributed_inference"
  planId := "plan"
  jobId := "job"
  sessionId := "session"
  modelId := "model"
  modelVersion := "1"
  selectedMode := "PARTITIONED"
  fallbackOrder := []
  participants := [⟨"a", 1, by decide, by decide⟩, ⟨"b", 2, by decide, by decide⟩]
  coordinationMode := []
  federatedStrategy := []
  participationPolicy := []
  servingPolicy :=
    [("target_latency_ms", .number 100), ("minimum_throughput_rps", .number 1),
      ("availability_target", .number availability), ("max_concurrent_requests", .int 1)]
  originalPayload := servingPayload availability
  schemaVersion_proper := by decide
  planId_proper := by decide
  jobId_proper := by decide
  modelId_proper := by decide
  modelVersion_proper := by decide

/-- `str.upper` of an ASCII text. -/
def upperAscii (s : String) : String := String.ofList (s.toList.map Char.toUpper)

theorem fromDict_servingPayload (q : ℚ) :
    FederatedCoordinationPlanV04.fromDict Python.ascii upperAscii (.obj (servingPayload q))
      = .ok (servingPlan q) := by
  have htext : ∀ {s : String} (h : Proper s) (field : String),
      federated.text Python.ascii (.str s) field = .ok ⟨s, h⟩ := fun h _ => Decoder.text_proper h
  have hparticipants : FederatedCoordinationPlanV04.participantsFromDict Python.ascii
      (servingPayload q) = .ok (servingPlan q).participants := rfl
  have hfallback : FederatedCoordinationPlanV04.fallbackOrderFromDict Python.ascii upperAscii
      [("selected", .str "PARTITIONED")] "inference_mode" = .ok [] := rfl
  have hversion : FederatedCoordinationPlanV04.version Python.ascii (.str "1") "model_ref.version"
      = .ok ⟨"1", (servingPlan q).modelVersion_proper⟩ := rfl
  have hor : ∀ v, FederatedCoordinationPlanV04.pyOr (.str "plan") v = .str "plan" := fun _ => rfl
  have hselected : Json.get [("selected", Json.str "PARTITIONED")] "selected"
      = .str "PARTITIONED" := rfl
  have hmodel : Json.get [("model_id", Json.str "model"), ("version", Json.str "1")] "model_id"
      = .str "model" := rfl
  have hmodelVersion : Json.get [("model_id", Json.str "model"), ("version", Json.str "1")] "version"
      = .str "1" := rfl
  have hfield : (if "distributed_inference" = "federated_training" then "learning_mode"
      else "inference_mode") = "inference_mode" := rfl
  have hschema : ∀ e : PartitionError, rejectIf ("0.4" ≠ supportedSchemaVersion) e = .ok () :=
    fun _ => rfl
  have htask : ∀ e : PartitionError, rejectIf ("distributed_inference" ∉
      ["federated_training", "distributed_inference"]) e = .ok () := fun _ => rfl
  have hmode : ∀ e : PartitionError, rejectIf (modeMapping "distributed_inference"
      (upperAscii "PARTITIONED") = none) e = .ok () := fun _ => rfl
  have g₁ : Json.get (servingPayload q) "schema_version" = .str "0.4" := rfl
  have g₂ : Json.get (servingPayload q) "task_type" = .str "distributed_inference" := rfl
  have g₃ : Json.get (servingPayload q) "inference_mode"
      = .obj [("selected", .str "PARTITIONED")] := rfl
  have g₄ : Json.get (servingPayload q) "model_ref"
      = .obj [("model_id", .str "model"), ("version", .str "1")] := rfl
  have g₅ : Json.get (servingPayload q) "inference_plan_id" = .str "plan" := rfl
  have g₆ : Json.get (servingPayload q) "job_id" = .str "job" := rfl
  have g₇ : Json.get (servingPayload q) "session_id" = .str "session" := rfl
  have p₁ : FederatedCoordinationPlanV04.policyFromDict (servingPayload q) "coordination_mode"
      = .ok [] := rfl
  have p₂ : FederatedCoordinationPlanV04.policyFromDict (servingPayload q) "federated_strategy"
      = .ok [] := rfl
  have p₃ : FederatedCoordinationPlanV04.policyFromDict (servingPayload q) "participation_policy"
      = .ok [] := rfl
  have p₄ : FederatedCoordinationPlanV04.policyFromDict (servingPayload q) "serving_policy"
      = .ok (servingPlan q).servingPolicy := rfl
  simp only [FederatedCoordinationPlanV04.fromDict, bind, Except.bind, Decoder.mapping_obj, g₁, g₂,
    g₃, g₄, g₅, g₆, g₇, p₁, p₂, p₃, p₄, hfield, hparticipants, hor, hselected, hmodel, hmodelVersion,
    hversion, hfallback, hschema, htask, hmode, htext (show Proper "0.4" by decide),
    htext (show Proper "distributed_inference" by decide), htext (show Proper "PARTITIONED" by decide),
    htext (show Proper "plan" by decide),
    htext (show Proper "job" by decide), htext (show Proper "session" by decide),
    htext (show Proper "model" by decide)]
  rfl

/-- A device of a thousand bytes. -/
def servingDevice (name : String) (h : Proper name) : ResourceDevice where
  deviceId := name
  deviceType := "gpu"
  computeUnitsPerSecond := 1
  memoryCapacityBytes := 1000
  memoryAvailableBytes := 1000
  deviceId_proper := h
  deviceType_proper := by decide
  computeUnitsPerSecond_min := by norm_num
  memoryCapacityBytes_pos := by norm_num
  memoryAvailableBytes_nonneg := by norm_num
  available_le_capacity := le_rfl

theorem one_nonneg : (0 : ℚ) ≤ 1 := by norm_num

/-- Two devices and the link between them. -/
def servingParticipants : ParticipantContext where
  snapshotId := "snapshot"
  snapshotVersion := "1"
  collectedAt := "2026-01-01T00:00:00Z"
  devices := [servingDevice "a" (by decide), servingDevice "b" (by decide)]
  networkLinks := [⟨"a", "b", 1, 1, by decide, by decide, by norm_num, one_nonneg⟩]
  workloadForecast := none
  source := "inventory"

/-- A model of one block. -/
def servingModel : ModelContext where
  profile := ⟨"profile", "model", "1",
    [⟨"block", ["layer"], 1, 1, 1, by decide, by decide, by decide, by decide, by decide, by decide,
      by decide⟩], by decide, by decide, by decide, by decide, by decide, by decide⟩
  registry := ⟨"registry", "1", "model", "1", by decide, by decide, by decide, by decide⟩
  source := "registry"

/-- The exact quotient: the service does not divide. -/
def quotient (a b : ℚ) : PyFloat := .finite (a / b)

theorem availabilityTarget_servingPlan {q : ℚ} (hq : 0 ≤ q) :
    availabilityTarget Python.ascii (servingPlan q) = .ok ⟨q, hq⟩ := Decoder.float_zero hq

theorem adapt_servingPlan {q : ℚ} (hq : 0 ≤ q) :
    ∃ request, adapt Python.ascii quotient (servingPlan q) servingParticipants servingModel
      = .ok request := by
  have hmodel : validateModelContext (servingPlan q) servingModel = .ok () := rfl
  have hparticipants : validateParticipantContext (servingPlan q) servingParticipants = .ok () := rfl
  have hlatency : requiredServingNumber Python.ascii (servingPlan q) "target_latency_ms"
      = .ok ⟨100, by norm_num [Minimum.millionth]⟩ := Decoder.float_millionth _
  have hthroughput : minimumThroughput Python.ascii quotient (servingPlan q) = .ok (.finite 1) := by
    have hone : federated.float Python.ascii (.number 1) "serving_policy.minimum_throughput_rps"
        .millionth = .ok ⟨1, by norm_num [Minimum.millionth]⟩ := Decoder.float_millionth _
    have hget : Json.get (servingPlan q).servingPolicy "minimum_throughput_rps" = .number 1 := rfl
    unfold minimumThroughput
    rw [hget]
    simp only [Json.number] at hone ⊢
    rw [hone]
    rfl
  have havailability := availabilityTarget_servingPlan hq
  have hconcurrency : maxConcurrentRequests (servingPlan q) = .ok ⟨1, le_rfl⟩ := rfl
  have htask : (servingPlan q).taskType = "distributed_inference" := rfl
  simp only [adapt, bind, Except.bind, hmodel, hparticipants, constraints, htask, if_true, hlatency,
    coordinationPlan, inferencePlan, hthroughput, havailability, hconcurrency, pure, Except.pure]
  exact ⟨_, rfl⟩

end ReadBack

end FederatedCoordinationV04Adapter

end Partition
end AiopsK8s
