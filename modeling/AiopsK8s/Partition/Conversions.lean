/-
# Which exceptions the decoders raise

The decoders of a round plan, of a planning request and of a coordination plan reject a document
with `PartitionContractError`.  Two conversions raise something else: `str` of an integer of more
than 4300 digits and `float` of an integer that is too large.  `reads` lists, for each decoder and
in its order, the values that it converts until it rejects; the decoder raises only contract errors
if and only if it can convert all of them (`decoders_raiseContract_iff`).
-/

import AiopsK8s.Lib.Raising
import AiopsK8s.Partition.Federated

namespace AiopsK8s
namespace Partition

open Effect Raising

/-- A `PartitionContractError`. -/
def PartitionError.IsContract : PartitionError → Prop
  | .contract _ _ => True
  | _ => False

/-- A value that a decoder converts. -/
inductive Read where
  | text (value : Json)
  | number (value : Json)

/-- The conversion does not raise: `str` finds no integer of more than 4300 digits, and `float` no
integer that is too large. -/
def Read.Converts : Read → Prop
  | text value => value.hasLongInteger = false
  | number value => ∀ i, value = .int i → Json.floatOfInt i ≠ none

/-- Only contract errors are raised. -/
abbrev RaisesContract {α : Type} (x : Except PartitionError α) : Prop :=
  Raises PartitionError.IsContract x

/-- The reads decide whether only contract errors are raised. -/
abbrev CoversReads {α : Type} (x : Except PartitionError α) (reads : List Read) : Prop :=
  Covers PartitionError.IsContract Read.Converts x reads

/-! ### What is read -/

section Reading

variable (py : Python)

/-- `_text` of a value, and what is read after it. -/
def readText (value : Json) (after : String → List Read) : List Read :=
  .text value :: reading (contract.text py value "") fun s => after s.1

/-- `str(value or "").strip()`, and what is read after it. -/
def readStripped (value : Json) (after : String → List Read) : List Read :=
  .text value :: reading (stripped py value) fun s => after s.1

/-- `_float` of a value, and what is read after it. -/
def readNumber (value : Json) (minimum : Minimum) (after : ℚ → List Read) : List Read :=
  .number value :: reading (contract.float py value "" minimum) fun q => after q.1

/-- `_int` of a value, and what is read after it. -/
def readInt (value : Json) (minimum : ℤ) (after : List Read) : List Read :=
  reading (contract.int value "" minimum) fun _ => after

/-- `_mapping` of a value, and what is read in it and after it. -/
def readObject (value : Json) (after : List (String × Json) → List Read) : List Read :=
  match value with
  | .obj fields => after fields
  | _ => []

/-- `_sequence` of a value, and what is read in it and after it. -/
def readArray (value : Json) (after : List Json → List Read) : List Read :=
  match value with
  | .arr items => after items
  | _ => []

/-- `tuple(_text(item, field) for item in _sequence(value, field))`. -/
def readTexts (value : Json) (after : List String → List Read) : List Read :=
  readArray value fun items =>
    readItems (fun item => contract.text py item "") (fun item => [.text item]) items ++
      reading (contract.texts py items "") fun texts => after texts.1

/-- `tuple(T.from_dict(_mapping(item, field)) for item in _sequence(value, field))`. -/
def readRecords {α : Type} (fromDict : List (String × Json) → Except PartitionError α)
    (reads : List (String × Json) → List Read) (value : Json) (after : List α → List Read) :
    List Read :=
  readArray value fun items =>
    readItems (fun item => do fromDict (← contract.mapping item ""))
      (fun item => readObject item reads) items ++
      reading (contract.records fromDict items "") after

/-- What `ApprovedExecutionMode.from_dict` reads. -/
def ApprovedExecutionMode.reads (payload : List (String × Json)) : List Read :=
  readText py (Json.get payload "name") fun _ =>
  reading (requireTrue (Json.get payload "approved") .type) fun _ =>
  readStripped py (Json.get payload "approved_by") fun _ => [.text (Json.get payload "approval_ref")]

/-- What `ModelLayer.from_dict` reads. -/
def ModelLayer.reads (payload : List (String × Json)) : List Read :=
  readText py (Json.get payload "name") fun _ => [.number (Json.get payload "compute_units")]

/-- What `ResourceDevice.from_dict` reads. -/
def ResourceDevice.reads (payload : List (String × Json)) : List Read :=
  readText py (Json.get payload "device_id") fun _ =>
  readText py (Json.get payload "device_type") fun _ =>
  [.number (Json.get payload "compute_units_per_second")]

/-- What `NetworkLink.from_dict` reads. -/
def NetworkLink.reads (payload : List (String × Json)) : List Read :=
  readText py (Json.get payload "source_device") fun _ =>
  readText py (Json.get payload "target_device") fun _ =>
  readNumber py (Json.get payload "bandwidth_bytes_per_second") .millionth fun _ =>
  [.number (Json.get payload "latency_ms")]

/-- What `PartitionConstraints.from_dict` reads. -/
def PartitionConstraints.reads (payload : List (String × Json)) : List Read :=
  readNumber py (Json.getD payload "minimum_memory_headroom_ratio" (.number 0)) .zero fun headroom =>
  if 1 ≤ headroom then [] else [.number (Json.get payload "max_end_to_end_latency_ms")]

/-- What `FederatedRoundPlan.from_dict` reads. -/
def FederatedRoundPlan.reads (rt : Runtime) (payload : Json) : List Read :=
  let py := rt.toPython
  readObject payload fun payload =>
  readRecords (ModelLayer.fromDict py) (ModelLayer.reads py) (Json.get payload "layers") fun layers =>
  readTexts py (Json.get payload "participants") fun participants =>
  readRecords (ResourceDevice.fromDict py) (ResourceDevice.reads py) (Json.get payload "devices")
    fun devices =>
  readRecords (NetworkLink.fromDict py) (NetworkLink.reads py) (Json.get payload "network_links")
    fun links =>
  reading (checks rt layers participants devices links) fun _ =>
  readText py (Json.get payload "job_id") fun _ =>
  readText py (Json.get payload "model_id") fun _ =>
  readObject (Json.get payload "execution_mode") fun mode =>
  ApprovedExecutionMode.reads py mode ++ reading (ApprovedExecutionMode.fromDict py mode) fun _ =>
  readObject (Json.getD payload "constraints" (.obj [])) (PartitionConstraints.reads py)

/-- What `ModelBlock.from_dict` reads. -/
def ModelBlock.reads (payload : List (String × Json)) : List Read :=
  readTexts py (Json.get payload "layer_names") fun layerNames =>
  if layerNames = [] ∨ ¬layerNames.Nodup then [] else [.text (Json.get payload "block_id")]

/-- What `ModelStructureProfile.from_dict` reads. -/
def ModelStructureProfile.reads (payload : List (String × Json)) : List Read :=
  readRecords (ModelBlock.fromDict py) (ModelBlock.reads py) (Json.get payload "blocks") fun blocks =>
  if blocks = [] ∨ ¬(blocks.map (·.blockId)).Nodup ∨ ¬(blocks.flatMap (·.layerNames)).Nodup then []
  else
    readText py (Json.get payload "profile_id") fun _ =>
    readText py (Json.get payload "model_id") fun _ =>
    [.text (Json.get payload "model_version")]

/-- What `ModelRegistryContext.from_dict` reads. -/
def ModelRegistryContext.reads (payload : List (String × Json)) : List Read :=
  readText py (Json.get payload "registry_id") fun _ =>
  readText py (Json.get payload "registry_version") fun _ =>
  readText py (Json.get payload "model_id") fun _ =>
  [.text (Json.get payload "approved_model_version")]

/-- What `WorkloadForecast.from_dict` reads. -/
def WorkloadForecast.reads (payload : List (String × Json)) : List Read :=
  readNumber py (Json.get payload "uncertainty") .zero fun uncertainty =>
  if 1 < uncertainty then [] else
  readText py (Json.get payload "forecast_id") fun _ =>
  readInt (Json.get payload "horizon_seconds") 1 <|
  readNumber py (Json.get payload "expected_request_rate") .zero fun _ =>
  readInt (Json.get payload "expected_batch_size") 1 <|
  readInt (Json.get payload "expected_sequence_length") 1
  [.text (Json.get payload "source")]

/-- What `PartitionSystemContext.from_dict` reads. -/
def PartitionSystemContext.reads (payload : List (String × Json)) : List Read :=
  readRecords (ResourceDevice.fromDict py) (ResourceDevice.reads py) (Json.get payload "devices")
    fun devices =>
  if devices = [] then [] else
  if ¬(devices.map (·.deviceId)).Nodup then [] else
  readRecords (NetworkLink.fromDict py) (NetworkLink.reads py) (Json.get payload "network_links")
    fun links =>
  if ¬(links.map (·.arrow)).Nodup then [] else
  if links.any fun l => l.sourceDevice ∉ devices.map (·.deviceId) ∨
      l.targetDevice ∉ devices.map (·.deviceId) then [] else
  readObject (Json.get payload "model_structure_profile") fun profile =>
  ModelStructureProfile.reads py profile ++ reading (ModelStructureProfile.fromDict py profile)
    fun profile =>
  readObject (Json.get payload "model_registry_context") fun registry =>
  ModelRegistryContext.reads py registry ++ reading (ModelRegistryContext.fromDict py registry)
    fun registry =>
  if profile.modelId ≠ registry.modelId ∨ profile.modelVersion ≠ registry.approvedModelVersion then []
  else
    readText py (Json.get payload "snapshot_id") fun _ =>
    readText py (Json.get payload "snapshot_version") fun _ =>
    readText py (Json.get payload "collected_at") fun _ =>
    readObject (Json.get payload "workload_forecast") (WorkloadForecast.reads py)

/-- What `CoordinationPlanEnvelope.from_dict` reads. -/
def CoordinationPlanEnvelope.reads (payload : List (String × Json)) : List Read :=
  reading (requireTrue (Json.get payload "approved") .type) fun _ =>
  readText py (Json.get payload "plan_type") fun planType =>
  if planType ∉ ["training", "inference"] then [] else
  readStripped py (Json.get payload "approved_by") fun approvedBy =>
  readStripped py (Json.get payload "approval_ref") fun approvalRef =>
  if approvedBy = "" ∨ approvalRef = "" then [] else
  readText py (Json.get payload "plan_id") fun _ =>
  readText py (Json.get payload "job_id") fun _ =>
  readText py (Json.get payload "approved_at") fun _ =>
  [.text (Json.get payload "schema_version")]

/-- `_participants`, and what is read after it. -/
def readParticipants (payload : List (String × Json)) (after : List Read) : List Read :=
  readTexts py (Json.get payload "participants") (fun _ => []) ++
    reading (participantsFromDict py payload) fun _ => after

/-- What `TrainingCoordinationPlan.from_dict` reads. -/
def TrainingCoordinationPlan.reads (payload : List (String × Json)) : List Read :=
  readText py (Json.get payload "model_id") fun _ =>
  readText py (Json.get payload "approved_model_version") fun _ =>
  readText py (Json.get payload "coordination_mode") fun _ =>
  readParticipants py payload <|
  readObject (Json.get payload "round_policy") fun _ =>
  readObject (Json.get payload "aggregation_policy") fun _ =>
  readObject (Json.get payload "synchronization_policy") fun _ =>
  readText py (Json.get payload "training_objective") fun _ =>
  readObject (Json.get payload "resource_budget") fun _ =>
  readObject (Json.get payload "constraints") (PartitionConstraints.reads py)

/-- What `InferenceCoordinationPlan.from_dict` reads. -/
def InferenceCoordinationPlan.reads (payload : List (String × Json)) : List Read :=
  readNumber py (Json.get payload "availability_target") .zero fun availability =>
  if 1 < availability then [] else
  readText py (Json.get payload "model_id") fun _ =>
  readText py (Json.get payload "approved_model_version") fun _ =>
  readText py (Json.get payload "service_objective") fun _ =>
  readNumber py (Json.get payload "latency_slo_ms") .millionth fun _ =>
  readNumber py (Json.get payload "minimum_throughput_rps") .millionth fun _ =>
  readObject (Json.get payload "traffic_policy") fun _ =>
  readObject (Json.get payload "concurrency_policy") fun _ =>
  readParticipants py payload <|
  readObject (Json.get payload "resource_budget") fun _ =>
  readObject (Json.get payload "constraints") (PartitionConstraints.reads py)

/-- What the plan of a request reads. -/
def CoordinationPlan.reads (planType : String) (payload : List (String × Json)) : List Read :=
  if planType = "training" then TrainingCoordinationPlan.reads py payload
  else InferenceCoordinationPlan.reads py payload

/-- What `PartitionPlanningRequest.from_dict` reads. -/
def PartitionPlanningRequest.reads (payload : Json) : List Read :=
  readObject payload fun payload =>
  readObject (Json.get payload "coordination_plan") fun coordinationPlan =>
  CoordinationPlanEnvelope.reads py coordinationPlan ++
    reading (CoordinationPlanEnvelope.fromDict py coordinationPlan) fun envelope =>
  readObject (Json.get coordinationPlan "payload") fun planPayload =>
  CoordinationPlan.reads py envelope.planType planPayload ++
    reading (CoordinationPlan.fromDict py envelope.planType planPayload) fun _ =>
  readObject (Json.get payload "system_context") fun context =>
  PartitionSystemContext.reads py context ++
    reading (PartitionSystemContext.fromDict py (.obj context)) fun _ =>
  readObject (Json.get payload "approved_execution_mode") (ApprovedExecutionMode.reads py)

/-- What one of `candidate_participants` reads. -/
def FederatedParticipantV04.reads (item : Json) : List Read :=
  readObject item fun fields => [.text (Json.get fields "client_id")]

/-- What `FederatedCoordinationPlanV04.from_dict` reads. -/
def FederatedCoordinationPlanV04.reads (upper : String → String) (payload : Json) : List Read :=
  readObject payload fun payload =>
  readText py (Json.get payload "schema_version") fun schemaVersion =>
  if schemaVersion ≠ supportedSchemaVersion then [] else
  readText py (Json.get payload "task_type") fun taskType =>
  let modeField := if taskType = "federated_training" then "learning_mode" else "inference_mode"
  if taskType ∉ ["federated_training", "distributed_inference"] then [] else
  readObject (Json.get payload modeField) fun modePayload =>
  readText py (Json.get modePayload "selected") fun selected =>
  if modeMapping taskType (upper selected) = none then [] else
  (readArray (Json.getD modePayload "fallback_order" (.arr [])) fun items =>
    readItems (fun item => contract.text py item "") (fun item => [.text item]) items) ++
    reading (fallbackOrderFromDict py upper modePayload modeField) fun _ =>
  (readArray (Json.get payload "candidate_participants") fun items =>
    readItems (FederatedParticipantV04.fromDict py) FederatedParticipantV04.reads items) ++
    reading (participantsFromDict py payload) fun _ =>
  readObject (Json.get payload "model_ref") fun modelRef =>
  readText py (pyOr (Json.get payload "inference_plan_id") (Json.get payload "round_plan_id"))
    fun _ =>
  readText py (Json.get payload "job_id") fun _ =>
  readText py (Json.get payload "session_id") fun _ =>
  readText py (Json.get modelRef "model_id") fun _ =>
  [.text (Json.get modelRef "version")]

end Reading

/-! ### The helpers -/

section Helpers

variable {d : Decoder} {py : Python} {field : String} {α β : Type}

theorem raises_rejectIf {p : Prop} [Decidable p] {e : PartitionError} (he : e.IsContract) :
    RaisesContract (rejectIf p e) := by
  unfold rejectIf
  split_ifs
  · exact raises_error.2 he
  · exact raises_ok _

theorem raises_requireTrue {value : Json} {e : PartitionError} (he : e.IsContract) :
    RaisesContract (requireTrue value e) := by
  unfold requireTrue
  split
  · exact raises_ok _
  · exact raises_error.2 he

theorem raises_requireUnique [DecidableEq α] {shown : α → String} {values : List α} {code : String} :
    RaisesContract (requireUnique shown values code) := by
  unfold requireUnique
  split
  · exact raises_error.2 trivial
  · exact raises_ok _

theorem raises_rejectAny {items : List α} {bad : α → Bool} {error : α → PartitionError}
    (he : ∀ a, (error a).IsContract) : RaisesContract (rejectAny items bad error) := by
  unfold rejectAny
  split
  · exact raises_error.2 (he _)
  · exact raises_ok _

theorem raises_mapping (value : Json) : RaisesContract (d.mapping value field) := by
  unfold Decoder.mapping
  split
  · exact raises_ok _
  · exact raises_error.2 trivial

theorem raises_int (value : Json) (minimum : ℤ) : RaisesContract (d.int value field minimum) := by
  unfold Decoder.int
  split
  · split_ifs
    · exact raises_ok _
    · exact raises_error.2 trivial
  · exact raises_error.2 trivial

theorem raises_intOfAtLeast (value : Json) (minimum : ℤ) :
    RaisesContract (d.intOfAtLeast value field minimum) := by
  unfold Decoder.intOfAtLeast
  split
  · split_ifs
    · exact raises_ok _
    · exact raises_error.2 trivial
  · exact raises_error.2 trivial

theorem covers_stripped (value : Json) : CoversReads (stripped py value) [.text value] := by
  show RaisesContract (stripped py value) ↔ _
  unfold stripped
  rw [List.forall_mem_singleton, Read.Converts]
  rcases hlong : value.hasLongInteger with _ | _
  · exact ⟨fun _ => rfl, fun _ => raises_ok _⟩
  · exact ⟨fun h => (raises_error.1 h).elim, fun h => by cases h⟩

theorem covers_text (value : Json) : CoversReads (d.text py value field) [.text value] := by
  refine (covers_stripped value).last fun s _ => ?_
  split_ifs
  · exact raises_error.2 trivial
  · exact raises_ok _

theorem raises_atLeast {minimum : Minimum} {q : ℚ} {message : String} :
    RaisesContract (if h : minimum.value ≤ q then
      (.ok ⟨q, h⟩ : Except PartitionError {q : ℚ // minimum.value ≤ q}) else d.fail message) := by
  split_ifs
  · exact raises_ok _
  · exact raises_error.2 trivial

theorem covers_float (value : Json) (minimum : Minimum) :
    CoversReads (d.float py value field minimum) [.number value] := by
  have hnumber : ∀ x, pyFloat py value = .ok x → (∀ i, value ≠ .int i) →
      CoversReads (d.float py value field minimum) [.number value] := by
    intro x hx hint
    show RaisesContract _ ↔ _
    rw [List.forall_mem_singleton, Read.Converts]
    refine ⟨fun _ i hi => absurd hi (hint i), fun _ => ?_⟩
    unfold Decoder.float
    split
    · exact raises_error.2 trivial
    · rw [hx]
      rcases x with _ | (q | _ | _ | _)
      case some.finite => exact raises_atLeast
      all_goals exact raises_error.2 trivial
  rcases hvalue : value with _ | b | i | x | s | items | fields
  case int =>
    show RaisesContract _ ↔ _
    rw [List.forall_mem_singleton, Read.Converts]
    rcases hi : Json.floatOfInt i with _ | q
    · simp only [Decoder.float, pyFloat, hi]
      exact ⟨fun h => (raises_error.1 h).elim, fun h => absurd hi (h i rfl)⟩
    · simp only [Decoder.float, pyFloat, hi]
      refine ⟨fun _ j hj => ?_, fun _ => raises_atLeast⟩
      cases hj
      simp [hi]
  all_goals
    subst hvalue
    exact hnumber _ rfl fun i hi => by cases hi

/-! What is accepted does not depend on the names in the messages. -/

theorem text_eq_ok_iff {value : Json} {s : {s : String // Text.Proper s}} :
    d.text py value field = .ok s ↔ contract.text py value "" = .ok s := by
  unfold Decoder.text
  refine bind_eq_ok_congr (fun _ => Iff.rfl) fun t s => ?_
  by_cases ht : t.1 = ""
  · simp only [dif_pos ht, Decoder.fail]
    simp
  · simp only [dif_neg ht]

theorem float_eq_ok_iff {value : Json} {minimum : Minimum} {q : {q : ℚ // minimum.value ≤ q}} :
    d.float py value field minimum = .ok q ↔ contract.float py value "" minimum = .ok q := by
  unfold Decoder.float
  split
  · simp [Decoder.fail]
  · refine bind_eq_ok_congr (fun _ => Iff.rfl) fun x q => ?_
    split
    · simp [Decoder.fail]
    · split_ifs
      · exact Iff.rfl
      · simp [Decoder.fail]
    · simp [Decoder.fail]

theorem int_eq_ok_iff {value : Json} {minimum : ℤ} {i : {i : ℤ // minimum ≤ i}} :
    d.intOfAtLeast value field minimum = .ok i ↔ contract.int value "" minimum = .ok i := by
  unfold Decoder.intOfAtLeast Decoder.int
  split
  · split_ifs
    · exact Iff.rfl
    · simp [Decoder.fail]
  · simp [Decoder.fail]

theorem mapping_eq_ok_iff {value : Json} {fields : List (String × Json)} :
    d.mapping value field = .ok fields ↔ contract.mapping value "" = .ok fields := by
  unfold Decoder.mapping
  split
  · exact Iff.rfl
  · simp [Decoder.fail]

theorem texts_eq_ok_iff {items : List Json} {l : {l : List String // ∀ s ∈ l, Text.Proper s}} :
    d.texts py items field = .ok l ↔ contract.texts py items "" = .ok l :=
  bind_eq_ok_congr (fun _ => mapM_eq_ok_congr fun _ _ => text_eq_ok_iff) fun _ _ => Iff.rfl

theorem records_eq_ok_iff {fromDict : List (String × Json) → Except PartitionError α}
    {items : List Json} {l : List α} :
    d.records fromDict items field = .ok l ↔ contract.records fromDict items "" = .ok l :=
  mapM_eq_ok_congr fun _ _ => bind_eq_ok_congr (fun _ => mapping_eq_ok_iff) fun _ _ => Iff.rfl

/-! ### The steps of a decoder -/

theorem covers_readText {value : Json} {f : {s : String // Text.Proper s} → Except PartitionError β}
    {after : String → List Read} (h : ∀ s, CoversReads (f s) (after s.1)) :
    CoversReads (d.text py value field >>= f) (readText py value after) := by
  have htext : CoversReads (d.text py value field) [.text value] := covers_text value
  have hbind := htext.bind fun s _ => h s
  rwa [reading_congr fun _ => text_eq_ok_iff] at hbind

theorem covers_readNumber {value : Json} {minimum : Minimum}
    {f : {q : ℚ // minimum.value ≤ q} → Except PartitionError β} {after : ℚ → List Read}
    (h : ∀ q, CoversReads (f q) (after q.1)) :
    CoversReads (d.float py value field minimum >>= f) (readNumber py value minimum after) := by
  have hfloat : CoversReads (d.float py value field minimum) [.number value] :=
    covers_float value minimum
  have hbind := hfloat.bind fun q _ => h q
  rwa [reading_congr fun _ => float_eq_ok_iff] at hbind

theorem covers_readInt {value : Json} {minimum : ℤ}
    {f : {i : ℤ // minimum ≤ i} → Except PartitionError β} {after : List Read}
    (h : ∀ i, CoversReads (f i) after) :
    CoversReads (d.intOfAtLeast value field minimum >>= f) (readInt value minimum after) := by
  have hint : RaisesContract (d.intOfAtLeast value field minimum) :=
    raises_intOfAtLeast value minimum
  have hstep := Covers.step hint fun i _ => h i
  rwa [reading_congr fun _ => int_eq_ok_iff] at hstep

theorem covers_readObject {value : Json} {f : List (String × Json) → Except PartitionError β}
    {after : List (String × Json) → List Read} (h : ∀ fs, CoversReads (f fs) (after fs)) :
    CoversReads (d.mapping value field >>= f) (readObject value after) := by
  rcases value with _ | _ | _ | _ | _ | _ | fs
  case obj => exact h fs
  all_goals exact covers_error trivial

theorem covers_readArray {value : Json} {f : List Json → Except PartitionError β}
    {after : List Json → List Read} (h : ∀ items, CoversReads (f items) (after items)) :
    CoversReads (d.sequence value field >>= f) (readArray value after) := by
  rcases value with _ | _ | _ | _ | _ | items | _
  case arr => exact h items
  all_goals exact covers_error trivial

theorem covers_readTexts {value : Json} {field' : String}
    {f : {l : List String // ∀ s ∈ l, Text.Proper s} → Except PartitionError β}
    {after : List String → List Read} (h : ∀ l, CoversReads (f l) (after l.1)) :
    CoversReads (d.sequence value field >>= fun items => d.texts py items field' >>= f)
      (readTexts py value after) := by
  refine covers_readArray fun items => ?_
  have htexts : CoversReads (d.texts py items field')
      (readItems (fun item => d.text py item field') (fun item => [.text item]) items) :=
    (Covers.mapM (fun item => covers_text item) items).last fun _ _ => raises_ok _
  have hbind := htexts.bind fun l _ => h l
  rwa [reading_congr fun _ => texts_eq_ok_iff, readItems_congr fun _ =>
    exists_congr fun _ => text_eq_ok_iff] at hbind

theorem covers_readRecords {value : Json} {field' : String} {d' : Decoder}
    {fromDict : List (String × Json) → Except PartitionError α}
    {reads : List (String × Json) → List Read} (hrecord : ∀ fs, CoversReads (fromDict fs) (reads fs))
    {f : List α → Except PartitionError β} {after : List α → List Read}
    (h : ∀ l, CoversReads (f l) (after l)) :
    CoversReads (d.sequence value field >>= fun items => d'.records fromDict items field' >>= f)
      (readRecords fromDict reads value after) := by
  refine covers_readArray fun items => ?_
  have hrecords : CoversReads (d'.records fromDict items field')
      (readItems (fun item => do fromDict (← d'.mapping item field'))
        (fun item => readObject item reads) items) :=
    Covers.mapM (fun item => covers_readObject hrecord) items
  have hbind := hrecords.bind fun l _ => h l
  rwa [reading_congr fun _ => records_eq_ok_iff, readItems_congr fun _ =>
    exists_congr fun _ => bind_eq_ok_congr (fun _ => mapping_eq_ok_iff) fun _ _ => Iff.rfl] at hbind

theorem covers_requireTrue {value : Json} {e : PartitionError} (he : e.IsContract)
    {f : Unit → Except PartitionError β} {rs : List Read} (h : CoversReads (f ()) rs) :
    CoversReads (requireTrue value e >>= f) (reading (requireTrue value .type) fun _ => rs) := by
  have htrue : RaisesContract (requireTrue value e) := raises_requireTrue he
  have hstep := Covers.step htrue fun _ _ => h
  rwa [reading_congr (y := requireTrue value .type) fun _ => by
    unfold requireTrue
    split
    · exact Iff.rfl
    · simp] at hstep

theorem covers_readStripped {value : Json}
    {f : {s : String // s ≠ "" → Text.Proper s} → Except PartitionError β} {after : String → List Read}
    (h : ∀ s, CoversReads (f s) (after s.1)) :
    CoversReads (stripped py value >>= f) (readStripped py value after) :=
  (covers_stripped value).bind fun s _ => h s

theorem covers_rejectIf {p : Prop} [Decidable p] {e : PartitionError} (he : e.IsContract)
    {f : Unit → Except PartitionError β} {rs : List Read} (h : CoversReads (f ()) rs) :
    CoversReads (rejectIf p e >>= f) (if p then [] else rs) := by
  unfold rejectIf
  by_cases hp : p
  · rw [if_pos hp, if_pos hp]
    exact covers_error he
  · rw [if_neg hp, if_neg hp]
    exact h

theorem covers_rejectAny {items : List α} {bad : α → Bool} {error : α → PartitionError}
    (he : ∀ a, (error a).IsContract) {f : Unit → Except PartitionError β} {rs : List Read}
    (h : CoversReads (f ()) rs) :
    CoversReads (rejectAny items bad error >>= f) (if items.any bad then [] else rs) := by
  unfold rejectAny
  rcases hfind : items.find? bad with _ | a
  · have hany : items.any bad = false := by
      rw [List.any_eq_false]
      exact List.find?_eq_none.1 hfind
    rw [hany]
    exact h
  · have hany : items.any bad = true :=
      List.any_eq_true.2 ⟨a, List.mem_of_find?_eq_some hfind, List.find?_some hfind⟩
    rw [hany]
    exact covers_error (he a)

theorem covers_map {x : Except PartitionError α} {rs : List Read} (f : α → β)
    (h : CoversReads x rs) : CoversReads (f <$> x) rs := by
  rcases x with e | a
  · have hraises : RaisesContract (f <$> (.error e : Except PartitionError α)) ↔
        RaisesContract (.error e : Except PartitionError α) := raises_error.trans raises_error.symm
    exact hraises.trans h
  · exact ⟨fun _ => h.1 (raises_ok a), fun _ => raises_ok _⟩

end Helpers

/-! ### Round plans -/

section RoundPlan

variable {py : Python}

theorem ApprovedExecutionMode.covers (payload : List (String × Json)) :
    CoversReads (fromDict py payload) (reads py payload) := by
  refine covers_readText fun name => covers_requireTrue (by trivial) ?_
  refine covers_readStripped fun approvedBy => (covers_stripped _).last fun approvalRef _ => ?_
  split_ifs
  · exact raises_error.2 trivial
  · exact raises_ok _

theorem ModelLayer.covers (payload : List (String × Json)) :
    CoversReads (fromDict py payload) (reads py payload) :=
  covers_readText fun _ => (covers_float _ _).last fun _ _ =>
    (raises_int _ _).bind fun _ => (raises_int _ _).bind fun _ => (raises_int _ _).bind fun _ =>
      raises_ok _

theorem ResourceDevice.covers (payload : List (String × Json)) :
    CoversReads (fromDict py payload) (reads py payload) := by
  refine covers_readText fun deviceId => covers_readText fun deviceType =>
    (covers_float _ _).last fun computeUnits _ => ?_
  refine (raises_int _ _).bind fun capacity => (raises_int _ _).bind fun available => ?_
  split_ifs
  · exact raises_ok _
  · exact raises_error.2 trivial

theorem NetworkLink.covers (payload : List (String × Json)) :
    CoversReads (fromDict py payload) (reads py payload) :=
  covers_readText fun _ => covers_readText fun _ => covers_readNumber fun _ =>
    (covers_float _ _).last fun _ _ => raises_ok _

/-- A value that may be `None` is read as a number: `None` is none that fails. -/
theorem covers_optional_float {value : Json} {field : String} {minimum : Minimum} :
    CoversReads (PartitionConstraints.optional
      (fun value => contract.float py value field minimum) value) [.number value] := by
  rcases value with _ | b | i | x | s | items | fields
  case null =>
    refine ⟨fun _ r hr => ?_, fun _ => raises_ok _⟩
    rw [List.mem_singleton.1 hr]
    intro i hi
    cases hi
  all_goals exact (covers_float _ _).last fun _ _ => raises_ok _

theorem raises_optional_int {value : Json} {field : String} {minimum : ℤ} :
    RaisesContract (PartitionConstraints.optional
      (fun value => contract.int value field minimum) value) := by
  rcases value with _ | b | i | x | s | items | fields
  case null => exact raises_ok _
  all_goals exact (raises_int _ _).bind fun _ => raises_ok _

theorem PartitionConstraints.covers (payload : List (String × Json)) :
    CoversReads (fromDict py payload) (reads py payload) := by
  refine covers_readNumber fun headroom => ?_
  by_cases hone : 1 ≤ headroom.1
  · simp only [dif_pos hone, if_pos hone]
    exact covers_error trivial
  · simp only [dif_neg hone, if_neg hone]
    exact covers_optional_float.last fun _ _ => raises_optional_int.bind fun _ => raises_ok _

theorem FederatedRoundPlan.raises_checks {rt : Runtime} {layers : List ModelLayer}
    {participants : List String} {devices : List ResourceDevice} {links : List NetworkLink} :
    RaisesContract (checks rt layers participants devices links) :=
  (raises_rejectIf (by trivial)).bind fun _ => (raises_rejectIf (by trivial)).bind fun _ =>
    (raises_rejectIf (by trivial)).bind fun _ => raises_requireUnique.bind fun _ =>
      raises_requireUnique.bind fun _ => raises_requireUnique.bind fun _ =>
        raises_requireUnique.bind fun _ => (raises_rejectAny fun _ => by trivial).bind fun _ =>
          (raises_rejectAny fun _ => by trivial).bind fun _ => raises_rejectAny fun _ => by trivial

/-- **A round plan** is decoded or rejected exactly when everything that is read converts. -/
theorem FederatedRoundPlan.covers (rt : Runtime) (payload : Json) :
    CoversReads (fromDict rt payload) (reads rt payload) := by
  refine covers_readObject fun payload => ?_
  refine covers_readRecords ModelLayer.covers fun layers => ?_
  refine covers_readTexts fun participants => ?_
  refine covers_readRecords ResourceDevice.covers fun devices => ?_
  refine covers_readRecords NetworkLink.covers fun links => ?_
  refine Covers.step raises_checks fun _ _ => ?_
  refine covers_readText fun jobId => covers_readText fun modelId => ?_
  refine covers_readObject fun mode => (ApprovedExecutionMode.covers mode).bind fun _ _ => ?_
  exact covers_readObject fun constraints => (PartitionConstraints.covers constraints).last
    fun _ _ => raises_ok _

end RoundPlan

/-! ### Planning requests -/

section Requests

variable {py : Python}

theorem ModelBlock.covers (payload : List (String × Json)) :
    CoversReads (fromDict py payload) (reads py payload) := by
  refine covers_readTexts fun layerNames => ?_
  by_cases hne : layerNames.1 = []
  · simp only [dif_pos hne, if_pos (Or.inl hne)]
    exact covers_error trivial
  by_cases hnodup : ¬layerNames.1.Nodup
  · simp only [dif_neg hne, dif_pos hnodup, if_pos (Or.inr hnodup)]
    exact covers_error trivial
  simp only [dif_neg hne, dif_neg hnodup, if_neg (not_or.2 ⟨hne, hnodup⟩)]
  exact (covers_text _).last fun _ _ => (raises_intOfAtLeast _ _).bind fun _ =>
    (raises_intOfAtLeast _ _).bind fun _ => (raises_intOfAtLeast _ _).bind fun _ => raises_ok _

theorem ModelStructureProfile.covers (payload : List (String × Json)) :
    CoversReads (fromDict py payload) (reads py payload) := by
  refine covers_readRecords ModelBlock.covers fun blocks => ?_
  by_cases hne : blocks = []
  · simp only [dif_pos hne, if_pos (Or.inl hne)]
    exact covers_error trivial
  by_cases hids : ¬(blocks.map (·.blockId)).Nodup
  · simp only [dif_neg hne, dif_pos hids, if_pos (Or.inr (Or.inl hids))]
    exact covers_error trivial
  by_cases hnames : ¬(blocks.flatMap (·.layerNames)).Nodup
  · simp only [dif_neg hne, dif_neg hids, dif_pos hnames, if_pos (Or.inr (Or.inr hnames))]
    exact covers_error trivial
  simp only [dif_neg hne, dif_neg hids, dif_neg hnames,
    if_neg (not_or.2 ⟨hne, not_or.2 ⟨hids, hnames⟩⟩)]
  exact covers_readText fun _ => covers_readText fun _ => (covers_text _).last fun _ _ => raises_ok _

theorem ModelRegistryContext.covers (payload : List (String × Json)) :
    CoversReads (fromDict py payload) (reads py payload) :=
  covers_readText fun _ => covers_readText fun _ => covers_readText fun _ =>
    (covers_text _).last fun _ _ => raises_ok _

theorem WorkloadForecast.covers (payload : List (String × Json)) :
    CoversReads (fromDict py payload) (reads py payload) := by
  refine covers_readNumber fun uncertainty => ?_
  by_cases hone : 1 < uncertainty.1
  · simp only [dif_pos hone, if_pos hone]
    exact covers_error trivial
  simp only [dif_neg hone, if_neg hone]
  refine covers_readText fun forecastId => covers_readInt fun horizon => ?_
  refine covers_readNumber fun rate => covers_readInt fun batch => covers_readInt fun length => ?_
  exact (covers_text _).last fun _ _ => raises_ok _

theorem covers_forecast (value : Json) :
    CoversReads (PartitionSystemContext.forecastFromDict py value)
      (readObject value (WorkloadForecast.reads py)) := by
  rcases value with _ | b | i | x | s | items | fields
  case null => exact covers_ok none
  case obj => exact (WorkloadForecast.covers fields).last fun _ _ => raises_ok _
  all_goals exact covers_error trivial

theorem PartitionSystemContext.covers (payload : List (String × Json)) :
    CoversReads (fromDict py (.obj payload)) (reads py payload) := by
  show CoversReads (snapshot.mapping (.obj payload) "system_context" >>= _) _
  rw [Decoder.mapping_obj]
  refine covers_readRecords ResourceDevice.covers fun devices => ?_
  refine covers_rejectIf (by trivial) (covers_rejectIf (by trivial) ?_)
  refine covers_readRecords NetworkLink.covers fun links => ?_
  refine covers_rejectIf (by trivial) (covers_rejectAny (fun _ => by trivial) ?_)
  refine covers_readObject fun profile => (ModelStructureProfile.covers profile).bind
    fun profile _ => ?_
  refine covers_readObject fun registry => (ModelRegistryContext.covers registry).bind
    fun registry _ => ?_
  refine covers_rejectIf (by trivial) ?_
  refine covers_readText fun snapshotId => covers_readText fun snapshotVersion =>
    covers_readText fun collectedAt => ?_
  exact (covers_forecast _).last fun _ _ => raises_ok _

theorem CoordinationPlanEnvelope.covers (payload : List (String × Json)) :
    CoversReads (fromDict py payload) (reads py payload) := by
  refine covers_requireTrue (by trivial) (covers_readText fun planType => ?_)
  refine covers_rejectIf (by trivial) ?_
  refine covers_readStripped fun approvedBy => covers_readStripped fun approvalRef => ?_
  refine covers_rejectIf (by trivial) ?_
  exact covers_readText fun _ => covers_readText fun _ => covers_readText fun _ =>
    (covers_text _).last fun _ _ => raises_ok _

variable {payload : List (String × Json)} {β : Type}

theorem covers_payloadText {field : String} {f : String → Except PartitionError β}
    {after : String → List Read} (h : ∀ s, CoversReads (f s) (after s)) :
    CoversReads (payloadText py payload field >>= f) (readText py (Json.get payload field) after) := by
  have hassoc : (payloadText py payload field >>= f) =
      (contract.text py (Json.get payload field) (payloadPath field) >>= fun s => f s.1) := by
    unfold payloadText
    rcases contract.text py (Json.get payload field) (payloadPath field) with e | s <;> rfl
  rw [hassoc]
  exact covers_readText fun s => h s.1

theorem covers_participants {f : List String → Except PartitionError β} {after : List Read}
    (h : ∀ l, CoversReads (f l) after) :
    CoversReads (participantsFromDict py payload >>= f) (readParticipants py payload after) := by
  have hparticipants : CoversReads (participantsFromDict py payload)
      (readTexts py (Json.get payload "participants") fun _ => []) := by
    refine covers_readTexts fun participants => covers_nil ?_
    exact (raises_rejectIf (by trivial)).bind fun _ => raises_ok _
  exact hparticipants.bind fun l _ => h l

theorem TrainingCoordinationPlan.covers (payload : List (String × Json)) :
    CoversReads (fromDict py payload) (reads py payload) := by
  refine covers_payloadText fun modelId => covers_payloadText fun version => ?_
  refine covers_payloadText fun mode => covers_participants fun participants => ?_
  refine covers_readObject fun round => covers_readObject fun aggregation => ?_
  refine covers_readObject fun synchronization => covers_payloadText fun objective => ?_
  refine covers_readObject fun budget => covers_readObject fun constraints => ?_
  exact (PartitionConstraints.covers constraints).last fun _ _ => raises_ok _

theorem InferenceCoordinationPlan.covers (payload : List (String × Json)) :
    CoversReads (fromDict py payload) (reads py payload) := by
  refine covers_readNumber fun availability => covers_rejectIf (by trivial) ?_
  refine covers_payloadText fun modelId => covers_payloadText fun version => ?_
  refine covers_payloadText fun objective => covers_readNumber fun latency => ?_
  refine covers_readNumber fun throughput => covers_readObject fun traffic => ?_
  refine covers_readObject fun concurrency => covers_participants fun participants => ?_
  refine covers_readObject fun budget => covers_readObject fun constraints => ?_
  exact (PartitionConstraints.covers constraints).last fun _ _ => raises_ok _

theorem CoordinationPlan.covers (planType : String) (payload : List (String × Json)) :
    CoversReads (fromDict py planType payload) (reads py planType payload) :=
  Covers.ite (fun _ => covers_map _ (TrainingCoordinationPlan.covers payload))
    fun _ => covers_map _ (InferenceCoordinationPlan.covers payload)

theorem covers_mode (value : Json) :
    CoversReads (PartitionPlanningRequest.modeFromDict py value)
      (readObject value (ApprovedExecutionMode.reads py)) := by
  rcases value with _ | b | i | x | s | items | fields
  case obj => exact ApprovedExecutionMode.covers fields
  all_goals exact covers_error trivial

/-- **A planning request** is decoded or rejected exactly when everything that is read converts. -/
theorem PartitionPlanningRequest.covers (payload : Json) :
    CoversReads (fromDict py payload) (reads py payload) := by
  refine covers_readObject fun payload => covers_readObject fun coordinationPlan => ?_
  refine (CoordinationPlanEnvelope.covers coordinationPlan).bind fun envelope _ => ?_
  refine covers_readObject fun planPayload => ?_
  refine (CoordinationPlan.covers envelope.planType planPayload).bind fun plan _ => ?_
  refine covers_readObject fun context => ?_
  refine (PartitionSystemContext.covers context).bind fun context _ => ?_
  exact (covers_mode _).last fun _ _ => (raises_rejectIf (by trivial)).bind fun _ => raises_ok _

end Requests

/-! ### Coordination plans -/

section Coordination

variable {py : Python} {upper : String → String}

theorem FederatedParticipantV04.covers (item : Json) :
    CoversReads (fromDict py item) (reads item) := by
  refine covers_readObject fun fields => (covers_text _).last fun _ _ => ?_
  exact (raises_intOfAtLeast _ _).bind fun _ => raises_ok _

theorem FederatedCoordinationPlanV04.covers_version (value : Json) (field : String) :
    CoversReads (version py value field) [.text value] := by
  rcases value with _ | b | i | x | s | items | fields
  case bool =>
    refine ⟨fun _ r hr => ?_, fun _ => raises_error.2 trivial⟩
    rw [List.mem_singleton.1 hr]
    rfl
  all_goals exact covers_text _

theorem FederatedCoordinationPlanV04.covers_fallbackOrder (modePayload : Policy)
    (modeField : String) : CoversReads (fallbackOrderFromDict py upper modePayload modeField)
      (readArray (Json.getD modePayload "fallback_order" (.arr [])) fun items =>
        readItems (fun item => contract.text py item "") (fun item => [.text item]) items) := by
  refine covers_readArray fun items => ?_
  have hitems : CoversReads (items.mapM fun item => do
      return upper (← federated.text py item s!"{modeField}.fallback_order[]").1)
      (readItems (fun item => do
        return upper (← federated.text py item s!"{modeField}.fallback_order[]").1)
        (fun item => [.text item]) items) :=
    Covers.mapM (fun item => (covers_text item).last fun _ _ => raises_ok _) items
  rwa [readItems_congr (g := fun item => contract.text py item "") fun item => ?_] at hitems
  rcases htext : federated.text py item s!"{modeField}.fallback_order[]" with e | s
  · have hnone : ¬∃ c, contract.text py item "" = .ok c := by
      rintro ⟨c, hc⟩
      rw [text_eq_ok_iff.2 hc] at htext
      cases htext
    exact ⟨fun ⟨_, hb⟩ => (by cases hb), fun h => absurd h hnone⟩
  · exact ⟨fun _ => ⟨s, text_eq_ok_iff.1 htext⟩, fun _ => ⟨upper s.1, rfl⟩⟩

theorem FederatedCoordinationPlanV04.covers_participants (payload : Policy) :
    CoversReads (participantsFromDict py payload)
      (readArray (Json.get payload "candidate_participants") fun items =>
        readItems (FederatedParticipantV04.fromDict py) FederatedParticipantV04.reads items) := by
  refine covers_readArray fun items => ?_
  refine (Covers.mapM FederatedParticipantV04.covers items).last fun _ _ => ?_
  exact (raises_rejectIf (by trivial)).bind fun _ => (raises_rejectIf (by trivial)).bind fun _ =>
    raises_ok _

/-- **A coordination plan** is decoded or rejected exactly when everything that is read
converts. -/
theorem FederatedCoordinationPlanV04.covers (payload : Json) :
    CoversReads (fromDict py upper payload) (reads py upper payload) := by
  refine covers_readObject fun payload => covers_readText fun schemaVersion => ?_
  refine covers_rejectIf (by trivial) (covers_readText fun taskType => ?_)
  refine covers_rejectIf (by trivial) (covers_readObject fun modePayload => ?_)
  refine covers_readText fun selected => covers_rejectIf (by trivial) ?_
  refine (covers_fallbackOrder _ _).bind fun fallbackOrder _ => ?_
  refine (covers_participants _).bind fun participants _ => ?_
  refine covers_readObject fun modelRef => covers_readText fun planId => ?_
  refine covers_readText fun jobId => covers_readText fun sessionId => ?_
  refine covers_readText fun modelId => (covers_version _ _).last fun modelVersion _ => ?_
  exact (raises_mapping _).bind fun _ => (raises_mapping _).bind fun _ =>
    (raises_mapping _).bind fun _ => (raises_mapping _).bind fun _ => raises_ok _

end Coordination

theorem two_pow_le_ten_pow {m n : ℕ} (h : m ≤ 3 * n) : 2 ^ m ≤ 10 ^ n := by
  calc 2 ^ m ≤ 2 ^ (3 * n) := Nat.pow_le_pow_right (by omega) h
    _ = 8 ^ n := by rw [Nat.pow_mul]
    _ ≤ 10 ^ n := Nat.pow_le_pow_left (by omega) n

theorem floatOfInt_eq_none {i : ℤ} {m : ℕ} (hm : m = 1024) (h : 2 ^ m ≤ i.natAbs) :
    Json.floatOfInt i = none := by
  unfold Json.floatOfInt
  rw [if_neg]
  intro hlt
  have hsmall := hlt.trans_le (Nat.sub_le _ _)
  rw [hm] at h
  exact absurd h (not_le.2 hsmall)

/-- From `10³⁴²` on, a power of ten is too large for `float`. -/
theorem floatOfInt_ten_pow {n : ℕ} (h : 342 ≤ n) : Json.floatOfInt (10 ^ n) = none := by
  have habs : (10 ^ n : ℤ).natAbs = 10 ^ n := Int.natAbs_pow 10 n
  refine floatOfInt_eq_none rfl ?_
  rw [habs]
  exact two_pow_le_ten_pow (by omega)

/-- A coordination plan with the availability. -/
def servingEnvelope (availability : Json) : Policy :=
  [("approved", .bool true), ("plan_type", .str "inference"), ("approved_by", .str "agent"),
    ("approval_ref", .str "ref"), ("plan_id", .str "plan"), ("job_id", .str "job"),
    ("approved_at", .str "now"), ("schema_version", .str "1"),
    ("payload", .obj [("availability_target", availability)])]

/-- A request with an availability of `10⁴⁰⁰`. -/
def hugeAvailability : Json :=
  .obj [("coordination_plan", .obj (servingEnvelope (.int (10 ^ 400))))]

theorem fromDict_servingEnvelope (availability : Json) :
    CoordinationPlanEnvelope.fromDict Python.ascii (servingEnvelope availability)
      = .ok ⟨"inference", "plan", "job", "agent", "ref", "now", "1"⟩ := by
  have htext : ∀ {s : String} (h : Text.Proper s) (field : String),
      contract.text Python.ascii (.str s) field = .ok ⟨s, h⟩ := fun h _ => Decoder.text_proper h
  have hstripped : ∀ {s : String} (h : Text.Proper s),
      stripped Python.ascii (.str s) = .ok ⟨s, fun _ => h⟩ := stripped_proper
  have happroved : ∀ e, requireTrue (Json.get (servingEnvelope availability) "approved") e
      = .ok () := fun _ => rfl
  have g₁ : Json.get (servingEnvelope availability) "plan_type" = .str "inference" := rfl
  have g₂ : Json.get (servingEnvelope availability) "approved_by" = .str "agent" := rfl
  have g₃ : Json.get (servingEnvelope availability) "approval_ref" = .str "ref" := rfl
  have g₄ : Json.get (servingEnvelope availability) "plan_id" = .str "plan" := rfl
  have g₅ : Json.get (servingEnvelope availability) "job_id" = .str "job" := rfl
  have g₆ : Json.get (servingEnvelope availability) "approved_at" = .str "now" := rfl
  have g₇ : Json.get (servingEnvelope availability) "schema_version" = .str "1" := rfl
  have htype : ∀ e : PartitionError,
      rejectIf ("inference" ∉ ["training", "inference"]) e = .ok () := fun _ => rfl
  have hprovenance : ∀ e : PartitionError, rejectIf ("agent" = "" ∨ "ref" = "") e = .ok () :=
    fun _ => rfl
  simp only [CoordinationPlanEnvelope.fromDict, bind, Except.bind, happroved, g₁, g₂, g₃, g₄, g₅, g₆,
    g₇, htype, hprovenance, htext (show Text.Proper "inference" by decide),
    hstripped (show Text.Proper "agent" by decide), hstripped (show Text.Proper "ref" by decide),
    htext (show Text.Proper "plan" by decide), htext (show Text.Proper "job" by decide),
    htext (show Text.Proper "now" by decide), htext (show Text.Proper "1" by decide)]

end Partition
end AiopsK8s
