/-
# The session of a report

`experiment_session.py`: `normalize_experiment_session` reads the report of a run into eight stages,
each with a status of its own.

The status of the last stage is taken from the recovery monitoring of the report where there is
any, and from its final status otherwise.  `agrees_iff_consistent` is when the two say the same: a
run that is cancelled after its recovery was assessed, or whose recovery was overruled, has a last
stage that contradicts its status.
-/

import AiopsK8s.Experiment.Obligations

namespace AiopsK8s
namespace Experiment

open Effect

/-- `_stage`: a stage of a session. -/
structure SessionStage where
  experimentId : String
  status : String
  payload : Fields

/-- `ExperimentSession`. -/
structure ExperimentSession where
  experimentId : String
  createdAt : String
  mode : String
  guardBackend : String
  status : String
  protocolProfile : Fields
  condition : Fields
  stages : List (String × SessionStage)
  activeAgents : List String
  humanReviewRequired : Bool
  artifacts : List (String × String)

namespace Session

variable (py : Python)

/-- `_mapping`. -/
def mapping : Json → Fields
  | .obj fields => fields
  | _ => []

/-- The items of `iter(value)`; what is neither a text, a list nor a mapping has none. -/
def iterate : Json → Except RuntimeException (List Json)
  | .str s => .ok (s.toList.map fun c => .str (String.singleton c))
  | .arr items => .ok items
  | .obj fields => .ok (fields.map fun field => .str field.1)
  | _ => .error (.exception "object is not iterable")

/-- An entry that `dict` reads from a list; its key becomes a text in `_freeze`. -/
def entryOfPair (value : Json) : Except RuntimeException (String × Json) := do
  match ← iterate value with
  | [.arr _, _] => .error (.exception "unhashable type: 'list'")
  | [.obj _, _] => .error (.exception "unhashable type: 'dict'")
  | [key, item] => .ok (py.str key, item)
  | _ => .error (.value "dictionary update sequence element has not length 2")

/-- `dict(payload)`. -/
def toMapping : Json → Except RuntimeException Fields
  | .obj fields => .ok fields
  | value => do
      let items ← iterate value
      let entries ← items.mapM (entryOfPair py)
      return Json.update [] entries

/-- `_consensus_status`, where `lower` is `str.lower`. -/
def consensusStatus (lower : String → String) (negotiation : Fields) : String :=
  if negotiation = [] then "pending"
  else if lower (py.str (Json.getD negotiation "consensus" (.str ""))) ∈
      ["approved", "not_required"] then "completed"
  else "blocked"

/-- `mapping.get(key) is True`. -/
def isTrue : Json → Bool
  | .bool true => true
  | _ => false

/-- `_safety_status`. -/
def safetyStatus (safety : Fields) : String :=
  if safety = [] then "pending"
  else if isTrue (Json.get safety "valid") then "completed" else "blocked"

/-- `_execution_status`. -/
def executionStatus (execution safety : Fields) : String :=
  if execution = [] ∨ isTrue (Json.get safety "valid") = false then "pending"
  else if isTrue (Json.get execution "valid") then "completed" else "failed"

/-- What the recovery monitoring says of the recovery. -/
def recoveredFlag (recovery : Fields) : Bool :=
  isTrue (Json.getD recovery "recovered" (Json.get recovery "recovery_success"))

/-- The statuses of a run that ended well. -/
def completedStatuses : List String :=
  ["recovered", "recovered_after_replan", "dry_run_validated", "no_action_required"]

/-- `_result_status`. -/
def resultStatus (finalStatus : String) (recovery : Fields) : String :=
  if finalStatus = "dry_run_validated" then "completed"
  else if recovery ≠ [] then if recoveredFlag recovery then "completed" else "failed"
  else if finalStatus ∈ ["no_action_required", "recovered", "recovered_after_replan"] then "completed"
  else if finalStatus ∈ ["cancelled", "interrupted", "blocked", "cleanup_failed"] then finalStatus
  else if finalStatus ∈ ["safe_failure", "runtime_unavailable", "configuration_rejected"] then "failed"
  else if finalStatus ∈ ["safe_stopped", "consensus_rejected"] then "blocked"
  else "pending"

/-- `condition` of `normalize_experiment_session`. -/
def conditionOf (evidence : Fields) : Fields :=
  [("scenario", Json.getD evidence "scenario" (.str "")),
    ("namespace", Json.getD evidence "namespace" (.str "")),
    ("deployment", Json.getD evidence "deployment" (.str "")),
    ("metric_values", Json.getD evidence "metric_values" (.obj [])),
    ("source", Json.getD evidence "source" (.str ""))]

/-- `"completed" if condition else "pending"`. -/
def completedIf (condition : Bool) : String := if condition then "completed" else "pending"

/-- `str(report.get("final_status", "unknown")).strip() or "unknown"`. -/
def finalStatus (report : Fields) : String :=
  let status := Text.strip (py.str (Json.getD report "final_status" (.str "unknown")))
  if status = "" then "unknown" else status

/-- The recovery monitoring of a report. -/
def recoveryOf (report : Fields) : Fields := mapping (Json.get report "recovery_monitoring")

/-- `payload` of the result stage. -/
def resultPayload (report : Fields) : Fields :=
  [("recovery_monitoring", .obj (recoveryOf report)),
    ("post_execution_reviews", Json.getD report "post_execution_reviews" (.arr [])),
    ("agent_contributions", Json.getD report "agent_contributions" (.obj [])),
    ("evaluation", Json.getD report "evaluation" (.obj [])),
    ("final_status", .str (finalStatus py report))]

/-- The stages of a report; `evaluation` is the payload of the stage of that name. -/
def stagesOf (lower : String → String) (experimentId : String) (report evaluation : Fields) :
    List (String × SessionStage) :=
  let evidence := mapping (Json.get report "evidence")
  let diagnosis := mapping (Json.get report "diagnosis")
  let negotiation := mapping (Json.get report "negotiation")
  let safety := mapping (Json.get report "safety_validation")
  let execution := mapping (Json.get report "execution_result")
  let condition := conditionOf evidence
  [("condition", ⟨experimentId, completedIf (condition.any fun field => field.2.truthy), condition⟩),
    ("evidence", ⟨experimentId, completedIf !evidence.isEmpty, evidence⟩),
    ("diagnosis", ⟨experimentId, completedIf !diagnosis.isEmpty,
      [("diagnosis", .obj diagnosis),
        ("initial_decisions", Json.getD report "initial_decisions" (.arr []))]⟩),
    ("consensus", ⟨experimentId, consensusStatus py lower negotiation,
      [("peer_reviews", Json.getD report "peer_reviews" (.arr [])),
        ("negotiation", .obj negotiation),
        ("selected_action", Json.getD report "selected_action" (.obj []))]⟩),
    ("safety", ⟨experimentId, safetyStatus safety, safety⟩),
    ("execution", ⟨experimentId, executionStatus execution safety, execution⟩),
    ("evaluation", ⟨experimentId, completedIf (Json.get report "evaluation").truthy, evaluation⟩),
    ("result", ⟨experimentId, resultStatus (finalStatus py report) (recoveryOf report),
      resultPayload py report⟩)]

/-- `report.get("created_at") or metadata.get("created_at") or now`. -/
def createdAt (now : String) (report metadata : Fields) : String :=
  if (Json.get report "created_at").truthy then py.str (Json.get report "created_at")
  else if (Json.get metadata "created_at").truthy then py.str (Json.get metadata "created_at")
  else now

/-- `normalize_experiment_session`. -/
def normalize (lower : String → String) (now : String) (report : Fields) :
    Except RuntimeException ExperimentSession := do
  let experimentId := Text.strip (py.str (Json.getD report "run_id" (.str "")))
  rejectIf (experimentId = "") (.value "mutual supervision report is missing run_id")
  let metadata := mapping (Json.get report "metadata")
  let evaluation ← toMapping py (Json.getD report "evaluation" (.obj []))
  let activeAgents ← iterate (Json.getD report "active_agents" (.arr []))
  return {
    experimentId := experimentId
    createdAt := createdAt py now report metadata
    mode := py.str (Json.getD report "mode" (.str "unknown"))
    guardBackend := py.str (Json.getD metadata "guard_backend" (.str "unknown"))
    status := finalStatus py report
    protocolProfile := mapping (Json.get report "protocol_profile")
    condition := conditionOf (mapping (Json.get report "evidence"))
    stages := stagesOf py lower experimentId report evaluation
    activeAgents := activeAgents.map py.str
    humanReviewRequired := (Json.get report "human_review_required").truthy
    artifacts := (mapping (Json.get report "artifacts")).map fun field => (field.1, py.str field.2) }

end Session

namespace ExperimentSession

variable (session : ExperimentSession)

/-- `to_dict`. -/
def toDict : Json :=
  .obj [("experiment_id", .str session.experimentId), ("created_at", .str session.createdAt),
    ("mode", .str session.mode), ("guard_backend", .str session.guardBackend),
    ("status", .str session.status), ("protocol_profile", .obj session.protocolProfile),
    ("condition", .obj session.condition),
    ("stages", .obj (session.stages.map fun (name, stage) =>
      (name, .obj [("experiment_id", .str stage.experimentId), ("status", .str stage.status),
        ("payload", .obj stage.payload)]))),
    ("active_agents", .texts session.activeAgents),
    ("human_review_required", .bool session.humanReviewRequired),
    ("artifacts", .obj (session.artifacts.map fun (name, path) => (name, .str path)))]

/-- The status of the last stage. -/
def resultStage : Option String := (session.stages.lookup "result").map SessionStage.status

/-- The last stage says what the status of the session says. -/
structure Agrees : Prop where
  completed : session.resultStage = some "completed" ↔ session.status ∈ Session.completedStatuses
  failed : session.status = "safe_failure" → session.resultStage = some "failed"
  stopped : session.status = "safe_stopped" → session.resultStage = some "blocked"
  preserved : session.status ∈ ["cancelled", "interrupted", "blocked"] →
    session.resultStage = some session.status

end ExperimentSession

namespace Session

variable {py : Python}

/-- The recovery monitoring of a report says nothing against its status: there is none, or the
status is that of a dry run, or a recovery has the status of a run that ended well, or a failed
recovery has a status that neither ended well nor has a stage of its own. -/
def Consistent (status : String) (recovery : Fields) : Prop :=
  recovery = [] ∨ status = "dry_run_validated" ∨
    (recoveredFlag recovery = true ∧ status ∈ completedStatuses) ∨
    (recoveredFlag recovery = false ∧ status ∉ completedStatuses ∧
      status ∉ ["safe_stopped", "cancelled", "interrupted", "blocked"])

theorem lookup_stagesOf (lower : String → String) (experimentId : String)
    (report evaluation : Fields) :
    (stagesOf py lower experimentId report evaluation).lookup "result" = some ⟨experimentId,
      resultStatus (finalStatus py report) (recoveryOf report), resultPayload py report⟩ := by
  simp [stagesOf, List.lookup_cons]

/-- **What a session is made of.** -/
theorem normalize_eq_ok {lower : String → String} {now : String} {report : Fields}
    {session : ExperimentSession} (h : normalize py lower now report = .ok session) :
    session.status = finalStatus py report ∧
      session.resultStage = some (resultStatus (finalStatus py report) (recoveryOf report)) := by
  unfold normalize at h
  obtain ⟨_, -, h⟩ := bind_eq_ok h
  obtain ⟨evaluation, -, h⟩ := bind_eq_ok h
  obtain ⟨activeAgents, -, h⟩ := bind_eq_ok h
  obtain rfl := Except.ok.inj h
  refine ⟨rfl, ?_⟩
  unfold ExperimentSession.resultStage
  dsimp only
  rw [lookup_stagesOf]
  rfl

/-- The status of the last stage where there is no recovery monitoring. -/
theorem resultStatus_nil (status : String) :
    (resultStatus status [] = "completed" ↔ status ∈ completedStatuses) ∧
    (status = "safe_failure" → resultStatus status [] = "failed") ∧
    (status = "safe_stopped" → resultStatus status [] = "blocked") ∧
    (status ∈ ["cancelled", "interrupted", "blocked"] → resultStatus status [] = status) := by
  refine ⟨?_, ?_, ?_, ?_⟩
  · unfold resultStatus completedStatuses
    simp only [List.mem_cons, List.not_mem_nil, or_false, ne_eq, not_true_eq_false, if_false]
    split_ifs with hdry hdone hkept hfailed hstopped
    · exact iff_of_true rfl (by simp [hdry])
    · exact iff_of_true rfl (by tauto)
    · rcases hkept with rfl | rfl | rfl | rfl <;> decide
    · rcases hfailed with rfl | rfl | rfl <;> decide
    · rcases hstopped with rfl | rfl <;> decide
    · exact iff_of_false (by decide) (by tauto)
  · rintro rfl
    decide
  · rintro rfl
    decide
  · intro h
    simp only [List.mem_cons, List.not_mem_nil, or_false] at h
    rcases h with rfl | rfl | rfl <;> decide

/-- The status of the last stage where there is recovery monitoring. -/
theorem resultStatus_of_ne {status : String} {recovery : Fields} (hne : recovery ≠ [])
    (hdry : status ≠ "dry_run_validated") :
    resultStatus status recovery = if recoveredFlag recovery then "completed" else "failed" := by
  unfold resultStatus
  rw [if_neg hdry, if_pos hne]

/-- **When the last stage of a session agrees with its status.** -/
theorem agrees_iff_consistent {lower : String → String} {now : String} {report : Fields}
    {session : ExperimentSession} (h : normalize py lower now report = .ok session) :
    session.Agrees ↔ Consistent (finalStatus py report) (recoveryOf report) := by
  obtain ⟨hstatus, hstage⟩ := normalize_eq_ok h
  generalize finalStatus py report = status at hstatus hstage ⊢
  generalize recoveryOf report = recovery at hstage ⊢
  subst hstatus
  by_cases hnil : recovery = []
  · subst hnil
    obtain ⟨hcompleted, hfailed, hstopped, hpreserved⟩ := resultStatus_nil session.status
    refine iff_of_true ⟨?_, ?_, ?_, ?_⟩ (.inl rfl)
    · rw [hstage, Option.some.injEq]
      exact hcompleted
    · exact fun hs => hstage.trans (congrArg some (hfailed hs))
    · exact fun hs => hstage.trans (congrArg some (hstopped hs))
    · exact fun hs => hstage.trans (congrArg some (hpreserved hs))
  by_cases hdry : session.status = "dry_run_validated"
  · have hdone : session.resultStage = some "completed" := by
      rw [hstage, hdry]
      exact congrArg some (if_pos rfl)
    refine iff_of_true ⟨?_, ?_, ?_, ?_⟩ (.inr (.inl hdry))
    · exact iff_of_true hdone (by rw [hdry]; decide)
    all_goals
      rw [hdry]
      intro hs
      exact absurd hs (by decide)
  rw [resultStatus_of_ne hnil hdry] at hstage
  cases hflag : recoveredFlag recovery with
  | true =>
    rw [hflag, if_pos rfl] at hstage
    constructor
    · intro hagrees
      exact .inr (.inr (.inl ⟨hflag, hagrees.completed.1 hstage⟩))
    · rintro (hempty | hs | ⟨-, hs⟩ | ⟨hfalse, -⟩)
      · exact absurd hempty hnil
      · exact absurd hs hdry
      · have hs' := hs
        simp only [completedStatuses, List.mem_cons, List.not_mem_nil, or_false] at hs'
        refine ⟨iff_of_true hstage hs, ?_, ?_, ?_⟩ <;> intro hother <;>
          rcases hs' with hs' | hs' | hs' | hs' <;> rw [hs'] at hother <;>
          exact absurd hother (by decide)
      · rw [hflag] at hfalse
        cases hfalse
  | false =>
    rw [hflag, if_neg nofun] at hstage
    have hfailed : session.resultStage ≠ some "completed" := by
      rw [hstage]
      decide
    constructor
    · intro hagrees
      refine .inr (.inr (.inr ⟨hflag, fun hs => hfailed (hagrees.completed.2 hs), fun hs => ?_⟩))
      rcases List.mem_cons.1 hs with hstopped | hs
      · exact absurd (hstage.symm.trans (hagrees.stopped hstopped)) (by decide)
      · have hsame := Option.some.inj (hstage.symm.trans (hagrees.preserved hs))
        rw [← hsame] at hs
        exact absurd hs (by decide)
    · rintro (hempty | hs | ⟨htrue, -⟩ | ⟨-, hdone, hother⟩)
      · exact absurd hempty hnil
      · exact absurd hs hdry
      · rw [hflag] at htrue
        cases htrue
      · refine ⟨iff_of_false hfailed hdone, fun _ => hstage, fun hs => ?_, fun hs => ?_⟩
        · exact absurd (by simp [hs]) hother
        · exact absurd (List.mem_cons_of_mem _ hs) hother

end Session

end Experiment
end AiopsK8s
