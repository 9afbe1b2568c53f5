/-
# The advice of the action policy

`_attach_action_policy_advice` of `experiment_runtime.py`: before the `try` block of a run the
recommendation of the action policy is put into the report that the run begins with.

`RuntimeSetting` is what the runs of one runtime have in common: the configuration, the interpreter,
the sample file and the policy.  What a run calls besides is its environment.
-/

import AiopsK8s.Experiment.RecoveryEvaluator
import AiopsK8s.Experiment.Session
import AiopsK8s.Learning.ActionPolicy

namespace AiopsK8s
namespace Learning

/-- The text of a mode. -/
def PolicyMode.value : PolicyMode → String
  | baseline => "baseline"
  | learned => "learned"

/-- A row of the ranking, as a mapping. -/
def RankingRow.toDict (row : RankingRow) : Json :=
  .obj [("action", .str row.action), ("mean_reward", .number row.meanReward),
    ("samples", .int row.samples), ("source", .str row.source)]

/-- `PolicyRecommendation.to_dict`. -/
def PolicyRecommendation.toDict (r : PolicyRecommendation) : Json :=
  .obj [("policy_mode", .str r.policyMode.value),
    ("context", .obj [("scenario", .str r.context.scenario), ("metric", .str r.context.metric),
      ("cause", .str r.context.cause), ("severity", .str r.context.severity)]),
    ("selected_action", .str r.selectedAction), ("ranking", .ofList RankingRow.toDict r.ranking),
    ("training_samples", .int r.trainingSamples), ("fallback_reason", .str r.fallbackReason),
    ("advisory_only", .bool true), ("safety_boundary", .str "4-agent-review-and-validator")]

end Learning

namespace Experiment

open Effect
open Learning (PolicyMode PolicySample ContextualBanditPolicy)

/-- What the runs of a runtime have in common.  `samplesPath` is the stripped environment variable,
`loadSamples` is `load_policy_samples`, `lower` is `str.lower`. -/
structure RuntimeSetting where
  python : Python
  configuration : RuntimeConfiguration
  lower : String → String
  samplesPath : String
  loadSamples : String → Except RuntimeException (List PolicySample)
  decisionPolicy : Agents.AgentDecisionPolicy
  causeForMetric : String → String
  now : String

namespace RuntimeSetting

variable (setting : RuntimeSetting) (request : ExperimentRuntimeRequest)

/-- `policy_mode`. -/
def policyMode : PolicyMode :=
  if setting.lower (Text.strip (setting.python.str
      (Json.getD request.detectionContext "action_policy" (.str "baseline")))) = "learned" then
    .learned
  else .baseline

/-- `except (OSError, ValueError)` around the fit: the policy, and the error of the report. -/
def fitted : Except RuntimeException (ContextualBanditPolicy × Fields) :=
  if setting.policyMode request = .learned ∧ setting.samplesPath ≠ "" then
    match setting.loadSamples setting.samplesPath with
    | .ok samples => .ok (.fit setting.lower samples, [])
    | .error e =>
      if e.isOSError || e.isValueError then .ok (.empty, [("action_policy_error", .str e.text)])
      else .error e
  else .ok (.empty, [])

/-- The context of the recommendation. -/
def policyContext : Learning.PolicyContext :=
  ⟨request.scenarioId, request.metric, setting.causeForMetric request.metric, ""⟩

/-- `_attach_action_policy_advice`: the entries that it writes. -/
def advice : Except RuntimeException Fields := do
  let (policy, error) ← setting.fitted request
  let recommendation := ContextualBanditPolicy.recommend setting.lower setting.decisionPolicy policy
    (setting.policyMode request) (setting.policyContext request)
  return error ++ [("action_policy", .str (setting.policyMode request).value),
    ("action_policy_samples", .str setting.samplesPath),
    ("action_policy_recommendation", recommendation.toDict)]

end RuntimeSetting

/-- A computation that returns from every state. -/
def Returns {σ α : Type} (m : Eff σ RuntimeException α) (Q : α → Prop) : Prop :=
  ∀ w, ∃ a w', m.run w = (.ok a, w') ∧ Q a

/-- A store that raises nothing. -/
structure ArtifactStore.Quiet {σ : Type} (store : ArtifactStore σ) : Prop where
  finalize : ∀ report, Returns (store.finalize report) fun _ => True
  paths : ∀ paths ∈ store.paths, anyValue isNonFinite paths = false

/-- A runtime of the setting around an environment in which neither the event sink nor a store nor
a clock raises.  The coordinator, the adapter of Chaos Mesh and the lock do what they want. -/
structure RuntimeSetting.Behaves {σ App : Type} (setting : RuntimeSetting)
    (rt : ExperimentRuntime σ App) : Prop where
  python : rt.python = setting.python
  configuration : rt.configuration = setting.configuration
  advise : rt.advise = fun request => Eff.ofExcept (setting.advice request)
  evaluate : rt.evaluate = fun report =>
    (RecoveryEvaluator.evaluate setting.python report).map RecoveryEvaluation.toDict
  normalizeSession : rt.normalizeSession = fun report =>
    (Session.normalize setting.python setting.lower setting.now report).map ExperimentSession.toDict
  experimentId : Returns rt.experimentId fun id => Text.isBlank id = false
  now : Returns rt.now fun text => Text.isBlank text = false
  clock : Returns rt.clock fun _ => True
  eventSink : ∀ event, Returns (rt.eventSink event) fun _ => True
  artifactEventStore : ∀ store ∈ rt.artifactEventStore, store.Quiet
  sessionStore : ∀ put ∈ rt.sessionStore, ∀ session, Returns (put session) fun _ => True

/-- What the constructor of a request has checked of its detection context. -/
def ExperimentRuntimeRequest.Accepted (request : ExperimentRuntimeRequest) : Prop :=
  freeze request.detectionContext = .ok request.detectionContext

/-- A report carries the detection context of its request and the advice for it. -/
structure RuntimeSetting.Carries (setting : RuntimeSetting) (request : ExperimentRuntimeRequest)
    (report : Fields) : Prop where
  detection : report.lookup "detection" = some (.obj request.detectionContext)
  advice : ∃ advice, setting.advice request = .ok advice ∧
    ∀ key ∈ ["action_policy", "action_policy_recommendation"],
      report.lookup key = advice.lookup key

/-- **Every run hands over what it was asked with**, whatever the coordinator, the adapter and the
clock do. -/
def RuntimeSetting.HandsOver (setting : RuntimeSetting) (request : ExperimentRuntimeRequest) : Prop :=
  ∀ {σ App : Type} (rt : ExperimentRuntime σ App) (world : σ), setting.Behaves rt →
    ∃ result s, (rt.run request).run (RunState.initial rt world) = (.ok result, s) ∧
      setting.Carries request result.report

/-! ### Values without a non-finite float -/

theorem anyItem_map {α : Type} {p : Json → Bool} {f : α → Json} {items : List α}
    (h : ∀ item ∈ items, anyValue p (f item) = false) : anyItem p (items.map f) = false := by
  induction items with
  | nil => rfl
  | cons item items ih =>
    rw [List.map_cons, anyItem, h item List.mem_cons_self,
      ih fun other hother => h other (List.mem_cons_of_mem _ hother)]
    rfl

/-- Setting an entry to a harmless value. -/
theorem anyField_set {p : Json → Bool} {fields : Fields} {key : String} {value : Json}
    (hfields : anyField p fields = false) (hvalue : anyValue p value = false) :
    anyField p (Json.set fields key value) = false := by
  induction fields with
  | nil => simp [Json.set, anyField, hvalue]
  | cons field fields ih =>
    obtain ⟨name, item⟩ := field
    rw [anyField, Bool.or_eq_false_iff] at hfields
    unfold Json.set
    split_ifs
    · simp [anyField, hvalue, hfields.2]
    · simp [anyField, hfields.1, ih hfields.2]

theorem anyField_update {p : Json → Bool} {fields entries : Fields}
    (hfields : anyField p fields = false) (hentries : anyField p entries = false) :
    anyField p (Json.update fields entries) = false := by
  unfold Json.update
  induction entries generalizing fields with
  | nil => exact hfields
  | cons entry entries ih =>
    rw [anyField, Bool.or_eq_false_iff] at hentries
    exact ih (anyField_set hfields hentries.1) hentries.2

theorem finite_toDict (event : RuntimeEvent) (h : event.payload = []) :
    anyValue isNonFinite event.toDict = false := by
  simp [RuntimeEvent.toDict, anyValue, anyField, isNonFinite, h]

theorem finite_recommendation (r : Learning.PolicyRecommendation) :
    anyValue isNonFinite r.toDict = false := by
  have hranking : anyItem isNonFinite (r.ranking.map Learning.RankingRow.toDict) = false :=
    anyItem_map fun row _ => by
      simp [Learning.RankingRow.toDict, anyValue, anyField, isNonFinite, Json.number]
  simp [Learning.PolicyRecommendation.toDict, Json.ofList, anyValue, anyField, isNonFinite,
    hranking]

theorem finite_evaluation (e : RecoveryEvaluation) : anyValue isNonFinite e.toDict = false := by
  have hnumbers : ∀ entries : List (String × ℚ), anyField isNonFinite
      (entries.map fun entry => (entry.1, Json.float (.finite entry.2))) = false := by
    intro entries
    induction entries with
    | nil => rfl
    | cons entry entries ih => simp [anyField, anyValue, isNonFinite, ih]
  simp [RecoveryEvaluation.toDict, anyValue, anyField, isNonFinite, Json.number, hnumbers]

namespace RuntimeSetting

variable {setting : RuntimeSetting} {request : ExperimentRuntimeRequest}

/-- The entries of the advice. -/
theorem advice_eq_ok {advice : Fields} (h : setting.advice request = .ok advice) :
    ∃ error recommendation, (error = [] ∨ ∃ text, error = [("action_policy_error", .str text)]) ∧
      anyValue isNonFinite recommendation = false ∧
      advice = error ++ [("action_policy", .str (setting.policyMode request).value),
        ("action_policy_samples", .str setting.samplesPath),
        ("action_policy_recommendation", recommendation)] := by
  obtain ⟨⟨policy, error⟩, hfitted, h⟩ := bind_eq_ok h
  refine ⟨error, _, ?_, finite_recommendation _, (Except.ok.inj h).symm⟩
  unfold fitted at hfitted
  split_ifs at hfitted
  · split at hfitted
    · obtain ⟨-, rfl⟩ := Prod.mk.inj (Except.ok.inj hfitted)
      exact .inl rfl
    · split_ifs at hfitted
      obtain ⟨-, rfl⟩ := Prod.mk.inj (Except.ok.inj hfitted)
      exact .inr ⟨_, rfl⟩
  · obtain ⟨-, rfl⟩ := Prod.mk.inj (Except.ok.inj hfitted)
    exact .inl rfl

/-- The recommendation is among the entries of the advice. -/
theorem lookup_advice {advice : Fields} (h : setting.advice request = .ok advice) :
    ∃ recommendation, advice.lookup "action_policy_recommendation" = some recommendation := by
  obtain ⟨error, recommendation, herror, -, rfl⟩ := advice_eq_ok h
  refine ⟨recommendation, ?_⟩
  rcases herror with rfl | ⟨text, rfl⟩ <;> simp [List.lookup_cons]

theorem finite_advice {advice : Fields} (h : setting.advice request = .ok advice) :
    anyField isNonFinite advice = false := by
  obtain ⟨error, recommendation, herror, hfinite, rfl⟩ := advice_eq_ok h
  rcases herror with rfl | ⟨text, rfl⟩ <;> simp [anyField, anyValue, isNonFinite, hfinite]

/-- Nothing else is written. -/
theorem notMem_advice {advice : Fields} (h : setting.advice request = .ok advice) {key : String}
    (hkey : key ∉ ["action_policy_error", "action_policy", "action_policy_samples",
      "action_policy_recommendation"]) : ∀ entry ∈ advice, key ≠ entry.1 := by
  obtain ⟨error, recommendation, herror, -, rfl⟩ := advice_eq_ok h
  simp only [List.mem_cons, List.not_mem_nil, or_false, not_or] at hkey
  obtain ⟨h₁, h₂, h₃, h₄⟩ := hkey
  rcases herror with rfl | ⟨text, rfl⟩ <;> simp [h₁, h₂, h₃, h₄]

end RuntimeSetting
end Experiment
end AiopsK8s
