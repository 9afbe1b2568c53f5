/-
# Guarded selection

`GuardedCandidateSelector` of `partition_ranking`: a trained model may order the valid candidates by
the reward that it predicts.  In shadow mode its order is recorded only.  In guarded mode its first
candidate is selected, unless the model is not available, its inference raises or one of the guards
fails; then the deterministic baseline is.

Whatever the model says, a valid candidate is selected where there is one, and another than the
baseline only where every guard holds (`select_sound`).
-/

import AiopsK8s.Partition.LearnedRanker
import AiopsK8s.Partition.Optimality

namespace AiopsK8s
namespace Partition

open Effect JsonText Learning

/-! ### The guarded selector -/

/-- `LearnedRankerGuardPolicy`. -/
structure LearnedRankerGuardPolicy where
  minimumObservedSamples : ℤ
  minimumIndependentGroups : ℤ
  maximumHoldoutMae : ℚ
  minimumSpearmanCorrelation : ℚ
  minimumSelectionConfidence : ℚ
  maximumOodFeatureRatio : ℚ

/-- `DEFAULT_LEARNED_RANKER_GUARD_POLICY`. -/
def defaultLearnedRankerGuardPolicy : LearnedRankerGuardPolicy where
  minimumObservedSamples := 30
  minimumIndependentGroups := 5
  maximumHoldoutMae := 1 / 4
  minimumSpearmanCorrelation := Binary64.nearest (3 / 10)
  minimumSelectionConfidence := Binary64.nearest (7 / 10)
  maximumOodFeatureRatio := Binary64.nearest (1 / 5)

/-- `GuardedCandidateSelector`, over the deterministic ranker. -/
structure GuardedCandidateSelector where
  learned : Option PartitionRankerModelArtifact
  guardPolicy : LearnedRankerGuardPolicy

/-- An entry of the learned ranking, before it has a rank. -/
structure LearnedEntry where
  candidate : PartitionCandidate
  key : String
  prediction : LearnedRewardRanker.Prediction
  contributions : List (String × PyFloat)

namespace LearnedEntry

/-- `<` of the keys that entries are sorted by: `(-predicted_reward, -prediction_confidence,
baseline_score, candidate_key)`. -/
def comesBefore (a b : LearnedEntry) : Bool :=
  PyFloat.ltThen a.prediction.reward.neg b.prediction.reward.neg
    (PyFloat.ltThen a.prediction.confidence.neg b.prediction.confidence.neg
      (PyFloat.ltThen a.candidate.score b.candidate.score (a.key < b.key)))

/-- The figures that an entry is sorted by are numbers. -/
structure Numeric (e : LearnedEntry) : Prop where
  reward : e.prediction.reward.neg ≠ .nan
  confidence : e.prediction.confidence.neg ≠ .nan
  score : e.candidate.score ≠ .nan

/-- The key of such an entry. -/
def sortKey (e : LearnedEntry) :
    WithBot (WithTop ℚ) ×ₗ WithBot (WithTop ℚ) ×ₗ WithBot (WithTop ℚ) ×ₗ String :=
  toLex (e.prediction.reward.neg.extended, toLex (e.prediction.confidence.neg.extended,
    toLex (e.candidate.score.extended, e.key)))

theorem comesBefore_iff {a b : LearnedEntry} (ha : a.Numeric) (hb : b.Numeric) :
    comesBefore a b = true ↔ a.sortKey < b.sortKey := by
  unfold comesBefore sortKey
  rw [PyFloat.ltThen_iff ha.reward hb.reward, PyFloat.ltThen_iff ha.confidence hb.confidence,
    PyFloat.ltThen_iff ha.score hb.score, Prod.Lex.toLex_lt_toLex, Prod.Lex.toLex_lt_toLex,
    Prod.Lex.toLex_lt_toLex, decide_eq_true_iff]

/-- **Entries whose figures are numbers are ordered.** -/
theorem orderedBy_comesBefore {entries : List LearnedEntry} (h : ∀ e ∈ entries, e.Numeric) :
    Sorting.OrderedBy comesBefore entries :=
  Sorting.orderedBy_of_key sortKey fun a ha b hb => comesBefore_iff (h a ha) (h b hb)

/-- The entry of a ranking. -/
def toEntry (e : LearnedEntry) (rank : ℕ) : CandidateRankingEntry where
  candidateKey := e.key
  baselineScore := e.candidate.score
  predictedReward := some e.prediction.reward
  predictionConfidence := some e.prediction.confidence
  rank := rank
  eligible := true
  warnings := e.candidate.rejectionReasons ++ e.prediction.warnings
  featureContributions := e.contributions

end LearnedEntry

namespace GuardedCandidateSelector

/-- The value of `_metric` under one name. -/
def metricValue (metrics : Fields) (name : String) : Except PartitionError (Option ℚ) :=
  match Json.get metrics name with
  | .int i =>
      match Json.floatOfInt i with
      | none => .error .overflow
      | some q => .ok (some q)
  | .float (.finite q) => .ok (some q)
  | _ => .ok none

/-- `_metric`. -/
def metric (metrics : Fields) : List String → Except PartitionError (Option ℚ)
  | [] => .ok none
  | name :: names => do
      match ← metricValue metrics name with
      | some q => return some q
      | none => metric metrics names

section Definitions

variable (rt : Runtime) (fl : Floats rt.toPython) (s : GuardedCandidateSelector)

/-- `_learned_availability`: the artifact, or why there is none to use. -/
def learnedAvailability (modelVersion : Option String) :
    Except PartitionError (Except String PartitionRankerModelArtifact) :=
  match s.learned with
  | none => .ok (.error "model_unavailable")
  | some artifact =>
      if (∃ version ∈ modelVersion, artifact.modelVersion ≠ version) ∨
          artifact.modelType ≠ "ridge_reward_regressor" ∨ artifact.trainingScope ≠ "observed" then
        .ok (.error "model_unavailable")
      else if artifact.featureSchemaVersion ≠ featureSchemaVersion ∨
          artifact.featureOrder ≠ featureOrder then
        .ok (.error "feature_schema_mismatch")
      else
        match artifact.verifyHash fl rt.sha256 with
        | .ok _ => .ok (.ok artifact)
        | .error (.contract _ _) => .ok (.error "artifact_hash_invalid")
        | .error e => .error e

/-- The entry of a valid candidate in `_learned_selection`. -/
def learnedEntry (artifact : PartitionRankerModelArtifact) (context : RankingContext)
    (candidate : PartitionCandidate) : Except PartitionError LearnedEntry := do
  let features ← Features.extractPartitionFeatures rt context candidate
  let prediction ← LearnedRewardRanker.predict rt artifact features
  let contributions ← LearnedRewardRanker.featureContributions rt artifact features
  return ⟨candidate, candidateKey rt context.strategyVersion candidate, prediction, contributions⟩

/-- `ordered_learned`. -/
def orderedLearned (artifact : PartitionRankerModelArtifact) (context : RankingContext)
    (candidates : List PartitionCandidate) : Except PartitionError (List LearnedEntry) := do
  let entries ← (candidates.filter (·.valid)).mapM (learnedEntry rt artifact context)
  return rt.sorter.sort LearnedEntry.comesBefore entries

/-- The entry of the baseline for a candidate. -/
def baselineEntry (baseline : CandidateSelection) (context : RankingContext)
    (candidate : PartitionCandidate) : Except PartitionError CandidateRankingEntry :=
  match (Dict.ofEntries (baseline.entries.map fun entry => (entry.candidateKey, entry))).lookup
      (candidateKey rt context.strategyVersion candidate) with
  | none => .error .key
  | some entry => .ok entry

/-- `_learned_selection`. -/
def learnedSelection (artifact : PartitionRankerModelArtifact) (baseline : CandidateSelection)
    (context : RankingContext) (candidates : List PartitionCandidate) :
    Except PartitionError CandidateSelection := do
  let entries ← candidates.mapM (baselineEntry rt baseline context)
  let invalid := ((candidates.zip entries).filter fun item => !item.1.valid).map Prod.snd
  let ordered ← orderedLearned rt artifact context candidates
  let selected := ordered.head?
  return {
    mode := .learnedGuarded
    activeRankerId := LearnedRewardRanker.rankerId
    activeRankerVersion := LearnedRewardRanker.rankerVersion
    baselineSelectedCandidateKey := baseline.baselineSelectedCandidateKey
    learnedSelectedCandidateKey := selected.map (·.key)
    finalSelectedCandidateKey := selected.map (·.key)
    modelVersion := some artifact.modelVersion
    modelArtifactHash := some artifact.artifactHash
    featureSchemaVersion := artifact.featureSchemaVersion
    entries := ordered.zipIdx.map (fun (entry, index) => entry.toEntry (index + 1)) ++
      invalid.zipIdx.map fun (entry, index) =>
        { entry with rank := ordered.length + index + 1 }
    confidence := (selected.map (·.prediction.confidence)).getD (.finite 1)
    fallbackUsed := false
    fallbackReason := none
    rationale := ["Learned reward ranker ordered feasible candidates."] }

/-- The guards of `_guard_failure` on the features of the selected candidate. -/
def distributionFailure (ratio : ℚ) (confidence : Option PyFloat) : Option String :=
  if s.guardPolicy.maximumOodFeatureRatio ≤ ratio then some "feature_distribution_shift"
  else if confidence.all (PyFloat.lt · (.finite s.guardPolicy.minimumSelectionConfidence)) then
    some "selection_confidence_below_threshold"
  else none

/-- The guards of `_guard_failure` on the entry that the model selects. -/
def entryFailure (artifact : PartitionRankerModelArtifact) (context : RankingContext)
    (candidates : List PartitionCandidate) (selected : CandidateRankingEntry) :
    Except PartitionError (Option String) :=
  match candidates.find? fun candidate =>
      candidateKey rt context.strategyVersion candidate = selected.candidateKey with
  | none => .ok (some "learned_inference_error")
  | some candidate =>
      if candidate.valid = false then .ok (some "learned_inference_error")
      else do
        let features ← Features.extractPartitionFeatures rt context candidate
        let ratio ← LearnedRewardRanker.oodFeatureRatio artifact features
        return distributionFailure s ratio selected.predictionConfidence

/-- `_guard_failure`. -/
def guardFailure (artifact : PartitionRankerModelArtifact) (selection : CandidateSelection)
    (context : RankingContext) (candidates : List PartitionCandidate) :
    Except PartitionError (Option String) :=
  if artifact.sampleCount < s.guardPolicy.minimumObservedSamples then
    .ok (some "insufficient_observed_samples")
  else if artifact.groupCount < s.guardPolicy.minimumIndependentGroups then
    .ok (some "insufficient_independent_groups")
  else do
    let mae ← metric artifact.validationMetrics ["holdout_mae", "mae"]
    if mae.all (s.guardPolicy.maximumHoldoutMae < ·) then return some "holdout_mae_exceeded"
    else
      let correlation ← metric artifact.validationMetrics
        ["spearman_correlation", "spearman_rank_correlation"]
      if correlation.all (· < s.guardPolicy.minimumSpearmanCorrelation) then
        return some "rank_correlation_below_threshold"
      else
        match selection.entries.find? fun entry =>
            some entry.candidateKey = selection.learnedSelectedCandidateKey with
        | none => return some "learned_inference_error"
        | some selected =>
            if selected.eligible = false then return some "learned_inference_error"
            else entryFailure rt s artifact context candidates selected

/-- `_unavailable_learned_selection`. -/
def unavailableLearnedSelection (baseline : CandidateSelection) (context : RankingContext)
    (candidates : List PartitionCandidate) (mode : SelectionMode) (reason : String) :
    CandidateSelection :=
  ensureValidFinal rt
    { baseline with
      mode := mode
      learnedSelectedCandidateKey := none
      finalSelectedCandidateKey := baseline.baselineSelectedCandidateKey
      fallbackUsed := decide (mode = .learnedGuarded)
      fallbackReason := if mode = .learnedGuarded then some reason else none
      rationale :=
        ["Deterministic selection is retained because learned ranking is unavailable."] }
    context candidates

/-- The selection of shadow mode. -/
def shadowed (baseline learned : CandidateSelection) : CandidateSelection :=
  { learned with
    mode := .shadow
    finalSelectedCandidateKey := baseline.baselineSelectedCandidateKey
    fallbackUsed := false
    fallbackReason := none
    rationale :=
      ["Shadow mode recorded learned ranking without changing the deterministic selection."] }

/-- The selection of guarded mode after a guard has failed. -/
def fallenBack (baseline learned : CandidateSelection) (reason : String) : CandidateSelection :=
  { learned with
    finalSelectedCandidateKey := baseline.baselineSelectedCandidateKey
    fallbackUsed := true
    fallbackReason := some reason
    rationale := ["Learned guarded selection fell back to the deterministic baseline."] }

/-- `select`, after the deterministic ranker. -/
def selectFrom (baseline : CandidateSelection) (context : RankingContext)
    (candidates : List PartitionCandidate) (mode : SelectionMode) (modelVersion : Option String) :
    Except PartitionError CandidateSelection := do
  if mode = .deterministic then return ensureValidFinal rt baseline context candidates
  let unavailable := unavailableLearnedSelection rt baseline context candidates mode
  match ← learnedAvailability rt fl s modelVersion with
  | .error reason => return unavailable reason
  | .ok artifact =>
      match learnedSelection rt artifact baseline context candidates with
      -- Every exception of the inference is caught.
      | .error _ => return unavailable "learned_inference_error"
      | .ok learned =>
          if mode = .shadow then
            return ensureValidFinal rt (shadowed baseline learned) context candidates
          match guardFailure rt s artifact learned context candidates with
          | .error _ => return unavailable "learned_inference_error"
          | .ok (some reason) =>
              return ensureValidFinal rt (fallenBack baseline learned reason) context candidates
          | .ok none => return ensureValidFinal rt learned context candidates

/-- `select`. -/
def select (context : RankingContext) (candidates : List PartitionCandidate) (mode : SelectionMode)
    (modelVersion : Option String) : Except PartitionError CandidateSelection :=
  selectFrom rt fl s (DeterministicPolicyRanker.rank rt context candidates) context candidates mode
    modelVersion

end Definitions

/-! ### What is selected -/

section Selected

variable {rt : Runtime} {fl : Floats rt.toPython} {s : GuardedCandidateSelector}
  {context : RankingContext} {candidates : List PartitionCandidate} {mode : SelectionMode}
  {modelVersion : Option String} {artifact : PartitionRankerModelArtifact}
  {baseline selection learned : CandidateSelection}

/-- A key that may be final: that of a valid candidate, and none where there is no valid one. -/
def Final (rt : Runtime) (context : RankingContext) (candidates : List PartitionCandidate)
    (key : Option String) : Prop :=
  key ∈ (validKeys rt context candidates).map some ∨
    (validKeys rt context candidates = [] ∧ key = none)

/-- The repair leaves a final key alone. -/
theorem ensureValidFinal_eq (h : Final rt context candidates selection.finalSelectedCandidateKey) :
    ensureValidFinal rt selection context candidates = selection := by
  unfold ensureValidFinal
  refine if_pos (h.imp_right fun hnone => ?_)
  rw [hnone.1]
  rfl

/-- The baseline is final. -/
theorem final_baseline : Final rt context candidates
    (DeterministicPolicyRanker.rank rt context candidates).baselineSelectedCandidateKey := by
  have hkey : (DeterministicPolicyRanker.rank rt context candidates).baselineSelectedCandidateKey
      = ((DeterministicPolicyRanker.ordered rt candidates).find? (·.valid)).map
        (candidateKey rt context.strategyVersion) := rfl
  rcases find?_ordered rt candidates with ⟨selected, hmem, hvalid, hselected⟩ | ⟨hselected, hnone⟩
  · rw [hkey, hselected]
    exact .inl (List.mem_map_of_mem (List.mem_map_of_mem (List.mem_filter.2 ⟨hmem, hvalid⟩)))
  · refine .inr ⟨?_, by rw [hkey, hselected]; rfl⟩
    rw [validKeys, hnone]
    rfl

/-- An artifact that may be used: verified, of the requested version and the current schema. -/
structure Available (rt : Runtime) (fl : Floats rt.toPython) (s : GuardedCandidateSelector)
    (modelVersion : Option String) (artifact : PartitionRankerModelArtifact) : Prop where
  learned : s.learned = some artifact
  version : ∀ version ∈ modelVersion, artifact.modelVersion = version
  modelType : artifact.modelType = "ridge_reward_regressor"
  scope : artifact.trainingScope = "observed"
  schema : artifact.featureSchemaVersion = featureSchemaVersion
  order : artifact.featureOrder = featureOrder
  verified : artifact.verifyHash fl rt.sha256 = .ok ()

theorem learnedAvailability_eq_ok
    (h : learnedAvailability rt fl s modelVersion = .ok (.ok artifact)) :
    Available rt fl s modelVersion artifact := by
  unfold learnedAvailability at h
  split at h
  · cases Except.ok.inj h
  · rename_i found hlearned
    split_ifs at h with husable hschema
    · cases Except.ok.inj h
    · cases Except.ok.inj h
    · split at h
      · rename_i hverified
        obtain rfl := Except.ok.inj (Except.ok.inj h)
        simp only [not_or, not_exists, not_and, not_not] at husable hschema
        exact ⟨hlearned, fun version hversion => husable.1 version hversion, husable.2.1,
          husable.2.2, hschema.1, hschema.2, hverified⟩
      · cases Except.ok.inj h
      · cases h

/-- The entry that the model ranks first. -/
structure Best (rt : Runtime) (artifact : PartitionRankerModelArtifact) (context : RankingContext)
    (candidates : List PartitionCandidate) (e : LearnedEntry) : Prop where
  entry : learnedEntry rt artifact context e.candidate = .ok e
  mem : e.candidate ∈ candidates
  valid : e.candidate.valid = true
  first : ∀ c ∈ candidates, c.valid = true → ∃ e', learnedEntry rt artifact context c = .ok e' ∧
    LearnedEntry.comesBefore e' e = false

theorem learnedEntry_eq_ok {c : PartitionCandidate} {e : LearnedEntry}
    (h : learnedEntry rt artifact context c = .ok e) :
    e.candidate = c ∧ e.key = candidateKey rt context.strategyVersion c ∧ e.Numeric := by
  obtain ⟨features, hfeatures, h⟩ := bind_eq_ok h
  obtain ⟨prediction, hprediction, h⟩ := bind_eq_ok h
  obtain ⟨_, _, h⟩ := bind_eq_ok h
  obtain rfl := Except.ok.inj h
  obtain ⟨⟨reward, hreward, -⟩, confidence, hconfidence, -⟩ :=
    LearnedRewardRanker.predict_spec hprediction
  obtain ⟨score, hscore⟩ := Features.score_of_features hfeatures
  refine ⟨rfl, rfl, ⟨?_, ?_, ?_⟩⟩
  · rw [hreward]
    exact PyFloat.noConfusion
  · rw [hconfidence]
    exact PyFloat.noConfusion
  · rw [hscore]
    exact PyFloat.noConfusion

/-- The first of the learned order is the best entry; there is none without a valid candidate. -/
theorem head_orderedLearned {ordered : List LearnedEntry}
    (h : orderedLearned rt artifact context candidates = .ok ordered) :
    (∀ e ∈ ordered.head?, Best rt artifact context candidates e) ∧
      (ordered.head? = none → validKeys rt context candidates = []) := by
  obtain ⟨entries, hentries, h⟩ := bind_eq_ok h
  obtain rfl := Except.ok.inj h
  have hlength := (mapM_eq_ok hentries).length_eq
  have hnumeric : ∀ e ∈ entries, e.Numeric := fun e he => by
    obtain ⟨_, _, hentry⟩ := exists_of_mem_mapM hentries he
    exact (learnedEntry_eq_ok hentry).2.2
  refine ⟨fun e he => ?_, fun hnone => ?_⟩
  · have hmem : e ∈ entries := rt.sorter.mem_sort.1 (List.mem_of_head? he)
    obtain ⟨c, hc, hentry⟩ := exists_of_mem_mapM hentries hmem
    obtain ⟨hcandidate, -⟩ := learnedEntry_eq_ok hentry
    obtain ⟨hc, hvalid⟩ := List.mem_filter.1 hc
    subst hcandidate
    refine ⟨hentry, hc, hvalid, fun c' hc' hvalid' => ?_⟩
    obtain ⟨e', he', hentry'⟩ := exists_mem_of_mapM hentries (List.mem_filter.2 ⟨hc', hvalid'⟩)
    exact ⟨e', hentry', rt.sorter.head?_sort he (LearnedEntry.orderedBy_comesBefore hnumeric) he'⟩
  · rw [List.head?_eq_none_iff] at hnone
    have hzero : entries.length = 0 := by
      rw [← (rt.sorter.perm LearnedEntry.comesBefore entries).length_eq, hnone]
      rfl
    rw [← hlength, List.length_eq_zero_iff] at hzero
    rw [validKeys, hzero]
    rfl

/-- What `_learned_selection` selects. -/
theorem learnedSelection_eq_ok
    (h : learnedSelection rt artifact baseline context candidates = .ok learned) :
    learned.baselineSelectedCandidateKey = baseline.baselineSelectedCandidateKey ∧
      learned.finalSelectedCandidateKey = learned.learnedSelectedCandidateKey ∧
      learned.mode = .learnedGuarded ∧ learned.fallbackReason = none ∧
      Final rt context candidates learned.finalSelectedCandidateKey ∧
      ∀ key ∈ learned.learnedSelectedCandidateKey, ∃ e, e.key = key ∧
        Best rt artifact context candidates e ∧ ∃ entry ∈ learned.entries.find? fun entry =>
          some entry.candidateKey = learned.learnedSelectedCandidateKey,
            entry.predictionConfidence = some e.prediction.confidence := by
  obtain ⟨entries, -, h⟩ := bind_eq_ok h
  obtain ⟨ordered, hordered, h⟩ := bind_eq_ok h
  obtain rfl := Except.ok.inj h
  obtain ⟨hbest, hnone⟩ := head_orderedLearned hordered
  refine ⟨rfl, rfl, rfl, rfl, ?_, ?_⟩
  · dsimp only
    rcases hhead : ordered.head? with _ | e
    · exact .inr ⟨hnone hhead, rfl⟩
    · have hbest := hbest e hhead
      obtain ⟨-, hkey, -⟩ := learnedEntry_eq_ok hbest.entry
      have hmem : e.key ∈ validKeys rt context candidates := by
        rw [hkey]
        exact List.mem_map_of_mem (List.mem_filter.2 ⟨hbest.mem, hbest.valid⟩)
      exact .inl (List.mem_map_of_mem hmem)
  · dsimp only
    intro key hkey
    obtain ⟨e, hhead, hkey⟩ := Option.map_eq_some_iff.1 hkey
    refine ⟨e, hkey, hbest e hhead, e.toEntry 1, ?_, rfl⟩
    obtain ⟨rest, rfl⟩ := List.head?_eq_some_iff.1 hhead
    simp [LearnedEntry.toEntry]

/-- **Every guard holds** for the candidate of a key. -/
structure GuardsHold (rt : Runtime) (s : GuardedCandidateSelector)
    (artifact : PartitionRankerModelArtifact) (context : RankingContext)
    (candidates : List PartitionCandidate) (key : String) : Prop where
  samples : s.guardPolicy.minimumObservedSamples ≤ artifact.sampleCount
  groups : s.guardPolicy.minimumIndependentGroups ≤ artifact.groupCount
  mae : ∃ mae, metric artifact.validationMetrics ["holdout_mae", "mae"] = .ok (some mae) ∧
    mae ≤ s.guardPolicy.maximumHoldoutMae
  correlation : ∃ r, metric artifact.validationMetrics
    ["spearman_correlation", "spearman_rank_correlation"] = .ok (some r) ∧
      s.guardPolicy.minimumSpearmanCorrelation ≤ r
  best : ∃ e, e.key = key ∧ Best rt artifact context candidates e ∧
    PyFloat.ge e.prediction.confidence (.finite s.guardPolicy.minimumSelectionConfidence) = true
  distribution : ∃ c ∈ candidates, c.valid = true ∧
    candidateKey rt context.strategyVersion c = key ∧
    ∃ features ratio, Features.extractPartitionFeatures rt context c = .ok features ∧
      LearnedRewardRanker.oodFeatureRatio artifact features = .ok ratio ∧
      ratio < s.guardPolicy.maximumOodFeatureRatio

/-- Without a failure every guard holds. -/
theorem guardsHold_of_guardFailure
    (hlearned : learnedSelection rt artifact baseline context candidates = .ok learned)
    (h : guardFailure rt s artifact learned context candidates = .ok none) :
    ∃ key, learned.learnedSelectedCandidateKey = some key ∧
      GuardsHold rt s artifact context candidates key := by
  obtain ⟨-, -, -, -, -, hselected⟩ := learnedSelection_eq_ok hlearned
  unfold guardFailure at h
  split_ifs at h with hsamples hgroups
  · cases Except.ok.inj h
  · cases Except.ok.inj h
  · obtain ⟨mae, hmae, h⟩ := bind_eq_ok h
    split_ifs at h with hexceeded
    · cases Except.ok.inj h
    · obtain ⟨correlation, hcorrelation, h⟩ := bind_eq_ok h
      split_ifs at h with hbelow
      · cases Except.ok.inj h
      · split at h
        · cases Except.ok.inj h
        · rename_i entry hentry
          split_ifs at h
          · cases Except.ok.inj h
          · have hkey : some entry.candidateKey = learned.learnedSelectedCandidateKey := by
              simpa using List.find?_some hentry
            obtain ⟨e, hekey, hbest, entry', hentry', hconfidence⟩ := hselected _ hkey.symm
            obtain rfl := Option.some.inj (hentry.symm.trans hentry')
            unfold entryFailure at h
            split at h
            · cases Except.ok.inj h
            · rename_i c hc
              split_ifs at h with hinvalid
              · cases Except.ok.inj h
              · obtain ⟨features, hfeatures, h⟩ := bind_eq_ok h
                obtain ⟨ratio, hratio, h⟩ := bind_eq_ok h
                have h := Except.ok.inj h
                unfold distributionFailure at h
                rw [hconfidence] at h
                split_ifs at h with hshift hlow
                have hckey : candidateKey rt context.strategyVersion c = entry.candidateKey := by
                  simpa using List.find?_some hc
                refine ⟨_, hkey.symm, not_lt.1 hsamples, not_lt.1 hgroups, ?_, ?_,
                  ⟨e, hekey, hbest, ?_⟩, c, List.mem_of_find?_eq_some hc, by simpa using hinvalid,
                  hckey, features, ratio, hfeatures, hratio, not_le.1 hshift⟩
                · cases mae with
                  | none => exact absurd rfl hexceeded
                  | some mae => exact ⟨mae, hmae, by simpa using hexceeded⟩
                · cases correlation with
                  | none => exact absurd rfl hbelow
                  | some r => exact ⟨r, hcorrelation, by simpa using hbelow⟩
                · have hnumber := (learnedEntry_eq_ok hbest.entry).2.2.confidence
                  exact PyFloat.ge_of_not_lt (fun hnan => hnumber (by rw [hnan]; rfl))
                    PyFloat.noConfusion (by simpa using hlow)

/-- What a selection is worth: the key is final; without a fallback in guarded mode every guard
holds for it, and otherwise it is that of the baseline. -/
structure Sound (rt : Runtime) (fl : Floats rt.toPython) (s : GuardedCandidateSelector)
    (context : RankingContext) (candidates : List PartitionCandidate) (mode : SelectionMode)
    (modelVersion baselineKey : Option String) (selection : CandidateSelection) : Prop where
  recorded : selection.mode = mode
  final : Final rt context candidates selection.finalSelectedCandidateKey
  baseline : mode ≠ .learnedGuarded ∨ selection.fallbackReason ≠ none →
    selection.finalSelectedCandidateKey = baselineKey
  guarded : mode = .learnedGuarded → selection.fallbackReason = none → ∃ artifact key,
    Available rt fl s modelVersion artifact ∧ selection.finalSelectedCandidateKey = some key ∧
      GuardsHold rt s artifact context candidates key

/-- A fallback is sound. -/
theorem sound_unavailable {reason : String}
    (hfinal : Final rt context candidates baseline.baselineSelectedCandidateKey) :
    Sound rt fl s context candidates mode modelVersion baseline.baselineSelectedCandidateKey
      (unavailableLearnedSelection rt baseline context candidates mode reason) := by
  rw [unavailableLearnedSelection, ensureValidFinal_eq hfinal]
  refine ⟨rfl, hfinal, fun _ => rfl, fun hguarded hreason => ?_⟩
  rw [if_pos hguarded] at hreason
  cases hreason

/-- **A selection is sound in every mode**, whatever the model predicts or raises.  A valid candidate
is selected where there is one; the baseline is, except in guarded mode where the artifact is
verified and every guard holds for the candidate that the model ranks first among the valid ones; and
the record of the fallback says which. -/
theorem select_sound (h : select rt fl s context candidates mode modelVersion = .ok selection) :
    Sound rt fl s context candidates mode modelVersion
      (DeterministicPolicyRanker.rank rt context candidates).baselineSelectedCandidateKey
      selection := by
  have hfinal : Final rt context candidates (DeterministicPolicyRanker.rank rt context
      candidates).baselineSelectedCandidateKey := final_baseline
  unfold select at h
  revert h
  generalize hrank : DeterministicPolicyRanker.rank rt context candidates = baseline at hfinal ⊢
  intro h
  unfold selectFrom at h
  by_cases hdeterministic : mode = .deterministic
  · rw [if_pos hdeterministic] at h
    obtain rfl := Except.ok.inj h
    subst hrank hdeterministic
    rw [ensureValidFinal_eq hfinal]
    exact ⟨rfl, hfinal, fun _ => rfl, fun hguarded => absurd hguarded (by decide)⟩
  · rw [if_neg hdeterministic] at h
    dsimp only at h
    obtain ⟨available, havailable, h⟩ := bind_eq_ok h
    rcases available with reason | artifact
    · obtain rfl := Except.ok.inj h
      exact sound_unavailable hfinal
    dsimp only at h
    rcases hlearned : learnedSelection rt artifact baseline context candidates with e | learned
    · rw [hlearned] at h
      obtain rfl := Except.ok.inj h
      exact sound_unavailable hfinal
    rw [hlearned] at h
    dsimp only at h
    obtain ⟨hkey, hlast, hmode, hreason, hlearnedFinal, -⟩ := learnedSelection_eq_ok hlearned
    by_cases hshadow : mode = .shadow
    · rw [if_pos hshadow] at h
      obtain rfl := Except.ok.inj h
      subst hshadow
      have hback : Final rt context candidates
          (shadowed baseline learned).finalSelectedCandidateKey := hfinal
      rw [ensureValidFinal_eq hback]
      exact ⟨rfl, hfinal, fun _ => rfl, fun hguarded => absurd hguarded (by decide)⟩
    rw [if_neg hshadow] at h
    have hguarded : mode = .learnedGuarded := by
      cases mode with
      | deterministic => exact absurd rfl hdeterministic
      | shadow => exact absurd rfl hshadow
      | learnedGuarded => rfl
    rcases hguards : guardFailure rt s artifact learned context candidates with e | failure
    · rw [hguards] at h
      obtain rfl := Except.ok.inj h
      exact sound_unavailable hfinal
    rw [hguards] at h
    rcases failure with _ | reason
    · obtain rfl := Except.ok.inj h
      rw [ensureValidFinal_eq hlearnedFinal]
      obtain ⟨key, hselected, hholds⟩ := guardsHold_of_guardFailure hlearned hguards
      refine ⟨hmode.trans hguarded.symm, hlearnedFinal, ?_, fun _ _ => ⟨artifact, key,
        learnedAvailability_eq_ok havailable, hlast.trans hselected, hholds⟩⟩
      rintro (hnot | hsome)
      · exact absurd hguarded hnot
      · exact absurd hreason hsome
    · obtain rfl := Except.ok.inj h
      have hback : Final rt context candidates
          (fallenBack baseline learned reason).finalSelectedCandidateKey := hfinal
      rw [ensureValidFinal_eq hback]
      exact ⟨hmode.trans hguarded.symm, hfinal, fun _ => rfl,
        fun _ hnone => absurd hnone (Option.some_ne_none reason)⟩

/-- In guarded mode the model selects where no guard fails. -/
theorem select_eq_learned (havailable : learnedAvailability rt fl s modelVersion = .ok (.ok artifact))
    (hlearned : learnedSelection rt artifact (DeterministicPolicyRanker.rank rt context candidates)
      context candidates = .ok learned)
    (hguards : guardFailure rt s artifact learned context candidates = .ok none) :
    select rt fl s context candidates .learnedGuarded modelVersion = .ok learned := by
  obtain ⟨-, -, -, -, hfinal, -⟩ := learnedSelection_eq_ok hlearned
  unfold select selectFrom
  simp only [havailable, hlearned, hguards, ensureValidFinal_eq hfinal, bind, Except.bind]
  rfl

end Selected

open ModelPartitionOrchestrationAgent

/-! ### A model that was observed to plan better -/

/-- The floats of the model, with the integer and the digits that they are written with. -/
def modelFloats : List (ℚ × ℤ × String) :=
  [(0, 0, "0"), (1, 1, "0"), (-1, -1, "0"), (1 / 8, 0, "125"), (1 / 4, 0, "25"), (1 / 2, 0, "5"),
    (7 / 8, 0, "875"), (5, 5, "0"), (1000, 1000, "0"), (Binary64.nearest (1 / 5), 0, "2"),
    (Binary64.nearest (3 / 10), 0, "3"), (Binary64.nearest (7 / 10), 0, "7")]

/-- The text of one of them. -/
def pointed (e : ℚ × ℤ × String) : String := toString e.2.1 ++ "." ++ e.2.2

/-- The conversions of these floats; `1` is the text of a confidence. -/
def confidentPython : Python where
  repr
    | .float (.finite q) => ((modelFloats.find? (·.1 = q)).map pointed).getD ""
    | _ => ""
  floatOfText text :=
    if text = "1" then some (.finite 1)
    else (modelFloats.find? (pointed · = text)).map fun e => .finite e.1
  foldChar c := [c]

theorem literal_pointed {e : ℚ × ℤ × String} (hne : e.2.2.toList ≠ [])
    (hdigits : ∀ d ∈ e.2.2.toList, d.isDigit = true) : FloatLiteral (pointed e).toList := by
  refine ⟨(toString e.2.1).toList, '.' :: e.2.2.toList, [], ?_, intLiteral_toString _,
    .inr ⟨_, rfl, hne, hdigits⟩, .inl rfl, .inl (List.cons_ne_nil _ _)⟩
  rw [pointed, String.toList_append, String.toList_append, List.append_assoc, List.append_nil]
  rfl

theorem literal_modelFloats {q : ℚ} (h : q ∈ modelFloats.map Prod.fst) :
    FloatLiteral (confidentPython.repr (.number q)).toList := by
  have hdigits : (modelFloats.all fun e =>
      !e.2.2.toList.isEmpty && e.2.2.toList.all Char.isDigit) = true := by
    decide +kernel
  obtain ⟨e, he, rfl⟩ := List.mem_map.1 h
  obtain ⟨found, hfound⟩ : ∃ found, modelFloats.find? (·.1 = e.1) = some found :=
    Option.isSome_iff_exists.1 (List.find?_isSome.2 ⟨e, he, decide_eq_true rfl⟩)
  have hrepr : confidentPython.repr (.number e.1) = pointed found := by
    show ((modelFloats.find? (·.1 = e.1)).map pointed).getD "" = _
    rw [hfound]
    rfl
  have hall := List.all_eq_true.1 hdigits found (List.mem_of_find?_eq_some hfound)
  rw [Bool.and_eq_true, Bool.not_eq_true', List.isEmpty_eq_false_iff] at hall
  rw [hrepr]
  exact literal_pointed hall.1 (List.all_eq_true.1 hall.2)

theorem parse_modelFloats {q : ℚ} (h : q ∈ modelFloats.map Prod.fst) :
    confidentPython.floatOfText (confidentPython.repr (.number q)) = some (.finite q) := by
  have hparse : ∀ q ∈ modelFloats.map Prod.fst,
      confidentPython.floatOfText (confidentPython.repr (.number q)) = some (.finite q) := by
    decide +kernel
  exact hparse q h

/-- An integer that is one of them. -/
def modelInt (i : ℤ) : Option ℚ := if (i : ℚ) ∈ modelFloats.map Prod.fst then some i else none

theorem modelInt_eq_some {i : ℤ} {q : ℚ} (h : modelInt i = some q) :
    q ∈ modelFloats.map Prod.fst ∧ q = i := by
  unfold modelInt at h
  split_ifs at h with hmem
  obtain rfl := Option.some.inj h
  exact ⟨hmem, rfl⟩

/-- The SHA-256 digest of the model. -/
def modelDigest : String := "c0d7b050ee1dd2b6d4957f117a57483a98b7952b130afacec0c58583e5cc89fb"

/-- The digests of the splits, whose documents start with the assignments, and that of the model, which
starts with the coefficients. -/
def confidentDigest (text : String) : String :=
  if text.toList.take 3 = ['\x7b', '"', 'c'] then modelDigest else splitDigest text

theorem confidentDigest_hex (text : String) : IsHexDigest (confidentDigest text) := by
  unfold confidentDigest
  split_ifs
  · exact isHexDigest_of_all (by decide) (by decide)
  · exact splitDigest_hex text

/-- The conversions that `twoDeviceRequest` and the model need. -/
def confidentRuntime : Runtime :=
  { twoDeviceRuntime with
    toPython := confidentPython
    canonicalJson := canonicalJson confidentPython
    sha256 := confidentDigest
    sha256_hex := confidentDigest_hex }

/-- What the interpreter says of them. -/
def confidentFloats : Floats confidentRuntime.toPython where
  IsFloat q := q ∈ modelFloats.map Prod.fst
  literal _ := literal_modelFloats
  parse _ := parse_modelFloats
  ofInt := modelInt
  ofInt_isFloat _ _ h := (modelInt_eq_some h).1
  ofInt_small _ _ h _ := (modelInt_eq_some h).2

/-- Sixty-four of a digit: a digest of some lineage. -/
def lineageHash (digit : Char) : String := String.ofList (List.replicate 64 digit)

/-- What the model states about its training. -/
def observedProvenance : Provenance where
  seed := 0
  ridgeAlpha := 1
  holdoutTestFraction := 1 / 4
  thresholds :=
    { minimumObservedSamples := defaultLearnedRankerGuardPolicy.minimumObservedSamples
      minimumIndependentGroups := defaultLearnedRankerGuardPolicy.minimumIndependentGroups
      maximumHoldoutMae := defaultLearnedRankerGuardPolicy.maximumHoldoutMae
      minimumSpearmanCorrelation := defaultLearnedRankerGuardPolicy.minimumSpearmanCorrelation
      minimumSelectionConfidence := defaultLearnedRankerGuardPolicy.minimumSelectionConfidence
      maximumOodFeatureRatio := defaultLearnedRankerGuardPolicy.maximumOodFeatureRatio }
  lineageGroupHashes := ['1', '2', '3', '4', '5'].map lineageHash

/-- The metrics of the model on the samples that were held out. -/
def observedMetrics : Fields :=
  [("holdout_mae", .number (1 / 8)), ("mae", .number (1 / 8)), ("rmse", .number (1 / 4)),
    ("spearman_correlation", .number (1 / 2)), ("candidate_selection_agreement", .number 1),
    ("candidate_selection_agreement_available", .number 1), ("learned_regret", .number 0),
    ("learned_regret_available", .number 1), ("baseline_regret", .number (1 / 4)),
    ("baseline_regret_available", .number 1), ("ranking_group_count", .number 5),
    ("quality_eligible", .number 1), ("deployment_eligible", .number 1)]

/-- A model that prefers an even share of the layers. -/
def evenShareModel : PartitionRankerModelArtifact where
  schemaVersion := modelArtifactSchemaVersion
  modelType := "ridge_reward_regressor"
  modelVersion := "v1"
  featureSchemaVersion := featureSchemaVersion
  trainedAt := "2024-01-01T00:00:00+00:00"
  trainingDatasetHash := lineageHash '0'
  trainingScope := "observed"
  sampleCount := 30
  groupCount := 5
  featureOrder := featureOrder
  featureMean := featureOrder.map fun _ => .number 0
  featureScale := featureOrder.map fun _ => .number 1
  coefficients := featureOrder.map fun name =>
    .number (if name = "candidate_compute_share_max" then -1 else 0)
  intercept := .number 1
  trainingFeatureRanges := featureOrder.map fun name => (name, .arr [.number 0, .number 1000])
  validationMetrics := observedMetrics
  confidencePolicy := [("base_confidence", .number (7 / 8))]
  trainingProvenance := observedProvenance.toDict
  artifactHash := modelDigest

/-- A selector with that model. -/
def withModel : GuardedCandidateSelector := ⟨some evenShareModel, defaultLearnedRankerGuardPolicy⟩

/-- The hash of the model is that of its document. -/
theorem verifyHash_evenShareModel :
    evenShareModel.verifyHash confidentFloats confidentRuntime.sha256 = .ok () := by
  have hvalidate : ∀ requireHash,
      evenShareModel.validate confidentFloats requireHash = .ok observedProvenance := by
    decide +kernel
  have hstart : (dumpChars confidentPython (sortKeys (.obj
      (evenShareModel.hashedFields observedProvenance)))).take 3 = ['\x7b', '"', 'c'] := by
    decide +kernel
  have hdigest : confidentRuntime.sha256 (canonicalJson confidentPython (.obj
      (evenShareModel.hashedFields observedProvenance))) = modelDigest := by
    show confidentDigest (String.ofList _) = _
    rw [confidentDigest, String.toList_ofList, if_pos hstart]
  have hhash : evenShareModel.computedHash confidentFloats confidentRuntime.sha256
      = .ok modelDigest := by
    unfold PartitionRankerModelArtifact.computedHash
    rw [hvalidate, ← hdigest]
    rfl
  unfold PartitionRankerModelArtifact.verifyHash
  rw [hvalidate, hhash]
  rfl

/-- The model may be used. -/
theorem available_evenShareModel : learnedAvailability confidentRuntime confidentFloats withModel
    (some "v1") = .ok (.ok evenShareModel) := by
  unfold learnedAvailability
  dsimp only [withModel]
  rw [if_neg (by decide), if_neg (by decide), verifyHash_evenShareModel]

/-- No guard fails on the split that the model selects. -/
theorem selected_evenShareModel : ((do
    let intent ← twoDeviceStrategy.buildPartitionIntent confidentRuntime twoDeviceNormalized
    let cs ← candidates confidentRuntime latencyPolicy twoDeviceNormalized.roundPlan
      twoDeviceNormalized intent .none
    let baseline := DeterministicPolicyRanker.rank confidentRuntime ⟨twoDeviceNormalized, intent⟩ cs
    let learned ← learnedSelection confidentRuntime evenShareModel baseline
      ⟨twoDeviceNormalized, intent⟩ cs
    let failure ← guardFailure confidentRuntime withModel evenShareModel learned
      ⟨twoDeviceNormalized, intent⟩ cs
    return (baseline.baselineSelectedCandidateKey, failure, learned.finalSelectedCandidateKey)) :
      Except PartitionError _)
    = .ok (some (splitKey twoDeviceRuntime 3), none, some (splitKey twoDeviceRuntime 2)) := by
  decide +kernel

/-- **The model selects another split than the baseline**: the guards hold, and of the two splits that
fit it prefers the even one, where the baseline prefers the faster. -/
theorem select_evenShareModel : ∃ intent cs selection,
    twoDeviceStrategy.buildPartitionIntent confidentRuntime twoDeviceNormalized = .ok intent ∧
    candidates confidentRuntime latencyPolicy twoDeviceNormalized.roundPlan twoDeviceNormalized intent
      .none = .ok cs ∧
    select confidentRuntime confidentFloats withModel ⟨twoDeviceNormalized, intent⟩ cs
      .learnedGuarded (some "v1") = .ok selection ∧
    Sound confidentRuntime confidentFloats withModel ⟨twoDeviceNormalized, intent⟩ cs .learnedGuarded
      (some "v1") (some (splitKey twoDeviceRuntime 3)) selection ∧
    selection.fallbackReason = none ∧
    selection.finalSelectedCandidateKey = some (splitKey twoDeviceRuntime 2) := by
  obtain ⟨intent, hintent, h⟩ := bind_eq_ok selected_evenShareModel
  obtain ⟨cs, hcs, h⟩ := bind_eq_ok h
  obtain ⟨learned, hlearned, h⟩ := bind_eq_ok h
  obtain ⟨failure, hfailure, h⟩ := bind_eq_ok h
  obtain ⟨hbaseline, hrest⟩ := Prod.mk.inj (Except.ok.inj h)
  obtain ⟨rfl, hkey⟩ := Prod.mk.inj hrest
  obtain ⟨-, -, -, hreason, -⟩ := learnedSelection_eq_ok hlearned
  have hselection := select_eq_learned available_evenShareModel hlearned hfailure
  have hsound := select_sound hselection
  rw [hbaseline] at hsound
  exact ⟨intent, cs, learned, hintent, hcs, hselection, hsound, hreason, hkey⟩

end GuardedCandidateSelector

/-! ### Planning in every mode -/

/-- How the planner selects: its selector, the mode and the version of the model. -/
structure Selecting (rt : Runtime) where
  floats : Floats rt.toPython
  selector : GuardedCandidateSelector
  selectionMode : SelectionMode
  rankerModelVersion : Option String

/-- The selection among some candidates. -/
def Selecting.select {rt : Runtime} (sel : Selecting rt) (context : RankingContext)
    (candidates : List PartitionCandidate) : Except PartitionError CandidateSelection :=
  sel.selector.select rt sel.floats context candidates sel.selectionMode sel.rankerModelVersion

namespace ModelPartitionOrchestrationAgent

/-- The plan of a selection on the one candidate of a federated request. -/
def federatedPlanOfSelection (policy : ModelPartitionPolicy) (planId : String)
    (roundPlan : RoundPlan) (candidate : PartitionCandidate) (selection : CandidateSelection) :
    PartitionExecutionPlan :=
  match selection.finalSelectedCandidateKey with
  | none => safeFailure policy planId roundPlan ["no_feasible_partition"] [candidate] selection
  | some _ => selectedPlan policy planId roundPlan candidate []
      ("Selected one approved full-model replica per participant with " ++
        "remote updates directed to the coordination aggregator.") selection

/-- `_plan`, in every selection mode. -/
def planSelecting (rt : Runtime) (sel : Selecting rt) (policy : ModelPartitionPolicy)
    (planId : String) (roundPlan : RoundPlan) (exclusions : Exclusions)
    (normalized : NormalizedPartitionRequest) (intent : PartitionIntent) :
    Except PartitionError PartitionExecutionPlan := do
  let participants := survivors roundPlan exclusions
  let refused := safeFailure policy planId roundPlan ["insufficient_participants_after_failure"] []
    none
  if intent.strategyId = "federated-full-model-v1" then
    if participants.length < 2 ∨ roundPlan.layers = [] then return refused
    else
      let candidate ←
        buildFederatedFullModelCandidate rt policy roundPlan participants exclusions intent
      let selection ← sel.select ⟨normalized, intent⟩ [candidate]
      return federatedPlanOfSelection policy planId roundPlan candidate selection
  else if participants.length < 2 ∨ roundPlan.layers.length < participants.length then
    return refused
  else
    let candidates ← candidates rt policy roundPlan normalized intent exclusions
    let selection ← sel.select ⟨normalized, intent⟩ candidates
    return planOfSelection rt policy planId roundPlan intent.strategyVersion candidates selection

/-- **In deterministic mode `_plan` needs no model.** -/
theorem planSelecting_deterministic {rt : Runtime} {sel : Selecting rt}
    (h : sel.selectionMode = .deterministic) (policy : ModelPartitionPolicy) (planId : String)
    (roundPlan : RoundPlan) (exclusions : Exclusions) (normalized : NormalizedPartitionRequest)
    (intent : PartitionIntent) :
    planSelecting rt sel policy planId roundPlan exclusions normalized intent =
      plan rt policy planId roundPlan exclusions normalized intent := by
  have hselect : ∀ context candidates, sel.select context candidates =
      .ok (GuardedCandidateSelector.selectDeterministic rt context candidates) := by
    intro context candidates
    unfold Selecting.select GuardedCandidateSelector.select GuardedCandidateSelector.selectFrom
    rw [h, if_pos rfl]
    rfl
  unfold planSelecting plan planFederatedFullModel
  dsimp only
  split_ifs
  · rfl
  · simp only [hselect, bind, Except.bind, pure, Except.pure]
    rcases buildFederatedFullModelCandidate rt policy roundPlan (survivors roundPlan exclusions)
      exclusions intent with e | candidate
    · rfl
    · dsimp only
      unfold federatedPlanOfSelection
      rcases (GuardedCandidateSelector.selectDeterministic rt ⟨normalized, intent⟩
        [candidate]).finalSelectedCandidateKey with _ | key
      · rfl
      · rfl
  · rfl
  · simp only [hselect]
    rfl

/-- The conversions that requests are served with: any document but that of a split has one digest. -/
def servingRuntime : Runtime :=
  { GuardedCandidateSelector.confidentRuntime with
    sha256 := splitDigest
    sha256_hex := splitDigest_hex }

theorem splitKey_servingRuntime : ∀ boundary ∈ [1, 2, 3],
    splitKey servingRuntime boundary = splitKey twoDeviceRuntime boundary := by
  decide +kernel

/-- Selection of the baseline, although there is a model. -/
def baselineOnly : Selecting servingRuntime where
  floats := GuardedCandidateSelector.confidentFloats
  selector := GuardedCandidateSelector.withModel
  selectionMode := .deterministic
  rankerModelVersion := none

end ModelPartitionOrchestrationAgent

end Partition
end AiopsK8s
