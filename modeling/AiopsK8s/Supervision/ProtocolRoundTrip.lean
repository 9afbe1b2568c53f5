/-
# A protocol profile and its document

A profile that was read is trimmed, so the document that it writes is read back into it
(`fromDict_of_writtenIn`), and so is the same document with its keys sorted, into the profile with
its mappings sorted (`writtenIn_sorted`).  The text that is hashed determines the profile up to the
order of its mappings (`same_of_canonicalText`), so together the codec loses nothing
(`codec_faithful`).
-/

import AiopsK8s.Supervision.ProtocolEntries

namespace AiopsK8s
namespace Supervision

open Effect JsonText Text

/-! ### What was read is trimmed -/

/-- The texts of a binding are trimmed. -/
structure ProtocolAgentBinding.Trimmed (b : ProtocolAgentBinding) : Prop where
  name : Proper b.name
  implementationId : Proper b.implementationId
  runtime : Proper b.runtime
  vetoScopes : ∀ s ∈ b.vetoScopes, Proper s
  capabilities : ∀ s ∈ b.capabilities, Proper s

/-- The texts of a profile are trimmed, and its mappings have each key once. -/
structure ResearchProtocolProfile.Trimmed (p : ResearchProtocolProfile) : Prop where
  profileId : Proper p.profileId
  version : Proper p.version
  agents : ∀ b ∈ p.agents, b.Trimmed
  targets : ∀ e ∈ p.reviewMatrix, Proper e.1
  reviewers : ∀ e ∈ p.reviewMatrix, ∀ r ∈ e.2, Proper r
  targets_nodup : (p.reviewMatrix.map Prod.fst).Nodup
  rewards : ∀ e ∈ p.rewardWeights, Proper e.1
  rewards_nodup : (p.rewardWeights.map Prod.fst).Nodup
  tags : ∀ s ∈ p.experimentTags, Proper s

section Reading

variable {py : Python} {fl : Floats py} {source : List (String × Json)}

theorem BindingDraft.ReadFrom.trimmed {b : ProtocolAgentBinding}
    (h : b.draft.ReadFrom fl source) : b.Trimmed :=
  ⟨proper_of_requiredText h.name, proper_of_requiredText h.implementationId,
    proper_of_requiredText h.runtime, proper_of_requiredTexts h.vetoScopes,
    proper_of_requiredTexts h.capabilities⟩

/-- Every item of a dictionary is one of its entries. -/
theorem mem_of_mem_ofEntries {α : Type} {entries : List (String × α)} {e : String × α}
    (h : e ∈ Dict.ofEntries entries) : e ∈ entries :=
  Dict.mem_of_lookup_reverse (Dict.mem_ofEntries.1 h)

theorem ProfileDraft.ReadFrom.trimmed {p : ResearchProtocolProfile}
    (h : p.draft.ReadFrom fl source) : p.Trimmed := by
  obtain ⟨agentItems, -, hagents⟩ := h.agents
  obtain ⟨matrixItems, matrix, -, hmatrix, hreview⟩ := h.reviewMatrix
  obtain ⟨weightItems, weights, -, hweights, hreward⟩ := h.rewardWeights
  have hreview : p.reviewMatrix = Dict.ofEntries matrix := hreview
  have hreward : p.rewardWeights.map (fun e => (e.1, PyFloat.finite e.2))
      = Dict.ofEntries weights := hreward
  have hentry : ∀ e ∈ p.reviewMatrix, ∃ f ∈ matrixItems, reviewerEntry f = .ok e := by
    intro e he
    rw [hreview] at he
    exact exists_of_mem_mapM hmatrix (mem_of_mem_ofEntries he)
  refine ⟨proper_of_requiredText h.profileId, proper_of_requiredText h.version, ?_, ?_, ?_, ?_, ?_,
    ?_, proper_of_requiredTexts h.tags⟩
  · intro b hb
    obtain ⟨item, -, hitem⟩ := exists_of_mem_mapM hagents (List.mem_map_of_mem hb)
    obtain ⟨fields, rfl, hread⟩ := BindingDraft.fromDict_eq_ok.1 hitem
    exact hread.trimmed
  · intro e he
    obtain ⟨f, -, hf⟩ := hentry e he
    obtain ⟨htarget, hne, -⟩ := reviewerEntry_eq_ok.1 hf
    rw [htarget] at hne ⊢
    exact proper_strip hne
  · intro e he
    obtain ⟨f, -, hf⟩ := hentry e he
    exact proper_of_requiredTexts (reviewerEntry_eq_ok.1 hf).2.2
  · rw [hreview]
    exact Dict.nodup_keys_ofEntries matrix
  · intro e he
    have hmem : (e.1, PyFloat.finite e.2) ∈ Dict.ofEntries weights := by
      rw [← hreward]
      exact List.mem_map_of_mem he
    obtain ⟨f, -, hf⟩ := exists_of_mem_mapM hweights (mem_of_mem_ofEntries hmem)
    obtain ⟨hname, hne, -⟩ := rewardEntry_eq_ok.1 hf
    rw [hname] at hne ⊢
    exact proper_strip hne
  · have hkeys : (p.rewardWeights.map fun e => (e.1, PyFloat.finite e.2)).map Prod.fst
        = p.rewardWeights.map Prod.fst := by
      rw [List.map_map]
      rfl
    rw [← hkeys, hreward]
    exact Dict.nodup_keys_ofEntries weights

/-- The weights of a profile are floats where the numbers of its document are. -/
theorem isFloat_of_weightOf {value : Json} {q : ℚ} (h : weightOf fl value = some (.finite q))
    (hvalue : IsValue fl value) : fl.IsFloat q := by
  cases value with
  | int i =>
      obtain ⟨r, hr, hq⟩ := Option.map_eq_some_iff.1 h
      obtain rfl := PyFloat.finite.inj hq
      exact fl.ofInt_isFloat i _ hr
  | float x =>
      obtain rfl := Option.some.inj h
      exact hvalue
  | null => cases h
  | bool b => cases h
  | str s => cases h
  | arr items => cases h
  | obj fields => cases h

theorem ProfileDraft.ReadFrom.weights_isFloat {p : ResearchProtocolProfile}
    (h : p.draft.ReadFrom fl source) (hsource : IsValue fl (.obj source)) :
    (∀ b ∈ p.agents, fl.IsFloat b.consensusWeight) ∧ ∀ e ∈ p.rewardWeights, fl.IsFloat e.2 := by
  constructor
  · intro b hb
    obtain ⟨items, hitems, hagents⟩ := h.agents
    obtain ⟨item, hmem, hitem⟩ := exists_of_mem_mapM hagents (List.mem_map_of_mem hb)
    obtain ⟨fields, rfl, hread⟩ := BindingDraft.fromDict_eq_ok.1 hitem
    have hvalue := isValue_get hsource "agents"
    rw [hitems, isValue_arr] at hvalue
    exact isFloat_of_weightOf (protocolNumberValue_eq_ok.1 hread.weight) (isValue_get (hvalue _ hmem) _)
  · intro e he
    obtain ⟨items, weights, hitems, hweights, hreward⟩ := h.rewardWeights
    have hmem : (e.1, PyFloat.finite e.2) ∈ Dict.ofEntries weights := by
      rw [← hreward]
      exact List.mem_map_of_mem he
    obtain ⟨f, hf, hentry⟩ := exists_of_mem_mapM hweights (mem_of_mem_ofEntries hmem)
    have hvalue := isValue_get hsource "reward_weights"
    rw [hitems, isValue_obj] at hvalue
    exact isFloat_of_weightOf (rewardEntry_eq_ok.1 hentry).2.2 (hvalue.2 f hf)

end Reading

/-! ### Documents of a profile -/

/-- A document that says what a binding says. -/
structure ProtocolAgentBinding.WrittenIn (fields : List (String × Json))
    (b : ProtocolAgentBinding) : Prop where
  keys : ∀ f ∈ fields, f.1 ∈ bindingKeys
  name : Json.get fields "name" = .str b.name
  implementationId : Json.get fields "implementation_id" = .str b.implementationId
  runtime : Json.get fields "runtime" = .str b.runtime
  enabled : Json.get fields "enabled" = .bool b.enabled
  vetoScopes : Json.get fields "veto_scopes" = .texts b.vetoScopes
  weight : Json.get fields "consensus_weight" = .number b.consensusWeight
  capabilities : Json.get fields "capabilities" = .texts b.capabilities

/-- A document that says what a profile says. -/
structure ResearchProtocolProfile.WrittenIn (fields : List (String × Json))
    (p : ResearchProtocolProfile) : Prop where
  keys : ∀ f ∈ fields, f.1 ∈ profileKeys
  profileId : Json.get fields "profile_id" = .str p.profileId
  version : Json.get fields "version" = .str p.version
  agents : ∃ document : ProtocolAgentBinding → List (String × Json),
    Json.get fields "agents" = .arr (p.agents.map fun b => .obj (document b)) ∧
      ∀ b ∈ p.agents, b.WrittenIn (document b)
  reviewMatrix : Json.get fields "review_matrix"
    = .obj (p.reviewMatrix.map fun e => (e.1, .texts e.2))
  strategy : Json.get fields "consensus_strategy" = .str p.consensusStrategy.value
  rounds : Json.get fields "max_negotiation_rounds" = .int p.maxNegotiationRounds
  attempts : Json.get fields "max_replan_attempts" = .int p.maxReplanAttempts
  fallback : Json.get fields "fallback_action" = .str p.fallbackAction.value
  review : Json.get fields "human_review_on_failure" = .bool p.humanReviewOnFailure
  actions : Json.get fields "action_space" = .ofList (fun k => .str k.value) p.actionSpace
  rewardWeights : Json.get fields "reward_weights"
    = .obj (p.rewardWeights.map fun e => (e.1, .number e.2))
  tags : Json.get fields "experiment_tags" = .texts p.experimentTags
  configHash : Json.get fields "config_hash" = .str p.configHash

theorem ConsensusStrategy.proper_value (s : ConsensusStrategy) : Proper s.value := by
  cases s <;> decide

theorem RecoveryActionKind.proper_value (k : RecoveryActionKind) : Proper k.value := by
  cases k <;> decide

section Writing

variable {py : Python} {fl : Floats py} {fields : List (String × Json)}

theorem ProtocolAgentBinding.WrittenIn.readFrom {b : ProtocolAgentBinding}
    (h : b.WrittenIn fields) (ht : b.Trimmed) : b.draft.ReadFrom fl fields where
  keys := h.keys
  vetoScopes := by
    rw [h.vetoScopes]
    exact requiredTexts_texts ht.vetoScopes _ _
  capabilities := by
    rw [h.capabilities]
    exact requiredTexts_texts ht.capabilities _ _
  name := by
    rw [h.name]
    exact requiredText_str ht.name _
  implementationId := by
    rw [h.implementationId]
    exact requiredText_str ht.implementationId _
  runtime := by
    rw [h.runtime]
    exact requiredText_str ht.runtime _
  weight := by
    rw [h.weight]
    rfl
  enabled := h.enabled.symm

/-- **A document that says what a trimmed profile says is read into its draft.** -/
theorem ResearchProtocolProfile.WrittenIn.readFrom {p : ResearchProtocolProfile}
    (h : p.WrittenIn fields) (ht : p.Trimmed) : p.draft.ReadFrom fl fields where
  agents := by
    obtain ⟨document, hdocument, hwritten⟩ := h.agents
    refine ⟨_, hdocument, mapM_of_forall₂ (List.forall₂_map_left_iff.2
      (List.forall₂_map_right_iff.2 (List.forall₂_same.2 fun b hb => ?_)))⟩
    exact BindingDraft.fromDict_eq_ok.2 ⟨_, rfl, (hwritten b hb).readFrom (ht.agents b hb)⟩
  reviewMatrix := by
    refine ⟨_, p.reviewMatrix, h.reviewMatrix, mapM_map_ok fun e he => ?_,
      (Dict.ofEntries_of_nodup ht.targets_nodup).symm⟩
    exact reviewerEntry_eq_ok.2 ⟨(ht.targets e he).strip_eq.symm, (ht.targets e he).ne_empty,
      requiredTexts_texts (ht.reviewers e he) _ _⟩
  strategy := by
    rw [consensusStrategyOf_eq_ok, h.strategy]
    exact ⟨_, requiredText_str p.consensusStrategy.proper_value _,
      p.consensusStrategy.ofValue_value⟩
  fallback := by
    rw [fallbackActionOf_eq_ok, h.fallback]
    exact ⟨_, requiredText_str p.fallbackAction.proper_value _, p.fallbackAction.ofValue_value⟩
  actions := ⟨_, h.actions, mapM_map_ok fun k _ => actionOf_eq_ok.2 k.ofValue_value⟩
  rewardWeights := by
    have hnodup : ((p.rewardWeights.map fun e => (e.1, PyFloat.finite e.2)).map Prod.fst).Nodup := by
      rw [List.map_map]
      exact ht.rewards_nodup
    refine ⟨_, _, h.rewardWeights, ?_, (Dict.ofEntries_of_nodup hnodup).symm⟩
    refine mapM_of_forall₂ (List.forall₂_map_left_iff.2 (List.forall₂_map_right_iff.2
      (List.forall₂_same.2 fun e he => ?_)))
    exact rewardEntry_eq_ok.2 ⟨(ht.rewards e he).strip_eq.symm, (ht.rewards e he).ne_empty, rfl⟩
  tags := by
    rw [h.tags]
    exact requiredTexts_texts ht.tags _ _
  profileId := by
    rw [h.profileId]
    exact requiredText_str ht.profileId _
  version := by
    rw [h.version]
    exact requiredText_str ht.version _
  rounds := h.rounds
  attempts := h.attempts
  review := h.review.symm

end Writing

/-! ### Reading a document back -/

namespace ResearchProtocolProfile

variable {py : Python} {fl : Floats py} {sha256 : String → String}
  {fields source : List (String × Json)} {p q : ResearchProtocolProfile}

/-- What is true of every accepted profile. -/
structure Accepted (py : Python) (sha256 : String → String) (p : ResearchProtocolProfile) : Prop where
  trimmed : p.Trimmed
  valid : p.Valid
  short : (Json.obj p.canonicalPayload).hasLongInteger = false
  hash : p.configHash = sha256 (p.canonicalText py)

theorem accepted_of_fromDict (h : fromDict fl sha256 source = .ok p) : p.Accepted py sha256 := by
  obtain ⟨-, hread, hvalid, hshort, hhash, -⟩ := fromDict_eq_ok.1 h
  exact ⟨hread.trimmed, hvalid, hshort, hhash⟩

/-- **A document that says what an accepted profile says is read back into it.** -/
theorem fromDict_of_writtenIn (h : p.WrittenIn fields) (hp : p.Accepted py sha256) :
    fromDict fl sha256 fields = .ok p :=
  fromDict_eq_ok.2 ⟨h.keys, h.readFrom hp.trimmed, hp.valid, hp.short, hp.hash, .inr h.configHash⟩

theorem nodup_keys_toDict (b : ProtocolAgentBinding) : (b.toDict.map Prod.fst).Nodup := by
  show ["name", "implementation_id", "runtime", "enabled", "veto_scopes", "consensus_weight",
    "capabilities"].Nodup
  decide

theorem nodup_keys_canonicalPayload (p : ResearchProtocolProfile) :
    (p.canonicalPayload.map Prod.fst).Nodup := by
  show ["profile_id", "version", "agents", "review_matrix", "consensus_strategy",
    "max_negotiation_rounds", "max_replan_attempts", "fallback_action", "human_review_on_failure",
    "action_space", "reward_weights", "experiment_tags"].Nodup
  decide

theorem nodup_keys_toCanonicalDict (p : ResearchProtocolProfile) :
    (p.toCanonicalDict.map Prod.fst).Nodup := by
  show ["profile_id", "version", "agents", "review_matrix", "consensus_strategy",
    "max_negotiation_rounds", "max_replan_attempts", "fallback_action", "human_review_on_failure",
    "action_space", "reward_weights", "experiment_tags", "config_hash"].Nodup
  decide

theorem writtenIn_toDict (b : ProtocolAgentBinding) : b.WrittenIn b.toDict where
  keys := by simp [ProtocolAgentBinding.toDict, bindingKeys]
  name := rfl
  implementationId := rfl
  runtime := rfl
  enabled := rfl
  vetoScopes := rfl
  weight := rfl
  capabilities := rfl

theorem writtenIn_toCanonicalDict (p : ResearchProtocolProfile) : p.WrittenIn p.toCanonicalDict where
  keys := by simp [toCanonicalDict, canonicalPayload, profileKeys]
  profileId := rfl
  version := rfl
  agents := ⟨ProtocolAgentBinding.toDict, rfl, fun b _ => writtenIn_toDict b⟩
  reviewMatrix := rfl
  strategy := rfl
  rounds := rfl
  attempts := rfl
  fallback := rfl
  review := rfl
  actions := rfl
  rewardWeights := rfl
  tags := rfl
  configHash := rfl

/-! ### Sorted documents -/

/-- Entries in the order of their names. -/
def byName {α : Type} (entries : List (String × α)) : List (String × α) :=
  entries.insertionSort fun a b => a.1 ≤ b.1

theorem perm_byName {α : Type} (entries : List (String × α)) : (byName entries).Perm entries :=
  List.perm_insertionSort _ entries

theorem no_self_review_byName (p : ResearchProtocolProfile) :
    ∀ e ∈ byName p.reviewMatrix, e.1 ∉ e.2 := by
  intro e he
  exact p.no_self_review e ((perm_byName _).mem_iff.1 he)

/-- The profile with its mappings in the order of their keys. -/
def sorted (p : ResearchProtocolProfile) : ResearchProtocolProfile :=
  { p with
    reviewMatrix := byName p.reviewMatrix
    rewardWeights := byName p.rewardWeights
    no_self_review := no_self_review_byName p }

/-- Sorting a mapping of leaves again changes nothing. -/
theorem sortKeys_byName {α : Type} {f : α → Json} (h : ∀ a, sortKeys (f a) = f a)
    (entries : List (String × α)) : sortKeys (.obj ((byName entries).map fun e => (e.1, f e.2)))
      = sortKeys (.obj (entries.map fun e => (e.1, f e.2))) := by
  have hsorted := sortKeys_obj_map h entries
  calc sortKeys (.obj ((byName entries).map fun e => (e.1, f e.2)))
      = sortKeys (sortKeys (.obj (entries.map fun e => (e.1, f e.2)))) := by rw [hsorted, byName]
    _ = sortKeys (.obj (entries.map fun e => (e.1, f e.2))) := sortKeys_idem _

/-- **The order of the mappings does not enter the text that is hashed.** -/
theorem canonicalText_sorted (py : Python) (p : ResearchProtocolProfile) :
    p.sorted.canonicalText py = p.canonicalText py := by
  have hsame : sortKeys (.obj p.sorted.canonicalPayload) = sortKeys (.obj p.canonicalPayload) := by
    refine sortKeys_obj_congr ?_
    refine .cons ⟨rfl, rfl⟩ (.cons ⟨rfl, rfl⟩ (.cons ⟨rfl, rfl⟩ (.cons ⟨rfl, ?_⟩
      (.cons ⟨rfl, rfl⟩ (.cons ⟨rfl, rfl⟩ (.cons ⟨rfl, rfl⟩ (.cons ⟨rfl, rfl⟩ (.cons ⟨rfl, rfl⟩
        (.cons ⟨rfl, rfl⟩ (.cons ⟨rfl, ?_⟩ (.cons ⟨rfl, rfl⟩ .nil)))))))))))
    · exact sortKeys_byName sortKeys_texts p.reviewMatrix
    · exact sortKeys_byName (fun _ => rfl) p.rewardWeights
  rw [canonicalText, canonicalText, canonicalJson, canonicalJson, hsame]

theorem hasLongItem_map {α : Type} {f : α → Json} (h : ∀ a, (f a).hasLongInteger = false)
    (l : List α) : Json.hasLongItem (l.map f) = false := by
  induction l with
  | nil => rfl
  | cons a l ih => rw [List.map_cons, Json.hasLongItem, h a, ih, Bool.or_self]

theorem hasLongField_map {α : Type} {f : α → Json} (h : ∀ a, (f a).hasLongInteger = false)
    (entries : List (String × α)) :
    Json.hasLongField (entries.map fun e => (e.1, f e.2)) = false := by
  induction entries with
  | nil => rfl
  | cons e entries ih => rw [List.map_cons, Json.hasLongField, h e.2, ih, Bool.or_self]

theorem hasLongInteger_texts (l : List String) : (Json.texts l).hasLongInteger = false :=
  hasLongItem_map (fun _ => rfl) l

/-- The only integers of a profile are its bounds. -/
theorem hasLongInteger_canonicalPayload (p : ResearchProtocolProfile) :
    (Json.obj p.canonicalPayload).hasLongInteger
      = (Json.isLongInteger p.maxNegotiationRounds || Json.isLongInteger p.maxReplanAttempts) := by
  have hagents : Json.hasLongItem (p.agents.map fun b => .obj b.toDict) = false := by
    refine hasLongItem_map (fun b => ?_) _
    simp only [ProtocolAgentBinding.toDict, Json.hasLongInteger, Json.hasLongField,
      hasLongInteger_texts, Json.number, Bool.or_self]
  have hmatrix := hasLongField_map hasLongInteger_texts p.reviewMatrix
  have hactions : Json.hasLongItem (p.actionSpace.map fun k => .str k.value) = false :=
    hasLongItem_map (fun _ => rfl) _
  have hweights : Json.hasLongField (p.rewardWeights.map fun e => (e.1, Json.number e.2)) = false :=
    hasLongField_map (fun _ => rfl) _
  simp only [canonicalPayload, Json.hasLongInteger, Json.hasLongField, Json.ofList, hagents, hmatrix,
    hactions, hweights, hasLongInteger_texts, Bool.false_or, Bool.or_false]

theorem Accepted.sorted (h : p.Accepted py sha256) : p.sorted.Accepted py sha256 where
  trimmed :=
    { h.trimmed with
      targets := fun e he => h.trimmed.targets e ((perm_byName _).mem_iff.1 he)
      reviewers := fun e he => h.trimmed.reviewers e ((perm_byName _).mem_iff.1 he)
      targets_nodup := ((perm_byName _).map _).nodup_iff.2 h.trimmed.targets_nodup
      rewards := fun e he => h.trimmed.rewards e ((perm_byName _).mem_iff.1 he)
      rewards_nodup := ((perm_byName _).map _).nodup_iff.2 h.trimmed.rewards_nodup }
  valid :=
    { h.valid with
      targets := fun name hname => ((perm_byName _).map _).mem_iff.2 (h.valid.targets name hname)
      targets_known := fun t ht => h.valid.targets_known t (((perm_byName _).map _).mem_iff.1 ht)
      targets_nonblank := fun e he => h.valid.targets_nonblank e ((perm_byName _).mem_iff.1 he)
      reviewers := fun e he => h.valid.reviewers e ((perm_byName _).mem_iff.1 he)
      rewards_ne_nil := fun hnil => h.valid.rewards_ne_nil
        (List.perm_nil.1 (hnil ▸ (perm_byName p.rewardWeights).symm))
      rewards_nonblank := fun e he => h.valid.rewards_nonblank e ((perm_byName _).mem_iff.1 he)
      rewards_nonneg := fun e he => h.valid.rewards_nonneg e ((perm_byName _).mem_iff.1 he) }
  short := by
    rw [hasLongInteger_canonicalPayload]
    exact (hasLongInteger_canonicalPayload p).symm.trans h.short
  hash := by
    rw [canonicalText_sorted]
    exact h.hash

theorem writtenIn_sortedFields_toDict (b : ProtocolAgentBinding) :
    b.WrittenIn (sortedFields b.toDict) where
  keys := by
    intro f hf
    have hmem := (keys_sortedFields_perm b.toDict).mem_iff.1 (List.mem_map_of_mem hf)
    obtain ⟨g, hg, hkey⟩ := List.mem_map.1 hmem
    rw [← hkey]
    exact (writtenIn_toDict b).keys g hg
  name := get_sortedFields (nodup_keys_toDict b) _
  implementationId := get_sortedFields (nodup_keys_toDict b) _
  runtime := get_sortedFields (nodup_keys_toDict b) _
  enabled := get_sortedFields (nodup_keys_toDict b) _
  vetoScopes := (get_sortedFields (nodup_keys_toDict b) _).trans (sortKeys_texts _)
  weight := get_sortedFields (nodup_keys_toDict b) _
  capabilities := (get_sortedFields (nodup_keys_toDict b) _).trans (sortKeys_texts _)

/-- **The document with its keys sorted says what the profile with sorted mappings says.** -/
theorem writtenIn_sorted (p : ResearchProtocolProfile) :
    p.sorted.WrittenIn (sortedFields p.toCanonicalDict) where
  keys := by
    intro f hf
    have hmem := (keys_sortedFields_perm p.toCanonicalDict).mem_iff.1 (List.mem_map_of_mem hf)
    obtain ⟨g, hg, hkey⟩ := List.mem_map.1 hmem
    rw [← hkey]
    exact (writtenIn_toCanonicalDict p).keys g hg
  profileId := get_sortedFields (nodup_keys_toCanonicalDict p) _
  version := get_sortedFields (nodup_keys_toCanonicalDict p) _
  agents := by
    refine ⟨fun b => sortedFields b.toDict, ?_, fun b _ => writtenIn_sortedFields_toDict b⟩
    refine (get_sortedFields (nodup_keys_toCanonicalDict p) _).trans ?_
    show sortKeys (.arr (p.agents.map fun b => .obj b.toDict)) = _
    rw [sortKeys, sortItems_eq_map, List.map_map]
    rfl
  reviewMatrix := (get_sortedFields (nodup_keys_toCanonicalDict p) _).trans
    (sortKeys_obj_map sortKeys_texts p.reviewMatrix)
  strategy := get_sortedFields (nodup_keys_toCanonicalDict p) _
  rounds := get_sortedFields (nodup_keys_toCanonicalDict p) _
  attempts := get_sortedFields (nodup_keys_toCanonicalDict p) _
  fallback := get_sortedFields (nodup_keys_toCanonicalDict p) _
  review := get_sortedFields (nodup_keys_toCanonicalDict p) _
  actions := by
    refine (get_sortedFields (nodup_keys_toCanonicalDict p) _).trans ?_
    show sortKeys (.arr (p.actionSpace.map fun k => .str k.value)) = _
    rw [sortKeys, sortItems_eq_map, List.map_map]
    rfl
  rewardWeights := (get_sortedFields (nodup_keys_toCanonicalDict p) _).trans
    (sortKeys_obj_map (fun _ => rfl) p.rewardWeights)
  tags := (get_sortedFields (nodup_keys_toCanonicalDict p) _).trans (sortKeys_texts _)
  configHash := get_sortedFields (nodup_keys_toCanonicalDict p) _

/-! ### Equal profiles -/

/-- `p == q`: the fields are equal, the mappings up to their order. -/
structure Same (p q : ResearchProtocolProfile) : Prop where
  profileId : p.profileId = q.profileId
  version : p.version = q.version
  agents : p.agents = q.agents
  reviewMatrix : p.reviewMatrix.Perm q.reviewMatrix
  consensusStrategy : p.consensusStrategy = q.consensusStrategy
  rounds : p.maxNegotiationRounds = q.maxNegotiationRounds
  attempts : p.maxReplanAttempts = q.maxReplanAttempts
  fallback : p.fallbackAction = q.fallbackAction
  review : p.humanReviewOnFailure = q.humanReviewOnFailure
  actions : p.actionSpace = q.actionSpace
  rewardWeights : p.rewardWeights.Perm q.rewardWeights
  tags : p.experimentTags = q.experimentTags
  configHash : p.configHash = q.configHash

theorem same_sorted (p : ResearchProtocolProfile) : p.sorted.Same p :=
  ⟨rfl, rfl, rfl, perm_byName _, rfl, rfl, rfl, rfl, rfl, rfl, perm_byName _, rfl, rfl⟩

/-- What equal documents have under a key. -/
theorem sortKeys_get {fs gs : List (String × Json)} (h : sortKeys (.obj fs) = sortKeys (.obj gs))
    (hfs : (fs.map Prod.fst).Nodup) (hgs : (gs.map Prod.fst).Nodup) (k : String) :
    sortKeys (Json.get fs k) = sortKeys (Json.get gs k) := by
  have hfields : sortedFields fs = sortedFields gs := Json.obj.inj h
  rw [← get_sortedFields hfs, ← get_sortedFields hgs, hfields]

theorem texts_inj {l m : List String} (h : sortKeys (.texts l) = sortKeys (.texts m)) : l = m := by
  rw [sortKeys_texts, sortKeys_texts] at h
  exact List.map_injective_iff.2 (fun _ _ hs => Json.str.inj hs) (Json.arr.inj h)

theorem number_inj {q r : ℚ} (h : Json.number q = Json.number r) : q = r :=
  PyFloat.finite.inj (Json.float.inj h)

/-- Mappings of leaves that are one document have the same entries. -/
theorem perm_of_sortKeys {α : Type} {f : α → Json} (h : ∀ a, sortKeys (f a) = f a)
    (hinj : Function.Injective f) {l m : List (String × α)}
    (hsame : sortKeys (.obj (l.map fun e => (e.1, f e.2)))
      = sortKeys (.obj (m.map fun e => (e.1, f e.2)))) : l.Perm m := by
  rw [sortKeys_obj_map h, sortKeys_obj_map h] at hsame
  have hentry : Function.Injective fun e : String × α => (e.1, f e.2) := by
    rintro ⟨a, x⟩ ⟨b, y⟩ heq
    obtain ⟨hab, hxy⟩ := Prod.mk.inj heq
    exact Prod.ext hab (hinj hxy)
  have hsorted : byName l = byName m := List.map_injective_iff.2 hentry (Json.obj.inj hsame)
  exact ((perm_byName l).symm.trans (hsorted ▸ List.Perm.refl _)).trans (perm_byName m)

/-- A binding is determined by its document. -/
theorem toDict_inj {b c : ProtocolAgentBinding}
    (h : sortKeys (.obj b.toDict) = sortKeys (.obj c.toDict)) : b = c := by
  have hget := sortKeys_get h (nodup_keys_toDict b) (nodup_keys_toDict c)
  have hname : Json.str b.name = .str c.name := hget "name"
  have himplementation : Json.str b.implementationId = .str c.implementationId :=
    hget "implementation_id"
  have hruntime : Json.str b.runtime = .str c.runtime := hget "runtime"
  have henabled : Json.bool b.enabled = .bool c.enabled := hget "enabled"
  have hscopes : b.vetoScopes = c.vetoScopes := texts_inj (hget "veto_scopes")
  have hweight : Json.number b.consensusWeight = .number c.consensusWeight :=
    hget "consensus_weight"
  have hcapabilities : b.capabilities = c.capabilities := texts_inj (hget "capabilities")
  obtain ⟨name, implementationId, runtime, enabled, scopes, weight, capabilities, hnonneg⟩ := b
  obtain ⟨name', implementationId', runtime', enabled', scopes', weight', capabilities', hnonneg'⟩ := c
  obtain rfl : name = name' := Json.str.inj hname
  obtain rfl : implementationId = implementationId' := Json.str.inj himplementation
  obtain rfl : runtime = runtime' := Json.str.inj hruntime
  obtain rfl : enabled = enabled' := Json.bool.inj henabled
  obtain rfl : scopes = scopes' := hscopes
  obtain rfl : weight = weight' := number_inj hweight
  obtain rfl : capabilities = capabilities' := hcapabilities
  rfl

theorem ConsensusStrategy.value_inj {s t : ConsensusStrategy} (h : s.value = t.value) : s = t := by
  have hs := ConsensusStrategy.ofValue_value s
  rw [h, ConsensusStrategy.ofValue_value] at hs
  exact (Option.some.inj hs).symm

/-- **Profiles whose documents are the same are the same**, but for their hashes. -/
theorem same_of_sortKeys
    (h : sortKeys (.obj p.canonicalPayload) = sortKeys (.obj q.canonicalPayload))
    (hhash : p.configHash = q.configHash) : p.Same q := by
  have hget := sortKeys_get h (nodup_keys_canonicalPayload p) (nodup_keys_canonicalPayload q)
  have hprofileId : Json.str p.profileId = .str q.profileId := hget "profile_id"
  have hversion : Json.str p.version = .str q.version := hget "version"
  have hagents : sortKeys (.arr (p.agents.map fun b => .obj b.toDict))
      = sortKeys (.arr (q.agents.map fun b => .obj b.toDict)) := hget "agents"
  have hstrategy : Json.str p.consensusStrategy.value = .str q.consensusStrategy.value :=
    hget "consensus_strategy"
  have hrounds : Json.int p.maxNegotiationRounds = .int q.maxNegotiationRounds :=
    hget "max_negotiation_rounds"
  have hattempts : Json.int p.maxReplanAttempts = .int q.maxReplanAttempts :=
    hget "max_replan_attempts"
  have hfallback : Json.str p.fallbackAction.value = .str q.fallbackAction.value :=
    hget "fallback_action"
  have hreview : Json.bool p.humanReviewOnFailure = .bool q.humanReviewOnFailure :=
    hget "human_review_on_failure"
  have hactions : sortKeys (.arr (p.actionSpace.map fun k => .str k.value))
      = sortKeys (.arr (q.actionSpace.map fun k => .str k.value)) := hget "action_space"
  rw [sortKeys, sortKeys, sortItems_eq_map, sortItems_eq_map, List.map_map, List.map_map]
    at hagents hactions
  refine ⟨Json.str.inj hprofileId, Json.str.inj hversion,
    List.map_injective_iff.2 (fun _ _ hb => toDict_inj hb) (Json.arr.inj hagents),
    perm_of_sortKeys sortKeys_texts (fun l m hlm => ?_) (hget "review_matrix"),
    ConsensusStrategy.value_inj (Json.str.inj hstrategy),
    Int.ofNat_inj.1 (Json.int.inj hrounds), Int.ofNat_inj.1 (Json.int.inj hattempts),
    RecoveryActionKind.value_inj (Json.str.inj hfallback), Json.bool.inj hreview,
    List.map_injective_iff.2 (fun _ _ hk => RecoveryActionKind.value_inj (Json.str.inj hk))
      (Json.arr.inj hactions),
    perm_of_sortKeys (fun _ => rfl) (fun _ _ => number_inj) (hget "reward_weights"),
    texts_inj (hget "experiment_tags"), hhash⟩
  exact texts_inj (congrArg sortKeys hlm)

/-! ### The codec -/

/-- The document of an accepted profile is a value. -/
theorem isValue_canonicalPayload (ht : p.Trimmed)
    (hagents : ∀ b ∈ p.agents, fl.IsFloat b.consensusWeight)
    (hweights : ∀ e ∈ p.rewardWeights, fl.IsFloat e.2) : IsValue fl (.obj p.canonicalPayload) := by
  have hbinding : ∀ b ∈ p.agents, IsValue fl (.obj b.toDict) := by
    intro b hb
    refine isValue_obj.2 ⟨nodup_keys_toDict b, ?_⟩
    simp only [ProtocolAgentBinding.toDict, List.forall_mem_cons]
    exact ⟨trivial, trivial, trivial, trivial, isValue_texts _, hagents b hb, isValue_texts _,
      fun f hf => (List.not_mem_nil hf).elim⟩
  refine isValue_obj.2 ⟨nodup_keys_canonicalPayload p, ?_⟩
  simp only [canonicalPayload, List.forall_mem_cons]
  refine ⟨trivial, trivial, isValue_arr.2 ?_, isValue_obj.2 ⟨?_, ?_⟩, trivial, trivial, trivial,
    trivial, trivial, isValue_arr.2 ?_, isValue_obj.2 ⟨?_, ?_⟩, isValue_texts _,
    fun f hf => (List.not_mem_nil hf).elim⟩
  · intro v hv
    obtain ⟨b, hb, rfl⟩ := List.mem_map.1 hv
    exact hbinding b hb
  · rw [List.map_map]
    exact ht.targets_nodup
  · intro f hf
    obtain ⟨e, _, rfl⟩ := List.mem_map.1 hf
    exact isValue_texts e.2
  · intro v hv
    obtain ⟨k, _, rfl⟩ := List.mem_map.1 hv
    trivial
  · rw [List.map_map]
    exact ht.rewards_nodup
  · intro f hf
    obtain ⟨e, he, rfl⟩ := List.mem_map.1 hf
    exact hweights e he

theorem isValue_of_fromDict (hsource : IsValue fl (.obj source))
    (h : fromDict fl sha256 source = .ok p) : IsValue fl (.obj p.canonicalPayload) := by
  obtain ⟨-, hread, -⟩ := fromDict_eq_ok.1 h
  obtain ⟨hagents, hweights⟩ := hread.weights_isFloat hsource
  exact isValue_canonicalPayload hread.trimmed hagents hweights

theorem isValue_toCanonicalDict (h : IsValue fl (.obj p.canonicalPayload)) :
    IsValue fl (.obj p.toCanonicalDict) := by
  refine isValue_obj.2 ⟨nodup_keys_toCanonicalDict p, fun f hf => ?_⟩
  rcases List.mem_append.1 hf with hf | hf
  · exact (isValue_obj.1 h).2 f hf
  · rw [List.mem_singleton.1 hf]
    trivial

/-- **The text that is hashed determines an accepted profile**, up to the order of its mappings. -/
theorem same_of_canonicalText {source' : List (String × Json)}
    (hsource : IsValue fl (.obj source)) (h : fromDict fl sha256 source = .ok p)
    (hsource' : IsValue fl (.obj source')) (h' : fromDict fl sha256 source' = .ok q)
    (htext : p.canonicalText py = q.canonicalText py) : p.Same q := by
  refine same_of_sortKeys ?_ ?_
  · exact (canonicalJson_inj (isValue_of_fromDict hsource h) (isValue_of_fromDict hsource' h')).1
      htext
  · rw [(accepted_of_fromDict h).hash, (accepted_of_fromDict h').hash, htext]

/-- **The codec of a profile loses nothing.**  The document of an accepted profile is read back
into it, directly and after a dump and a load; after a dump with sorted keys into a profile that is
equal to it; and different profiles are hashed from different texts. -/
theorem codec_faithful (hsource : IsValue fl (.obj source))
    (h : fromDict fl sha256 source = .ok p) :
    fromDict fl sha256 p.toCanonicalDict = .ok p ∧
    (∃ loaded, loads py (dumps py (.obj p.toCanonicalDict)) = some (.obj loaded) ∧
      fromDict fl sha256 loaded = .ok p) ∧
    (∃ loaded r, loads py (canonicalJson py (.obj p.toCanonicalDict)) = some (.obj loaded) ∧
      fromDict fl sha256 loaded = .ok r ∧ r.Same p) ∧
    ∀ (source' : List (String × Json)) (q : ResearchProtocolProfile), IsValue fl (.obj source') →
      fromDict fl sha256 source' = .ok q → ¬p.Same q → p.canonicalText py ≠ q.canonicalText py := by
  have haccepted := accepted_of_fromDict h
  have hvalue := isValue_toCanonicalDict (isValue_of_fromDict hsource h)
  have hback : fromDict fl sha256 p.toCanonicalDict = .ok p :=
    fromDict_of_writtenIn (writtenIn_toCanonicalDict p) haccepted
  refine ⟨hback, ⟨p.toCanonicalDict, ?_, hback⟩, ⟨sortedFields p.toCanonicalDict, p.sorted, ?_,
    fromDict_of_writtenIn (writtenIn_sorted p) haccepted.sorted, same_sorted p⟩, ?_⟩
  · have hloads := loads_dumps hvalue (r := []) (by simp)
    rwa [List.append_nil] at hloads
  · have hloads := loads_canonicalJson hvalue (s := "") (by simp)
    rwa [String.append_empty, sortKeys_obj] at hloads
  · intro source' q hsource' h' hdiffer htext
    exact hdiffer (same_of_canonicalText hsource h hsource' h' htext)

open Learning.PartitionRankerRepository (halvesFloats isValue_one) in
/-- The reviewers' document consists of values. -/
theorem isValue_overwrittenDocument : IsValue halvesFloats (.obj overwrittenDocument) := by
  have hagent : ∀ name, IsValue halvesFloats (reviewerDocument name) := by
    intro name
    have hkeys : bindingKeys.Nodup := by decide
    refine isValue_obj.2 ⟨hkeys, ?_⟩
    simp only [List.forall_mem_cons]
    exact ⟨trivial, trivial, trivial, trivial, isValue_texts _, isValue_one, isValue_texts _,
      fun f hf => (List.not_mem_nil hf).elim⟩
  refine isValue_obj.2 ⟨by decide, ?_⟩
  simp only [overwrittenDocument, List.forall_mem_cons]
  refine ⟨trivial, trivial, isValue_arr.2 ?_, isValue_obj.2 ⟨by decide, ?_⟩, trivial, trivial,
    trivial, trivial, trivial, isValue_texts _, isValue_obj.2 ⟨by decide, ?_⟩, isValue_texts _,
    fun f hf => (List.not_mem_nil hf).elim⟩
  · intro v hv
    obtain ⟨name, _, rfl⟩ := List.mem_map.1 hv
    exact hagent name
  · simp only [List.forall_mem_cons]
    exact ⟨isValue_texts _, isValue_texts _, isValue_texts _, isValue_texts _,
      fun f hf => (List.not_mem_nil hf).elim⟩
  · simp only [List.forall_mem_cons]
    exact ⟨isValue_one, fun f hf => (List.not_mem_nil hf).elim⟩

open Learning.PartitionRankerRepository (halvesFloats) in
theorem codec_faithful_overwritten : ∃ p : ResearchProtocolProfile,
    fromDict halvesFloats (fun _ => "") overwrittenDocument = .ok p ∧
      fromDict halvesFloats (fun _ => "") p.toCanonicalDict = .ok p := by
  obtain ⟨p, hp, -⟩ := exists_overwritten
  exact ⟨p, hp, (codec_faithful isValue_overwrittenDocument hp).1⟩

end ResearchProtocolProfile

end Supervision
end AiopsK8s
