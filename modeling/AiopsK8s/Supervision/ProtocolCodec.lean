/-
# Reading a protocol profile

`ProtocolAgentBinding.from_dict`, `ResearchProtocolProfile.from_dict` and `validate_semantics` of
`research_protocol.py`.  The constructors check nothing, so a document is first read into a draft,
whose truth values and numbers may still be anything of their type, and the validation turns a
draft into a profile.

What is accepted is said once (`fromDict_eq_ok`): a profile whose draft the document was read into,
that passes the checks, and that carries the hash of its contents.

No text here has a lone surrogate, so encoding the canonical text never fails.
-/

import AiopsK8s.Lib.Dict
import AiopsK8s.Lib.Effect
import AiopsK8s.Lib.JsonSort
import AiopsK8s.Supervision.Protocol

namespace AiopsK8s
namespace Supervision

open Effect JsonText

/-- The exceptions of reading a profile: a `ValueError` with its message, and the `OverflowError`
of `float`. -/
inductive ProtocolError where
  | value (message : String)
  | overflow
  deriving DecidableEq, Repr

/-- `ConsensusStrategy(value)`. -/
def ConsensusStrategy.ofValue (value : String) : Option ConsensusStrategy :=
  [roleBasedVeto, unanimousVeto, weightedMajority].find? fun strategy => strategy.value = value

/-- `RecoveryActionKind(value)`. -/
def RecoveryActionKind.ofValue (value : String) : Option RecoveryActionKind :=
  [observeOnly, rolloutRestart, scaleOut].find? fun kind => kind.value = value

theorem ConsensusStrategy.ofValue_value (s : ConsensusStrategy) : ofValue s.value = some s := by
  cases s <;> decide

theorem RecoveryActionKind.ofValue_value (k : RecoveryActionKind) : ofValue k.value = some k := by
  cases k <;> decide

/-- `_BINDING_KEYS`. -/
def bindingKeys : List String :=
  ["name", "implementation_id", "runtime", "enabled", "veto_scopes", "consensus_weight",
    "capabilities"]

/-- `_PROFILE_KEYS`. -/
def profileKeys : List String :=
  ["profile_id", "version", "agents", "review_matrix", "consensus_strategy",
    "max_negotiation_rounds", "max_replan_attempts", "fallback_action", "human_review_on_failure",
    "action_space", "reward_weights", "experiment_tags", "config_hash"]

/-- `", ".join(sorted(names))` of a set of names. -/
def sortedNames (names : List String) : String :=
  ", ".intercalate (names.dedup.insertionSort (· ≤ ·))

/-! ### Reading values -/

/-- `_require_mapping`. -/
def requireMapping (value : Json) (label : String) :
    Except ProtocolError (List (String × Json)) :=
  match value with
  | .obj fields => .ok fields
  | _ => .error (.value s!"{label} must be an object")

/-- `_required_text`, of the value at the key. -/
def requiredText (value : Json) (label : String) : Except ProtocolError String :=
  match value with
  | .str s =>
      if Text.strip s = "" then .error (.value s!"{label} must not be empty")
      else .ok (Text.strip s)
  | _ => .error (.value s!"{label} must not be empty")

/-- `_list_value`. -/
def listValue (value : Json) (label : String) : Except ProtocolError (List Json) :=
  match value with
  | .arr items => .ok items
  | _ => .error (.value s!"{label} must be a list")

/-- `_integer_value`. -/
def integerValue (value : Json) (label : String) : Except ProtocolError ℤ :=
  match value with
  | .int i => .ok i
  | _ => .error (.value s!"{label} must be an integer")

/-- The texts of a list. -/
def requiredTexts (value : Json) (listLabel label : String) :
    Except ProtocolError (List String) := do
  (← listValue value listLabel).mapM fun item => requiredText item label

/-- `unknown = set(source) - keys`. -/
def rejectUnknown (source : List (String × Json)) (keys : List String) (label : String) :
    Except ProtocolError Unit :=
  rejectIf (∃ f ∈ source, f.1 ∉ keys) (.value (s!"{label} contains unknown fields: " ++
    sortedNames ((source.map Prod.fst).filter (· ∉ keys))))

/-! ### Drafts -/

/-- A `ProtocolAgentBinding` before its validation. -/
structure BindingDraft where
  name : String
  implementationId : String
  runtime : String
  enabled : Json
  vetoScopes : List String
  consensusWeight : PyFloat
  capabilities : List String

/-- A `ResearchProtocolProfile` before its validation. -/
@[ext]
structure ProfileDraft where
  profileId : String
  version : String
  agents : List BindingDraft
  reviewMatrix : List (String × List String)
  consensusStrategy : ConsensusStrategy
  maxNegotiationRounds : ℤ
  maxReplanAttempts : ℤ
  fallbackAction : RecoveryActionKind
  humanReviewOnFailure : Json
  actionSpace : List RecoveryActionKind
  rewardWeights : List (String × PyFloat)
  experimentTags : List String

/-- The reviewers of an entry of `review_matrix`. -/
def reviewerEntry (entry : String × Json) : Except ProtocolError (String × List String) := do
  let target ← requiredText (.str entry.1) "review_matrix target"
  let reviewers ← requiredTexts entry.2 s!"reviewers for {target}" "reviewer"
  return (target, reviewers)

/-- `str(value)` in a message. -/
def shown (py : Python) (value : Json) : Except ProtocolError String :=
  if value.hasLongInteger then .error (.value ("Exceeds the limit (4300 digits) for integer " ++
    "string conversion; use sys.set_int_max_str_digits() to increase the limit"))
  else .ok (py.str value)

/-- `_required_text(source, "consensus_strategy", …)` and the strategy of that name. -/
def consensusStrategyOf (py : Python) (source : List (String × Json)) :
    Except ProtocolError ConsensusStrategy :=
  match (requiredText (Json.get source "consensus_strategy") "consensus_strategy").toOption.bind
    ConsensusStrategy.ofValue with
  | some strategy => .ok strategy
  | none => do
      let name ← shown py (Json.getD source "consensus_strategy" (.str ""))
      .error (.value s!"unknown consensus_strategy: {name}")

/-- The action that `fallback_action` names. -/
def fallbackActionOf (source : List (String × Json)) : Except ProtocolError RecoveryActionKind := do
  let name ← requiredText (Json.get source "fallback_action") "fallback_action"
  match RecoveryActionKind.ofValue name with
  | some kind => .ok kind
  | none => .error (.value s!"unknown fallback_action: {name}")

/-- `RecoveryActionKind(str(item))`. -/
def actionOf (py : Python) (item : Json) : Except ProtocolError RecoveryActionKind :=
  match RecoveryActionKind.ofValue (py.str item) with
  | some kind => .ok kind
  | none => .error (.value "action_space contains an unknown recovery action")

section Numbers

variable {py : Python} (fl : Floats py)

/-- `_number_value`. -/
def protocolNumberValue (value : Json) (label : String) : Except ProtocolError PyFloat :=
  match value with
  | .int i =>
      match fl.ofInt i with
      | some q => .ok (.finite q)
      | none => .error .overflow
  | .float x => .ok x
  | _ => .error (.value s!"{label} must be a number")

/-- The weight of an entry of `reward_weights`. -/
def rewardEntry (entry : String × Json) : Except ProtocolError (String × PyFloat) := do
  let name ← requiredText (.str entry.1) "reward weight name"
  let weight ← protocolNumberValue fl entry.2 s!"reward_weights[{entry.1}]"
  return (name, weight)

/-- `ProtocolAgentBinding.from_dict`. -/
def BindingDraft.fromDict (data : Json) : Except ProtocolError BindingDraft := do
  let source ← requireMapping data "agent binding"
  rejectUnknown source bindingKeys "agent binding"
  let scopes ← requiredTexts (Json.get source "veto_scopes") "veto_scopes" "veto scope"
  let capabilities ← requiredTexts (Json.get source "capabilities") "capabilities" "capability"
  let name ← requiredText (Json.get source "name") "agent name"
  let implementationId ← requiredText (Json.get source "implementation_id") "implementation_id"
  let runtime ← requiredText (Json.get source "runtime") "runtime"
  let weight ← protocolNumberValue fl (Json.get source "consensus_weight") "consensus_weight"
  return {
    name := name
    implementationId := implementationId
    runtime := runtime
    enabled := Json.get source "enabled"
    vetoScopes := scopes
    consensusWeight := weight
    capabilities := capabilities }

/-- `ResearchProtocolProfile.from_dict`, up to the validation. -/
def ProfileDraft.fromDict (source : List (String × Json)) : Except ProtocolError ProfileDraft := do
  let agents ← (← listValue (Json.get source "agents") "agents").mapM (BindingDraft.fromDict fl)
  let matrix ← (← requireMapping (Json.get source "review_matrix") "review_matrix").mapM
    reviewerEntry
  let strategy ← consensusStrategyOf py source
  let fallback ← fallbackActionOf source
  let actions ← (← listValue (Json.get source "action_space") "action_space").mapM (actionOf py)
  let weights ← (← requireMapping (Json.get source "reward_weights") "reward_weights").mapM
    (rewardEntry fl)
  let tags ← requiredTexts (Json.get source "experiment_tags") "experiment_tags" "experiment tag"
  let profileId ← requiredText (Json.get source "profile_id") "profile_id"
  let version ← requiredText (Json.get source "version") "version"
  let rounds ← integerValue (Json.get source "max_negotiation_rounds") "max_negotiation_rounds"
  let attempts ← integerValue (Json.get source "max_replan_attempts") "max_replan_attempts"
  return {
    profileId := profileId
    version := version
    agents := agents
    reviewMatrix := Dict.ofEntries matrix
    consensusStrategy := strategy
    maxNegotiationRounds := rounds
    maxReplanAttempts := attempts
    fallbackAction := fallback
    humanReviewOnFailure := Json.get source "human_review_on_failure"
    actionSpace := actions
    rewardWeights := Dict.ofEntries weights
    experimentTags := tags }

end Numbers

/-! ### Validation -/

/-- `_semantic_text`. -/
def semanticText (value label : String) : Except ProtocolError Unit :=
  rejectIf (Text.strip value = "") (.value s!"{label} must not be empty")

/-- The checks of a tuple of texts: it is not empty, none of its texts is, and none is repeated. -/
def semanticTexts (values : List String) (name label : String) : Except ProtocolError Unit := do
  rejectIf (values = []) (.value s!"{name} must be a non-empty tuple")
  values.forM fun value => semanticText value label
  rejectIf (¬values.Nodup) (.value s!"{name} must not contain duplicates")

/-- `_semantic_weight`. -/
def semanticWeight (value : PyFloat) (label : String) : Except ProtocolError {q : ℚ // 0 ≤ q} :=
  match value with
  | .finite q => if h : 0 ≤ q then .ok ⟨q, h⟩ else .error (.value s!"{label} must not be negative")
  | _ => .error (.value s!"{label} must not be negative")

theorem le_toNat {value : ℤ} {minimum : ℕ} (h : (minimum : ℤ) ≤ value) :
    minimum ≤ value.toNat := by
  omega

/-- `_semantic_round_count`. -/
def semanticRoundCount (value : ℤ) (label : String) (minimum : ℕ) :
    Except ProtocolError {n : ℕ // minimum ≤ n} :=
  if h : (minimum : ℤ) ≤ value then .ok ⟨value.toNat, le_toNat h⟩
  else .error (.value s!"{label} must be at least {minimum}")

/-- `isinstance(value, bool)`. -/
def booleanValue (value : Json) (label : String) : Except ProtocolError Bool :=
  match value with
  | .bool b => .ok b
  | _ => .error (.value s!"{label} must be a boolean")

/-- `_validate_binding_semantics`. -/
def BindingDraft.validateSemantics (d : BindingDraft) :
    Except ProtocolError ProtocolAgentBinding := do
  semanticText d.name "agent name"
  semanticText d.implementationId "implementation_id"
  semanticText d.runtime "runtime"
  let enabled ← booleanValue d.enabled "enabled"
  semanticTexts d.vetoScopes "veto_scopes" "veto scope"
  let weight ← semanticWeight d.consensusWeight "consensus_weight"
  semanticTexts d.capabilities "capabilities" "capability"
  return {
    name := d.name
    implementationId := d.implementationId
    runtime := d.runtime
    enabled := enabled
    vetoScopes := d.vetoScopes
    consensusWeight := weight.1
    capabilities := d.capabilities
    weight_nonneg := weight.2 }

/-- The targets of the review matrix are the agents. -/
def checkTargets (known targets : List String) : Except ProtocolError Unit :=
  let missing := known.filter (· ∉ targets)
  let unknown := targets.filter (· ∉ known)
  rejectIf (missing ≠ [] ∨ unknown ≠ []) (.value ("review_matrix does not match agents (" ++
    "; ".intercalate (
      (if missing = [] then [] else ["missing targets: " ++ sortedNames missing]) ++
      (if unknown = [] then [] else ["unknown targets: " ++ sortedNames unknown])) ++ ")"))

/-- The pass of the loop over the review matrix. -/
def checkReviewers (known : List String) (entry : String × List String) :
    Except ProtocolError Unit := do
  semanticText entry.1 "review_matrix target"
  rejectIf (entry.2 = []) (.value s!"reviewers for {entry.1} must be a non-empty tuple")
  entry.2.forM fun reviewer => semanticText reviewer "review participant"
  rejectIf (∃ reviewer ∈ entry.2, reviewer ∉ known)
    (.value ("unknown review participant: " ++ sortedNames (entry.2.filter (· ∉ known))))
  rejectIf (entry.1 ∈ entry.2) (.value s!"agent cannot self-review: {entry.1}")
  rejectIf (¬entry.2.Nodup) (.value s!"reviewers for {entry.1} must not contain duplicates")

/-- What a pass of the loop over the review matrix checks. -/
theorem checkReviewers_eq_ok {known : List String} {entry : String × List String} :
    checkReviewers known entry = .ok () ↔ Text.strip entry.1 ≠ "" ∧ entry.2 ≠ [] ∧
      (∀ r ∈ entry.2, Text.strip r ≠ "") ∧ (∀ r ∈ entry.2, r ∈ known) ∧ entry.1 ∉ entry.2 ∧
      entry.2.Nodup := by
  unfold checkReviewers semanticText
  simp only [checks_seq, rejectIf_eq_ok, forM_eq_ok, not_exists, not_and, not_not, ne_eq]

theorem no_self_review_of_checks {known : List String} {matrix : List (String × List String)}
    (h : matrix.forM (checkReviewers known) = .ok ()) : ∀ e ∈ matrix, e.1 ∉ e.2 := by
  intro e he
  exact (checkReviewers_eq_ok.1 (forM_eq_ok.1 h e he)).2.2.2.2.1

/-- The review matrix, where the loop over it raises nothing. -/
def semanticMatrix (known : List String) (matrix : List (String × List String)) :
    Except ProtocolError {m : List (String × List String) // ∀ e ∈ m, e.1 ∉ e.2} :=
  match h : matrix.forM (checkReviewers known) with
  | .ok () => .ok ⟨matrix, no_self_review_of_checks h⟩
  | .error e => .error e

/-- The agents, where no name is repeated. -/
def distinctAgents (agents : List ProtocolAgentBinding) :
    Except ProtocolError {l : List ProtocolAgentBinding // (l.map (·.name)).Nodup} :=
  if h : (agents.map (·.name)).Nodup then .ok ⟨agents, h⟩
  else .error (.value "duplicate agent name in profile")

/-- `fallback_action is RecoveryActionKind.OBSERVE_ONLY`. -/
def observeOnly (kind : RecoveryActionKind) :
    Except ProtocolError {k : RecoveryActionKind // k = .observeOnly} :=
  if h : kind = .observeOnly then .ok ⟨kind, h⟩
  else .error (.value "fallback_action must be observe_only")

/-- `value is True`. -/
def requireTrue (value : Json) : Except ProtocolError {b : Bool // b = true} :=
  match value with
  | .bool true => .ok ⟨true, rfl⟩
  | _ => .error (.value "human_review_on_failure must be true")

/-- The pass of the loop over the reward weights. -/
def semanticReward (entry : String × PyFloat) : Except ProtocolError (String × ℚ) := do
  semanticText entry.1 "reward weight name"
  let weight ← semanticWeight entry.2 s!"reward_weights[{entry.1}]"
  return (entry.1, weight.1)

/-- `validate_semantics`. -/
def ProfileDraft.validateSemantics (d : ProfileDraft) :
    Except ProtocolError ResearchProtocolProfile := do
  semanticText d.profileId "profile_id"
  semanticText d.version "version"
  rejectIf (d.agents = []) (.value "profile must contain at least one agent")
  let agents ← distinctAgents (← d.agents.mapM BindingDraft.validateSemantics)
  let names := agents.1.map (·.name)
  rejectIf (∀ b ∈ agents.1, b.enabled = false)
    (.value "profile must contain at least one enabled agent")
  checkTargets names (d.reviewMatrix.map Prod.fst)
  let matrix ← semanticMatrix names d.reviewMatrix
  let rounds ← semanticRoundCount d.maxNegotiationRounds "max_negotiation_rounds" 1
  let attempts ← semanticRoundCount d.maxReplanAttempts "max_replan_attempts" 0
  let fallback ← observeOnly d.fallbackAction
  let review ← requireTrue d.humanReviewOnFailure
  rejectIf (d.actionSpace = []) (.value "action_space must be a non-empty tuple")
  rejectIf (¬d.actionSpace.Nodup) (.value "action_space must not contain duplicates")
  rejectIf (d.fallbackAction ∉ d.actionSpace)
    (.value "fallback_action must be included in action_space")
  rejectIf (d.rewardWeights = []) (.value "reward_weights must be a non-empty object")
  let weights ← d.rewardWeights.mapM semanticReward
  semanticTexts d.experimentTags "experiment_tags" "experiment tag"
  return {
    profileId := d.profileId
    version := d.version
    agents := agents.1
    reviewMatrix := matrix.1
    consensusStrategy := d.consensusStrategy
    maxNegotiationRounds := rounds.1
    maxReplanAttempts := attempts.1
    fallbackAction := fallback.1
    humanReviewOnFailure := review.1
    actionSpace := d.actionSpace
    rewardWeights := weights
    experimentTags := d.experimentTags
    configHash := ""
    names_nodup := agents.2
    rounds_pos := rounds.2
    fallback_observes := fallback.2
    review_on_failure := review.2
    no_self_review := matrix.2 }

/-! ### Documents -/

/-- The document of a binding. -/
def ProtocolAgentBinding.toDict (b : ProtocolAgentBinding) : List (String × Json) :=
  [("name", .str b.name), ("implementation_id", .str b.implementationId),
    ("runtime", .str b.runtime), ("enabled", .bool b.enabled),
    ("veto_scopes", .texts b.vetoScopes), ("consensus_weight", .number b.consensusWeight),
    ("capabilities", .texts b.capabilities)]

namespace ResearchProtocolProfile

/-- `_canonical_profile_payload`. -/
def canonicalPayload (p : ResearchProtocolProfile) : List (String × Json) :=
  [("profile_id", .str p.profileId), ("version", .str p.version),
    ("agents", .ofList (fun b => .obj b.toDict) p.agents),
    ("review_matrix", .obj (p.reviewMatrix.map fun e => (e.1, .texts e.2))),
    ("consensus_strategy", .str p.consensusStrategy.value),
    ("max_negotiation_rounds", .int p.maxNegotiationRounds),
    ("max_replan_attempts", .int p.maxReplanAttempts),
    ("fallback_action", .str p.fallbackAction.value),
    ("human_review_on_failure", .bool p.humanReviewOnFailure),
    ("action_space", .ofList (fun k => .str k.value) p.actionSpace),
    ("reward_weights", .obj (p.rewardWeights.map fun e => (e.1, .number e.2))),
    ("experiment_tags", .texts p.experimentTags)]

/-- `to_canonical_dict`. -/
def toCanonicalDict (p : ResearchProtocolProfile) : List (String × Json) :=
  p.canonicalPayload ++ [("config_hash", .str p.configHash)]

section Hash

variable {py : Python} (fl : Floats py) (sha256 : String → String)

/-- The text that is hashed. -/
def canonicalText (py : Python) (p : ResearchProtocolProfile) : String :=
  canonicalJson py (.obj p.canonicalPayload)

/-- `recomputed_config_hash`: an integer that is too long has no JSON text. -/
def recomputedConfigHash (py : Python) (p : ResearchProtocolProfile) :
    Except ProtocolError String := do
  rejectIf ((Json.obj p.canonicalPayload).hasLongInteger = true)
    (.value "protocol profile must contain JSON-compatible values")
  return sha256 (p.canonicalText py)

/-- The check of a supplied `config_hash`. -/
def checkSuppliedHash (supplied : Json) (configHash : String) : Except ProtocolError Unit :=
  match supplied with
  | .null => .ok ()
  | .str s => rejectIf (s ≠ configHash) (.value "config_hash does not match profile contents")
  | _ => .error (.value "config_hash does not match profile contents")

/-- `ResearchProtocolProfile.from_dict`. -/
def fromDict (source : List (String × Json)) : Except ProtocolError ResearchProtocolProfile := do
  rejectUnknown source profileKeys "protocol profile"
  let draft ← ProfileDraft.fromDict fl source
  let profile ← draft.validateSemantics
  let configHash ← profile.recomputedConfigHash sha256 py
  checkSuppliedHash (Json.get source "config_hash") configHash
  return { profile with configHash := configHash }

end Hash

end ResearchProtocolProfile

/-! ### What the reading accepts -/

theorem requiredText_eq_ok {value : Json} {label text : String} :
    requiredText value label = .ok text ↔ ∃ s, value = .str s ∧ text = Text.strip s ∧ text ≠ "" := by
  unfold requiredText
  constructor
  · intro h
    split at h
    · rename_i s
      split_ifs at h with hs
      obtain rfl := Except.ok.inj h
      exact ⟨s, rfl, rfl, hs⟩
    · cases h
  · rintro ⟨s, rfl, rfl, hs⟩
    exact if_neg hs

/-- A text that was read is proper. -/
theorem proper_of_requiredText {value : Json} {label text : String}
    (h : requiredText value label = .ok text) : Text.Proper text := by
  obtain ⟨s, -, rfl, hs⟩ := requiredText_eq_ok.1 h
  exact Text.proper_strip hs

/-- A proper text is read as it is. -/
theorem requiredText_str {s : String} (h : Text.Proper s) (label : String) :
    requiredText (.str s) label = .ok s :=
  requiredText_eq_ok.2 ⟨s, rfl, h.strip_eq.symm, h.ne_empty⟩

theorem listValue_eq_ok {value : Json} {label : String} {items : List Json} :
    listValue value label = .ok items ↔ value = .arr items := by
  unfold listValue
  split
  · simp
  · rename_i hne
    simpa using hne items

theorem requireMapping_eq_ok {value : Json} {label : String} {fields : List (String × Json)} :
    requireMapping value label = .ok fields ↔ value = .obj fields := by
  unfold requireMapping
  split
  · simp
  · rename_i hne
    simpa using hne fields

theorem integerValue_eq_ok {value : Json} {label : String} {i : ℤ} :
    integerValue value label = .ok i ↔ value = .int i := by
  unfold integerValue
  split
  · simp
  · rename_i hne
    simpa using hne i

theorem requiredTexts_eq_ok {value : Json} {listLabel label : String} {texts : List String} :
    requiredTexts value listLabel label = .ok texts ↔
      ∃ items, value = .arr items ∧ (items.mapM fun item => requiredText item label) = .ok texts := by
  constructor
  · intro h
    obtain ⟨items, hitems, h⟩ := bind_eq_ok h
    exact ⟨items, listValue_eq_ok.1 hitems, h⟩
  · rintro ⟨items, rfl, h⟩
    exact h

theorem proper_of_requiredTexts {value : Json} {listLabel label : String} {texts : List String}
    (h : requiredTexts value listLabel label = .ok texts) : ∀ s ∈ texts, Text.Proper s := by
  intro s hs
  obtain ⟨items, -, h⟩ := requiredTexts_eq_ok.1 h
  obtain ⟨item, -, hitem⟩ := exists_of_mem_mapM h hs
  exact proper_of_requiredText hitem

/-- Proper texts are read as they are. -/
theorem requiredTexts_texts {texts : List String} (h : ∀ s ∈ texts, Text.Proper s)
    (listLabel label : String) : requiredTexts (.texts texts) listLabel label = .ok texts :=
  requiredTexts_eq_ok.2 ⟨_, rfl, mapM_map_ok fun s hs => requiredText_str (h s hs) label⟩

theorem rejectUnknown_eq_ok {source : List (String × Json)} {keys : List String} {label : String} :
    rejectUnknown source keys label = .ok () ↔ ∀ f ∈ source, f.1 ∈ keys := by
  unfold rejectUnknown
  rw [rejectIf_eq_ok]
  simp only [not_exists, not_and, not_not]

theorem reviewerEntry_eq_ok {entry : String × Json} {e : String × List String} :
    reviewerEntry entry = .ok e ↔ e.1 = Text.strip entry.1 ∧ e.1 ≠ "" ∧
      requiredTexts entry.2 s!"reviewers for {e.1}" "reviewer" = .ok e.2 := by
  constructor
  · intro h
    obtain ⟨target, htarget, h⟩ := bind_eq_ok h
    obtain ⟨reviewers, hreviewers, h⟩ := bind_eq_ok h
    obtain rfl := Except.ok.inj h
    obtain ⟨s, hs, rfl, hne⟩ := requiredText_eq_ok.1 htarget
    obtain rfl := Json.str.inj hs
    exact ⟨rfl, hne, hreviewers⟩
  · rintro ⟨htarget, hne, hreviewers⟩
    have htext : requiredText (.str entry.1) "review_matrix target" = .ok e.1 :=
      requiredText_eq_ok.2 ⟨entry.1, rfl, htarget, hne⟩
    simp only [reviewerEntry, htext, hreviewers, bind, Except.bind]
    rfl

theorem consensusStrategyOf_eq_ok {py : Python} {source : List (String × Json)}
    {strategy : ConsensusStrategy} : consensusStrategyOf py source = .ok strategy ↔
      ∃ name, requiredText (Json.get source "consensus_strategy") "consensus_strategy" = .ok name ∧
        ConsensusStrategy.ofValue name = some strategy := by
  unfold consensusStrategyOf
  rcases htext : requiredText (Json.get source "consensus_strategy") "consensus_strategy"
    with e | name
  · simp only [Except.toOption, Option.bind_none, reduceCtorEq, false_and, exists_false, iff_false]
    intro h
    obtain ⟨_, _, h⟩ := bind_eq_ok h
    cases h
  · rcases hname : ConsensusStrategy.ofValue name with _ | found
    · simp only [Except.toOption, Option.bind_some, hname, Except.ok.injEq, exists_eq_left',
        reduceCtorEq, iff_false]
      intro h
      obtain ⟨_, _, h⟩ := bind_eq_ok h
      cases h
    · simp [Except.toOption, hname]

theorem fallbackActionOf_eq_ok {source : List (String × Json)} {kind : RecoveryActionKind} :
    fallbackActionOf source = .ok kind ↔
      ∃ name, requiredText (Json.get source "fallback_action") "fallback_action" = .ok name ∧
        RecoveryActionKind.ofValue name = some kind := by
  constructor
  · intro h
    obtain ⟨name, hname, h⟩ := bind_eq_ok h
    refine ⟨name, hname, ?_⟩
    split at h
    · rename_i found hfound
      rw [hfound, Except.ok.inj h]
    · cases h
  · rintro ⟨name, hname, hkind⟩
    simp only [fallbackActionOf, hname, bind, Except.bind, hkind]

theorem actionOf_eq_ok {py : Python} {item : Json} {kind : RecoveryActionKind} :
    actionOf py item = .ok kind ↔ RecoveryActionKind.ofValue (py.str item) = some kind := by
  unfold actionOf
  split <;> simp_all

section Drafts

variable {py : Python} {fl : Floats py}

/-- What a binding draft was read from. -/
structure BindingDraft.ReadFrom (fl : Floats py) (source : List (String × Json))
    (d : BindingDraft) : Prop where
  keys : ∀ f ∈ source, f.1 ∈ bindingKeys
  vetoScopes : requiredTexts (Json.get source "veto_scopes") "veto_scopes" "veto scope"
    = .ok d.vetoScopes
  capabilities : requiredTexts (Json.get source "capabilities") "capabilities" "capability"
    = .ok d.capabilities
  name : requiredText (Json.get source "name") "agent name" = .ok d.name
  implementationId : requiredText (Json.get source "implementation_id") "implementation_id"
    = .ok d.implementationId
  runtime : requiredText (Json.get source "runtime") "runtime" = .ok d.runtime
  weight : protocolNumberValue fl (Json.get source "consensus_weight") "consensus_weight"
    = .ok d.consensusWeight
  enabled : d.enabled = Json.get source "enabled"

theorem BindingDraft.fromDict_eq_ok {data : Json} {d : BindingDraft} :
    BindingDraft.fromDict fl data = .ok d ↔ ∃ source, data = .obj source ∧ d.ReadFrom fl source := by
  constructor
  · intro h
    obtain ⟨source, hsource, h⟩ := bind_eq_ok h
    obtain ⟨_, hkeys, h⟩ := bind_eq_ok h
    obtain ⟨scopes, hscopes, h⟩ := bind_eq_ok h
    obtain ⟨capabilities, hcapabilities, h⟩ := bind_eq_ok h
    obtain ⟨name, hname, h⟩ := bind_eq_ok h
    obtain ⟨implementationId, himplementation, h⟩ := bind_eq_ok h
    obtain ⟨runtime, hruntime, h⟩ := bind_eq_ok h
    obtain ⟨weight, hweight, h⟩ := bind_eq_ok h
    obtain rfl := Except.ok.inj h
    exact ⟨source, requireMapping_eq_ok.1 hsource, rejectUnknown_eq_ok.1 hkeys, hscopes,
      hcapabilities, hname, himplementation, hruntime, hweight, rfl⟩
  · rintro ⟨source, rfl, hd⟩
    simp only [BindingDraft.fromDict, requireMapping_eq_ok.2 rfl, rejectUnknown_eq_ok.2 hd.keys,
      hd.vetoScopes, hd.capabilities, hd.name, hd.implementationId, hd.runtime, hd.weight,
      ← hd.enabled, bind, Except.bind]
    rfl

/-- What a profile draft was read from. -/
structure ProfileDraft.ReadFrom (fl : Floats py) (source : List (String × Json))
    (d : ProfileDraft) : Prop where
  agents : ∃ items, Json.get source "agents" = .arr items ∧
    items.mapM (BindingDraft.fromDict fl) = .ok d.agents
  reviewMatrix : ∃ items entries, Json.get source "review_matrix" = .obj items ∧
    items.mapM reviewerEntry = .ok entries ∧ d.reviewMatrix = Dict.ofEntries entries
  strategy : consensusStrategyOf py source = .ok d.consensusStrategy
  fallback : fallbackActionOf source = .ok d.fallbackAction
  actions : ∃ items, Json.get source "action_space" = .arr items ∧
    items.mapM (actionOf py) = .ok d.actionSpace
  rewardWeights : ∃ items entries, Json.get source "reward_weights" = .obj items ∧
    items.mapM (rewardEntry fl) = .ok entries ∧ d.rewardWeights = Dict.ofEntries entries
  tags : requiredTexts (Json.get source "experiment_tags") "experiment_tags" "experiment tag"
    = .ok d.experimentTags
  profileId : requiredText (Json.get source "profile_id") "profile_id" = .ok d.profileId
  version : requiredText (Json.get source "version") "version" = .ok d.version
  rounds : Json.get source "max_negotiation_rounds" = .int d.maxNegotiationRounds
  attempts : Json.get source "max_replan_attempts" = .int d.maxReplanAttempts
  review : d.humanReviewOnFailure = Json.get source "human_review_on_failure"

theorem ProfileDraft.fromDict_eq_ok {source : List (String × Json)} {d : ProfileDraft} :
    ProfileDraft.fromDict fl source = .ok d ↔ d.ReadFrom fl source := by
  constructor
  · intro h
    obtain ⟨agentItems, hagentItems, h⟩ := bind_eq_ok h
    obtain ⟨agents, hagents, h⟩ := bind_eq_ok h
    obtain ⟨matrixItems, hmatrixItems, h⟩ := bind_eq_ok h
    obtain ⟨matrix, hmatrix, h⟩ := bind_eq_ok h
    obtain ⟨strategy, hstrategy, h⟩ := bind_eq_ok h
    obtain ⟨fallback, hfallback, h⟩ := bind_eq_ok h
    obtain ⟨actionItems, hactionItems, h⟩ := bind_eq_ok h
    obtain ⟨actions, hactions, h⟩ := bind_eq_ok h
    obtain ⟨weightItems, hweightItems, h⟩ := bind_eq_ok h
    obtain ⟨weights, hweights, h⟩ := bind_eq_ok h
    obtain ⟨tags, htags, h⟩ := bind_eq_ok h
    obtain ⟨profileId, hprofileId, h⟩ := bind_eq_ok h
    obtain ⟨version, hversion, h⟩ := bind_eq_ok h
    obtain ⟨rounds, hrounds, h⟩ := bind_eq_ok h
    obtain ⟨attempts, hattempts, h⟩ := bind_eq_ok h
    obtain rfl := Except.ok.inj h
    exact ⟨⟨_, listValue_eq_ok.1 hagentItems, hagents⟩,
      ⟨_, _, requireMapping_eq_ok.1 hmatrixItems, hmatrix, rfl⟩, hstrategy, hfallback,
      ⟨_, listValue_eq_ok.1 hactionItems, hactions⟩,
      ⟨_, _, requireMapping_eq_ok.1 hweightItems, hweights, rfl⟩, htags, hprofileId, hversion,
      integerValue_eq_ok.1 hrounds, integerValue_eq_ok.1 hattempts, rfl⟩
  · intro hd
    obtain ⟨agentItems, hagentItems, hagents⟩ := hd.agents
    obtain ⟨matrixItems, matrix, hmatrixItems, hmatrix, hreview⟩ := hd.reviewMatrix
    obtain ⟨actionItems, hactionItems, hactions⟩ := hd.actions
    obtain ⟨weightItems, weights, hweightItems, hweights, hreward⟩ := hd.rewardWeights
    simp only [ProfileDraft.fromDict, listValue_eq_ok.2 hagentItems, hagents,
      requireMapping_eq_ok.2 hmatrixItems, hmatrix, hd.strategy, hd.fallback,
      listValue_eq_ok.2 hactionItems, hactions, requireMapping_eq_ok.2 hweightItems, hweights,
      hd.tags, hd.profileId, hd.version, integerValue_eq_ok.2 hd.rounds,
      integerValue_eq_ok.2 hd.attempts, ← hd.review, ← hreview, ← hreward, bind, Except.bind]
    rfl

end Drafts

/-! ### What the validation accepts -/

theorem semanticText_eq_ok {value label : String} :
    semanticText value label = .ok () ↔ Text.strip value ≠ "" := rejectIf_eq_ok

/-- Texts that pass the checks of a tuple. -/
structure DistinctTexts (values : List String) : Prop where
  ne_nil : values ≠ []
  nonblank : ∀ s ∈ values, Text.strip s ≠ ""
  nodup : values.Nodup

theorem semanticTexts_eq_ok {values : List String} {name label : String} :
    semanticTexts values name label = .ok () ↔ DistinctTexts values := by
  unfold semanticTexts
  simp only [checks_seq, rejectIf_eq_ok, forM_eq_ok, semanticText_eq_ok, not_not]
  exact ⟨fun h => ⟨h.1, h.2.1, h.2.2⟩, fun h => ⟨h.ne_nil, h.nonblank, h.nodup⟩⟩

theorem semanticWeight_eq_ok {value : PyFloat} {label : String} {q : {q : ℚ // 0 ≤ q}} :
    semanticWeight value label = .ok q ↔ value = .finite q.1 := by
  obtain ⟨q, hq⟩ := q
  unfold semanticWeight
  split
  · rename_i r
    split_ifs with hr
    · simp
    · simp only [PyFloat.finite.injEq, false_iff]
      rintro rfl
      exact hr hq
  · rename_i hne
    simpa using hne q

theorem semanticRoundCount_eq_ok {value : ℤ} {label : String} {minimum : ℕ}
    {n : {n : ℕ // minimum ≤ n}} :
    semanticRoundCount value label minimum = .ok n ↔ value = n.1 := by
  obtain ⟨n, hn⟩ := n
  unfold semanticRoundCount
  split_ifs with h
  · simp only [Except.ok.injEq, Subtype.mk.injEq]
    omega
  · simp only [false_iff]
    omega

theorem booleanValue_eq_ok {value : Json} {label : String} {b : Bool} :
    booleanValue value label = .ok b ↔ value = .bool b := by
  unfold booleanValue
  split
  · simp
  · rename_i hne
    simpa using hne b

/-- The draft of a binding. -/
def ProtocolAgentBinding.draft (b : ProtocolAgentBinding) : BindingDraft :=
  ⟨b.name, b.implementationId, b.runtime, .bool b.enabled, b.vetoScopes, .finite b.consensusWeight,
    b.capabilities⟩

/-- What `_validate_binding_semantics` checks. -/
structure ProtocolAgentBinding.Valid (b : ProtocolAgentBinding) : Prop where
  name : Text.strip b.name ≠ ""
  implementationId : Text.strip b.implementationId ≠ ""
  runtime : Text.strip b.runtime ≠ ""
  vetoScopes : DistinctTexts b.vetoScopes
  capabilities : DistinctTexts b.capabilities

theorem BindingDraft.validateSemantics_eq_ok {d : BindingDraft} {b : ProtocolAgentBinding} :
    d.validateSemantics = .ok b ↔ d = b.draft ∧ b.Valid := by
  constructor
  · intro h
    obtain ⟨_, hname, h⟩ := bind_eq_ok h
    obtain ⟨_, himplementation, h⟩ := bind_eq_ok h
    obtain ⟨_, hruntime, h⟩ := bind_eq_ok h
    obtain ⟨enabled, henabled, h⟩ := bind_eq_ok h
    obtain ⟨_, hscopes, h⟩ := bind_eq_ok h
    obtain ⟨weight, hweight, h⟩ := bind_eq_ok h
    obtain ⟨_, hcapabilities, h⟩ := bind_eq_ok h
    obtain rfl := Except.ok.inj h
    refine ⟨?_, semanticText_eq_ok.1 hname, semanticText_eq_ok.1 himplementation,
      semanticText_eq_ok.1 hruntime, semanticTexts_eq_ok.1 hscopes,
      semanticTexts_eq_ok.1 hcapabilities⟩
    have henabled := booleanValue_eq_ok.1 henabled
    have hweight := semanticWeight_eq_ok.1 hweight
    obtain ⟨name, implementationId, runtime, raw, scopes, value, capabilities⟩ := d
    obtain rfl : raw = .bool enabled := henabled
    obtain rfl : value = .finite weight.1 := hweight
    rfl
  · rintro ⟨rfl, hb⟩
    have hweight : semanticWeight (.finite b.consensusWeight) "consensus_weight"
        = .ok ⟨b.consensusWeight, b.weight_nonneg⟩ := semanticWeight_eq_ok.2 rfl
    simp only [ProtocolAgentBinding.draft, validateSemantics, semanticText_eq_ok.2 hb.name,
      semanticText_eq_ok.2 hb.implementationId, semanticText_eq_ok.2 hb.runtime, booleanValue,
      semanticTexts_eq_ok.2 hb.vetoScopes, semanticTexts_eq_ok.2 hb.capabilities, hweight, bind,
      Except.bind]
    rfl

theorem semanticMatrix_eq_ok {known : List String} {matrix : List (String × List String)}
    {r : {m : List (String × List String) // ∀ e ∈ m, e.1 ∉ e.2}} :
    semanticMatrix known matrix = .ok r ↔
      r.1 = matrix ∧ ∀ e ∈ matrix, checkReviewers known e = .ok () := by
  obtain ⟨m, hm⟩ := r
  unfold semanticMatrix
  split
  · rename_i h
    rw [Except.ok.injEq, Subtype.mk.injEq]
    exact ⟨fun hm => ⟨hm.symm, forM_eq_ok.1 h⟩, fun hm => hm.1.symm⟩
  · rename_i e h
    simp only [reduceCtorEq, false_iff, not_and]
    intro _ hall
    rw [forM_eq_ok.2 hall] at h
    cases h

theorem distinctAgents_eq_ok {agents : List ProtocolAgentBinding}
    {r : {l : List ProtocolAgentBinding // (l.map (·.name)).Nodup}} :
    distinctAgents agents = .ok r ↔ r.1 = agents := by
  obtain ⟨l, hl⟩ := r
  unfold distinctAgents
  split_ifs with h
  · simp [eq_comm]
  · simp only [false_iff]
    rintro rfl
    exact h hl

theorem observeOnly_eq_ok {kind : RecoveryActionKind}
    {r : {k : RecoveryActionKind // k = .observeOnly}} :
    observeOnly kind = .ok r ↔ kind = r.1 := by
  obtain ⟨k, rfl⟩ := r
  unfold observeOnly
  split_ifs with h <;> simp [h]

theorem requireTrue_eq_ok {value : Json} {r : {b : Bool // b = true}} :
    requireTrue value = .ok r ↔ value = .bool r.1 := by
  obtain ⟨b, rfl⟩ := r
  unfold requireTrue
  split
  · simp
  · rename_i hne
    simpa using hne

theorem checkTargets_eq_ok {known targets : List String} : checkTargets known targets = .ok () ↔
    (∀ k ∈ known, k ∈ targets) ∧ ∀ t ∈ targets, t ∈ known := by
  unfold checkTargets
  rw [rejectIf_eq_ok, not_or, not_ne_iff, not_ne_iff, List.filter_eq_nil_iff,
    List.filter_eq_nil_iff]
  simp

/-- What `validate_semantics` checks of the reviewers of a target. -/
structure ReviewersValid (known : List String) (reviewers : List String) : Prop where
  distinct : DistinctTexts reviewers
  known : ∀ r ∈ reviewers, r ∈ known

/-- What `validate_semantics` checks, apart from what the fields of a profile state. -/
structure ResearchProtocolProfile.Valid (p : ResearchProtocolProfile) : Prop where
  profileId : Text.strip p.profileId ≠ ""
  version : Text.strip p.version ≠ ""
  agents_ne_nil : p.agents ≠ []
  agents : ∀ b ∈ p.agents, b.Valid
  enabled : ∃ b ∈ p.agents, b.enabled = true
  targets : ∀ name ∈ p.agents.map (·.name), name ∈ p.reviewMatrix.map Prod.fst
  targets_known : ∀ target ∈ p.reviewMatrix.map Prod.fst, target ∈ p.agents.map (·.name)
  targets_nonblank : ∀ e ∈ p.reviewMatrix, Text.strip e.1 ≠ ""
  reviewers : ∀ e ∈ p.reviewMatrix, ReviewersValid (p.agents.map (·.name)) e.2
  actions_ne_nil : p.actionSpace ≠ []
  actions_nodup : p.actionSpace.Nodup
  fallback_mem : p.fallbackAction ∈ p.actionSpace
  rewards_ne_nil : p.rewardWeights ≠ []
  rewards_nonblank : ∀ e ∈ p.rewardWeights, Text.strip e.1 ≠ ""
  rewards_nonneg : ∀ e ∈ p.rewardWeights, 0 ≤ e.2
  tags : DistinctTexts p.experimentTags

/-- The draft of a profile. -/
def ResearchProtocolProfile.draft (p : ResearchProtocolProfile) : ProfileDraft where
  profileId := p.profileId
  version := p.version
  agents := p.agents.map (·.draft)
  reviewMatrix := p.reviewMatrix
  consensusStrategy := p.consensusStrategy
  maxNegotiationRounds := p.maxNegotiationRounds
  maxReplanAttempts := p.maxReplanAttempts
  fallbackAction := p.fallbackAction
  humanReviewOnFailure := .bool p.humanReviewOnFailure
  actionSpace := p.actionSpace
  rewardWeights := p.rewardWeights.map fun e => (e.1, .finite e.2)
  experimentTags := p.experimentTags

theorem semanticReward_eq_ok {entry : String × PyFloat} {e : String × ℚ} :
    semanticReward entry = .ok e ↔
      entry = (e.1, .finite e.2) ∧ Text.strip e.1 ≠ "" ∧ 0 ≤ e.2 := by
  constructor
  · intro h
    obtain ⟨_, hname, h⟩ := bind_eq_ok h
    obtain ⟨weight, hweight, h⟩ := bind_eq_ok h
    obtain rfl := Except.ok.inj h
    refine ⟨?_, semanticText_eq_ok.1 hname, weight.2⟩
    rw [← semanticWeight_eq_ok.1 hweight]
  · rintro ⟨rfl, hname, hweight⟩
    have hvalue : semanticWeight (.finite e.2) s!"reward_weights[{e.1}]" = .ok ⟨e.2, hweight⟩ :=
      semanticWeight_eq_ok.2 rfl
    simp only [semanticReward, semanticText_eq_ok.2 hname, hvalue, bind, Except.bind]
    rfl

theorem ProfileDraft.validateSemantics_eq_ok {d : ProfileDraft} {p : ResearchProtocolProfile} :
    d.validateSemantics = .ok p ↔ d = p.draft ∧ p.Valid ∧ p.configHash = "" := by
  constructor
  · intro h
    obtain ⟨_, hprofileId, h⟩ := bind_eq_ok h
    obtain ⟨_, hversion, h⟩ := bind_eq_ok h
    obtain ⟨_, hagentsNe, h⟩ := bind_eq_ok h
    obtain ⟨bindings, hbindings, h⟩ := bind_eq_ok h
    obtain ⟨agents, hagents, h⟩ := bind_eq_ok h
    obtain ⟨_, henabled, h⟩ := bind_eq_ok h
    obtain ⟨_, htargets, h⟩ := bind_eq_ok h
    obtain ⟨matrix, hmatrix, h⟩ := bind_eq_ok h
    obtain ⟨rounds, hrounds, h⟩ := bind_eq_ok h
    obtain ⟨attempts, hattempts, h⟩ := bind_eq_ok h
    obtain ⟨fallback, hfallback, h⟩ := bind_eq_ok h
    obtain ⟨review, hreview, h⟩ := bind_eq_ok h
    obtain ⟨_, hactionsNe, h⟩ := bind_eq_ok h
    obtain ⟨_, hactions, h⟩ := bind_eq_ok h
    obtain ⟨_, hmember, h⟩ := bind_eq_ok h
    obtain ⟨_, hweightsNe, h⟩ := bind_eq_ok h
    obtain ⟨weights, hweights, h⟩ := bind_eq_ok h
    obtain ⟨_, htags, h⟩ := bind_eq_ok h
    obtain rfl := Except.ok.inj h
    obtain ⟨hmatrix, hpasses⟩ := semanticMatrix_eq_ok.1 hmatrix
    obtain ⟨htargets, hknown⟩ := checkTargets_eq_ok.1 htargets
    have hagents := distinctAgents_eq_ok.1 hagents
    obtain ⟨hdrafts, hvalid⟩ := (mapM_eq_ok_iff_map fun _ _ =>
      BindingDraft.validateSemantics_eq_ok).1 hbindings
    obtain ⟨hpairs, hrewards⟩ := (mapM_eq_ok_iff_map fun _ _ => semanticReward_eq_ok).1 hweights
    have hreview := requireTrue_eq_ok.1 hreview
    have hrounds := semanticRoundCount_eq_ok.1 hrounds
    have hattempts := semanticRoundCount_eq_ok.1 hattempts
    have hfallback := observeOnly_eq_ok.1 hfallback
    have henabled := rejectIf_eq_ok.1 henabled
    rw [← hagents] at hdrafts hvalid
    rw [← hmatrix] at hpasses htargets hknown
    refine ⟨?_, ?_, rfl⟩
    · exact ProfileDraft.ext rfl rfl hdrafts hmatrix.symm rfl hrounds hattempts hfallback hreview rfl
        hpairs rfl
    · refine ⟨semanticText_eq_ok.1 hprofileId, semanticText_eq_ok.1 hversion, ?_, hvalid, ?_,
        htargets, hknown, ?_, ?_, rejectIf_eq_ok.1 hactionsNe, not_not.1 (rejectIf_eq_ok.1 hactions),
        ?_, ?_, fun e he => (hrewards e he).1, fun e he => (hrewards e he).2,
        semanticTexts_eq_ok.1 htags⟩
      · intro (hnil : agents.1 = [])
        refine rejectIf_eq_ok.1 hagentsNe ?_
        rw [hdrafts, hnil, List.map_nil]
      · by_contra hnone
        exact henabled fun b hb => Bool.eq_false_iff.2 fun hb' => hnone ⟨b, hb, hb'⟩
      · exact fun e he => (checkReviewers_eq_ok.1 (hpasses e he)).1
      · intro e he
        obtain ⟨-, hne, hnonblank, hmem, -, hnodup⟩ := checkReviewers_eq_ok.1 (hpasses e he)
        exact ⟨⟨hne, hnonblank, hnodup⟩, hmem⟩
      · show fallback.1 ∈ d.actionSpace
        rw [← hfallback]
        exact not_not.1 (rejectIf_eq_ok.1 hmember)
      · rintro rfl
        exact rejectIf_eq_ok.1 hweightsNe hpairs
  · rintro ⟨rfl, hp, hhash⟩
    have hbindings : (p.agents.map (·.draft)).mapM BindingDraft.validateSemantics = .ok p.agents :=
      mapM_map_ok fun b hb => BindingDraft.validateSemantics_eq_ok.2 ⟨rfl, hp.agents b hb⟩
    have hagents : distinctAgents p.agents = .ok ⟨p.agents, p.names_nodup⟩ :=
      distinctAgents_eq_ok.2 rfl
    have hmatrix : semanticMatrix (p.agents.map (·.name)) p.reviewMatrix
        = .ok ⟨p.reviewMatrix, p.no_self_review⟩ := by
      refine semanticMatrix_eq_ok.2 ⟨rfl, fun e he => checkReviewers_eq_ok.2 ?_⟩
      obtain ⟨hdistinct, hknown⟩ := hp.reviewers e he
      exact ⟨hp.targets_nonblank e he, hdistinct.ne_nil, hdistinct.nonblank, hknown,
        p.no_self_review e he, hdistinct.nodup⟩
    have hrounds : semanticRoundCount p.maxNegotiationRounds "max_negotiation_rounds" 1
        = .ok ⟨p.maxNegotiationRounds, p.rounds_pos⟩ := semanticRoundCount_eq_ok.2 rfl
    have hattempts : semanticRoundCount p.maxReplanAttempts "max_replan_attempts" 0
        = .ok ⟨p.maxReplanAttempts, Nat.zero_le _⟩ := semanticRoundCount_eq_ok.2 rfl
    have hfallback : observeOnly p.fallbackAction = .ok ⟨p.fallbackAction, p.fallback_observes⟩ :=
      observeOnly_eq_ok.2 rfl
    have hreview : requireTrue (.bool p.humanReviewOnFailure)
        = .ok ⟨p.humanReviewOnFailure, p.review_on_failure⟩ := requireTrue_eq_ok.2 rfl
    have hweights : (p.rewardWeights.map fun e => (e.1, PyFloat.finite e.2)).mapM semanticReward
        = .ok p.rewardWeights :=
      mapM_map_ok fun e he => semanticReward_eq_ok.2
        ⟨rfl, hp.rewards_nonblank e he, hp.rewards_nonneg e he⟩
    have hagentsNe : ¬p.agents.map (·.draft) = [] := by simpa using hp.agents_ne_nil
    have hweightsNe : ¬p.rewardWeights.map (fun e => (e.1, PyFloat.finite e.2)) = [] := by
      simpa using hp.rewards_ne_nil
    have henabled : ¬∀ b ∈ p.agents, b.enabled = false := by
      obtain ⟨b, hb, htrue⟩ := hp.enabled
      intro hall
      rw [hall b hb] at htrue
      cases htrue
    unfold ResearchProtocolProfile.draft
    simp only [ProfileDraft.validateSemantics, semanticText_eq_ok.2 hp.profileId,
      semanticText_eq_ok.2 hp.version, rejectIf,
      if_neg hagentsNe, hbindings, hagents, if_neg henabled,
      checkTargets_eq_ok.2 ⟨hp.targets, hp.targets_known⟩, hmatrix, hrounds, hattempts, hfallback,
      hreview, if_neg hp.actions_ne_nil, if_neg (not_not.2 hp.actions_nodup),
      if_neg (not_not.2 hp.fallback_mem), if_neg hweightsNe, hweights,
      semanticTexts_eq_ok.2 hp.tags, bind, Except.bind, ← hhash]
    rfl

namespace ResearchProtocolProfile

variable {py : Python} {fl : Floats py} {sha256 : String → String}
  {source : List (String × Json)} {p : ResearchProtocolProfile}

/-- The validation does not look at the hash. -/
theorem Valid.withHash (h : p.Valid) (configHash : String) :
    ({ p with configHash := configHash } : ResearchProtocolProfile).Valid :=
  { h with }

theorem recomputedConfigHash_eq_ok {configHash : String} :
    p.recomputedConfigHash sha256 py = .ok configHash ↔
      (Json.obj p.canonicalPayload).hasLongInteger = false ∧
        configHash = sha256 (p.canonicalText py) := by
  constructor
  · intro h
    obtain ⟨_, hlong, h⟩ := bind_eq_ok h
    exact ⟨Bool.eq_false_iff.2 (rejectIf_eq_ok.1 hlong), (Except.ok.inj h).symm⟩
  · rintro ⟨hlong, rfl⟩
    have hreject := Bool.eq_false_iff.1 hlong
    simp only [recomputedConfigHash, rejectIf, if_neg hreject, bind, Except.bind]
    rfl

theorem checkSuppliedHash_eq_ok {supplied : Json} {configHash : String} :
    checkSuppliedHash supplied configHash = .ok () ↔
      supplied = .null ∨ supplied = .str configHash := by
  unfold checkSuppliedHash
  split
  · simp
  · simp
  · rename_i hnull hstr
    simpa using ⟨hnull, hstr configHash⟩

/-- **What is accepted**: a profile that its document was read into, that passes the checks and
that carries the hash of its contents. -/
theorem fromDict_eq_ok : fromDict fl sha256 source = .ok p ↔ (∀ f ∈ source, f.1 ∈ profileKeys) ∧
    p.draft.ReadFrom fl source ∧ p.Valid ∧
    (Json.obj p.canonicalPayload).hasLongInteger = false ∧
    p.configHash = sha256 (p.canonicalText py) ∧
    (Json.get source "config_hash" = .null ∨
      Json.get source "config_hash" = .str p.configHash) := by
  constructor
  · intro h
    obtain ⟨_, hkeys, h⟩ := bind_eq_ok h
    obtain ⟨d, hread, h⟩ := bind_eq_ok h
    obtain ⟨q, hvalidate, h⟩ := bind_eq_ok h
    obtain ⟨configHash, hhash, h⟩ := bind_eq_ok h
    obtain ⟨_, hsupplied, h⟩ := bind_eq_ok h
    obtain rfl := Except.ok.inj h
    obtain ⟨rfl, hvalid, -⟩ := ProfileDraft.validateSemantics_eq_ok.1 hvalidate
    obtain ⟨hlong, hhash⟩ := recomputedConfigHash_eq_ok.1 hhash
    exact ⟨rejectUnknown_eq_ok.1 hkeys, ProfileDraft.fromDict_eq_ok.1 hread,
      hvalid.withHash configHash, hlong, hhash, checkSuppliedHash_eq_ok.1 hsupplied⟩
  · rintro ⟨hkeys, hread, hvalid, hlong, hhash, hsupplied⟩
    have hvalidate : p.draft.validateSemantics = .ok { p with configHash := "" } :=
      ProfileDraft.validateSemantics_eq_ok.2 ⟨rfl, hvalid.withHash "", rfl⟩
    have hrecomputed : ({ p with configHash := "" } : ResearchProtocolProfile).recomputedConfigHash
        sha256 py = .ok p.configHash := recomputedConfigHash_eq_ok.2 ⟨hlong, hhash⟩
    simp only [fromDict, rejectUnknown_eq_ok.2 hkeys, ProfileDraft.fromDict_eq_ok.2 hread,
      hvalidate, hrecomputed, checkSuppliedHash_eq_ok.2 hsupplied, bind, Except.bind]
    rfl

end ResearchProtocolProfile

end Supervision
end AiopsK8s
