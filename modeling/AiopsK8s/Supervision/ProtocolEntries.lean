/-
# What trimming loses of a protocol profile

Names are trimmed while the review matrix and the reward weights are built as new dictionaries, and
the checks for repeated names run on the result.  Two keys with the same trimmed name are not
refused: the later one overwrites the earlier.  Nothing is lost exactly where the last key of a name
has the reviewers of the others, and the weights of a name are one (`entries_kept_iff`); a reviewer
with a veto vanishes otherwise (`reviewer_lost`).
-/

import AiopsK8s.Learning.Loadable
import AiopsK8s.Supervision.ProtocolCodec

namespace AiopsK8s
namespace Supervision

open Effect JsonText

/-- A text, trimmed. -/
def trimmedText : Json → Option String
  | .str s => some (Text.strip s)
  | _ => none

/-- The texts of a list, trimmed. -/
def trimmedTexts : Json → List String
  | .arr items => items.filterMap trimmedText
  | _ => []

/-- The entries of a review matrix, trimmed. -/
def trimmedMatrix : Json → List (String × List String)
  | .obj fields => fields.map fun f => (Text.strip f.1, trimmedTexts f.2)
  | _ => []

/-- The last key of a name has the reviewers of the others. -/
def LastHasReviewers (matrix : List (String × List String)) : Prop :=
  ∀ e ∈ matrix, ∀ reviewers ∈ matrix.reverse.lookup e.1, e.2 ⊆ reviewers

/-- The weights of a name are one. -/
def OneWeight (weights : List (String × PyFloat)) : Prop :=
  ∀ e ∈ weights, ∀ f ∈ weights, e.1 = f.1 → e.2 = f.2

section Entries

variable {py : Python} (fl : Floats py)

/-- `float(value)` of a number. -/
def weightOf : Json → Option PyFloat
  | .int i => (fl.ofInt i).map .finite
  | .float x => some x
  | _ => none

/-- An entry of the reward weights, with its name trimmed. -/
def trimmedWeight (f : String × Json) : Option (String × PyFloat) :=
  (weightOf fl f.2).map fun w => (Text.strip f.1, w)

/-- The entries of the reward weights, with trimmed names. -/
def trimmedWeights : Json → List (String × PyFloat)
  | .obj fields => fields.filterMap (trimmedWeight fl)
  | _ => []

/-- **No entry is lost**: every reviewer of every target and every reward weight is in the
profile. -/
structure EntriesKept (source : List (String × Json)) (p : ResearchProtocolProfile) : Prop where
  reviewers : ∀ e ∈ trimmedMatrix (Json.get source "review_matrix"), ∀ reviewer ∈ e.2,
    ∃ reviewers, (e.1, reviewers) ∈ p.reviewMatrix ∧ reviewer ∈ reviewers
  weights : ∀ e ∈ trimmedWeights fl (Json.get source "reward_weights"),
    ∃ weight, (e.1, weight) ∈ p.rewardWeights ∧ e.2 = .finite weight

variable {fl}

theorem mapM_requiredText {items : List Json} {label : String} {texts : List String}
    (h : (items.mapM fun item => requiredText item label) = .ok texts) :
    trimmedTexts (.arr items) = texts := by
  have hpairs := mapM_eq_ok h
  clear h
  induction hpairs with
  | nil => rfl
  | cons hitem _ ih =>
      obtain ⟨s, rfl, rfl, -⟩ := requiredText_eq_ok.1 hitem
      exact congrArg (List.cons (Text.strip s)) ih

theorem mapM_reviewerEntry {items : List (String × Json)} {entries : List (String × List String)}
    (h : items.mapM reviewerEntry = .ok entries) : trimmedMatrix (.obj items) = entries := by
  have hpairs := mapM_eq_ok h
  clear h
  induction hpairs with
  | nil => rfl
  | cons hentry _ ih =>
      obtain ⟨htarget, -, htexts⟩ := reviewerEntry_eq_ok.1 hentry
      obtain ⟨texts, hvalue, htexts⟩ := requiredTexts_eq_ok.1 htexts
      refine congrArg₂ List.cons (Prod.ext htarget.symm ?_) ih
      show trimmedTexts _ = _
      rw [hvalue]
      exact mapM_requiredText htexts

theorem protocolNumberValue_eq_ok {value : Json} {label : String} {w : PyFloat} :
    protocolNumberValue fl value label = .ok w ↔ weightOf fl value = some w := by
  cases value with
  | int i =>
      simp only [protocolNumberValue, weightOf]
      rcases fl.ofInt i with _ | q
      · simp only [Option.map_none, reduceCtorEq]
      · simp only [Option.map_some, Except.ok.injEq, Option.some.injEq]
  | float x => simp only [protocolNumberValue, weightOf, Except.ok.injEq, Option.some.injEq]
  | null => simp only [protocolNumberValue, weightOf, reduceCtorEq]
  | bool b => simp only [protocolNumberValue, weightOf, reduceCtorEq]
  | str s => simp only [protocolNumberValue, weightOf, reduceCtorEq]
  | arr items => simp only [protocolNumberValue, weightOf, reduceCtorEq]
  | obj fields => simp only [protocolNumberValue, weightOf, reduceCtorEq]

theorem rewardEntry_eq_ok {entry : String × Json} {e : String × PyFloat} :
    rewardEntry fl entry = .ok e ↔
      e.1 = Text.strip entry.1 ∧ e.1 ≠ "" ∧ weightOf fl entry.2 = some e.2 := by
  constructor
  · intro h
    obtain ⟨name, hname, h⟩ := bind_eq_ok h
    obtain ⟨weight, hweight, h⟩ := bind_eq_ok h
    obtain rfl := Except.ok.inj h
    obtain ⟨s, hs, rfl, hne⟩ := requiredText_eq_ok.1 hname
    obtain rfl := Json.str.inj hs
    exact ⟨rfl, hne, protocolNumberValue_eq_ok.1 hweight⟩
  · rintro ⟨hname, hne, hweight⟩
    have htext : requiredText (.str entry.1) "reward weight name" = .ok e.1 :=
      requiredText_eq_ok.2 ⟨entry.1, rfl, hname, hne⟩
    simp only [rewardEntry, htext, protocolNumberValue_eq_ok.2 hweight, bind, Except.bind]
    rfl

theorem mapM_rewardEntry {items : List (String × Json)} {entries : List (String × PyFloat)}
    (h : items.mapM (rewardEntry fl) = .ok entries) : trimmedWeights fl (.obj items) = entries := by
  have hpairs := mapM_eq_ok h
  clear h
  induction hpairs with
  | nil => rfl
  | cons hentry _ ih =>
      obtain ⟨hname, -, hweight⟩ := rewardEntry_eq_ok.1 hentry
      have hhead : trimmedWeight fl _ = some _ := congrArg (Option.map _) hweight
      show List.filterMap (trimmedWeight fl) (_ :: _) = _
      rw [List.filterMap_cons_some hhead, ← hname]
      exact congrArg (List.cons _) ih

/-! ### Overwriting -/

/-- Every reviewer is kept where the last key of a name has the reviewers of the others. -/
theorem reviewers_kept_iff {entries : List (String × List String)} :
    (∀ e ∈ entries, ∀ reviewer ∈ e.2, ∃ reviewers, (e.1, reviewers) ∈ Dict.ofEntries entries ∧
      reviewer ∈ reviewers) ↔ LastHasReviewers entries := by
  constructor
  · intro h e he reviewers hlast reviewer hreviewer
    obtain ⟨kept, hkept, hmem⟩ := h e he reviewer hreviewer
    obtain rfl : kept = reviewers :=
      Option.some.inj ((Dict.mem_ofEntries.1 hkept).symm.trans hlast)
    exact hmem
  · intro h e he reviewer hreviewer
    obtain ⟨reviewers, hlast⟩ := Dict.exists_lookup_reverse he
    exact ⟨reviewers, Dict.mem_ofEntries.2 hlast, h e he reviewers hlast hreviewer⟩

variable {sha256 : String → String} {source : List (String × Json)} {p : ResearchProtocolProfile}

/-- The review matrix and the reward weights of an accepted profile are the dictionaries of the
trimmed entries. -/
theorem ResearchProtocolProfile.mappings_eq
    (h : ResearchProtocolProfile.fromDict fl sha256 source = .ok p) :
    p.reviewMatrix = Dict.ofEntries (trimmedMatrix (Json.get source "review_matrix")) ∧
      (p.rewardWeights.map fun e => (e.1, PyFloat.finite e.2))
        = Dict.ofEntries (trimmedWeights fl (Json.get source "reward_weights")) := by
  obtain ⟨-, hread, -⟩ := fromDict_eq_ok.1 h
  obtain ⟨matrixItems, matrix, hmatrixItems, hmatrix, hreview⟩ := hread.reviewMatrix
  obtain ⟨weightItems, weights, hweightItems, hweights, hreward⟩ := hread.rewardWeights
  rw [hmatrixItems, hweightItems, mapM_reviewerEntry hmatrix, mapM_rewardEntry hweights]
  exact ⟨hreview, hreward⟩

/-- Every weight is kept where the weights of a name are one. -/
theorem weights_kept_iff {entries : List (String × PyFloat)} {weights : List (String × ℚ)}
    (h : weights.map (fun e => (e.1, PyFloat.finite e.2)) = Dict.ofEntries entries) :
    (∀ e ∈ entries, ∃ weight, (e.1, weight) ∈ weights ∧ e.2 = .finite weight) ↔
      OneWeight entries := by
  rw [OneWeight, ← Dict.forall_mem_ofEntries_iff, ← h]
  refine forall₂_congr fun e _ => ?_
  obtain ⟨name, weight⟩ := e
  rw [List.mem_map]
  constructor
  · rintro ⟨q, hmem, hq⟩
    exact ⟨(name, q), hmem, Prod.ext rfl hq.symm⟩
  · rintro ⟨f, hmem, hf⟩
    obtain ⟨rfl, rfl⟩ := Prod.mk.inj hf
    exact ⟨f.2, hmem, rfl⟩

/-- **No entry of an accepted profile is lost exactly where the last key of a name has the
reviewers of the others and the weights of a name are one**, as they do where no two keys have the
same trimmed name. -/
theorem ResearchProtocolProfile.entries_kept_iff
    (h : ResearchProtocolProfile.fromDict fl sha256 source = .ok p) :
    (EntriesKept fl source p ↔
      LastHasReviewers (trimmedMatrix (Json.get source "review_matrix")) ∧
        OneWeight (trimmedWeights fl (Json.get source "reward_weights"))) ∧
    (((trimmedMatrix (Json.get source "review_matrix")).map Prod.fst).Nodup →
      ((trimmedWeights fl (Json.get source "reward_weights")).map Prod.fst).Nodup →
        EntriesKept fl source p) := by
  obtain ⟨hmatrix, hrewards⟩ := mappings_eq h
  have hiff : EntriesKept fl source p ↔
      LastHasReviewers (trimmedMatrix (Json.get source "review_matrix")) ∧
        OneWeight (trimmedWeights fl (Json.get source "reward_weights")) := by
    rw [← reviewers_kept_iff, ← weights_kept_iff hrewards, ← hmatrix]
    exact ⟨fun hkept => ⟨hkept.reviewers, hkept.weights⟩, fun hboth => ⟨hboth.1, hboth.2⟩⟩
  refine ⟨hiff, fun htargets hnames => hiff.2 ⟨?_, ?_⟩⟩
  · intro e he reviewers hlast
    have heq := List.inj_on_of_nodup_map htargets he (Dict.mem_of_lookup_reverse hlast) rfl
    rw [heq]
    exact List.Subset.refl _
  · intro e he f hf hname
    rw [List.inj_on_of_nodup_map hnames he hf hname]

end Entries

/-! ### A reviewer that vanishes -/

open Learning.PartitionRankerRepository (halves halvesFloats)

/-- An agent that reviews. -/
def reviewerDocument (name : String) : Json :=
  .obj [("name", .str name), ("implementation_id", .str "reviewer"), ("runtime", .str "local"),
    ("enabled", .bool true), ("veto_scopes", .texts ["safety"]), ("consensus_weight", .number 1),
    ("capabilities", .texts ["review"])]

/-- A profile in which `security` reviews `app`, and a second key for `app` with a space. -/
def overwrittenDocument : List (String × Json) :=
  [("profile_id", .str "padded"), ("version", .str "1"),
    ("agents", .ofList reviewerDocument ["app", "ha", "security"]),
    ("review_matrix", .obj [("app", .texts ["ha", "security"]), (" app", .texts ["ha"]),
      ("ha", .texts ["app"]), ("security", .texts ["app"])]),
    ("consensus_strategy", .str "unanimous_veto"), ("max_negotiation_rounds", .int 1),
    ("max_replan_attempts", .int 0), ("fallback_action", .str "observe_only"),
    ("human_review_on_failure", .bool true), ("action_space", .texts ["observe_only"]),
    ("reward_weights", .obj [("recovery", .number 1)]), ("experiment_tags", .texts ["test"])]

theorem reviewMatrix_overwritten :
    ((ResearchProtocolProfile.fromDict halvesFloats (fun _ => "") overwrittenDocument).toOption.map
      (·.reviewMatrix)) = some [("app", ["ha"]), ("ha", ["app"]), ("security", ["app"])] := by
  decide +kernel

theorem exists_overwritten : ∃ p,
    ResearchProtocolProfile.fromDict halvesFloats (fun _ => "") overwrittenDocument = .ok p ∧
      p.reviewMatrix = [("app", ["ha"]), ("ha", ["app"]), ("security", ["app"])] := by
  have hmatrix := reviewMatrix_overwritten
  rcases hp : ResearchProtocolProfile.fromDict halvesFloats (fun _ => "") overwrittenDocument
    with e | p
  · rw [hp] at hmatrix
    cases hmatrix
  · rw [hp] at hmatrix
    exact ⟨p, rfl, Option.some.inj hmatrix⟩

/-- **A reviewer with a veto vanishes**: `security` reviews `app` in an accepted document and not
in the profile. -/
theorem reviewer_lost : ¬∀ (py : Python) (fl : Floats py) (sha256 : String → String)
    (source : List (String × Json)) (p : ResearchProtocolProfile),
    ResearchProtocolProfile.fromDict fl sha256 source = .ok p → EntriesKept fl source p := by
  intro h
  obtain ⟨p, hp, hmatrix⟩ := exists_overwritten
  have hmem : ("app", ["ha", "security"]) ∈
      trimmedMatrix (Json.get overwrittenDocument "review_matrix") := by decide +kernel
  obtain ⟨reviewers, hkept, hsecurity⟩ :=
    (h halves halvesFloats _ _ p hp).reviewers _ hmem "security" (by decide)
  rw [hmatrix] at hkept
  have hreviewers : reviewers = ["ha"] := by simpa using hkept
  rw [hreviewers] at hsecurity
  exact absurd hsecurity (by decide)

theorem entries_kept_overwritten : ∃ p,
    ResearchProtocolProfile.fromDict halvesFloats (fun _ => "") overwrittenDocument = .ok p ∧
      (EntriesKept halvesFloats overwrittenDocument p ↔
        LastHasReviewers (trimmedMatrix (Json.get overwrittenDocument "review_matrix")) ∧
          OneWeight (trimmedWeights halvesFloats
            (Json.get overwrittenDocument "reward_weights"))) := by
  obtain ⟨p, hp, -⟩ := exists_overwritten
  exact ⟨p, hp, (ResearchProtocolProfile.entries_kept_iff hp).1⟩

end Supervision
end AiopsK8s
