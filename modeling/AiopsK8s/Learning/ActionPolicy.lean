/-
# The action policy

`action_policy.py`: `ContextualBanditPolicy.fit` collects the observed rewards of the eligible
samples under the joined key of their context, and `recommend` ranks the bounded actions by mean
reward, of the samples in the context, else of all samples, else by a prior for the baseline.

The means are rounded to six decimals before they are compared.  Up to that rounding the selected
action has the greatest score, and the order of the samples and the ineligible ones do not matter
(`ranksByMeans`), where no other context has the queried key; a context whose fields hold no `|`
shares its key with no other (`sameFields_of_key_eq`).
-/

import AiopsK8s.Agents.Candidates
import AiopsK8s.Lib.Grouping
import AiopsK8s.Lib.Round
import AiopsK8s.Lib.Sorting
import Mathlib.Data.Prod.Lex

namespace AiopsK8s
namespace Learning

open Agents Round

/-- `ACTION_KINDS`. -/
def actionKinds : List String := ["observe_only", "rollout_restart", "scale_out"]

/-- `PolicyMode`. -/
inductive PolicyMode where
  | baseline
  | learned
  deriving DecidableEq

/-- `PolicyContext`. -/
structure PolicyContext where
  scenario : String
  metric : String
  cause : String
  severity : String
  deriving DecidableEq

/-- `PolicySample`, as far as a policy is fitted to it. -/
structure PolicySample where
  context : PolicyContext
  action : String
  observedReward : ℚ
  eligible : Bool
  deriving DecidableEq

/-- A row of the ranking. -/
structure RankingRow where
  action : String
  meanReward : ℚ
  samples : ℕ
  source : String
  deriving DecidableEq

/-- `PolicyRecommendation`. -/
structure PolicyRecommendation where
  policyMode : PolicyMode
  context : PolicyContext
  selectedAction : String
  ranking : List RankingRow
  trainingSamples : ℕ
  fallbackReason : String
  deriving DecidableEq

/-- `_normalize`, where `lower` is `str.lower`. -/
def normalize (lower : String → String) (value : String) : String :=
  String.ofList ((lower (Text.strip value)).toList.map fun c => if c = '-' then '_' else c)

namespace PolicyContext

variable (lower : String → String) (c : PolicyContext)

/-- The four normalised fields. -/
def fields : List String := [c.scenario, c.metric, c.cause, c.severity].map (normalize lower)

/-- `PolicyContext.key`. -/
def key : String := "|".intercalate (c.fields lower)

end PolicyContext

/-- What a policy has collected. -/
structure ContextualBanditPolicy where
  contextRewards : List (String × List (String × List ℚ))
  globalRewards : List (String × List ℚ)
  sampleCount : ℕ

namespace ContextualBanditPolicy

variable (lower : String → String)

/-- What a policy starts with. -/
def empty : ContextualBanditPolicy := ⟨[], [], 0⟩

/-- `self._context_rewards.get(key, {}).get(action)`, or an empty list. -/
def contextValues (policy : ContextualBanditPolicy) (key action : String) : List ℚ :=
  (((policy.contextRewards.lookup key).getD []).lookup action).getD []

/-- `self._global_rewards.get(action, [])`. -/
def globalValues (policy : ContextualBanditPolicy) (action : String) : List ℚ :=
  (policy.globalRewards.lookup action).getD []

/-- The body of the loop of `fit`. -/
def fitSample (policy : ContextualBanditPolicy) (sample : PolicySample) :
    ContextualBanditPolicy :=
  if sample.eligible then
    let key := sample.context.key lower
    let rewards := (policy.contextRewards.lookup key).getD []
    ⟨Dict.set policy.contextRewards key
        (Dict.append rewards sample.action sample.observedReward),
      Dict.append policy.globalRewards sample.action sample.observedReward,
      policy.sampleCount + 1⟩
  else policy

/-- `fit`. -/
def fit (samples : List PolicySample) : ContextualBanditPolicy :=
  samples.foldl (fitSample lower) empty

/-- `_mean`. -/
def mean (values : List ℚ) : ℚ := if values = [] then 0 else values.sum / values.length

/-- The baseline of `recommend`. -/
def baselineActionFor (decisionPolicy : AgentDecisionPolicy) (cause : String) : String :=
  let preferred := decisionPolicy.preferredActionFor cause
  if preferred ∈ actionKinds then preferred else "observe_only"

/-- `1.0 if action == baseline_action else 0.0`. -/
def prior (baselineAction action : String) : ℚ := if action = baselineAction then 1 else 0

/-- A row for an action without samples. -/
def baselineRow (baselineAction action : String) : RankingRow :=
  ⟨action, prior baselineAction action, 0, "baseline"⟩

/-- A row of the learned mode, from the rewards in the context and from all rewards. -/
def learnedRow (baselineAction : String) (own all : List ℚ) (action : String) : RankingRow :=
  if own ≠ [] then ⟨action, round6 (mean own), own.length, "context"⟩
  else if all ≠ [] then ⟨action, round6 (mean all), all.length, "global"⟩
  else ⟨action, round6 (prior baselineAction action), 0, "baseline"⟩

/-- The key that the ranking is sorted by. -/
def rowKey (baselineAction : String) (row : RankingRow) : ℚ ×ₗ ℕ ×ₗ ℕ :=
  toLex (-row.meanReward,
    toLex (if row.action = baselineAction then 0 else 1, actionKinds.idxOf row.action))

/-- `ranking.sort(...)`. -/
def sortRows (baselineAction : String) (rows : List RankingRow) : List RankingRow :=
  rows.insertionSort fun a b => rowKey baselineAction a ≤ rowKey baselineAction b

/-- The rows of `recommend`, in the order of `ACTION_KINDS`. -/
def rows (policy : ContextualBanditPolicy) (mode : PolicyMode) (baselineAction key : String) :
    List RankingRow :=
  if mode = .learned ∧ policy.sampleCount ≠ 0 then
    actionKinds.map fun action =>
      learnedRow baselineAction (policy.contextValues key action) (policy.globalValues action) action
  else actionKinds.map (baselineRow baselineAction)

/-- `recommend`. -/
def recommend (decisionPolicy : AgentDecisionPolicy) (policy : ContextualBanditPolicy)
    (mode : PolicyMode) (c : PolicyContext) : PolicyRecommendation :=
  let baselineAction := baselineActionFor decisionPolicy c.cause
  let ranking := sortRows baselineAction (policy.rows mode baselineAction (c.key lower))
  ⟨mode, c, (ranking.head?.map RankingRow.action).getD "", ranking, policy.sampleCount,
    if mode = .learned ∧ policy.sampleCount = 0 then "no eligible training samples" else ""⟩

/-! ### What is collected -/

section Collected

variable {lower} {policy : ContextualBanditPolicy}

/-- The rewards of the samples. -/
def rewards (samples : List PolicySample) : List ℚ := samples.map PolicySample.observedReward

/-- The eligible samples of an action. -/
def samplesOf (samples : List PolicySample) (action : String) : List PolicySample :=
  samples.filter fun s => s.eligible && s.action == action

theorem samplesOf_cons (sample : PolicySample) (samples : List PolicySample) (action : String) :
    samplesOf (sample :: samples) action = samplesOf [sample] action ++ samplesOf samples action :=
  List.filter_append [sample] samples

theorem append_contextValues (d : List (String × List ℚ)) (action action' : String) (r : ℚ) :
    ((Dict.append d action' r).lookup action).getD [] =
      (d.lookup action).getD [] ++ if action' = action then [r] else [] := by
  rw [Dict.append, Dict.lookup_set]
  by_cases h : action = action'
  · simp [h]
  · simp [h, Ne.symm h]

/-- **What one sample adds.** -/
theorem contextValues_fitSample (sample : PolicySample) (key action : String) :
    (fitSample lower policy sample).contextValues key action = policy.contextValues key action ++
      rewards ((samplesOf [sample] action).filter fun s => s.context.key lower == key) := by
  unfold fitSample
  by_cases heligible : sample.eligible = true
  · rw [if_pos heligible]
    unfold contextValues
    dsimp only
    rw [Dict.lookup_set]
    by_cases hkey : key = sample.context.key lower
    · rw [if_pos hkey, Option.getD_some, append_contextValues, ← hkey]
      by_cases haction : sample.action = action
      · simp [rewards, samplesOf, heligible, haction, hkey]
      · simp [rewards, samplesOf, haction]
    · have hkey' : sample.context.key lower ≠ key := Ne.symm hkey
      simp [rewards, samplesOf, hkey, hkey']
  · rw [if_neg heligible]
    simp [rewards, samplesOf, heligible]

theorem globalValues_fitSample (sample : PolicySample) (action : String) :
    (fitSample lower policy sample).globalValues action =
      policy.globalValues action ++ rewards (samplesOf [sample] action) := by
  unfold fitSample
  by_cases heligible : sample.eligible = true
  · rw [if_pos heligible, globalValues, append_contextValues]
    by_cases haction : sample.action = action
    · simp [rewards, samplesOf, globalValues, heligible, haction]
    · simp [rewards, samplesOf, globalValues, haction]
  · rw [if_neg heligible]
    simp [rewards, samplesOf, heligible]

theorem sampleCount_fitSample (sample : PolicySample) :
    (fitSample lower policy sample).sampleCount =
      policy.sampleCount + [sample].countP PolicySample.eligible := by
  unfold fitSample
  by_cases heligible : sample.eligible = true
  · simp [heligible]
  · simp [heligible]

variable (lower) in
/-- **What a whole run collects.** -/
theorem foldl_fitSample (samples : List PolicySample) (policy : ContextualBanditPolicy) :
    (∀ key action, (samples.foldl (fitSample lower) policy).contextValues key action =
      policy.contextValues key action ++ rewards ((samplesOf samples action).filter fun s =>
        s.context.key lower == key)) ∧
    (∀ action, (samples.foldl (fitSample lower) policy).globalValues action =
      policy.globalValues action ++ rewards (samplesOf samples action)) ∧
    (samples.foldl (fitSample lower) policy).sampleCount =
      policy.sampleCount + samples.countP PolicySample.eligible := by
  induction samples generalizing policy with
  | nil => simp [rewards, samplesOf]
  | cons sample samples ih =>
    obtain ⟨hcontext, hglobal, hcount⟩ := ih (fitSample lower policy sample)
    rw [List.foldl_cons]
    refine ⟨fun key action => ?_, fun action => ?_, ?_⟩
    · rw [hcontext, contextValues_fitSample, List.append_assoc,
        samplesOf_cons sample samples, List.filter_append]
      exact congrArg _ List.map_append.symm
    · rw [hglobal, globalValues_fitSample, List.append_assoc,
        samplesOf_cons sample samples]
      exact congrArg _ List.map_append.symm
    · rw [hcount, sampleCount_fitSample, Nat.add_assoc, ← List.countP_append,
        List.singleton_append]

end Collected

/-! ### What is recommended -/

/-- The two contexts have the same normalised fields. -/
def SameFields (c c' : PolicyContext) : Prop := c.fields lower = c'.fields lower

instance decidableSameFields (c c' : PolicyContext) : Decidable (SameFields lower c c') :=
  inferInstanceAs (Decidable (_ = _))

/-- The mean observed reward of samples. -/
def meanReward (samples : List PolicySample) : ℚ := mean (rewards samples)

/-- The eligible samples of an action in the queried context. -/
def samplesIn (c : PolicyContext) (samples : List PolicySample) (action : String) :
    List PolicySample :=
  (samplesOf samples action).filter fun s => SameFields lower s.context c

/-- The score of an action: its mean reward in the context, else in all contexts, else a prior. -/
def score (decisionPolicy : AgentDecisionPolicy) (samples : List PolicySample) (c : PolicyContext)
    (action : String) : ℚ :=
  if samplesIn lower c samples action ≠ [] then meanReward (samplesIn lower c samples action)
  else if samplesOf samples action ≠ [] then meanReward (samplesOf samples action)
  else prior (baselineActionFor decisionPolicy c.cause) action

/-- A ranking of the bounded actions by their scores, to six decimals. -/
structure RanksByMeans (decisionPolicy : AgentDecisionPolicy) (samples : List PolicySample)
    (c : PolicyContext) (recommendation : PolicyRecommendation) : Prop where
  actions : (recommendation.ranking.map RankingRow.action).Perm actionKinds
  means : ∀ row ∈ recommendation.ranking,
    row.meanReward = round6 (score lower decisionPolicy samples c row.action)
  ordered : recommendation.ranking.Pairwise fun row row' => row'.meanReward ≤ row.meanReward
  selected : recommendation.selectedAction ∈ actionKinds ∧ ∀ action ∈ actionKinds,
    round6 (score lower decisionPolicy samples c action) ≤
      round6 (score lower decisionPolicy samples c recommendation.selectedAction)
  unchanged : ∀ samples', (samples'.filter PolicySample.eligible).Perm
      (samples.filter PolicySample.eligible) →
    recommend lower decisionPolicy (fit lower samples') .learned c = recommendation

section Recommended

variable {lower} {decisionPolicy : AgentDecisionPolicy} {samples samples' : List PolicySample}
variable {c : PolicyContext}

theorem rewards_eq_nil {samples : List PolicySample} : rewards samples = [] ↔ samples = [] :=
  List.map_eq_nil_iff

/-- A policy is read through the rewards of the eligible samples. -/
theorem rows_fit (mode : PolicyMode) (baselineAction key : String) :
    (fit lower samples).rows mode baselineAction key =
      if mode = .learned ∧ samples.countP PolicySample.eligible ≠ 0 then
        actionKinds.map fun action => learnedRow baselineAction
          (rewards ((samplesOf samples action).filter fun s => s.context.key lower == key))
          (rewards (samplesOf samples action)) action
      else actionKinds.map (baselineRow baselineAction) := by
  obtain ⟨hcontext, hglobal, hcount⟩ := foldl_fitSample lower samples empty
  unfold rows fit
  simp only [hcontext, hglobal, hcount]
  simp [empty, contextValues, globalValues]

theorem samplesOf_eq_nil (h : samples.countP PolicySample.eligible = 0) (action : String) :
    samplesOf samples action = [] := by
  rw [List.countP_eq_zero] at h
  refine List.filter_eq_nil_iff.2 fun s hs => ?_
  rw [Bool.and_eq_true]
  exact fun hboth => h s hs hboth.1

/-- The rows in the order of `ACTION_KINDS`: each has its score. -/
theorem meanReward_learnedRow (baselineAction : String) (own all : List PolicySample)
    (action : String) :
    (learnedRow baselineAction (rewards own) (rewards all) action).meanReward =
      round6 (if own ≠ [] then meanReward own else if all ≠ [] then meanReward all
        else prior baselineAction action) := by
  unfold learnedRow
  simp only [ne_eq, rewards_eq_nil]
  split_ifs <;> rfl

theorem action_learnedRow (baselineAction : String) (own all : List ℚ) (action : String) :
    (learnedRow baselineAction own all action).action = action := by
  unfold learnedRow
  split_ifs <;> rfl

theorem round6_prior (baselineAction action : String) :
    round6 (prior baselineAction action) = prior baselineAction action := by
  have hone : round6 1 = 1 := by simpa using round6_grid 1000000
  unfold prior
  split_ifs
  · exact hone
  · exact round6_zero

/-- Every row has its score, unless another context has the queried key. -/
theorem meanReward_rows (hkey : ∀ s ∈ samples, s.eligible = true →
      s.context.key lower = c.key lower → SameFields lower s.context c) {row : RankingRow}
    (hrow : row ∈ (fit lower samples).rows .learned
      (baselineActionFor decisionPolicy c.cause) (c.key lower)) :
    row.meanReward = round6 (score lower decisionPolicy samples c row.action) := by
  rw [rows_fit] at hrow
  by_cases hcount : samples.countP PolicySample.eligible = 0
  · rw [if_neg fun h => h.2 hcount, List.mem_map] at hrow
    obtain ⟨action, -, rfl⟩ := hrow
    have hnone := samplesOf_eq_nil hcount action
    have hscore : score lower decisionPolicy samples c action =
        prior (baselineActionFor decisionPolicy c.cause) action := by
      simp [score, samplesIn, hnone]
    exact ((congrArg round6 hscore).trans (round6_prior _ _)).symm
  · rw [if_pos ⟨rfl, hcount⟩, List.mem_map] at hrow
    obtain ⟨action, -, rfl⟩ := hrow
    have hin : ((samplesOf samples action).filter fun s => s.context.key lower == c.key lower) =
        samplesIn lower c samples action := by
      refine List.filter_congr fun s hs => ?_
      obtain ⟨hmem, heligible⟩ := List.mem_filter.1 hs
      rw [Bool.and_eq_true] at heligible
      refine Bool.eq_iff_iff.2 ?_
      rw [beq_iff_eq, decide_eq_true_iff]
      exact ⟨hkey s hmem heligible.1, fun h => congrArg ("|".intercalate ·) h⟩
    rw [action_learnedRow, meanReward_learnedRow, hin]
    rfl

theorem action_rows (mode : PolicyMode) (baselineAction key : String) :
    ((fit lower samples).rows mode baselineAction key).map RankingRow.action = actionKinds := by
  rw [rows_fit]
  split_ifs
  · rw [List.map_map]
    exact (List.map_congr_left fun action _ => action_learnedRow _ _ _ action).trans (List.map_id _)
  · rw [List.map_map]
    exact List.map_id _

/-- A row does not depend on the order of the rewards. -/
theorem learnedRow_perm {own own' all all' : List ℚ} (hown : own.Perm own') (hall : all.Perm all')
    (baselineAction action : String) :
    learnedRow baselineAction own all action = learnedRow baselineAction own' all' action := by
  have hnil : ∀ {l l' : List ℚ}, l.Perm l' → (l = [] ↔ l' = []) := fun h =>
    ⟨fun hl => List.perm_nil.1 (hl ▸ h.symm), fun hl => List.perm_nil.1 (hl ▸ h)⟩
  have hmean : ∀ {l l' : List ℚ}, l.Perm l' → mean l = mean l' := fun h => by
    rw [mean, mean, h.sum_eq, h.length_eq]
    exact if_congr (hnil h) rfl rfl
  unfold learnedRow
  rw [hmean hown, hmean hall, hown.length_eq, hall.length_eq]
  simp only [ne_eq, hnil hown, hnil hall]

theorem samplesOf_filter (samples : List PolicySample) (action : String) :
    samplesOf samples action =
      (samples.filter PolicySample.eligible).filter fun s => s.action == action := by
  rw [List.filter_filter]
  exact List.filter_congr fun s _ => Bool.and_comm _ _

/-- **Only the eligible samples matter, in any order.** -/
theorem recommend_perm (mode : PolicyMode) (h : (samples'.filter PolicySample.eligible).Perm
      (samples.filter PolicySample.eligible)) :
    recommend lower decisionPolicy (fit lower samples') mode c =
      recommend lower decisionPolicy (fit lower samples) mode c := by
  have hcount : samples'.countP PolicySample.eligible = samples.countP PolicySample.eligible := by
    rw [List.countP_eq_length_filter, List.countP_eq_length_filter, h.length_eq]
  have hcounts : (fit lower samples').sampleCount = (fit lower samples).sampleCount := by
    obtain ⟨-, -, hleft⟩ := foldl_fitSample lower samples' empty
    obtain ⟨-, -, hright⟩ := foldl_fitSample lower samples empty
    rw [fit, fit, hleft, hright, hcount]
  have hof : ∀ action, (samplesOf samples' action).Perm (samplesOf samples action) := by
    intro action
    rw [samplesOf_filter, samplesOf_filter]
    exact h.filter _
  have hrows : ∀ baselineAction, (fit lower samples').rows mode baselineAction (c.key lower) =
      (fit lower samples).rows mode baselineAction (c.key lower) := by
    intro baselineAction
    rw [rows_fit, rows_fit, hcount]
    refine if_congr Iff.rfl (List.map_congr_left fun action _ => ?_) rfl
    exact learnedRow_perm (((hof action).filter _).map _) ((hof action).map _) _ _
  unfold recommend
  simp only [hrows, hcounts]

theorem sortRows_perm (baselineAction : String) (rows : List RankingRow) :
    (sortRows baselineAction rows).Perm rows := List.perm_insertionSort _ _

theorem pairwise_sortRows (baselineAction : String) (rows : List RankingRow) :
    (sortRows baselineAction rows).Pairwise fun row row' => row'.meanReward ≤ row.meanReward := by
  refine (List.pairwise_insertionSort _ rows).imp fun {a b} hab => ?_
  rcases Prod.Lex.le_iff.1 hab with hlt | ⟨heq, -⟩
  · exact neg_le_neg_iff.1 hlt.le
  · exact (neg_inj.1 heq).ge

end Recommended

/-- **What the learned mode recommends**, where no other context has the queried key. -/
theorem ranksByMeans (decisionPolicy : AgentDecisionPolicy) (samples : List PolicySample)
    (c : PolicyContext) (hkey : ∀ s ∈ samples, s.eligible = true →
      s.context.key lower = c.key lower → SameFields lower s.context c) :
    RanksByMeans lower decisionPolicy samples c
      (recommend lower decisionPolicy (fit lower samples) .learned c) := by
  set baselineAction := baselineActionFor decisionPolicy c.cause with hbaseline
  set rows := (fit lower samples).rows .learned baselineAction (c.key lower) with hrows
  have hranking : (recommend lower decisionPolicy (fit lower samples) .learned c).ranking =
      sortRows baselineAction rows := rfl
  have hselected : (recommend lower decisionPolicy (fit lower samples) .learned c).selectedAction =
      ((sortRows baselineAction rows).head?.map RankingRow.action).getD "" := rfl
  have hperm := sortRows_perm baselineAction rows
  have hordered := pairwise_sortRows baselineAction rows
  have hactions : rows.map RankingRow.action = actionKinds := action_rows _ _ _
  have hmeans : ∀ row ∈ sortRows baselineAction rows,
      row.meanReward = round6 (score lower decisionPolicy samples c row.action) :=
    fun row hrow => meanReward_rows hkey (hperm.mem_iff.1 hrow)
  refine ⟨?_, hmeans, hordered, ?_, fun samples' h => recommend_perm _ h⟩
  · rw [hranking]
    exact hactions ▸ hperm.map _
  · rw [hselected]
    have hmem : ∀ action ∈ actionKinds, ∃ row ∈ sortRows baselineAction rows,
        row.action = action := by
      intro action haction
      rw [← hactions] at haction
      obtain ⟨row, hrow, rfl⟩ := List.mem_map.1 haction
      exact ⟨row, hperm.mem_iff.2 hrow, rfl⟩
    rcases hsorted : sortRows baselineAction rows with - | ⟨first, rest⟩
    · obtain ⟨row, hrow, -⟩ := hmem "observe_only" (by decide)
      rw [hsorted] at hrow
      cases hrow
    · have hfirst : first ∈ sortRows baselineAction rows := by
        rw [hsorted]
        exact List.mem_cons_self
      refine ⟨?_, fun action haction => ?_⟩
      · rw [← hactions]
        exact List.mem_map_of_mem (hperm.mem_iff.1 hfirst)
      · obtain ⟨row, hrow, rfl⟩ := hmem action haction
        rw [← hmeans row hrow]
        show _ ≤ round6 (score lower decisionPolicy samples c first.action)
        rw [← hmeans first hfirst]
        rw [hsorted] at hordered hrow
        rcases List.mem_cons.1 hrow with rfl | hrest
        · exact le_rfl
        · exact (List.pairwise_cons.1 hordered).1 row hrest

variable {lower}

theorem append_cons_inj {a a' rest rest' : List Char} (h : '|' ∉ a) (h' : '|' ∉ a')
    (heq : a ++ '|' :: rest = a' ++ '|' :: rest') : a = a' ∧ rest = rest' := by
  induction a generalizing a' with
  | nil =>
    cases a' with
    | nil => exact ⟨rfl, (List.cons.inj heq).2⟩
    | cons d a' =>
      obtain ⟨rfl, -⟩ := List.cons.inj heq
      exact absurd List.mem_cons_self h'
  | cons d a ih =>
    cases a' with
    | nil =>
      obtain ⟨rfl, -⟩ := List.cons.inj heq
      exact absurd List.mem_cons_self h
    | cons e a' =>
      obtain ⟨rfl, htail⟩ := List.cons.inj heq
      obtain ⟨rfl, hrest⟩ := ih (fun hmem => h (List.mem_cons_of_mem _ hmem))
        (fun hmem => h' (List.mem_cons_of_mem _ hmem)) htail
      exact ⟨rfl, hrest⟩

/-- **Fields without a `|` are determined by the key.** -/
theorem sameFields_of_key_eq {c c' : PolicyContext}
    (h : ∀ field ∈ c.fields lower ++ c'.fields lower, '|' ∉ field.toList)
    (hkey : c.key lower = c'.key lower) : SameFields lower c c' := by
  have hchars := congrArg String.toList hkey
  simp only [PolicyContext.key, PolicyContext.fields, List.map_cons, List.map_nil,
    String.intercalate_cons_cons, String.intercalate_singleton, String.toList_append,
    List.append_assoc] at hchars
  simp only [PolicyContext.fields, List.map_cons, List.map_nil, List.forall_mem_append,
    List.forall_mem_cons] at h
  obtain ⟨⟨h₁, h₂, h₃, -⟩, h₁', h₂', h₃', -⟩ := h
  obtain ⟨hscenario, hchars⟩ := append_cons_inj h₁ h₁' hchars
  obtain ⟨hmetric, hchars⟩ := append_cons_inj h₂ h₂' hchars
  obtain ⟨hcause, hseverity⟩ := append_cons_inj h₃ h₃' hchars
  unfold SameFields PolicyContext.fields
  simp only [List.map_cons, List.map_nil]
  rw [String.toList_injective hscenario, String.toList_injective hmetric,
    String.toList_injective hcause, String.toList_injective hseverity]

/-- A sample of a context with a reward, for an incident on the CPU. -/
def cpuSample (action : String) (reward : ℚ) : PolicySample :=
  ⟨⟨"cpu-stress", "cpu", "cpu_saturation", "critical"⟩, action, reward, true⟩

theorem ranksByMeans_cpu :
    RanksByMeans id ⟨[], [], 3, 5⟩ [cpuSample "observe_only" 1, cpuSample "scale_out" 2]
      ⟨"cpu_stress", " cpu", "cpu-saturation", "critical"⟩
      (recommend id ⟨[], [], 3, 5⟩
        (fit id [cpuSample "observe_only" 1, cpuSample "scale_out" 2]) .learned
        ⟨"cpu_stress", " cpu", "cpu-saturation", "critical"⟩) :=
  ranksByMeans id _ _ _ (List.forall_mem_cons.2 ⟨fun _ _ => by decide +kernel,
    List.forall_mem_cons.2 ⟨fun _ _ => by decide +kernel, List.forall_mem_nil _⟩⟩)

/-- Two means that are equal to six decimals: the baseline action is selected, with the smaller. -/
theorem rounded_means_not_maximal :
    ¬∀ (lower : String → String) (decisionPolicy : AgentDecisionPolicy)
      (samples : List PolicySample) (c : PolicyContext), ∀ action ∈ actionKinds,
        score lower decisionPolicy samples c action ≤ score lower decisionPolicy samples c
          (recommend lower decisionPolicy (fit lower samples) .learned c).selectedAction := by
  intro h
  have hle := h id ⟨[], [], 3, 5⟩
    [cpuSample "observe_only" (1 / 10), cpuSample "scale_out" (1 / 10 + 1 / 10 ^ 7)]
    ⟨"cpu-stress", "cpu", "cpu_saturation", "critical"⟩ "scale_out" (by decide)
  exact absurd hle (by decide +kernel)

end ContextualBanditPolicy
end Learning
end AiopsK8s
