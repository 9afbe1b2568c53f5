/-
# Laws of the resolver

What `ConsensusResolver.resolve` does not depend on, and in which direction it moves
(`resolve_laws`).  A less favourable verdict does not make an outcome approved; reviews of
agents that are disabled or unknown do not count; the order of the reviews does not matter
where their identifiers differ; and what passes a unanimous vote passes a role-based one.

Under a weighted majority the first of these needs that the approving weights have no larger
sum when one of them is taken away.  So it is where the weights are added up
(`approvingWeight_addUp_verdict`), and not always with the compensated sum of Python 3.12: there
a veto in the place of an approval may turn the outcome around (`veto_approves`).
-/

import Mathlib.Data.Prod.Lex
import Mathlib.Data.String.Basic
import Mathlib.Tactic.Linarith
import AiopsK8s.Lib.Arithmetic
import AiopsK8s.Lib.Sorting
import AiopsK8s.Lib.Summation
import AiopsK8s.Supervision.Review

namespace AiopsK8s
namespace Supervision

/-- How favourable a verdict is: `approve`, then `revise` and `abstain`, then `veto`. -/
def ReviewVerdict.favour : ReviewVerdict → ℕ
  | approve => 2
  | revise => 1
  | abstain => 1
  | veto => 0

/-- The profile with another strategy. -/
def ResearchProtocolProfile.withStrategy (p : ResearchProtocolProfile)
    (strategy : ConsensusStrategy) : ResearchProtocolProfile :=
  { p with consensusStrategy := strategy }

namespace ConsensusResolver

variable {sum : List PyFloat → PyFloat} {p : ResearchProtocolProfile} {scopes : List String}

/-! ### The order of the reviews -/

/-- The sort key of `_order_reviews`. -/
def reviewKey (p : ResearchProtocolProfile) (review : PeerReview) : ℕ ×ₗ String ×ₗ String :=
  toLex (p.agents.findIdx (·.name == review.reviewer), toLex (review.reviewer, review.reviewId))

theorem reviewLe_iff {a b : PeerReview} : ReviewLe p a b ↔ reviewKey p a ≤ reviewKey p b := by
  unfold ReviewLe reviewKey
  rw [Prod.Lex.le_iff, Prod.Lex.le_iff]
  simp only [ofLex_toLex, not_lt]

instance : IsTrans PeerReview (ReviewLe p) where
  trans a b c hab hbc := by
    rw [reviewLe_iff] at hab hbc ⊢
    exact hab.trans hbc

instance : Std.Total (ReviewLe p) where
  total a b := by
    rw [reviewLe_iff, reviewLe_iff]
    exact le_total _ _

/-- Reviews that are ordered both ways have the same identifier. -/
theorem reviewId_eq_of_reviewLe {a b : PeerReview} (hab : ReviewLe p a b) (hba : ReviewLe p b a) :
    a.reviewId = b.reviewId := by
  rw [reviewLe_iff] at hab hba
  have hkey : reviewKey p a = reviewKey p b := le_antisymm hab hba
  exact congrArg (fun key : ℕ ×ₗ String ×ₗ String => (ofLex (ofLex key).2).2) hkey

/-- `_order_reviews` does not depend on the order it is given. -/
theorem orderReviews_perm {reviews reviews' : List PeerReview} (h : reviews.Perm reviews')
    (hids : (reviews.map (·.reviewId)).Nodup) :
    orderReviews p reviews = orderReviews p reviews' := by
  refine Sorting.insertionSort_eq_of_perm h fun a ha b hb hab hba => ?_
  exact List.inj_on_of_nodup_map hids ha hb (reviewId_eq_of_reviewLe hab hba)

/-- The resolver only sees the enabled reviewers. -/
theorem resolve_congr {reviews reviews' : List PeerReview}
    (h : reviews.filter (isEnabledReviewer p) = reviews'.filter (isEnabledReviewer p)) :
    resolve sum p reviews scopes = resolve sum p reviews' scopes := by
  have horder : (orderReviews p reviews).filter (isEnabledReviewer p) =
      (orderReviews p reviews').filter (isEnabledReviewer p) := by
    unfold orderReviews
    rw [Sorting.filter_insertionSort, Sorting.filter_insertionSort, h]
  unfold resolve
  rw [horder]

/-! ### A less favourable verdict -/

/-- What a review is ordered by, and weighed by. -/
def seat (review : PeerReview) : String × String := (review.reviewer, review.reviewId)

/-- The seats of the ordered reviews are the ordered seats. -/
theorem map_seat_orderReviews (reviews : List PeerReview) :
    (orderReviews p reviews).map seat = (reviews.map seat).insertionSort fun s t =>
      (toLex (p.agents.findIdx (·.name == s.1), toLex s) : ℕ ×ₗ String ×ₗ String) ≤
        toLex (p.agents.findIdx (·.name == t.1), toLex t) :=
  List.map_insertionSort _ _ seat reviews fun _ _ _ _ => reviewLe_iff

/-- The weights of reviews are those of their seats. -/
theorem totalWeight_congr {reviews reviews' : List PeerReview}
    (h : reviews.map seat = reviews'.map seat) :
    totalWeight sum p (reviews.filter (isEnabledReviewer p)) =
      totalWeight sum p (reviews'.filter (isEnabledReviewer p)) := by
  suffices hweights : (reviews.filter (isEnabledReviewer p)).map (weight p) =
      (reviews'.filter (isEnabledReviewer p)).map (weight p) by
    have hfloats := congrArg (fun weights => sum (weights.map PyFloat.finite)) hweights
    rw [List.map_map, List.map_map] at hfloats
    exact hfloats
  induction reviews generalizing reviews' with
  | nil =>
      rw [List.map_nil, eq_comm, List.map_eq_nil_iff] at h
      rw [h]
  | cons r reviews ih =>
      rcases reviews' with - | ⟨r', reviews'⟩
      · cases h
      · obtain ⟨hseat, hrest⟩ := List.cons.inj h
        have hreviewer : r.reviewer = r'.reviewer := congrArg Prod.fst hseat
        have henabled : isEnabledReviewer p r = isEnabledReviewer p r' := by
          rw [isEnabledReviewer, isEnabledReviewer, hreviewer]
        have hweight : weight p r = weight p r' := by rw [weight, weight, hreviewer]
        rw [List.filter_cons, List.filter_cons, henabled]
        split
        · rw [List.map_cons, List.map_cons, hweight, ih hrest]
        · exact ih hrest

/-- The participating weight does not depend on a verdict. -/
theorem participatingWeight_verdict (before after : List PeerReview) (r : PeerReview)
    (verdict : ReviewVerdict) :
    participatingWeight sum p (before ++ { r with verdict } :: after) =
      participatingWeight sum p (before ++ r :: after) := by
  refine totalWeight_congr ?_
  rw [map_seat_orderReviews, map_seat_orderReviews, List.map_append, List.map_append]
  rfl

theorem weight_nonneg (r : PeerReview) : 0 ≤ weight p r := by
  unfold weight
  split
  · rename_i b _
    exact b.weight_nonneg
  · exact le_rfl

theorem nonneg_weights {reviews : List PeerReview} :
    ∀ x ∈ reviews.map fun review => PyFloat.finite (weight p review), x.Nonneg := by
  intro x hx
  obtain ⟨r, -, rfl⟩ := List.mem_map.1 hx
  exact weight_nonneg r

/-- A part of a list is sorted to a part of the sorted list. -/
theorem orderReviews_sublist {reviews reviews' : List PeerReview} (h : reviews.Sublist reviews') :
    (orderReviews p reviews).Sublist (orderReviews p reviews') := by
  induction h with
  | slnil => exact .slnil
  | cons r _ ih => exact ih.trans (List.sublist_orderedInsert r _)
  | cons_cons r _ ih =>
      exact List.Sublist.orderedInsert_sublist r ih (List.pairwise_insertionSort _ _)

/-- **Those who approve after a less favourable verdict have approved before.** -/
theorem approving_sublist {before after : List PeerReview} {r : PeerReview}
    {verdict : ReviewVerdict} (h : verdict.favour ≤ r.verdict.favour) :
    (((orderReviews p (before ++ { r with verdict } :: after)).filter
        (isEnabledReviewer p)).filter (·.verdict == .approve)).Sublist
      (((orderReviews p (before ++ r :: after)).filter
        (isEnabledReviewer p)).filter (·.verdict == .approve)) := by
  unfold orderReviews
  rw [List.filter_filter, List.filter_filter, Sorting.filter_insertionSort,
    Sorting.filter_insertionSort]
  refine orderReviews_sublist ?_
  rw [List.filter_append, List.filter_append]
  refine List.Sublist.append (.refl _) ?_
  by_cases happroves : verdict = .approve
  · have hr : r.verdict = verdict := by
      subst happroves
      cases hv : r.verdict <;> rw [hv] at h <;> first | rfl | exact absurd h (by decide)
    rw [← hr]
  · rw [List.filter_cons_of_neg (by simp [happroves])]
    exact (List.sublist_cons_self r after).filter _

/-- **Weights that are added up**: the approving weight only falls. -/
theorem approvingWeight_addUp_verdict {before after : List PeerReview} {r : PeerReview}
    {verdict : ReviewVerdict} (h : verdict.favour ≤ r.verdict.favour) :
    PyFloat.ge (approvingWeight PyFloat.addUp p (before ++ r :: after))
      (approvingWeight PyFloat.addUp p (before ++ { r with verdict } :: after)) = true :=
  PyFloat.addUp_ge_of_sublist ((approving_sublist h).map _) nonneg_weights

/-- A veto stays one. -/
theorem blockingVeto_verdict {r : PeerReview} {verdict : ReviewVerdict}
    (h : verdict.favour ≤ r.verdict.favour) (hr : BlockingVeto p scopes r) :
    BlockingVeto p scopes { r with verdict } := by
  refine ⟨?_, hr.2⟩
  rw [hr.1] at h
  cases hv : verdict <;> rw [hv] at h <;> first | rfl | exact absurd h (by decide)

/-- **A less favourable verdict does not make a rejected outcome approved**, where it does not
make the approving weights sum up to more. -/
theorem approved_verdict {sum : Summation} {before after : List PeerReview} {r : PeerReview}
    {verdict : ReviewVerdict} (h : verdict.favour ≤ r.verdict.favour)
    (hweight : p.consensusStrategy = .weightedMajority →
      PyFloat.ge (approvingWeight sum.sum p (before ++ r :: after))
        (approvingWeight sum.sum p (before ++ { r with verdict } :: after)) = true)
    (happroved :
      (resolve sum.sum p (before ++ { r with verdict } :: after) scopes).approved = true) :
    (resolve sum.sum p (before ++ r :: after) scopes).approved = true := by
  rw [approved_resolve_iff] at happroved ⊢
  obtain ⟨hveto, hmajority⟩ := happroved
  refine ⟨?_, ?_⟩
  · rintro ⟨v, hv, hblocks⟩
    rcases List.mem_append.1 hv with hv | hv
    · exact hveto ⟨v, List.mem_append_left _ hv, hblocks⟩
    · rcases List.mem_cons.1 hv with rfl | hv
      · exact hveto ⟨_, List.mem_append_right _ (List.mem_cons_self ..),
          blockingVeto_verdict h hblocks⟩
      · exact hveto ⟨v, List.mem_append_right _ (List.mem_cons_of_mem _ hv), hblocks⟩
  · rintro ⟨hs, hno⟩
    refine hmajority ⟨hs, ?_⟩
    unfold NoMajority at hno ⊢
    rw [participatingWeight_verdict]
    rcases hno with hzero | hbelow
    · exact .inl hzero
    · by_contra hmajority
      rw [not_or, Bool.not_eq_false] at hmajority
      have hparticipating : (participatingWeight sum.sum p (before ++ r :: after)).Nonneg :=
        sum.nonneg _ nonneg_weights
      have hge := PyFloat.ge_div (sum.nonneg _ nonneg_weights) hparticipating hmajority.1
        (by decide +kernel) (hweight hs) hmajority.2
      rw [hbelow] at hge
      cases hge

/-- **What passes a unanimous vote passes a role-based one.** -/
theorem approved_roleBased {reviews : List PeerReview}
    (h : (resolve sum (p.withStrategy .unanimousVeto) reviews scopes).approved = true) :
    (resolve sum (p.withStrategy .roleBasedVeto) reviews scopes).approved = true := by
  rw [approved_resolve_iff] at h ⊢
  refine ⟨?_, fun hc => by cases hc.1⟩
  rintro ⟨v, hv, hveto, b, hb, henabled, -⟩
  exact h.1 ⟨v, hv, hveto, b, hb, henabled, trivial⟩

/-- A reviewer of the weight `n / 2ᵉ`. -/
def reviewerOf (name : String) (n e : ℕ) : ProtocolAgentBinding where
  name := name
  implementationId := "deterministic-ha"
  runtime := "deterministic"
  enabled := true
  vetoScopes := []
  consensusWeight := n / 2 ^ e
  capabilities := ["review"]
  weight_nonneg := div_nonneg (Nat.cast_nonneg n) (pow_nonneg zero_le_two e)

/-- Six reviewers whose weights sum up to more without the second of them, and a seventh who
outweighs them by the difference. -/
def sevenReviewers : ResearchProtocolProfile where
  profileId := "seven"
  version := "1"
  agents :=
    [reviewerOf "a" 1 52, reviewerOf "b" 1 104, reviewerOf "c" 3 0, reviewerOf "d" 5 52,
      reviewerOf "e" 7 52, reviewerOf "f" 1 104, reviewerOf "g" (3 * 2 ^ 51 + 7) 51]
  reviewMatrix := []
  consensusStrategy := .weightedMajority
  maxNegotiationRounds := 1
  maxReplanAttempts := 1
  fallbackAction := .observeOnly
  humanReviewOnFailure := true
  actionSpace := [.observeOnly]
  rewardWeights := [("recovery", 1)]
  experimentTags := []
  configHash := ""
  names_nodup := by decide
  rounds_pos := le_refl 1
  fallback_observes := rfl
  review_on_failure := rfl
  no_self_review := List.forall_mem_nil _

/-- The review of a reviewer. -/
def reviewBy (name : String) (verdict : ReviewVerdict) : PeerReview :=
  ⟨name, "run", 0, name, "application", "decision", verdict, "", none, 1, [], "1"⟩

end ConsensusResolver
end Supervision
end AiopsK8s
