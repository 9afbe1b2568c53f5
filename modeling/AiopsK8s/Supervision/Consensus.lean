/-
# Resolving reviews

`consensus.py`.  `ConsensusResolver.resolve` orders the reviews, keeps those of
enabled agents and applies the strategy of the profile.

`BlockingVeto` says what a veto that blocks is without following that code: an
enabled reviewer vetoed, and the strategy gives the veto force here.  The
resolver lists exactly the reviewers of blocking vetoes
(`mem_blockingVetoes_resolve`), and it approves only where there is none
(`not_blockingVeto_of_approved`).

Weights are floats, and `sum` of them is not what it was before Python 3.12; the
resolver is given the one of its interpreter.
-/

import Mathlib.Data.List.Sort
import AiopsK8s.Lib.Binary64
import AiopsK8s.Supervision.Protocol

namespace AiopsK8s
namespace Supervision

/-- `ConsensusOutcome`. -/
structure ConsensusOutcome where
  approved : Bool
  strategy : String
  score : PyFloat
  blockingVetoes : List String
  nonBlockingObjections : List String
  revisions : List PeerReview
  reason : String
  deriving DecidableEq, Repr

namespace ConsensusResolver

variable (sum : List PyFloat → PyFloat) (p : ResearchProtocolProfile)

/-- The sort key order of `_order_reviews`: position of the reviewer in the
profile, then its name, then the review identifier. -/
def ReviewLe (a b : PeerReview) : Prop :=
  let i := p.agents.findIdx (·.name == a.reviewer)
  let j := p.agents.findIdx (·.name == b.reviewer)
  i < j ∨ (i = j ∧ (a.reviewer < b.reviewer ∨ (a.reviewer = b.reviewer ∧ ¬b.reviewId < a.reviewId)))

instance : DecidableRel (ReviewLe p) := fun a b => by
  unfold ReviewLe
  infer_instance

/-- `_order_reviews`. -/
def orderReviews (reviews : List PeerReview) : List PeerReview :=
  reviews.insertionSort (ReviewLe p)

/-- `_is_enabled_reviewer`. -/
def isEnabledReviewer (review : PeerReview) : Bool :=
  match p.binding? review.reviewer with
  | some b => b.enabled
  | none => false

/-- Some scope of the decision is a veto scope of the reviewer. -/
def vetoInScope (scopes : List String) (review : PeerReview) : Bool :=
  match p.binding? review.reviewer with
  | some b => scopes.any (b.vetoScopes.contains ·)
  | none => false

/-- `bindings[review.reviewer].consensus_weight`. -/
def weight (review : PeerReview) : ℚ :=
  match p.binding? review.reviewer with
  | some b => b.consensusWeight
  | none => 0

/-- The reviewers of the vetoes among the reviews. -/
def vetoes (reviews : List PeerReview) : List String :=
  (reviews.filter (·.verdict == .veto)).map (·.reviewer)

/-- `_resolve_role_based_veto`. -/
def resolveRoleBasedVeto (reviews revisions : List PeerReview) (scopes : List String) :
    ConsensusOutcome :=
  let blocking := vetoes (reviews.filter (vetoInScope p scopes))
  { approved := blocking.isEmpty
    strategy := ConsensusStrategy.roleBasedVeto.value
    score := if blocking.isEmpty then .finite 1 else .finite 0
    blockingVetoes := blocking
    nonBlockingObjections := vetoes (reviews.filter fun r => !vetoInScope p scopes r)
    revisions
    reason :=
      if blocking.isEmpty then "no matching role vetoes"
      else "matching role vetoes: " ++ ", ".intercalate blocking }

/-- `_resolve_unanimous_veto`. -/
def resolveUnanimousVeto (reviews revisions : List PeerReview) : ConsensusOutcome :=
  let blocking := vetoes reviews
  { approved := blocking.isEmpty
    strategy := ConsensusStrategy.unanimousVeto.value
    score := if blocking.isEmpty then .finite 1 else .finite 0
    blockingVetoes := blocking
    nonBlockingObjections := []
    revisions
    reason := if blocking.isEmpty then "no vetoes" else "vetoes: " ++ ", ".intercalate blocking }

/-- `sum(bindings[review.reviewer].consensus_weight for review in reviews)`. -/
def totalWeight (reviews : List PeerReview) : PyFloat :=
  sum (reviews.map fun review => .finite (weight p review))

/-- `_resolve_weighted_majority`. -/
def resolveWeightedMajority (reviews revisions : List PeerReview) : ConsensusOutcome :=
  let participating := totalWeight sum p reviews
  let approving := totalWeight sum p (reviews.filter (·.verdict == .approve))
  let score := if participating = .finite 0 then .finite 0 else approving.div participating
  { approved := score.ge (.finite (1 / 2))
    strategy := ConsensusStrategy.weightedMajority.value
    score
    blockingVetoes := []
    nonBlockingObjections := vetoes reviews
    revisions
    reason :=
      if score.ge (.finite (1 / 2)) then "weighted approval threshold met"
      else "weighted approval threshold not met" }

/-- `ConsensusResolver.resolve`. -/
def resolve (reviews : List PeerReview) (scopes : List String) : ConsensusOutcome :=
  let enabled := (orderReviews p reviews).filter (isEnabledReviewer p)
  let revisions := enabled.filter (·.verdict == .revise)
  match p.consensusStrategy with
  | .roleBasedVeto => resolveRoleBasedVeto p enabled revisions scopes
  | .unanimousVeto => resolveUnanimousVeto enabled revisions
  | .weightedMajority => resolveWeightedMajority sum p enabled revisions

/-- A review vetoes the decision with force: its reviewer is enabled and, under
the role-based strategy, holds a veto scope that the decision touches; under
the unanimous strategy every veto has force, under the weighted one none. -/
def BlockingVeto (scopes : List String) (review : PeerReview) : Prop :=
  review.verdict = .veto ∧ ∃ b, p.binding? review.reviewer = some b ∧ b.enabled = true ∧
    match p.consensusStrategy with
    | .roleBasedVeto => ∃ scope ∈ scopes, scope ∈ b.vetoScopes
    | .unanimousVeto => True
    | .weightedMajority => False

variable {sum : List PyFloat → PyFloat} {p : ResearchProtocolProfile}

@[simp] theorem mem_orderReviews {reviews : List PeerReview} {r : PeerReview} :
    r ∈ orderReviews p reviews ↔ r ∈ reviews :=
  (List.perm_insertionSort _ _).mem_iff

@[simp] theorem mem_vetoes {reviews : List PeerReview} {name : String} :
    name ∈ vetoes reviews ↔ ∃ r ∈ reviews, r.verdict = .veto ∧ r.reviewer = name := by
  simp [vetoes, and_assoc]

theorem isEnabledReviewer_iff {r : PeerReview} :
    isEnabledReviewer p r = true ↔ ∃ b, p.binding? r.reviewer = some b ∧ b.enabled = true := by
  unfold isEnabledReviewer
  split <;> simp_all

theorem vetoInScope_iff {scopes : List String} {r : PeerReview} :
    vetoInScope p scopes r = true ↔
      ∃ b, p.binding? r.reviewer = some b ∧ ∃ scope ∈ scopes, scope ∈ b.vetoScopes := by
  unfold vetoInScope
  split <;> simp_all

/-- **The resolver lists exactly the reviewers whose veto has force.** -/
theorem mem_blockingVetoes_resolve {reviews : List PeerReview} {scopes : List String}
    {name : String} : name ∈ (resolve sum p reviews scopes).blockingVetoes ↔
      ∃ r ∈ reviews, r.reviewer = name ∧ BlockingVeto p scopes r := by
  unfold resolve BlockingVeto
  cases p.consensusStrategy with
  | roleBasedVeto =>
      simp only [resolveRoleBasedVeto, mem_vetoes, List.mem_filter, mem_orderReviews,
        isEnabledReviewer_iff, vetoInScope_iff]
      constructor
      · rintro ⟨r, ⟨⟨hr, b, hb, he⟩, b', hb', hs⟩, hv, hn⟩
        obtain rfl : b = b' := Option.some.inj (hb.symm.trans hb')
        exact ⟨r, hr, hn, hv, b, hb, he, hs⟩
      · rintro ⟨r, hr, hn, hv, b, hb, he, hs⟩
        exact ⟨r, ⟨⟨hr, b, hb, he⟩, b, hb, hs⟩, hv, hn⟩
  | unanimousVeto =>
      simp only [resolveUnanimousVeto, mem_vetoes, List.mem_filter, mem_orderReviews,
        isEnabledReviewer_iff, and_true]
      constructor
      · rintro ⟨r, ⟨hr, he⟩, hv, hn⟩
        exact ⟨r, hr, hn, hv, he⟩
      · rintro ⟨r, hr, hn, hv, he⟩
        exact ⟨r, ⟨hr, he⟩, hv, hn⟩
  | weightedMajority => simp [resolveWeightedMajority]

/-- An approving outcome has no blocking vetoes. -/
theorem blockingVetoes_of_approved {reviews : List PeerReview} {scopes : List String}
    (h : (resolve sum p reviews scopes).approved = true) :
    (resolve sum p reviews scopes).blockingVetoes = [] := by
  unfold resolve at h ⊢
  cases hs : p.consensusStrategy <;> rw [hs] at h
  · simpa [resolveRoleBasedVeto] using h
  · simpa [resolveUnanimousVeto] using h
  · rfl

/-- **An approved decision carries no veto with force.** -/
theorem not_blockingVeto_of_approved {reviews : List PeerReview} {scopes : List String}
    (h : (resolve sum p reviews scopes).approved = true) {r : PeerReview} (hr : r ∈ reviews) :
    ¬BlockingVeto p scopes r := by
  intro hb
  have hm : r.reviewer ∈ (resolve sum p reviews scopes).blockingVetoes :=
    mem_blockingVetoes_resolve.2 ⟨r, hr, rfl, hb⟩
  rw [blockingVetoes_of_approved h] at hm
  simp at hm

end ConsensusResolver
end Supervision
end AiopsK8s
