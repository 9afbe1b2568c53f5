/-
# Crash safety of the plan repository

A publication may crash at any step, and so may any number of recoveries after it.
Whatever they did, one complete recovery leaves the old plan directory or the new
one with its documents and its commit marker, leaves every other entry of the root
as it was, and leaves neither the staging directory nor the transaction marker
(`publication_crashSafe`).

The transaction marker records only the last component of the plan directory, so
this is so for plan ids that name a directory in the root.  For `a/b` a crash after
the staged directory is in place leaves it there, without a commit marker
(`nestedPlan_not_crashSafe`).
-/

import AiopsK8s.Repository.PublishSafety
import AiopsK8s.Repository.Settling

namespace AiopsK8s
namespace Repository

open Files Crash

/-- Recoveries that are stopped, one after the other: each lists directories in an order
of its own and crashes after a number of steps. -/
def afterRecoveries (attempts : List (Listing × ℕ)) (t : FileTree Content) : FileTree Content :=
  attempts.foldl (fun t a => after (recoverIncompleteTransactions a.1) t (some a.2)) t

/-- What a recovery has to leave of a publication that started from `t`: the plan
directory as it was or published, every other entry of the root as it was, and no
staging directory and no marker. -/
structure Converged {py : Python} (pub : Publication py) (ids : TransactionIds)
    (t t' : FileTree Content) : Prop where
  plan : (∀ r, t'.node (pub.planDirectory ++ r) = t.node (pub.planDirectory ++ r)) ∨
    (isCommitted t' pub.planDirectory = true ∧ Documents pub pub.planDirectory t')
  others : ∀ x ∉ ownNames pub ids, ∀ r, t'.node (x :: r) = t.node (x :: r)
  staging : t'.node [ids.staging] = none
  marker : t'.node [ids.marker] = none

/-- **A publication is crash safe** in the tree `t`: stopped after any number of steps,
and after any recoveries that are stopped, a complete recovery converges. -/
def CrashSafe {py : Python} (pub : Publication py) (ids : TransactionIds) (t : FileTree Content) :
    Prop :=
  ∀ (ls : Listing) (budget : Option ℕ) (attempts : List (Listing × ℕ)) (ls' : Listing),
    ∃ t', (recoverIncompleteTransactions ls').run
        ⟨afterRecoveries attempts (after (publishPlanDirectory ls ids pub) t budget), none⟩ =
          (.ok (), ⟨t', none⟩) ∧ Converged pub ids t t'

section Runs

variable {py : Python} {pub : Publication py} {ids : TransactionIds} {t t' : FileTree Content}

theorem Recovered.converged (h : Setting pub ids t) (hr : Recovered pub ids t t') :
    Converged pub ids t t' := by
  refine ⟨?_, fun x hx r => congrFun (hr.frame.others x hx) r, hr.staging, hr.unmarked.marker⟩
  rw [h.planDirectory]
  rcases hr.consistent with hk | hp
  · exact .inl fun r => congrFun hk.plan r
  · exact .inr ⟨hp.committed, hp.documents⟩

/-- A publication that is stopped anywhere leaves a recoverable state. -/
theorem recoverable_after_publish (h : Setting pub ids t) (ls : Listing) (budget : Option ℕ) :
    Recoverable pub ids t (after (publishPlanDirectory ls ids pub) t budget) := by
  rcases (publishPlanDirectory_spec h ls).after rfl budget with ⟨_, hr, -⟩ | ⟨_, hr⟩
  · exact hr.recoverable
  · exact hr

/-- Recoveries that are stopped anywhere leave a recoverable state. -/
theorem Recoverable.afterRecoveries (h : Setting pub ids t) (hs : Settled t)
    (attempts : List (Listing × ℕ)) (hr : Recoverable pub ids t t') :
    Recoverable pub ids t (afterRecoveries attempts t') := by
  induction attempts generalizing t' with
  | nil => exact hr
  | cons a attempts ih =>
      refine ih ?_
      rcases (recover_spec h a.1 hs).after hr (some a.2) with ⟨_, hr'⟩ | ⟨_, -, hr'⟩
      · exact hr'.recoverable
      · exact hr'

/-- In a settled tree every publication under a plain plan id is crash safe. -/
theorem crashSafe_of_settled (h : Setting pub ids t) (hs : Settled t) : CrashSafe pub ids t := by
  intro ls budget attempts ls'
  have hr := (recoverable_after_publish h ls budget).afterRecoveries h hs attempts
  have hraise : ∀ e t', ¬((Stop.raised e : Stop RepositoryError) = .crash ∧
      Recoverable pub ids t t') := fun e t' he => nomatch he.1
  obtain ⟨_, t', hrun, hrec⟩ := (recover_spec h ls' hs).completes hraise hr
  exact ⟨t', hrun, hrec.converged h⟩

end Runs

/-- **Publication is crash safe.**  From any tree whose readable markers are ones the
repository writes, after the recovery that `save` starts with, a publication with new
identifiers under a plan id that names a directory in the root is crash safe. -/
theorem publication_crashSafe {py : Python} {pub : Publication py} {ids : TransactionIds}
    {ls : Listing} {t₀ t : FileTree Content} (hmarkers : OwnMarkers t₀)
    (hrecover : (recoverIncompleteTransactions ls).run ⟨t₀, none⟩ = (.ok (), ⟨t, none⟩))
    (hplain : PlainId pub.planId) (hfresh : Fresh t ids pub.name) : CrashSafe pub ids t := by
  refine crashSafe_of_settled ⟨hplain, hfresh⟩ ?_
  have hok := (recover_settled ls false ⟨t₀, none⟩ ⟨rfl, hmarkers⟩).1 () ⟨t, none⟩ hrecover
  exact hok.2

/-- A publication of a first plan version under the plan id `id`. -/
def firstPublication (id : String) : Publication Python.ascii where
  planId := id
  version := 1
  report := [("status", .str "planned"),
    ("plan", .obj [("plan_id", .str id), ("plan_version", .int 1)]),
    ("scheduling_handoff", .obj [("status", .str "ready")])]
  history := [.obj [("plan_id", .str id), ("plan_version", .int 1)]]
  sidecars := []
  includeLegacyReport := false
  authenticator := none

/-- Identifiers of a publication. -/
def firstIds : TransactionIds := ⟨⟨"1f", by simp⟩, ⟨"2e", by simp⟩, ⟨"3d", by simp⟩⟩

theorem ownMarkers_empty : OwnMarkers FileTree.empty := by
  intro x tx _ h
  simp [readMarker, readJson, FileTree.empty] at h

theorem fresh_empty {id : String}
    (h : id ∉ [firstIds.staging, firstIds.backup, firstIds.marker, firstIds.temporary]) :
    Fresh FileTree.empty firstIds id :=
  ⟨fun _ _ => rfl, h⟩

/-- The first plan `plan-1` of a repository that does not exist yet. -/
theorem firstPublication_crashSafe : CrashSafe (firstPublication "plan-1") firstIds FileTree.empty :=
  @publication_crashSafe _ _ _ Listing.byLength _ _ ownMarkers_empty rfl (by decide)
    (fresh_empty (by decide))

/-- **A plan id with a slash**: the crash after the staged directory is in place leaves
`a/b` without a commit marker, because recovery looks for `b`. -/
theorem nestedPlan_not_crashSafe :
    OwnMarkers FileTree.empty ∧
      (recoverIncompleteTransactions Listing.byLength).run ⟨FileTree.empty, none⟩ =
        (.ok (), ⟨FileTree.empty, none⟩) ∧
      Fresh FileTree.empty firstIds (firstPublication "a/b").name ∧
      ¬CrashSafe (firstPublication "a/b") firstIds FileTree.empty := by
  refine ⟨ownMarkers_empty, rfl, fresh_empty (by decide), fun h => ?_⟩
  obtain ⟨t', hrun, hconv⟩ := h Listing.byLength (some 14) [] Listing.byLength
  have ht' : after (recoverIncompleteTransactions Listing.byLength)
      (after (publishPlanDirectory Listing.byLength firstIds (firstPublication "a/b")) FileTree.empty
        (some 14)) none = t' := congrArg (fun r => r.2.store) hrun
  have hleft : t'.exists_ ["a", "b"] = true ∧ isCommitted t' ["a", "b"] = false := by
    rw [← ht']
    decide +kernel
  rcases hconv.plan with hold | ⟨hnew, -⟩
  · exact FileTree.exists_iff.1 hleft.1 (hold [])
  · have hdir : (firstPublication "a/b").planDirectory = ["a", "b"] := by decide
    rw [hdir, hleft.2] at hnew
    cases hnew

end Repository
end AiopsK8s
