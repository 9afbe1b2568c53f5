/-
# What a publication does when it is stopped

A publication that crashes or raises leaves one of the states of `Recoverable`, and
one that returns has published the new plan directory and left nothing behind
(`publishPlanDirectory_spec`).
-/

import AiopsK8s.Repository.RecoverySafety

namespace AiopsK8s
namespace Repository

open Files Crash

variable {py : Python} {pub : Publication py} {ids : TransactionIds} {t₀ t t' : FileTree Content}

theorem Documents.of_known {plan : Path} (h : Known plan pub.stagedFiles t) :
    Documents pub plan t where
  latest := h (["latest.json"], _) (by simp [Publication.stagedFiles])
  history := h (["history.json"], _) (by simp [Publication.stagedFiles])
  versionReport := by
    rw [List.append_assoc]
    exact h (pub.versionDirectory ++ ["report.json"], _) (by simp [Publication.stagedFiles])

/-- The staged plan directory is complete and the tree around it is untouched. -/
structure Staged (pub : Publication py) (ids : TransactionIds) (t₀ t : FileTree Content) : Prop where
  frame : Frame pub ids t₀ t
  kept : Kept pub ids t₀ t
  files : Known (pub.staged ids) pub.stagedFiles t
  wasDirectory : t₀.content [pub.name] = none

theorem Staged.of_entries (hs : Staged pub ids t₀ t)
    (he : ∀ y, y ≠ ids.temporary → y ≠ ids.marker → entry t' y = entry t y)
    (hT : t'.isDir [ids.temporary] = false) (h : Setting pub ids t₀) : Staged pub ids t₀ t' := by
  obtain ⟨⟨hnS, hnB, hnM, hnT⟩, ⟨hSB, hSM, hST⟩, ⟨hBM, hBT⟩, hMT⟩ := h.ne
  have hS := he _ hST hSM
  refine ⟨hs.frame.of_entries (fun x hx => he x ?_ ?_) ?_ hT, hs.kept.of_entry (he _ hnT hnM) ?_,
    fun f hf => ?_, hs.wasDirectory⟩
  · rintro rfl
    exact hx (by simp [ownNames])
  · rintro rfl
    exact hx (by simp [ownNames])
  · rw [content_of_entry hS, hs.frame.staging]
  · have hnode : t'.node [ids.backup] = t.node [ids.backup] := congrFun (he _ hBT hBM) []
    rw [hnode, hs.kept.backup]
  · have hf' := hs.files f hf
    exact (content_of_entry hS).trans hf'

section Publishing

variable (h : Setting pub ids t₀)

include h

/-- While only the staging directory differs, the old state is there. -/
theorem recoverable_of_within (hw : Within [ids.staging] t₀ t) :
    Frame pub ids t₀ t ∧ Kept pub ids t₀ t ∧ Unmarked ids t := by
  obtain ⟨⟨hnS, hnB, hnM, hnT⟩, ⟨hSB, hSM, hST⟩, ⟨hBM, hBT⟩, hMT⟩ := h.ne
  have hentry : ∀ y, y ≠ ids.staging → entry t y = entry t₀ y := by
    intro y hy
    funext r
    rcases hw (y :: r) with hr | hr | ⟨hr, -⟩
    · exact absurd (List.cons_prefix_cons.1 hr.1).1.symm hy
    · exact hr
    · exact absurd (List.cons_prefix_cons.1 hr).1 hy
  have hnone : ∀ y ∈ [ids.staging, ids.backup, ids.marker, ids.temporary], y ≠ ids.staging →
      t.node [y] = none := by
    intro y hy hne
    have hnode : t.node [y] = t₀.node [y] := congrFun (hentry y hne) []
    rw [hnode, h.fresh.absent y hy]
  refine ⟨⟨fun x hx => hentry x ?_, ?_, ?_⟩, ⟨hentry _ hnS, hnone _ (by simp) hSB.symm⟩,
    ⟨hnone _ (by simp) hSM.symm, hnone _ (by simp) hSB.symm⟩⟩
  · rintro rfl
    exact hx (by simp [ownNames])
  · have habsent := h.fresh.absent ids.staging (by simp)
    rcases hw [ids.staging] with hr | hr | ⟨-, -, hdir⟩
    · exact absurd rfl hr.2
    · simp [FileTree.content, hr, habsent]
    · simp [FileTree.content, hdir]
  · simp [FileTree.isDir, hnone ids.temporary (by simp) hST.symm]

/-- **`_write_transaction_marker`** after a complete staging. -/
theorem writeTransactionMarker_spec :
    Survives (fun t => Within [ids.staging] t₀ t ∧ Known (pub.staged ids) pub.stagedFiles t ∧
        t₀.content pub.planDirectory = none)
      (writeTransactionMarker ids (pub.transaction ids (t₀.exists_ [pub.name])))
      (fun _ t => Staged pub ids t₀ t ∧ Marked pub ids t₀ t) (fun _ => Recoverable pub ids t₀) := by
  obtain ⟨⟨hnS, hnB, hnM, hnT⟩, ⟨hSB, hSM, hST⟩, ⟨hBM, hBT⟩, hMT⟩ := h.ne
  have hstaged : ∀ t, Staged pub ids t₀ t ∧ Unmarked ids t → Recoverable pub ids t₀ t :=
    fun t ht => ⟨ht.1.frame, .inl ⟨.inl ht.1.kept, .inr ht.2⟩⟩
  refine Survives.bind (Q := fun _ t => Staged pub ids t₀ t ∧ Unmarked ids t) ?_ fun _ => ?_
  · refine (makeDirs_keeps (I := fun t => Within [ids.staging] t₀ t ∧
      Known (pub.staged ids) pub.stagedFiles t ∧ t₀.content pub.planDirectory = none)
        fun q t hq hnone ht => ?_).weaken (fun _ ht => ht) ?_ ?_
    · refine ⟨ht.1.trans (within_makeDir (.inl (hq.trans List.nil_prefix)) hnone), ?_, ht.2.2⟩
      exact fun f hf => (content_makeDir hnone).trans (ht.2.1 f hf)
    · rintro _ t ⟨hw, hfiles, hdir⟩
      obtain ⟨hf, hk, hu⟩ := recoverable_of_within h hw
      rw [h.planDirectory] at hdir
      exact ⟨⟨hf, hk, hfiles, hdir⟩, hu⟩
    · rintro _ t ⟨hw, -⟩
      obtain ⟨hf, hk, hu⟩ := recoverable_of_within h hw
      exact ⟨hf, .inl ⟨.inl hk, .inr hu⟩⟩
  refine Survives.bind (Q := fun _ t => (Staged pub ids t₀ t ∧ Unmarked ids t) ∧
    t.content [ids.temporary] = some (.doc (pub.transaction ids (t₀.exists_ [pub.name])).toJson))
    ?_ fun _ => ?_
  · refine writeFile_rule (fun _ t ht => hstaged t ht) fun t ht hparent hdir => ?_
    have hnode : ∀ y, y ≠ ids.temporary → (t.put [ids.temporary] (.file (.doc
        (pub.transaction ids (t₀.exists_ [pub.name])).toJson))).node [y] = t.node [y] :=
      fun y hy => FileTree.put_node_ne (by simpa using hy) _
    have hself := FileTree.put_node (r := [ids.temporary]) hparent hdir (.file (.doc
        (pub.transaction ids (t₀.exists_ [pub.name])).toJson))
    rw [if_pos rfl] at hself
    refine ⟨⟨ht.1.of_entries (fun y hy _ => entry_put_ne hy _) ?_ h, ⟨?_, ?_⟩⟩, ?_⟩
    · simp [FileTree.isDir, hself]
    · rw [hnode _ hMT, ht.2.marker]
    · rw [hnode _ hBT, ht.2.backup]
    · rw [FileTree.content_eq_some, hself]
  · refine move_rule (fun _ t ht _ => hstaged t ht.1) fun t ht hrep => ?_
    have htarget := entry_replace_target hrep
    refine ⟨ht.1.1.of_entries (fun y hyT hyM => entry_replace_ne hrep hyM (by simpa using hyT))
      ?_ h, ?_⟩
    · rw [FileTree.isDir, FileTree.replace_node hrep, if_neg (by simpa using hMT),
        if_pos (List.prefix_refl _)]
    · have hnode : (t.replace [ids.temporary] [ids.marker]).node [ids.marker] =
          t.node [ids.temporary] := congrFun htarget []
      rw [Marked, FileTree.content, hnode]
      exact ht.2

/-- The old plan directory goes to the backup. -/
theorem moveToBackup_spec :
    Survives (fun t => Staged pub ids t₀ t ∧ Marked pub ids t₀ t)
      (test (·.exists_ [pub.name]) (move [pub.name] [ids.backup]) (pure ()) : Work Unit)
      (fun _ t => Exchanging pub ids t₀ t ∧ Known (pub.staged ids) pub.stagedFiles t ∧
        t.node [pub.name] = none)
      (fun _ => Recoverable pub ids t₀) := by
  obtain ⟨⟨hnS, hnB, hnM, hnT⟩, ⟨hSB, hSM, hST⟩, ⟨hBM, hBT⟩, hMT⟩ := h.ne
  have hnode : ∀ t, Kept pub ids t₀ t → t.exists_ [pub.name] = t₀.exists_ [pub.name] := by
    intro t hk
    have hn : t.node [pub.name] = t₀.node [pub.name] := congrFun hk.plan []
    simp only [FileTree.exists_, hn]
  refine Survives.test (move_rule (fun _ t ht _ => ?_) fun t ht hrep => ?_) (Survives.pure ?_)
  · exact (Closing.mk ht.1.1.frame (.inl ht.1.1.kept) ht.1.2).recoverable
  · obtain ⟨⟨hs, hm⟩, hex⟩ := ht
    rw [hnode t hs.kept] at hex
    have hentry : ∀ y, y ≠ ids.backup → y ≠ pub.name →
        entry (t.replace [pub.name] [ids.backup]) y = entry t y :=
      fun y hy hyn => entry_replace_ne hrep hy (by simpa using hyn)
    have hplan : (t.replace [pub.name] [ids.backup]).node [pub.name] = none := by
      rw [FileTree.replace_node hrep, if_neg (by simpa using hnB.symm), if_pos (List.prefix_refl _)]
    have habsent : ∀ r, (t.replace [pub.name] [ids.backup]).node ([pub.name] ++ r) = none :=
      fun r => FileTree.node_of_absent hplan (List.prefix_append _ _)
    refine ⟨⟨hs.frame.of_entries (fun x hx => hentry x ?_ ?_) ?_ ?_, ?_, ⟨?_, ?_, hs.wasDirectory,
      ?_⟩⟩, fun f hf => ?_, hplan⟩
    · rintro rfl
      exact hx (by simp [ownNames])
    · rintro rfl
      exact hx (by simp [ownNames])
    · rw [content_of_entry (hentry _ hSB hnS.symm), hs.frame.staging]
    · rw [isDir_of_entry (hentry _ hBT.symm hnT.symm), hs.frame.temporary]
    · exact hm.of_entry (hentry _ hBM.symm hnM.symm)
    · simp only [isCommitted, FileTree.isFile, FileTree.content, habsent, Option.isSome_none]
    · simp only [FileTree.content, hplan]
    · rw [if_pos hex, entry_replace_target hrep]
      exact hs.kept.plan
    · have hf' := hs.files f hf
      exact (content_of_entry (hentry _ hSB hnS.symm)).trans hf'
  · rintro t ⟨⟨hs, hm⟩, hex⟩
    have hnone : t.node [pub.name] = none := by simpa [FileTree.exists_] using hex
    rw [hnode t hs.kept] at hex
    have habsent : ∀ r, t.node ([pub.name] ++ r) = none :=
      fun r => FileTree.node_of_absent hnone (List.prefix_append _ _)
    refine ⟨⟨hs.frame, hm, ⟨?_, ?_, hs.wasDirectory, ?_⟩⟩, hs.files, hnone⟩
    · simp only [isCommitted, FileTree.isFile, FileTree.content, habsent, Option.isSome_none]
    · simp only [FileTree.content, hnone]
    · rw [hex]
      exact hs.kept.backup

/-- The staged plan directory goes to its place. -/
theorem moveStaged_spec :
    Survives (fun t => Exchanging pub ids t₀ t ∧ Known (pub.staged ids) pub.stagedFiles t ∧
        t.node [pub.name] = none)
      (move (pub.staged ids) [pub.name] : Work Unit)
      (fun _ t => Exchanging pub ids t₀ t ∧ Documents pub [pub.name] t)
      (fun _ => Recoverable pub ids t₀) := by
  obtain ⟨⟨hnS, hnB, hnM, hnT⟩, ⟨hSB, hSM, hST⟩, ⟨hBM, hBT⟩, hMT⟩ := h.ne
  refine move_rule (fun _ t ht _ => ht.1.recoverable) fun t ht hrep => ?_
  obtain ⟨he, hfiles, -⟩ := ht
  have hstaged : pub.staged ids = [ids.staging, pub.name] := rfl
  rw [hstaged] at hrep hfiles ⊢
  have hentry : ∀ y, y ≠ pub.name → y ≠ ids.staging →
      entry (t.replace [ids.staging, pub.name] [pub.name]) y = entry t y :=
    fun y hy hyS => entry_replace_ne hrep hy (by simpa using hyS)
  have htarget : ∀ r, (t.replace [ids.staging, pub.name] [pub.name]).node ([pub.name] ++ r) =
      t.node ([ids.staging, pub.name] ++ r) := fun r => congrFun (entry_replace_target hrep) r
  have hknown : Known [pub.name] pub.stagedFiles
      (t.replace [ids.staging, pub.name] [pub.name]) := by
    intro f hf
    simpa only [FileTree.content, htarget] using hfiles f hf
  have hcommit := hknown ([commitFile], none) (by simp [Publication.stagedFiles])
  refine ⟨⟨he.frame.of_entries (fun x hx => hentry x ?_ ?_) ?_ ?_, ?_, ⟨?_, ?_,
    he.rolling.wasDirectory, ?_⟩⟩, Documents.of_known hknown⟩
  · rintro rfl
    exact hx (by simp [ownNames])
  · rintro rfl
    exact hx (by simp [ownNames])
  · have hdir : t.node [ids.staging] = some .dir :=
      t.rooted [ids.staging, pub.name] (by simp) (FileTree.exists_iff.1 hrep.1)
    have hkeep : (t.replace [ids.staging, pub.name] [pub.name]).node [ids.staging] =
        t.node [ids.staging] := by
      rw [FileTree.replace_node hrep, if_neg (by simpa using hnS), if_neg (by simp)]
    rw [FileTree.content, hkeep, hdir]
  · rw [isDir_of_entry (hentry _ hnT.symm hST.symm), he.frame.temporary]
  · exact he.marked.of_entry (hentry _ hnM.symm hSM.symm)
  · rw [isCommitted, FileTree.isFile, hcommit]
    rfl
  · have hlatest := FileTree.content_eq_some.1 (Documents.of_known hfiles).latest
    have hdir : t.node [ids.staging, pub.name] = some .dir :=
      t.rooted ([ids.staging, pub.name] ++ ["latest.json"]) (by simp) (by rw [hlatest]; simp)
    have hnode : (t.replace [ids.staging, pub.name] [pub.name]).node [pub.name] =
        t.node [ids.staging, pub.name] := by simpa using htarget []
    rw [FileTree.content, hnode, hdir]
  · have hb := he.rolling.backup
    split_ifs at hb ⊢
    · exact (hentry _ hnB.symm hSB.symm).trans hb
    · have hnode : (t.replace [ids.staging, pub.name] [pub.name]).node [ids.backup] =
          t.node [ids.backup] := congrFun (hentry _ hnB.symm hSB.symm) []
      rw [hnode, hb]

/-- Writing the temporary file of the commit marker. -/
theorem Exchanging.put_commitTemporary (he : Exchanging pub ids t₀ t)
    (hd : Documents pub [pub.name] t) (n : Node Content) :
    Exchanging pub ids t₀ (t.put ([pub.name] ++ [ids.commitTemporaryFile]) n) ∧
      Documents pub [pub.name] (t.put ([pub.name] ++ [ids.commitTemporaryFile]) n) := by
  obtain ⟨⟨hnS, hnB, hnM, hnT⟩, ⟨hSB, hSM, hST⟩, ⟨hBM, hBT⟩, hMT⟩ := h.ne
  have hentry : ∀ y, y ≠ pub.name →
      entry (t.put ([pub.name] ++ [ids.commitTemporaryFile]) n) y = entry t y :=
    fun y hy => entry_put_ne hy n
  have hcontent : ∀ r, r ≠ [ids.commitTemporaryFile] →
      (t.put ([pub.name] ++ [ids.commitTemporaryFile]) n).content ([pub.name] ++ r) =
        t.content ([pub.name] ++ r) := by
    intro r hr
    have hne : [pub.name] ++ r ≠ [pub.name] ++ [ids.commitTemporaryFile] :=
      fun heq => hr (List.append_cancel_left heq)
    simp only [FileTree.content, FileTree.put_node_ne hne]
  have hnames : ∀ s : String, s.toList.head? ≠ some '.' → s ≠ ids.commitTemporaryFile := by
    rintro s hs rfl
    simp [TransactionIds.commitTemporaryFile] at hs
  have hcommit : isCommitted (t.put ([pub.name] ++ [ids.commitTemporaryFile]) n) [pub.name] =
      isCommitted t [pub.name] := by
    rw [isCommitted, FileTree.isFile, hcontent _ (by simpa using hnames commitFile (by decide))]
    rfl
  refine ⟨⟨he.frame.of_entries (fun x hx => hentry x ?_) ?_ ?_,
    he.marked.of_entry (hentry _ hnM.symm), ⟨hcommit.trans he.rolling.uncommitted, ?_,
      he.rolling.wasDirectory, ?_⟩⟩, ⟨?_, ?_, ?_⟩⟩
  · rintro rfl
    exact hx (by simp [ownNames])
  · rw [content_of_entry (hentry _ hnS.symm), he.frame.staging]
  · rw [isDir_of_entry (hentry _ hnT.symm), he.frame.temporary]
  · exact (hcontent [] (by simp)).trans he.rolling.directory
  · have hb := he.rolling.backup
    split_ifs at hb ⊢
    · exact (hentry _ hnB.symm).trans hb
    · have hnode : (t.put ([pub.name] ++ [ids.commitTemporaryFile]) n).node [ids.backup] =
          t.node [ids.backup] := congrFun (hentry _ hnB.symm) []
      rw [hnode, hb]
  · exact (hcontent _ (by simpa using hnames "latest.json" (by decide))).trans hd.latest
  · exact (hcontent _ (by simpa using hnames "history.json" (by decide))).trans hd.history
  · rw [List.append_assoc, hcontent _ (by simp [Publication.versionDirectory]),
      ← List.append_assoc]
    exact hd.versionReport

/-- The commit marker makes the new plan directory count. -/
theorem Exchanging.commit (he : Exchanging pub ids t₀ t) (hd : Documents pub [pub.name] t)
    (hrep : t.Replaceable ([pub.name] ++ [ids.commitTemporaryFile])
      ([pub.name] ++ [commitFile]))
    (hfile : t.content ([pub.name] ++ [ids.commitTemporaryFile]) = some (.doc commitDocument)) :
    Closing pub ids t₀ (t.replace ([pub.name] ++ [ids.commitTemporaryFile])
        ([pub.name] ++ [commitFile])) ∧
      Published pub ids (t.replace ([pub.name] ++ [ids.commitTemporaryFile])
        ([pub.name] ++ [commitFile])) := by
  obtain ⟨⟨hnS, hnB, hnM, hnT⟩, ⟨hSB, hSM, hST⟩, ⟨hBM, hBT⟩, hMT⟩ := h.ne
  have hentry : ∀ y, y ≠ pub.name → entry (t.replace ([pub.name] ++ [ids.commitTemporaryFile])
      ([pub.name] ++ [commitFile])) y = entry t y := fun y hy => entry_replace_inside hrep hy
  have hcontent : ∀ r, ¬[commitFile] <+: r → ¬[ids.commitTemporaryFile] <+: r →
      (t.replace ([pub.name] ++ [ids.commitTemporaryFile])
        ([pub.name] ++ [commitFile])).content ([pub.name] ++ r) =
          t.content ([pub.name] ++ r) := by
    intro r hc ht
    have hnode : (t.replace ([pub.name] ++ [ids.commitTemporaryFile])
        ([pub.name] ++ [commitFile])).node ([pub.name] ++ r) = t.node ([pub.name] ++ r) := by
      rw [FileTree.replace_node hrep, if_neg (by simpa using hc), if_neg (by simpa using ht)]
    simp only [FileTree.content, hnode]
  have hnames : ∀ s : String, s.toList.head? ≠ some '.' → s ≠ ids.commitTemporaryFile := by
    rintro s hs rfl
    simp [TransactionIds.commitTemporaryFile] at hs
  have hcommitted : isCommitted (t.replace ([pub.name] ++ [ids.commitTemporaryFile])
      ([pub.name] ++ [commitFile])) [pub.name] = true := by
    have hnode : (t.replace ([pub.name] ++ [ids.commitTemporaryFile])
        ([pub.name] ++ [commitFile])).node ([pub.name] ++ [commitFile]) =
          t.node ([pub.name] ++ [ids.commitTemporaryFile]) := by
      rw [FileTree.replace_node hrep, if_pos (List.prefix_refl _), List.drop_length, List.append_nil]
    rw [isCommitted, FileTree.isFile, FileTree.content, hnode, FileTree.content_eq_some.1 hfile]
    rfl
  have hpublished : Published pub ids (t.replace ([pub.name] ++ [ids.commitTemporaryFile])
      ([pub.name] ++ [commitFile])) := by
    refine ⟨⟨?_, ?_, ?_⟩, hcommitted, ?_⟩
    · refine (hcontent _ (by simp [commitFile]) ?_).trans hd.latest
      simpa using (hnames "latest.json" (by decide)).symm
    · refine (hcontent _ (by simp [commitFile]) ?_).trans hd.history
      simpa using (hnames "history.json" (by decide)).symm
    · rw [List.append_assoc, hcontent, ← List.append_assoc]
      · exact hd.versionReport
      · simp [Publication.versionDirectory, commitFile]
      · simpa [Publication.versionDirectory] using (hnames "versions" (by decide)).symm
    · rw [content_of_entry (hentry _ hnB.symm), he.backup_content]
  refine ⟨⟨he.frame.of_entries (fun x hx => hentry x ?_) ?_ ?_, .inr hpublished,
    he.marked.of_entry (hentry _ hnM.symm)⟩, hpublished⟩
  · rintro rfl
    exact hx (by simp [ownNames])
  · rw [content_of_entry (hentry _ hnS.symm), he.frame.staging]
  · rw [isDir_of_entry (hentry _ hnT.symm), he.frame.temporary]

/-- **`_write_commit_marker`** makes the exchanged plan directory count. -/
theorem writeCommitMarker_spec :
    Survives (fun t => Exchanging pub ids t₀ t ∧ Documents pub [pub.name] t)
      (writeCommitMarker ids [pub.name])
      (fun _ t => Closing pub ids t₀ t ∧ Published pub ids t)
      (fun _ => Recoverable pub ids t₀) := by
  refine Survives.bind (Q := fun _ t => (Exchanging pub ids t₀ t ∧ Documents pub [pub.name] t) ∧
    t.content ([pub.name] ++ [ids.commitTemporaryFile]) = some (.doc commitDocument))
    (writeFile_rule (fun _ _ ht => ht.1.recoverable) fun t ht hparent hdir => ?_) fun _ =>
    move_rule (fun _ _ ht _ => ht.1.1.recoverable) fun t ht hrep =>
      ht.1.1.commit h ht.1.2 hrep ht.2
  refine ⟨ht.1.put_commitTemporary h ht.2 _, ?_⟩
  rw [FileTree.content_eq_some, FileTree.put_node hparent hdir, if_pos rfl]

/-- Deleting the pending marker of the published plan directory. -/
theorem Closing.remove_pending (hc : Closing pub ids t₀ t) (hp : Published pub ids t) :
    Closing pub ids t₀ (t.remove ([pub.name] ++ [pendingFile])) ∧
      Published pub ids (t.remove ([pub.name] ++ [pendingFile])) := by
  obtain ⟨⟨hnS, hnB, hnM, hnT⟩, ⟨hSB, hSM, hST⟩, ⟨hBM, hBT⟩, hMT⟩ := h.ne
  have hentry : ∀ y, y ≠ pub.name →
      entry (t.remove ([pub.name] ++ [pendingFile])) y = entry t y :=
    fun y hy => entry_remove_ne hy
  have hcontent : ∀ r, r ≠ [pendingFile] →
      (t.remove ([pub.name] ++ [pendingFile])).content ([pub.name] ++ r) =
        t.content ([pub.name] ++ r) := by
    intro r hr
    have hne : [pub.name] ++ r ≠ [pub.name] ++ [pendingFile] :=
      fun heq => hr (List.append_cancel_left heq)
    simp only [FileTree.content, FileTree.remove_node_ne hne]
  have hpublished : Published pub ids (t.remove ([pub.name] ++ [pendingFile])) := by
    refine ⟨⟨?_, ?_, ?_⟩, ?_, ?_⟩
    · exact (hcontent _ (by simp [pendingFile])).trans hp.documents.latest
    · exact (hcontent _ (by simp [pendingFile])).trans hp.documents.history
    · rw [List.append_assoc, hcontent _ (by simp [Publication.versionDirectory]),
        ← List.append_assoc]
      exact hp.documents.versionReport
    · rw [isCommitted, FileTree.isFile, hcontent _ (by simp [pendingFile, commitFile])]
      exact hp.committed
    · rw [content_of_entry (hentry _ hnB.symm), hp.backup]
  refine ⟨⟨hc.frame.of_entries (fun x hx => hentry x ?_) ?_ ?_, .inr hpublished,
    hc.marked.of_entry (hentry _ hnM.symm)⟩, hpublished⟩
  · rintro rfl
    exact hx (by simp [ownNames])
  · rw [content_of_entry (hentry _ hnS.symm), hc.frame.staging]
  · rw [isDir_of_entry (hentry _ hnT.symm), hc.frame.temporary]

variable (ls : Listing)

/-- The clean-up does not touch the plan directory. -/
theorem removeTransactionArtifacts_plan (e : Path → Option (Node Content)) :
    Keeps (fun t => entry t pub.name = e)
      (removeTransactionArtifacts ls [ids.marker] [ids.staging] [ids.backup]) := by
  obtain ⟨⟨hnS, hnB, hnM, hnT⟩, -, -, -⟩ := h.ne
  have hremove : ∀ x : String, pub.name ≠ x → Keeps (fun t => entry t pub.name = e)
      (removeTree ls [x] : Work Unit) := by
    intro x hx
    refine removeTree_rule (fun t t' ht _ hp => (entry_pruned hp hx).trans ht) fun t t' ht hq => ?_
    split_ifs at hq
    · exact (entry_pruned hq.pruned hx).trans ht
    · exact hq ▸ ht
  refine Keeps.bind (hremove _ hnS) fun _ => Keeps.bind (hremove _ hnB) fun _ => ?_
  exact unlink_rule (fun _ _ ht _ => ht) fun _ ht _ => (entry_remove_ne hnM).trans ht

/-- The clean-up of a published plan directory. -/
theorem closePublished_spec :
    Survives (fun t => Closing pub ids t₀ t ∧ Published pub ids t)
      (removeTransactionArtifacts ls [ids.marker] [ids.staging] [ids.backup])
      (fun _ t => Recovered pub ids t₀ t ∧ Published pub ids t)
      (fun _ => Recoverable pub ids t₀) := by
  refine Survives.of_eq fun t ht => ?_
  refine ((removeTransactionArtifacts_spec h ls).and
    (removeTransactionArtifacts_plan h ls (entry t pub.name))).weaken ?_ ?_ ?_
  · rintro _ rfl
    exact ⟨ht.1, rfl⟩
  · rintro _ t' ⟨hr, hplan⟩
    refine ⟨hr, ht.2.of_entry hplan ?_⟩
    simp only [FileTree.content, hr.unmarked.backup]
  · exact fun _ t' ht' => ht'.1.2

/-- The part of a publication before the marker is there. -/
theorem prepare_spec :
    Survives (· = t₀)
      (do
        stage ls ids pub
        let had ← observe (·.exists_ pub.planDirectory)
        writeTransactionMarker ids (pub.transaction ids had))
      (fun _ t => Staged pub ids t₀ t ∧ Marked pub ids t₀ t) (fun _ => Recoverable pub ids t₀) := by
  have hplan : pub.planDirectory.dropLast = [] := by rw [h.planDirectory]; rfl
  refine Survives.bind ((stage_spec pub ls ids t₀ hplan).weaken (fun _ h => h) (fun _ _ h => h)
    fun _ t hw => ?_) fun _ => Survives.bind Survives.observe fun had => ?_
  · obtain ⟨hf, hk, hu⟩ := recoverable_of_within h hw
    exact ⟨hf, .inl ⟨.inl hk, .inr hu⟩⟩
  · refine Survives.of_fact (φ := had = t₀.exists_ [pub.name]) ?_ fun hhad => ?_
    · rintro t ⟨⟨hw, -⟩, rfl⟩
      have hnode : t.node [pub.name] = t₀.node [pub.name] :=
        congrFun (recoverable_of_within h hw).2.1.plan []
      simp only [h.planDirectory, FileTree.exists_, hnode]
    · subst hhad
      exact (writeTransactionMarker_spec h).weaken (fun _ ht => ht.1) (fun _ _ h => h)
        fun _ _ h => h

/-- The part of a publication after the marker is there. -/
theorem swapPlanDirectory_spec :
    Survives (fun t => Staged pub ids t₀ t ∧ Marked pub ids t₀ t) (swapPlanDirectory ls ids pub)
      (fun _ t => Recovered pub ids t₀ t ∧ Published pub ids t)
      (fun _ => Recoverable pub ids t₀) := by
  simp only [swapPlanDirectory, h.planDirectory]
  refine Survives.bind (moveToBackup_spec h) fun _ => ?_
  refine Survives.bind (moveStaged_spec h) fun _ => ?_
  refine Survives.bind (writeCommitMarker_spec h) fun _ => ?_
  refine Survives.bind (unlink_rule (fun _ _ ht _ => ht.1.recoverable)
    fun _ ht _ => ht.1.remove_pending h ht.2) fun _ => closePublished_spec h ls

/-- **A publication that returns has published, and one that is stopped can be
recovered.** -/
theorem publishPlanDirectory_spec :
    Survives (· = t₀) (publishPlanDirectory ls ids pub)
      (fun _ t => Recovered pub ids t₀ t ∧ Published pub ids t)
      (fun _ => Recoverable pub ids t₀) := by
  refine Survives.bind (Survives.onRaise (prepare_spec h ls) (fun _ ht => ht) fun _ => ?_)
    fun _ => swapPlanDirectory_spec h ls
  exact removeTree_rule (fun _ _ ht _ hp => ht.prune_staging h hp)
    fun _ _ ht hq => ht.prune_staging h (cleared_of_spec hq ht.frame.staging).pruned

end Publishing

end Repository
end AiopsK8s
