/-
# What a recovery does to a publication

A recovery that is stopped leaves one of the states of `Recoverable`, wherever it
stops, and a complete one ends in `Recovered`: the plan directory is the old or the
new one and nothing else of the publication is left (`recover_spec`).  The proof
follows the program: the markers of other publications are skipped, the
publication's own transaction is rolled back or closed (`rollTransaction_spec`), and
a staging directory without a marker is deleted (`discardStale_spec`).
-/

import AiopsK8s.Repository.Crashes

namespace AiopsK8s
namespace Repository

open Files Crash

variable {py : Python} {pub : Publication py} {ids : TransactionIds} {t₀ t t' : FileTree Content}

/-- The state that a recovery aims at: the old or the new plan directory, and no
marker, backup or staging directory. -/
structure Recovered (pub : Publication py) (ids : TransactionIds) (t₀ t : FileTree Content) :
    Prop where
  frame : Frame pub ids t₀ t
  consistent : Kept pub ids t₀ t ∨ Published pub ids t
  unmarked : Unmarked ids t
  staging : t.node [ids.staging] = none

/-- A transaction that only has to be cleaned up: the plan directory is the old or the
new one, and the marker is still there. -/
structure Closing (pub : Publication py) (ids : TransactionIds) (t₀ t : FileTree Content) : Prop where
  frame : Frame pub ids t₀ t
  consistent : Kept pub ids t₀ t ∨ Published pub ids t
  marked : Marked pub ids t₀ t

/-- The old and the new plan directory are being exchanged, under the marker. -/
structure Exchanging (pub : Publication py) (ids : TransactionIds) (t₀ t : FileTree Content) :
    Prop where
  frame : Frame pub ids t₀ t
  marked : Marked pub ids t₀ t
  rolling : Rolling pub ids t₀ t

theorem Exchanging.recoverable (h : Exchanging pub ids t₀ t) : Recoverable pub ids t₀ t :=
  ⟨h.frame, .inr ⟨h.marked, h.rolling⟩⟩

/-- The backup is no file. -/
theorem Exchanging.backup_content (he : Exchanging pub ids t₀ t) :
    t.content [ids.backup] = none := by
  have hb := he.rolling.backup
  split_ifs at hb
  · have hnode : t.node [ids.backup] = t₀.node [pub.name] := congrFun hb []
    simpa only [FileTree.content, hnode] using he.rolling.wasDirectory
  · simp only [FileTree.content, hb]

theorem Closing.recoverable (h : Closing pub ids t₀ t) : Recoverable pub ids t₀ t :=
  ⟨h.frame, .inl ⟨h.consistent, .inl h.marked⟩⟩

theorem Recovered.recoverable (h : Recovered pub ids t₀ t) : Recoverable pub ids t₀ t :=
  ⟨h.frame, .inl ⟨h.consistent, .inr h.unmarked⟩⟩

/-- The backup of a plan directory is a directory. -/
theorem Closing.backup (h : Closing pub ids t₀ t) : t.content [ids.backup] = none := by
  rcases h.consistent with hk | hn
  · simp [FileTree.content, hk.backup]
  · exact hn.backup

/-- A state where the marker is gone is one where only the staging directory may be left. -/
theorem Recoverable.of_unmarked (hr : Recoverable pub ids t₀ t)
    (hm : t.node [ids.marker] = none) :
    (Kept pub ids t₀ t ∨ Published pub ids t) ∧ Unmarked ids t := by
  have hno : ¬Marked pub ids t₀ t := fun hmark => by
    have hnode := FileTree.content_eq_some.1 hmark
    rw [hm] at hnode
    cases hnode
  rcases hr.phase with ⟨hcons, hmark⟩ | ⟨hmark, -⟩
  · exact ⟨hcons, hmark.resolve_left hno⟩
  · exact absurd hmark hno

theorem Recoverable.marked (hr : Recoverable pub ids t₀ t) (hm : t.node [ids.marker] ≠ none) :
    Marked pub ids t₀ t := by
  rcases hr.phase with ⟨-, hmark⟩ | ⟨hmark, -⟩
  · exact hmark.resolve_right fun hu => hm hu.marker
  · exact hmark

section Recovery

variable (h : Setting pub ids t₀) (ls : Listing)

include h

/-- Deleting leftovers does not disturb the plan directory. -/
theorem Closing.prune (hc : Closing pub ids t₀ t) {x : String}
    (hx : x = ids.staging ∨ x = ids.backup) (hp : Pruned [x] t t') : Closing pub ids t₀ t' := by
  obtain ⟨⟨hnS, hnB, hnM, hnT⟩, ⟨hSB, hSM, hST⟩, ⟨hBM, hBT⟩, hMT⟩ := h.ne
  have hown : x ∈ ownNames pub ids := by
    rcases hx with rfl | rfl <;> simp [ownNames]
  have hplan : entry t' pub.name = entry t pub.name :=
    entry_pruned hp (by rcases hx with rfl | rfl <;> assumption)
  have hmarker : entry t' ids.marker = entry t ids.marker :=
    entry_pruned hp (by rcases hx with rfl | rfl <;> exact Ne.symm (by assumption))
  refine ⟨hc.frame.pruned hown hp, ?_, hc.marked.of_entry hmarker⟩
  exact hc.consistent.imp (fun hk => hk.of_entry hplan (hp.node_none hk.backup))
    (fun hn => hn.of_entry hplan (hp.content_none hn.backup))

/-- Deleting the staging directory is safe in every state. -/
theorem Recoverable.prune_staging (hr : Recoverable pub ids t₀ t)
    (hp : Pruned [ids.staging] t t') : Recoverable pub ids t₀ t' := by
  obtain ⟨⟨hnS, hnB, hnM, hnT⟩, ⟨hSB, hSM, hST⟩, ⟨hBM, hBT⟩, hMT⟩ := h.ne
  have hplan := entry_pruned hp hnS
  have hmarker := entry_pruned hp hSM.symm
  refine ⟨hr.frame.pruned (by simp [ownNames]) hp, ?_⟩
  rcases hr.phase with ⟨hcons, hmark⟩ | ⟨hmark, hroll⟩
  · refine .inl ⟨hcons.imp (fun hk => hk.of_entry hplan (hp.node_none hk.backup))
      (fun hn => hn.of_entry hplan (hp.content_none hn.backup)), ?_⟩
    exact hmark.imp (fun hm => hm.of_entry hmarker)
      (fun hu => ⟨hp.node_none hu.marker, hp.node_none hu.backup⟩)
  · refine .inr ⟨hmark.of_entry hmarker, ?_⟩
    refine ⟨(isCommitted_of_entry hplan).trans hroll.uncommitted, hp.content_none hroll.directory,
      hroll.wasDirectory, ?_⟩
    have hb := hroll.backup
    split_ifs at hb ⊢
    · exact (entry_pruned hp hSB.symm).trans hb
    · exact hp.node_none hb

/-- The last step of a transaction: the marker goes. -/
theorem Closing.remove_marker (hc : Closing pub ids t₀ t) (hs : t.node [ids.staging] = none)
    (hb : t.node [ids.backup] = none) : Recovered pub ids t₀ (t.remove [ids.marker]) := by
  obtain ⟨⟨hnS, hnB, hnM, hnT⟩, ⟨hSB, hSM, hST⟩, ⟨hBM, hBT⟩, hMT⟩ := h.ne
  have hentry : ∀ y, y ≠ ids.marker → entry (t.remove [ids.marker]) y = entry t y :=
    fun y hy => entry_remove_ne hy
  have hnode : ∀ y, y ≠ ids.marker → (t.remove [ids.marker]).node [y] = t.node [y] :=
    fun y hy => FileTree.remove_node_ne (by simpa using hy)
  have hmarker : t.node [ids.marker] ≠ some .dir := by
    rw [FileTree.content_eq_some.1 hc.marked]
    simp
  refine ⟨hc.frame.of_entries (fun x hx => hentry x ?_) ?_ ?_, ?_, ⟨?_, ?_⟩, ?_⟩
  · rintro rfl
    exact hx (by simp [ownNames])
  · rw [content_of_entry (hentry _ hSM), hc.frame.staging]
  · rw [isDir_of_entry (hentry _ hMT.symm), hc.frame.temporary]
  · refine hc.consistent.imp (fun hk => hk.of_entry (hentry _ hnM) ?_)
      (fun hn => hn.of_entry (hentry _ hnM) ?_)
    · rw [hnode _ hBM, hb]
    · rw [content_of_entry (hentry _ hBM), hn.backup]
  · rw [FileTree.remove_file_node hmarker, if_pos rfl]
  · rw [hnode _ hBM, hb]
  · rw [hnode _ hSM, hs]

/-- **`_remove_transaction_artifacts`** ends a transaction whose plan directory is
the old or the new one. -/
theorem removeTransactionArtifacts_spec :
    Survives (Closing pub ids t₀)
      (removeTransactionArtifacts ls [ids.marker] [ids.staging] [ids.backup])
      (fun _ => Recovered pub ids t₀) (fun e t => e = .crash ∧ Recoverable pub ids t₀ t) := by
  refine Survives.bind (Q := fun _ t => Closing pub ids t₀ t ∧ t.node [ids.staging] = none)
    ?_ fun _ => ?_
  · refine removeTree_rule (fun t t' ht _ hp => ⟨rfl, (ht.prune h (.inl rfl) hp).recoverable⟩)
      fun t t' ht hq => ?_
    have hclear := cleared_of_spec hq ht.frame.staging
    exact ⟨ht.prune h (.inl rfl) hclear.pruned, hclear.node_none⟩
  refine Survives.bind (Q := fun _ t => Closing pub ids t₀ t ∧ t.node [ids.staging] = none ∧
    t.node [ids.backup] = none) ?_ fun _ => ?_
  · refine removeTree_rule (fun t t' ht _ hp => ⟨rfl, (ht.1.prune h (.inr rfl) hp).recoverable⟩)
      fun t t' ht hq => ?_
    have hclear := cleared_of_spec hq ht.1.backup
    exact ⟨ht.1.prune h (.inr rfl) hclear.pruned, hclear.pruned.node_none ht.2, hclear.node_none⟩
  · refine unlink_rule (fun e t ht hdir => ⟨hdir ?_, ht.1.recoverable⟩)
      fun t ht _ => ht.1.remove_marker h ht.2.1 ht.2.2
    rw [FileTree.content_eq_some.1 ht.1.marked]
    simp

/-- While the plan directories are exchanged, the new one may be deleted. -/
theorem Exchanging.prune_plan (he : Exchanging pub ids t₀ t) (hp : Pruned [pub.name] t t') :
    Exchanging pub ids t₀ t' := by
  obtain ⟨⟨hnS, hnB, hnM, hnT⟩, ⟨hSB, hSM, hST⟩, ⟨hBM, hBT⟩, hMT⟩ := h.ne
  obtain ⟨hf, hm, hr⟩ := he
  refine ⟨hf.pruned (by simp [ownNames]) hp, hm.of_entry (entry_pruned hp hnM.symm),
    ⟨?_, hp.content_none hr.directory, hr.wasDirectory, ?_⟩⟩
  · have hnone : t.content ([pub.name] ++ [commitFile]) = none := by
      simpa [isCommitted, FileTree.isFile] using hr.uncommitted
    simpa [isCommitted, FileTree.isFile] using hp.content_none hnone
  · have hb := hr.backup
    split_ifs at hb ⊢
    · exact (entry_pruned hp hnB.symm).trans hb
    · exact hp.node_none hb

omit h in
/-- With a plan directory before, its backup is there. -/
theorem Exchanging.backup_exists (he : Exchanging pub ids t₀ t)
    (hhad : t₀.exists_ [pub.name] = true) : t.exists_ [ids.backup] = true := by
  have hb := he.rolling.backup
  rw [if_pos hhad] at hb
  have hnode : t.node [ids.backup] = t₀.node [pub.name] := congrFun hb []
  rw [FileTree.exists_iff, hnode]
  exact FileTree.exists_iff.1 hhad

omit h in
/-- Without a plan directory before, a missing plan directory is the old one. -/
theorem Exchanging.closing (he : Exchanging pub ids t₀ t)
    (hhad : t₀.exists_ [pub.name] = false) (hplan : t.node [pub.name] = none) :
    Closing pub ids t₀ t := by
  have hb := he.rolling.backup
  rw [hhad] at hb
  have hnone : t₀.node [pub.name] = none := by simpa [FileTree.exists_] using hhad
  exact ⟨he.frame, .inl ⟨by rw [entry_of_absent hplan, entry_of_absent hnone], hb⟩, he.marked⟩

/-- Putting the backup in place of a missing plan directory. -/
theorem Exchanging.restore (he : Exchanging pub ids t₀ t)
    (hhad : t₀.exists_ [pub.name] = true)
    (hrep : t.Replaceable [ids.backup] [pub.name]) :
    Closing pub ids t₀ (t.replace [ids.backup] [pub.name]) := by
  obtain ⟨⟨hnS, hnB, hnM, hnT⟩, ⟨hSB, hSM, hST⟩, ⟨hBM, hBT⟩, hMT⟩ := h.ne
  have hentry : ∀ y, y ≠ pub.name → y ≠ ids.backup →
      entry (t.replace [ids.backup] [pub.name]) y = entry t y := by
    intro y hy hyb
    exact entry_replace_ne hrep hy (by simpa using hyb)
  have hb := he.rolling.backup
  rw [if_pos hhad] at hb
  refine ⟨he.frame.of_entries (fun x hx => hentry x ?_ ?_) ?_ ?_, .inl ⟨?_, ?_⟩, ?_⟩
  · rintro rfl
    exact hx (by simp [ownNames])
  · rintro rfl
    exact hx (by simp [ownNames])
  · rw [content_of_entry (hentry _ hnS.symm hSB), he.frame.staging]
  · rw [isDir_of_entry (hentry _ hnT.symm hBT.symm), he.frame.temporary]
  · rw [entry_replace_target hrep]
    exact hb
  · rw [FileTree.replace_node hrep, if_neg (by simpa using hnB), if_pos (List.prefix_refl _)]
  · exact he.marked.of_entry (hentry _ hnM.symm hBM.symm)

/-- Deleting an uncommitted plan directory. -/
theorem removePlan_spec :
    Survives (Exchanging pub ids t₀) (removeTree ls [pub.name] : Work Unit)
      (fun _ t => Exchanging pub ids t₀ t ∧ t.node [pub.name] = none)
      (fun e t => e = .crash ∧ Recoverable pub ids t₀ t) := by
  refine removeTree_rule (fun t t' ht _ hp => ⟨rfl, (ht.prune_plan h hp).recoverable⟩)
    fun t t' ht hq => ?_
  have hclear := cleared_of_spec hq ht.rolling.directory
  exact ⟨ht.prune_plan h hclear.pruned, hclear.node_none⟩

/-- Putting the backup back. -/
theorem restoreBackup_spec (hhad : t₀.exists_ [pub.name] = true) :
    Survives (fun t => Exchanging pub ids t₀ t ∧ t.node [pub.name] = none)
      (move [ids.backup] [pub.name] : Work Unit) (fun _ => Closing pub ids t₀)
      (fun e t => e = .crash ∧ Recoverable pub ids t₀ t) := by
  obtain ⟨⟨-, hnB, -, -⟩, -, -, -⟩ := h.ne
  refine move_rule (fun e t ht hrep => ⟨hrep ?_, ht.1.recoverable⟩)
    fun t ht hrep => ht.1.restore h hhad hrep
  have hbackup := ht.1.backup_exists hhad
  have hroot : t.isDir [] = true :=
    FileTree.isDir_iff.2 (t.rooted [ids.backup] (by simp) (FileTree.exists_iff.1 hbackup))
  refine ⟨hbackup, by simp, hroot, by simpa using hnB.symm, by simpa using hnB, .inl ?_⟩
  simp [FileTree.exists_, ht.2]

/-- **`_recover_transaction`** ends the publication's transaction. -/
theorem rollTransaction_spec :
    Survives (fun t => Recoverable pub ids t₀ t ∧ Marked pub ids t₀ t)
      (rollTransaction ls [ids.marker] (pub.transaction ids (t₀.exists_ [pub.name])))
      (fun _ => Recovered pub ids t₀) (fun e t => e = .crash ∧ Recoverable pub ids t₀ t) := by
  simp only [rollTransaction, Publication.transaction, h.plainName.pathParts,
    pathParts_staging, pathParts_backup]
  -- either only the clean-up is left, or the plan directories are being exchanged
  refine Survives.weaken (P := fun t => Closing pub ids t₀ t ∨ Exchanging pub ids t₀ t)
    (Survives.test ?_ (Survives.bind (Q := fun _ => Closing pub ids t₀) ?_ fun _ =>
      removeTransactionArtifacts_spec h ls)) ?_ (fun _ _ h => h) fun _ _ h => h
  · refine (removeTransactionArtifacts_spec h ls).weaken ?_ (fun _ _ h => h) fun _ _ h => h
    rintro t ⟨hc | he, hcommitted⟩
    · exact hc
    · rw [he.rolling.uncommitted] at hcommitted
      cases hcommitted
  · refine Survives.weaken (P := fun t => (Closing pub ids t₀ t ∧ Kept pub ids t₀ t) ∨
      Exchanging pub ids t₀ t) (Survives.test ?_ (Survives.test ?_ (Survives.pure ?_))) ?_
      (fun _ _ h => h) fun _ _ h => h
    · refine Survives.of_fact (φ := t₀.exists_ [pub.name] = true)
        (fun t ht => (Bool.and_eq_true_iff.1 ht.2).1) fun hhad => ?_
      refine Survives.bind (Q := fun _ t => Exchanging pub ids t₀ t ∧ t.node [pub.name] = none)
        (Survives.weaken (P := Exchanging pub ids t₀) (Survives.test ?_ (Survives.pure ?_)) ?_
          (fun _ _ h => h) fun _ _ h => h) fun _ => restoreBackup_spec h hhad
      · exact (removePlan_spec h ls).weaken (fun _ ht => ht.1) (fun _ _ h => h) fun _ _ h => h
      · rintro t ⟨ht, hex⟩
        exact ⟨ht, by simpa [FileTree.exists_] using hex⟩
      · rintro t ⟨⟨hc, hk⟩ | he, hex⟩
        · have := (Bool.and_eq_true_iff.1 hex).2
          simp [FileTree.exists_, hk.backup] at this
        · exact he
    · refine Survives.of_fact (φ := t₀.exists_ [pub.name] = false) ?_ fun hhad => ?_
      · rintro t ⟨-, hc⟩
        simpa using (Bool.and_eq_true_iff.1 hc).1
      refine (removePlan_spec h ls).weaken ?_ (fun _ t ht => ht.1.closing hhad ht.2) fun _ _ h => h
      rintro t ⟨⟨⟨hc, hk⟩ | he, -⟩, hex⟩
      · have hnode : t.node [pub.name] = t₀.node [pub.name] := congrFun hk.plan []
        have hplan := (Bool.and_eq_true_iff.1 hex).2
        rw [FileTree.exists_, hnode] at hplan
        rw [FileTree.exists_, hplan] at hhad
        cases hhad
      · exact he
    · rintro t ⟨⟨⟨hc, -⟩ | he, hno⟩, hex⟩
      · exact hc
      · rcases hhad : t₀.exists_ [pub.name] with _ | _
        · refine he.closing hhad ?_
          rw [hhad] at hex
          simpa [FileTree.exists_] using hex
        · simp [hhad, he.backup_exists hhad] at hno
    · rintro t ⟨hc | he, huncommitted⟩
      · rcases hc.consistent with hk | hn
        · exact .inl ⟨hc, hk⟩
        · rw [hn.committed] at huncommitted
          cases huncommitted
      · exact .inr he
  · rintro t ⟨⟨hf, hphase⟩, hm⟩
    rcases hphase with ⟨hcons, -⟩ | ⟨-, hroll⟩
    · exact .inl ⟨hf, hcons, hm⟩
    · exact .inr ⟨hf, hm, hroll⟩

variable (hsettled : Settled t₀)

include hsettled

omit hsettled in
/-- A marker of another publication has a name of its own. -/
theorem marker_notMem_ownNames {x : String} (hx : isMarkerName x = true) (hne : x ≠ ids.marker) :
    x ∉ ownNames pub ids := by
  intro hmem
  simp only [ownNames, List.mem_cons, List.not_mem_nil, or_false] at hmem
  rcases hmem with rfl | rfl | rfl | rfl | rfl
  · rw [h.plainName.2.2.2.2.2.2] at hx
    cases hx
  · simp [isMarkerName, startsWith, transactionPrefix, TransactionIds.staging, stagingPrefix] at hx
  · simp [isMarkerName, startsWith, transactionPrefix, TransactionIds.backup, backupPrefix] at hx
  · exact hne rfl
  · simp [isMarkerName, startsWith, transactionPrefix, TransactionIds.temporary,
      TransactionIds.marker] at hx

omit hsettled in
/-- A staging directory of another publication has a name of its own. -/
theorem staging_notMem_ownNames {x : String} (hx : isStagingName x = true)
    (hne : x ≠ ids.staging) : x ∉ ownNames pub ids := by
  intro hmem
  simp only [ownNames, List.mem_cons, List.not_mem_nil, or_false] at hmem
  rcases hmem with rfl | rfl | rfl | rfl | rfl
  · rw [h.plainName.2.2.2.2.2.1] at hx
    cases hx
  · exact hne rfl
  · simp [isStagingName, startsWith, stagingPrefix, TransactionIds.backup, backupPrefix] at hx
  · simp [isStagingName, startsWith, stagingPrefix, TransactionIds.marker, transactionPrefix] at hx
  · simp [isStagingName, startsWith, stagingPrefix, TransactionIds.temporary,
      TransactionIds.marker, transactionPrefix] at hx

/-- One marker of the first loop of a recovery; `rest` is what comes after it. -/
theorem recoverTransaction_spec {x : String} {rest : List String} (hx : isMarkerName x = true)
    (hrest : x ∉ rest) (hpresent : x ≠ ids.marker → t₀.node [x] ≠ none) :
    Survives (fun t => Recoverable pub ids t₀ t ∧
        (t.node [ids.marker] ≠ none ↔ ids.marker ∈ x :: rest))
      (recoverTransaction ls x)
      (fun _ t => Recoverable pub ids t₀ t ∧ (t.node [ids.marker] ≠ none ↔ ids.marker ∈ rest))
      (fun e t => e = .crash ∧ Recoverable pub ids t₀ t) := by
  refine Survives.bind Survives.observe fun read => ?_
  rcases eq_or_ne x ids.marker with rfl | hne
  · refine Survives.of_fact
      (φ := read = .ok (some (pub.transaction ids (t₀.exists_ [pub.name])))) ?_ fun hread => ?_
    · rintro t ⟨⟨hr, hm⟩, rfl⟩
      exact readMarker_marked h (hr.marked (hm.2 List.mem_cons_self))
    · subst hread
      refine (rollTransaction_spec h ls).weaken ?_ ?_ fun _ _ h => h
      · rintro t ⟨⟨hr, hm⟩, -⟩
        exact ⟨hr, hr.marked (hm.2 List.mem_cons_self)⟩
      · intro _ t ht
        exact ⟨ht.recoverable, by simp [ht.unmarked.marker, hrest]⟩
  · have hown := marker_notMem_ownNames h hx hne
    refine Survives.of_fact (φ := read = .ok none) ?_ fun hread => ?_
    · rintro t ⟨⟨hr, -⟩, rfl⟩
      rw [readMarker_of_entry (hr.frame.others x hown)]
      exact hsettled.markers x hx (hpresent hne)
    · subst hread
      refine Survives.pure ?_
      rintro t ⟨⟨hr, hm⟩, -⟩
      refine ⟨hr, hm.trans ?_⟩
      simp [hne.symm]

/-- One entry of the second loop of a recovery. -/
theorem discardStale_spec {x : String} {rest : List String} :
    Survives (fun t => Recoverable pub ids t₀ t ∧ t.node [ids.marker] = none ∧
        (t.node [ids.staging] ≠ none → ids.staging ∈ x :: rest))
      (discardStale ls x)
      (fun _ t => Recoverable pub ids t₀ t ∧ t.node [ids.marker] = none ∧
        (t.node [ids.staging] ≠ none → ids.staging ∈ rest))
      (fun e t => e = .crash ∧ Recoverable pub ids t₀ t) := by
  obtain ⟨-, ⟨-, hSM, -⟩, -, -⟩ := h.ne
  refine Survives.ite (fun hx => ?_) fun hx => Survives.test (Survives.of_fact (φ := False)
    ?_ False.elim) (Survives.pure ?_)
  · refine removeTree_rule (fun t t' ht hdir hp => ?_) fun t t' ht hq => ?_
    · rcases eq_or_ne x ids.staging with rfl | hne
      · exact ⟨rfl, ht.1.prune_staging h hp⟩
      · have hentry := ht.1.frame.others x (staging_notMem_ownNames h hx hne)
        rw [isDir_of_entry hentry, hsettled.staging x hx] at hdir
        cases hdir
    · rcases eq_or_ne x ids.staging with rfl | hne
      · have hclear := cleared_of_spec hq ht.1.frame.staging
        exact ⟨ht.1.prune_staging h hclear.pruned, hclear.pruned.node_none ht.2.1,
          fun hnode => absurd hclear.node_none hnode⟩
      · have hentry := ht.1.frame.others x (staging_notMem_ownNames h hx hne)
        rw [isDir_of_entry hentry, hsettled.staging x hx] at hq
        obtain rfl : t' = t := hq
        exact ⟨ht.1, ht.2.1, fun hnode => (List.mem_cons.1 (ht.2.2 hnode)).resolve_left hne.symm⟩
  · rintro t ⟨⟨hr, hm, -⟩, hpending⟩
    obtain ⟨hcons, hu⟩ := hr.of_unmarked hm
    rcases Classical.em (x ∈ ownNames pub ids) with hmem | hown
    · simp only [ownNames, List.mem_cons, List.not_mem_nil, or_false] at hmem
      rcases hmem with rfl | rfl | rfl | rfl | rfl
      · rcases hcons with hk | hn
        · rw [isPending_of_entry hk.plan, hsettled.pending] at hpending
          cases hpending
        · simp [isPending, hn.committed] at hpending
      · exact hx (isStagingName_staging ids)
      · simp [isPending, FileTree.isDir, hu.backup] at hpending
      · simp [isPending, FileTree.isDir, hm] at hpending
      · simp [isPending, hr.frame.temporary] at hpending
    · rw [isPending_of_entry (hr.frame.others x hown), hsettled.pending] at hpending
      cases hpending
  · rintro t ⟨⟨hr, hm, hs⟩, -⟩
    refine ⟨hr, hm, fun hnode => (List.mem_cons.1 (hs hnode)).resolve_left ?_⟩
    rintro rfl
    exact hx (isStagingName_staging ids)

/-- **A recovery that is stopped leaves a recoverable state, and a complete one
recovers.** -/
theorem recover_spec :
    Survives (Recoverable pub ids t₀) (recoverIncompleteTransactions ls)
      (fun _ => Recovered pub ids t₀) (fun e t => e = .crash ∧ Recoverable pub ids t₀ t) := by
  refine Survives.test (Survives.bind Survives.observe fun markers => ?_) (Survives.pure ?_)
  · refine Survives.of_fact (φ := markers.Nodup ∧ ∀ x ∈ markers, isMarkerName x = true ∧
      (x ≠ ids.marker → t₀.node [x] ≠ none)) ?_ fun hmarkers => ?_
    · rintro t ⟨⟨hr, -⟩, rfl⟩
      refine ⟨(rootNames_nodup ls t).filter _, fun x hx => ?_⟩
      obtain ⟨hnode, hname⟩ := List.mem_filter.1 hx
      refine ⟨hname, fun hne => ?_⟩
      have hentry := hr.frame.others x (marker_notMem_ownNames h hname hne)
      have heq : t.node [x] = t₀.node [x] := congrFun hentry []
      exact heq ▸ mem_rootNames.1 hnode
    refine Survives.bind (Q := fun _ t => Recoverable pub ids t₀ t ∧ t.node [ids.marker] = none)
      (Survives.weaken (Survives.forM (fun rest t => Recoverable pub ids t₀ t ∧
        (t.node [ids.marker] ≠ none ↔ ids.marker ∈ rest)) fun x rest hsuffix => ?_) ?_ ?_
          fun _ _ h => h) fun _ => ?_
    · have hx := hmarkers.2 x (hsuffix.subset List.mem_cons_self)
      exact recoverTransaction_spec h ls hsettled hx.1
        (List.nodup_cons.1 (hmarkers.1.sublist hsuffix.sublist)).1 hx.2
    · rintro t ⟨⟨hr, -⟩, rfl⟩
      refine ⟨hr, ?_⟩
      rw [List.mem_filter, mem_rootNames]
      exact ⟨fun hnode => ⟨hnode, isMarkerName_marker ids⟩, And.left⟩
    · rintro _ t ⟨hr, hm⟩
      exact ⟨hr, by simpa using hm⟩
    · refine Survives.bind Survives.observe fun entries => ?_
      refine Survives.weaken (Survives.forM (fun rest t => Recoverable pub ids t₀ t ∧
        t.node [ids.marker] = none ∧ (t.node [ids.staging] ≠ none → ids.staging ∈ rest))
          fun x rest _ => discardStale_spec h ls hsettled) ?_ ?_ fun _ _ h => h
      · rintro t ⟨⟨hr, hm⟩, rfl⟩
        exact ⟨hr, hm, mem_rootNames.2⟩
      · rintro _ t ⟨hr, hm, hs⟩
        obtain ⟨hcons, hu⟩ := hr.of_unmarked hm
        exact ⟨hr.frame, hcons, hu, by simpa using hs⟩
  · rintro t ⟨hr, hroot⟩
    have hnone : ∀ x, t.node [x] = none := by
      intro x
      by_contra hnode
      have hdir := FileTree.isDir_iff.2 (t.rooted [x] (by simp) hnode)
      rw [List.dropLast_singleton, hroot] at hdir
      cases hdir
    obtain ⟨hcons, hu⟩ := hr.of_unmarked (hnone _)
    exact ⟨hr.frame, hcons, hu, hnone _⟩

end Recovery

end Repository
end AiopsK8s
