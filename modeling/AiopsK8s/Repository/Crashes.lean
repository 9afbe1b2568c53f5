/-
# The states of a publication

Between the first step of a publication and the last step of the recovery after it
the repository is in one of four states, which `Recoverable` collects.  The plan
directory is the old one, or it is the new one with its commit marker, and then the
transaction marker, the backup and the staging directory are leftovers; or the two
are being exchanged (`Rolling`): the transaction marker is there, the plan directory
is not committed, and the old one is the backup, if there was an old one.

Every root entry that does not belong to the publication is what it was (`Frame`).
-/

import AiopsK8s.Repository.Recovery
import AiopsK8s.Repository.Staging

namespace AiopsK8s
namespace Repository

open Files Crash

/-- A name of a directory in the root, and none that the repository uses itself. -/
def PlainName (name : String) : Prop :=
  name ≠ "" ∧ name ≠ "." ∧ name ≠ ".." ∧ '/' ∉ name.toList ∧ Char.ofNat 0 ∉ name.toList ∧
    isStagingName name = false ∧ isMarkerName name = false

instance (name : String) : Decidable (PlainName name) := inferInstanceAs (Decidable (_ ∧ _))

/-- A plan id that names a directory in the root. -/
def PlainId (id : String) : Prop := pathParts id = [pathName id] ∧ PlainName (pathName id)

instance (id : String) : Decidable (PlainId id) := inferInstanceAs (Decidable (_ ∧ _))

/-- Nothing is left to recover: every marker is one that recovery skips, no staging
directory is there, and no plan directory is pending. -/
structure Settled (t : FileTree Content) : Prop where
  markers : ∀ x, isMarkerName x = true → t.node [x] ≠ none → readMarker t [x] = .ok none
  staging : ∀ x, isStagingName x = true → t.isDir [x] = false
  pending : ∀ x, isPending t [x] = false

/-- The identifiers of a publication are new. -/
structure Fresh (t : FileTree Content) (ids : TransactionIds) (id : String) : Prop where
  absent : ∀ x ∈ [ids.staging, ids.backup, ids.marker, ids.temporary], t.node [x] = none
  distinct : id ∉ [ids.staging, ids.backup, ids.marker, ids.temporary]

section Entries

variable {t t' : FileTree Content} {x y : String} {r : Path}

theorem content_of_entry (h : entry t' x = entry t x) :
    t'.content (x :: r) = t.content (x :: r) := by
  have hr : t'.node (x :: r) = t.node (x :: r) := congrFun h r
  simp only [FileTree.content, hr]

theorem isDir_of_entry (h : entry t' x = entry t x) : t'.isDir (x :: r) = t.isDir (x :: r) := by
  have hr : t'.node (x :: r) = t.node (x :: r) := congrFun h r
  simp only [FileTree.isDir, hr]

theorem isCommitted_of_entry (h : entry t' x = entry t x) :
    isCommitted t' [x] = isCommitted t [x] := by
  simp only [isCommitted, FileTree.isFile, List.cons_append, content_of_entry h]

theorem isPending_of_entry (h : entry t' x = entry t x) : isPending t' [x] = isPending t [x] := by
  simp only [isPending, isDir_of_entry h, isCommitted_of_entry h, FileTree.isFile, List.cons_append,
    content_of_entry h]

theorem readMarker_of_entry (h : entry t' x = entry t x) :
    readMarker t' [x] = readMarker t [x] := by
  have hr : t'.node [x] = t.node [x] := congrFun h []
  simp only [readMarker, readJson, hr]

theorem entry_of_absent (h : t.node [x] = none) : entry t x = fun _ => none :=
  funext fun r => FileTree.node_of_absent h (List.prefix_append [x] r)

theorem entry_pruned (h : Pruned [x] t t') (hne : y ≠ x) : entry t' y = entry t y :=
  funext fun _ => h.node_eq fun hp => hne (List.cons_prefix_cons.1 hp).1.symm

theorem entry_put_ne (hne : y ≠ x) (n : Node Content) : entry (t.put (x :: r) n) y = entry t y :=
  funext fun _ => FileTree.put_node_ne (by simp [hne]) n

theorem entry_remove_ne (hne : y ≠ x) : entry (t.remove (x :: r)) y = entry t y :=
  funext fun _ => FileTree.remove_node_ne (by simp [hne])

/-- A rename to a root entry, below the new place. -/
theorem entry_replace_target {p : Path} (h : t.Replaceable p [x]) :
    entry (t.replace p [x]) x = fun r => t.node (p ++ r) := by
  funext r
  have hx : [x] <+: x :: r := List.prefix_append [x] r
  rw [entry, FileTree.replace_node h, if_pos hx]
  rfl

/-- A rename to a root entry, elsewhere. -/
theorem entry_replace_ne {p : Path} (h : t.Replaceable p [x]) (hne : y ≠ x)
    (hp : ∀ z, p.head? = some z → y ≠ z) : entry (t.replace p [x]) y = entry t y := by
  funext r
  rw [entry, FileTree.replace_node h, if_neg, if_neg]
  · rfl
  · rintro ⟨s, hs⟩
    rcases p with _ | ⟨z, p⟩
    · exact h.2.2.2.1 List.nil_prefix
    · exact hp z rfl (by simpa using (congrArg List.head? hs).symm)
  · exact fun hx => hne (List.cons_prefix_cons.1 hx).1.symm

/-- A rename below one root entry, elsewhere. -/
theorem entry_replace_inside {p q : Path} (h : t.Replaceable (x :: p) (x :: q)) (hne : y ≠ x) :
    entry (t.replace (x :: p) (x :: q)) y = entry t y := by
  funext r
  rw [entry, FileTree.replace_node h, if_neg, if_neg]
  · rfl
  · exact fun hx => hne (List.cons_prefix_cons.1 hx).1.symm
  · exact fun hx => hne (List.cons_prefix_cons.1 hx).1.symm

end Entries

section States

variable {py : Python}

/-- The root entries of one publication. -/
def ownNames (pub : Publication py) (ids : TransactionIds) : List String :=
  [pub.name, ids.staging, ids.backup, ids.marker, ids.temporary]

variable (pub : Publication py) (ids : TransactionIds) (t₀ : FileTree Content)

/-- Nothing but the publication's own entries differs from `t₀`, and these are of their
own kinds. -/
structure Frame (t : FileTree Content) : Prop where
  others : ∀ x ∉ ownNames pub ids, entry t x = entry t₀ x
  staging : t.content [ids.staging] = none
  temporary : t.isDir [ids.temporary] = false

/-- The transaction marker is there. -/
def Marked (t : FileTree Content) : Prop :=
  t.content [ids.marker] =
    some (.doc (pub.transaction ids (t₀.exists_ [pub.name])).toJson)

/-- The transaction marker is not there. -/
structure Unmarked (t : FileTree Content) : Prop where
  marker : t.node [ids.marker] = none
  backup : t.node [ids.backup] = none

/-- The plan directory is the old one. -/
structure Kept (t : FileTree Content) : Prop where
  plan : entry t pub.name = entry t₀ pub.name
  backup : t.node [ids.backup] = none

/-- The plan directory is the new one. -/
structure Published (t : FileTree Content) : Prop where
  documents : Documents pub [pub.name] t
  committed : isCommitted t [pub.name] = true
  backup : t.content [ids.backup] = none

/-- The old and the new plan directory are being exchanged. -/
structure Rolling (t : FileTree Content) : Prop where
  uncommitted : isCommitted t [pub.name] = false
  directory : t.content [pub.name] = none
  wasDirectory : t₀.content [pub.name] = none
  backup : if t₀.exists_ [pub.name] then entry t ids.backup = entry t₀ pub.name
    else t.node [ids.backup] = none

/-- **The states between the start of a publication and the end of its recovery.** -/
structure Recoverable (t : FileTree Content) : Prop where
  frame : Frame pub ids t₀ t
  phase : ((Kept pub ids t₀ t ∨ Published pub ids t) ∧ (Marked pub ids t₀ t ∨ Unmarked ids t)) ∨
    (Marked pub ids t₀ t ∧ Rolling pub ids t₀ t)

/-- The setting of a publication: a plain plan id and new identifiers. -/
structure Setting : Prop where
  plain : PlainId pub.planId
  fresh : Fresh t₀ ids pub.name

end States

section Names

variable (ids : TransactionIds)

theorem isStagingName_staging : isStagingName ids.staging = true := by
  simp [isStagingName, startsWith, TransactionIds.staging]

theorem isMarkerName_marker : isMarkerName ids.marker = true := by
  have hend : ".json".toList <:+ ids.marker.toList := by
    rw [TransactionIds.marker, String.toList_append]
    exact List.suffix_append _ _
  have hstart : transactionPrefix.toList <+: ids.marker.toList := by
    rw [TransactionIds.marker, String.append_assoc, String.toList_append]
    exact List.prefix_append _ _
  simp only [isMarkerName, startsWith, endsWith, hstart, hend, decide_true, Bool.and_self]

/-- The names of a publication differ from one another. -/
theorem ownNames_nodup :
    [ids.staging, ids.backup, ids.marker, ids.temporary].Nodup := by
  have hne : ∀ {a b : String}, a.toList ≠ b.toList → a ≠ b := fun h heq => h (heq ▸ rfl)
  simp only [List.nodup_cons, List.mem_cons, List.not_mem_nil, or_false, not_or, not_false_eq_true,
    List.nodup_nil, and_true]
  refine ⟨⟨?_, ?_, ?_⟩, ⟨?_, ?_⟩, ?_⟩ <;> refine hne ?_ <;>
    simp [transactionPrefix, TransactionIds.staging, stagingPrefix, TransactionIds.marker,
      TransactionIds.backup, backupPrefix, TransactionIds.temporary]

theorem Hex.slash_notMem (h : Hex) : '/' ∉ h.text.toList := fun hmem => by
  have := h.digits _ hmem
  revert this
  decide

theorem slash_notMem_staging : '/' ∉ ids.staging.toList := by
  simp [TransactionIds.staging, stagingPrefix, ids.transaction.slash_notMem]

theorem slash_notMem_backup : '/' ∉ ids.backup.toList := by
  simp [TransactionIds.backup, backupPrefix, ids.transaction.slash_notMem]

theorem pathParts_staging : pathParts ids.staging = [ids.staging] := by
  refine pathParts_single (slash_notMem_staging ids) ?_ ?_
  · simp [TransactionIds.staging, stagingPrefix, ← String.toList_inj]
  · simp [TransactionIds.staging, stagingPrefix, ← String.toList_inj]

theorem pathParts_backup : pathParts ids.backup = [ids.backup] := by
  refine pathParts_single (slash_notMem_backup ids) ?_ ?_
  · simp [TransactionIds.backup, backupPrefix, ← String.toList_inj]
  · simp [TransactionIds.backup, backupPrefix, ← String.toList_inj]

theorem PlainName.pathParts {name : String} (h : PlainName name) :
    Repository.pathParts name = [name] :=
  pathParts_single h.2.2.2.1 h.1 h.2.1

theorem PlainName.pathName {name : String} (h : PlainName name) :
    Repository.pathName name = name :=
  pathName_of_parts h.2.2.2.1 h.pathParts

/-- An absolute plan id names no directory in the root. -/
theorem not_plainId_of_absolute {id : String} (h : id.toList.head? = some '/') : ¬PlainId id := by
  rintro ⟨hparts, hname⟩
  rw [Repository.pathParts, if_pos h] at hparts
  obtain ⟨hroot, -⟩ := List.cons.inj hparts
  rw [← hroot] at hname
  exact absurd hname (by decide)

end Names

section Setting

variable {py : Python} {pub : Publication py} {ids : TransactionIds} {t₀ t t' : FileTree Content}

/-- **The five root entries of a publication are distinct.** -/
theorem Setting.names (h : Setting pub ids t₀) : (ownNames pub ids).Nodup :=
  List.nodup_cons.2 ⟨h.fresh.distinct, ownNames_nodup ids⟩

theorem Setting.ne (h : Setting pub ids t₀) :
    (pub.name ≠ ids.staging ∧ pub.name ≠ ids.backup ∧ pub.name ≠ ids.marker ∧
      pub.name ≠ ids.temporary) ∧
    (ids.staging ≠ ids.backup ∧ ids.staging ≠ ids.marker ∧ ids.staging ≠ ids.temporary) ∧
    (ids.backup ≠ ids.marker ∧ ids.backup ≠ ids.temporary) ∧ ids.marker ≠ ids.temporary := by
  simpa [ownNames] using h.names

theorem Setting.planDirectory (h : Setting pub ids t₀) : pub.planDirectory = [pub.name] :=
  h.plain.1

theorem Setting.plainName (h : Setting pub ids t₀) : PlainName pub.name := h.plain.2

/-- Recovery reads the marker back as the transaction. -/
theorem readMarker_marked (h : Setting pub ids t₀) (hm : Marked pub ids t₀ t) :
    readMarker t [ids.marker] = .ok (some (pub.transaction ids (t₀.exists_ [pub.name]))) := by
  have hread : readJson t [ids.marker] =
      .ok (pub.transaction ids (t₀.exists_ [pub.name])).toJson := by
    rw [readJson, FileTree.content_eq_some.1 hm]
  have hname : pathName pub.name = pub.name := h.plainName.pathName
  have hstaging := pathName_of_parts (slash_notMem_staging ids) (pathParts_staging ids)
  have hbackup := pathName_of_parts (slash_notMem_backup ids) (pathParts_backup ids)
  rw [readMarker, hread]
  simp [Transaction.toJson, Transaction.ofFields, transactionPathName, Publication.transaction,
    Json.get, List.lookup_cons, hname, hstaging, hbackup]

theorem Marked.of_entry (h : Marked pub ids t₀ t) (he : entry t' ids.marker = entry t ids.marker) :
    Marked pub ids t₀ t' :=
  (content_of_entry he).trans h

theorem Documents.of_entry {x : String} (h : Documents pub [x] t) (he : entry t' x = entry t x) :
    Documents pub [x] t' where
  latest := (content_of_entry he).trans h.latest
  history := (content_of_entry he).trans h.history
  versionReport := (content_of_entry he).trans h.versionReport

theorem Kept.of_entry (h : Kept pub ids t₀ t) (he : entry t' pub.name = entry t pub.name)
    (hb : t'.node [ids.backup] = none) : Kept pub ids t₀ t' :=
  ⟨he.trans h.plan, hb⟩

theorem Published.of_entry (h : Published pub ids t)
    (he : entry t' pub.name = entry t pub.name) (hb : t'.content [ids.backup] = none) :
    Published pub ids t' :=
  ⟨h.documents.of_entry he, (isCommitted_of_entry he).trans h.committed, hb⟩

theorem Frame.of_entries (h : Frame pub ids t₀ t)
    (ho : ∀ x ∉ ownNames pub ids, entry t' x = entry t x)
    (hs : t'.content [ids.staging] = none) (ht : t'.isDir [ids.temporary] = false) :
    Frame pub ids t₀ t' :=
  ⟨fun x hx => (ho x hx).trans (h.others x hx), hs, ht⟩

/-- Deleting one of the publication's own entries keeps the frame. -/
theorem Frame.pruned (h : Frame pub ids t₀ t) {x : String} (hx : x ∈ ownNames pub ids)
    (hp : Pruned [x] t t') : Frame pub ids t₀ t' :=
  h.of_entries (fun _ hy => entry_pruned hp fun heq => hy (heq ▸ hx)) (hp.content_none h.staging)
    (hp.isDir_false h.temporary)

end Setting

end Repository
end AiopsK8s
