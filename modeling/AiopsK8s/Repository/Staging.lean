/-
# What is staged

The staged plan directory is built inside the staging directory, so nothing else in
the tree changes (`stage_within`), and when it is complete it holds the documents
of the publication and no commit marker (`stage_spec`): a commit marker that the
copy of the old directory brings along is deleted, and no document is written in
its place.
-/

import AiopsK8s.Repository.Publish

namespace AiopsK8s
namespace Repository

open Files Crash

theorem pathParts_single {name : String} (h : '/' ∉ name.toList) (hempty : name ≠ "")
    (hdot : name ≠ ".") : pathParts name = [name] := by
  have hsplit : name.toList.splitOn '/' = [name.toList] := List.splitOn_eq_singleton h
  have hrelative : name.toList.head? ≠ some '/' := fun hroot => h (List.mem_of_mem_head? hroot)
  rw [pathParts, if_neg hrelative, pathComponents, hsplit]
  simp [hempty, hdot]

theorem pathName_of_parts {name : String} (hslash : '/' ∉ name.toList)
    (h : pathParts name = [name]) : pathName name = name := by
  have hrelative : name.toList.head? ≠ some '/' := fun hroot =>
    hslash (List.mem_of_mem_head? hroot)
  rw [pathParts, if_neg hrelative] at h
  rw [pathName, h]
  rfl

/-- What writing a document keeps and gives. -/
theorem writeJson_content (p : Path) (v : Json) :
    Survives (fun _ => True) (writeJson p v) (fun _ t => t.content p = some (.doc v))
      (fun _ _ => True) :=
  Survives.bind (Q := fun _ _ => True)
    ((makeDirs_dir p.dropLast).weaken (fun _ h => h) (fun _ _ _ => trivial) fun _ _ h => h)
    fun _ => writeFile_content p _

theorem writeJson_within {s p : Path} (t₀ : FileTree Content) (v : Json) (h : Below s p) :
    Keeps (Within s t₀) (writeJson p v) := by
  refine Keeps.bind (makeDirs_within t₀ ?_) fun _ => writeFile_within t₀ h
  exact List.prefix_or_prefix_of_prefix (List.dropLast_prefix p) h.1

/-- The documents of a publication stand in a plan directory. -/
structure Documents {py : Python} (pub : Publication py) (plan : Path) (t : FileTree Content) :
    Prop where
  latest : t.content (plan ++ ["latest.json"]) = some (.doc (.obj pub.report))
  history : t.content (plan ++ ["history.json"]) = some (.doc (.arr pub.history))
  versionReport : t.content (plan ++ pub.versionDirectory ++ ["report.json"]) =
    some (.doc (.obj pub.report))

/-- What files are known to contain, by their path below a directory; `none` is known
not to be a file. -/
def Known (dir : Path) (l : List (Path × Option Content)) (t : FileTree Content) : Prop :=
  ∀ f ∈ l, t.content (dir ++ f.1) = f.2

/-- Making directories changes nothing that is known. -/
theorem makeDirs_known (dir p : Path) (l : List (Path × Option Content)) :
    Keeps (Known dir l) (makeDirs p : Work Unit) :=
  makeDirs_keeps fun _ _ _ hnone ht f hf => (content_makeDir hnone).trans (ht f hf)

/-- A write elsewhere changes nothing that is known. -/
theorem writeJson_known {dir p : Path} {l : List (Path × Option Content)} (v : Json)
    (h : ∀ f ∈ l, f.1 ≠ p) : Keeps (Known dir l) (writeJson (dir ++ p) v) := by
  refine Keeps.bind (makeDirs_known dir _ l) fun _ => ?_
  refine writeFile_rule (fun _ _ ht => ht) fun t ht _ _ f hf => ?_
  have hne : dir ++ f.1 ≠ dir ++ p := fun heq => h f hf (List.append_cancel_left heq)
  simpa only [FileTree.content, FileTree.put_node_ne hne] using ht f hf

/-- A write adds to what is known. -/
theorem writeJson_adds {dir p : Path} {l : List (Path × Option Content)} (v : Json)
    (h : ∀ f ∈ l, f.1 ≠ p) :
    Survives (Known dir l) (writeJson (dir ++ p) v)
      (fun _ => Known dir ((p, some (.doc v)) :: l)) (fun _ _ => True) := by
  refine ((writeJson_known v h).and (writeJson_content (dir ++ p) v)).weaken
    (fun t ht => ⟨ht, trivial⟩) (fun _ t ht g hg => ?_) (fun _ _ _ => trivial)
  exact (List.mem_cons.1 hg).elim (fun h => h ▸ ht.2) (ht.1 g)

section Stage

variable {py : Python} (pub : Publication py)

/-- What is known of a staged plan directory in the end: the documents of the
publication, and that there is no commit marker. -/
def Publication.stagedFiles : List (Path × Option Content) :=
  [(["history.json"], some (.doc (.arr pub.history))),
    (["latest.json"], some (.doc (.obj pub.report))),
    (pub.versionDirectory ++ ["report.json"], some (.doc (.obj pub.report))),
    ([commitFile], none)]

/-- A document below the version directory that is not its report is none of these. -/
theorem stagedFiles_ne {p : Path} (hreport : p ≠ ["report.json"]) :
    ∀ f ∈ pub.stagedFiles, f.1 ≠ pub.versionDirectory ++ p := by
  intro f hf heq
  simp only [Publication.stagedFiles, List.mem_cons, List.not_mem_nil, or_false] at hf
  rcases hf with rfl | rfl | rfl | rfl
  · simp [Publication.versionDirectory] at heq
  · simp [Publication.versionDirectory] at heq
  · exact hreport (List.append_cancel_left heq).symm
  · simp [Publication.versionDirectory, commitFile] at heq

theorem Sidecar.segments_ne (sidecar : Sidecar py) : sidecar.segments ≠ ["report.json"] := by
  intro heq
  refine sidecar.unreserved "report.json" (by rw [heq]; exact List.mem_cons_self) ?_
  have hname : normalizedSegment py "report.json" = "report.json" := by rfl
  rw [hname]
  exact List.mem_cons_self

/-- **The documents of a publication are written, and no commit marker.** -/
theorem writeDocuments_spec (staged : Path) :
    Survives (Known staged [([commitFile], none)]) (writeDocuments pub staged)
      (fun _ => Known staged pub.stagedFiles) (fun _ _ => True) := by
  unfold writeDocuments
  refine Survives.bind (writeJson_known _ (by simp [commitFile, pendingFile])).survives fun _ => ?_
  refine Survives.bind (Keeps.only (writeJson_known _ (by simp [commitFile]))).survives fun _ => ?_
  rw [List.append_assoc]
  refine Survives.bind (writeJson_adds _ (by simp [commitFile, Publication.versionDirectory]))
    fun _ => ?_
  refine Survives.bind (writeJson_adds _ (by simp [commitFile, Publication.versionDirectory]))
    fun _ => ?_
  refine Survives.bind (writeJson_adds _ (by simp [commitFile, Publication.versionDirectory]))
    fun _ => ?_
  have hbelow : ∀ {p : Path} (v : Json), p ≠ ["report.json"] →
      Survives (Known staged pub.stagedFiles)
        (writeJson (staged ++ pub.versionDirectory ++ p) v)
        (fun _ => Known staged pub.stagedFiles) (fun _ _ => True) := by
    intro p v hp
    rw [List.append_assoc]
    exact (writeJson_known v (stagedFiles_ne pub hp)).survives
  refine Survives.bind (hbelow _ (by simp)) fun _ => ?_
  refine Survives.bind (Survives.forM (fun _ => Known staged pub.stagedFiles) fun sidecar _ _ =>
    hbelow _ sidecar.segments_ne) fun _ => ?_
  cases pub.authenticator with
  | none => exact (Keeps.pure _).survives
  | some auth =>
      refine Survives.bind (Keeps.observe _).survives fun manifest => ?_
      cases manifest with
      | error e => exact Survives.throwing fun _ _ => trivial
      | ok manifest => exact hbelow _ (by simp [authenticatedManifestFile])

/-- The documents stay within the staged directory. -/
theorem writeDocuments_within {s staged : Path} (t₀ : FileTree Content) (h : s <+: staged) :
    Keeps (Within s t₀) (writeDocuments pub staged) := by
  have hbelow : ∀ (p : Path) (v : Json), p ≠ [] →
      Keeps (Within s t₀) (writeJson (staged ++ p) v) := by
    intro p v hp
    refine writeJson_within t₀ v ⟨h.trans (List.prefix_append _ _), ?_⟩
    rintro rfl
    have hlen := h.length_le
    rw [List.length_append] at hlen
    have := List.length_pos_iff.2 hp
    omega
  have hversion : ∀ (p : Path) (v : Json), p ≠ [] →
      Keeps (Within s t₀) (writeJson (staged ++ pub.versionDirectory ++ p) v) := by
    intro p v hp
    rw [List.append_assoc]
    exact hbelow _ v (by simp [hp])
  unfold writeDocuments
  refine Keeps.bind (hbelow _ _ (by simp)) fun _ => ?_
  refine Keeps.bind (Keeps.only (hbelow _ _ (by simp))) fun _ => ?_
  refine Keeps.bind (hversion _ _ (by simp)) fun _ => ?_
  refine Keeps.bind (hbelow _ _ (by simp)) fun _ => ?_
  refine Keeps.bind (hbelow _ _ (by simp)) fun _ => ?_
  refine Keeps.bind (hversion _ _ (by simp)) fun _ => ?_
  refine Keeps.bind (Keeps.forM fun sidecar _ => hversion _ _ sidecar.nonempty) fun _ => ?_
  cases pub.authenticator with
  | none => exact Keeps.pure _
  | some auth =>
      refine Keeps.bind (Keeps.observe _) fun manifest => ?_
      cases manifest with
      | error e => exact Keeps.throwing _
      | ok manifest => exact hversion _ _ (by simp)

/-- Deleting one staged file changes no other file. -/
theorem removeStagedFile_content_ne {p r : Path} (preserve : Bool) (h : r ≠ p)
    (x : Option Content) :
    Keeps (fun t => t.content r = x) (removeStagedFile py preserve p) := by
  refine Keeps.test (Survives.ite (fun _ => Keeps.pure _) fun _ => ?_) (Keeps.pure _)
  refine unlink_rule (fun _ _ ht _ => ht) fun t ht _ => ?_
  simpa only [FileTree.content, FileTree.remove_node_ne h] using ht

/-- A staged commit marker is deleted. -/
theorem removeStagedFile_commit (staged : Path) (preserve : Bool) :
    Survives (fun _ => True) (removeStagedFile py preserve (staged ++ [commitFile]))
      (fun _ => Known staged [([commitFile], none)]) (fun _ _ => True) := by
  have hname : normalizedSegment py commitFile ∈ reservedRootFiles := by
    have h : normalizedSegment py commitFile = commitFile := by rfl
    rw [h]
    decide
  refine Survives.test (Survives.ite (fun h => absurd h.2 ?_) fun _ => ?_) (Survives.pure ?_)
  · simp [commitFile]
  · refine unlink_rule (fun _ _ _ _ => trivial) fun t _ hdir g hg => ?_
    obtain rfl := List.mem_singleton.1 hg
    simp [FileTree.content, FileTree.remove_file_node hdir]
  · rintro t ⟨-, h⟩ g hg
    obtain rfl := List.mem_singleton.1 hg
    simpa [hname, FileTree.isFile] using h

/-- **No commit marker is left in the staged directory.** -/
theorem removeStagedRepositoryMetadata_spec (ls : Listing) (staged : Path) (preserve : Bool) :
    Survives (fun _ => True) (removeStagedRepositoryMetadata ls py staged preserve)
      (fun _ => Known staged [([commitFile], none)]) (fun _ _ => True) := by
  refine Survives.test (Survives.bind Survives.observe fun entries => ?_) (Survives.pure ?_)
  · -- the commit marker is gone or still to come
    refine Survives.weaken (Survives.forM (fun rest t =>
      Known staged [([commitFile], none)] t ∨ staged ++ [commitFile] ∈ rest)
      fun p rest _ => ?_) ?_ (fun _ t ht => ht.resolve_right List.not_mem_nil) fun _ _ h => h
    · rcases eq_or_ne (staged ++ [commitFile]) p with rfl | hp
      · exact (removeStagedFile_commit staged preserve).weaken (fun _ _ => trivial)
          (fun _ _ h => .inl h) fun _ _ h => h
      · refine Survives.of_eq fun t ht => ?_
        have hkeep : Keeps (fun t' => t'.content (staged ++ [commitFile]) =
              t.content (staged ++ [commitFile]))
            (removeStagedFile py preserve p) := removeStagedFile_content_ne preserve hp _
        refine hkeep.survives.weaken (fun t' ht' => by rw [ht']) (fun _ t' ht' => ?_) fun _ _ h => h
        rcases ht with ht | ht
        · refine .inl fun g hg => ?_
          obtain rfl := List.mem_singleton.1 hg
          exact ht'.trans (ht _ List.mem_cons_self)
        · exact .inr ((List.mem_cons.1 ht).resolve_left hp)
    · rintro t ⟨-, rfl⟩
      by_cases hnode : t.node (staged ++ [commitFile]) = none
      · refine .inl fun g hg => ?_
        obtain rfl := List.mem_singleton.1 hg
        simp [FileTree.content, hnode]
      · refine .inr ((ls.perm _).mem_iff.2 (FileTree.mem_children.2 ⟨by simp, ?_, hnode⟩))
        exact List.dropLast_concat
  · rintro t ⟨-, h⟩ g hg
    obtain rfl := List.mem_singleton.1 hg
    have hnone : t.node staged = none := by simpa [FileTree.exists_] using h
    simp [FileTree.content, FileTree.node_of_absent hnone (List.prefix_append _ _)]

theorem removeStagedRepositoryMetadata_within {s staged : Path} (ls : Listing)
    (t₀ : FileTree Content) (preserve : Bool) (h : s <+: staged) :
    Keeps (Within s t₀) (removeStagedRepositoryMetadata ls py staged preserve) := by
  refine Keeps.test (Survives.bind Survives.observe fun entries => ?_) (Keeps.pure _)
  refine Survives.of_fact (φ := ∀ p ∈ entries, Below s p) ?_ fun hentries => ?_
  · rintro t ⟨-, rfl⟩ p hp
    obtain ⟨hne, rfl, -⟩ := FileTree.mem_children.1 ((ls.perm _).mem_iff.1 hp)
    refine ⟨h.trans (List.dropLast_prefix p), ?_⟩
    rintro rfl
    have hlen := h.length_le
    have hpos := List.length_pos_iff.2 hne
    rw [List.length_dropLast] at hlen
    omega
  · have hloop : Keeps (Within s t₀) (entries.forM (removeStagedFile py preserve)) := by
      refine Keeps.forM fun p hp => Keeps.test ?_ (Keeps.pure _)
      exact Survives.ite (fun _ => Keeps.pure _) fun _ => unlink_within t₀ (hentries p hp)
    exact Survives.weaken hloop (fun _ ht => ht.1) (fun _ _ h => h) fun _ _ h => h

/-- Staging changes nothing outside the staging directory. -/
theorem stage_within (ls : Listing) (ids : TransactionIds) (t₀ : FileTree Content)
    (hplan : pub.planDirectory.dropLast = []) :
    Keeps (Within [ids.staging] t₀) (stage ls ids pub) := by
  have hbelow : Below [ids.staging] (pub.staged ids) := ⟨⟨[pub.name], rfl⟩, by
    simp [Publication.staged]⟩
  refine Keeps.bind (Keeps.test (copyTree_within ls t₀ hbelow)
    (Keeps.test (Keeps.throwing _) (Keeps.pure _))) fun _ => ?_
  refine Keeps.bind (removeStagedRepositoryMetadata_within ls t₀ _ hbelow.1) fun _ => ?_
  refine Keeps.bind (writeDocuments_within pub t₀ hbelow.1) fun _ => makeDirs_within t₀ ?_
  rw [hplan]
  exact .inl List.nil_prefix

/-- **A complete staging holds the documents of the publication and no commit marker.** -/
theorem stage_spec (ls : Listing) (ids : TransactionIds) (t₀ : FileTree Content)
    (hplan : pub.planDirectory.dropLast = []) :
    Survives (· = t₀) (stage ls ids pub)
      (fun _ t => Within [ids.staging] t₀ t ∧ Known (pub.staged ids) pub.stagedFiles t ∧
        t₀.content pub.planDirectory = none)
      (fun _ => Within [ids.staging] t₀) := by
  have hbelow : Below [ids.staging] (pub.staged ids) := ⟨⟨[pub.name], rfl⟩, by
    simp [Publication.staged]⟩
  have hknown : Survives (· = t₀) (stage ls ids pub)
      (fun _ t => Known (pub.staged ids) pub.stagedFiles t ∧ t₀.content pub.planDirectory = none)
      (fun _ _ => True) := by
    refine Survives.bind (Q := fun _ _ => t₀.content pub.planDirectory = none) ?_ fun _ => ?_
    · refine Survives.test ?_ (Survives.test (Survives.throwing fun _ _ => trivial)
        (Survives.pure ?_))
      · refine Survives.of_fact (φ := t₀.content pub.planDirectory = none) ?_ fun hdir => ?_
        · rintro _ ⟨rfl, h⟩
          simp [FileTree.content, FileTree.isDir_iff.1 h]
        · exact (copyTree_within ls t₀ hbelow).survives.weaken
            (fun t ht => ht.1 ▸ Within.refl _ _) (fun _ _ _ => hdir) fun _ _ h => h
      · rintro t ⟨⟨rfl, -⟩, h⟩
        have hnone : t.node pub.planDirectory = none := by simpa [FileTree.exists_] using h
        simp [FileTree.content, hnone]
    · refine Survives.of_fact (fun _ h => h) fun hcontent => ?_
      refine Survives.bind ((removeStagedRepositoryMetadata_spec ls _ _).weaken
        (fun _ _ => trivial) (fun _ _ h => h) fun _ _ h => h) fun _ => ?_
      refine Survives.bind (writeDocuments_spec pub _) fun _ => ?_
      exact (makeDirs_known _ _ _).survives.weaken (fun _ h => h) (fun _ _ h => ⟨h, hcontent⟩)
        fun _ _ h => h
  exact ((stage_within pub ls ids t₀ hplan).and hknown).weaken
    (fun t ht => ⟨ht ▸ Within.refl _ _, ht⟩) (fun _ _ h => h) fun _ _ h => h.1

end Stage

end Repository
end AiopsK8s
