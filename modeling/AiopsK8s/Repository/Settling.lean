/-
# A complete recovery leaves nothing to recover

Whatever the repository held, as long as its readable markers are ones it writes
itself, a complete recovery ends in a settled tree (`recover_settled`): every marker
that is left is one that recovery skips, and no staging directory and no pending plan
directory is left.  This is the state in which `save` publishes.
-/

import AiopsK8s.Repository.Crashes

namespace AiopsK8s
namespace Repository

open Files Crash

/-- A transaction as the repository writes it. -/
structure OwnTransaction (tx : Transaction) : Prop where
  plan : PlainName tx.planDirectory
  staging : pathParts tx.stagingDirectory = [tx.stagingDirectory]
  stagingName : isMarkerName tx.stagingDirectory = false
  backup : pathParts tx.backupDirectory = [tx.backupDirectory]
  backupName : isMarkerName tx.backupDirectory = false

/-- Every readable marker records a transaction of the repository. -/
def OwnMarkers (t : FileTree Content) : Prop :=
  ∀ x tx, isMarkerName x = true → readMarker t [x] = .ok (some tx) → OwnTransaction tx

variable {t t₁ : FileTree Content} {x : String}

/-- The root entries of `K` are those of `t₁`. -/
def SameEntries (K : String → Prop) (t₁ t : FileTree Content) : Prop :=
  ∀ y, K y → entry t y = entry t₁ y

section SameEntries

variable {K : String → Prop}

theorem removeTree_sameEntries (ls : Listing) (hx : ¬K x) :
    Keeps (SameEntries K t₁) (removeTree ls [x] : Work Unit) := by
  have hne : ∀ {y}, K y → y ≠ x := fun hy heq => hx (heq ▸ hy)
  refine removeTree_rule (fun t t' ht _ hp y hy => (entry_pruned hp (hne hy)).trans (ht y hy))
    fun t t' ht hq => ?_
  split_ifs at hq
  · exact fun y hy => (entry_pruned hq.pruned (hne hy)).trans (ht y hy)
  · exact hq ▸ ht

theorem unlink_sameEntries (hx : ¬K x) :
    Keeps (SameEntries K t₁) (unlink [x] : Work Unit) := by
  refine unlink_rule (fun _ _ ht _ => ht) fun _ ht _ y hy => ?_
  have hne : y ≠ x := fun heq => hx (heq ▸ hy)
  exact (entry_remove_ne hne).trans (ht y hy)

theorem move_sameEntries {y : String} (hx : ¬K x) (hy : ¬K y) :
    Keeps (SameEntries K t₁) (move [x] [y] : Work Unit) := by
  refine move_rule (fun _ _ ht _ => ht) fun _ ht hrep z hz => ?_
  have hzy : z ≠ y := fun heq => hy (heq ▸ hz)
  have hzx : z ≠ x := fun heq => hx (heq ▸ hz)
  exact (entry_replace_ne hrep hzy (by simpa using hzx)).trans (ht z hz)

end SameEntries

/-- Rolling a transaction touches no marker but its own. -/
theorem rollTransaction_sameEntries (ls : Listing) (t₁ : FileTree Content) {tx : Transaction}
    (hown : OwnTransaction tx) :
    Keeps (SameEntries (fun y => isMarkerName y = true ∧ y ≠ x) t₁) (rollTransaction ls [x] tx) := by
  have hplan : ¬(isMarkerName tx.planDirectory = true ∧ tx.planDirectory ≠ x) := by
    rw [hown.plan.2.2.2.2.2.2]
    simp
  have hstaging : ¬(isMarkerName tx.stagingDirectory = true ∧ tx.stagingDirectory ≠ x) := by
    rw [hown.stagingName]
    simp
  have hbackup : ¬(isMarkerName tx.backupDirectory = true ∧ tx.backupDirectory ≠ x) := by
    rw [hown.backupName]
    simp
  simp only [rollTransaction, hown.plan.pathParts, hown.staging, hown.backup]
  have hartifacts : Keeps (SameEntries (fun y => isMarkerName y = true ∧ y ≠ x) t₁)
      (removeTransactionArtifacts ls [x] [tx.stagingDirectory] [tx.backupDirectory]) :=
    Keeps.bind (removeTree_sameEntries ls hstaging) fun _ =>
      Keeps.bind (removeTree_sameEntries ls hbackup) fun _ => unlink_sameEntries (by simp)
  refine Keeps.test hartifacts (Keeps.bind (Keeps.test (Keeps.bind (Keeps.test
    (removeTree_sameEntries ls hplan) (Keeps.pure _)) fun _ => move_sameEntries hbackup hplan)
      (Keeps.test (removeTree_sameEntries ls hplan) (Keeps.pure _))) fun _ => hartifacts)

/-- A transaction that is rolled loses its marker. -/
theorem rollTransaction_unlinks (ls : Listing) (tx : Transaction) :
    Survives (fun _ => True) (rollTransaction ls [x] tx) (fun _ t => t.node [x] = none)
      (fun _ _ => True) := by
  have htree : ∀ p : Path, Keeps (fun _ => True) (removeTree ls p : Work Unit) :=
    fun p => removeTree_rule (fun _ _ _ _ _ => trivial) fun _ _ _ _ => trivial
  have hmove : ∀ p q : Path, Keeps (fun _ => True) (move p q : Work Unit) :=
    fun p q => move_rule (fun _ _ _ _ => trivial) fun _ _ _ => trivial
  have hartifacts : ∀ p q : Path, Survives (fun _ => True)
      (removeTransactionArtifacts ls [x] p q) (fun _ t => t.node [x] = none) (fun _ _ => True) :=
    fun p q => Survives.bind (htree p) fun _ => Survives.bind (htree q) fun _ =>
      unlink_rule (fun _ _ _ _ => trivial) fun t _ hdir => by
        rw [FileTree.remove_file_node hdir, if_pos rfl]
  refine Survives.test ((hartifacts _ _).weaken (fun _ _ => trivial) (fun _ _ h => h)
    fun _ _ h => h) (Survives.bind (Q := fun _ _ => True) ?_ fun _ => hartifacts _ _)
  refine Survives.weaken (Keeps.test (Keeps.bind (Keeps.test (htree _) (Keeps.pure _)) fun _ =>
    hmove _ _) (Keeps.test (htree _) (Keeps.pure _))) (fun _ _ => trivial) (fun _ _ h => h)
      fun _ _ h => h

/-- The markers during the first loop: those in `rest` are still to come. -/
def MarkersLeft (rest : List String) (t : FileTree Content) : Prop :=
  ∀ y, isMarkerName y = true → t.node [y] ≠ none → readMarker t [y] = .ok none ∨
    (y ∈ rest ∧ ∀ tx, readMarker t [y] = .ok (some tx) → OwnTransaction tx)

/-- One marker of the first loop. -/
theorem recoverTransaction_markers (ls : Listing) {rest : List String}
    (hx : isMarkerName x = true) :
    Survives (MarkersLeft (x :: rest)) (recoverTransaction ls x) (fun _ => MarkersLeft rest)
      (fun _ _ => True) := by
  refine Survives.of_eq fun t ht => Survives.bind Survives.observe fun read => ?_
  have hother : ∀ y, y ≠ x → isMarkerName y = true → t.node [y] ≠ none →
      readMarker t [y] = .ok none ∨
        (y ∈ rest ∧ ∀ tx, readMarker t [y] = .ok (some tx) → OwnTransaction tx) := by
    intro y hne hy hnode
    exact (ht y hy hnode).imp_right fun h => ⟨(List.mem_cons.1 h.1).resolve_left hne, h.2⟩
  rcases read with e | _ | tx
  · exact Survives.throwing fun _ _ => trivial
  · refine Survives.pure ?_
    rintro _ ⟨rfl, hread⟩ y hy hnode
    rcases eq_or_ne y x with rfl | hne
    · exact .inl hread.symm
    · exact hother y hne hy hnode
  · refine Survives.of_fact (φ := readMarker t [x] = .ok (some tx)) ?_ fun hread => ?_
    · rintro _ ⟨rfl, hread⟩
      exact hread.symm
    have hnode : t.node [x] ≠ none := by
      intro hnone
      simp [readMarker, readJson, hnone] at hread
    have hown : OwnTransaction tx := by
      rcases ht x hx hnode with hskip | ⟨-, hown⟩
      · rw [hskip] at hread
        cases hread
      · exact hown tx hread
    refine ((rollTransaction_sameEntries ls t hown).survives.and
      (rollTransaction_unlinks ls tx)).weaken ?_ ?_ fun _ _ _ => trivial
    · rintro _ ⟨rfl, -⟩
      exact ⟨fun _ _ => rfl, trivial⟩
    · rintro _ t' ⟨hsame, hgone⟩ y hy hnode'
      rcases eq_or_ne y x with rfl | hne
      · exact absurd hgone hnode'
      · have hentry := hsame y ⟨hy, hne⟩
        have heq : t'.node [y] = t.node [y] := congrFun hentry []
        rw [readMarker_of_entry hentry]
        exact hother y hne hy (heq ▸ hnode')

/-- The tree during the second loop: what recovery has to discard is still to come. -/
structure StaleLeft (rest : List String) (t : FileTree Content) : Prop where
  markers : ∀ y, isMarkerName y = true → t.node [y] ≠ none → readMarker t [y] = .ok none
  staging : ∀ y, isStagingName y = true → t.isDir [y] = true → y ∈ rest
  pending : ∀ y, isPending t [y] = true → y ∈ rest

theorem isDir_of_isPending (h : isPending t [x] = true) : t.isDir [x] = true := by
  unfold isPending at h
  simp only [Bool.and_eq_true] at h
  exact h.1.1

/-- Deleting a directory that is not a marker. -/
theorem StaleLeft.removeTree_spec (ls : Listing) {rest : List String}
    (hx : isMarkerName x = false) :
    Survives (StaleLeft (x :: rest)) (removeTree ls [x] : Work Unit)
      (fun _ => StaleLeft rest) (fun _ _ => True) := by
  refine removeTree_rule (fun _ _ _ _ _ => trivial) fun t t' ht hq => ?_
  have hdir : t'.isDir [x] = false := by
    split_ifs at hq with hdir
    · simp [FileTree.isDir, hq.node_none]
    · rw [hq]
      simpa using hdir
  have hentry : ∀ y, y ≠ x → entry t' y = entry t y := by
    intro y hy
    split_ifs at hq
    · exact entry_pruned hq.pruned hy
    · rw [hq]
  refine ⟨fun y hy hnode => ?_, fun y hy hd => ?_, fun y hp => ?_⟩
  · have hne : y ≠ x := by
      rintro rfl
      rw [hx] at hy
      cases hy
    have heq : t'.node [y] = t.node [y] := congrFun (hentry y hne) []
    rw [readMarker_of_entry (hentry y hne)]
    exact ht.markers y hy (heq ▸ hnode)
  · have hne : y ≠ x := by
      rintro rfl
      rw [hdir] at hd
      cases hd
    rw [isDir_of_entry (hentry y hne)] at hd
    exact (List.mem_cons.1 (ht.staging y hy hd)).resolve_left hne
  · have hne : y ≠ x := by
      rintro rfl
      rw [isDir_of_isPending hp] at hdir
      cases hdir
    rw [isPending_of_entry (hentry y hne)] at hp
    exact (List.mem_cons.1 (ht.pending y hp)).resolve_left hne

/-- One entry of the second loop. -/
theorem discardStale_stale (ls : Listing) {rest : List String} :
    Survives (StaleLeft (x :: rest)) (discardStale ls x) (fun _ => StaleLeft rest)
      (fun _ _ => True) := by
  refine Survives.ite (fun hx => StaleLeft.removeTree_spec ls ?_) fun hx =>
    Survives.test (Survives.of_fact (φ := isMarkerName x = false) ?_ fun hm => ?_)
      (Survives.pure ?_)
  · simp only [isStagingName, startsWith, decide_eq_true_eq] at hx
    obtain ⟨r, hr⟩ := hx
    simp [isMarkerName, startsWith, ← hr, transactionPrefix, stagingPrefix]
  · rintro t ⟨ht, hp⟩
    rw [Bool.eq_false_iff]
    intro hm
    have hdir := FileTree.isDir_iff.1 (isDir_of_isPending hp)
    have hread := ht.markers x hm (by rw [hdir]; simp)
    simp [readMarker, readJson, hdir] at hread
  · exact (StaleLeft.removeTree_spec ls hm).weaken (fun _ h => h.1) (fun _ _ h => h) fun _ _ h => h
  · rintro t ⟨ht, hp⟩
    refine ⟨ht.markers, fun y hy hd => ?_, fun y hpy => ?_⟩
    · refine (List.mem_cons.1 (ht.staging y hy hd)).resolve_left ?_
      rintro rfl
      exact hx hy
    · refine (List.mem_cons.1 (ht.pending y hpy)).resolve_left ?_
      rintro rfl
      rw [hp] at hpy
      cases hpy

/-- **A complete recovery leaves nothing to recover.** -/
theorem recover_settled (ls : Listing) :
    Survives OwnMarkers (recoverIncompleteTransactions ls) (fun _ => Settled)
      (fun _ _ => True) := by
  refine Survives.test (Survives.bind Survives.observe fun markers => ?_) (Survives.pure ?_)
  · refine Survives.bind (Q := fun _ => MarkersLeft []) (Survives.weaken (Survives.forM
      (fun rest t => (∀ y ∈ rest, isMarkerName y = true) ∧ MarkersLeft rest t)
      fun x rest _ => ?_) ?_ (fun _ _ h => h.2) fun _ _ h => h) fun _ => ?_
    · refine Survives.of_fact (fun _ h => h.1) fun hrest => ?_
      refine (recoverTransaction_markers ls (hrest x List.mem_cons_self)).weaken (fun _ h => h.2)
        (fun _ _ h => ⟨fun y hy => hrest y (List.mem_cons_of_mem _ hy), h⟩) fun _ _ h => h
    · rintro t ⟨⟨hown, -⟩, rfl⟩
      refine ⟨fun y hy => (List.mem_filter.1 hy).2, fun y hy hnode => .inr ⟨?_, fun tx => ?_⟩⟩
      · exact List.mem_filter.2 ⟨mem_rootNames.2 hnode, hy⟩
      · exact hown y tx hy
    · refine Survives.bind Survives.observe fun entries => ?_
      refine Survives.weaken (Survives.forM StaleLeft fun x rest _ => discardStale_stale ls) ?_ ?_
        fun _ _ h => h
      · rintro t ⟨hm, rfl⟩
        refine ⟨fun y hy hnode => (hm y hy hnode).resolve_right (by simp), fun y _ hd => ?_,
          fun y hp => ?_⟩
        · exact mem_rootNames.2 (by rw [FileTree.isDir_iff.1 hd]; simp)
        · exact mem_rootNames.2 (by rw [FileTree.isDir_iff.1 (isDir_of_isPending hp)]; simp)
      · rintro _ t ht
        refine ⟨ht.markers, fun y hy => ?_, fun y => ?_⟩
        · rw [Bool.eq_false_iff]
          exact fun hd => by simpa using ht.staging y hy hd
        · rw [Bool.eq_false_iff]
          exact fun hp => by simpa using ht.pending y hp
  · rintro t ⟨-, hroot⟩
    have hnone : ∀ x, t.node [x] = none := by
      intro x
      by_contra hnode
      have hdir := FileTree.isDir_iff.2 (t.rooted [x] (by simp) hnode)
      rw [List.dropLast_singleton, hroot] at hdir
      cases hdir
    refine ⟨fun y _ hnode => absurd (hnone y) hnode, fun y _ => ?_, fun y => ?_⟩
    · simp [FileTree.isDir, hnone]
    · simp [isPending, FileTree.isDir, hnone]

end Repository
end AiopsK8s
