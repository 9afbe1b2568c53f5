/-
# Programs over file trees

The file operations of a repository: a write, an unlink and a rename happen in one
step; making directories, copying a tree and deleting a tree take many, and a crash
may fall between any two of them.

`removeTree` deletes a tree bottom up: what a crash leaves is the old tree with some
of the entries below the deleted path missing (`Pruned`).  `Within s` is the frame
of everything that works below one directory `s`: nothing else changes, except that
directories on the way to `s` may appear.
-/

import AiopsK8s.Lib.Crash
import AiopsK8s.Lib.FileTree

namespace AiopsK8s
namespace Files

open Crash

/-- The errors of the operating system. -/
inductive OSError where
  | notFound
  | fileExists
  | notADirectory
  | isADirectory
  | notReplaceable
  deriving DecidableEq, Repr

/-- An exception type that holds the errors of the operating system. -/
class OSErrors (ε : Type) where
  os : OSError → ε

section Programs

variable {C ε : Type} [OSErrors ε]

/-- Make one directory on the way to `p`. -/
def makeDir (p q : Path) : Prog (FileTree C) ε Unit :=
  test (·.isDir q) (pure ())
    (test (·.exists_ q)
      (throwing (OSErrors.os (if q = p then .fileExists else .notADirectory)))
      (atomic (·.put q .dir)))

/-- `path.mkdir(parents=True, exist_ok=True)`. -/
def makeDirs (p : Path) : Prog (FileTree C) ε Unit := p.inits.forM (makeDir p)

/-- `path.write_text`. -/
def writeFile (p : Path) (c : C) : Prog (FileTree C) ε Unit :=
  test (·.isDir p) (throwing (OSErrors.os .isADirectory))
    (test (fun t => decide (t.Parented p)) (atomic (·.put p (.file c)))
      (throwing (OSErrors.os .notFound)))

/-- `path.unlink(missing_ok=True)`. -/
def unlink (p : Path) : Prog (FileTree C) ε Unit :=
  test (·.isDir p) (throwing (OSErrors.os .isADirectory)) (atomic (·.remove p))

/-- `path.replace(target)`. -/
def move (p q : Path) : Prog (FileTree C) ε Unit :=
  test (·.exists_ p)
    (test (fun t => decide (t.Replaceable p q)) (atomic (·.replace p q))
      (throwing (OSErrors.os .notReplaceable)))
    (throwing (OSErrors.os .notFound))

/-- `shutil.rmtree(path, ignore_errors=True)`: entries before their directory; a path
that is not a directory is left alone. -/
def removeTree (ls : Listing) (p : Path) : Prog (FileTree C) ε Unit :=
  test (·.isDir p)
    (do
      let entries ← observe (·.below p)
      (ls.order entries).reverse.forM fun q => atomic (·.remove q)
      atomic (·.remove p))
    (pure ())

/-- Copy one entry. -/
def FileTree.copyEntry (p q : Path) (t : FileTree C) : FileTree C :=
  match t.node p with
  | some n => t.put q n
  | none => t

/-- `shutil.copytree(source, target)`. -/
def copyTree (ls : Listing) (p q : Path) : Prog (FileTree C) ε Unit :=
  test (·.exists_ q) (throwing (OSErrors.os .fileExists))
    (do
      makeDirs q
      let entries ← observe (·.below p)
      (ls.order entries).forM fun r => atomic (FileTree.copyEntry r (q ++ r.drop p.length)))

end Programs

variable {C ε : Type} {t t' t'' : FileTree C} {p q r s : Path} {c : C}

/-- Some entries at or below `p` are gone. -/
def Pruned (p : Path) (t t' : FileTree C) : Prop :=
  ∀ r, t'.node r = t.node r ∨ (p <+: r ∧ t'.node r = none)

/-- Everything at or below `p` is gone. -/
def Cleared (p : Path) (t t' : FileTree C) : Prop :=
  ∀ r, t'.node r = if p <+: r then none else t.node r

/-- Only what is below `s` differs, and `s` and the directories on the way to it may
have been made. -/
def Within (s : Path) (t t' : FileTree C) : Prop :=
  ∀ r, Below s r ∨ t'.node r = t.node r ∨
    (r <+: s ∧ t.node r = none ∧ t'.node r = some .dir)

theorem Pruned.refl (p : Path) (t : FileTree C) : Pruned p t t := fun _ => .inl rfl

theorem Cleared.pruned (h : Cleared p t t') : Pruned p t t' := by
  intro r
  have hr := h r
  split_ifs at hr with hp
  · exact .inr ⟨hp, hr⟩
  · exact .inl hr

theorem Cleared.of_absent (h : t.node p = none) : Cleared p t t := by
  intro r
  split_ifs with hp
  · exact FileTree.node_of_absent h hp
  · rfl

theorem Pruned.node_eq (h : Pruned p t t') (hr : ¬p <+: r) : t'.node r = t.node r :=
  (h r).resolve_right fun h' => hr h'.1

/-- Deleting creates nothing. -/
theorem Pruned.node_none (h : Pruned p t t') (hr : t.node r = none) : t'.node r = none := by
  rcases h r with heq | ⟨-, hnone⟩
  · rw [heq, hr]
  · exact hnone

theorem Pruned.content_none (h : Pruned p t t') (hr : t.content r = none) :
    t'.content r = none := by
  rcases h r with heq | ⟨-, hnone⟩
  · simpa only [FileTree.content, heq] using hr
  · simp [FileTree.content, hnone]

theorem Pruned.isDir_false (h : Pruned p t t') (hr : t.isDir r = false) : t'.isDir r = false := by
  rcases h r with heq | ⟨-, hnone⟩
  · simpa only [FileTree.isDir, heq] using hr
  · simp [FileTree.isDir, hnone]

theorem Within.refl (s : Path) (t : FileTree C) : Within s t t := fun _ => .inr (.inl rfl)

theorem Within.trans (h : Within s t t') (h' : Within s t' t'') : Within s t t'' := by
  intro r
  rcases h r with hr | hr | ⟨hr, hnone, hdir⟩
  · exact .inl hr
  · rcases h' r with hr' | hr' | ⟨hr', hnone', hdir'⟩
    · exact .inl hr'
    · exact .inr (.inl (hr'.trans hr))
    · exact .inr (.inr ⟨hr', by rw [← hr, hnone'], hdir'⟩)
  · rcases h' r with hr' | hr' | ⟨-, hnone', -⟩
    · exact .inl hr'
    · exact .inr (.inr ⟨hr, hnone, by rw [hr', hdir]⟩)
    · rw [hdir] at hnone'
      cases hnone'

theorem Below.trans_prefix (h : Below p q) (h' : q <+: r) : Below p r := by
  refine ⟨h.1.trans h', fun heq => ?_⟩
  have hlt := h.length_lt
  have hle := h'.length_le
  subst heq
  omega

theorem Pruned.within (h : Pruned p t t') (hs : Below s p) : Within s t t' := by
  intro r
  rcases h r with hr | ⟨hr, -⟩
  · exact .inr (.inl hr)
  · exact .inl (hs.trans_prefix hr)

theorem within_put (h : Below s p) (n : Node C) : Within s t (t.put p n) := by
  intro r
  rcases eq_or_ne r p with rfl | hr
  · exact .inl h
  · exact .inr (.inl (FileTree.put_node_ne hr n))

theorem within_remove (h : Below s p) : Within s t (t.remove p) := by
  intro r
  rcases eq_or_ne r p with rfl | hr
  · exact .inl h
  · exact .inr (.inl (FileTree.remove_node_ne hr))

theorem within_copyEntry (h : Below s q) : Within s t (t.copyEntry p q) := by
  unfold FileTree.copyEntry
  split
  · exact within_put h _
  · exact Within.refl s t

/-- Making a directory on the way to `s`, or below `s`. -/
theorem within_makeDir (h : q <+: s ∨ s <+: q) (hnone : t.node q = none) :
    Within s t (t.put q .dir) := by
  intro r
  rcases eq_or_ne r q with rfl | hr
  · rcases eq_or_ne s r with rfl | hne
    · by_cases hparent : t.Parented s
      · refine .inr (.inr ⟨List.prefix_refl s, hnone, ?_⟩)
        rw [FileTree.put_node hparent (by rw [hnone]; simp), if_pos rfl]
      · refine .inr (.inl ?_)
        rw [FileTree.put, dif_neg fun h' => hparent h'.1]
    · rcases h with h | h
      · by_cases hparent : t.Parented r
        · refine .inr (.inr ⟨h, hnone, ?_⟩)
          rw [FileTree.put_node hparent (by rw [hnone]; simp), if_pos rfl]
        · refine .inr (.inl ?_)
          rw [FileTree.put, dif_neg fun h' => hparent h'.1]
      · exact .inl ⟨h, hne⟩
  · exact .inr (.inl (FileTree.put_node_ne hr _))

/-- Making a directory changes no file. -/
theorem content_makeDir (hnone : t.node q = none) : (t.put q .dir).content r = t.content r := by
  rcases eq_or_ne r q with rfl | hr
  · unfold FileTree.put
    split
    · simp [FileTree.content, hnone]
    · rfl
  · simp only [FileTree.content, FileTree.put_node_ne hr]

/-- A deletion of the tree below `p` on its way: `rest` is still to be deleted,
deepest first, and everything else below `p` is gone. -/
structure Deleting (p : Path) (t : FileTree C) (rest : List Path) (t' : FileTree C) : Prop where
  deepestFirst : rest.Pairwise fun q r => ¬Below q r
  inside : ∀ q ∈ rest, Below p q
  gone : ∀ r, Below p r → r ∉ rest → t'.node r = none
  kept : ∀ r, t'.node r = t.node r ∨ (Below p r ∧ t'.node r = none)

theorem Deleting.pruned {rest : List Path} (h : Deleting p t rest t') : Pruned p t t' :=
  fun r => (h.kept r).imp_right fun hr => ⟨hr.1.1, hr.2⟩

theorem Deleting.start (ls : Listing) (p : Path) (t : FileTree C) :
    Deleting p t (ls.order (t.below p)).reverse t where
  deepestFirst := List.pairwise_reverse.2 (ls.parentsFirst _)
  inside q hq := by
    rw [List.mem_reverse, (ls.perm _).mem_iff, FileTree.mem_below] at hq
    exact hq.1
  gone r hr hrest := by
    by_contra hne
    rw [List.mem_reverse, (ls.perm _).mem_iff, FileTree.mem_below] at hrest
    exact hrest ⟨hr, hne⟩
  kept _ := .inl rfl

/-- The next entry has nothing below it any more. -/
theorem Deleting.next {rest : List Path} (h : Deleting p t (q :: rest) t') :
    Deleting p t rest (t'.remove q) := by
  obtain ⟨hq, hpair⟩ := List.pairwise_cons.1 h.deepestFirst
  have hinside := h.inside q List.mem_cons_self
  have hchildren : ∀ u, u ≠ [] → u.dropLast = q → t'.node u = none := by
    rintro u hu rfl
    have hbelow : Below u.dropLast u := ⟨List.dropLast_prefix u, dropLast_ne_self hu⟩
    have hlen := hinside.length_lt
    have hlen' := hbelow.length_lt
    refine h.gone u ⟨hinside.1.trans hbelow.1, fun heq => ?_⟩ ?_
    · subst heq
      omega
    · rw [List.mem_cons, not_or]
      exact ⟨fun heq => hbelow.2 heq.symm, fun hmem => hq u hmem hbelow⟩
  have hnode : ∀ r, (t'.remove q).node r = if r = q then none else t'.node r :=
    fun r => FileTree.remove_node hchildren
  refine ⟨hpair, fun u hu => h.inside u (List.mem_cons_of_mem _ hu), fun r hr hrest => ?_,
    fun r => ?_⟩ <;> rw [hnode r] <;> split_ifs with hrq
  · rfl
  · exact h.gone r hr (by simp [hrq, hrest])
  · exact .inr ⟨hrq ▸ hinside, rfl⟩
  · exact h.kept r

/-- With nothing left to delete, the directory itself goes. -/
theorem Deleting.finish (h : Deleting p t [] t') : Cleared p t (t'.remove p) := by
  intro r
  have hchildren : ∀ u, u ≠ [] → u.dropLast = p → t'.node u = none := by
    rintro u hu rfl
    exact h.gone u ⟨List.dropLast_prefix u, dropLast_ne_self hu⟩ List.not_mem_nil
  rw [FileTree.remove_node hchildren]
  rcases eq_or_ne r p with rfl | hr
  · rw [if_pos rfl, if_pos (List.prefix_refl r)]
  · rw [if_neg hr]
    split_ifs with hp
    · exact h.gone r ⟨hp, hr.symm⟩ List.not_mem_nil
    · exact (h.kept r).resolve_right fun h' => hp h'.1.1

/-- **A deletion clears the tree below `p`, and a crash on the way prunes it.** -/
theorem removeTree_spec (ls : Listing) (t : FileTree C) (p : Path) :
    Survives (· = t) (removeTree ls p : Prog (FileTree C) ε Unit)
      (fun _ t' => if t.isDir p then Cleared p t t' else t' = t)
      (fun e t' => e = .crash ∧ t.isDir p = true ∧ Pruned p t t') := by
  refine Survives.test ?_ (Survives.pure ?_)
  · refine Survives.bind Survives.observe fun entries => ?_
    refine Survives.bind (Q := fun _ t' => t.isDir p = true ∧ Deleting p t [] t') ?_ fun _ =>
      Survives.atomic (fun t' ht => ⟨rfl, ht.1, ht.2.pruned⟩) fun t' ht => ?_
    · refine Survives.weaken (Survives.forM (fun rest t' => t.isDir p = true ∧ Deleting p t rest t')
        fun q rest _ => Survives.atomic (fun t' ht => ⟨rfl, ht.1, ht.2.pruned⟩)
          fun t' ht => ⟨ht.1, ht.2.next⟩) ?_ (fun _ _ h => h) (fun _ _ h => h)
      rintro _ ⟨⟨rfl, hdir⟩, rfl⟩
      exact ⟨hdir, Deleting.start ls p _⟩
    · rw [if_pos ht.1]
      exact ht.2.finish
  · rintro _ ⟨rfl, hdir⟩
    rw [if_neg (by rw [hdir]; simp)]

/-- Where there is no file, a complete deletion leaves nothing. -/
theorem cleared_of_spec (h : if t.isDir p then Cleared p t t' else t' = t)
    (hp : t.content p = none) : Cleared p t t' := by
  split_ifs at h with hdir
  · exact h
  · subst h
    refine Cleared.of_absent ?_
    rcases t'.node_cases p with hnode | hnode | ⟨c, hnode⟩
    · exact hnode
    · exact absurd (FileTree.isDir_iff.2 hnode) hdir
    · rw [FileTree.content_eq_some.2 hnode] at hp
      cases hp

theorem Cleared.node_none (h : Cleared p t t') : t'.node p = none := by
  rw [h p, if_pos (List.prefix_refl p)]

/-- A deletion as a rule: what a crash leaves, and what a complete run leaves. -/
theorem removeTree_rule {ls : Listing} {P : FileTree C → Prop} {Q : Unit → FileTree C → Prop}
    {E : Stop ε → FileTree C → Prop}
    (hE : ∀ t t', P t → t.isDir p = true → Pruned p t t' → E .crash t')
    (hQ : ∀ t t', P t → (if t.isDir p then Cleared p t t' else t' = t) → Q () t') :
    Survives P (removeTree ls p : Prog (FileTree C) ε Unit) Q E :=
  Survives.of_eq fun t ht => (removeTree_spec ls t p).weaken (fun _ h => h)
    (fun _ t' h => hQ t t' ht h) (fun _ t' h => h.1 ▸ hE t t' ht h.2.1 h.2.2)

section Specs

variable [OSErrors ε]

/-- What making the directories on the way to `p` keeps. -/
theorem makeDirs_keeps {I : FileTree C → Prop}
    (h : ∀ q t, q <+: p → t.node q = none → I t → I (t.put q .dir)) :
    Keeps I (makeDirs p : Prog (FileTree C) ε Unit) := by
  refine Keeps.forM fun q hq => Survives.test (Survives.pure fun _ ht => ht.1) ?_
  refine Survives.test (Survives.throwing fun _ ht => ht.1.1) ?_
  refine Survives.atomic (fun _ ht => ht.1.1) fun t ht => ?_
  refine h q t ((List.mem_inits q p).1 hq) ?_ ht.1.1
  simpa [FileTree.exists_] using ht.2

/-- After `makeDirs` the directory is there. -/
theorem makeDirs_dir (p : Path) :
    Survives (fun _ => True) (makeDirs p : Prog (FileTree C) ε Unit)
      (fun _ t => t.isDir p = true) (fun _ _ => True) := by
  have hlast : ∀ (p q : Path), Survives (fun t : FileTree C => t.Parented q)
      (makeDir p q : Prog (FileTree C) ε Unit) (fun _ t => t.isDir q = true) (fun _ _ => True) := by
    intro p q
    refine Survives.test (Survives.pure fun t ht => ht.2) ?_
    refine Survives.test (Survives.throwing fun _ _ => trivial) ?_
    refine Survives.atomic (fun _ _ => trivial) fun t ht => ?_
    have hnone : t.node q = none := by simpa [FileTree.exists_] using ht.2
    rw [FileTree.isDir_iff, FileTree.put_node ht.1.1 (by rw [hnone]; simp), if_pos rfl]
  have hall : ∀ full : Path, Survives (fun _ => True)
      (p.inits.forM (makeDir full) : Prog (FileTree C) ε Unit)
      (fun _ t => t.isDir p = true) (fun _ _ => True) := by
    intro full
    induction p using List.reverseRecOn with
    | nil =>
        refine Survives.bind ((hlast full []).weaken (fun _ _ => .inl rfl) (fun _ _ h => h)
          fun _ _ h => h) fun _ => Survives.pure fun _ h => h
    | append_singleton p x ih =>
        have hinits : (p ++ [x]).inits = p.inits ++ [p ++ [x]] := by simp [List.inits_append]
        rw [hinits, List.forM_eq_forM, List.forM_append, ← List.forM_eq_forM]
        refine Survives.bind ih fun _ => Survives.bind ((hlast full _).weaken
          (fun t ht => .inr ?_) (fun _ _ h => h) fun _ _ h => h) fun _ => Survives.pure fun _ h => h
        rwa [List.dropLast_concat]
  exact hall p

variable {P : FileTree C → Prop} {Q : Unit → FileTree C → Prop} {E : Stop ε → FileTree C → Prop}

/-- A write is one step, where it can be made. -/
theorem writeFile_rule (hE : ∀ e t, P t → E e t)
    (hQ : ∀ t, P t → t.Parented p → t.node p ≠ some .dir → Q () (t.put p (.file c))) :
    Survives P (writeFile p c : Prog (FileTree C) ε Unit) Q E := by
  refine Survives.test (Survives.throwing fun t ht => hE _ t ht.1) ?_
  refine Survives.test (Survives.atomic (fun t ht => hE _ t ht.1.1) fun t ht => ?_)
    (Survives.throwing fun t ht => hE _ t ht.1.1)
  obtain ⟨⟨hP, hdir⟩, hparent⟩ := ht
  refine hQ t hP (of_decide_eq_true hparent) ?_
  rw [Ne, ← FileTree.isDir_iff, hdir]
  simp

/-- After a write the file is there. -/
theorem writeFile_content (p : Path) (c : C) :
    Survives (fun _ => True) (writeFile p c : Prog (FileTree C) ε Unit)
      (fun _ t => t.content p = some c) (fun _ _ => True) :=
  writeFile_rule (fun _ _ _ => trivial) fun t _ hparent hdir => by
    rw [FileTree.content_eq_some, FileTree.put_node hparent hdir, if_pos rfl]

/-- A write below `s` stays within `s`. -/
theorem writeFile_within (t₀ : FileTree C) (h : Below s p) :
    Keeps (Within s t₀) (writeFile p c : Prog (FileTree C) ε Unit) :=
  writeFile_rule (fun _ _ ht => ht) fun _ ht _ _ => ht.trans (within_put h _)

/-- An unlink removes one file. -/
theorem unlink_rule (hE : ∀ e t, P t → (t.node p ≠ some .dir → e = .crash) → E e t)
    (hQ : ∀ t, P t → t.node p ≠ some .dir → Q () (t.remove p)) :
    Survives P (unlink p : Prog (FileTree C) ε Unit) Q E := by
  refine Survives.test (Survives.throwing fun t ht => hE _ t ht.1 fun h => ?_)
    (Survives.atomic (fun t ht => hE _ t ht.1 fun _ => rfl) fun t ht => hQ t ht.1 fun h => ?_)
  · exact absurd (FileTree.isDir_iff.1 ht.2) h
  · rw [← FileTree.isDir_iff, ht.2] at h
    cases h

/-- A move is one rename, where it can be made. -/
theorem move_rule (hE : ∀ e t, P t → (t.Replaceable p q → e = .crash) → E e t)
    (hQ : ∀ t, P t → t.Replaceable p q → Q () (t.replace p q)) :
    Survives P (move p q : Prog (FileTree C) ε Unit) Q E := by
  refine Survives.test (Survives.test (Survives.atomic (fun t ht => hE _ t ht.1.1 fun _ => rfl)
    fun t ht => hQ t ht.1.1 (of_decide_eq_true ht.2)) (Survives.throwing fun t ht =>
      hE _ t ht.1.1 fun h => absurd h (of_decide_eq_false ht.2)))
    (Survives.throwing fun t ht => hE _ t ht.1 fun h => ?_)
  have := h.1
  rw [ht.2] at this
  cases this

/-- Making directories on the way to `s`, or below `s`, stays within `s`. -/
theorem makeDirs_within (t₀ : FileTree C) (h : p <+: s ∨ s <+: p) :
    Keeps (Within s t₀) (makeDirs p : Prog (FileTree C) ε Unit) := by
  refine makeDirs_keeps fun q t hq hnone ht => ht.trans (within_makeDir ?_ hnone)
  rcases h with h | h
  · exact .inl (hq.trans h)
  · exact List.prefix_or_prefix_of_prefix hq h

/-- A copy stays within a directory above the new place. -/
theorem copyTree_within (ls : Listing) (t₀ : FileTree C) (h : Below s q) :
    Keeps (Within s t₀) (copyTree ls p q : Prog (FileTree C) ε Unit) := by
  refine Keeps.test (Keeps.throwing _) (Keeps.bind (makeDirs_within t₀ (.inr h.1)) fun _ => ?_)
  refine Keeps.bind (Keeps.observe _) fun entries => Keeps.forM fun r _ => ?_
  refine Keeps.atomic fun t ht => ht.trans (within_copyEntry ?_)
  exact h.trans_prefix (List.prefix_append q _)

/-- An unlink below `s` stays within `s`. -/
theorem unlink_within (t₀ : FileTree C) (h : Below s p) :
    Keeps (Within s t₀) (unlink p : Prog (FileTree C) ε Unit) :=
  unlink_rule (fun _ _ ht _ => ht) fun _ ht _ => ht.trans (within_remove h)

end Specs

end Files
end AiopsK8s
