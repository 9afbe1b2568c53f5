/-
# File trees

A `FileTree` is the part of a file system below one directory: which paths hold a
directory or a file, and what the files contain.  Every entry lies in a directory
(`rooted`), so a tree with an orphaned file cannot be built; an operation that
would orphan one (`rmdir` of a directory that is not empty, a file in place of a
directory) leaves the tree alone, and the programs over trees raise there.

The lemmas `*_node` give each operation path by path.  The order in which a
directory is listed is the operating system's choice: a `Listing` is any such
order that names a directory before its entries.
-/

import Mathlib.Data.List.Sort
import Mathlib.Data.List.Infix
import Mathlib.Data.List.Dedup

namespace AiopsK8s
namespace Files

/-- A path: the names from the root of the tree down. -/
abbrev Path := List String

/-- What a path holds. -/
inductive Node (C : Type) where
  | dir
  | file (content : C)
  deriving DecidableEq, Repr

/-- **A file tree**: every entry lies in a directory. -/
structure FileTree (C : Type) where
  node : Path → Option (Node C)
  paths : List Path
  listed : ∀ p, node p ≠ none → p ∈ paths
  rooted : ∀ p, p ≠ [] → node p ≠ none → node p.dropLast = some .dir

/-- `q` lies in the tree below `p`, and is not `p`. -/
def Below (p q : Path) : Prop := p <+: q ∧ p ≠ q

instance (p q : Path) : Decidable (Below p q) := inferInstanceAs (Decidable (_ ∧ _))

theorem Below.length_lt {p q : Path} (h : Below p q) : p.length < q.length := by
  refine lt_of_le_of_ne h.1.length_le fun hlen => h.2 ?_
  exact h.1.eq_of_length hlen

theorem prefix_dropLast {p q : Path} (h : p <+: q) (hne : p ≠ q) : p <+: q.dropLast := by
  obtain ⟨s, rfl⟩ := h
  have hs : s ≠ [] := fun hs => hne (by simp [hs])
  rw [List.dropLast_append_of_ne_nil hs]
  exact List.prefix_append p _

theorem dropLast_ne_self {p : Path} (hp : p ≠ []) : p.dropLast ≠ p := by
  intro h
  have hlen := congrArg List.length h
  have hpos := List.length_pos_iff.2 hp
  rw [List.length_dropLast] at hlen
  omega

namespace FileTree

variable {C : Type} {t : FileTree C} {p q r : Path} {c : C}

/-- The tree without any entry. -/
def empty : FileTree C := ⟨fun _ => none, [], fun _ h => absurd rfl h, fun _ _ h => absurd rfl h⟩

/-- `path.exists()`. -/
def exists_ (t : FileTree C) (p : Path) : Bool := (t.node p).isSome

/-- `path.is_dir()`. -/
def isDir (t : FileTree C) (p : Path) : Bool :=
  match t.node p with
  | some .dir => true
  | _ => false

/-- The content of a file. -/
def content (t : FileTree C) (p : Path) : Option C :=
  match t.node p with
  | some (.file c) => some c
  | _ => none

/-- `path.is_file()`. -/
def isFile (t : FileTree C) (p : Path) : Bool := (t.content p).isSome

theorem isDir_iff : t.isDir p = true ↔ t.node p = some .dir := by
  unfold isDir
  split <;> simp_all

theorem content_eq_some : t.content p = some c ↔ t.node p = some (.file c) := by
  unfold content
  split <;> simp_all

theorem isFile_iff : t.isFile p = true ↔ ∃ c, t.node p = some (.file c) := by
  simp only [isFile, Option.isSome_iff_exists, content_eq_some]

theorem exists_iff : t.exists_ p = true ↔ t.node p ≠ none := by
  simp [exists_, Option.isSome_iff_ne_none]

/-- A path is absent, a directory or a file. -/
theorem node_cases (t : FileTree C) (p : Path) :
    t.node p = none ∨ t.node p = some .dir ∨ ∃ c, t.node p = some (.file c) := by
  rcases t.node p with _ | _ | c
  · exact .inl rfl
  · exact .inr (.inl rfl)
  · exact .inr (.inr ⟨c, rfl⟩)

/-- **Every directory above an entry is there.** -/
theorem dir_of_below (t : FileTree C) (h : Below p q) (hq : t.node q ≠ none) :
    t.node p = some .dir := by
  obtain ⟨⟨s, rfl⟩, hne⟩ := h
  induction s using List.reverseRecOn with
  | nil => exact absurd (List.append_nil p).symm hne
  | append_singleton s x ih =>
      have hparent : t.node (p ++ s) = some .dir := by
        have h := t.rooted (p ++ (s ++ [x])) (by simp) hq
        rwa [← List.append_assoc, List.dropLast_concat] at h
      rcases s with _ | ⟨y, s⟩
      · simpa using hparent
      · exact ih (by rw [hparent]; simp) (by simp)

theorem node_of_absent (h : t.node p = none) (hq : p <+: q) : t.node q = none := by
  by_contra hne
  rcases eq_or_ne p q with rfl | hpq
  · exact hne h
  · rw [t.dir_of_below ⟨hq, hpq⟩ hne] at h
    cases h

/-- The entries of a directory. -/
def children (t : FileTree C) (p : Path) : List Path :=
  (t.paths.filter fun q => q ≠ [] ∧ q.dropLast = p ∧ t.exists_ q).dedup

/-- Everything in the tree below a path. -/
def below (t : FileTree C) (p : Path) : List Path :=
  (t.paths.filter fun q => Below p q ∧ t.exists_ q).dedup

theorem mem_children : q ∈ t.children p ↔ q ≠ [] ∧ q.dropLast = p ∧ t.node q ≠ none := by
  have := t.listed q
  simp only [children, List.mem_dedup, List.mem_filter, decide_eq_true_eq, exists_iff]
  tauto

theorem mem_below : q ∈ t.below p ↔ Below p q ∧ t.node q ≠ none := by
  have := t.listed q
  simp only [below, List.mem_dedup, List.mem_filter, decide_eq_true_eq, exists_iff]
  tauto

/-- The directory of an entry is there; the root has none. -/
def Parented (t : FileTree C) (p : Path) : Prop := p = [] ∨ t.isDir p.dropLast = true

instance (t : FileTree C) (p : Path) : Decidable (t.Parented p) := inferInstanceAs (Decidable (_ ∨ _))

/-- Put a file or a directory where there is no directory. -/
def put (t : FileTree C) (p : Path) (n : Node C) : FileTree C :=
  if h : t.Parented p ∧ t.isDir p = false then
    { node := fun r => if r = p then some n else t.node r
      paths := p :: t.paths
      listed := by
        intro r hr
        by_cases hrp : r = p
        · simp [hrp]
        · rw [if_neg hrp] at hr
          exact List.mem_cons_of_mem _ (t.listed r hr)
      rooted := by
        intro r hr hne
        have hparent : t.node r.dropLast = some .dir := by
          by_cases hrp : r = p
          · subst hrp
            exact isDir_iff.1 (h.1.resolve_left hr)
          · rw [if_neg hrp] at hne
            exact t.rooted r hr hne
        have hother : r.dropLast ≠ p := by
          intro heq
          rw [heq, ← isDir_iff, h.2] at hparent
          cases hparent
        rw [if_neg hother]
        exact hparent }
  else t

theorem put_node (h : t.Parented p) (hd : t.node p ≠ some .dir) (n : Node C) :
    (t.put p n).node r = if r = p then some n else t.node r := by
  have hdir : t.isDir p = false := by rw [Bool.eq_false_iff, Ne, isDir_iff]; exact hd
  rw [put, dif_pos ⟨h, hdir⟩]

/-- Putting touches one path only. -/
theorem put_node_ne (h : r ≠ p) (n : Node C) : (t.put p n).node r = t.node r := by
  unfold put
  split
  · exact if_neg h
  · rfl

/-- `unlink`, and `rmdir` of an empty directory. -/
def remove (t : FileTree C) (p : Path) : FileTree C :=
  if h : t.children p = [] then
    { node := fun r => if r = p then none else t.node r
      paths := t.paths
      listed := by
        intro r hr
        by_cases hrp : r = p
        · simp [hrp] at hr
        · rw [if_neg hrp] at hr
          exact t.listed r hr
      rooted := by
        intro r hr hne
        by_cases hrp : r = p
        · simp [hrp] at hne
        · rw [if_neg hrp] at hne
          have hchild : r.dropLast ≠ p := by
            intro heq
            have hmem : r ∈ t.children p := mem_children.2 ⟨hr, heq, hne⟩
            rw [h] at hmem
            cases hmem
          rw [if_neg hchild]
          exact t.rooted r hr hne }
  else t

theorem remove_node (h : ∀ q, q ≠ [] → q.dropLast = p → t.node q = none) :
    (t.remove p).node r = if r = p then none else t.node r := by
  have hnil : t.children p = [] := by
    rw [List.eq_nil_iff_forall_not_mem]
    intro q hq
    obtain ⟨hne, hparent, hnode⟩ := mem_children.1 hq
    exact hnode (h q hne hparent)
  rw [remove, dif_pos hnil]

/-- A file has no entries below it. -/
theorem remove_file_node (h : t.node p ≠ some .dir) :
    (t.remove p).node r = if r = p then none else t.node r := by
  refine remove_node fun q hq hparent => ?_
  by_contra hne
  exact h (hparent ▸ t.rooted q hq hne)

/-- Removing touches one path only. -/
theorem remove_node_ne (h : r ≠ p) : (t.remove p).node r = t.node r := by
  unfold remove
  split
  · exact if_neg h
  · rfl

/-- `os.replace` takes effect: there is something to move, its new place has a
directory and is not part of it, and nothing but a file (for a file) or an empty
directory (for a directory) is there. -/
def Replaceable (t : FileTree C) (p q : Path) : Prop :=
  t.exists_ p = true ∧ q ≠ [] ∧ t.isDir q.dropLast = true ∧ ¬p <+: q ∧ ¬q <+: p ∧
    (t.exists_ q = false ∨ (t.isFile p = true ∧ t.isFile q = true) ∨
      (t.isDir p = true ∧ t.isDir q = true ∧ t.children q = []))

instance (t : FileTree C) (p q : Path) : Decidable (t.Replaceable p q) :=
  inferInstanceAs (Decidable (_ ∧ _))

/-- `os.replace`: a rename in one step. -/
def replace (t : FileTree C) (p q : Path) : FileTree C :=
  if h : t.Replaceable p q then
    { node := fun r =>
        if q <+: r then t.node (p ++ r.drop q.length) else if p <+: r then none else t.node r
      paths := t.paths ++ (t.paths.filter (p <+: ·)).map fun r => q ++ r.drop p.length
      listed := by
        intro r hr
        by_cases hqr : q <+: r
        · rw [if_pos hqr] at hr
          obtain ⟨s, rfl⟩ := hqr
          rw [List.drop_left] at hr
          refine List.mem_append_right _ (List.mem_map.2 ⟨p ++ s, ?_, by simp⟩)
          simpa using t.listed _ hr
        · rw [if_neg hqr] at hr
          by_cases hpr : p <+: r
          · simp [hpr] at hr
          · rw [if_neg hpr] at hr
            exact List.mem_append_left _ (t.listed r hr)
      rooted := by
        obtain ⟨-, hq, hparent, hpq, hqp, -⟩ := h
        intro r hr hne
        by_cases hqr : q <+: r
        · rw [if_pos hqr] at hne
          rcases eq_or_ne q r with rfl | hqne
          · have hnq : ¬q <+: q.dropLast := fun h' => by
              have hlen := h'.length_le
              have hpos := List.length_pos_iff.2 hq
              rw [List.length_dropLast] at hlen
              omega
            have hnp : ¬p <+: q.dropLast := fun h' => hpq (h'.trans (List.dropLast_prefix q))
            rw [if_neg hnq, if_neg hnp]
            exact isDir_iff.1 hparent
          · rw [if_pos (prefix_dropLast hqr hqne)]
            obtain ⟨s, rfl⟩ := hqr
            have hs : s ≠ [] := fun hs => hqne (by simp [hs])
            rw [List.drop_left] at hne
            rw [List.dropLast_append_of_ne_nil hs, List.drop_left,
              ← List.dropLast_append_of_ne_nil hs]
            exact t.rooted _ (by simp [hs]) hne
        · rw [if_neg hqr] at hne
          by_cases hpr : p <+: r
          · simp [hpr] at hne
          · rw [if_neg hpr] at hne
            have hqd : ¬q <+: r.dropLast := fun h' => hqr (h'.trans (List.dropLast_prefix r))
            have hpd : ¬p <+: r.dropLast := fun h' => hpr (h'.trans (List.dropLast_prefix r))
            rw [if_neg hqd, if_neg hpd]
            exact t.rooted r hr hne }
  else t

theorem replace_node (h : t.Replaceable p q) :
    (t.replace p q).node r =
      if q <+: r then t.node (p ++ r.drop q.length) else if p <+: r then none else t.node r := by
  rw [replace, dif_pos h]

end FileTree

/-- **An order in which a directory is listed**: any order of the entries that
names a directory before what is in it. -/
structure Listing where
  order : List Path → List Path
  perm : ∀ l, (order l).Perm l
  parentsFirst : ∀ l, (order l).Pairwise fun p q => ¬Below q p

/-- Shorter paths first. -/
def Listing.byLength : Listing where
  order l := l.insertionSort fun p q => p.length ≤ q.length
  perm l := List.perm_insertionSort _ l
  parentsFirst l := by
    have h := List.pairwise_insertionSort (fun p q : Path => p.length ≤ q.length) l
    refine h.imp fun hle hbelow => ?_
    have := hbelow.length_lt
    omega

end Files
end AiopsK8s
