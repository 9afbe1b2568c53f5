/-
# A disk with symbolic links

The part of POSIX that `pathlib` asks about a path: `resolve` (`os.path.realpath`), `exists`
and `is_file` (`stat`), `is_symlink` (`lstat`) and `unlink`.  A path whose links are all
followed is *plain* (`walk_plain`): resolving it changes nothing (`walk_of_plain`) and `stat`
finds exactly its entry (`stat_of_plain`).

Python follows a link within a link by a recursive call, so the depth of nesting is bounded by
its recursion limit; a loop of links exceeds every bound.
-/

import AiopsK8s.Lib.FileTree

namespace AiopsK8s
namespace Files

/-- A `PurePosixPath`: the names between the slashes, without the empty ones and `.`. -/
structure PurePath where
  absolute : Bool
  parts : List String
  deriving DecidableEq, Repr

namespace PurePath

/-- `PurePosixPath(text)`. -/
def parse (text : String) : PurePath :=
  { absolute := text.toList.head? == some '/'
    parts := ((text.toList.splitOn '/').map String.ofList).filter fun name =>
      name != "" && name != "." }

/-- `directory / path`. -/
def joined (directory path : PurePath) : PurePath :=
  if path.absolute then path else { directory with parts := directory.parts ++ path.parts }

/-- `path.expanduser()`, where `home` is `os.path.expanduser` of a name that begins with `~`. -/
def expanduser (home : String → Option PurePath) (path : PurePath) : Option PurePath :=
  match path.absolute, path.parts with
  | false, first :: rest =>
    if first.toList.head? = some '~' then
      (home first).map fun directory => { directory with parts := directory.parts ++ rest }
    else some path
  | _, _ => some path

/-- The path has a null character, which no call of the system takes. -/
def hasNull (path : PurePath) : Bool := path.parts.any fun name => name.toList.any (· == '\x00')

end PurePath

/-- What `lstat` finds. -/
inductive Entry where
  | dir
  | file
  | link (target : PurePath)
  /-- A socket, a pipe or a device. -/
  | special
  deriving DecidableEq, Repr

/-- **A disk**: every entry lies in a directory. `denied` are the paths whose `stat` raises an
error that is not about a missing file (no permission, a name that is too long), `held` are
those whose `unlink` raises. -/
structure Disk where
  entry : Path → Option Entry
  denied : Path → Bool
  held : Path → Bool
  root : entry [] = some .dir
  parent : ∀ p name, entry (p ++ [name]) ≠ none → entry p = some .dir
  denied_entry : ∀ p, denied p = true → entry p = none

namespace Disk

variable {disk : Disk} {cur p q : Path} {name : String}

/-- What lies at the end of a path has only directories above it. -/
theorem entry_append (h : disk.entry (p ++ q) ≠ none) (hq : q ≠ []) : disk.entry p = some .dir := by
  induction q using List.reverseRecOn with
  | nil => exact absurd rfl hq
  | append_singleton q name ih =>
      rw [← List.append_assoc] at h
      have hdir := disk.parent _ _ h
      rcases eq_or_ne q [] with rfl | hne
      · simpa using hdir
      · exact ih (by simp [hdir]) hne

theorem parent_of_lookup {entries : List (Path × Entry)}
    (h : ∀ e ∈ entries, e.1 ≠ [] → entries.lookup e.1.dropLast = some .dir) (p : Path)
    (name : String) (hne : entries.lookup (p ++ [name]) ≠ none) : entries.lookup p = some .dir := by
  rw [ne_eq, List.lookup_eq_none_iff] at hne
  push Not at hne
  obtain ⟨e, he, hkey⟩ := hne
  have hpath : p ++ [name] = e.1 := by simpa using hkey
  have hdir := h e he (by simp [← hpath])
  rwa [← hpath, List.dropLast_concat] at hdir

theorem denied_none (entries : List (Path × Entry)) (p : Path) (h : false = true) :
    entries.lookup p = none := by
  cases h

/-- The disk with the listed entries, on which no call fails. -/
def ofEntries (entries : List (Path × Entry)) (hroot : entries.lookup [] = some .dir)
    (hparent : ∀ e ∈ entries, e.1 ≠ [] → entries.lookup e.1.dropLast = some .dir) : Disk :=
  { entry := fun p => entries.lookup p
    denied := fun _ => false
    held := fun _ => false
    root := hroot
    parent := parent_of_lookup hparent
    denied_entry := denied_none entries }

/-! ### Following links -/

/-- The next name of a path after the directory `cur`, where `follow` takes a link from there.
A `strict` walk is the system's own, which needs every name to be there. -/
def enter (disk : Disk) (strict : Bool) (follow : Path → PurePath → Option Path) (cur : Path)
    (name : String) : Option Path :=
  if strict = true ∧ disk.entry cur ≠ some .dir then none
  else if name = ".." then some cur.dropLast
  else match disk.entry (cur ++ [name]) with
    | some (.link target) => follow cur target
    | some _ => some (cur ++ [name])
    | none => if strict then none else some (cur ++ [name])

/-- Where a walk begins. -/
def start (cur : Path) (path : PurePath) : Path := if path.absolute then [] else cur

/-- The path without links from `cur` along `path`, through at most `depth` links within links. -/
def walk (disk : Disk) (strict : Bool) : ℕ → Path → PurePath → Option Path
  | 0, cur, path => path.parts.foldlM (disk.enter strict fun _ _ => none) (start cur path)
  | depth + 1, cur, path =>
    path.parts.foldlM (disk.enter strict (walk disk strict depth)) (start cur path)

/-- `stat(path)`. -/
def stat (disk : Disk) (depth : ℕ) (p : Path) : Option Entry :=
  (disk.walk true depth [] ⟨true, p⟩).bind disk.entry

/-- `path.exists()`, which is `none` when it raises. -/
def exists_ (disk : Disk) (depth : ℕ) (p : Path) : Option Bool :=
  if disk.denied p then none else some (disk.stat depth p).isSome

/-- `path.is_file()`. -/
def isFile (disk : Disk) (depth : ℕ) (p : Path) : Bool := disk.stat depth p = some .file

/-- `path.is_symlink()`. -/
def isSymlink (disk : Disk) (p : Path) : Bool :=
  match disk.entry p with
  | some (.link _) => true
  | _ => false

/-- No name of the path is a link or `..`. -/
def Plain (disk : Disk) (p : Path) : Prop :=
  ".." ∉ p ∧ ∀ q target, q <+: p → disk.entry q ≠ some (.link target)

theorem plain_nil : disk.Plain [] := by
  refine ⟨List.not_mem_nil, fun q target hq => ?_⟩
  rw [List.prefix_nil.1 hq, disk.root]
  nofun

theorem Plain.dropLast (h : disk.Plain p) : disk.Plain p.dropLast :=
  ⟨fun hmem => h.1 (List.mem_of_mem_dropLast hmem),
    fun q target hq => h.2 q target (hq.trans (List.dropLast_prefix p))⟩

theorem Plain.concat (h : disk.Plain p) (hname : name ≠ "..")
    (hentry : ∀ target, disk.entry (p ++ [name]) ≠ some (.link target)) :
    disk.Plain (p ++ [name]) := by
  refine ⟨by simp [h.1, hname.symm], fun q target hq => ?_⟩
  rcases List.prefix_concat_iff.1 hq with rfl | hq
  · exact hentry target
  · exact h.2 q target hq

/-- One name keeps a path plain when the links do. -/
theorem enter_plain {strict : Bool} {follow : Path → PurePath → Option Path}
    (hfollow : ∀ cur target, disk.Plain cur → follow cur target = some q → disk.Plain q)
    (hcur : disk.Plain cur) (h : disk.enter strict follow cur name = some q) : disk.Plain q := by
  unfold enter at h
  split at h
  · cases h
  split at h
  · cases h
    exact hcur.dropLast
  next hname =>
    split at h
    next target _ => exact hfollow _ _ hcur h
    next entry hlink hentry =>
      cases h
      exact hcur.concat hname fun target heq => hlink target (Option.some.inj (hentry.symm.trans heq))
    next hentry =>
      split at h
      · cases h
      · cases h
        exact hcur.concat hname (by simp [hentry])

theorem foldlM_plain {strict : Bool} {follow : Path → PurePath → Option Path}
    (hfollow : ∀ cur target q, disk.Plain cur → follow cur target = some q → disk.Plain q)
    {parts : List String} (hcur : disk.Plain cur)
    (h : parts.foldlM (disk.enter strict follow) cur = some q) : disk.Plain q := by
  induction parts generalizing cur with
  | nil =>
      cases h
      exact hcur
  | cons name parts ih =>
      rw [List.foldlM_cons] at h
      obtain ⟨next, hnext, hrest⟩ := Option.bind_eq_some_iff.1 h
      exact ih (enter_plain (fun _ _ => hfollow _ _ _) hcur hnext) hrest

theorem start_plain {path : PurePath} (h : disk.Plain cur) : disk.Plain (start cur path) := by
  unfold start
  split
  · exact plain_nil
  · exact h

/-- **A resolved path is plain.** -/
theorem walk_plain {strict : Bool} {depth : ℕ} {path : PurePath} (hcur : disk.Plain cur)
    (h : disk.walk strict depth cur path = some q) : disk.Plain q := by
  induction depth generalizing cur path q with
  | zero => exact foldlM_plain (fun _ _ _ _ hnone => by cases hnone) (start_plain hcur) h
  | succ depth ih => exact foldlM_plain (fun _ _ _ => ih) (start_plain hcur) h

/-- The names of a plain path are taken as they are. -/
theorem foldlM_of_plain {follow : Path → PurePath → Option Path} (cur : Path)
    {parts : List String} (h : disk.Plain (cur ++ parts)) :
    parts.foldlM (disk.enter false follow) cur = some (cur ++ parts) := by
  induction parts generalizing cur with
  | nil => simp
  | cons name parts ih =>
      have hpath : cur ++ name :: parts = (cur ++ [name]) ++ parts := by simp
      rw [hpath] at h ⊢
      have hname : name ≠ ".." := fun heq => h.1 (by simp [heq])
      have hlink := fun target => h.2 _ target (List.prefix_append (cur ++ [name]) parts)
      have henter : disk.enter false follow cur name = some (cur ++ [name]) := by
        rw [enter, if_neg (by simp), if_neg hname]
        split
        next target hentry => exact absurd hentry (hlink target)
        next => rfl
        next => rfl
      rw [List.foldlM_cons, henter]
      exact ih (cur ++ [name]) h

/-- Resolving a plain path changes nothing. -/
theorem walk_of_plain (h : disk.Plain p) (depth : ℕ) (cur : Path) :
    disk.walk false depth cur ⟨true, p⟩ = some p := by
  cases depth <;> exact foldlM_of_plain [] h

theorem foldlM_strict_of_plain {follow : Path → PurePath → Option Path} (cur : Path)
    {parts : List String} (h : disk.Plain (cur ++ parts)) :
    (parts.foldlM (disk.enter true follow) cur).bind disk.entry = disk.entry (cur ++ parts) := by
  induction parts generalizing cur with
  | nil => simp
  | cons name parts ih =>
      have hpath : cur ++ name :: parts = (cur ++ [name]) ++ parts := by simp
      have hname : name ≠ ".." := fun heq => h.1 (by simp [heq])
      rw [List.foldlM_cons]
      by_cases hdir : disk.entry cur = some .dir
      · have hlink := fun target =>
          h.2 (cur ++ [name]) target (hpath ▸ List.prefix_append (cur ++ [name]) parts)
        rcases hentry : disk.entry (cur ++ [name]) with _ | entry
        · have henter : disk.enter true follow cur name = none := by
            simp [enter, hdir, hname, hentry]
          have hnone : disk.entry (cur ++ name :: parts) = none := by
            by_contra hne
            rw [hpath] at hne
            rcases eq_or_ne parts [] with rfl | hparts
            · exact hne (by simpa using hentry)
            · exact absurd (entry_append hne hparts) (by simp [hentry])
          rw [henter, hnone]
          rfl
        · have henter : disk.enter true follow cur name = some (cur ++ [name]) := by
            rw [enter, if_neg (by simp [hdir]), if_neg hname, hentry]
            cases entry with
            | link target => exact absurd hentry (hlink target)
            | _ => rfl
          rw [henter, hpath]
          exact ih (cur ++ [name]) (hpath ▸ h)
      · have henter : disk.enter true follow cur name = none := by simp [enter, hdir]
        have hnone : disk.entry (cur ++ name :: parts) = none := by
          by_contra hne
          exact hdir (entry_append hne (by simp))
        rw [henter, hnone]
        rfl

/-- `stat` of a plain path is `lstat`. -/
theorem stat_of_plain (h : disk.Plain p) (depth : ℕ) : disk.stat depth p = disk.entry p := by
  cases depth <;> exact foldlM_strict_of_plain [] h

/-- A plain path is not a link. -/
theorem Plain.isSymlink (h : disk.Plain p) : disk.isSymlink p = false := by
  unfold Disk.isSymlink
  split
  next target hentry => exact absurd hentry (h.2 p target (List.prefix_refl p))
  next => rfl

/-! ### Removing a file -/

/-- The entries without the one at `p`. -/
def entryWithout (disk : Disk) (p q : Path) : Option Entry := if q = p then none else disk.entry q

theorem entryWithout_root (h : disk.entry p ≠ some .dir) : disk.entryWithout p [] = some .dir := by
  rw [entryWithout, if_neg, disk.root]
  rintro rfl
  exact h disk.root

theorem entryWithout_parent (h : disk.entry p ≠ some .dir) (q : Path) (name : String)
    (hne : disk.entryWithout p (q ++ [name]) ≠ none) : disk.entryWithout p q = some .dir := by
  have hdir : disk.entry q = some .dir := by
    refine disk.parent q name fun hnone => hne ?_
    rw [entryWithout]
    split
    · rfl
    · exact hnone
  rw [entryWithout, if_neg, hdir]
  rintro rfl
  exact h hdir

theorem entryWithout_denied (p q : Path) (h : disk.denied q = true) :
    disk.entryWithout p q = none := by
  rw [entryWithout, disk.denied_entry q h, ite_self]

/-- The disk without the entry at `p`. -/
def erase (disk : Disk) (p : Path) (h : disk.entry p ≠ some .dir) : Disk :=
  { disk with
    entry := disk.entryWithout p
    root := entryWithout_root h
    parent := entryWithout_parent h
    denied_entry := entryWithout_denied p }

/-- `path.unlink()`, which is `none` when it raises. -/
def unlink (disk : Disk) (p : Path) : Option Disk :=
  if disk.entry p = none ∨ disk.held p = true then none
  else if h : disk.entry p = some .dir then none
  else some (disk.erase p h)

theorem unlink_eq_some {after : Disk} (h : disk.unlink p = some after) :
    disk.entry p ≠ none ∧ disk.held p = false ∧ after.denied = disk.denied ∧
      after.held = disk.held ∧ ∀ q, after.entry q = if q = p then none else disk.entry q := by
  unfold unlink at h
  split at h
  · cases h
  next hfree =>
    split at h
    · cases h
    · cases h
      rw [not_or, Bool.not_eq_true] at hfree
      exact ⟨hfree.1, hfree.2, rfl, rfl, fun _ => rfl⟩

/-- A file that nothing holds can be unlinked. -/
theorem exists_unlink (h : disk.entry p = some .file) (hheld : disk.held p = false) :
    ∃ after, disk.unlink p = some after := by
  rw [unlink, if_neg (by simp [h, hheld]), dif_neg (by simp [h])]
  exact ⟨_, rfl⟩

end Disk

end Files
end AiopsK8s
