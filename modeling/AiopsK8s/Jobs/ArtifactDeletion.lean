/-
# Deleting an experiment

`api_delete_experiment` of `control_plane_web.py`: the artifacts a job's result lists are
resolved (`_experiment_artifact_paths`), then checked and unlinked one after the other, and the
job's row goes last.  The deletion of many experiments checks every path before it removes one
(`bulkRemove_rejected`); this one does not, so a list that names a file before a directory loses
the file (`deletes_all_or_nothing_iff`).
-/

import AiopsK8s.Jobs.Store
import AiopsK8s.Lib.Disk
import AiopsK8s.Lib.Effect
import AiopsK8s.Lib.JsonText
import AiopsK8s.Lib.Text

namespace AiopsK8s
namespace Jobs

open Effect
open Experiment (Fields)
open Files (Disk Entry Path PurePath)

/-! ### The paths of a job -/

/-- What `_experiment_artifact_paths` raises. -/
inductive PathError where
  /-- A `ValueError`. -/
  | value (message : String)
  /-- A `RuntimeError`: no home directory, or a loop of links. -/
  | runtime
  deriving DecidableEq, Repr

/-- What the handler reads besides the job: the configured directories, which are absolute
(`project_root` may raise), the home directories, and how many links within links Python
follows. -/
structure ArtifactSetting where
  experimentArtifactRoot : Path
  projectRoot : Option Path
  home : String → Option PurePath
  depth : ℕ

/-- The text of an artifact that is not blank. -/
def artifactText : Json → Option String
  | .str text => if Text.isBlank text then none else some (Text.strip text)
  | _ => none

/-- The artifacts that the report of one attempt names. -/
def attemptCandidates : Json → List String
  | .obj attempt =>
    match Json.getD attempt "report" (.obj []) with
    | .obj report =>
      match Json.getD report "artifacts" (.obj []) with
      | .obj artifacts => artifacts.filterMap fun artifact => artifactText artifact.2
      | _ => []
    | _ => []
  | _ => []

/-- The `candidates` of a result, when its attempts are a list. -/
def artifactCandidates (result : Fields) : Option (List String) :=
  match Json.getD result "attempts" (.arr []) with
  | .arr attempts => some (attempts.flatMap attemptCandidates)
  | _ => none

namespace ArtifactSetting

variable (setting : ArtifactSetting)

/-- `path.resolve()` of an absolute path. -/
def resolve (disk : Disk) (path : PurePath) : Except PathError Path :=
  if path.hasNull then .error (.value "embedded null byte")
  else match disk.walk false setting.depth [] path with
    | some resolved => .ok resolved
    | none => .error .runtime

/-- `path.expanduser()`. -/
def expanduser (path : PurePath) : Except PathError PurePath :=
  match path.expanduser setting.home with
  | some expanded => .ok expanded
  | none => .error .runtime

/-- `project_root()`. -/
def projectRootPath : Except PathError PurePath :=
  match setting.projectRoot with
  | some root => .ok ⟨true, root⟩
  | none => .error .runtime

/-- The body of the loop over the candidates. -/
def artifactPath (disk : Disk) (allowedRoot repoRoot : Path) (candidate : String) :
    Except PathError Path := do
  let raw ← setting.expanduser (PurePath.parse candidate)
  let path ← setting.resolve disk (PurePath.joined ⟨true, repoRoot⟩ raw)
  rejectIf (¬allowedRoot <+: path) (.value "experiment artifact is outside the allowed root")
  return path

/-- One round of the loop, which keeps a path once. -/
def addPath (disk : Disk) (allowedRoot repoRoot : Path) (paths : List Path) (candidate : String) :
    Except PathError (List Path) := do
  let path ← setting.artifactPath disk allowedRoot repoRoot candidate
  return if path ∈ paths then paths else paths ++ [path]

/-- `_experiment_artifact_paths`. -/
def experimentArtifactPaths (disk : Disk) (job : ExperimentJob) : Except PathError (List Path) :=
  match job.result.bind artifactCandidates with
  | none => .ok []
  | some candidates => do
    let allowedRoot ← setting.resolve disk ⟨true, setting.experimentArtifactRoot⟩
    let projectRoot ← setting.projectRootPath
    let repoRoot ← setting.resolve disk projectRoot
    candidates.foldlM (setting.addPath disk allowedRoot repoRoot) []

end ArtifactSetting

/-! ### The handler -/

/-- The errors of `api_delete_experiment`. -/
inductive DeleteError where
  | notFound
  | notTerminal
  | invalidPath (message : String)
  | notAFile
  | notDeleted
  /-- An exception the handler does not convert. -/
  | unhandled
  deriving DecidableEq, Repr

namespace DeleteError

/-- The status code. -/
def statusCode : DeleteError → ℕ
  | notFound => 404
  | unhandled => 500
  | _ => 409

/-- The `detail` of the answer. -/
def detail : DeleteError → String
  | notFound => "experiment not found"
  | notTerminal => "experiment is not terminal"
  | invalidPath message => message
  | notAFile => "experiment artifact is not a file"
  | notDeleted => "experiment artifact could not be deleted"
  | unhandled => "Internal Server Error"

end DeleteError

/-- What a call of the handler leaves: its answer (`artifacts_deleted`, when it succeeds), the
disk and the tables. -/
structure Deletion where
  answer : Except DeleteError ℕ
  disk : Disk
  store : Store

namespace ArtifactSetting

variable (setting : ArtifactSetting)

/-- The loop over the artifacts. -/
def removeArtifacts : Disk → ℕ → List Path → Except DeleteError ℕ × Disk
  | disk, deletedCount, [] => (.ok deletedCount, disk)
  | disk, deletedCount, path :: rest =>
    match disk.exists_ setting.depth path with
    | none => (.error .unhandled, disk)
    | some present =>
      if !present && !disk.isSymlink path then removeArtifacts disk deletedCount rest
      else if !disk.isFile setting.depth path && !disk.isSymlink path then (.error .notAFile, disk)
      else match disk.unlink path with
        | none => (.error .notDeleted, disk)
        | some after => removeArtifacts after (deletedCount + 1) rest

/-- `job_store.delete`, with the answers the handler makes of its exceptions. -/
def deleteRow (store : Store) : Except DeleteError Store :=
  match store.row with
  | none => .error .notFound
  | some row => if row.status.terminal then .ok store.delete else .error .notTerminal

/-- The deletion of a terminal job. -/
def deleteTerminal (disk : Disk) (store : Store) (job : ExperimentJob) : Deletion :=
  match setting.experimentArtifactPaths disk job with
  | .error (.value message) => ⟨.error (.invalidPath message), disk, store⟩
  | .error .runtime => ⟨.error .unhandled, disk, store⟩
  | .ok artifacts =>
    match setting.removeArtifacts disk 0 artifacts with
    | (.error error, after) => ⟨.error error, after, store⟩
    | (.ok deletedCount, after) =>
      match deleteRow store with
      | .error error => ⟨.error error, after, store⟩
      | .ok deleted => ⟨.ok deletedCount, after, deleted⟩

/-- `api_delete_experiment`. -/
def deleteExperiment (disk : Disk) (store : Store) : Deletion :=
  match store.row with
  | none => ⟨.error .notFound, disk, store⟩
  | some job =>
    if job.status.terminal then setting.deleteTerminal disk store job
    else ⟨.error .notTerminal, disk, store⟩

/-! ### What a deletion promises -/

/-- The path resolves under `experiment_artifact_root`. -/
def ResolvesUnder (disk : Disk) (p : Path) : Prop :=
  ∃ root resolved, disk.walk false setting.depth [] ⟨true, setting.experimentArtifactRoot⟩ = some root ∧
    disk.walk false setting.depth [] ⟨true, p⟩ = some resolved ∧ root <+: resolved

/-- **All or nothing**: only files and links under the root go; an answer with an error, unless an
`unlink` failed, has removed nothing and kept the row; a success has removed every artifact and
the row. -/
structure AllOrNothing (disk : Disk) (store : Store) (job : ExperimentJob) (d : Deletion) : Prop where
  only : ∀ p, d.disk.entry p ≠ disk.entry p → setting.ResolvesUnder disk p ∧
    (disk.isFile setting.depth p = true ∨ disk.isSymlink p = true) ∧ d.disk.entry p = none
  nothing : ∀ e, d.answer = .error e → e ≠ .notDeleted →
    d.disk.entry = disk.entry ∧ d.store.row = store.row
  all : ∀ n, d.answer = .ok n → d.store.row = none ∧
    ∃ artifacts, setting.experimentArtifactPaths disk job = .ok artifacts ∧
      ∀ p ∈ artifacts, d.disk.entry p = none

end ArtifactSetting

/-- The handler stops at the path: it is a directory, a device, or nothing may ask about it. -/
def Blocks (disk : Disk) (p : Path) : Prop :=
  disk.denied p = true ∨ disk.entry p = some .dir ∨ disk.entry p = some .special

/-- The handler gets past the path: nothing is there, or a file that can be unlinked. -/
def Yields (disk : Disk) (p : Path) : Prop :=
  disk.denied p = false ∧
    (disk.entry p = none ∨ disk.entry p = some .file ∧ disk.held p = false)

/-- Among the artifacts, a file that can be unlinked comes before the first path the handler stops
at. -/
def Interleaved (disk : Disk) (artifacts : List Path) : Prop :=
  ∃ before p after, artifacts = before ++ p :: after ∧ Blocks disk p ∧
    (∀ q ∈ before, Yields disk q) ∧ ∃ q ∈ before, disk.entry q = some .file

/-! ### The loop -/

/-- The disk `after` is `disk` without the entries at `ps`. -/
structure Cleared (disk : Disk) (ps : List Path) (after : Disk) : Prop where
  denied : after.denied = disk.denied
  held : after.held = disk.held
  entry : ∀ q, after.entry q = if q ∈ ps then none else disk.entry q

namespace Cleared

variable {disk after last : Disk} {ps qs : List Path} {q : Path}

theorem nil : Cleared disk [] disk := ⟨rfl, rfl, fun q => by simp⟩

theorem trans (h : Cleared disk ps after) (h' : Cleared after qs last) :
    Cleared disk (ps ++ qs) last := by
  refine ⟨h'.denied.trans h.denied, h'.held.trans h.held, fun q => ?_⟩
  rw [h'.entry, h.entry]
  by_cases hps : q ∈ ps <;> by_cases hqs : q ∈ qs <;> simp [hps, hqs]

theorem entry_of_notMem (h : Cleared disk ps after) (hq : q ∉ ps) :
    after.entry q = disk.entry q := by
  rw [h.entry, if_neg hq]

/-- Removing entries adds no link. -/
theorem plain (h : Cleared disk ps after) (hplain : disk.Plain q) : after.Plain q := by
  refine ⟨hplain.1, fun r target hr => ?_⟩
  rw [h.entry]
  split
  · nofun
  · exact hplain.2 r target hr

theorem yields (h : Cleared disk ps after) (hq : q ∉ ps) (hyields : Yields disk q) :
    Yields after q := by
  rw [Yields, h.denied, h.held, h.entry_of_notMem hq]
  exact hyields

theorem blocks (h : Cleared disk ps after) (hq : q ∉ ps) (hblocks : Blocks disk q) :
    Blocks after q := by
  rw [Blocks, h.denied, h.entry_of_notMem hq]
  exact hblocks

end Cleared

section Loop

variable (setting : ArtifactSetting) {disk : Disk} {p : Path} {before : List Path}

/-- One round of the loop at a resolved path. -/
theorem removeArtifacts_cons {n : ℕ} {rest : List Path} (hplain : disk.Plain p) :
    setting.removeArtifacts disk n (p :: rest) =
      if disk.denied p = true then (.error .unhandled, disk)
      else match disk.entry p with
        | none => setting.removeArtifacts disk n rest
        | some .file => match disk.unlink p with
          | none => (.error .notDeleted, disk)
          | some after => setting.removeArtifacts after (n + 1) rest
        | some _ => (.error .notAFile, disk) := by
  rw [ArtifactSetting.removeArtifacts, Disk.exists_, Disk.isFile, hplain.isSymlink,
    Disk.stat_of_plain hplain]
  by_cases hdenied : disk.denied p = true
  · simp [hdenied]
  · rcases hentry : disk.entry p with _ | _ | _ | _ | _ <;> simp [hdenied]

/-- The loop gets past a path that yields, and nothing is there any more. -/
theorem removeArtifacts_yields (n : ℕ) (rest : List Path) (hplain : disk.Plain p) (h : Yields disk p) :
    ∃ after m, setting.removeArtifacts disk n (p :: rest) = setting.removeArtifacts after m rest ∧
      Cleared disk [p] after := by
  rw [removeArtifacts_cons setting hplain, if_neg (by simp [h.1])]
  obtain hnone | ⟨hfile, hheld⟩ := h.2
  · refine ⟨disk, n, by rw [hnone], rfl, rfl, fun q => ?_⟩
    by_cases hq : q = p
    · simp [hq, hnone]
    · simp [hq]
  · obtain ⟨after, hunlink⟩ := Disk.exists_unlink hfile hheld
    obtain ⟨-, -, hdenied, hhelds, hentry⟩ := Disk.unlink_eq_some hunlink
    refine ⟨after, n + 1, by rw [hfile, hunlink], hdenied, hhelds, fun q => ?_⟩
    simpa using hentry q

/-- **The loop runs through paths that yield**: afterwards nothing is at any of them. -/
theorem removeArtifacts_append (n : ℕ) (rest : List Path)
    (hplain : ∀ q ∈ before, disk.Plain q) (hnodup : before.Nodup)
    (hyields : ∀ q ∈ before, Yields disk q) :
    ∃ after m, setting.removeArtifacts disk n (before ++ rest) =
      setting.removeArtifacts after m rest ∧ Cleared disk before after := by
  induction before generalizing disk n with
  | nil => exact ⟨disk, n, rfl, .nil⟩
  | cons p before ih =>
      obtain ⟨hp, hbefore⟩ := List.nodup_cons.1 hnodup
      obtain ⟨next, k, hstep, hnext⟩ := removeArtifacts_yields setting n (before ++ rest)
        (hplain p List.mem_cons_self) (hyields p List.mem_cons_self)
      have hne : ∀ q ∈ before, q ∉ [p] := by
        rintro q hq hmem
        rw [List.mem_singleton.1 hmem] at hq
        exact hp hq
      obtain ⟨after, m, hrun, hafter⟩ := ih k
        (fun q hq => hnext.plain (hplain q (List.mem_cons_of_mem p hq))) hbefore
        (fun q hq => hnext.yields (hne q hq) (hyields q (List.mem_cons_of_mem p hq)))
      exact ⟨after, m, hstep.trans hrun, hnext.trans hafter⟩

/-- The loop stops at a path that blocks, and not for a failed `unlink`. -/
theorem removeArtifacts_blocks (n : ℕ) (rest : List Path) (hplain : disk.Plain p) (h : Blocks disk p) :
    ∃ e, e ≠ .notDeleted ∧ setting.removeArtifacts disk n (p :: rest) = (.error e, disk) := by
  rw [removeArtifacts_cons setting hplain]
  by_cases hdenied : disk.denied p = true
  · exact ⟨.unhandled, by decide, by rw [if_pos hdenied]⟩
  · rw [if_neg hdenied]
    obtain hd | hdir | hspecial := h
    · exact absurd hd hdenied
    · exact ⟨.notAFile, by decide, by rw [hdir]⟩
    · exact ⟨.notAFile, by decide, by rw [hspecial]⟩

/-- At every other path an `unlink` fails. -/
theorem removeArtifacts_held (n : ℕ) (rest : List Path) (hplain : disk.Plain p) (hyields : ¬Yields disk p)
    (hblocks : ¬Blocks disk p) :
    setting.removeArtifacts disk n (p :: rest) = (.error .notDeleted, disk) := by
  rw [removeArtifacts_cons setting hplain]
  have hdenied : disk.denied p = false := by
    by_contra hne
    exact hblocks (.inl (by simpa using hne))
  rw [if_neg (by simp [hdenied])]
  rcases hentry : disk.entry p with _ | entry
  · exact absurd ⟨hdenied, .inl hentry⟩ hyields
  · cases entry with
    | dir => exact absurd (.inr (.inl hentry)) hblocks
    | special => exact absurd (.inr (.inr hentry)) hblocks
    | link target => exact absurd hentry (hplain.2 p target (List.prefix_refl p))
    | file =>
        have hheld : disk.held p = true := by
          by_contra hne
          exact hyields ⟨hdenied, .inr ⟨hentry, by simpa using hne⟩⟩
        simp [Disk.unlink, hheld]

/-- The artifacts up to the first one that does not yield. -/
theorem exists_first_not_yields (disk : Disk) (ps : List Path) :
    (∀ q ∈ ps, Yields disk q) ∨ ∃ before p rest, ps = before ++ p :: rest ∧
      (∀ q ∈ before, Yields disk q) ∧ ¬Yields disk p := by
  induction ps with
  | nil => exact .inl nofun
  | cons p ps ih =>
      by_cases hp : Yields disk p
      · obtain hall | ⟨before, q, rest, rfl, hbefore, hq⟩ := ih
        · exact .inl (List.forall_mem_cons.2 ⟨hp, hall⟩)
        · exact .inr ⟨p :: before, q, rest, rfl, List.forall_mem_cons.2 ⟨hp, hbefore⟩, hq⟩
      · exact .inr ⟨[], p, ps, rfl, nofun, hp⟩

end Loop

/-! ### The paths -/

section Paths

variable {setting : ArtifactSetting} {disk : Disk} {job : ExperimentJob} {paths : List Path}

theorem resolve_eq_ok {path : PurePath} {p : Path} (h : setting.resolve disk path = .ok p) :
    disk.walk false setting.depth [] path = some p := by
  unfold ArtifactSetting.resolve at h
  split at h
  · cases h
  split at h
  next resolved hwalk =>
    cases h
    exact hwalk
  next => cases h

theorem artifactPath_eq_ok {allowedRoot repoRoot p : Path} {candidate : String}
    (h : setting.artifactPath disk allowedRoot repoRoot candidate = .ok p) :
    disk.Plain p ∧ allowedRoot <+: p := by
  unfold ArtifactSetting.artifactPath at h
  obtain ⟨raw, -, h⟩ := bind_eq_ok h
  obtain ⟨path, hpath, h⟩ := bind_eq_ok h
  obtain ⟨_, hunder, h⟩ := bind_eq_ok h
  cases h
  rw [rejectIf_eq_ok, not_not] at hunder
  exact ⟨Disk.walk_plain Disk.plain_nil (resolve_eq_ok hpath), hunder⟩

/-- The loop over the candidates keeps the paths distinct, resolved and under the root. -/
theorem foldlM_addPath {allowedRoot repoRoot : Path} {candidates : List String}
    {found : List Path} (hnodup : found.Nodup)
    (hfound : ∀ p ∈ found, disk.Plain p ∧ allowedRoot <+: p)
    (h : candidates.foldlM (setting.addPath disk allowedRoot repoRoot) found = .ok paths) :
    paths.Nodup ∧ ∀ p ∈ paths, disk.Plain p ∧ allowedRoot <+: p := by
  induction candidates generalizing found with
  | nil =>
      cases h
      exact ⟨hnodup, hfound⟩
  | cons candidate candidates ih =>
      rw [List.foldlM_cons] at h
      obtain ⟨next, hnext, h⟩ := bind_eq_ok h
      obtain ⟨path, hpath, hadd⟩ := bind_eq_ok hnext
      cases hadd
      have hgood := artifactPath_eq_ok hpath
      split at h
      · exact ih hnodup hfound h
      next hnew =>
        refine ih ?_ ?_ h
        · exact List.nodup_append.2 ⟨hnodup, List.nodup_singleton path,
            fun a ha b hb heq => hnew (List.mem_singleton.1 hb ▸ heq ▸ ha)⟩
        · rintro p hp
          obtain hp | hp := List.mem_append.1 hp
          · exact hfound p hp
          · rw [List.mem_singleton.1 hp]
            exact hgood

/-- **The artifacts of a job** are distinct, free of links and under the root. -/
theorem experimentArtifactPaths_spec (h : setting.experimentArtifactPaths disk job = .ok paths) :
    paths.Nodup ∧ ∀ p ∈ paths, disk.Plain p ∧ setting.ResolvesUnder disk p := by
  unfold ArtifactSetting.experimentArtifactPaths at h
  split at h
  · cases h
    exact ⟨List.nodup_nil, nofun⟩
  · obtain ⟨root, hroot, h⟩ := bind_eq_ok h
    obtain ⟨_, -, h⟩ := bind_eq_ok h
    obtain ⟨repoRoot, -, h⟩ := bind_eq_ok h
    obtain ⟨hnodup, hpaths⟩ := foldlM_addPath List.nodup_nil nofun h
    refine ⟨hnodup, fun p hp => ?_⟩
    obtain ⟨hplain, hunder⟩ := hpaths p hp
    exact ⟨hplain, root, p, resolve_eq_ok hroot, Disk.walk_of_plain hplain _ _, hunder⟩

end Paths

/-! ### All or nothing -/

section Deletions

variable {setting : ArtifactSetting} {disk after : Disk} {store : Store} {job : ExperimentJob}
  {artifacts before : List Path}

/-- What a cleared disk has lost are files among the artifacts. -/
theorem only_of_cleared (hpaths : setting.experimentArtifactPaths disk job = .ok artifacts)
    (hsub : ∀ q ∈ before, q ∈ artifacts) (hyields : ∀ q ∈ before, Yields disk q)
    (h : Cleared disk before after) (p : Path) (hne : after.entry p ≠ disk.entry p) :
    setting.ResolvesUnder disk p ∧
      (disk.isFile setting.depth p = true ∨ disk.isSymlink p = true) ∧ after.entry p = none := by
  have hmem : p ∈ before := by
    by_contra hp
    exact hne (h.entry_of_notMem hp)
  have hnone : after.entry p = none := by rw [h.entry, if_pos hmem]
  obtain ⟨hplain, hunder⟩ := (experimentArtifactPaths_spec hpaths).2 p (hsub p hmem)
  refine ⟨hunder, .inl ?_, hnone⟩
  obtain habsent | ⟨hfile, -⟩ := (hyields p hmem).2
  · exact absurd (hnone.trans habsent.symm) hne
  · rw [Disk.isFile, Disk.stat_of_plain hplain, hfile]
    rfl

theorem deleteExperiment_of_terminal (hrow : store.row = some job)
    (hterminal : job.status.terminal = true) :
    setting.deleteExperiment disk store = setting.deleteTerminal disk store job := by
  rw [ArtifactSetting.deleteExperiment, hrow]
  simp [hterminal]

theorem deleteTerminal_of_error {e : DeleteError}
    (hpaths : setting.experimentArtifactPaths disk job = .ok artifacts)
    (hrun : setting.removeArtifacts disk 0 artifacts = (.error e, after)) :
    setting.deleteTerminal disk store job = ⟨.error e, after, store⟩ := by
  rw [ArtifactSetting.deleteTerminal, hpaths]
  simp [hrun]

theorem deleteTerminal_of_ok {n : ℕ} (hrow : store.row = some job)
    (hterminal : job.status.terminal = true)
    (hpaths : setting.experimentArtifactPaths disk job = .ok artifacts)
    (hrun : setting.removeArtifacts disk 0 artifacts = (.ok n, after)) :
    setting.deleteTerminal disk store job = ⟨.ok n, after, store.delete⟩ := by
  rw [ArtifactSetting.deleteTerminal, hpaths]
  simp [hrun, ArtifactSetting.deleteRow, hrow, hterminal]

/-- Rejected paths leave everything as it was. -/
theorem allOrNothing_of_rejected {e : PathError}
    (hpaths : setting.experimentArtifactPaths disk job = .error e) :
    setting.AllOrNothing disk store job (setting.deleteTerminal disk store job) := by
  rw [ArtifactSetting.deleteTerminal, hpaths]
  cases e <;> exact ⟨fun p hne => absurd rfl hne, fun _ _ _ => ⟨rfl, rfl⟩, nofun⟩

/-- A list whose paths all yield goes, and the row with it. -/
theorem allOrNothing_of_yields (hrow : store.row = some job)
    (hterminal : job.status.terminal = true)
    (hpaths : setting.experimentArtifactPaths disk job = .ok artifacts)
    (hyields : ∀ q ∈ artifacts, Yields disk q) :
    setting.AllOrNothing disk store job (setting.deleteTerminal disk store job) := by
  obtain ⟨hnodup, hgood⟩ := experimentArtifactPaths_spec hpaths
  obtain ⟨after, n, hrun, hcleared⟩ := removeArtifacts_append setting 0 []
    (fun q hq => (hgood q hq).1) hnodup hyields
  rw [List.append_nil] at hrun
  rw [deleteTerminal_of_ok hrow hterminal hpaths hrun]
  refine ⟨only_of_cleared hpaths (fun _ hq => hq) hyields hcleared, nofun, fun _ _ => ?_⟩
  exact ⟨rfl, artifacts, hpaths, fun p hp => by rw [hcleared.entry, if_pos hp]⟩

/-- What the loop does up to the first path that does not yield. -/
theorem exists_run_to {p : Path} {rest : List Path}
    (hpaths : setting.experimentArtifactPaths disk job = .ok (before ++ p :: rest))
    (hyields : ∀ q ∈ before, Yields disk q) :
    ∃ after n, setting.removeArtifacts disk 0 (before ++ p :: rest) =
      setting.removeArtifacts after n (p :: rest) ∧ Cleared disk before after ∧ p ∉ before ∧
        after.Plain p := by
  obtain ⟨hnodup, hgood⟩ := experimentArtifactPaths_spec hpaths
  have hbefore := List.nodup_append.1 hnodup
  obtain ⟨after, n, hrun, hcleared⟩ := removeArtifacts_append setting 0 (p :: rest)
    (fun q hq => (hgood q (by simp [hq])).1) hbefore.1 hyields
  refine ⟨after, n, hrun, hcleared, fun hmem => hbefore.2.2 p hmem p List.mem_cons_self rfl, ?_⟩
  exact hcleared.plain (hgood p (by simp)).1

/-- **An interleaved list loses files to a rejected deletion.** -/
theorem not_allOrNothing_of_interleaved
    (hpaths : setting.experimentArtifactPaths disk job = .ok artifacts)
    (h : Interleaved disk artifacts) :
    ¬setting.AllOrNothing disk store job (setting.deleteTerminal disk store job) := by
  obtain ⟨before, p, rest, rfl, hblocks, hyields, q, hq, hfile⟩ := h
  obtain ⟨after, n, hrun, hcleared, hp, hplain⟩ := exists_run_to hpaths hyields
  obtain ⟨e, he, hstop⟩ := removeArtifacts_blocks setting n rest
    hplain (hcleared.blocks hp hblocks)
  rw [deleteTerminal_of_error hpaths (hrun.trans hstop)]
  intro hall
  have hsame := congrFun (hall.nothing e rfl he).1 q
  rw [hcleared.entry, if_pos hq, hfile] at hsame
  cases hsame

/-- Otherwise a deletion that stops has removed nothing, or stops at a failed `unlink`. -/
theorem allOrNothing_of_not_interleaved {p : Path} {rest : List Path}
    (hpaths : setting.experimentArtifactPaths disk job = .ok (before ++ p :: rest))
    (hyields : ∀ q ∈ before, Yields disk q) (hp : ¬Yields disk p)
    (h : ¬Interleaved disk (before ++ p :: rest)) :
    setting.AllOrNothing disk store job (setting.deleteTerminal disk store job) := by
  obtain ⟨after, n, hrun, hcleared, hnew, hplain⟩ := exists_run_to hpaths hyields
  have honly := only_of_cleared hpaths (fun q hq => List.mem_append_left _ hq) hyields hcleared
  by_cases hblocks : Blocks disk p
  · obtain ⟨e, he, hstop⟩ := removeArtifacts_blocks setting n rest
      hplain (hcleared.blocks hnew hblocks)
    rw [deleteTerminal_of_error hpaths (hrun.trans hstop)]
    refine ⟨honly, fun _ _ _ => ⟨funext fun q => ?_, rfl⟩, nofun⟩
    -- no path before `p` held a file, so none was removed
    rw [hcleared.entry]
    split
    next hq =>
      obtain hnone | ⟨hfile, -⟩ := (hyields q hq).2
      · exact hnone.symm
      · exact absurd ⟨before, p, rest, rfl, hblocks, hyields, q, hq, hfile⟩ h
    next => rfl
  · have hyields' : ¬Yields after p := by
      rw [Yields, hcleared.denied, hcleared.held, hcleared.entry_of_notMem hnew]
      exact hp
    have hblocks' : ¬Blocks after p := by
      rw [Blocks, hcleared.denied, hcleared.entry_of_notMem hnew]
      exact hblocks
    have hstop := removeArtifacts_held setting n rest hplain hyields' hblocks'
    rw [deleteTerminal_of_error hpaths (hrun.trans hstop)]
    refine ⟨honly, fun e he hne => ?_, nofun⟩
    cases he
    exact absurd rfl hne

/-- **The deletion of a terminal experiment is all or nothing** exactly when no file that can be
unlinked comes, among its artifacts, before the first path the loop stops at. -/
theorem deletes_all_or_nothing_iff (setting : ArtifactSetting) (disk : Disk)
    (hrow : store.row = some job) (hterminal : job.status.terminal = true) :
    setting.AllOrNothing disk store job (setting.deleteExperiment disk store) ↔
      ¬∃ artifacts, setting.experimentArtifactPaths disk job = .ok artifacts ∧
        Interleaved disk artifacts := by
  rw [deleteExperiment_of_terminal hrow hterminal]
  constructor
  · rintro hall ⟨artifacts, hpaths, hinterleaved⟩
    exact not_allOrNothing_of_interleaved hpaths hinterleaved hall
  · intro h
    rcases hpaths : setting.experimentArtifactPaths disk job with e | artifacts
    · exact allOrNothing_of_rejected hpaths
    · obtain hall | ⟨before, p, rest, rfl, hyields, hp⟩ := exists_first_not_yields disk artifacts
      · exact allOrNothing_of_yields hrow hterminal hpaths hall
      · exact allOrNothing_of_not_interleaved hpaths hyields hp fun hinterleaved =>
          h ⟨_, hpaths, hinterleaved⟩

end Deletions

/-! ### The deletion of many experiments -/

namespace ArtifactSetting

variable (setting : ArtifactSetting)

/-- The validation of `api_bulk_delete_experiments`. -/
def checkArtifacts (disk : Disk) : List Path → Except DeleteError Unit
  | [] => .ok ()
  | path :: rest =>
    match disk.exists_ setting.depth path with
    | none => .error .unhandled
    | some present =>
      if !present && !disk.isSymlink path then checkArtifacts disk rest
      else if !disk.isFile setting.depth path && !disk.isSymlink path then .error .notAFile
      else checkArtifacts disk rest

/-- The loop after the validation. -/
def removeChecked : Disk → ℕ → List Path → Except DeleteError ℕ × Disk
  | disk, deletedCount, [] => (.ok deletedCount, disk)
  | disk, deletedCount, path :: rest =>
    match disk.exists_ setting.depth path with
    | none => (.error .unhandled, disk)
    | some present =>
      if !present && !disk.isSymlink path then removeChecked disk deletedCount rest
      else match disk.unlink path with
        | none => (.error .notDeleted, disk)
        | some after => removeChecked after (deletedCount + 1) rest

/-- What `api_bulk_delete_experiments` does to the artifacts of the terminal jobs, before it
deletes their rows. -/
def bulkRemove (disk : Disk) (terminalJobs : List ExperimentJob) :
    Except DeleteError ℕ × Disk :=
  match terminalJobs.mapM (setting.experimentArtifactPaths disk) with
  | .error (.value message) => (.error (.invalidPath message), disk)
  | .error .runtime => (.error .unhandled, disk)
  | .ok artifacts =>
    match setting.checkArtifacts disk artifacts.flatten with
    | .error error => (.error error, disk)
    | .ok () => setting.removeChecked disk 0 artifacts.flatten

variable {setting}

/-- A validated list has no path that nothing may ask about. -/
theorem denied_of_checkArtifacts {disk : Disk} {paths : List Path}
    (h : setting.checkArtifacts disk paths = .ok ()) : ∀ p ∈ paths, disk.denied p = false := by
  induction paths with
  | nil => nofun
  | cons p paths ih =>
      rw [checkArtifacts, Disk.exists_] at h
      by_cases hdenied : disk.denied p = true
      · simp [hdenied] at h
      · rw [if_neg hdenied] at h
        refine List.forall_mem_cons.2 ⟨by simpa using hdenied, ?_⟩
        dsimp only at h
        split_ifs at h
        · exact ih h
        · exact ih h

/-- After the validation only an `unlink` fails. -/
theorem removeChecked_error {disk after : Disk} {paths : List Path} {n : ℕ} {e : DeleteError}
    (hdenied : ∀ p ∈ paths, disk.denied p = false)
    (h : setting.removeChecked disk n paths = (.error e, after)) : e = .notDeleted := by
  induction paths generalizing disk n with
  | nil => cases h
  | cons p paths ih =>
      obtain ⟨hp, hpaths⟩ := List.forall_mem_cons.1 hdenied
      rw [removeChecked, Disk.exists_, if_neg (by simp [hp])] at h
      dsimp only at h
      split_ifs at h
      · exact ih hpaths h
      · rcases hunlink : disk.unlink p with _ | next
        · rw [hunlink] at h
          cases h
          rfl
        · rw [hunlink] at h
          refine ih (fun q hq => ?_) h
          rw [(Disk.unlink_eq_some hunlink).2.2.1]
          exact hpaths q hq

/-- **A validation before the first removal makes a rejected deletion harmless**, whatever the
artifacts are. -/
theorem bulkRemove_rejected {disk after : Disk} {terminalJobs : List ExperimentJob}
    {e : DeleteError} (h : setting.bulkRemove disk terminalJobs = (.error e, after))
    (he : e ≠ .notDeleted) : after = disk := by
  unfold bulkRemove at h
  split at h
  · cases h
    rfl
  · cases h
    rfl
  · split at h
    · cases h
      rfl
    next hcheck => exact absurd (removeChecked_error (denied_of_checkArtifacts hcheck) h) he

end ArtifactSetting

/-! ### A report next to a directory -/

/-- A report and a directory where the statistics should be. -/
def runsEntries : List (Path × Entry) :=
  [([], .dir), (["runs"], .dir), (["runs", "final_report.json"], .file),
    (["runs", "statistics.csv"], .dir)]

theorem runsEntries_root : runsEntries.lookup [] = some .dir := by decide

theorem runsEntries_parent :
    ∀ e ∈ runsEntries, e.1 ≠ [] → runsEntries.lookup e.1.dropLast = some .dir := by decide

/-- The disk with these entries. -/
def runsDisk : Disk := Disk.ofEntries runsEntries runsEntries_root runsEntries_parent

/-- The artifacts lie under `/runs`. -/
def runsSetting : ArtifactSetting := ⟨["runs"], some [], fun _ => none, 0⟩

/-- A completed job whose report names the artifacts. -/
def jobWithArtifacts (artifacts : Fields) : ExperimentJob :=
  { ExperimentJob.created ⟨1, "chaos_mesh", "cpu-stress"⟩ "" with
    status := .completed
    result := some [("attempts", .arr [.obj [("report", .obj [("artifacts", .obj artifacts)])]])] }

/-- A result as `_dump` leaves it in the table: every mapping is sorted by its keys. -/
def Stored (job : ExperimentJob) : Prop :=
  ∀ result ∈ job.result, JsonText.sortKeys (.obj result) = .obj result

/-- A job with a report. -/
def reportJob : ExperimentJob := jobWithArtifacts [("final_report_json", .str "runs/final_report.json")]

/-- A job with a report and statistics. -/
def statisticsJob : ExperimentJob :=
  jobWithArtifacts [("final_report_json", .str "runs/final_report.json"),
    ("statistics_csv", .str "runs/statistics.csv")]

theorem reportJob_paths : runsSetting.experimentArtifactPaths runsDisk reportJob =
    .ok [["runs", "final_report.json"]] := by
  decide +kernel

theorem statisticsJob_paths : runsSetting.experimentArtifactPaths runsDisk statisticsJob =
    .ok [["runs", "final_report.json"], ["runs", "statistics.csv"]] := by
  decide +kernel

theorem statisticsJob_stored : Stored statisticsJob := by
  intro result hresult
  cases hresult
  rfl

/-- The deletion of a job with a report is all or nothing. -/
theorem reportJob_all_or_nothing : runsSetting.AllOrNothing runsDisk ⟨some reportJob, []⟩ reportJob
    (runsSetting.deleteExperiment runsDisk ⟨some reportJob, []⟩) := by
  have hrow : (⟨some reportJob, []⟩ : Store).row = some reportJob := rfl
  refine (deletes_all_or_nothing_iff runsSetting runsDisk hrow rfl).2 ?_
  rintro ⟨artifacts, hpaths, before, p, rest, rfl, -, -, q, hq, -⟩
  rw [reportJob_paths] at hpaths
  have hlen := congrArg List.length (Except.ok.inj hpaths)
  have hpos := List.length_pos_of_mem hq
  simp only [List.length_append, List.length_cons, List.length_nil] at hlen
  omega

/-- **A deletion that is rejected for a directory has removed the report**, also of a job that the
table can hold. -/
theorem statisticsJob_not_all_or_nothing :
    ¬∀ (setting : ArtifactSetting) (disk : Disk) (store : Store) (job : ExperimentJob),
      Stored job → store.row = some job → job.status.terminal = true →
        setting.AllOrNothing disk store job (setting.deleteExperiment disk store) := by
  intro h
  have hrow : (⟨some statisticsJob, []⟩ : Store).row = some statisticsJob := rfl
  have hall := h runsSetting runsDisk _ _ statisticsJob_stored hrow rfl
  rw [deleteExperiment_of_terminal hrow rfl] at hall
  refine not_allOrNothing_of_interleaved statisticsJob_paths ?_ hall
  refine ⟨[["runs", "final_report.json"]], ["runs", "statistics.csv"], [], rfl,
    .inr (.inl (by decide)), ?_, ?_⟩
  · rintro q hq
    rw [List.mem_singleton.1 hq]
    exact ⟨rfl, .inr ⟨by decide, rfl⟩⟩
  · exact ⟨["runs", "final_report.json"], List.mem_cons_self, by decide⟩

end Jobs
end AiopsK8s
