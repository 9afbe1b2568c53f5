/-
# The files of a plan repository

`partition_repository.py`, the names and the contents: plan directories under the
root, staging and backup directories of a publication, its transaction marker, and
the documents in them.  The tree is the one below the repository's root.

A plan directory is the path that `root / plan_id` names.  An absolute plan id, or
one with `..`, names a directory outside the root, which the tree does not hold: its
path starts with `/` or passes through `..`, and the results about plan ids exclude
both (`not_plainId_of_absolute`).
-/

import AiopsK8s.Lib.FileProg
import AiopsK8s.Lib.Python

namespace AiopsK8s
namespace Repository

open Files Crash

/-- What a file contains: a document, text that is not JSON, or bytes that are not
text. -/
inductive Content where
  | doc (value : Json)
  | malformed
  | undecodable

/-- The exceptions of the repository. -/
inductive RepositoryError where
  | contract (code message : String)
  | os (e : OSError)
  | json
  | unicode
  | attribute
  | key
  | type
  | value
  deriving DecidableEq, Repr

instance : OSErrors RepositoryError := ⟨.os⟩

/-- A program of the repository. -/
abbrev Work (α : Type) : Type := Prog (FileTree Content) RepositoryError α

/-- The components that `pathlib` keeps of a name, without its root. -/
def pathComponents (name : String) : Path :=
  ((name.toList.splitOn '/').map String.ofList).filter fun c => c ≠ "" ∧ c ≠ "."

/-- `Path(name).parts`: an absolute name starts with its root. -/
def pathParts (name : String) : Path :=
  if name.toList.head? = some '/' then "/" :: pathComponents name else pathComponents name

/-- `Path(name).name`. -/
def pathName (name : String) : String := (pathComponents name).getLast?.getD ""

/-- `_COMMIT_FILE`. -/
def commitFile : String := "commit.json"

/-- `_PENDING_FILE`. -/
def pendingFile : String := "pending.json"

/-- `_TRANSACTION_PREFIX`. -/
def transactionPrefix : String := ".partition-transaction-"

/-- `_STAGING_PREFIX`. -/
def stagingPrefix : String := ".partition-staging-"

/-- `_BACKUP_PREFIX`. -/
def backupPrefix : String := ".partition-backup-"

/-- `_AUTHENTICATED_MANIFEST_FILE`. -/
def authenticatedManifestFile : String := "authenticated_manifest.json"

/-- `_RESERVED_SIDECARS`. -/
def reservedSidecars : List String :=
  ["report.json", "latest.json", "history.json", "scheduling_handoff.json",
    authenticatedManifestFile, commitFile, pendingFile]

/-- The root files that a publication writes anew. -/
def reservedRootFiles : List String :=
  ["report.json", "latest.json", "history.json", commitFile, pendingFile]

/-- `name.startswith(start)`. -/
def startsWith (name start : String) : Bool := decide (start.toList <+: name.toList)

/-- `name.endswith(ending)`. -/
def endsWith (name ending : String) : Bool := decide (ending.toList <:+ name.toList)

/-- The glob `.partition-transaction-*.json`. -/
def isMarkerName (name : String) : Bool :=
  startsWith name transactionPrefix && endsWith name ".json"

/-- The name of a staging directory. -/
def isStagingName (name : String) : Bool := startsWith name stagingPrefix

/-- `_is_committed`. -/
def isCommitted (t : FileTree Content) (plan : Path) : Bool := t.isFile (plan ++ [commitFile])

/-- A plan directory whose publication is not finished. -/
def isPending (t : FileTree Content) (plan : Path) : Bool :=
  t.isDir plan && t.isFile (plan ++ [pendingFile]) && !isCommitted t plan

/-- `_read_json`. -/
def readJson (t : FileTree Content) (p : Path) : Except RepositoryError Json :=
  match t.node p with
  | none => .error (.os .notFound)
  | some .dir => .error (.os .isADirectory)
  | some (.file (.doc v)) => .ok v
  | some (.file .malformed) => .error .json
  | some (.file .undecodable) => .error .unicode

/-- `_write_json`. -/
def writeJson (p : Path) (v : Json) : Work Unit := do
  makeDirs p.dropLast
  writeFile p (.doc v)

/-- What a transaction marker records. -/
structure Transaction where
  backupDirectory : String
  hadPreviousDirectory : Bool
  planDirectory : String
  stagingDirectory : String
  deriving DecidableEq, Repr

/-- The document `_write_transaction_marker` writes. -/
def Transaction.toJson (tx : Transaction) : Json :=
  .obj [("backup_directory", .str tx.backupDirectory),
    ("had_previous_directory", .bool tx.hadPreviousDirectory),
    ("plan_directory", .str tx.planDirectory),
    ("staging_directory", .str tx.stagingDirectory)]

/-- `_transaction_path_name`; `none` for its contract error. -/
def transactionPathName (fields : List (String × Json)) (key : String) : Option String :=
  match Json.get fields key with
  | .str name => if pathName name = name then some name else none
  | _ => none

/-- What `_recover_transaction` reads from the fields of a marker; `none` where it
skips the marker. -/
def Transaction.ofFields (fields : List (String × Json)) : Option Transaction := do
  let plan ← transactionPathName fields "plan_directory"
  let staging ← transactionPathName fields "staging_directory"
  let backup ← transactionPathName fields "backup_directory"
  let had ← fields.lookup "had_previous_directory"
  return ⟨backup, match had with | .bool b => b | _ => false, plan, staging⟩

/-- The marker as `_recover_transaction` reads it: a transaction, `none` for a marker
it skips, or an exception that it does not catch. -/
def readMarker (t : FileTree Content) (marker : Path) :
    Except RepositoryError (Option Transaction) :=
  match readJson t marker with
  | .ok (.obj fields) => .ok (Transaction.ofFields fields)
  | .ok _ => .error .attribute
  | .error .json => .ok none
  | .error e => .error e

/-- `_remove_transaction_artifacts`. -/
def removeTransactionArtifacts (ls : Listing) (marker staging backup : Path) : Work Unit := do
  removeTree ls staging
  removeTree ls backup
  unlink marker

/-- The entries of the root, in the order of a listing. -/
def rootNames (ls : Listing) (t : FileTree Content) : List String :=
  (ls.order (t.children [])).filterMap List.head?

theorem mem_rootNames {ls : Listing} {t : FileTree Content} {x : String} :
    x ∈ rootNames ls t ↔ t.node [x] ≠ none := by
  simp only [rootNames, List.mem_filterMap, (ls.perm _).mem_iff, FileTree.mem_children]
  constructor
  · rintro ⟨q, ⟨hq, hparent, hnode⟩, hx⟩
    rcases q with _ | ⟨y, q⟩
    · exact absurd rfl hq
    · obtain rfl : y = x := by simpa using hx
      obtain rfl : q = [] := by
        rcases q with _ | ⟨z, q⟩
        · rfl
        · simp at hparent
      exact hnode
  · intro h
    exact ⟨[x], ⟨by simp, rfl, h⟩, rfl⟩

/-- A listing names every entry once. -/
theorem rootNames_nodup (ls : Listing) (t : FileTree Content) : (rootNames ls t).Nodup := by
  have hnodup : (ls.order (t.children [])).Nodup :=
    (ls.perm _).nodup_iff.2 (List.nodup_dedup _)
  rw [rootNames, List.Nodup, List.pairwise_filterMap]
  refine hnodup.imp_of_mem fun {p q} hp hq hne x hx y hy hxy => hne ?_
  obtain ⟨-, hp, -⟩ := FileTree.mem_children.1 ((ls.perm _).mem_iff.1 hp)
  obtain ⟨-, hq, -⟩ := FileTree.mem_children.1 ((ls.perm _).mem_iff.1 hq)
  rcases p with _ | ⟨a, _ | ⟨b, p⟩⟩ <;> rcases q with _ | ⟨c, _ | ⟨d, q⟩⟩ <;> simp_all

/-- The part of the tree below one entry of the root. -/
def entry (t : FileTree Content) (x : String) : Path → Option (Node Content) := fun r => t.node (x :: r)

end Repository
end AiopsK8s
