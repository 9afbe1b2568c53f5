/-
# Publishing a plan directory

`_publish_plan_directory`: the new plan directory is built in a staging directory,
a transaction marker is written, the old directory is renamed to a backup and the
staged one to its place, and a commit marker makes it count.

The random identifiers of `uuid4` are arguments; `fsync` has no effect on a tree and
is left out, and so is the hook that the tests use to stop a publication.
-/

import AiopsK8s.Repository.Store

namespace AiopsK8s
namespace Repository

open Files Crash

/-- `uuid4().hex`. -/
structure Hex where
  text : String
  digits : ∀ c ∈ text.toList, c ∈ "0123456789abcdef".toList

/-- The identifiers of the transaction, of the marker's temporary file and of the
commit marker's. -/
structure TransactionIds where
  transaction : Hex
  markerTemporary : Hex
  commitTemporary : Hex

namespace TransactionIds

/-- `transaction_root.name`. -/
def staging (ids : TransactionIds) : String := stagingPrefix ++ ids.transaction.text

/-- `backup_directory.name`. -/
def backup (ids : TransactionIds) : String := backupPrefix ++ ids.transaction.text

/-- `transaction_marker.name`. -/
def marker (ids : TransactionIds) : String := transactionPrefix ++ ids.transaction.text ++ ".json"

/-- The temporary file of `_write_transaction_marker`. -/
def temporary (ids : TransactionIds) : String :=
  "." ++ ids.marker ++ "." ++ ids.markerTemporary.text ++ ".tmp"

/-- The temporary file of `_write_commit_marker`. -/
def commitTemporaryFile (ids : TransactionIds) : String :=
  "." ++ commitFile ++ "." ++ ids.commitTemporary.text ++ ".tmp"

end TransactionIds

/-- The name of a path segment as Windows compares it. -/
def normalizedSegment (py : Python) (segment : String) : String :=
  py.casefold (Python.rstripDots segment)

/-- **A sidecar document**: a path below the version directory that the repository
does not manage itself. -/
structure Sidecar (py : Python) where
  segments : Path
  value : Json
  nonempty : segments ≠ []
  unreserved : ∀ s ∈ segments, normalizedSegment py s ∉ reservedSidecars

/-- `_remove_staged_repository_metadata`, one file of the staged directory. -/
def removeStagedFile (py : Python) (preserveLegacyReport : Bool) (p : Path) : Work Unit :=
  let name := p.getLast?.getD ""
  test (fun t => t.isFile p && decide (normalizedSegment py name ∈ reservedRootFiles))
    (if preserveLegacyReport ∧ name = "report.json" then pure () else unlink p)
    (pure ())

/-- `_remove_staged_repository_metadata`. -/
def removeStagedRepositoryMetadata (ls : Listing) (py : Python) (staged : Path)
    (preserveLegacyReport : Bool) : Work Unit :=
  test (·.exists_ staged)
    (do
      let entries ← observe fun t => ls.order (t.children staged)
      entries.forM (removeStagedFile py preserveLegacyReport))
    (pure ())

/-- `PartitionArtifactAuthenticator`: the digest of a document and its signature
under the key. -/
structure Authenticator where
  sha256 : Json → String
  hmac : Json → String

/-- `_REQUIRED_VERSION_FILES`. -/
def requiredVersionFiles : List String :=
  ["report.json", "runtime_outcome.json", "normalized_request.json", "partition_intent.json",
    "scheduling_handoff.json"]

/-- `_OPTIONAL_VERSION_FILES`. -/
def optionalVersionFiles : List String :=
  ["candidate_ranking.json", "runtime_feedback.json", "repartition_directive.json"]

/-- `_validated_version_file_names` with `manifest_expected=False`. -/
def validatedVersionFileNames (t : FileTree Content) (dir : Path) :
    Except RepositoryError (List String) :=
  let entries := t.children dir
  let names := entries.filterMap (·.getLast?)
  if entries.any (!t.isFile ·) then .error .value
  else if requiredVersionFiles.all (· ∈ names) ∧
      names.all (· ∈ requiredVersionFiles ++ optionalVersionFiles) then .ok names
  else .error .value

/-- `_version_file_digests` with `manifest_expected=False`. -/
def versionFileDigests (auth : Authenticator) (t : FileTree Content) (dir : Path) :
    Except RepositoryError (List (String × Json)) := do
  let names ← validatedVersionFileNames t dir
  (names.insertionSort (· ≤ ·)).mapM fun name => do
    let payload ← readJson t (dir ++ [name])
    return (name, .str (auth.sha256 payload))

/-- `manifest_for_version`. -/
def manifestForVersion (auth : Authenticator) (t : FileTree Content) (dir : Path) (planId : String)
    (planVersion : ℕ) : Except RepositoryError Json := do
  let files ← versionFileDigests auth t dir
  let payload := [("schema_version", .str "partition-artifact-authentication-v1"),
    ("plan_id", .str planId), ("plan_version", .int planVersion), ("files", .obj files)]
  return .obj (payload ++ [("hmac_sha256", .str (auth.hmac (.obj payload)))])

/-- What `save` hands to `_publish_plan_directory`. -/
structure Publication (py : Python) where
  planId : String
  version : ℕ
  report : List (String × Json)
  history : List Json
  sidecars : List (Sidecar py)
  includeLegacyReport : Bool
  authenticator : Option Authenticator

namespace Publication

variable {py : Python}

/-- `plan_directory`. -/
def planDirectory (pub : Publication py) : Path := pathParts pub.planId

/-- `plan_directory.name`. -/
def name (pub : Publication py) : String := pathName pub.planId

/-- `versions / str(version)`, below the plan directory. -/
def versionDirectory (pub : Publication py) : Path := ["versions", toString pub.version]

/-- `staged_plan_directory`. -/
def staged (pub : Publication py) (ids : TransactionIds) : Path := [ids.staging, pub.name]

/-- The transaction that the marker records. -/
def transaction (pub : Publication py) (ids : TransactionIds) (had : Bool) : Transaction where
  backupDirectory := ids.backup
  hadPreviousDirectory := had
  planDirectory := pub.name
  stagingDirectory := ids.staging

end Publication

/-- The content of the commit marker. -/
def commitDocument : Json := .obj [("committed", .bool true)]

variable {py : Python}

/-- The manifest of an authenticated version directory. -/
def writeManifest (pub : Publication py) (dir : Path) (auth : Authenticator) : Work Unit := do
  match ← observe (manifestForVersion auth · dir pub.planId pub.version) with
  | .error e => throwing e
  | .ok manifest => writeJson (dir ++ [authenticatedManifestFile]) manifest

/-- The documents of `_publish_plan_directory`, in the staged plan directory. -/
def writeDocuments (pub : Publication py) (staged : Path) : Work Unit := do
  let dir := staged ++ pub.versionDirectory
  writeJson (staged ++ [pendingFile]) (.obj [("pending", .bool true)])
  only pub.includeLegacyReport (writeJson (staged ++ ["report.json"]) (.obj pub.report))
  writeJson (dir ++ ["report.json"]) (.obj pub.report)
  writeJson (staged ++ ["latest.json"]) (.obj pub.report)
  writeJson (staged ++ ["history.json"]) (.arr pub.history)
  writeJson (dir ++ ["scheduling_handoff.json"]) (Json.get pub.report "scheduling_handoff")
  pub.sidecars.forM fun sidecar => writeJson (dir ++ sidecar.segments) sidecar.value
  match pub.authenticator with
  | none => pure ()
  | some auth => writeManifest pub dir auth

/-- The staged plan directory, from the old one and the new documents. -/
def stage (ls : Listing) (ids : TransactionIds) (pub : Publication py) : Work Unit := do
  let plan := pub.planDirectory
  let staged := pub.staged ids
  test (·.isDir plan) (copyTree ls plan staged)
    (test (·.exists_ plan)
      (throwing (.contract "invalid_contract" "a partition plan path must be a directory"))
      (pure ()))
  removeStagedRepositoryMetadata ls py staged (!pub.includeLegacyReport)
  writeDocuments pub staged
  makeDirs plan.dropLast

/-- `_write_transaction_marker`. -/
def writeTransactionMarker (ids : TransactionIds) (tx : Transaction) : Work Unit := do
  makeDirs []
  writeFile [ids.temporary] (.doc tx.toJson)
  move [ids.temporary] [ids.marker]

/-- `_write_commit_marker`. -/
def writeCommitMarker (ids : TransactionIds) (plan : Path) : Work Unit := do
  writeFile (plan ++ [ids.commitTemporaryFile]) (.doc commitDocument)
  move (plan ++ [ids.commitTemporaryFile]) (plan ++ [commitFile])

/-- The part of `_publish_plan_directory` after the marker is there. -/
def swapPlanDirectory (ls : Listing) (ids : TransactionIds) (pub : Publication py) :
    Work Unit := do
  let plan := pub.planDirectory
  test (·.exists_ plan) (move plan [ids.backup]) (pure ())
  move (pub.staged ids) plan
  writeCommitMarker ids plan
  unlink (plan ++ [pendingFile])
  removeTransactionArtifacts ls [ids.marker] [ids.staging] [ids.backup]

/-- `_publish_plan_directory`: before the marker is there an exception deletes the
staging directory again. -/
def publishPlanDirectory (ls : Listing) (ids : TransactionIds) (pub : Publication py) :
    Work Unit := do
  onRaise
    (do
      stage ls ids pub
      let had ← observe (·.exists_ pub.planDirectory)
      writeTransactionMarker ids (pub.transaction ids had))
    (removeTree ls [ids.staging])
  swapPlanDirectory ls ids pub

end Repository
end AiopsK8s
