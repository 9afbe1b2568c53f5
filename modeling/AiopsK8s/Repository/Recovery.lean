/-
# Recovery of interrupted publications

`_recover_incomplete_transactions` and `_recover_transaction`.  A marker names a
plan directory, a staging directory and a backup.  A committed plan directory is
kept; otherwise the backup is put back, or, where there was no directory before, the
plan directory is deleted.  Afterwards staging directories that no marker names and
plan directories that were never committed are deleted.
-/

import AiopsK8s.Repository.Store

namespace AiopsK8s
namespace Repository

open Files Crash

/-- `_recover_transaction`, once the marker is read. -/
def rollTransaction (ls : Listing) (marker : Path) (tx : Transaction) : Work Unit :=
  let plan := pathParts tx.planDirectory
  let staging := pathParts tx.stagingDirectory
  let backup := pathParts tx.backupDirectory
  test (isCommitted · plan) (removeTransactionArtifacts ls marker staging backup) (do
    test (fun t => tx.hadPreviousDirectory && t.exists_ backup)
      (do
        test (·.exists_ plan) (removeTree ls plan) (pure ())
        move backup plan)
      (test (fun t => !tx.hadPreviousDirectory && t.exists_ plan) (removeTree ls plan) (pure ()))
    removeTransactionArtifacts ls marker staging backup)

/-- `_recover_transaction`. -/
def recoverTransaction (ls : Listing) (name : String) : Work Unit := do
  match ← observe (readMarker · [name]) with
  | .error e => throwing e
  | .ok none => pure ()
  | .ok (some tx) => rollTransaction ls [name] tx

/-- One root entry of the second loop of `_recover_incomplete_transactions`. -/
def discardStale (ls : Listing) (name : String) : Work Unit :=
  if isStagingName name then removeTree ls [name]
  else test (isPending · [name]) (removeTree ls [name]) (pure ())

/-- `_recover_incomplete_transactions`. -/
def recoverIncompleteTransactions (ls : Listing) : Work Unit :=
  test (·.isDir [])
    (do
      let markers ← observe fun t => (rootNames ls t).filter isMarkerName
      markers.forM (recoverTransaction ls)
      let entries ← observe (rootNames ls)
      entries.forM (discardStale ls))
    (pure ())

end Repository
end AiopsK8s
