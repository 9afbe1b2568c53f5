/-
# The operations of the plan repository

`save` recovers, checks the report, the sidecar names and the plan's place in its lineage, and
publishes; `get`, `history` and `is_current_leaf` recover and read.  What an operation decides
from the tree it looks at is a function of the tree; the operation itself is a program that may
be stopped anywhere.

The identifiers and the times of `uuid4` and `datetime.now` are arguments, and so are the
document of the strategy policy and what a signing key can be read from.  `OverflowError` is
`RepositoryError.value` here, beside `ValueError`: no operation tells them apart.
-/

import AiopsK8s.Partition.Revalidation
import AiopsK8s.Repository.Publish
import AiopsK8s.Repository.Recovery

namespace AiopsK8s

/-! ### Equality of values -/

namespace PyFloat

/-- `x == y`: not a number equals nothing. -/
def equal : PyFloat → PyFloat → Bool
  | .finite q, .finite r => decide (q = r)
  | .posInf, .posInf => true
  | .negInf, .negInf => true
  | _, _ => false

end PyFloat

namespace Json

/-- The number that a value counts as: a truth value is zero or one. -/
def toNumber : Json → Option PyFloat
  | .bool b => some (.finite (if b then 1 else 0))
  | .int i => some (.finite i)
  | .float x => some x
  | _ => none

/-- Two values that are no list and no mapping. -/
def equalScalar (v w : Json) : Bool :=
  match v, w with
  | .null, .null => true
  | .str s, .str t => decide (s = t)
  | _, _ =>
    match v.toNumber, w.toNumber with
    | some x, some y => x.equal y
    | _, _ => false

mutual

/-- `v == w`: numbers by their values, mappings by their keys. -/
def equal : Json → Json → Bool
  | .arr items, w =>
    match w with
    | .arr items' => equalItems items items'
    | _ => false
  | .obj fields, w =>
    match w with
    | .obj fields' => fields.length == fields'.length && equalFields fields fields'
    | _ => false
  | v, w => equalScalar v w

def equalItems : List Json → List Json → Bool
  | [], items' => items'.isEmpty
  | item :: items, items' =>
    match items' with
    | [] => false
    | item' :: items' => equal item item' && equalItems items items'

def equalFields : List (String × Json) → List (String × Json) → Bool
  | [], _ => true
  | (key, value) :: fields, fields' =>
    (match fields'.lookup key with
      | some value' => equal value value'
      | none => false) && equalFields fields fields'

end

@[simp] theorem equal_int (i j : ℤ) : (Json.int i).equal (.int j) = decide (i = j) := by
  simp [equal, equalScalar, toNumber, PyFloat.equal]

@[simp] theorem equal_str (s t : String) : (Json.str s).equal (.str t) = decide (s = t) := by
  simp [equal, equalScalar]

@[simp] theorem equal_null_str (s : String) : Json.null.equal (.str s) = false := by
  simp [equal, equalScalar, toNumber]

end Json

namespace Repository

open Files Crash AiopsK8s.Partition

/-! ### Exceptions -/

/-- The exceptions of the partition contracts in the repository. -/
def RepositoryError.ofPartition : PartitionError → RepositoryError
  | .contract code message => .contract code message
  | .overflow | .value => .value
  | .key => .key
  | .type => .type

/-- A computation of the partition contracts. -/
def ofPartition {α : Type} : Except PartitionError α → Except RepositoryError α
  | .ok a => .ok a
  | .error e => .error (.ofPartition e)

/-- `PartitionContractError` unless the condition holds. -/
def require (c : Bool) (code message : String) : Except RepositoryError Unit :=
  if c then .ok () else .error (.contract code message)

theorem require_eq_ok {c : Bool} {code message : String} {u : Unit} :
    require c code message = .ok u ↔ c = true := by
  unfold require
  split_ifs with h <;> simp [h]

/-- A computation that may raise, in a program. -/
def orRaise {α : Type} : Except RepositoryError α → Work α
  | .ok a => pure a
  | .error e => throwing e

/-- What the tree shows. -/
def look {α : Type} (f : FileTree Content → Except RepositoryError α) : Work α := do
  orRaise (← observe f)

/-! ### Reports -/

/-- A mapping. -/
abbrev Fields : Type := List (String × Json)

/-- `str(value)`. -/
def textOf (py : Python) (value : Json) : Except RepositoryError String :=
  if value.hasLongInteger then .error .value else .ok (py.str value)

/-- `str(version)` of a plan version. -/
def versionText (version : ℤ) : Except RepositoryError String :=
  if Json.isLongInteger version then .error .value else .ok (toString version)

/-- The plan version of a report: an integer from one on, and no truth value. -/
def versionOf : Json → Option ℤ
  | .int version => if 1 ≤ version then some version else none
  | _ => none

/-- `_plan_identity`: the plan of a report and its version. -/
def planIdentity (py : Python) (report : Fields) : Except RepositoryError (Fields × ℤ) :=
  match Json.get report "plan" with
  | .obj plan => do
      let planId ← ofPartition (stripped py (Json.get plan "plan_id"))
      let signature ← ofPartition (stripped py (Json.get plan "deterministic_signature"))
      match versionOf (Json.get plan "plan_version") with
      | some version => do
          require (planId.1 != "" && signature.1 != "") "invalid_contract"
            "plan_id, plan_version, and deterministic_signature are required"
          return (plan, version)
      | none => .error (.contract "invalid_contract"
          "plan_id, plan_version, and deterministic_signature are required")
  | _ => .error (.contract "invalid_contract" "plan must be an object")

/-! ### Sidecar names -/

/-- `PureWindowsPath(name).drive or name.startswith(("/", "\\"))`; a drive with a slash in front
is found by the second condition. -/
def isAbsoluteName (name : String) : Bool :=
  name.toList[1]? == some ':' || name.toList.head? == some '/' || name.toList.head? == some '\\'

/-- `name.replace("\\", "/").split("/")`. -/
def nameSegments (name : String) : Path :=
  ((name.toList.map fun c => if c = '\\' then '/' else c).splitOn '/').map String.ofList

theorem nameSegments_ne_nil (name : String) : nameSegments name ≠ [] := by
  simp [nameSegments, List.splitOn_ne_nil]

/-- A path segment that names an entry of its directory, also under Windows. -/
def isSafeSegment (py : Python) (segment : String) : Bool :=
  segment != "" && segment != "." && segment != ".." && normalizedSegment py segment != ""

/-- One sidecar of `_normalize_sidecars`. -/
def normalizeSidecar (py : Python) (seen : List Path) (name : String) (value : Json) :
    Except RepositoryError (Sidecar py) := do
  require (!isAbsoluteName name) "invalid_contract" "sidecar names must be relative paths"
  let segments := nameSegments name
  require (segments.all (isSafeSegment py)) "invalid_contract"
    "sidecar names must contain safe path segments"
  if h : ∀ s ∈ segments, normalizedSegment py s ∉ reservedSidecars then do
    require (!seen.contains (segments.map (normalizedSegment py))) "sidecar_name_collision"
      "sidecar names must be unique under Windows path normalization"
    return ⟨segments, value, nameSegments_ne_nil name, h⟩
  else .error (.contract "reserved_sidecar_name" (name ++ " is managed by the repository"))

/-- The loop of `_normalize_sidecars`, with the names it has seen. -/
def normalizeSidecarsFrom (py : Python) (seen : List Path) :
    Fields → Except RepositoryError (List (Sidecar py))
  | [] => .ok []
  | (name, value) :: sidecars => do
      let sidecar ← normalizeSidecar py seen name value
      let rest ← normalizeSidecarsFrom py
        (sidecar.segments.map (normalizedSegment py) :: seen) sidecars
      return sidecar :: rest

/-- `_normalize_sidecars`. -/
def normalizeSidecars (py : Python) (sidecars : Fields) :
    Except RepositoryError (List (Sidecar py)) :=
  normalizeSidecarsFrom py [] sidecars

/-! ### Signing keys -/

/-- Where a signing key comes from: the argument (a text as its UTF-8 bytes), the content of the
key file (`none` when it cannot be read) and the environment. -/
structure SigningKeys where
  key : Option (List UInt8)
  keyFile : Option (Option (List UInt8))
  environment : Option (List UInt8)
  signer : List UInt8 → Authenticator

/-- `bytes.strip()`. -/
def stripBytes (bytes : List UInt8) : List UInt8 :=
  (bytes.dropWhile isSpaceByte).rdropWhile isSpaceByte
where
  isSpaceByte (b : UInt8) : Bool := b == 32 || (9 ≤ b && b ≤ 13)

/-- The bytes of the key in `from_config`. -/
def SigningKeys.keyBytes (keys : SigningKeys) : Except RepositoryError (List UInt8) :=
  match keys.key, keys.keyFile with
  | some _, some _ => .error (.contract "invalid_artifact_signing_key"
      "provide either an artifact signing key or key file, not both")
  | _, some (some bytes) => .ok (stripBytes bytes)
  | _, some none => .error (.contract "invalid_artifact_signing_key"
      "artifact signing key file could not be read")
  | some key, none => .ok key
  | none, none =>
    match keys.environment with
    | some key => .ok key
    | none => .error (.contract "artifact_signing_key_required"
        "observed partition artifacts require an external signing key")

/-- `PartitionArtifactAuthenticator.from_config`. -/
def SigningKeys.fromConfig (keys : SigningKeys) : Except RepositoryError Authenticator := do
  let bytes ← keys.keyBytes
  require (decide (32 ≤ bytes.length)) "invalid_artifact_signing_key"
    "artifact signing keys must contain at least 32 bytes"
  return keys.signer bytes

/-- Only a publication with a runtime outcome is signed. -/
def authenticatorFor {py : Python} (keys : SigningKeys) (sidecars : List (Sidecar py)) :
    Except RepositoryError (Option Authenticator) :=
  if sidecars.any fun sidecar => sidecar.segments == ["runtime_outcome.json"] then
    keys.fromConfig.map some
  else .ok none

/-! ### The documents of a report -/

/-- `_read_json(path).get("plan", {})`, of which a key is read next. -/
def readPlan (t : FileTree Content) (p : Path) : Except RepositoryError Fields := do
  match ← readJson t p with
  | .obj report =>
      match Json.getD report "plan" (.obj []) with
      | .obj plan => .ok plan
      | _ => .error .attribute
  | _ => .error .attribute

/-- A plan directory takes no second version. -/
def checkVersion (t : FileTree Content) (plan : Path) (version : ℤ) : Except RepositoryError Unit :=
  if isCommitted t plan && t.isFile (plan ++ ["latest.json"]) then do
    let existing ← readPlan t (plan ++ ["latest.json"])
    require ((Json.get existing "plan_version").equal (.int version)) "plan_id_reused"
      "each persisted partition plan version requires a unique plan_id"
  else .ok ()

/-- The version is there already, with the signature of the report. -/
def isPersisted (t : FileTree Content) (plan versionPath : Path) (signature : Json) :
    Except RepositoryError Bool :=
  if isCommitted t plan && t.isFile versionPath then do
    let existing ← readPlan t versionPath
    require ((Json.get existing "deterministic_signature").equal signature) "plan_version_conflict"
      "a different deterministic signature already exists for this plan version"
    return true
  else .ok false

/-- `_validate_plan`. -/
def validatePlan (rt : Runtime) (policy : Json) (report plan : Fields) :
    Except RepositoryError Unit := do
  let valid := match Json.get plan "valid" with
    | .bool b => b
    | _ => false
  require ((Json.get report "status").equal (.str "planned") && valid) "unvalidated_partition_plan"
    "only independently validated planned reports may be persisted"
  require (← ofPartition (PartitionPlanRepository.isIndependentlyValid rt policy report plan))
    "independent_validation_failed"
    "the V2 partition validator did not independently approve this report"

/-- `SchedulingHandoff`. -/
structure SchedulingHandoff where
  handoffId : String
  partitionPlanId : String
  partitionPlanVersion : ℤ
  createdAt : String
  status : String
  schedulerRef : Option String

/-- `SchedulingHandoff.create`. -/
def SchedulingHandoff.create (plan : PartitionExecutionPlan) (id clock : String) :
    SchedulingHandoff where
  handoffId := id
  partitionPlanId := plan.planId
  partitionPlanVersion := plan.planVersion
  createdAt := clock
  status := if plan.valid = true ∧ plan.handoffStatus = "ready" then "ready" else "blocked"
  schedulerRef := none

/-- `SchedulingHandoff.to_dict`. -/
def SchedulingHandoff.toDict (h : SchedulingHandoff) : Fields :=
  [("handoff_id", .str h.handoffId), ("partition_plan_id", .str h.partitionPlanId),
    ("partition_plan_version", .int h.partitionPlanVersion), ("created_at", .str h.createdAt),
    ("status", .str h.status), ("scheduler_ref", .ofOption .str h.schedulerRef)]

/-- What `save` draws: the identifier of the handoff and the times of the handoff and of the
history entry. -/
structure Stamps where
  handoff : Hex
  handoffTime : String
  historyTime : String

/-- `_with_canonical_handoff`. -/
def withCanonicalHandoff (rt : Runtime) (stamps : Stamps) (report plan : Fields) :
    Except RepositoryError Fields := do
  let decoded ← ofPartition (PartitionExecutionPlan.fromDict rt plan)
  return Json.set report "scheduling_handoff" (.obj (SchedulingHandoff.create decoded
    ("scheduling-handoff-" ++ stamps.handoff.text) stamps.handoffTime).toDict)

/-- The entry that `_history_entries` appends. -/
def historyEntry (stamps : Stamps) (report plan : Fields) : Fields :=
  [("plan_id", Json.get plan "plan_id"), ("plan_version", Json.get plan "plan_version"),
    ("parent_plan_id", Json.get plan "parent_plan_id"),
    ("deterministic_signature", Json.get plan "deterministic_signature"),
    ("status", Json.get report "status"), ("created_at", .str stamps.historyTime)] ++
  match Json.get plan "selection" with
  | .obj selection =>
      [("selection_mode", Json.get selection "mode"),
        ("ranker_model_version", Json.get selection "model_version"),
        ("ranker_artifact_hash", Json.get selection "model_artifact_hash"),
        ("final_selected_candidate_key", Json.get selection "final_selected_candidate_key")]
  | _ => []

/-- `_history_entries`. -/
def historyEntries (stamps : Stamps) (t : FileTree Content) (planDirectory : Path)
    (report plan : Fields) : Except RepositoryError (List Json) := do
  let entries ← if t.isFile (planDirectory ++ ["history.json"]) then
      readJson t (planDirectory ++ ["history.json"])
    else .ok (.arr [])
  match entries with
  | .arr entries => return entries ++ [.obj (historyEntry stamps report plan)]
  | _ => .error .attribute

/-! ### Reading -/

/-- `get` after the recovery that it starts with. -/
def getRecovered (planId : String) (version : Option ℤ) : Work Json := do
  let plan := pathParts planId
  let path ← orRaise (match version with
    | none => .ok (plan ++ ["latest.json"])
    | some version => (versionText version).map fun text => plan ++ ["versions", text, "report.json"])
  look fun t =>
    if isCommitted t plan && t.isFile path then readJson t path
    else .error (.contract "plan_not_found" ("no persisted plan found for " ++ planId))

/-- `get`: the latest report of a plan, or the report of a version. -/
def get (ls : Listing) (planId : String) (version : Option ℤ) : Work Json := do
  recoverIncompleteTransactions ls
  getRecovered planId version

/-- The loop of `_has_persisted_child`. -/
def hasChildAmong (t : FileTree Content) (parent : String) :
    List String → Except RepositoryError Bool
  | [] => .ok false
  | x :: rest =>
    if isCommitted t [x] && t.isFile [x, "latest.json"] then do
      let child ← readPlan t [x, "latest.json"]
      if (Json.get child "parent_plan_id").equal (.str parent) then .ok true
      else hasChildAmong t parent rest
    else hasChildAmong t parent rest

/-- `_has_persisted_child`. -/
def hasPersistedChild (ls : Listing) (t : FileTree Content) (parent : String) :
    Except RepositoryError Bool :=
  if t.isDir [] then hasChildAmong t parent (rootNames ls t) else .ok false

/-- `is_current_leaf`. -/
def isCurrentLeaf (ls : Listing) (planId : String) : Work Bool := do
  let _ ← get ls planId none
  let child ← look (hasPersistedChild ls · planId)
  return !child

/-- `report["plan"]`. -/
def planField : Json → Except RepositoryError Json
  | .obj report =>
    match report.lookup "plan" with
    | some plan => .ok plan
    | none => .error .key
  | _ => .error .type

/-- `plan.get(key)`. -/
def getField (key : String) : Json → Except RepositoryError Json
  | .obj plan => .ok (Json.get plan key)
  | _ => .error .attribute

/-- The plan that `history` reads next. -/
def nextPlan (py : Python) (report : Json) : Except RepositoryError (Option String) := do
  match ← getField "parent_plan_id" (← planField report) with
  | .null => return none
  | value => do
      let parent := Text.strip (← textOf py value)
      return if parent = "" then none else some parent

/-- The loop of `history`, at most `fuel` times; `none` when that is not enough. -/
def historyFrom (py : Python) (ls : Listing) :
    ℕ → List String → List Json → String → Work (Option (List Json))
  | 0, _, _, _ => pure none
  | fuel + 1, seen, lineage, planId =>
    if planId ∈ seen then
      throwing (.contract "plan_lineage_cycle" "partition plan lineage contains a cycle")
    else do
      let report ← get ls planId none
      match ← orRaise (nextPlan py report) with
      | none => pure (some (lineage ++ [report]))
      | some parent => historyFrom py ls fuel (planId :: seen) (lineage ++ [report]) parent

/-- `history`. -/
def history (py : Python) (ls : Listing) (fuel : ℕ) (planId : String) : Work (Option (List Json)) :=
  historyFrom py ls fuel [] [] planId

/-! ### Saving -/

/-- A program, with another exception in place of the one it raises. -/
def mapError {α : Type} (f : RepositoryError → RepositoryError) (m : Work α) : Work α := fun d =>
  match m d with
  | (.error (.raised e), d') => (.error (.raised (f e)), d')
  | r => r

/-- The `except` clause of `_validate_lineage`: a missing parent makes the plan an orphan. -/
def orphaned : RepositoryError → RepositoryError
  | .contract code message =>
    if code = "plan_not_found" then
      .contract "orphan_parent_plan" "parent_plan_id does not identify a persisted plan"
    else .contract code message
  | e => e

/-- `_validate_lineage`. -/
def validateLineage (py : Python) (ls : Listing) (plan : Fields) (version : ℤ) : Work Unit := do
  let parentId := Json.get plan "parent_plan_id"
  if version = 1 then
    orRaise (require (match parentId with | .null => true | _ => false) "non_immediate_parent_plan"
      "the initial plan version must not declare a parent")
  else do
    let parent ← orRaise (ofPartition (stripped py parentId))
    orRaise (require (parent.1 != "") "orphan_parent_plan"
      "a non-initial plan version requires a persisted parent plan")
    let report ← mapError orphaned (get ls parent.1 none)
    let found ← orRaise (do getField "plan_version" (← planField report))
    orRaise (require (found.equal (.int (version - 1))) "non_immediate_parent_plan"
      "parent_plan_id must identify the immediate preceding plan version")
    let child ← look (hasPersistedChild ls · parent.1)
    orRaise (require (!child) "non_immediate_parent_plan"
      "parent_plan_id already has a persisted immediate successor")

/-- What a call of `save` is given and draws. -/
structure SaveCall where
  report : Fields
  sidecars : Fields
  includeLegacyReport : Bool
  keys : SigningKeys
  stamps : Stamps
  ids : TransactionIds

/-- `save` after the recovery that it starts with. -/
def saveRecovered (rt : Runtime) (policy : Json) (ls : Listing) (call : SaveCall) :
    Work (Path × Fields) := do
  let (plan, version) ← orRaise (planIdentity rt.toPython call.report)
  let planId := rt.str (Json.get plan "plan_id")
  let directory := pathParts planId
  let versionPath := directory ++ ["versions", ← orRaise (versionText version), "report.json"]
  let sidecars ← orRaise (normalizeSidecars rt.toPython call.sidecars)
  let authenticator ← orRaise (authenticatorFor call.keys sidecars)
  look (checkVersion · directory version)
  if ← look (isPersisted · directory versionPath (Json.get plan "deterministic_signature")) then
    return (versionPath, call.report)
  orRaise (validatePlan rt policy call.report plan)
  validateLineage rt.toPython ls plan version
  let report ← orRaise (withCanonicalHandoff rt call.stamps call.report plan)
  let history ← look (historyEntries call.stamps · directory report plan)
  publishPlanDirectory ls call.ids {
    planId := planId
    version := version.toNat
    report := report
    history := history
    sidecars := sidecars
    includeLegacyReport := call.includeLegacyReport
    authenticator := authenticator }
  return (versionPath, report)

/-- `save`: the path of the version's report, and the report as the caller has it afterwards. -/
def save (rt : Runtime) (policy : Json) (ls : Listing) (call : SaveCall) : Work (Path × Fields) := do
  recoverIncompleteTransactions ls
  saveRecovered rt policy ls call

end Repository
end AiopsK8s
