/-
# The file of outcomes

`run_recovery_matrix` writes the record of every treatment as one line of JSON, and
`load_recovery_outcomes` cuts the file with `str.splitlines` and reads an outcome from each line.
The writer escapes the control characters and leaves U+0085, U+2028 and U+2029 as they are, which
`str.splitlines` takes for line boundaries.

`load_matrix_iff`: what a matrix wrote is read back, one outcome for each treatment, iff the matrix
has a treatment and no text of a record has one of these three characters.  A record that has one is
cut, and what stands before the cut is no document.
-/

import AiopsK8s.Comparison.Outcomes
import AiopsK8s.Comparison.TreatmentValues
import AiopsK8s.Lib.Lines
import AiopsK8s.Supervision.ProtocolCodec

namespace AiopsK8s
namespace Comparison

open Effect Supervision Execution JsonText

/-! ### Reading -/

/-- How reading an outcome from a document ends. -/
inductive ReadFailure where
  /-- A `KeyError`, a `TypeError` or a `ValueError`. -/
  | rejected
  /-- An `OverflowError`, which nothing catches. -/
  | overflow
  deriving DecidableEq

/-- What `load_recovery_outcomes` raises. -/
inductive LoadError where
  /-- `ValueError(f"invalid recovery outcome at line {line}: …")`. -/
  | invalidLine (line : ℕ)
  /-- `ValueError("recovery outcome file is empty")`. -/
  | empty
  /-- An `OverflowError`. -/
  | overflow
  deriving DecidableEq

section Reading

variable (py : Interpreter)

/-- `value[key]` for a text: a mapping may lack the key, and nothing else has one. -/
def subscript : Json → String → Except ReadFailure Json
  | .obj fields, key =>
    match fields.lookup key with
    | some value => .ok value
    | none => .error .rejected
  | _, _ => .error .rejected

/-- `float(value)`. -/
def floatOf : Json → Except ReadFailure PyFloat
  | .bool b => .ok (.finite (if b then 1 else 0))
  | .int i =>
    match PyFloat.ofInt i with
    | some x => .ok x
    | none => .error .overflow
  | .float x => .ok x
  | .str s =>
    match py.floatOfText s with
    | some x => .ok x
    | none => .error .rejected
  | _ => .error .rejected

/-- `int(value)`. -/
def integerOf (value : Json) : Except ReadFailure ℤ :=
  match intOf py value with
  | .ok i => .ok i
  | .error e => .error (if e.cls = .overflow then .overflow else .rejected)

/-- The action of `_outcome_from_dict`. -/
def actionFromDict (actionData : Json) : Except ReadFailure RecoveryAction := do
  let ns ← subscript actionData "namespace"
  let deployment ← subscript actionData "deployment"
  let kind ← subscript actionData "kind"
  match RecoveryActionKind.ofValue (py.str kind), actionData with
  | some kind, .obj fields => do
    let replicas ← match Json.get fields "replicas" with
      | .null => .ok none
      | value => some <$> integerOf py value
    return ⟨py.str ns, py.str deployment, kind, replicas,
      py.str (Json.getD fields "reason" (.str ""))⟩
  | _, _ => .error .rejected

/-- `_outcome_from_dict`. -/
def outcomeFromDict (data : Json) : Except ReadFailure (RecoveryOutcome PyFloat) := do
  let action ← subscript data "action" >>= actionFromDict py
  let scenario ← subscript data "scenario"
  let recoverySuccess ← subscript data "recovery_success" >>= floatOf py
  let availabilityRecovery ← subscript data "availability_recovery" >>= floatOf py
  let metricImprovement ← subscript data "metric_improvement" >>= floatOf py
  let recoverySeconds ← subscript data "recovery_seconds" >>= floatOf py
  let replicaDelta ← subscript data "replica_delta" >>= integerOf py
  let commandCount ← subscript data "command_count" >>= integerOf py
  let safetyValid ← subscript data "safety_valid"
  let measurementValid ← subscript data "measurement_valid"
  return ⟨py.str scenario, action, recoverySuccess, availabilityRecovery, metricImprovement,
    recoverySeconds, replicaDelta, commandCount, safetyValid.truthy, measurementValid.truthy⟩

/-- The `try` block of one line.  `json.loads` refuses an integer of more than 4300 digits. -/
def lineOutcome (number : ℕ) (text : String) : Except LoadError (RecoveryOutcome PyFloat) :=
  match JsonText.loads py.toPython text with
  | none => .error (.invalidLine number)
  | some data =>
    if data.hasLongInteger then .error (.invalidLine number)
    else match outcomeFromDict py data with
      | .ok outcome => .ok outcome
      | .error .rejected => .error (.invalidLine number)
      | .error .overflow => .error .overflow

/-- The loop over the lines, which skips the blank ones. -/
def readLines : ℕ → List String → Except LoadError (List (RecoveryOutcome PyFloat))
  | _, [] => .ok []
  | number, text :: texts =>
    if Text.isBlank text then readLines (number + 1) texts
    else do
      let outcome ← lineOutcome py number text
      let outcomes ← readLines (number + 1) texts
      return outcome :: outcomes

/-- `load_recovery_outcomes`, on the text of the file. -/
def loadRecoveryOutcomes (file : String) : Except LoadError (List (RecoveryOutcome PyFloat)) := do
  let outcomes ← readLines py 1 (Text.splitLines file)
  if outcomes.isEmpty then .error .empty else return outcomes

end Reading

/-! ### Writing -/

/-- The arguments of `run_recovery_matrix`. -/
structure MatrixCall where
  config : RecoveryExperimentConfig
  repetitions : ℤ
  mode : String
  prometheusUrl : String
  outputPath : String
  guardBackend : String
  environ : List (String × String)

/-- What `run_recovery_matrix` returns. -/
structure MatrixSummary where
  command : String
  mode : String
  guardBackend : String
  repetitions : ℤ
  totalTreatments : ℕ
  validMeasurements : ℕ
  successfulRecoveries : ℕ
  output : String

/-- The surroundings of a matrix, the file that it writes and the list `records`. -/
structure Desk (σ : Type) where
  env : σ
  file : String
  records : List TreatmentRecord

section Writing

variable {σ : Type} (py : Interpreter) (runtime : RecoveryExperimentRuntime σ) (polls : ℕ)
variable (matrix : MatrixCall)

/-- `f"{scenario.id}__{action}__repeat-{repetition:02d}"`. -/
def treatmentId (scenario : RecoveryScenario) (action : RecoveryActionKind) (repetition : ℕ) :
    String :=
  scenario.id ++ "__" ++ action.value ++ "__repeat-" ++ (if repetition < 10 then "0" else "") ++
    toString repetition

/-- `build_treatment_matrix`. -/
def buildTreatmentMatrix (config : RecoveryExperimentConfig) (repetitions : ℤ) :
    Except PyExn (List RecoveryTreatment) := do
  rejectIf (repetitions < 1) (.valueError "repetitions must be positive")
  return (List.range repetitions.toNat).flatMap fun k => config.scenarios.flatMap fun scenario =>
    config.actions.map fun action => ⟨treatmentId scenario action (k + 1), scenario, action, k + 1⟩

/-- The arguments of the treatment. -/
def MatrixCall.treatmentCall (treatment : RecoveryTreatment) : TreatmentCall :=
  ⟨treatment, matrix.config, matrix.mode, matrix.prometheusUrl, matrix.guardBackend, matrix.environ⟩

/-- `json.dumps(record, ensure_ascii=False)`, which refuses an integer of more than 4300 digits. -/
def dumpRecord (record : TreatmentRecord) : Except PyExn String :=
  if (Json.obj record.toDict).hasLongInteger then
    .error (.valueError "Exceeds the limit (4300 digits) for integer string conversion")
  else .ok (JsonText.line py.toPython (.obj record.toDict))

/-- The body of the loop. -/
def runTreatment (treatment : RecoveryTreatment) : Eff (Desk σ) Halt Unit := do
  let record ← Eff.zoom Desk.env (fun env desk => { desk with env })
    (runRecoveryTreatment py runtime (matrix.treatmentCall treatment) polls)
  let text ← Eff.ofExcept ((dumpRecord py record).mapError some)
  Eff.modify fun desk => { desk with
    file := desk.file ++ (text ++ "\n"), records := desk.records ++ [record] }

/-- `run_recovery_matrix`, where a wait makes at most `polls` polls. -/
def runRecoveryMatrix : Eff (Desk σ) Halt MatrixSummary := do
  let treatments ← Eff.ofExcept
    ((buildTreatmentMatrix matrix.config matrix.repetitions).mapError some)
  let _ ← Eff.ofExcept ((matrix.config.scenarios.mapM fun scenario =>
    resolveMetricQuery scenario matrix.environ).mapError some)
  Eff.modify fun desk => { desk with file := "", records := [] }
  treatments.forM (runTreatment py runtime polls matrix)
  let desk ← Eff.get
  return { command := "recovery-action-experiment", mode := matrix.mode
           guardBackend := matrix.guardBackend, repetitions := matrix.repetitions
           totalTreatments := desk.records.length
           validMeasurements := desk.records.countP (·.measurementValid)
           successfulRecoveries := desk.records.countP (·.recoverySuccess)
           output := matrix.outputPath }

end Writing

/-! ### A record is read back -/

/-- The outcome that a record says. -/
def TreatmentRecord.outcome (record : TreatmentRecord) : RecoveryOutcome PyFloat :=
  ⟨record.scenario, record.action, .finite (if record.recoverySuccess then 1 else 0),
    record.availabilityRecovery, record.metricImprovement, record.recoverySeconds,
    record.replicaDelta, record.commandCount, record.safetyValid, record.measurementValid⟩

section Records

variable {py : Interpreter} {fl : Floats py.toPython} {record : TreatmentRecord}

theorem subscript_toDict (key : String) {value : Json}
    (h : record.initialEntries.lookup key = some value) :
    subscript (.obj record.toDict) key = .ok value := by
  have hlookup : record.toDict.lookup key = some value := by
    rw [TreatmentRecord.toDict, List.lookup_append, h]
    rfl
  simp only [subscript, hlookup]

theorem actionFromDict_actionFields (action : RecoveryAction) :
    actionFromDict py (.obj (actionFields action)) = .ok action := by
  have hkind : RecoveryActionKind.ofValue (py.str (.str action.kind.value)) = some action.kind :=
    RecoveryActionKind.ofValue_value action.kind
  have hreplicas : Json.get (actionFields action) "replicas" = .ofOption .int action.replicas := by
    simp [Json.get, actionFields, List.lookup_cons]
  show (match RecoveryActionKind.ofValue (py.str (.str action.kind.value)),
    Json.obj (actionFields action) with
    | some kind, .obj fields => _
    | _, _ => _) = _
  rw [hkind]
  dsimp only
  rw [hreplicas]
  cases hcount : action.replicas with
  | none => simp [Json.ofOption, actionFields, Json.getD, List.lookup_cons, Python.str, ← hcount]
  | some count =>
      simp [Json.ofOption, integerOf, intOf, actionFields, Json.getD, List.lookup_cons, Python.str,
        ← hcount]

/-- **The document of a record is read as its outcome.** -/
theorem outcomeFromDict_toDict : outcomeFromDict py (.obj record.toDict) = .ok record.outcome := by
  unfold outcomeFromDict
  rw [subscript_toDict "action" rfl, subscript_toDict "scenario" rfl,
    subscript_toDict "recovery_success" rfl,
    subscript_toDict "availability_recovery" rfl,
    subscript_toDict "metric_improvement" rfl,
    subscript_toDict "recovery_seconds" rfl, subscript_toDict "replica_delta" rfl,
    subscript_toDict "command_count" rfl, subscript_toDict "safety_valid" rfl,
    subscript_toDict "measurement_valid" rfl]
  show (actionFromDict py (.obj (actionFields record.action)) >>= _) = _
  rw [actionFromDict_actionFields]
  rfl

/-- **The document of a record is a value** where the values of the record are. -/
theorem TreatmentRecord.Holds.isValue (h : record.Holds fl) : IsValue fl (.obj record.toDict) := by
  refine ⟨record.nodup_toDict, areEntries_iff.2 fun e he => ?_⟩
  have haction : IsValue fl (.obj (actionFields record.action)) := by
    refine ⟨by simp [actionFields], areEntries_iff.2 fun e he => ?_⟩
    simp only [actionFields, List.mem_cons, List.not_mem_nil, or_false] at he
    rcases he with rfl | rfl | rfl | rfl | rfl <;> try trivial
    cases record.action.replicas <;> trivial
  rcases List.mem_append.1 he with he | he
  · simp only [initialEntries, List.mem_cons, List.not_mem_nil, or_false] at he
    rcases he with rfl | rfl | rfl | rfl | rfl | rfl | rfl | rfl | rfl | rfl | rfl | rfl | rfl |
      rfl | rfl | rfl | rfl <;>
      first | trivial | exact haction | exact h.availabilityRecovery | exact h.metricImprovement |
        exact h.recoverySeconds
  · obtain ⟨⟨key, value⟩, hadded, hvalue⟩ := List.mem_filterMap.1 he
    obtain ⟨value, rfl, rfl⟩ := Option.map_eq_some_iff.1 hvalue
    have hsnapshot : ∀ s : Option Snapshot, s ∈ [record.before, record.fault, record.after] →
        some value = s.map .obj → IsValue fl value := by
      intro s hs hv
      obtain ⟨s, rfl, rfl⟩ := Option.map_eq_some_iff.1 hv.symm
      exact h.snapshots s hs
    have hnumber : ∀ x : Option PyFloat, x ∈ [record.metricBeforeFault, record.metricAtFault,
        record.faultDetectionSeconds, record.metricAfterAction] → some value = x.map .float →
        IsValue fl value := by
      intro x hx hv
      obtain ⟨x, rfl, rfl⟩ := Option.map_eq_some_iff.1 hv.symm
      exact h.numbers x hx
    simp only [addedEntries, List.mem_cons, List.not_mem_nil, or_false, Prod.mk.injEq] at hadded
    rcases hadded with ⟨-, hv⟩ | ⟨-, hv⟩ | ⟨-, hv⟩ | ⟨-, hv⟩ | ⟨-, hv⟩ | ⟨-, hv⟩ | ⟨-, hv⟩ |
      ⟨-, hv⟩ | ⟨-, hv⟩
    · exact hsnapshot _ (by simp) hv
    · exact hnumber _ (by simp) hv
    · exact hsnapshot _ (by simp) hv
    · exact hnumber _ (by simp) hv
    · exact hnumber _ (by simp) hv
    · obtain ⟨result, -, rfl⟩ := Option.map_eq_some_iff.1 hv.symm
      refine ⟨by simp [commandResultFields], areEntries_iff.2 fun e he => ?_⟩
      simp only [commandResultFields, List.mem_cons, List.not_mem_nil, or_false] at he
      rcases he with rfl | rfl | rfl | rfl | rfl <;> trivial
    · exact hnumber _ (by simp) hv
    · exact hsnapshot _ (by simp) hv
    · obtain ⟨text, -, rfl⟩ := Option.map_eq_some_iff.1 hv.symm
      trivial

end Records

/-! ### Reading the lines of records -/

section Lines

variable {py : Interpreter} {fl : Floats py.toPython}

/-- The line of a record. -/
def recordChars (py : Interpreter) (record : TreatmentRecord) : List Char :=
  spacedChars py.toPython (.obj record.toDict)

/-- A record that was written: its document is a value, and its integers have a text. -/
structure Writable (fl : Floats py.toPython) (record : TreatmentRecord) : Prop where
  value : IsValue fl (.obj record.toDict)
  short : (Json.obj record.toDict).hasLongInteger = false

/-- A text or a key of the record has a boundary that is not escaped. -/
def TreatmentRecord.Breaks (record : TreatmentRecord) : Prop :=
  hasRawBreak (.obj record.toDict) = true

theorem isBlank_of_brace {t : List Char} : Text.isBlank (String.ofList ('{' :: t)) = false := by
  refine Bool.eq_false_iff.2 fun hblank => ?_
  have hspace := Text.isBlank_iff_forall.1 hblank '{' (by simp)
  exact absurd hspace (by decide)

theorem recordChars_cons (py : Interpreter) (record : TreatmentRecord) :
    ∃ t, recordChars py record = '{' :: t := ⟨_, rfl⟩

variable {record : TreatmentRecord} {records : List TreatmentRecord}

theorem lineOutcome_line (h : Writable fl record) (number : ℕ) :
    lineOutcome py number (String.ofList (recordChars py record)) = .ok record.outcome := by
  have hloads : loads py.toPython (String.ofList (recordChars py record)) =
      some (.obj record.toDict) := loads_line h.value
  unfold lineOutcome
  rw [hloads]
  dsimp only
  rw [h.short, outcomeFromDict_toDict]
  rfl

/-- The lines of records are read, and then what follows them. -/
theorem readLines_append (h : ∀ record ∈ records, Writable fl record) (number : ℕ)
    (texts : List String) :
    readLines py number (records.map (fun r => String.ofList (recordChars py r)) ++ texts) =
      (readLines py (number + records.length) texts).map (records.map (·.outcome) ++ ·) := by
  induction records generalizing number with
  | nil =>
      rw [List.map_nil, List.nil_append, List.length_nil, Nat.add_zero]
      cases readLines py number texts <;> rfl
  | cons record records ih =>
      obtain ⟨t, ht⟩ := recordChars_cons py record
      have hblank : Text.isBlank (String.ofList (recordChars py record)) = false := by
        rw [ht]
        exact isBlank_of_brace
      rw [List.map_cons, List.cons_append, readLines, hblank, if_neg Bool.false_ne_true,
        lineOutcome_line (h record List.mem_cons_self),
        ih (fun r hr => h r (List.mem_cons_of_mem _ hr)), List.length_cons,
        show number + (records.length + 1) = number + 1 + records.length by omega]
      cases readLines py (number + 1 + records.length) texts <;> rfl

/-- The file of records. -/
def recordsFile (py : Interpreter) (records : List TreatmentRecord) : String :=
  String.ofList (Text.joinLines (records.map (recordChars py)))

/-- **A file of records without a raw boundary is read back.** -/
theorem load_recordsFile (h : ∀ record ∈ records, Writable fl record) (hne : records ≠ [])
    (hbreaks : ∀ record ∈ records, ¬record.Breaks) :
    loadRecoveryOutcomes py (recordsFile py records) = .ok (records.map (·.outcome)) := by
  have hlines : ∀ l ∈ records.map (recordChars py), l.any Text.isLineBreak = false := by
    intro l hl
    obtain ⟨record, hrecord, rfl⟩ := List.mem_map.1 hl
    rw [recordChars, any_isLineBreak_spacedChars _ (h record hrecord).value]
    exact Bool.eq_false_of_not_eq_true (hbreaks record hrecord)
  have hsplit : Text.splitLines (recordsFile py records) =
      records.map (fun r => String.ofList (recordChars py r)) ++ [] := by
    have hchars := Text.splitLinesChars_joinLines hlines []
    rw [List.append_nil] at hchars
    rw [Text.splitLines, recordsFile, String.toList_ofList, hchars, List.map_append, List.map_map]
    rfl
  unfold loadRecoveryOutcomes
  rw [hsplit, readLines_append h]
  show (if (records.map TreatmentRecord.outcome ++ []).isEmpty = true then _ else _) = _
  rw [List.append_nil, List.isEmpty_map, if_neg (by simpa using hne)]
  exact congrArg Except.ok (List.append_nil _)

/-- **A file with a record that breaks is not read**: the line up to the boundary is no document. -/
theorem load_recordsFile_of_breaks (h : ∀ record ∈ records, Writable fl record)
    (hbreaks : ∃ record ∈ records, record.Breaks) :
    ∃ number, loadRecoveryOutcomes py (recordsFile py records) = .error (.invalidLine number) := by
  classical
  -- the first record that breaks
  obtain ⟨pre, record, post, rfl, hpre, hrecord⟩ : ∃ pre record post,
      records = pre ++ record :: post ∧ (∀ r ∈ pre, ¬r.Breaks) ∧ record.Breaks := by
    clear h
    induction records with
    | nil =>
        obtain ⟨_, hmem, -⟩ := hbreaks
        cases hmem
    | cons r records ih =>
        by_cases hr : r.Breaks
        · exact ⟨[], r, records, rfl, by simp, hr⟩
        · obtain ⟨r', hmem, hr'⟩ := hbreaks
          rcases List.mem_cons.1 hmem with rfl | hmem
          · exact absurd hr' hr
          · obtain ⟨pre, r'', post, rfl, hpre, hbroken⟩ := ih ⟨r', hmem, hr'⟩
            exact ⟨r :: pre, r'', post, rfl, List.forall_mem_cons.2 ⟨hr, hpre⟩, hbroken⟩
  have hwritable := h record (by simp)
  have hbefore : ∀ r ∈ pre, Writable fl r := fun r hr => h r (by simp [hr])
  have hlines : ∀ l ∈ pre.map (recordChars py), l.any Text.isLineBreak = false := by
    intro l hl
    obtain ⟨r, hr, rfl⟩ := List.mem_map.1 hl
    rw [recordChars, any_isLineBreak_spacedChars _ (hbefore r hr).value]
    exact Bool.eq_false_of_not_eq_true (hpre r hr)
  have hcut : (recordChars py record).any Text.isLineBreak = true := by
    rw [recordChars, any_isLineBreak_spacedChars _ hwritable.value]
    exact hrecord
  obtain ⟨p, c, q, rest, htext, hc, hsplit⟩ : ∃ p c q rest, recordChars py record = p ++ c :: q ∧
      Text.isLineBreak c = true ∧ Text.splitLinesChars [] (Text.joinLines
        (pre.map (recordChars py) ++ recordChars py record :: post.map (recordChars py))) =
          pre.map (recordChars py) ++ p :: rest := Text.splitLinesChars_cut hlines hcut
  obtain ⟨t, hbrace⟩ : ∃ t, p = '{' :: t := by
    obtain ⟨t, ht⟩ := recordChars_cons py record
    rw [ht] at htext
    rcases p with _ | ⟨d, p⟩
    · obtain rfl : '{' = c := (List.cons.inj htext).1
      exact absurd hc (by decide)
    · exact ⟨p, by rw [(List.cons.inj htext).1]⟩
  have hnone : loads py.toPython (String.ofList p) = none :=
    loads_linePrefix hwritable.value htext (by rw [hbrace]; nofun) nofun
  have hpiece : ∀ number, lineOutcome py number (String.ofList p) =
      .error (.invalidLine number) := by
    intro number
    unfold lineOutcome
    rw [hnone]
  have hblank : Text.isBlank (String.ofList p) = false := by
    rw [hbrace]
    exact isBlank_of_brace
  have htexts : Text.splitLines (recordsFile py (pre ++ record :: post)) =
      pre.map (fun r => String.ofList (recordChars py r)) ++
        String.ofList p :: rest.map String.ofList := by
    rw [Text.splitLines, recordsFile, String.toList_ofList, List.map_append, List.map_cons, hsplit,
      List.map_append, List.map_map, List.map_cons]
    rfl
  refine ⟨1 + pre.length, ?_⟩
  unfold loadRecoveryOutcomes
  rw [htexts, readLines_append hbefore, readLines, hblank, if_neg Bool.false_ne_true, hpiece]
  rfl

end Lines

/-! ### The matrix -/

section Matrix

variable {σ : Type} {py : Interpreter} {runtime : RecoveryExperimentRuntime σ} {polls : ℕ}
variable {matrix : MatrixCall}

variable (py runtime polls matrix) in
/-- The treatment returned the record. -/
def Recorded (record : TreatmentRecord) (treatment : RecoveryTreatment) : Prop :=
  ∃ env env', (runRecoveryTreatment py runtime (matrix.treatmentCall treatment) polls).run env =
    (.ok record, env')

/-- The file of the desk has the lines of its records, whose integers have a text. -/
structure Filled (py : Interpreter) (desk : Desk σ) : Prop where
  file : desk.file = recordsFile py desk.records
  short : ∀ record ∈ desk.records, (Json.obj record.toDict).hasLongInteger = false

theorem recordsFile_append (records : List TreatmentRecord) (record : TreatmentRecord) :
    recordsFile py (records ++ [record]) =
      recordsFile py records ++ (JsonText.line py.toPython (.obj record.toDict) ++ "\n") := by
  rw [← String.toList_inj]
  simp [recordsFile, Text.joinLines, JsonText.line, recordChars]

/-- **One treatment** adds its record and the line of it. -/
theorem runTreatment_spec {treatment : RecoveryTreatment} {desk desk' : Desk σ}
    (h : (runTreatment py runtime polls matrix treatment).run desk = (.ok (), desk')) :
    ∃ record, Recorded py runtime polls matrix record treatment ∧
      desk'.records = desk.records ++ [record] ∧ (Filled py desk → Filled py desk') := by
  obtain ⟨record, desk₁, htreatment, h⟩ := Eff.run_bind_ok h
  obtain ⟨text, desk₂, htext, h⟩ := Eff.run_bind_ok h
  rw [Eff.run_zoom] at htreatment
  rcases hrun : (runRecoveryTreatment py runtime (matrix.treatmentCall treatment) polls).run
    desk.env with ⟨r, env'⟩
  rw [hrun] at htreatment
  obtain ⟨rfl, rfl⟩ := Prod.mk.inj htreatment
  obtain ⟨hmapped, rfl⟩ := Prod.mk.inj htext
  obtain ⟨-, rfl⟩ := Prod.mk.inj h
  refine ⟨record, ⟨_, _, hrun⟩, rfl, fun hfilled => ?_⟩
  by_cases hlong : (Json.obj record.toDict).hasLongInteger = true
  · rw [dumpRecord, if_pos hlong] at hmapped
    cases hmapped
  · rw [dumpRecord, if_neg hlong] at hmapped
    obtain rfl := Except.ok.inj hmapped
    refine ⟨?_, fun r hr => ?_⟩
    · rw [recordsFile_append, ← hfilled.file]
    · rcases List.mem_append.1 hr with hr | hr
      · exact hfilled.short r hr
      · rw [List.mem_singleton.1 hr]
        exact Bool.eq_false_of_not_eq_true hlong

/-- **The loop over the treatments** adds one record for each, in order. -/
theorem runTreatments_spec {treatments : List RecoveryTreatment} {desk desk' : Desk σ}
    (h : (treatments.forM (runTreatment py runtime polls matrix)).run desk = (.ok (), desk')) :
    ∃ records, desk'.records = desk.records ++ records ∧
      List.Forall₂ (Recorded py runtime polls matrix) records treatments ∧
      (Filled py desk → Filled py desk') := by
  induction treatments generalizing desk with
  | nil =>
      obtain ⟨-, rfl⟩ := Prod.mk.inj h
      exact ⟨[], (List.append_nil _).symm, .nil, id⟩
  | cons treatment treatments ih =>
      obtain ⟨_, desk₁, hfirst, h⟩ := Eff.run_bind_ok h
      obtain ⟨record, hrecorded, hrecords, hfilled⟩ := runTreatment_spec hfirst
      obtain ⟨records, hrest, hforall, hkeeps⟩ := ih h
      refine ⟨record :: records, ?_, .cons hrecorded hforall, hkeeps ∘ hfilled⟩
      rw [hrest, hrecords, List.append_assoc, List.singleton_append]

/-- **What a matrix wrote**: the lines of one record for each treatment, in the order of the
treatments. -/
theorem runRecoveryMatrix_spec {summary : MatrixSummary} {desk desk' : Desk σ}
    (h : (runRecoveryMatrix py runtime polls matrix).run desk = (.ok summary, desk')) :
    ∃ treatments, buildTreatmentMatrix matrix.config matrix.repetitions = .ok treatments ∧
      List.Forall₂ (Recorded py runtime polls matrix) desk'.records treatments ∧
      Filled py desk' := by
  obtain ⟨treatments, desk₁, hbuild, h₁⟩ := Eff.run_bind_ok h
  obtain ⟨_, desk₂, -, h₂⟩ := Eff.run_bind_ok h₁
  obtain ⟨_, desk₃, hcleared, h₃⟩ := Eff.run_bind_ok h₂
  obtain ⟨_, desk₄, htreatments, h₄⟩ := Eff.run_bind_ok h₃
  obtain rfl : desk₄ = desk' := congrArg Prod.snd h₄
  obtain ⟨-, rfl⟩ := Prod.mk.inj hcleared
  obtain ⟨records, hrecords, hforall, hfilled⟩ := runTreatments_spec htreatments
  refine ⟨treatments, ?_, ?_, hfilled ⟨rfl, by simp⟩⟩
  · have hresult := (Prod.mk.inj hbuild).1
    cases hb : buildTreatmentMatrix matrix.config matrix.repetitions with
    | error e =>
        rw [hb] at hresult
        cases hresult
    | ok built =>
        rw [hb] at hresult
        exact congrArg Except.ok (Except.ok.inj hresult)
  · rw [hrecords]
    exact hforall

/-- A matrix has treatments iff there are scenarios and actions. -/
theorem buildTreatmentMatrix_ne_nil {config : RecoveryExperimentConfig} {repetitions : ℤ}
    {treatments : List RecoveryTreatment}
    (h : buildTreatmentMatrix config repetitions = .ok treatments) :
    treatments ≠ [] ↔ config.scenarios ≠ [] ∧ config.actions ≠ [] := by
  obtain ⟨_, hreject, h⟩ := bind_eq_ok h
  have hpositive : ¬repetitions < 1 := rejectIf_eq_ok.1 hreject
  obtain rfl := Except.ok.inj h
  obtain ⟨n, hn⟩ : ∃ n, repetitions.toNat = n + 1 := ⟨repetitions.toNat - 1, by omega⟩
  rw [hn]
  constructor
  · intro hne
    refine ⟨fun hscenarios => hne ?_, fun hactions => hne ?_⟩
    · simp [hscenarios]
    · simp [hactions]
  · rintro ⟨hscenarios, hactions⟩ hnil
    obtain ⟨scenario, scenarios, hs⟩ := List.exists_cons_of_ne_nil hscenarios
    obtain ⟨action, actions, ha⟩ := List.exists_cons_of_ne_nil hactions
    rw [List.range_succ_eq_map, hs, ha] at hnil
    simp at hnil

/-- The outcome says what the record says. -/
structure Matches (outcome : RecoveryOutcome PyFloat) (record : TreatmentRecord) : Prop where
  scenario : outcome.scenario = record.scenario
  action : outcome.action = record.action
  recoverySuccess : outcome.recoverySuccess = .finite (if record.recoverySuccess then 1 else 0)
  availabilityRecovery : outcome.availabilityRecovery = record.availabilityRecovery
  metricImprovement : outcome.metricImprovement = record.metricImprovement
  recoverySeconds : outcome.recoverySeconds = record.recoverySeconds
  replicaDelta : outcome.replicaDelta = record.replicaDelta
  commandCount : outcome.commandCount = record.commandCount
  safetyValid : outcome.safetyValid = record.safetyValid
  measurementValid : outcome.measurementValid = record.measurementValid

variable (py runtime polls matrix) in
/-- **The file of a matrix is read back**: one outcome for each treatment, in the order of the
treatments, and it says what the record of the treatment says. -/
def ReadBackAs (desk : Desk σ) : Prop :=
  ∃ treatments outcomes, buildTreatmentMatrix matrix.config matrix.repetitions = .ok treatments ∧
    List.Forall₂ (Recorded py runtime polls matrix) desk.records treatments ∧
    loadRecoveryOutcomes py desk.file = .ok outcomes ∧
    List.Forall₂ Matches outcomes desk.records

theorem matches_outcomes (records : List TreatmentRecord) :
    List.Forall₂ Matches (records.map (·.outcome)) records := by
  induction records with
  | nil => exact .nil
  | cons record records ih => exact .cons ⟨rfl, rfl, rfl, rfl, rfl, rfl, rfl, rfl, rfl, rfl⟩ ih

variable {fl : Floats py.toPython}

/-- The records of a matrix were written. -/
theorem writable_of_recorded (hbinary : Binary fl) (hyields : runtime.Yields fl) {desk : Desk σ}
    {treatments : List RecoveryTreatment} (hfilled : Filled py desk)
    (hrecorded : List.Forall₂ (Recorded py runtime polls matrix) desk.records treatments) :
    ∀ record ∈ desk.records, Writable fl record := by
  intro record hmem
  obtain ⟨i, hi, rfl⟩ := List.getElem_of_mem hmem
  obtain ⟨hlength, hall⟩ := List.forall₂_iff_get.1 hrecorded
  obtain ⟨env, env', hrun⟩ := hall i hi (hlength ▸ hi)
  exact ⟨(record_holds hbinary hyields hrun).isValue, hfilled.short _ hmem⟩

/-- The file of a matrix that is read back has no record that breaks. -/
theorem ReadBackAs.not_breaks (hbinary : Binary fl) (hyields : runtime.Yields fl)
    {summary : MatrixSummary} {desk desk' : Desk σ}
    (hrun : (runRecoveryMatrix py runtime polls matrix).run desk = (.ok summary, desk'))
    (h : ReadBackAs py runtime polls matrix desk') : ∀ record ∈ desk'.records, ¬record.Breaks := by
  intro record hrecord hbreaks
  obtain ⟨treatments, -, hrecorded, hfilled⟩ := runRecoveryMatrix_spec hrun
  obtain ⟨_, outcomes, -, -, hload, -⟩ := h
  obtain ⟨number, herror⟩ := load_recordsFile_of_breaks
    (writable_of_recorded hbinary hyields hfilled hrecorded) ⟨record, hrecord, hbreaks⟩
  rw [hfilled.file, herror] at hload
  cases hload

/-- **What a matrix wrote is read back** iff it has a scenario and an action, and no text of a
record has a line boundary that is not escaped. -/
theorem load_matrix_iff (hbinary : Binary fl) (hyields : runtime.Yields fl)
    {summary : MatrixSummary} {desk desk' : Desk σ}
    (hrun : (runRecoveryMatrix py runtime polls matrix).run desk = (.ok summary, desk')) :
    ReadBackAs py runtime polls matrix desk' ↔
      (matrix.config.scenarios ≠ [] ∧ matrix.config.actions ≠ []) ∧
        ∀ record ∈ desk'.records, ¬record.Breaks := by
  obtain ⟨treatments, hbuild, hrecorded, hfilled⟩ := runRecoveryMatrix_spec hrun
  have hwritable := writable_of_recorded hbinary hyields hfilled hrecorded
  have hempty : desk'.records ≠ [] ↔ treatments ≠ [] := by
    rw [Ne, Ne, ← List.length_eq_zero_iff, ← List.length_eq_zero_iff, hrecorded.length_eq]
  rw [← buildTreatmentMatrix_ne_nil hbuild, ← hempty]
  constructor
  · refine fun h => ⟨fun hnil => ?_, h.not_breaks hbinary hyields hrun⟩
    obtain ⟨_, outcomes, -, -, hload, -⟩ := h
    rw [hfilled.file, hnil] at hload
    cases hload
  · rintro ⟨hne, hbreaks⟩
    refine ⟨treatments, desk'.records.map (·.outcome), hbuild, hrecorded, ?_,
      matches_outcomes _⟩
    rw [hfilled.file]
    exact load_recordsFile hwritable hne hbreaks

end Matrix

/-! ### Two files -/

namespace OutcomeFile

open Treatment

/-- An interpreter that writes a float as the quotient of its numerator and its denominator; an
integer has the text `n.0`. -/
def quotients : Interpreter where
  repr
    | .float (.finite q) => toString q.num ++ "." ++ toString (q.den - 1)
    | _ => ""
  floatOfText text := some (.finite (intOfLiteral (text.toList.takeWhile (· ≠ '.')) /
    (Nat.ofDigitChars 10 (text.toList.dropWhile (· ≠ '.')).tail 0 + 1 : ℕ)))
  foldChar c := [c]
  intOfText _ := none

theorem toList_repr_quotients (q : ℚ) : (quotients.repr (.number q)).toList =
    (toString q.num).toList ++ '.' :: Nat.toDigits 10 (q.den - 1) := by
  show (toString q.num ++ "." ++ Nat.repr (q.den - 1)).toList = _
  rw [String.toList_append, String.toList_append, Nat.toList_repr, List.append_assoc]
  rfl

theorem isDigit_toDigits {n : ℕ} {c : Char} (h : c ∈ Nat.toDigits 10 n) : c.isDigit = true :=
  Nat.isDigit_of_mem_toDigits (by omega) (by omega) h

/-- A digit or a sign is no point. -/
theorem ne_point_of_intLiteral {i : List Char} (h : IntLiteral i) : ∀ c ∈ i, c ≠ '.' := by
  have hdigits : ∀ ds, NatLiteral ds → ∀ c ∈ ds, c ≠ '.' := by
    rintro ds hds c hc rfl
    exact absurd (hds.digits _ hc) (by decide)
  rcases h with h | ⟨ds, rfl, h⟩
  · exact hdigits i h
  · exact List.forall_mem_cons.2 ⟨by decide, hdigits ds h⟩

/-- Every rational is a float of this interpreter. -/
def quotientFloats : Floats quotients.toPython where
  IsFloat _ := True
  literal q _ := by
    rw [toList_repr_quotients]
    refine ⟨(toString q.num).toList, '.' :: Nat.toDigits 10 (q.den - 1), [], ?_,
      intLiteral_toString _, .inr ⟨_, rfl, ?_, fun c => isDigit_toDigits⟩, .inl rfl, .inl nofun⟩
    · rw [List.append_nil]
    · exact List.ne_nil_of_length_pos (Nat.length_toDigits_pos ..)
  parse q _ := by
    have hpoint := ne_point_of_intLiteral (intLiteral_toString q.num)
    have htake : (quotients.repr (.number q)).toList.takeWhile (· ≠ '.') =
        (toString q.num).toList := by
      rw [toList_repr_quotients, List.takeWhile_append_of_pos (by simpa using hpoint)]
      simp
    have hdrop : (quotients.repr (.number q)).toList.dropWhile (· ≠ '.') =
        '.' :: Nat.toDigits 10 (q.den - 1) := by
      rw [toList_repr_quotients, List.dropWhile_append_of_pos (by simpa using hpoint)]
      simp
    show some (PyFloat.finite _) = _
    rw [htake, hdrop, intOfLiteral_toString, List.tail_cons, Nat.ofDigitChars_ten_toDigits,
      Nat.sub_add_cancel q.pos, Rat.num_div_den]
  ofInt i := some i
  ofInt_isFloat _ _ _ := trivial
  ofInt_small i q h _ := (Option.some.inj h).symm

theorem binary_quotientFloats : Binary quotientFloats := fun _ _ => trivial

/-- The cluster cannot be reached, and kubectl says so. -/
def unreachable (stderr : String) : RecoveryExperimentRuntime Unit where
  kubectl _ := pure (1, "", stderr)
  queryMetric _ _ := Eff.raise ⟨.other, "no Prometheus"⟩
  snapshot _ _ := pure []
  sleep _ := pure ()
  monotonic := pure (.finite 0)
  goGuard _ _ := pure (emptyResult "mock" "")
  now _ := "2026-01-01T00:00:00+00:00"

theorem yields_unreachable (stderr : String) : (unreachable stderr).Yields quotientFloats where
  queryMetric _ _ _ _ _ h := nomatch congrArg Prod.fst h
  snapshot _ _ _ s _ h := by
    obtain rfl : [] = s := Except.ok.inj (congrArg Prod.fst h)
    exact ⟨List.nodup_nil, trivial⟩

/-- One treatment, which observes. -/
def oneTreatment : MatrixCall :=
  ⟨config, 1, "mock", "", "outcomes.jsonl", "python", []⟩

/-- The surroundings before the matrix. -/
def emptyDesk : Desk Unit := ⟨(), "", []⟩

/-- **A line separator in what kubectl says**: the treatment fails, its record is written, and the
file is not read. -/
theorem lineSeparator_not_readBack : ∃ summary desk,
    (runRecoveryMatrix quotients (unreachable "no route\u2028to host") 1 oneTreatment).run
        emptyDesk = (.ok summary, desk) ∧
      ¬ReadBackAs quotients (unreachable "no route\u2028to host") 1 oneTreatment desk := by
  have hruns : ((runRecoveryMatrix quotients (unreachable "no route\u2028to host") 1
      oneTreatment).run emptyDesk).1.toOption.isSome = true := by decide +kernel
  have hbreaks : (((runRecoveryMatrix quotients (unreachable "no route\u2028to host") 1
      oneTreatment).run emptyDesk).2.records.any fun record =>
        hasRawBreak (.obj record.toDict)) = true := by decide +kernel
  rcases hrun : (runRecoveryMatrix quotients (unreachable "no route\u2028to host") 1
    oneTreatment).run emptyDesk with ⟨halt | summary, desk⟩
  · rw [hrun] at hruns
    cases hruns
  · rw [hrun] at hbreaks
    obtain ⟨record, hrecord, hbroken⟩ := List.any_eq_true.1 hbreaks
    exact ⟨summary, desk, rfl, fun h => h.not_breaks binary_quotientFloats
      (yields_unreachable _) hrun record hrecord hbroken⟩

/-- The law at a treatment that fails with a text of one line. -/
theorem load_matrix_iff_unreachable : ∃ summary desk,
    (runRecoveryMatrix quotients (unreachable "no route to host") 1 oneTreatment).run emptyDesk =
        (.ok summary, desk) ∧
      ReadBackAs quotients (unreachable "no route to host") 1 oneTreatment desk := by
  have hruns : ((runRecoveryMatrix quotients (unreachable "no route to host") 1
      oneTreatment).run emptyDesk).1.toOption.isSome = true := by decide +kernel
  have hbreaks : (((runRecoveryMatrix quotients (unreachable "no route to host") 1
      oneTreatment).run emptyDesk).2.records.all fun record =>
        !hasRawBreak (.obj record.toDict)) = true := by decide +kernel
  rcases hrun : (runRecoveryMatrix quotients (unreachable "no route to host") 1
    oneTreatment).run emptyDesk with ⟨halt | summary, desk⟩
  · rw [hrun] at hruns
    cases hruns
  · rw [hrun] at hbreaks
    refine ⟨summary, desk, rfl, (load_matrix_iff binary_quotientFloats (yields_unreachable _)
      hrun).2 ⟨⟨List.cons_ne_nil _ _, List.cons_ne_nil _ _⟩, fun record hrecord hbroken => ?_⟩⟩
    have hnot := List.all_eq_true.1 hbreaks record hrecord
    rw [show hasRawBreak (.obj record.toDict) = true from hbroken] at hnot
    cases hnot

end OutcomeFile

end Comparison
end AiopsK8s
