/-
# The statistics of a comparison

`recovery_statistics.py`: the measured outcomes of a comparison are summarized per action and per
policy, and the summary is written as a document, two tables, a text and three charts in two
formats.  Files and drawings are what is handed to the writer; the calls of the file system and of
the image library succeed.

The loop that draws the bars of the vector chart is where its footer gets the suffix that it reads
after the loop (`renderBarSvg`).  The raster chart assigns the suffix after its loop
(`barImage`).
-/

import AiopsK8s.Comparison.Outcomes
import AiopsK8s.Lib.Json

namespace AiopsK8s
namespace Comparison

open Arithmetic Effect Supervision

/-! ### The summary -/

/-- A row of `scenario_action_statistics`. -/
structure ScenarioActionRow where
  scenario : String
  action : String
  runs : ℕ
  successRate : PyFloat
  meanRecoverySeconds : PyFloat
  meanMetricImprovement : PyFloat
  meanAvailabilityRecovery : PyFloat
  meanReplicaDelta : PyFloat
  meanCommandCount : PyFloat

/-- A row of `policy_reward_statistics`. -/
structure PolicyRewardRow where
  policy : String
  scenario : String
  selectedAction : String
  selectedReward : PyFloat
  rank : ℕ
  action : String
  predictedReward : PyFloat
  observedOutcomeScore : PyFloat

/-- The result of `_overall_statistics`. -/
structure OverallStatistics where
  successRate : PyFloat
  meanRecoverySeconds : PyFloat
  meanMetricImprovement : PyFloat
  meanAvailabilityRecovery : PyFloat

/-- The report of `summarize_recovery_statistics`. -/
structure StatisticsReport where
  valid : Bool
  input : String
  inputRecords : ℕ
  validMeasurements : ℕ
  invalidMeasurements : ℤ
  overall : OverallStatistics
  scenarioActionStatistics : List ScenarioActionRow
  policyRewardStatistics : List PolicyRewardRow

section Summary

variable (sum : List PyFloat → PyFloat)

/-- `_round(_mean(values))` of floats. -/
def roundedMeanOf (values : List PyFloat) : PyFloat :=
  PyFloat.round6 (if values.isEmpty then PyFloat.lit 0 else (floats sum).mean values)

/-- `_round(_mean(values))` of integers. -/
def roundedMeanOfInts (values : List ℤ) : Except ComparisonError PyFloat :=
  if values.isEmpty then .ok (PyFloat.round6 (PyFloat.lit 0))
  else do
    let mean ← converted .overflow ((floats sum).meanInt values)
    return PyFloat.round6 mean

/-- The key of a row of `_scenario_action_statistics`. -/
def rowKey (o : RecoveryOutcome PyFloat) : String × String := (o.scenario, o.action.kind.value)

/-- The order of `sorted(grouped.items())`, whose keys differ. -/
def KeyLE {α : Type} (a b : (String × String) × α) : Prop :=
  a.1.1 < b.1.1 ∨ a.1.1 = b.1.1 ∧ a.1.2 ≤ b.1.2

instance decidableKeyLE {α : Type} : DecidableRel (KeyLE (α := α)) :=
  fun _ _ => inferInstanceAs (Decidable (_ ∨ _))

/-- The groups of `_scenario_action_statistics`, in the order of their keys. -/
def sortedGroups (outcomes : List (RecoveryOutcome PyFloat)) :
    List ((String × String) × List (RecoveryOutcome PyFloat)) :=
  (Dict.groupBy rowKey outcomes).insertionSort KeyLE

/-- The row of a group. -/
def scenarioActionRow (group : (String × String) × List (RecoveryOutcome PyFloat)) :
    Except ComparisonError ScenarioActionRow := do
  let values := group.2
  let meanReplicaDelta ← roundedMeanOfInts sum (values.map (·.replicaDelta))
  let meanCommandCount ← roundedMeanOfInts sum (values.map (·.commandCount))
  return {
    scenario := group.1.1
    action := group.1.2
    runs := values.length
    successRate := roundedMeanOf sum (values.map (·.recoverySuccess))
    meanRecoverySeconds := roundedMeanOf sum (values.map (·.recoverySeconds))
    meanMetricImprovement := roundedMeanOf sum (values.map (·.metricImprovement))
    meanAvailabilityRecovery := roundedMeanOf sum (values.map (·.availabilityRecovery))
    meanReplicaDelta
    meanCommandCount }

/-- `_scenario_action_statistics`. -/
def scenarioActionStatistics (outcomes : List (RecoveryOutcome PyFloat)) :
    Except ComparisonError (List ScenarioActionRow) :=
  (sortedGroups outcomes).mapM (scenarioActionRow sum)

/-- A row of `_policy_reward_statistics`. -/
def rewardRow (policy scenario selectedAction : String) (selectedReward : PyFloat)
    (item : RankedAction PyFloat) : PolicyRewardRow :=
  ⟨policy, scenario, selectedAction, selectedReward, item.rank, item.action, item.predictedReward,
    item.observedOutcomeScore⟩

/-- The rows of one scenario under one policy in `_policy_reward_statistics`. -/
def scenarioRewardRows (policy : String) (entry : String × ScenarioRanking PyFloat) :
    Except ComparisonError (List PolicyRewardRow) := do
  let selectedAction := entry.2.selectedAction
  let selected ← converted .stopIteration
    (entry.2.ranking.find? fun item => item.action = selectedAction)
  return entry.2.ranking.map (rewardRow policy entry.1 selectedAction selected.predictedReward)

/-- The rows of one policy. -/
def policyRewardRows (policy : String × List (String × ScenarioRanking PyFloat)) :
    Except ComparisonError (List PolicyRewardRow) := do
  let rows ← policy.2.mapM (scenarioRewardRows policy.1)
  return rows.flatten

/-- `_policy_reward_statistics`.  The analysis has the policies in the order of the table that the
loop goes through. -/
def policyRewardStatistics (outcomes : List (RecoveryOutcome PyFloat)) :
    Except ComparisonError (List PolicyRewardRow) :=
  if outcomes.isEmpty then .ok []
  else do
    let analysis ← analyzeRecoveryOutcomes (floats sum) outcomes
    let rows ← analysis.policies.mapM policyRewardRows
    return rows.flatten

/-- `_overall_statistics`. -/
def overallStatistics (outcomes : List (RecoveryOutcome PyFloat)) : OverallStatistics :=
  if outcomes.isEmpty then ⟨PyFloat.lit 0, PyFloat.lit 0, PyFloat.lit 0, PyFloat.lit 0⟩
  else {
    successRate := roundedMeanOf sum (outcomes.map (·.recoverySuccess))
    meanRecoverySeconds := roundedMeanOf sum (outcomes.map (·.recoverySeconds))
    meanMetricImprovement := roundedMeanOf sum (outcomes.map (·.metricImprovement))
    meanAvailabilityRecovery := roundedMeanOf sum (outcomes.map (·.availabilityRecovery)) }

/-- `summarize_recovery_statistics` of the outcomes that the file `input` holds. -/
def summarizeRecoveryStatistics (input : String) (outcomes : List (RecoveryOutcome PyFloat)) :
    Except ComparisonError StatisticsReport := do
  let validOutcomes := outcomes.filter (·.measurementValid)
  let scenarioActionRows ← scenarioActionStatistics sum validOutcomes
  let policyRows ← policyRewardStatistics sum validOutcomes
  return {
    valid := !validOutcomes.isEmpty
    input
    inputRecords := outcomes.length
    validMeasurements := validOutcomes.length
    invalidMeasurements := outcomes.length - validOutcomes.length
    overall := overallStatistics sum validOutcomes
    scenarioActionStatistics := scenarioActionRows
    policyRewardStatistics := policyRows }

end Summary

/-! ### Files -/

/-- A call that draws on an image. -/
inductive Draw where
  | text (x y : ℤ) (content fill : String) (size : ℕ) (bold : Bool)
  | rectangle (left top right bottom : ℤ) (fill : String)

/-- An image as it is drawn. -/
structure Image where
  width : ℤ
  height : ℤ
  draws : List Draw

/-- What is handed to the writer of a file. -/
inductive Artifact where
  | document (value : Json)
  | table (fieldNames : List String) (rows : List (List Json))
  | text (content : String)
  | image (image : Image)

/-- The files that have been written. -/
abbrev Files : Type := List (String × Artifact)

/-- A computation that writes files. -/
abbrev Writing (α : Type) : Type := Eff Files ComparisonError α

/-- Write a file. -/
def writeFile (name : String) (artifact : Artifact) : Writing Unit :=
  Eff.modify fun files => files ++ [(name, artifact)]

/-- The item that a row of `scenario_action_statistics` is. -/
def ScenarioActionRow.toFields (row : ScenarioActionRow) : List (String × Json) :=
  [("scenario", .str row.scenario), ("action", .str row.action), ("runs", .int row.runs),
    ("success_rate", .float row.successRate),
    ("mean_recovery_seconds", .float row.meanRecoverySeconds),
    ("mean_metric_improvement", .float row.meanMetricImprovement),
    ("mean_availability_recovery", .float row.meanAvailabilityRecovery),
    ("mean_replica_delta", .float row.meanReplicaDelta),
    ("mean_command_count", .float row.meanCommandCount)]

/-- The item that a row of `policy_reward_statistics` is. -/
def PolicyRewardRow.toFields (row : PolicyRewardRow) : List (String × Json) :=
  [("policy", .str row.policy), ("scenario", .str row.scenario),
    ("selected_action", .str row.selectedAction), ("selected_reward", .float row.selectedReward),
    ("rank", .int row.rank), ("action", .str row.action),
    ("predicted_reward", .float row.predictedReward),
    ("observed_outcome_score", .float row.observedOutcomeScore)]

/-- The item that the overall statistics are. -/
def OverallStatistics.toFields (overall : OverallStatistics) : List (String × Json) :=
  [("success_rate", .float overall.successRate),
    ("mean_recovery_seconds", .float overall.meanRecoverySeconds),
    ("mean_metric_improvement", .float overall.meanMetricImprovement),
    ("mean_availability_recovery", .float overall.meanAvailabilityRecovery)]

/-- The report as it is written. -/
def StatisticsReport.toFields (report : StatisticsReport) : List (String × Json) :=
  [("command", .str "summarize-recovery-statistics"), ("valid", .bool report.valid),
    ("input", .str report.input), ("input_records", .int report.inputRecords),
    ("valid_measurements", .int report.validMeasurements),
    ("invalid_measurements", .int report.invalidMeasurements),
    ("overall", .obj report.overall.toFields),
    ("scenario_action_statistics",
      .ofList (fun row => .obj row.toFields) report.scenarioActionStatistics),
    ("policy_reward_statistics",
      .ofList (fun row => .obj row.toFields) report.policyRewardStatistics)]

/-- `_write_csv`: a row with a field that the table has not is refused. -/
def writeCsv (name : String) (rows : List (List (String × Json))) (fieldNames : List String) :
    Writing Unit := do
  Eff.raiseIf (∃ row ∈ rows, ∃ field ∈ row, field.1 ∉ fieldNames) .fieldNames
  writeFile name (.table fieldNames (rows.map fun row => fieldNames.map (Json.get row)))

/-- The columns of `scenario_action_statistics.csv`. -/
def scenarioActionColumns : List String :=
  ["scenario", "action", "runs", "success_rate", "mean_recovery_seconds",
    "mean_metric_improvement", "mean_availability_recovery", "mean_replica_delta",
    "mean_command_count"]

/-- The columns of `policy_reward_statistics.csv`. -/
def policyRewardColumns : List String :=
  ["policy", "scenario", "selected_action", "selected_reward", "rank", "action",
    "predicted_reward", "observed_outcome_score"]

/-- The lines of the selected actions in `_render_markdown`: one for the first row of each policy
and scenario. -/
def selectionLines : List (String × String) → List PolicyRewardRow → List String
  | _, [] => []
  | seen, row :: rows =>
    if (row.policy, row.scenario) ∈ seen then selectionLines seen rows
    else ("| " ++ row.policy ++ " | " ++ row.scenario ++ " | " ++ row.selectedAction ++ " | " ++
      row.selectedReward.fixed3 ++ " |") :: selectionLines ((row.policy, row.scenario) :: seen) rows

/-- `_render_markdown`. -/
def renderMarkdown (report : StatisticsReport) : String :=
  "\n".intercalate ([
    "# Recovery Quantitative Statistics",
    "",
    "- input_records: " ++ toString report.inputRecords,
    "- valid_measurements: " ++ toString report.validMeasurements,
    "- invalid_measurements: " ++ toString report.invalidMeasurements,
    "- overall_success_rate: " ++ report.overall.successRate.fixed3,
    "- mean_recovery_seconds: " ++ report.overall.meanRecoverySeconds.fixed3,
    "- mean_metric_improvement: " ++ report.overall.meanMetricImprovement.fixed3,
    "",
    "## Scenario / Action Statistics",
    "",
    "| scenario | action | runs | success rate | mean recovery seconds | " ++
      "mean metric improvement |",
    "| --- | --- | ---: | ---: | ---: | ---: |"] ++
    (report.scenarioActionStatistics.map fun row =>
      "| " ++ row.scenario ++ " | " ++ row.action ++ " | " ++ toString row.runs ++ " | " ++
        row.successRate.fixed3 ++ " | " ++ row.meanRecoverySeconds.fixed3 ++ " | " ++
        row.meanMetricImprovement.fixed3 ++ " |") ++
    ["",
      "## Reward Policy Selection Summary",
      "",
      "| policy | scenario | selected action | selected reward |",
      "| --- | --- | --- | ---: |"] ++
    selectionLines [] report.policyRewardStatistics ++ [""])

/-! ### Charts -/

/-- A row of a chart: what `row["scenario"]`, `row["action"]` and `row[value_key]` read. -/
structure ChartRow where
  scenario : String
  action : String
  value : PyFloat

/-- The arguments of `_write_bar_chart_files`. -/
structure BarChart where
  stem : String
  title : String
  rows : List ChartRow
  valueLabel : String
  lowerIsBetter : Bool

/-- `max([float(row[value_key]) for row in rows] + [1.0])`. -/
def maxValue : List PyFloat → PyFloat
  | [] => PyFloat.lit 1
  | value :: rest => PyFloat.maximum value (rest ++ [PyFloat.lit 1])

/-- `bar_width`. -/
def barWidth (chartWidth : ℚ) (largest value : PyFloat) : Except ComparisonError ℤ :=
  if largest.eq (PyFloat.lit 0) then .ok 0
  else converted .conversion (((value.div largest).mul (.finite chartWidth)).toInt)

/-- `palette.get(action, "#4a5568")`. -/
def barColor (action : String) : String :=
  if action = "observe_only" then "#2f6fdd"
  else if action = "rollout_restart" then "#12805c"
  else if action = "scale_out" then "#b7791f"
  else "#4a5568"

/-- The suffix of the footer. -/
def suffixOf (lowerIsBetter : Bool) : String := if lowerIsBetter then " lower is better" else ""

/-- A character in `_escape`. -/
def escapeChar (c : Char) : String :=
  if c = '&' then "&amp;" else if c = '<' then "&lt;" else if c = '>' then "&gt;"
  else if c = '"' then "&quot;" else c.toString

/-- `_escape`. -/
def escape (s : String) : String := String.join (s.toList.map escapeChar)

/-- What the loop of `_render_bar_svg` has assigned: the parts, and the suffix once a row was
drawn. -/
structure SvgState where
  parts : List String
  suffix : Option String

/-- The text element of the vector chart. -/
def svgText (x y size : ℤ) (weight fill content : String) : String :=
  "<text x=\"" ++ toString x ++ "\" y=\"" ++ toString y ++
    "\" font-family=\"Arial, sans-serif\" font-size=\"" ++ toString size ++ "\"" ++ weight ++
    " fill=\"" ++ fill ++ "\">" ++ content ++ "</text>"

/-- One pass of the loop of `_render_bar_svg`. -/
def drawSvgBar (chart : BarChart) (largest : PyFloat) (index : ℕ) (row : ChartRow)
    (state : SvgState) : Except ComparisonError SvgState := do
  let y : ℤ := 64 + index * 30
  let label := row.scenario ++ " / " ++ row.action
  let width ← barWidth 760 largest row.value
  return {
    parts := state.parts ++ [
      svgText 24 (y + 18) 13 "" "#222" (escape label),
      "<rect x=\"320\" y=\"" ++ toString (y + 4) ++ "\" width=\"" ++ toString width ++
        "\" height=\"18\" fill=\"" ++ barColor row.action ++ "\"/>",
      svgText (320 + width + 8) (y + 18) 13 "" "#222" row.value.fixed3]
    suffix := some (suffixOf chart.lowerIsBetter) }

/-- The loop of `_render_bar_svg`. -/
def drawSvgBars (chart : BarChart) (largest : PyFloat) :
    ℕ → List ChartRow → SvgState → Except ComparisonError SvgState
  | _, [], state => .ok state
  | index, row :: rows, state => do
    let state ← drawSvgBar chart largest index row state
    drawSvgBars chart largest (index + 1) rows state

/-- The parts before the loop. -/
def svgHeader (chart : BarChart) (height : ℤ) : List String :=
  ["<svg xmlns=\"http://www.w3.org/2000/svg\" width=\"1180\" height=\"" ++ toString height ++
      "\" viewBox=\"0 0 1180 " ++ toString height ++ "\">",
    "<rect width=\"100%\" height=\"100%\" fill=\"white\"/>",
    svgText 24 34 22 " font-weight=\"700\"" "#111" (escape chart.title),
    svgText 320 54 12 "" "#444" (escape chart.valueLabel)]

/-- The end of `_render_bar_svg`, which reads the suffix that the loop assigned. -/
def svgFooter (height : ℤ) (state : SvgState) : Except ComparisonError String :=
  match state.suffix with
  | none => .error .unboundLocal
  | some suffix => .ok ("\n".intercalate (state.parts ++
      [svgText 24 (height - 18) 12 "" "#555"
        ("Generated from recovery experiment outcomes." ++ suffix), "</svg>"]))

/-- `_render_bar_svg`. -/
def renderBarSvg (chart : BarChart) : Except ComparisonError String := do
  let height : ℤ := max 240 (64 + chart.rows.length * 30 + 50)
  let largest := maxValue (chart.rows.map (·.value))
  let state ← drawSvgBars chart largest 0 chart.rows ⟨svgHeader chart height, none⟩
  svgFooter height state

/-- One pass of the loop of `_write_bar_png`. -/
def drawBar (largest : PyFloat) (item : ChartRow × ℕ) : Except ComparisonError (List Draw) := do
  let y : ℤ := 90 + item.2 * 38
  let label := item.1.scenario ++ " / " ++ item.1.action
  let width ← barWidth 860 largest item.1.value
  return [.text 24 (y + 9) label "#222222" 16 false] ++
    (if 0 < width then [.rectangle 410 (y + 7) (410 + width) (y + 28) (barColor item.1.action)]
      else []) ++
    [.text (410 + width + 10) (y + 9) item.1.value.fixed3 "#222222" 16 false]

/-- `_write_bar_png`, up to the call that saves the image. -/
def barImage (chart : BarChart) : Except ComparisonError Image := do
  let height : ℤ := max 320 (90 + chart.rows.length * 38 + 72)
  let largest := maxValue (chart.rows.map (·.value))
  let bars ← chart.rows.zipIdx.mapM (drawBar largest)
  return ⟨1400, height, [.text 24 24 chart.title "#111111" 26 true,
    .text 410 62 chart.valueLabel "#444444" 14 false] ++ bars.flatten ++
    [.text 24 (height - 34) ("Generated from recovery experiment outcomes." ++
      suffixOf chart.lowerIsBetter) "#555555" 14 false]⟩

/-- `_write_bar_chart_files`. -/
def writeBarChartFiles (chart : BarChart) : Writing Unit := do
  let svg ← Eff.ofExcept (renderBarSvg chart)
  writeFile (chart.stem ++ ".svg") (.text svg)
  let image ← Eff.ofExcept (barImage chart)
  writeFile (chart.stem ++ ".png") (.image image)

/-- `_reward_chart_rows`. -/
def rewardChartRows (rows : List PolicyRewardRow) : List ChartRow :=
  (rows.filter fun row => row.rank = 1).map fun row => ⟨row.policy, row.scenario, row.selectedReward⟩

/-- The chart of the recovery seconds. -/
def secondsChart (report : StatisticsReport) : BarChart where
  stem := "mean_recovery_seconds_by_action"
  title := "Mean Recovery Seconds by Scenario and Action"
  rows := report.scenarioActionStatistics.map fun row =>
    ⟨row.scenario, row.action, row.meanRecoverySeconds⟩
  valueLabel := "seconds"
  lowerIsBetter := true

/-- The chart of the success rates. -/
def successChart (report : StatisticsReport) : BarChart where
  stem := "success_rate_by_action"
  title := "Recovery Success Rate by Scenario and Action"
  rows := report.scenarioActionStatistics.map fun row => ⟨row.scenario, row.action, row.successRate⟩
  valueLabel := "success rate"
  lowerIsBetter := false

/-- The chart of the selected rewards. -/
def rewardChart (report : StatisticsReport) : BarChart where
  stem := "reward_by_policy"
  title := "Selected Reward by Policy and Scenario"
  rows := rewardChartRows report.policyRewardStatistics
  valueLabel := "selected reward"
  lowerIsBetter := false

/-- `write_recovery_statistics`. -/
def writeRecoveryStatistics (report : StatisticsReport) : Writing Unit := do
  writeFile "quantitative_summary.json" (.document (.obj report.toFields))
  writeCsv "scenario_action_statistics.csv"
    (report.scenarioActionStatistics.map (·.toFields)) scenarioActionColumns
  writeCsv "policy_reward_statistics.csv"
    (report.policyRewardStatistics.map (·.toFields)) policyRewardColumns
  writeFile "quantitative_summary.md" (.text (renderMarkdown report))
  writeBarChartFiles (secondsChart report)
  writeBarChartFiles (successChart report)
  writeBarChartFiles (rewardChart report)

end Comparison
end AiopsK8s
