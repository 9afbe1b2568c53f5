/-
# Whether the post-processing of a comparison completes

`completed_iff`: the summary of a file is written exactly where some outcome is measured and its
numbers stay within the floats.  Without a measured outcome the charts have no rows, and the footer
of the vector chart reads a suffix that was never assigned.

What the summary says holds whenever it is made (`summarized`): nothing is counted twice, every
measured action has one row, and the selected action of a policy and a scenario is the first of its
ranks.
-/

import AiopsK8s.Comparison.SafetyFirst
import AiopsK8s.Comparison.Statistics

namespace AiopsK8s
namespace Comparison

open Arithmetic Binary64 Effect Supervision

/-! ### Charts -/

theorem zero_lt_one : PyFloat.lt (PyFloat.lit 0) (PyFloat.lit 1) = true := by decide +kernel

theorem one_ne_zero : PyFloat.eq (PyFloat.lit 1) (PyFloat.lit 0) = false := by decide +kernel

/-- The scale of a chart is at least one. -/
theorem maxValue_ne_zero (values : List PyFloat) :
    (maxValue values).eq (PyFloat.lit 0) = false := by
  cases values with
  | nil => exact one_ne_zero
  | cons value rest =>
      rw [maxValue, PyFloat.maximum, List.foldl_append, List.foldl_cons, List.foldl_nil]
      split
      · exact one_ne_zero
      · rename_i hlt
        by_contra heq
        rw [Bool.not_eq_false, PyFloat.eq, decide_eq_true_eq] at heq
        rw [heq.2] at hlt
        exact hlt zero_lt_one

/-- A scale that is not finite is one of the values. -/
theorem maxValue_mem {values : List PyFloat} (h : ∀ m, maxValue values ≠ .finite m) :
    maxValue values ∈ values := by
  cases values with
  | nil => exact absurd rfl (h _)
  | cons value rest =>
      have hmem := PyFloat.maximum_mem value (rest ++ [PyFloat.lit 1])
      rw [← List.cons_append, List.mem_append, List.mem_singleton] at hmem
      rcases hmem with hmem | hone
      · exact hmem
      · exact absurd hone (h _)

/-- The values of a chart are finite, and none is so far below its scale that the length of its bar
is infinite. -/
def Drawable (values : List PyFloat) : Prop :=
  ∀ v ∈ values, ∃ x m, v = .finite x ∧ maxValue values = .finite m ∧ |x / m| < limit ∧
    |nearest (x / m) * 860| < limit

theorem toInt_eq_some_iff {x : PyFloat} : (∃ n, x.toInt = some n) ↔ ∃ q, x = .finite q := by
  cases x <;> simp [PyFloat.toInt]

theorem ofExact_finite_iff {q : ℚ} : (∃ r, PyFloat.ofExact q = .finite r) ↔ |q| < limit := by
  unfold PyFloat.ofExact
  split_ifs with h h' <;> simp [h]

/-- The bar of a finite value against a finite scale. -/
theorem barWidth_finite_iff {width x m : ℚ} (hwidth : width ≠ 0)
    (hm : (PyFloat.finite m).eq (PyFloat.lit 0) = false) :
    (∃ n, barWidth width (.finite m) (.finite x) = .ok n) ↔
      |x / m| < limit ∧ |nearest (x / m) * width| < limit := by
  have hwidth' : ∀ b, PyFloat.mul (PyFloat.infinityOf b) (.finite width) =
      PyFloat.infinityOf ((width < 0) ≠ (PyFloat.infinityOf b = .negInf)) := by
    intro b
    cases b <;> exact if_neg hwidth
  have hinfinity : ∀ b, ¬∃ q, PyFloat.infinityOf b = .finite q := by
    intro b
    cases b <;> simp [PyFloat.infinityOf]
  unfold barWidth
  rw [hm, if_neg Bool.false_ne_true]
  simp only [converted_eq_ok]
  rw [toInt_eq_some_iff]
  unfold PyFloat.div
  by_cases hrange : |x / m| < limit
  · have hdiv : PyFloat.ofExact (x / m) = .finite (nearest (x / m)) := if_pos hrange
    simp only [hdiv, PyFloat.mul, hrange, true_and]
    exact ofExact_finite_iff
  · have hdiv : PyFloat.ofExact (x / m) = PyFloat.infinityOf (decide ¬0 < x / m) := by
      unfold PyFloat.ofExact
      rw [if_neg hrange]
      by_cases hpos : 0 < x / m <;> simp [hpos, PyFloat.infinityOf]
    simp only [hdiv, hwidth', hrange, false_and, iff_false]
    exact hinfinity _

/-- A value that is its own scale has no bar if it is not finite. -/
theorem barWidth_self {width : ℚ} {v : PyFloat} (h : ∀ x, v ≠ .finite x) :
    ¬∃ n, barWidth width v v = .ok n := by
  have hzero : v.eq (PyFloat.lit 0) = false := by
    cases v with
    | finite x => exact absurd rfl (h x)
    | nan => rfl
    | posInf => rfl
    | negInf => rfl
  unfold barWidth
  rw [hzero, if_neg Bool.false_ne_true]
  simp only [converted_eq_ok]
  cases v with
  | finite x => exact absurd rfl (h x)
  | nan => simp [PyFloat.div, PyFloat.mul, PyFloat.toInt]
  | posInf => simp [PyFloat.div, PyFloat.mul, PyFloat.toInt]
  | negInf => simp [PyFloat.div, PyFloat.mul, PyFloat.toInt]

/-- A value that is not finite has no bar against a finite scale. -/
theorem barWidth_infinite {width m : ℚ} {v : PyFloat} (hwidth : width ≠ 0)
    (hm : (PyFloat.finite m).eq (PyFloat.lit 0) = false) (h : ∀ x, v ≠ .finite x) :
    ¬∃ n, barWidth width (.finite m) v = .ok n := by
  have hinfinity : ∀ b n, ((PyFloat.infinityOf b).mul (.finite width)).toInt ≠ some n := by
    intro b n hn
    cases b <;> simp [PyFloat.infinityOf, PyFloat.mul, hwidth] at hn <;>
      split_ifs at hn <;> simp [PyFloat.toInt] at hn
  unfold barWidth
  rw [hm, if_neg Bool.false_ne_true]
  simp only [converted_eq_ok]
  rintro ⟨n, hn⟩
  cases v with
  | finite x => exact h x rfl
  | nan => simp [PyFloat.div, PyFloat.mul, PyFloat.toInt] at hn
  | posInf => exact hinfinity _ n hn
  | negInf => exact hinfinity _ n hn

/-- **Which charts have bars.** -/
theorem bars_iff {width : ℚ} (hwidth : width ≠ 0) {values : List PyFloat} :
    (∀ v ∈ values, ∃ n, barWidth width (maxValue values) v = .ok n) ↔
      ∀ v ∈ values, ∃ x m, v = .finite x ∧ maxValue values = .finite m ∧ |x / m| < limit ∧
        |nearest (x / m) * width| < limit := by
  have hzero := maxValue_ne_zero values
  by_cases hscale : ∃ m, maxValue values = .finite m
  · obtain ⟨m, hm⟩ := hscale
    rw [hm] at hzero ⊢
    refine forall_congr' fun v => imp_congr_right fun _ => ?_
    constructor
    · intro h
      by_cases hfinite : ∃ x, v = .finite x
      · obtain ⟨x, rfl⟩ := hfinite
        exact ⟨x, m, rfl, rfl, (barWidth_finite_iff hwidth hzero).1 h⟩
      · exact absurd h (barWidth_infinite hwidth hzero (not_exists.1 hfinite))
    · rintro ⟨x, m', rfl, hm', h⟩
      obtain rfl := PyFloat.finite.inj hm'
      exact (barWidth_finite_iff hwidth hzero).2 h
  · have hmem := maxValue_mem (not_exists.1 hscale)
    constructor
    · intro h
      exact absurd (h _ hmem) (barWidth_self (not_exists.1 hscale))
    · intro h
      obtain ⟨_, m, _, hm, _⟩ := h _ hmem
      exact absurd ⟨m, hm⟩ hscale

/-- **Which values are drawable**: those of the raster chart, whose bars are the longer ones. -/
theorem drawable_iff {values : List PyFloat} :
    (∀ v ∈ values, ∃ n, barWidth 860 (maxValue values) v = .ok n) ↔ Drawable values :=
  bars_iff (by norm_num)

theorem Drawable.bars {values : List PyFloat} (h : Drawable values) :
    ∀ v ∈ values, ∃ n, barWidth 760 (maxValue values) v = .ok n := by
  refine (bars_iff (by norm_num)).2 fun v hv => ?_
  obtain ⟨x, m, hx, hm, hquotient, hlength⟩ := h v hv
  refine ⟨x, m, hx, hm, hquotient, lt_of_le_of_lt ?_ hlength⟩
  rw [abs_mul, abs_mul]
  exact mul_le_mul_of_nonneg_left (by norm_num) (abs_nonneg _)

variable {chart : BarChart}

/-- One pass of the loop of the vector chart. -/
theorem drawSvgBar_eq_ok {largest : PyFloat} {index : ℕ} {row : ChartRow} {state : SvgState} :
    (∃ state', drawSvgBar chart largest index row state = .ok state' ∧
      state'.suffix.isSome = true) ↔ ∃ n, barWidth 760 largest row.value = .ok n := by
  constructor
  · rintro ⟨state', h, _⟩
    obtain ⟨n, hn, _⟩ := bind_eq_ok h
    exact ⟨n, hn⟩
  · rintro ⟨n, hn⟩
    unfold drawSvgBar
    rw [hn]
    exact ⟨_, rfl, rfl⟩

/-- **The loop of the vector chart** returns with a suffix if it has a row or had one before. -/
theorem drawSvgBars_iff {largest : PyFloat} {rows : List ChartRow} {index : ℕ}
    {state : SvgState} :
    (∃ state', drawSvgBars chart largest index rows state = .ok state' ∧
      state'.suffix.isSome = true) ↔ (rows ≠ [] ∨ state.suffix.isSome = true) ∧
        ∀ row ∈ rows, ∃ n, barWidth 760 largest row.value = .ok n := by
  induction rows generalizing index state with
  | nil =>
      constructor
      · rintro ⟨state', h, hsome⟩
        obtain rfl := Except.ok.inj h
        exact ⟨.inr hsome, fun _ h => absurd h List.not_mem_nil⟩
      · rintro ⟨h, _⟩
        exact ⟨state, rfl, h.resolve_left fun hne => hne rfl⟩
  | cons row rows ih =>
      rw [List.forall_mem_cons]
      constructor
      · rintro ⟨state', h, hsome⟩
        obtain ⟨state₁, hrow, h⟩ := bind_eq_ok h
        obtain ⟨n, hn, _⟩ := bind_eq_ok hrow
        exact ⟨.inl (List.cons_ne_nil _ _), ⟨n, hn⟩, (ih.1 ⟨state', h, hsome⟩).2⟩
      · rintro ⟨_, hrow, hrows⟩
        obtain ⟨state₁, hstate₁, hsome⟩ := drawSvgBar_eq_ok.2 hrow
        obtain ⟨state', h, hsome'⟩ := ih.2 ⟨.inr hsome, hrows⟩
        refine ⟨state', ?_, hsome'⟩
        rw [drawSvgBars, hstate₁]
        exact h

/-- **When the vector chart is rendered.** -/
theorem renderBarSvg_iff : (∃ svg, renderBarSvg chart = .ok svg) ↔ chart.rows ≠ [] ∧
    ∀ row ∈ chart.rows, ∃ n, barWidth 760 (maxValue (chart.rows.map (·.value))) row.value =
      .ok n := by
  obtain ⟨start, hstart, hnone⟩ : ∃ start : SvgState,
      start = ⟨svgHeader chart (max 240 (64 + chart.rows.length * 30 + 50)), none⟩ ∧
        ¬start.suffix.isSome = true := ⟨_, rfl, Bool.false_ne_true⟩
  have hloop : (∃ state', drawSvgBars chart (maxValue (chart.rows.map (·.value))) 0 chart.rows
      start = .ok state' ∧ state'.suffix.isSome = true) ↔
        (chart.rows ≠ [] ∨ start.suffix.isSome = true) ∧ ∀ row ∈ chart.rows,
          ∃ n, barWidth 760 (maxValue (chart.rows.map (·.value))) row.value = .ok n :=
    drawSvgBars_iff
  rw [or_iff_left hnone] at hloop
  rw [← hloop, hstart]
  constructor
  · rintro ⟨svg, h⟩
    obtain ⟨state, hstate, h⟩ := bind_eq_ok h
    refine ⟨state, hstate, ?_⟩
    unfold svgFooter at h
    split at h
    · cases h
    · rename_i suffix hsuffix
      rw [hsuffix]
      rfl
  · rintro ⟨state, hstate, hsome⟩
    obtain ⟨suffix, hsuffix⟩ := Option.isSome_iff_exists.1 hsome
    simp only [renderBarSvg, hstate, bind, Except.bind, svgFooter, hsuffix]
    exact ⟨_, rfl⟩

/-- **When the raster chart is drawn.** -/
theorem barImage_iff : (∃ image, barImage chart = .ok image) ↔
    Drawable (chart.rows.map (·.value)) := by
  rw [← drawable_iff, List.forall_mem_map]
  have hrow : ∀ item : ChartRow × ℕ,
      (∃ draws, drawBar (maxValue (chart.rows.map (·.value))) item = .ok draws) ↔
        ∃ n, barWidth 860 (maxValue (chart.rows.map (·.value))) item.1.value = .ok n := by
    intro item
    constructor
    · rintro ⟨draws, h⟩
      obtain ⟨n, hn, _⟩ := bind_eq_ok h
      exact ⟨n, hn⟩
    · rintro ⟨n, hn⟩
      unfold drawBar
      rw [hn]
      exact ⟨_, rfl⟩
  constructor
  · rintro ⟨image, h⟩ row hmem
    obtain ⟨bars, hbars, _⟩ := bind_eq_ok h
    obtain ⟨i, hi⟩ := List.mem_iff_getElem?.1 hmem
    have hitem : (row, i) ∈ chart.rows.zipIdx := by
      rw [List.mem_zipIdx_iff_getElem?]
      exact hi
    obtain ⟨draws, _, hdraws⟩ := exists_mem_of_mapM hbars hitem
    exact (hrow (row, i)).1 ⟨draws, hdraws⟩
  · intro h
    obtain ⟨bars, hbars⟩ := exists_mapM_ok fun item (hitem : item ∈ chart.rows.zipIdx) =>
      (hrow item).2 (h item.1 (List.mem_of_getElem? (List.mem_zipIdx_iff_getElem?.1 hitem)))
    unfold barImage
    simp only [hbars, bind, Except.bind]
    exact ⟨_, rfl⟩

/-! ### Files -/

/-- A computation returns exactly under a condition, whatever was written before. -/
def ReturnsIff (m : Writing Unit) (condition : Prop) : Prop :=
  ∀ files, (∃ files', m.run files = (.ok (), files')) ↔ condition

theorem ReturnsIff.seq {m k : Writing Unit} {P Q : Prop} (hm : ReturnsIff m P)
    (hk : ReturnsIff k Q) : ReturnsIff (m >>= fun _ => k) (P ∧ Q) := by
  intro files
  constructor
  · rintro ⟨files', h⟩
    obtain ⟨⟨⟩, files₁, h₁, h₂⟩ := Eff.run_bind_ok h
    exact ⟨(hm files).1 ⟨files₁, h₁⟩, (hk files₁).1 ⟨files', h₂⟩⟩
  · rintro ⟨hP, hQ⟩
    obtain ⟨files₁, h₁⟩ := (hm files).2 hP
    obtain ⟨files', h₂⟩ := (hk files₁).2 hQ
    refine ⟨files', ?_⟩
    rw [Eff.run_bind, h₁]
    exact h₂

theorem returnsIff_writeFile (name : String) (artifact : Artifact) :
    ReturnsIff (writeFile name artifact) True :=
  fun files => ⟨fun _ => trivial, fun _ => ⟨files ++ [(name, artifact)], rfl⟩⟩

/-- A table whose rows have its columns is written. -/
theorem returnsIff_writeCsv (name : String) {rows : List (List (String × Json))}
    {fieldNames : List String} (h : ∀ row ∈ rows, row.map Prod.fst = fieldNames) :
    ReturnsIff (writeCsv name rows fieldNames) True := by
  have hfields : ¬∃ row ∈ rows, ∃ field ∈ row, field.1 ∉ fieldNames := by
    rintro ⟨row, hrow, field, hfield, hnot⟩
    rw [← h row hrow] at hnot
    exact hnot (List.mem_map_of_mem hfield)
  intro files
  unfold writeCsv Eff.raiseIf Eff.when
  rw [if_neg hfields]
  exact ⟨fun _ => trivial, fun _ => ⟨_, rfl⟩⟩

/-- **When the files of a chart are written.** -/
theorem returnsIff_writeBarChartFiles (chart : BarChart) :
    ReturnsIff (writeBarChartFiles chart)
      (chart.rows ≠ [] ∧ Drawable (chart.rows.map (·.value))) := by
  intro files
  constructor
  · rintro ⟨files', h⟩
    obtain ⟨svg, files₁, hsvg, h⟩ := Eff.run_bind_ok h
    obtain ⟨⟨⟩, files₂, _, h⟩ := Eff.run_bind_ok h
    obtain ⟨image, files₃, himage, _⟩ := Eff.run_bind_ok h
    rw [Eff.run_ofExcept] at hsvg himage
    exact ⟨(renderBarSvg_iff.1 ⟨svg, (Prod.mk.inj hsvg).1⟩).1,
      barImage_iff.1 ⟨image, (Prod.mk.inj himage).1⟩⟩
  · rintro ⟨hne, hdrawable⟩
    obtain ⟨svg, hsvg⟩ := renderBarSvg_iff.2 ⟨hne, fun row hrow =>
      hdrawable.bars _ (List.mem_map_of_mem hrow)⟩
    obtain ⟨image, himage⟩ := barImage_iff.2 hdrawable
    unfold writeBarChartFiles
    rw [hsvg, himage]
    exact ⟨_, rfl⟩

/-- **When the files of a report are written.** -/
theorem returnsIff_writeRecoveryStatistics (report : StatisticsReport) :
    ReturnsIff (writeRecoveryStatistics report)
      (((secondsChart report).rows ≠ [] ∧ Drawable ((secondsChart report).rows.map (·.value))) ∧
        ((successChart report).rows ≠ [] ∧ Drawable ((successChart report).rows.map (·.value))) ∧
          ((rewardChart report).rows ≠ [] ∧ Drawable ((rewardChart report).rows.map (·.value)))) := by
  have hactions : ∀ row ∈ report.scenarioActionStatistics.map (·.toFields),
      row.map Prod.fst = scenarioActionColumns := List.forall_mem_map.2 fun _ _ => rfl
  have hrewards : ∀ row ∈ report.policyRewardStatistics.map (·.toFields),
      row.map Prod.fst = policyRewardColumns := List.forall_mem_map.2 fun _ _ => rfl
  have hdocument := returnsIff_writeFile "quantitative_summary.json"
    (.document (.obj report.toFields))
  have hactions := returnsIff_writeCsv "scenario_action_statistics.csv" hactions
  have hrewards := returnsIff_writeCsv "policy_reward_statistics.csv" hrewards
  have hmarkdown := returnsIff_writeFile "quantitative_summary.md" (.text (renderMarkdown report))
  have hcharts := (returnsIff_writeBarChartFiles (secondsChart report)).seq
    ((returnsIff_writeBarChartFiles (successChart report)).seq
      (returnsIff_writeBarChartFiles (rewardChart report)))
  have hwrite := hdocument.seq (hactions.seq (hrewards.seq (hmarkdown.seq hcharts)))
  intro files
  have h := hwrite files
  simp only [true_and] at h
  exact h

/-! ### The rows of the actions -/

section Actions

variable {sum : List PyFloat → PyFloat} {outcomes : List (RecoveryOutcome PyFloat)}

theorem rowKey_eq_iff {o o' : RecoveryOutcome PyFloat} :
    rowKey o' = rowKey o ↔ o'.pair = o.pair := by
  simp only [rowKey, RecoveryOutcome.pair, Prod.mk.injEq]
  exact and_congr_right fun _ => ⟨RecoveryActionKind.value_inj, congrArg _⟩

theorem mem_sortedGroups {key : String × String} {values : List (RecoveryOutcome PyFloat)} :
    (key, values) ∈ sortedGroups outcomes ↔
      ∃ o ∈ outcomes, rowKey o = key ∧ values = repetitions outcomes o.pair := by
  rw [sortedGroups, List.mem_insertionSort, Dict.mem_groupBy]
  have hfilter : ∀ o, outcomes.filter (fun o' => rowKey o' = rowKey o) =
      repetitions outcomes o.pair := fun o =>
    List.filter_congr fun o' _ => decide_eq_decide.2 rowKey_eq_iff
  constructor
  · rintro ⟨⟨o, ho, rfl⟩, rfl⟩
    exact ⟨o, ho, rfl, hfilter o⟩
  · rintro ⟨o, ho, rfl, rfl⟩
    exact ⟨⟨o, ho, rfl⟩, (hfilter o).symm⟩

variable (sum) in
/-- The mean of some integers has a float. -/
theorem roundedMeanOfInts_iff {values : List ℤ} (hne : values ≠ []) :
    (∃ mean, roundedMeanOfInts sum values = .ok mean) ↔ MeanInRange values := by
  unfold roundedMeanOfInts
  rw [if_neg (by simpa using hne)]
  constructor
  · rintro ⟨mean, h⟩
    obtain ⟨x, hx, _⟩ := bind_eq_ok h
    exact (PyFloat.ofQuotient_eq_some.1 (converted_eq_ok.1 hx)).1
  · intro h
    have hmean : (floats sum).meanInt values =
        some (.finite (nearest ((values.sum : ℚ) / values.length))) :=
      PyFloat.ofQuotient_eq_some.2 ⟨h, rfl⟩
    rw [hmean]
    exact ⟨_, rfl⟩

/-- What the row of a group has of the group. -/
theorem scenarioActionRow_ok {group : (String × String) × List (RecoveryOutcome PyFloat)}
    {row : ScenarioActionRow} (h : scenarioActionRow sum group = .ok row) :
    (row.scenario, row.action) = group.1 ∧ row.runs = group.2.length ∧
      row.meanRecoverySeconds = roundedMeanOf sum (group.2.map (·.recoverySeconds)) ∧
      row.successRate = roundedMeanOf sum (group.2.map (·.recoverySuccess)) := by
  obtain ⟨replicas, _, h⟩ := bind_eq_ok h
  obtain ⟨commands, _, h⟩ := bind_eq_ok h
  obtain rfl := Except.ok.inj h
  exact ⟨rfl, rfl, rfl, rfl⟩

variable (sum) in
/-- **When the actions are summarized.** -/
theorem exists_rows_iff : (∃ rows, scenarioActionStatistics sum outcomes = .ok rows) ↔
    CountsInRange outcomes := by
  have hne : ∀ o ∈ outcomes, repetitions outcomes o.pair ≠ [] := fun o ho =>
    List.ne_nil_of_mem (mem_repetitions.2 ⟨ho, rfl⟩)
  have hmap : ∀ {values : List (RecoveryOutcome PyFloat)}, values ≠ [] →
      ∀ f : RecoveryOutcome PyFloat → ℤ, values.map f ≠ [] := fun h f => by simpa using h
  constructor
  · rintro ⟨rows, h⟩ o ho
    obtain ⟨row, _, hrow⟩ := exists_mem_of_mapM h (mem_sortedGroups.2 ⟨o, ho, rfl, rfl⟩)
    obtain ⟨replicas, hreplicas, hrow⟩ := bind_eq_ok hrow
    obtain ⟨commands, hcommands, _⟩ := bind_eq_ok hrow
    exact ⟨(roundedMeanOfInts_iff sum (hmap (hne o ho) _)).1 ⟨replicas, hreplicas⟩,
      (roundedMeanOfInts_iff sum (hmap (hne o ho) _)).1 ⟨commands, hcommands⟩⟩
  · intro h
    refine exists_mapM_ok fun group hgroup => ?_
    obtain ⟨key, values⟩ := group
    obtain ⟨o, ho, _, rfl⟩ := mem_sortedGroups.1 hgroup
    obtain ⟨replicas, hreplicas⟩ :=
      (roundedMeanOfInts_iff sum (hmap (hne o ho) _)).2 (h o ho).1
    obtain ⟨commands, hcommands⟩ :=
      (roundedMeanOfInts_iff sum (hmap (hne o ho) _)).2 (h o ho).2
    unfold scenarioActionRow
    simp only [hreplicas, hcommands, bind, Except.bind]
    exact ⟨_, rfl⟩

variable {rows : List ScenarioActionRow} (h : scenarioActionStatistics sum outcomes = .ok rows)

include h

/-- **Every outcome is in one row.** -/
theorem sum_runs : (rows.map (·.runs)).sum = outcomes.length := by
  rw [map_eq_map_of_mapM (fun _ _ _ hrow => (scenarioActionRow_ok hrow).2.1) h,
    ← Dict.sum_length_groupBy rowKey outcomes]
  exact ((List.perm_insertionSort _ _).map _).sum_eq

theorem map_key_rows :
    rows.map (fun row => (row.scenario, row.action)) = (sortedGroups outcomes).map Prod.fst :=
  map_eq_map_of_mapM (fun _ _ _ hrow => (scenarioActionRow_ok hrow).1) h

/-- **No action has two rows.** -/
theorem nodup_rows : (rows.map fun row => (row.scenario, row.action)).Nodup := by
  rw [map_key_rows h]
  exact ((List.perm_insertionSort _ _).map _).nodup_iff.2 (Dict.nodup_keys_groupBy _ _)

/-- **Every action has a row.** -/
theorem mem_rows_iff {scenario action : String} :
    (scenario, action) ∈ rows.map (fun row => (row.scenario, row.action)) ↔
      ∃ o ∈ outcomes, o.scenario = scenario ∧ o.action.kind.value = action := by
  rw [map_key_rows h, List.mem_map]
  constructor
  · rintro ⟨⟨key, values⟩, hgroup, hkey⟩
    obtain ⟨o, ho, hrow, _⟩ := mem_sortedGroups.1 hgroup
    obtain ⟨hscenario, haction⟩ := Prod.mk.inj (hrow.trans hkey)
    exact ⟨o, ho, hscenario, haction⟩
  · rintro ⟨o, ho, rfl, rfl⟩
    exact ⟨_, mem_sortedGroups.2 ⟨o, ho, rfl, rfl⟩, rfl⟩

end Actions

/-! ### The rows of the policies -/

section Policies

/-- The reward of the selected action. -/
def headReward (result : ScenarioRanking PyFloat) : PyFloat :=
  match result.ranking with
  | [] => .nan
  | first :: _ => first.predictedReward

/-- The rewards of the selected actions of an analysis. -/
def selectedRewards (analysis : RecoveryAnalysis PyFloat) : List PyFloat :=
  analysis.policies.flatMap fun policy => policy.2.map fun entry => headReward entry.2

/-- The rows of one scenario under one policy. -/
def entryRows (policy : String) (entry : String × ScenarioRanking PyFloat) : List PolicyRewardRow :=
  entry.2.ranking.map (rewardRow policy entry.1 entry.2.selectedAction (headReward entry.2))

/-- The rows of an analysis, with their keys. -/
def rewardGroups (analysis : RecoveryAnalysis PyFloat) :
    List ((String × String) × List PolicyRewardRow) :=
  analysis.policies.flatMap fun policy => policy.2.map fun entry =>
    ((policy.1, entry.1), entryRows policy.1 entry)

variable {outcomes : List (RecoveryOutcome PyFloat)} {scenario : String}
  {result : ScenarioRanking PyFloat}

/-- The first of a ranking is the selected action, and the only one of rank one. -/
theorem Listed.first (h : Listed outcomes scenario result) :
    ∃ first rest, result.ranking = first :: rest ∧ first.rank = 1 ∧
      first.action = result.selectedAction ∧ ∀ item ∈ rest, item.rank ≠ 1 := by
  have hranks := h.ranks
  have hselected := h.selected
  cases hranking : result.ranking with
  | nil =>
      rw [hranking] at hselected
      cases hselected
  | cons first rest =>
      rw [hranking, List.map_cons, List.length_cons, List.range'_succ] at hranks
      rw [hranking] at hselected
      obtain ⟨hfirst, hrest⟩ := List.cons.inj hranks
      refine ⟨first, rest, rfl, hfirst, Option.some.inj hselected, fun item hitem hone => ?_⟩
      have hmem := List.mem_map_of_mem (f := (·.rank)) hitem
      rw [hrest, List.mem_range'] at hmem
      obtain ⟨i, _, hi⟩ := hmem
      omega

theorem scenarioRewardRows_eq {policy : String} (h : Listed outcomes scenario result) :
    scenarioRewardRows policy (scenario, result) = .ok (entryRows policy (scenario, result)) := by
  obtain ⟨first, rest, hranking, _, haction, _⟩ := h.first
  have hfind : (first :: rest).find? (fun item => item.action = result.selectedAction) =
      some first := List.find?_cons_of_pos (decide_eq_true haction)
  unfold scenarioRewardRows entryRows headReward
  simp only [hranking, hfind, converted, bind, Except.bind, pure, Except.pure]

/-- What the chart of the rewards has of a scenario. -/
theorem rewardChartRows_entryRows {policy : String} (h : Listed outcomes scenario result) :
    rewardChartRows (entryRows policy (scenario, result)) =
      [⟨policy, scenario, headReward result⟩] := by
  obtain ⟨first, rest, hranking, hrank, _, hrest⟩ := h.first
  have hnone : (rest.map (rewardRow policy scenario result.selectedAction
      (headReward result))).filter (fun row => row.rank = 1) = [] := by
    refine List.filter_eq_nil_iff.2 fun row hrow hone => ?_
    obtain ⟨item, hitem, rfl⟩ := List.mem_map.1 hrow
    exact hrest item hitem (of_decide_eq_true hone)
  have hone : decide ((rewardRow policy scenario result.selectedAction (headReward result)
      first).rank = 1) = true := decide_eq_true hrank
  rw [rewardChartRows, entryRows]
  simp only [hranking, List.map_cons]
  rw [List.filter_cons, if_pos hone, hnone]
  rfl

variable {sum : List PyFloat → PyFloat} {analysis : RecoveryAnalysis PyFloat}
  (h : analyzeRecoveryOutcomes (floats sum) outcomes = .ok analysis)

include h

/-- **The rows of the policies** are those of the groups of the analysis. -/
theorem policyRewardStatistics_eq (hne : outcomes ≠ []) :
    policyRewardStatistics sum outcomes =
      .ok ((rewardGroups analysis).map Prod.snd).flatten := by
  obtain ⟨_, hlisted⟩ := analyzeRecoveryOutcomes_listed h
  have hpolicy : ∀ policy ∈ analysis.policies, policyRewardRows policy =
      .ok (policy.2.map (entryRows policy.1)).flatten := by
    intro policy hpolicy
    unfold policyRewardRows
    rw [mapM_eq_map fun entry hentry =>
      scenarioRewardRows_eq ((hlisted policy hpolicy).2.2 entry hentry)]
    rfl
  have hflatten : (analysis.policies.map fun policy =>
      (policy.2.map (entryRows policy.1)).flatten).flatten =
        ((rewardGroups analysis).map Prod.snd).flatten := by
    rw [rewardGroups, List.map_flatMap, List.flatMap_def, List.flatten_flatten, List.map_map]
    refine congrArg List.flatten (List.map_congr_left fun policy _ => ?_)
    simp only [Function.comp_apply, List.map_map]
    rfl
  unfold policyRewardStatistics
  rw [if_neg (by simpa using hne), h, ← hflatten]
  simp only [bind, Except.bind, mapM_eq_map hpolicy]
  rfl

/-- The keys of the groups differ. -/
theorem nodup_keys_rewardGroups : ((rewardGroups analysis).map Prod.fst).Nodup := by
  obtain ⟨hnames, hlisted⟩ := analyzeRecoveryOutcomes_listed h
  have hkeys : (rewardGroups analysis).map Prod.fst =
      analysis.policies.flatMap fun policy => (policy.2.map Prod.fst).map fun s => (policy.1, s) := by
    rw [rewardGroups, List.map_flatMap]
    refine congrArg (List.flatMap · _) (funext fun policy => ?_)
    rw [List.map_map, List.map_map]
    rfl
  have hnodup : (analysis.policies.map Prod.fst).Nodup := by
    rw [hnames]
    decide
  rw [hkeys, List.nodup_flatMap]
  refine ⟨fun policy hpolicy => ?_, ?_⟩
  · exact (hlisted policy hpolicy).1.map fun _ _ heq => (Prod.mk.inj heq).2
  · refine (List.pairwise_map.1 hnodup).imp fun {a b} hne => ?_
    intro key hka hkb
    obtain ⟨_, _, rfl⟩ := List.mem_map.1 hka
    obtain ⟨_, _, heq⟩ := List.mem_map.1 hkb
    exact hne (Prod.mk.inj heq).1.symm

/-- The chart of the rewards has the selected rewards. -/
theorem rewardChartRows_groups :
    (rewardChartRows ((rewardGroups analysis).map Prod.snd).flatten).map (·.value) =
      selectedRewards analysis := by
  obtain ⟨_, hlisted⟩ := analyzeRecoveryOutcomes_listed h
  have hdistribute : ∀ groups : List (List PolicyRewardRow),
      rewardChartRows groups.flatten = (groups.map rewardChartRows).flatten := by
    intro groups
    simp only [rewardChartRows, List.filter_flatten, List.map_flatten, List.map_map]
    rfl
  rw [hdistribute, List.map_flatten, List.map_map, List.map_map, rewardGroups, List.map_flatMap,
    selectedRewards, List.flatMap_def, List.flatMap_def, List.flatten_flatten, List.map_map]
  refine congrArg List.flatten (List.map_congr_left fun policy hpolicy => ?_)
  rw [Function.comp_apply, List.map_map, List.flatten_eq_flatMap, List.flatMap_map]
  have hentry : ∀ entry ∈ policy.2,
      (rewardChartRows (entryRows policy.1 entry)).map (·.value) = [headReward entry.2] := by
    intro entry hentry
    rw [rewardChartRows_entryRows ((hlisted policy hpolicy).2.2 entry hentry)]
    rfl
  exact (List.flatMap_congr hentry).trans (List.flatMap_pure_eq_map _ _)

end Policies

/-! ### The summary -/

section Summary

variable {sum : List PyFloat → PyFloat} {input : String}
  {outcomes : List (RecoveryOutcome PyFloat)} {report : StatisticsReport}

/-- What a summary says: every record is counted as valid or invalid, every measured action has one
row with all its runs, and under every policy each scenario has the ranks from one with the selected
action at the first. -/
structure Summarized (outcomes : List (RecoveryOutcome PyFloat)) (report : StatisticsReport) :
    Prop where
  records : report.inputRecords = outcomes.length
  counted : (report.validMeasurements : ℤ) + report.invalidMeasurements = report.inputRecords
  runs : (report.scenarioActionStatistics.map (·.runs)).sum = report.validMeasurements
  rows_nodup : (report.scenarioActionStatistics.map fun row => (row.scenario, row.action)).Nodup
  mem_rows : ∀ scenario action,
    (scenario, action) ∈ report.scenarioActionStatistics.map
        (fun row => (row.scenario, row.action)) ↔
      ∃ o ∈ outcomes, o.measurementValid = true ∧ o.scenario = scenario ∧
        o.action.kind.value = action
  ranks : ∀ key : String × String,
    let block := report.policyRewardStatistics.filter fun row => (row.policy, row.scenario) = key
    block.map (·.rank) = List.range' 1 block.length ∧
      ∀ first ∈ block, first.rank = 1 → ∀ row ∈ block, row.selectedAction = first.action

/-- The parts of a summary. -/
theorem summarize_ok (h : summarizeRecoveryStatistics sum input outcomes = .ok report) :
    scenarioActionStatistics sum (outcomes.filter (·.measurementValid)) =
        .ok report.scenarioActionStatistics ∧
      policyRewardStatistics sum (outcomes.filter (·.measurementValid)) =
        .ok report.policyRewardStatistics ∧
      report.inputRecords = outcomes.length ∧
      report.validMeasurements = (outcomes.filter (·.measurementValid)).length ∧
      report.invalidMeasurements =
        outcomes.length - (outcomes.filter (·.measurementValid)).length := by
  obtain ⟨rows, hrows, h⟩ := bind_eq_ok h
  obtain ⟨policyRows, hpolicyRows, h⟩ := bind_eq_ok h
  obtain rfl := Except.ok.inj h
  exact ⟨hrows, hpolicyRows, rfl, rfl, rfl⟩

/-- The rows of a policy and a scenario. -/
theorem ranks_of_block {rows : List PolicyRewardRow}
    (h : policyRewardStatistics sum outcomes = .ok rows) (key : String × String) :
    let block := rows.filter fun row => (row.policy, row.scenario) = key
    block.map (·.rank) = List.range' 1 block.length ∧
      ∀ first ∈ block, first.rank = 1 → ∀ row ∈ block, row.selectedAction = first.action := by
  dsimp only
  by_cases hne : outcomes = []
  · rw [hne] at h
    obtain rfl := Except.ok.inj h
    exact ⟨rfl, fun _ hfirst => absurd hfirst List.not_mem_nil⟩
  obtain ⟨analysis, hanalysis⟩ : ∃ analysis,
      analyzeRecoveryOutcomes (floats sum) outcomes = .ok analysis := by
    unfold policyRewardStatistics at h
    rw [if_neg (by simpa using hne)] at h
    obtain ⟨analysis, hanalysis, _⟩ := bind_eq_ok h
    exact ⟨analysis, hanalysis⟩
  rw [policyRewardStatistics_eq hanalysis hne] at h
  obtain rfl := Except.ok.inj h
  have hkey : ∀ group ∈ rewardGroups analysis, ∀ row ∈ group.2,
      (row.policy, row.scenario) = group.1 := by
    intro group hgroup row hrow
    obtain ⟨policy, _, hgroup⟩ := List.mem_flatMap.1 hgroup
    obtain ⟨entry, _, rfl⟩ := List.mem_map.1 hgroup
    obtain ⟨item, _, rfl⟩ := List.mem_map.1 hrow
    rfl
  rcases Dict.filter_flatten_cases hkey (nodup_keys_rewardGroups hanalysis) key with
    hnil | hgroup
  · rw [hnil]
    exact ⟨rfl, fun _ hfirst => absurd hfirst List.not_mem_nil⟩
  obtain ⟨policy, hpolicy, hgroup⟩ := List.mem_flatMap.1 hgroup
  obtain ⟨entry, hentry, hblock⟩ := List.mem_map.1 hgroup
  rw [← (Prod.mk.inj hblock).2]
  have hlisted := ((analyzeRecoveryOutcomes_listed hanalysis).2 policy hpolicy).2.2 entry hentry
  obtain ⟨first, rest, hranking, hrank, haction, hrest⟩ := hlisted.first
  constructor
  · have hranks := hlisted.ranks
    rw [entryRows, List.map_map, List.length_map]
    exact hranks
  · intro row hrow hone row' hrow'
    obtain ⟨item, hitem, rfl⟩ := List.mem_map.1 hrow
    obtain ⟨item', _, rfl⟩ := List.mem_map.1 hrow'
    rw [hranking] at hitem
    rcases List.mem_cons.1 hitem with rfl | hitem
    · exact haction.symm
    · exact absurd hone (hrest item hitem)

/-- **What a summary says** holds whenever it is made. -/
theorem summarized (h : summarizeRecoveryStatistics sum input outcomes = .ok report) :
    Summarized outcomes report := by
  obtain ⟨hrows, hpolicyRows, hrecords, hvalid, hinvalid⟩ := summarize_ok h
  refine ⟨hrecords, ?_, ?_, nodup_rows hrows, fun scenario action => ?_, ranks_of_block hpolicyRows⟩
  · rw [hvalid, hinvalid, hrecords]
    omega
  · rw [hvalid]
    exact sum_runs hrows
  · rw [mem_rows_iff hrows]
    simp only [List.mem_filter, and_assoc]

/-- The numbers of the measured outcomes stay within the floats: the mean counts of every action,
and the bars of the three charts. -/
structure WithinFloats (sum : List PyFloat → PyFloat) (outcomes : List (RecoveryOutcome PyFloat)) :
    Prop where
  counts : CountsInRange outcomes
  seconds : Drawable ((sortedGroups outcomes).map fun group =>
    roundedMeanOf sum (group.2.map (·.recoverySeconds)))
  success : Drawable ((sortedGroups outcomes).map fun group =>
    roundedMeanOf sum (group.2.map (·.recoverySuccess)))
  rewards : ∀ analysis, analyzeRecoveryOutcomes (floats sum) outcomes = .ok analysis →
    Drawable (selectedRewards analysis)

/-- The comparison is summarized, the summary says what it should, and it is written. -/
def Completed (sum : List PyFloat → PyFloat) (input : String)
    (outcomes : List (RecoveryOutcome PyFloat)) : Prop :=
  ∃ report files, summarizeRecoveryStatistics sum input outcomes = .ok report ∧
    (writeRecoveryStatistics report).run [] = (.ok (), files) ∧ Summarized outcomes report

/-- The values of the two charts of the actions. -/
theorem chart_values {rows : List ScenarioActionRow}
    (h : scenarioActionStatistics sum outcomes = .ok rows) :
    rows.map (·.meanRecoverySeconds) = (sortedGroups outcomes).map (fun group =>
        roundedMeanOf sum (group.2.map (·.recoverySeconds))) ∧
      rows.map (·.successRate) = (sortedGroups outcomes).map fun group =>
        roundedMeanOf sum (group.2.map (·.recoverySuccess)) :=
  ⟨map_eq_map_of_mapM (fun _ _ _ hrow => (scenarioActionRow_ok hrow).2.2.1) h,
    map_eq_map_of_mapM (fun _ _ _ hrow => (scenarioActionRow_ok hrow).2.2.2) h⟩

theorem secondsChart_values (report : StatisticsReport) :
    (secondsChart report).rows.map (·.value) =
      report.scenarioActionStatistics.map (·.meanRecoverySeconds) := List.map_map

theorem successChart_values (report : StatisticsReport) :
    (successChart report).rows.map (·.value) =
      report.scenarioActionStatistics.map (·.successRate) := List.map_map

/-- The charts of the actions have rows if an outcome is measured. -/
theorem rows_eq_nil_iff {rows : List ScenarioActionRow}
    (h : scenarioActionStatistics sum outcomes = .ok rows) : rows = [] ↔ outcomes = [] := by
  constructor
  · rintro rfl
    refine List.eq_nil_iff_forall_not_mem.2 fun o ho => ?_
    exact absurd ((mem_rows_iff h).2 ⟨o, ho, rfl, rfl⟩) List.not_mem_nil
  · rintro rfl
    exact (Except.ok.inj h).symm

/-- **When the post-processing of a comparison completes**: where some outcome is measured and the
numbers stay within the floats. -/
theorem completed_iff : Completed sum input outcomes ↔
    (∃ o ∈ outcomes, o.measurementValid = true) ∧
      WithinFloats sum (outcomes.filter (·.measurementValid)) := by
  have hsome : (∃ o ∈ outcomes, o.measurementValid = true) ↔
      outcomes.filter (·.measurementValid) ≠ [] := by
    rw [ne_eq, List.filter_eq_nil_iff]
    simp
  rw [hsome]
  constructor
  · rintro ⟨report, files, h, hwrite, _⟩
    obtain ⟨hrows, hpolicyRows, _⟩ := summarize_ok h
    obtain ⟨⟨hnonempty, hseconds⟩, ⟨_, hsuccess⟩, ⟨_, hrewards⟩⟩ :=
      (returnsIff_writeRecoveryStatistics report []).1 ⟨files, hwrite⟩
    obtain ⟨hsecondsValues, hsuccessValues⟩ := chart_values hrows
    have hne : outcomes.filter (·.measurementValid) ≠ [] := by
      intro hnil
      refine hnonempty ?_
      rw [secondsChart, (rows_eq_nil_iff hrows).2 hnil]
      rfl
    refine ⟨hne, (exists_rows_iff sum).1 ⟨_, hrows⟩, ?_, ?_, fun analysis hanalysis => ?_⟩
    · rw [← hsecondsValues, ← secondsChart_values]
      exact hseconds
    · rw [← hsuccessValues, ← successChart_values]
      exact hsuccess
    · rw [policyRewardStatistics_eq hanalysis hne] at hpolicyRows
      rw [← rewardChartRows_groups hanalysis, Except.ok.inj hpolicyRows]
      exact hrewards
  · rintro ⟨hne, hrange⟩
    obtain ⟨rows, hrows⟩ := (exists_rows_iff sum).2 hrange.counts
    obtain ⟨analysis, hanalysis⟩ := (exists_analysis_iff sum).2 hrange.counts
    have hpolicyRows := policyRewardStatistics_eq hanalysis hne
    obtain ⟨hsecondsValues, hsuccessValues⟩ := chart_values hrows
    obtain ⟨report, h⟩ : ∃ report,
        summarizeRecoveryStatistics sum input outcomes = .ok report := by
      unfold summarizeRecoveryStatistics
      simp only [hrows, hpolicyRows, bind, Except.bind]
      exact ⟨_, rfl⟩
    obtain ⟨hrows', hpolicyRows', _⟩ := summarize_ok h
    obtain rfl := Except.ok.inj (hrows'.symm.trans hrows)
    have hreports := Except.ok.inj (hpolicyRows'.symm.trans hpolicyRows)
    have hchartRows : report.scenarioActionStatistics ≠ [] :=
      fun hnil => hne ((rows_eq_nil_iff hrows).1 hnil)
    have hselected := rewardChartRows_groups hanalysis
    have hrewardRows : rewardChartRows report.policyRewardStatistics ≠ [] := by
      rw [hreports]
      intro hnil
      rw [hnil] at hselected
      obtain ⟨hnames, hlisted⟩ := analyzeRecoveryOutcomes_listed hanalysis
      obtain ⟨policy, hpolicy, _⟩ := List.mem_map.1
        (hnames ▸ List.mem_cons_self : "balanced" ∈ analysis.policies.map Prod.fst)
      obtain ⟨o, ho⟩ := List.exists_mem_of_ne_nil _ hne
      obtain ⟨entry, hentry, _⟩ :=
        List.mem_map.1 (((hlisted policy hpolicy).2.1 o.scenario).2 ⟨o, ho, rfl⟩)
      have hmem : headReward entry.2 ∈ selectedRewards analysis :=
        List.mem_flatMap.2 ⟨policy, hpolicy, List.mem_map.2 ⟨entry, hentry, rfl⟩⟩
      rw [← hselected] at hmem
      exact List.not_mem_nil hmem
    obtain ⟨files, hfiles⟩ := (returnsIff_writeRecoveryStatistics report []).2 (by
      refine ⟨⟨?_, ?_⟩, ⟨?_, ?_⟩, ⟨hrewardRows, ?_⟩⟩
      · simpa [secondsChart] using hchartRows
      · rw [secondsChart_values, hsecondsValues]
        exact hrange.seconds
      · simpa [successChart] using hchartRows
      · rw [successChart_values, hsuccessValues]
        exact hrange.success
      · have hrewards := hrange.rewards analysis hanalysis
        rw [← hselected, ← hreports] at hrewards
        exact hrewards)
    exact ⟨report, files, h, hfiles, summarized h⟩

/-- A recorded outcome whose measurement is not valid. -/
def unmeasuredOutcome : RecoveryOutcome PyFloat :=
  { exampleOutcome .observeOnly 1 true with measurementValid := false }

/-- **The post-processing of a comparison without a measured outcome** does not complete. -/
theorem unmeasured_not_completed :
    ¬Completed leftSum "recovery_outcomes.jsonl" [unmeasuredOutcome] := by
  rintro ⟨report, files, h, hwrite, _⟩
  have hrows : scenarioActionStatistics leftSum [] = .ok report.scenarioActionStatistics :=
    (summarize_ok h).1
  have hnonempty := ((returnsIff_writeRecoveryStatistics report []).1 ⟨files, hwrite⟩).1.1
  refine hnonempty ?_
  rw [secondsChart, (rows_eq_nil_iff hrows).2 rfl]
  rfl

end Summary

end Comparison
end AiopsK8s
