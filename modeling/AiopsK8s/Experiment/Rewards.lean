/-
# The rewards of a recovery

`RecoveryEvaluatorAgent.evaluate` of `recovery_evaluator.py`: every reward lies between -1 and 1,
and the reward of the team does not grow with the replanning attempts, the executed actions and
the recovery time (`teamReward_antitone`).  Its sign follows the outcome, in which the other three
components cannot outweigh a recovery (`teamReward_pos`) nor a failure (`teamReward_nonpos`).
-/

import Mathlib.Tactic.Linarith
import Mathlib.Tactic.NormNum
import AiopsK8s.Experiment.RecoveryEvaluator

namespace AiopsK8s
namespace Experiment
namespace RecoveryEvaluator

open Effect

/-! ### Clamped scores -/

theorem clamp_mem (value : ℚ) : -1 ≤ clamp value ∧ clamp value ≤ 1 :=
  ⟨le_max_left _ _, max_le (by norm_num) (min_le_left _ _)⟩

theorem clamp_mono {a b : ℚ} (h : a ≤ b) : clamp a ≤ clamp b :=
  max_le_max le_rfl (min_le_min le_rfl h)

theorem clamp_pos {value : ℚ} : 0 < clamp value ↔ 0 < value := by
  simp [clamp]

theorem clamp_eq {value : ℚ} (h : -1 ≤ value ∧ value ≤ 1) : clamp value = value := by
  rw [clamp, min_eq_right h.2, max_eq_right h.1]

/-- Components in their ranges. -/
structure Components.Ranged (c : Components) : Prop where
  outcome : -1 ≤ c.outcome ∧ c.outcome ≤ 1
  efficiency : -1 ≤ c.efficiency ∧ c.efficiency ≤ 1
  safety : -1 ≤ c.safety ∧ c.safety ≤ 1
  evidenceQuality : 0 ≤ c.evidenceQuality ∧ c.evidenceQuality ≤ 1

variable {c c' : Components}

theorem teamReward_mem (c : Components) : -1 ≤ teamReward c ∧ teamReward c ≤ 1 := by
  obtain ⟨hlow, hhigh⟩ := clamp_mem (65 / 100 * c.outcome + 15 / 100 * c.efficiency +
    10 / 100 * c.safety + 10 / 100 * c.evidenceQuality)
  unfold teamReward
  dsimp only
  split
  · exact ⟨le_min hlow (by norm_num), (min_le_left _ _).trans hhigh⟩
  · exact ⟨hlow, hhigh⟩

/-- A failed outcome is not rewarded. -/
theorem teamReward_nonpos (h : c.outcome < 0) : teamReward c ≤ 0 := by
  unfold teamReward
  dsimp only
  rw [if_pos h]
  exact min_le_right _ _

/-- The reward of an outcome that did not fail has the sign of the weighted sum. -/
theorem teamReward_pos_iff (h : 0 ≤ c.outcome) : 0 < teamReward c ↔
    0 < 65 * c.outcome + 15 * c.efficiency + 10 * c.safety + 10 * c.evidenceQuality := by
  unfold teamReward
  dsimp only
  rw [if_neg (not_lt.2 h), clamp_pos]
  constructor <;> intro h <;> linarith

/-- **A recovery is rewarded**, however inefficient or unsafe it was. -/
theorem teamReward_pos (hc : c.Ranged) (h : 3 / 4 ≤ c.outcome) : 0 < teamReward c := by
  obtain ⟨hefficiency, -⟩ := hc.efficiency
  obtain ⟨hsafety, -⟩ := hc.safety
  obtain ⟨hevidence, -⟩ := hc.evidenceQuality
  refine (teamReward_pos_iff (by linarith)).2 ?_
  linarith

/-- The reward does not grow when the efficiency falls. -/
theorem teamReward_mono (houtcome : c'.outcome = c.outcome) (hsafety : c'.safety = c.safety)
    (hevidence : c'.evidenceQuality = c.evidenceQuality) (h : c'.efficiency ≤ c.efficiency) :
    teamReward c' ≤ teamReward c := by
  have hsum : clamp (65 / 100 * c'.outcome + 15 / 100 * c'.efficiency + 10 / 100 * c'.safety +
      10 / 100 * c'.evidenceQuality) ≤ clamp (65 / 100 * c.outcome + 15 / 100 * c.efficiency +
      10 / 100 * c.safety + 10 / 100 * c.evidenceQuality) := by
    refine clamp_mono ?_
    rw [houtcome, hsafety, hevidence]
    linarith
  unfold teamReward
  dsimp only
  rw [houtcome] at hsum ⊢
  split
  · exact min_le_min hsum le_rfl
  · exact hsum

/-! ### The components of a report -/

theorem indicator_mem (b : Bool) : 0 ≤ indicator b ∧ indicator b ≤ 1 := by
  cases b <;> simp [indicator]

theorem evidenceQuality_mem (report : Fields) :
    0 ≤ evidenceQuality report ∧ evidenceQuality report ≤ 1 := by
  unfold evidenceQuality
  dsimp only
  have h₁ := indicator_mem (["metric_values", "source", "namespace", "deployment"].all fun key =>
    (Json.get (mapping (Json.get report "evidence")) key).truthy)
  have h₂ := indicator_mem (Json.get (mapping (Json.get report "diagnosis")) "cause").truthy
  have h₃ := indicator_mem (["recovery_success", "recovered", "recovery_seconds"].any fun key =>
    !isNone (Json.get (mapping (Json.get report "recovery_monitoring")) key))
  constructor
  · have := h₁.1
    have := h₂.1
    have := h₃.1
    positivity
  · rw [div_le_one (by norm_num)]
    linarith [h₁.2, h₂.2, h₃.2]

variable {py : Python} {report report' : Fields} {e e' : RecoveryEvaluation}

/-- An evaluation has the components of its report. -/
theorem evaluate_ok (h : evaluate py report = .ok e) :
    ∃ score penalty c, efficiency report = .ok score ∧ safety report = .ok penalty ∧
      c = ⟨clamp (outcome py report), clamp score, clamp penalty, clamp (evidenceQuality report)⟩ ∧
      c.Ranged ∧ e.teamReward = teamReward c ∧ e.agentRewards =
        recoveryAgentNames.zip ((roleScores report c).map fun role =>
          clamp (70 / 100 * teamReward c + 30 / 100 * role)) := by
  obtain ⟨c, hc, h⟩ := bind_eq_ok h
  obtain ⟨score, hscore, hc⟩ := bind_eq_ok hc
  obtain ⟨penalty, hpenalty, hc⟩ := bind_eq_ok hc
  have hc := Except.ok.inj hc
  have he := Except.ok.inj h
  have hevidence := evidenceQuality_mem report
  have hquality : clamp (evidenceQuality report) = evidenceQuality report :=
    clamp_eq ⟨by linarith [hevidence.1], hevidence.2⟩
  have hranged : Components.Ranged ⟨clamp (outcome py report), clamp score, clamp penalty,
      clamp (evidenceQuality report)⟩ := by
    constructor
    · exact clamp_mem (outcome py report)
    · exact clamp_mem score
    · exact clamp_mem penalty
    · dsimp only
      rw [hquality]
      exact hevidence
  refine ⟨score, penalty, c, hscore, hpenalty, hc.symm, hc ▸ hranged, ?_, ?_⟩
  · rw [← he]
  · rw [← he]

/-- The rewards of an evaluation. -/
def rewardsOf (e : RecoveryEvaluation) : List ℚ := e.teamReward :: e.agentRewards.map Prod.snd

/-- **Every reward lies between -1 and 1.** -/
theorem rewards_mem (h : evaluate py report = .ok e) :
    ∀ reward ∈ rewardsOf e, -1 ≤ reward ∧ reward ≤ 1 := by
  obtain ⟨score, penalty, c, -, -, -, -, hteam, hagents⟩ := evaluate_ok h
  intro reward hreward
  rcases List.mem_cons.1 hreward with rfl | hreward
  · rw [hteam]
    exact teamReward_mem c
  · obtain ⟨⟨agent, value⟩, hmem, rfl⟩ := List.mem_map.1 hreward
    rw [hagents] at hmem
    obtain ⟨role, -, rfl⟩ := List.mem_map.1 (List.of_mem_zip hmem).2
    exact clamp_mem _

/-! ### Slower recoveries -/

/-- A list of the report, by its length. -/
def HasLength (report : Fields) (key : String) (n : ℕ) : Prop :=
  ∃ items, report.lookup key = some (.arr items) ∧ items.length = n

theorem HasLength.count {key : String} {n : ℕ} (h : HasLength report key n) :
    count (Json.get report key) = .ok n := by
  obtain ⟨items, hitems, rfl⟩ := h
  unfold Json.get
  rw [hitems]
  rfl

/-- The recovery times of two reports: the same entry, or two times in order. -/
def TimesLe (monitoring monitoring' : Fields) : Prop :=
  monitoring.lookup "recovery_seconds" = monitoring'.lookup "recovery_seconds" ∨
    ∃ seconds seconds', number (Json.get monitoring "recovery_seconds") = .ok (some seconds) ∧
      number (Json.get monitoring' "recovery_seconds") = .ok (some seconds') ∧ seconds ≤ seconds'

/-- **The second report differs from the first only in its counts and its recovery time**, which
are at least as large; both executed an action. -/
structure Slower (report report' : Fields) : Prop where
  replans : ∃ n n', HasLength report "replanning_attempts" n ∧
    HasLength report' "replanning_attempts" n' ∧ n ≤ n'
  actions : ∃ n n', HasLength report "executed_actions" n ∧
    HasLength report' "executed_actions" n' ∧ 1 ≤ n ∧ n ≤ n'
  monitoring : ∃ m m', report.lookup "recovery_monitoring" = some (.obj m) ∧
    report'.lookup "recovery_monitoring" = some (.obj m') ∧ TimesLe m m' ∧
    ∀ key ≠ "recovery_seconds", m.lookup key = m'.lookup key
  other : ∀ key ∉ ["replanning_attempts", "executed_actions", "recovery_monitoring"],
    report.lookup key = report'.lookup key

/-- A time that is at least as large costs at least as much. -/
theorem timePenalty_mono {budget : Option ℚ} {seconds seconds' : ℚ} (h : seconds ≤ seconds') :
    timePenalty (some seconds) budget ≤ timePenalty (some seconds') budget := by
  cases budget with
  | none => exact le_rfl
  | some budget =>
      simp only [timePenalty]
      split
      · rename_i hpos
        have hratio : seconds / budget ≤ seconds' / budget :=
          div_le_div_of_nonneg_right h hpos.le
        have hunit : max 0 (min 1 (seconds / budget)) ≤ max 0 (min 1 (seconds' / budget)) :=
          max_le_max le_rfl (min_le_min le_rfl hratio)
        linarith
      · exact le_rfl

namespace Slower

variable (h : Slower report report')

include h

theorem get_other {key : String}
    (hkey : key ∉ ["replanning_attempts", "executed_actions", "recovery_monitoring"]) :
    Json.get report' key = Json.get report key := by
  unfold Json.get
  rw [h.other key hkey]

theorem getD_other {key : String} {d : Json}
    (hkey : key ∉ ["replanning_attempts", "executed_actions", "recovery_monitoring"]) :
    Json.getD report' key d = Json.getD report key d := by
  unfold Json.getD
  rw [h.other key hkey]

theorem statusOf_eq : statusOf py report' = statusOf py report := by
  unfold statusOf
  rw [h.getD_other (by decide)]

/-- The entries of the monitoring but the time. -/
theorem get_monitoring {key : String} (hkey : key ≠ "recovery_seconds") :
    Json.get (mapping (Json.get report' "recovery_monitoring")) key =
      Json.get (mapping (Json.get report "recovery_monitoring")) key := by
  obtain ⟨m, m', hm, hm', -, hsame⟩ := h.monitoring
  simp only [Json.get, hm, hm', Option.getD_some, mapping, hsame key hkey]

theorem getD_monitoring {key : String} {d : Json} (hkey : key ≠ "recovery_seconds") :
    Json.getD (mapping (Json.get report' "recovery_monitoring")) key d =
      Json.getD (mapping (Json.get report "recovery_monitoring")) key d := by
  obtain ⟨m, m', hm, hm', -, hsame⟩ := h.monitoring
  simp only [Json.get, Json.getD, hm, hm', Option.getD_some, mapping, hsame key hkey]

theorem outcome_eq : outcome py report' = outcome py report := by
  unfold outcome recoverySuccess
  rw [h.statusOf_eq, h.get_monitoring (by decide), h.get_monitoring (by decide)]

theorem stepsOf_eq : stepsOf report' = stepsOf report := by
  unfold stepsOf
  rw [h.getD_monitoring (by decide), h.getD_monitoring (by decide), h.getD_other (by decide),
    h.get_other (by decide)]

theorem budgetOf_eq : budgetOf report' = budgetOf report := by
  unfold budgetOf protocolOf
  rw [h.getD_monitoring (by decide), h.get_other (by decide), h.get_other (by decide),
    h.get_other (by decide)]

theorem safety_eq : safety report' = safety report := by
  obtain ⟨n, n', hn, hn', hpos, hle⟩ := h.actions
  unfold safety
  rw [h.get_other (by decide), h.get_other (by decide), hn.count, hn'.count]
  show (Except.ok _ : Except RuntimeException ℚ) = Except.ok _
  rw [if_pos (by omega : 0 < n), if_pos (by omega : 0 < n')]

/-- The time is there in both reports or in neither. -/
theorem evidenceQuality_eq : evidenceQuality report' = evidenceQuality report := by
  have hseconds : isNone (Json.get (mapping (Json.get report' "recovery_monitoring"))
      "recovery_seconds") = isNone (Json.get (mapping (Json.get report "recovery_monitoring"))
      "recovery_seconds") := by
    obtain ⟨m, m', hm, hm', htimes, -⟩ := h.monitoring
    have hget : Json.get report "recovery_monitoring" = .obj m := by
      rw [Json.get, hm]
      rfl
    have hget' : Json.get report' "recovery_monitoring" = .obj m' := by
      rw [Json.get, hm']
      rfl
    rw [hget, hget']
    show isNone (Json.get m' "recovery_seconds") = isNone (Json.get m "recovery_seconds")
    have hnumber : ∀ value seconds, number value = .ok (some seconds) → isNone value = false := by
      intro value seconds hvalue
      cases value <;> first | rfl | cases hvalue
    rcases htimes with htimes | ⟨seconds, seconds', hs, hs', -⟩
    · rw [Json.get, Json.get, htimes]
    · rw [hnumber _ _ hs, hnumber _ _ hs']
  unfold evidenceQuality
  rw [h.get_other (by decide), h.get_other (by decide)]
  simp only [List.any_cons, List.any_nil, hseconds, h.get_monitoring (by decide : "recovery_success" ≠
    "recovery_seconds"), h.get_monitoring (by decide : "recovered" ≠ "recovery_seconds")]

/-- **A slower recovery is not more efficient.** -/
theorem efficiency_le {score score' : ℚ} (hscore : efficiency report = .ok score)
    (hscore' : efficiency report' = .ok score') : score' ≤ score := by
  obtain ⟨r, r', hr, hr', hreplans⟩ := h.replans
  obtain ⟨n, n', hn, hn', hpos, hactions⟩ := h.actions
  unfold efficiency at hscore hscore'
  rw [hr.count, hn.count] at hscore
  rw [hr'.count, hn'.count, h.stepsOf_eq, h.budgetOf_eq] at hscore'
  obtain ⟨_, hr₁, hscore⟩ := bind_eq_ok hscore
  obtain ⟨_, hn₁, hscore⟩ := bind_eq_ok hscore
  obtain ⟨_, hr₁', hscore'⟩ := bind_eq_ok hscore'
  obtain ⟨_, hn₁', hscore'⟩ := bind_eq_ok hscore'
  cases hr₁
  cases hn₁
  cases hr₁'
  cases hn₁'
  obtain ⟨steps, hsteps, hscore⟩ := bind_eq_ok hscore
  obtain ⟨steps', hsteps', hscore'⟩ := bind_eq_ok hscore'
  obtain rfl := Except.ok.inj (hsteps.symm.trans hsteps')
  rw [if_neg (by omega)] at hscore hscore'
  obtain ⟨seconds, hseconds, hscore⟩ := bind_eq_ok hscore
  obtain ⟨seconds', hseconds', hscore'⟩ := bind_eq_ok hscore'
  obtain ⟨budget, hbudget, hscore⟩ := bind_eq_ok hscore
  obtain ⟨budget', hbudget', hscore'⟩ := bind_eq_ok hscore'
  obtain rfl := Except.ok.inj (hbudget.symm.trans hbudget')
  obtain rfl := Except.ok.inj hscore
  obtain rfl := Except.ok.inj hscore'
  have htime : timePenalty seconds budget ≤ timePenalty seconds' budget := by
    obtain ⟨m, m', hm, hm', htimes, -⟩ := h.monitoring
    have hget : Json.get report "recovery_monitoring" = .obj m := by
      rw [Json.get, hm]
      rfl
    have hget' : Json.get report' "recovery_monitoring" = .obj m' := by
      rw [Json.get, hm']
      rfl
    rw [hget] at hseconds
    rw [hget'] at hseconds'
    rcases htimes with htimes | ⟨t, t', ht, ht', hle⟩
    · have hsame : Json.get m' "recovery_seconds" = Json.get m "recovery_seconds" := by
        rw [Json.get, Json.get, htimes]
      rw [show mapping (Json.obj m') = m' from rfl, hsame] at hseconds'
      obtain rfl := Except.ok.inj (hseconds.symm.trans hseconds')
      exact le_rfl
    · obtain rfl := Except.ok.inj (ht.symm.trans hseconds)
      obtain rfl := Except.ok.inj (ht'.symm.trans hseconds')
      exact timePenalty_mono hle
  have hreplans' : (r : ℚ) ≤ r' := Nat.cast_le.2 hreplans
  have hactions' : ((n - 1 : ℕ) : ℚ) ≤ ((n' - 1 : ℕ) : ℚ) := Nat.cast_le.2 (by omega)
  refine clamp_mono ?_
  linarith

/-- **The reward of a slower recovery is not larger.** -/
theorem teamReward_antitone (he : evaluate py report = .ok e)
    (he' : evaluate py report' = .ok e') : e'.teamReward ≤ e.teamReward := by
  obtain ⟨score, penalty, c, hscore, hpenalty, rfl, -, hteam, -⟩ := evaluate_ok he
  obtain ⟨score', penalty', c', hscore', hpenalty', rfl, -, hteam', -⟩ := evaluate_ok he'
  rw [h.safety_eq, hpenalty] at hpenalty'
  obtain rfl := Except.ok.inj hpenalty'
  rw [hteam, hteam']
  refine teamReward_mono ?_ rfl ?_ (clamp_mono (h.efficiency_le hscore hscore'))
  · show clamp (outcome py report') = clamp (outcome py report)
    rw [h.outcome_eq]
  · show clamp (evidenceQuality report') = clamp (evidenceQuality report)
    rw [h.evidenceQuality_eq]

end Slower
end RecoveryEvaluator
end Experiment
end AiopsK8s
