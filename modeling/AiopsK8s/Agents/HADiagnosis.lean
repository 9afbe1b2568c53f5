/-
# The diagnosis of the HA agent

`AIServiceHASupportAgent.diagnose_evidence` of `ha_agent.py` with `MetricPolicy` of
`agent_decision_policy.py`.  Three signals write the cause and the severity in turn: the metric, the
restarts and the missing replicas.  Whether recovery is approved is monotone in all three.  The
severity is not: a metric beyond its threshold hides the restarts, and the restarts of the metric
`restart_count` hide its label.  `diagnoseEvidence_monotone_iff` says exactly where it drops.

Thresholds and samples are finite floats; a ratio of the policy may be any float, and a quotient is
rounded and may overflow.
-/

import AiopsK8s.Agents.Candidates
import AiopsK8s.Lib.Rounding
import AiopsK8s.Lib.Sorting
import Mathlib.Data.String.Basic

namespace AiopsK8s
namespace Agents

open Supervision

/-- `signal_direction`, as `MetricPolicy.from_dict` accepts it. -/
inductive SignalDirection where
  | highIsBad
  | lowIsBad
  deriving DecidableEq

/-- The text of a direction. -/
def SignalDirection.text : SignalDirection → String
  | highIsBad => "high_is_bad"
  | lowIsBad => "low_is_bad"

/-- The severities of a diagnosis. -/
inductive Severity where
  | info
  | warning
  | critical
  deriving DecidableEq

namespace Severity

/-- The text of a severity. -/
def text : Severity → String
  | info => "info"
  | warning => "warning"
  | critical => "critical"

/-- The place in `info < warning < critical`. -/
def rank : Severity → ℕ
  | info => 0
  | warning => 1
  | critical => 2

theorem rank_le_two (s : Severity) : s.rank ≤ 2 := by cases s <;> decide

end Severity

/-- `MetricPolicy`. -/
structure MetricPolicy where
  canonicalName : String
  aliases : List String
  cause : String
  signalDirection : SignalDirection
  warningRatio : PyFloat
  criticalRatio : PyFloat
  deriving DecidableEq

namespace MetricPolicy

variable (m : MetricPolicy)

/-- `threshold_exceeded`. -/
def thresholdExceeded (value threshold : ℚ) : Bool :=
  match m.signalDirection with
  | .highIsBad => value ≥ threshold
  | .lowIsBad => value ≤ threshold

/-- `severity_score`. -/
def severityScore (value threshold : ℚ) : PyFloat :=
  if threshold ≤ 0 then .finite 0
  else match m.signalDirection with
    | .highIsBad => PyFloat.ofExact (value / threshold)
    | .lowIsBad => if value ≤ 0 then m.criticalRatio else PyFloat.ofExact (threshold / value)

/-- `severity_label`. -/
def severityLabel (value threshold : ℚ) : Severity :=
  if m.thresholdExceeded value threshold = false then .info
  else if PyFloat.ge (m.severityScore value threshold) m.criticalRatio then .critical
  else if PyFloat.ge (m.severityScore value threshold) m.warningRatio then .warning
  else .info

/-- The second value is at least as bad as the first. -/
def AtLeastAsBad (value value' : ℚ) : Prop :=
  match m.signalDirection with
  | .highIsBad => value ≤ value'
  | .lowIsBad => value' ≤ value

end MetricPolicy

/-- `AgentDecisionPolicy`, with what a diagnosis depends on. -/
structure DiagnosisPolicy extends AgentDecisionPolicy where
  metricPolicies : List MetricPolicy
  actionRewards : List (String × PyFloat)

/-- `_normalize_metric`; `lower` is `str.lower`. -/
def normalizeMetric (lower : String → String) (metric : String) : String :=
  (lower (Text.strip metric)).map fun c => if c = '-' then '_' else c

namespace DiagnosisPolicy

variable (p : DiagnosisPolicy)

/-- `metric_policy_for`. -/
def metricPolicyFor (lower : String → String) (metric : String) : Option MetricPolicy :=
  p.metricPolicies.find? fun m => normalizeMetric lower metric = m.canonicalName ||
    m.aliases.contains (normalizeMetric lower metric)

/-- `reward_for`. -/
def rewardFor (action : String) (default : PyFloat) : PyFloat :=
  (p.actionRewards.lookup action).getD default

end DiagnosisPolicy

/-! ### `diagnose_evidence` -/

section Diagnose

variable (lower : String → String)

/-- `EvidenceSnapshot.primary_metric_value`. -/
def primaryMetricValue (evidence : EvidenceSnapshot) (metric : String) : Option ℚ :=
  evidence.metricValues.lookup (normalizeMetric lower metric)

/-- `_evidence_metric_value`. -/
def evidenceMetricValue (evidence : EvidenceSnapshot) (normalizedMetric : String)
    (metricPolicy : Option MetricPolicy) : Option ℚ :=
  (normalizedMetric :: (metricPolicy.map (·.aliases)).getD []).findSome?
    (primaryMetricValue lower evidence)

/-- `_comparison_text`. -/
def comparisonText (value threshold : ℚ) (metricPolicy : Option MetricPolicy) : String :=
  let operator := if metricPolicy.map (·.signalDirection) = some .lowIsBad then
      if value ≤ threshold then "<=" else ">"
    else if value ≥ threshold then ">=" else "<"
  PyFloat.fixed3 (.finite value) ++ " " ++ operator ++ " " ++ PyFloat.fixed3 (.finite threshold)

/-- `evidence.to_summary()`. -/
def toSummary (evidence : EvidenceSnapshot) : Json :=
  .obj [("namespace", .str evidence.ns), ("deployment", .str evidence.deployment),
    ("metric_values", .obj (evidence.metricValues.map fun entry => (entry.1, .number entry.2))),
    ("desired_replicas", .int evidence.desiredReplicas),
    ("available_replicas", .int evidence.availableReplicas),
    ("restart_count", .int evidence.restartCount),
    ("pod_statuses", .texts evidence.podStatuses),
    ("pod_identities", .texts evidence.podIdentities), ("events", .texts evidence.events),
    ("latency_ms", .ofOption .number evidence.latencyMs),
    ("error_rate", .ofOption .number evidence.errorRate),
    ("log_summary", .str evidence.logSummary), ("source", .str evidence.source)]

/-- What the signals write in turn. -/
structure Finding where
  cause : String
  severity : Severity
  confidence : ℚ
  preferredAction : String
  possibleRootCauses : List String

variable (policy : DiagnosisPolicy)

/-- The first signal: the metric. -/
def metricFinding (metricPolicy : Option MetricPolicy) (value : Option ℚ) (threshold : ℚ) :
    Finding :=
  match metricPolicy, value with
  | none, _ => ⟨"unknown_metric", .info, Binary64.nearest (1 / 2),
      policy.preferredActionFor "unknown_metric", ["unknown_metric"]⟩
  | some m, some value =>
    if m.thresholdExceeded value threshold then
      ⟨m.cause, m.severityLabel value threshold, Binary64.nearest (88 / 100),
        policy.preferredActionFor m.cause, [m.cause]⟩
    else ⟨"no_action_required", .info, Binary64.nearest (60 / 100), "observe_only", []⟩
  | some _, none => ⟨"no_action_required", .info, Binary64.nearest (60 / 100), "observe_only", []⟩

/-- The severity of a positive number of restarts. -/
def restartSeverity (restartCount : ℤ) : Severity :=
  if restartCount ≤ 2 then .warning else .critical

/-- The second signal: the restarts. -/
def restartFinding (normalizedMetric : String) (evidence : EvidenceSnapshot) (f : Finding) :
    Finding :=
  if evidence.restartCount > 0 then
    if normalizedMetric = "restart_count" ∨ f.cause = "no_action_required" then
      ⟨"pod_restarts", restartSeverity evidence.restartCount,
        max f.confidence (Binary64.nearest (86 / 100)), policy.preferredActionFor "pod_restarts",
        f.possibleRootCauses ++ ["pod_instability"]⟩
    else { f with possibleRootCauses := f.possibleRootCauses ++ ["pod_instability"] }
  else f

/-- The third signal: the missing replicas. -/
def availabilityFinding (evidence : EvidenceSnapshot) (f : Finding) : Finding :=
  if evidence.availableReplicas < evidence.desiredReplicas then
    ⟨"low_availability", .critical, max f.confidence (Binary64.nearest (90 / 100)),
      policy.preferredActionFor "low_availability", f.possibleRootCauses ++ ["low_availability"]⟩
  else f

/-- The metric that is diagnosed: the canonical name of a known one. -/
def normalizedMetricOf (metric : String) : String :=
  match policy.metricPolicyFor lower metric with
  | some m => m.canonicalName
  | none => normalizeMetric lower metric

/-- What the three signals find. -/
def findingOf (evidence : EvidenceSnapshot) (metric : String) (threshold : ℚ) : Finding :=
  let metricPolicy := policy.metricPolicyFor lower metric
  let normalizedMetric := normalizedMetricOf lower policy metric
  let value := evidenceMetricValue lower evidence normalizedMetric metricPolicy
  availabilityFinding policy evidence
    (restartFinding policy normalizedMetric evidence (metricFinding policy metricPolicy value threshold))

/-- `cause not in {"no_action_required", "unknown_metric"}`. -/
def Finding.approved (f : Finding) : Bool :=
  f.cause ≠ "no_action_required" ∧ f.cause ≠ "unknown_metric"

/-- `diagnosis_reason`. -/
def Finding.reason (f : Finding) : String :=
  "cause=" ++ f.cause ++ "; severity=" ++ f.severity.text ++ "; preferred_action=" ++
    f.preferredAction

/-- `diagnosis_evidence`. -/
def diagnosisEvidence (evidence : EvidenceSnapshot) (metric : String) (threshold : ℚ) :
    List (String × Json) :=
  let metricPolicy := policy.metricPolicyFor lower metric
  let normalizedMetric := normalizedMetricOf lower policy metric
  let value := evidenceMetricValue lower evidence normalizedMetric metricPolicy
  let f := findingOf lower policy evidence metric threshold
  [("supporting_evidence", toSummary evidence),
    ("missing_evidence", .texts (if value = none then [normalizedMetric] else [])),
    ("possible_root_causes", .texts (Sorting.sortedSet id f.possibleRootCauses)),
    ("normalized_metric_name", .str normalizedMetric),
    ("threshold_comparison", .str (match value with
      | none => "missing"
      | some value => comparisonText value threshold metricPolicy)),
    ("threshold_exceeded", .bool (match value, metricPolicy with
      | some value, some m => m.thresholdExceeded value threshold
      | _, _ => false)),
    ("signal_direction", .str (match metricPolicy with
      | some m => m.signalDirection.text
      | none => "unknown")),
    ("severity_score", .float (match value, metricPolicy with
      | some value, some m => m.severityScore value threshold
      | _, _ => .finite 0)),
    ("diagnosis_reason", .str f.reason),
    ("recommended_next_observation", .str
      (if value = none then "collect_missing_metric" else "monitor_after_recovery_action")),
    ("preferred_action", .str f.preferredAction)]

/-- `diagnose_evidence`. -/
def diagnoseEvidence (evidence : EvidenceSnapshot) (metric : String) (threshold : ℚ) :
    Diagnosis × AgentDecision :=
  let f := findingOf lower policy evidence metric threshold
  let action := if f.approved then "ha_recovery_required" else "ha_no_action"
  (⟨evidence.deployment, f.cause, f.severity.text, f.confidence,
      diagnosisEvidence lower policy evidence metric threshold⟩,
    ⟨"AIServiceHASupportAgent", action,
      policy.rewardFor action (if f.approved then .lit (90 / 100) else .lit (20 / 100)), f.approved,
      f.reason,
      [("cause", f.cause), ("severity", f.severity.text),
        ("confidence", PyFloat.fixed2 (.finite f.confidence)),
        ("preferred_action", f.preferredAction)]⟩)

end Diagnose

/-! ### Labels -/

namespace MetricPolicy

variable {m : MetricPolicy} {value value' threshold : ℚ}

theorem thresholdExceeded_mono (h : m.AtLeastAsBad value value')
    (hexceeded : m.thresholdExceeded value threshold = true) :
    m.thresholdExceeded value' threshold = true := by
  unfold AtLeastAsBad at h
  unfold thresholdExceeded at hexceeded ⊢
  cases hdirection : m.signalDirection <;> simp only [hdirection, decide_eq_true_eq] at h hexceeded ⊢
  · exact hexceeded.trans h
  · exact h.trans hexceeded

/-- The score of a ratio that is no number: a low value has it as its score. -/
def ScoreLost (m : MetricPolicy) (value value' : ℚ) : Prop :=
  m.criticalRatio = .nan ∧ m.signalDirection = .lowIsBad ∧ 0 < value ∧ value' ≤ 0

/-- A worse value has at least the score, or the critical ratio for its score. -/
theorem severityScore_mono (hthreshold : 0 < threshold) (h : m.AtLeastAsBad value value') :
    PyFloat.ge (m.severityScore value' threshold) (m.severityScore value threshold) = true ∨
      m.severityScore value' threshold = m.criticalRatio ∧
        (m.severityScore value threshold = m.criticalRatio ∨
          m.signalDirection = .lowIsBad ∧ 0 < value ∧ value' ≤ 0) := by
  unfold AtLeastAsBad at h
  unfold severityScore
  rw [if_neg hthreshold.not_ge, if_neg hthreshold.not_ge]
  cases hdirection : m.signalDirection <;> simp only [hdirection] at h ⊢
  · exact .inl (PyFloat.ofExact_ge (div_le_div_of_nonneg_right h hthreshold.le))
  · by_cases hvalue' : value' ≤ 0
    · rw [if_pos hvalue']
      by_cases hvalue : value ≤ 0
      · rw [if_pos hvalue]
        exact .inr ⟨rfl, .inl rfl⟩
      · exact .inr ⟨rfl, .inr ⟨trivial, not_le.1 hvalue, hvalue'⟩⟩
    · rw [if_neg hvalue', if_neg fun hvalue => hvalue' (h.trans hvalue)]
      exact .inl (PyFloat.ofExact_ge (div_le_div_of_nonneg_left hthreshold.le (not_le.1 hvalue') h))

theorem severityLabel_of_not_exceeded (h : m.thresholdExceeded value threshold = false) :
    m.severityLabel value threshold = .info := if_pos h

theorem severityLabel_of_exceeded (h : m.thresholdExceeded value threshold = true) :
    m.severityLabel value threshold =
      if PyFloat.ge (m.severityScore value threshold) m.criticalRatio then .critical
      else if PyFloat.ge (m.severityScore value threshold) m.warningRatio then .warning
      else .info := by
  rw [severityLabel, h]
  rfl

/-- **The label is monotone**, but where a value loses its score. -/
theorem severityLabel_mono (hthreshold : 0 < threshold) (h : m.AtLeastAsBad value value')
    (hscore : ¬m.ScoreLost value value') :
    (m.severityLabel value threshold).rank ≤ (m.severityLabel value' threshold).rank := by
  by_cases hexceeded : m.thresholdExceeded value threshold = true
  case neg =>
    rw [severityLabel_of_not_exceeded (Bool.eq_false_iff.2 hexceeded)]
    exact Nat.zero_le _
  have hexceeded' := thresholdExceeded_mono h hexceeded
  rw [severityLabel_of_exceeded hexceeded, severityLabel_of_exceeded hexceeded']
  rcases severityScore_mono hthreshold h with hge | ⟨hlost', hlost⟩
  · by_cases hcritical : PyFloat.ge (m.severityScore value threshold) m.criticalRatio = true
    · rw [if_pos hcritical, if_pos (PyFloat.ge_trans hge hcritical)]
    · rw [if_neg hcritical]
      by_cases hwarning : PyFloat.ge (m.severityScore value threshold) m.warningRatio = true
      · rw [if_pos hwarning]
        split
        · decide
        · rw [if_pos (PyFloat.ge_trans hge hwarning)]
      · rw [if_neg hwarning]
        exact Nat.zero_le _
  · rw [hlost']
    by_cases hnan : m.criticalRatio = .nan
    · rcases hlost with hlost | ⟨hdirection, hvalue, hvalue'⟩
      · rw [hlost]
      · exact absurd ⟨hnan, hdirection, hvalue, hvalue'⟩ hscore
    · rw [if_pos (PyFloat.ge_self hnan)]
      exact Severity.rank_le_two _

/-- Where a value loses its score, nothing is above `info`. -/
theorem severityLabel_of_scoreLost (hthreshold : 0 < threshold) (h : m.ScoreLost value value') :
    m.severityLabel value' threshold = .info := by
  obtain ⟨hnan, hdirection, -, hvalue'⟩ := h
  unfold severityLabel
  have hscore : m.severityScore value' threshold = .nan := by
    rw [severityScore, if_neg hthreshold.not_ge, hdirection]
    exact (if_pos hvalue').trans hnan
  rw [hscore, if_neg (PyFloat.not_nan_ge _), if_neg (PyFloat.not_nan_ge _)]
  split <;> rfl

/-- **Where the label drops**: a warning whose score is lost. -/
theorem rank_severityLabel_le_iff (hthreshold : 0 < threshold) (h : m.AtLeastAsBad value value') :
    (m.severityLabel value threshold).rank ≤ (m.severityLabel value' threshold).rank ↔
      ¬(m.ScoreLost value value' ∧ m.severityLabel value threshold = .warning) := by
  by_cases hscore : m.ScoreLost value value'
  · rw [severityLabel_of_scoreLost hthreshold hscore]
    have hnotCritical : m.severityLabel value threshold ≠ .critical := by
      intro hcritical
      unfold severityLabel at hcritical
      rw [hscore.1, if_neg (PyFloat.not_ge_nan (m.severityScore value threshold))] at hcritical
      split at hcritical
      · cases hcritical
      · split at hcritical <;> cases hcritical
    cases hlabel : m.severityLabel value threshold <;> simp_all [Severity.rank]
  · exact iff_of_true (severityLabel_mono hthreshold h hscore) fun hlost => hscore hlost.1

end MetricPolicy

/-! ### Two snapshots -/

/-- The rank of the text of a severity. -/
def severityRank (severity : String) : ℕ :=
  if severity = "critical" then 2 else if severity = "warning" then 1 else 0

theorem severityRank_text (s : Severity) : severityRank s.text = s.rank := by
  cases s <;> decide

/-- `max(desired_replicas - available_replicas, 0)`. -/
def missingReplicas (evidence : EvidenceSnapshot) : ℤ :=
  max (evidence.desiredReplicas - evidence.availableReplicas) 0

/-- Both snapshots carry the metric, and the second is at least as bad in the value of it, in its
restarts and in its missing replicas. -/
structure Worsens (lower : String → String) (m : MetricPolicy) (evidence evidence' : EvidenceSnapshot)
    (value value' : ℚ) : Prop where
  carries : evidenceMetricValue lower evidence m.canonicalName (some m) = some value
  carries' : evidenceMetricValue lower evidence' m.canonicalName (some m) = some value'
  value : m.AtLeastAsBad value value'
  restarts : evidence.restartCount ≤ evidence'.restartCount
  missing : missingReplicas evidence ≤ missingReplicas evidence'

/-- The restarts of a metric whose own name is `restart_count` hide its label. -/
def RestartsHideLabel (m : MetricPolicy) (evidence evidence' : EvidenceSnapshot)
    (value threshold : ℚ) : Prop :=
  m.canonicalName = "restart_count" ∧ evidence.restartCount ≤ 0 ∧ 0 < evidence'.restartCount ∧
    evidence'.restartCount ≤ 2 ∧ m.severityLabel value threshold = .critical

/-- A metric that comes to be beyond its threshold hides the restarts. -/
def LabelHidesRestarts (m : MetricPolicy) (evidence : EvidenceSnapshot)
    (value value' threshold : ℚ) : Prop :=
  m.canonicalName ≠ "restart_count" ∧ 0 < evidence.restartCount ∧
    m.thresholdExceeded value threshold = false ∧ m.thresholdExceeded value' threshold = true ∧
    (m.severityLabel value' threshold).rank < (restartSeverity evidence.restartCount).rank

/-- A low value has the critical ratio for its score, and this is not a number. -/
def LabelIsLost (m : MetricPolicy) (evidence' : EvidenceSnapshot) (value value' threshold : ℚ) :
    Prop :=
  ¬(m.canonicalName = "restart_count" ∧ 0 < evidence'.restartCount) ∧ m.ScoreLost value value' ∧
    m.severityLabel value threshold = .warning

/-- **Where the severity drops although the evidence is worse.** -/
def SeverityDrops (m : MetricPolicy) (evidence evidence' : EvidenceSnapshot)
    (value value' threshold : ℚ) : Prop :=
  missingReplicas evidence' = 0 ∧ (RestartsHideLabel m evidence evidence' value threshold ∨
    LabelHidesRestarts m evidence value value' threshold ∨
    LabelIsLost m evidence' value value' threshold)

section Monotone

variable {lower : String → String} {policy : DiagnosisPolicy} {metric : String} {m : MetricPolicy}
  {evidence evidence' : EvidenceSnapshot} {value value' threshold : ℚ}

theorem lt_iff_missingReplicas (evidence : EvidenceSnapshot) :
    evidence.availableReplicas < evidence.desiredReplicas ↔ 0 < missingReplicas evidence := by
  unfold missingReplicas
  omega

/-- What a diagnosis of a known metric finds. -/
def metricSeverity (m : MetricPolicy) (evidence : EvidenceSnapshot) (value threshold : ℚ) :
    Severity :=
  if 0 < evidence.restartCount ∧
      (m.canonicalName = "restart_count" ∨ m.thresholdExceeded value threshold = false) then
    restartSeverity evidence.restartCount
  else m.severityLabel value threshold

/-- **One diagnosis**: the approval and the severity by the three signals. -/
theorem findingOf_spec (threshold : ℚ)
    (hcause : m.cause ≠ "no_action_required" ∧ m.cause ≠ "unknown_metric")
    (hknown : policy.metricPolicyFor lower metric = some m)
    (hvalue : evidenceMetricValue lower evidence m.canonicalName (some m) = some value) :
    ((findingOf lower policy evidence metric threshold).approved = true ↔
        0 < missingReplicas evidence ∨ 0 < evidence.restartCount ∨
          m.thresholdExceeded value threshold = true) ∧
      (findingOf lower policy evidence metric threshold).severity =
        if 0 < missingReplicas evidence then .critical
        else metricSeverity m evidence value threshold := by
  have hname : normalizedMetricOf lower policy metric = m.canonicalName := by
    rw [normalizedMetricOf, hknown]
  have hfinding : findingOf lower policy evidence metric threshold =
      availabilityFinding policy evidence (restartFinding policy m.canonicalName evidence
        (metricFinding policy (some m) (some value) threshold)) := by
    rw [findingOf, hname, hknown, hvalue]
  have hreplicas := lt_iff_missingReplicas evidence
  rw [hfinding, availabilityFinding]
  by_cases hmissing : 0 < missingReplicas evidence
  · rw [if_pos (hreplicas.2 hmissing), if_pos hmissing]
    exact ⟨iff_of_true (by simp [Finding.approved]) (.inl hmissing), rfl⟩
  rw [if_neg (mt hreplicas.1 hmissing), if_neg hmissing, restartFinding]
  by_cases hexceeded : m.thresholdExceeded value threshold = true
  · have hmetric : metricFinding policy (some m) (some value) threshold =
        ⟨m.cause, m.severityLabel value threshold, Binary64.nearest (88 / 100),
          policy.preferredActionFor m.cause, [m.cause]⟩ := if_pos hexceeded
    rw [hmetric]
    by_cases hrestarts : 0 < evidence.restartCount <;>
      by_cases hcanonical : m.canonicalName = "restart_count" <;>
      simp [Finding.approved, metricSeverity, hrestarts, hcanonical, hexceeded, hcause]
  · have hmetric : metricFinding policy (some m) (some value) threshold =
        ⟨"no_action_required", .info, Binary64.nearest (60 / 100), "observe_only", []⟩ :=
      if_neg hexceeded
    have hlabel := MetricPolicy.severityLabel_of_not_exceeded (Bool.eq_false_iff.2 hexceeded)
    rw [hmetric]
    by_cases hrestarts : 0 < evidence.restartCount <;>
      simp [Finding.approved, metricSeverity, hrestarts, hexceeded, hlabel, hmissing]

/-- The severity by restarts is monotone. -/
theorem restartSeverity_mono {n n' : ℤ} (h : n ≤ n') :
    (restartSeverity n).rank ≤ (restartSeverity n').rank := by
  unfold restartSeverity
  split <;> split <;> first | decide | omega

theorem one_le_rank_restartSeverity (n : ℤ) : 1 ≤ (restartSeverity n).rank := by
  unfold restartSeverity
  split <;> decide

/-- **Without missing replicas** the severity drops in three cases and in no other. -/
theorem metricSeverity_mono_iff (hthreshold : 0 < threshold) (h : m.AtLeastAsBad value value')
    (hrestarts : evidence.restartCount ≤ evidence'.restartCount) :
    (metricSeverity m evidence value threshold).rank ≤
        (metricSeverity m evidence' value' threshold).rank ↔
      ¬(RestartsHideLabel m evidence evidence' value threshold ∨
        LabelHidesRestarts m evidence value value' threshold ∨
        LabelIsLost m evidence' value value' threshold) := by
  have hlabels := MetricPolicy.rank_severityLabel_le_iff hthreshold h
  unfold RestartsHideLabel LabelHidesRestarts LabelIsLost
  by_cases hname : m.canonicalName = "restart_count"
  · by_cases hrestarts' : 0 < evidence'.restartCount
    · have hafter : metricSeverity m evidence' value' threshold =
          restartSeverity evidence'.restartCount := if_pos ⟨hrestarts', .inl hname⟩
      rw [hafter]
      by_cases hfirst : 0 < evidence.restartCount
      · have hbefore : metricSeverity m evidence value threshold =
            restartSeverity evidence.restartCount := if_pos ⟨hfirst, .inl hname⟩
        rw [hbefore]
        refine iff_of_true (restartSeverity_mono hrestarts) ?_
        rintro (⟨-, hnone, -⟩ | ⟨hne, -⟩ | ⟨hne, -⟩)
        · omega
        · exact hne hname
        · exact hne ⟨hname, hrestarts'⟩
      · have hbefore : metricSeverity m evidence value threshold = m.severityLabel value threshold :=
          if_neg fun hboth => hfirst hboth.1
        rw [hbefore]
        have hpositive := one_le_rank_restartSeverity evidence'.restartCount
        by_cases hfew : evidence'.restartCount ≤ 2
        · have hwarning : restartSeverity evidence'.restartCount = .warning := if_pos hfew
          cases hlabel : m.severityLabel value threshold <;>
            simp [hwarning, Severity.rank, hname, hrestarts', hfew, not_lt.1 hfirst]
        · have hcritical : restartSeverity evidence'.restartCount = .critical := if_neg hfew
          rw [hcritical]
          refine iff_of_true (Severity.rank_le_two _) ?_
          rintro (⟨-, -, -, htwo, -⟩ | ⟨hne, -⟩ | ⟨hne, -⟩)
          · exact hfew htwo
          · exact hne hname
          · exact hne ⟨hname, hrestarts'⟩
    · have hbefore : metricSeverity m evidence value threshold = m.severityLabel value threshold :=
        if_neg fun hboth => hrestarts' (hboth.1.trans_le hrestarts)
      have hafter : metricSeverity m evidence' value' threshold = m.severityLabel value' threshold :=
        if_neg fun hboth => hrestarts' hboth.1
      rw [hbefore, hafter, hlabels]
      simp [hname, hrestarts']
  · by_cases hexceeded : m.thresholdExceeded value threshold = true
    · have hexceeded' := MetricPolicy.thresholdExceeded_mono h hexceeded
      have hbefore : metricSeverity m evidence value threshold = m.severityLabel value threshold :=
        if_neg fun hboth => by simp [hname, hexceeded] at hboth
      have hafter : metricSeverity m evidence' value' threshold = m.severityLabel value' threshold :=
        if_neg fun hboth => by simp [hname, hexceeded'] at hboth
      rw [hbefore, hafter, hlabels]
      simp [hname, hexceeded]
    · have hbelow : m.thresholdExceeded value threshold = false := Bool.eq_false_iff.2 hexceeded
      have hinfo := MetricPolicy.severityLabel_of_not_exceeded hbelow
      by_cases hexceeded' : m.thresholdExceeded value' threshold = true
      · have hafter : metricSeverity m evidence' value' threshold =
            m.severityLabel value' threshold :=
          if_neg fun hboth => by simp [hname, hexceeded'] at hboth
        by_cases hfirst : 0 < evidence.restartCount
        · have hbefore : metricSeverity m evidence value threshold =
              restartSeverity evidence.restartCount := if_pos ⟨hfirst, .inr hbelow⟩
          rw [hbefore, hafter]
          simp [hname, hfirst, hbelow, hexceeded', hinfo]
        · have hbefore : metricSeverity m evidence value threshold =
              m.severityLabel value threshold := if_neg fun hboth => hfirst hboth.1
          rw [hbefore, hafter, hinfo]
          simp [hname, hfirst, Severity.rank]
      · have hbelow' : m.thresholdExceeded value' threshold = false :=
          Bool.eq_false_iff.2 hexceeded'
        have hinfo' := MetricPolicy.severityLabel_of_not_exceeded hbelow'
        refine iff_of_true ?_ (by simp [hname, hexceeded', hinfo])
        by_cases hfirst : 0 < evidence.restartCount
        · have hbefore : metricSeverity m evidence value threshold =
              restartSeverity evidence.restartCount := if_pos ⟨hfirst, .inr hbelow⟩
          have hafter : metricSeverity m evidence' value' threshold =
              restartSeverity evidence'.restartCount :=
            if_pos ⟨hfirst.trans_le hrestarts, .inr hbelow'⟩
          rw [hbefore, hafter]
          exact restartSeverity_mono hrestarts
        · have hbefore : metricSeverity m evidence value threshold =
              m.severityLabel value threshold := if_neg fun hboth => hfirst hboth.1
          rw [hbefore, hinfo]
          exact Nat.zero_le _

/-- **Worse evidence keeps the approval, and the severity** unless `SeverityDrops`. -/
theorem diagnoseEvidence_monotone_iff
    (hcauses : ∀ m ∈ policy.metricPolicies, m.cause ≠ "no_action_required" ∧
      m.cause ≠ "unknown_metric")
    (hknown : policy.metricPolicyFor lower metric = some m) (hthreshold : 0 < threshold)
    (h : Worsens lower m evidence evidence' value value') :
    ((diagnoseEvidence lower policy evidence metric threshold).2.approved = true →
        (diagnoseEvidence lower policy evidence' metric threshold).2.approved = true) ∧
      (severityRank (diagnoseEvidence lower policy evidence metric threshold).1.severity ≤
          severityRank (diagnoseEvidence lower policy evidence' metric threshold).1.severity ↔
        ¬SeverityDrops m evidence evidence' value value' threshold) := by
  have hcause := hcauses m (List.mem_of_find?_eq_some hknown)
  obtain ⟨happroved, hseverity⟩ := findingOf_spec threshold hcause hknown h.carries
  obtain ⟨happroved', hseverity'⟩ := findingOf_spec threshold hcause hknown h.carries'
  have hrank : severityRank (diagnoseEvidence lower policy evidence metric threshold).1.severity =
      (findingOf lower policy evidence metric threshold).severity.rank := severityRank_text _
  have hrank' : severityRank (diagnoseEvidence lower policy evidence' metric threshold).1.severity =
      (findingOf lower policy evidence' metric threshold).severity.rank := severityRank_text _
  constructor
  · intro hfirst
    refine happroved'.2 ((happroved.1 hfirst).imp (·.trans_le h.missing) (Or.imp ?_ ?_))
    · exact (·.trans_le h.restarts)
    · exact MetricPolicy.thresholdExceeded_mono h.value
  · rw [hrank, hrank', hseverity, hseverity', SeverityDrops]
    by_cases hmissing' : 0 < missingReplicas evidence'
    · rw [if_pos hmissing']
      exact iff_of_true (Severity.rank_le_two _) fun hdrops => hmissing'.ne' hdrops.1
    · have hmissing : ¬0 < missingReplicas evidence := fun hpos =>
        hmissing' (hpos.trans_le h.missing)
      have hnone : missingReplicas evidence' = 0 :=
        le_antisymm (not_lt.1 hmissing') (le_max_right _ _)
      rw [if_neg hmissing', if_neg hmissing, metricSeverity_mono_iff hthreshold h.value h.restarts]
      simp [hnone]

end Monotone

/-! ### Restarts behind a CPU alert -/

/-- The metric `cpu` of the default policy. -/
def cpuPolicy : MetricPolicy :=
  ⟨"cpu", ["cpu", "cpu_usage"], "cpu_saturation", .highIsBad, .lit 1, .lit (11 / 10)⟩

/-- A policy that knows this metric. -/
def cpuDiagnosisPolicy : DiagnosisPolicy where
  preferredActions := [("cpu_saturation", "scale_out"), ("pod_restarts", "rollout_restart")]
  replicaBySeverity := []
  defaultReplicas := 3
  maxReplicas := 5
  metricPolicies := [cpuPolicy]
  actionRewards := []

/-- A workload of two replicas that restarted three times. -/
def restarted (cpu : ℚ) : EvidenceSnapshot :=
  ⟨"prod", "web", [("cpu", cpu)], 2, 2, 3, ["Running"], [], [], none, none, "", "fake"⟩

/-- The snapshots with 70 and 81 percent are as the theorem wants them. -/
theorem restarted_worsens : Worsens id cpuPolicy (restarted 70) (restarted 81) 70 81 where
  carries := by decide +kernel
  carries' := by decide +kernel
  value := by
    have h : (70 : ℚ) ≤ 81 := by norm_num
    exact h
  restarts := le_rfl
  missing := le_rfl

theorem diagnoseEvidence_monotone_iff_restarted :
    ((diagnoseEvidence id cpuDiagnosisPolicy (restarted 70) "cpu" 80).2.approved = true →
        (diagnoseEvidence id cpuDiagnosisPolicy (restarted 81) "cpu" 80).2.approved = true) ∧
      (severityRank (diagnoseEvidence id cpuDiagnosisPolicy (restarted 70) "cpu" 80).1.severity ≤
          severityRank (diagnoseEvidence id cpuDiagnosisPolicy (restarted 81) "cpu" 80).1.severity ↔
        ¬SeverityDrops cpuPolicy (restarted 70) (restarted 81) 70 81 80) :=
  diagnoseEvidence_monotone_iff (by simp [cpuDiagnosisPolicy, cpuPolicy]) (by decide +kernel)
    (by norm_num) restarted_worsens

/-- **Three restarts are critical at 70 percent and a warning at 81.** -/
theorem restarts_hidden_by_label :
    Worsens id cpuPolicy (restarted 70) (restarted 81) 70 81 ∧
      (diagnoseEvidence id cpuDiagnosisPolicy (restarted 70) "cpu" 80).1.severity = "critical" ∧
      (diagnoseEvidence id cpuDiagnosisPolicy (restarted 81) "cpu" 80).1.severity = "warning" := by
  refine ⟨restarted_worsens, ?_, ?_⟩
  · decide +kernel
  · decide +kernel

end Agents
end AiopsK8s
