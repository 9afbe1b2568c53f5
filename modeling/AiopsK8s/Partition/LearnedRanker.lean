/-
# The learned ranker

`LearnedRewardRanker` of `partition_ranking`: a ridge regression over the normalized features of a
candidate.  A reward that is not finite is an error, and what is returned is clamped, so a prediction
is a number within its bounds (`predict_spec`).  The confidence falls with the share of the features
that lie outside the ranges seen in training.
-/

import AiopsK8s.Learning.Artifact
import AiopsK8s.Lib.Summation
import AiopsK8s.Partition.FeatureVector

namespace AiopsK8s
namespace Partition

open Effect JsonText Learning

namespace LearnedRewardRanker

/-- `ranker_id`. -/
def rankerId : String := "learned-reward-ranker"

/-- `ranker_version`. -/
def rankerVersion : String := "1.0"

/-- `_finite_feature`. -/
def finiteFeature (features : List (String × PyFloat)) (name : String) :
    Except PartitionError PyFloat :=
  match features.lookup name with
  | none => .error .value
  | some value => if value.isFinite then .ok value else .error .value

/-- A number of the artifact, as arithmetic with floats reads it. -/
def operand : Json → Except PartitionError PyFloat
  | .int i =>
      match PyFloat.ofInt i with
      | none => .error .overflow
      | some value => .ok value
  | .float value => .ok value
  | _ => .error .type

/-- `_normalized_features`. -/
def normalizedFeatures (features : List (String × PyFloat)) :
    List String → List Json → List Json → Except PartitionError (List PyFloat)
  | [], [], [] => .ok []
  | name :: names, mean :: means, scale :: scales => do
      let value ← finiteFeature features name
      let mean ← operand mean
      let scale ← operand scale
      -- `ZeroDivisionError`: `_validate_vector` demands positive scales.
      rejectIf (scale = .finite 0) .value
      return (value.sub mean).div scale :: (← normalizedFeatures features names means scales)
  | _, _, _ => .error .value

/-- The products of the coefficients and the normalized features. -/
def products : List Json → List PyFloat → Except PartitionError (List PyFloat)
  | [], [] => .ok []
  | coefficient :: coefficients, value :: values => do
      let coefficient ← operand coefficient
      return coefficient.mul value :: (← products coefficients values)
  | _, _ => .error .value

/-- The bound of a range: a float and an integer are compared by their values. -/
def bound : Json → Except PartitionError PyFloat
  | .int i => .ok (.finite i)
  | .float value => .ok value
  | _ => .error .type

/-- A feature lies outside the range that was seen in training. -/
def outOfRange (artifact : PartitionRankerModelArtifact) (features : List (String × PyFloat))
    (name : String) : Except PartitionError Bool := do
  let value ← finiteFeature features name
  let (lower, upper) ← unpackPair (Json.get artifact.trainingFeatureRanges name)
  return PyFloat.lt value (← bound lower) || PyFloat.lt (← bound upper) value

/-- `_ood_feature_ratio`. -/
def oodFeatureRatio (artifact : PartitionRankerModelArtifact) (features : List (String × PyFloat)) :
    Except PartitionError ℚ := do
  let outside ← artifact.featureOrder.mapM (outOfRange artifact features)
  return Binary64.nearest ((outside.count true : ℚ) / artifact.featureOrder.length)

/-- `max(least, min(1.0, value))`. -/
def clamp (least : ℚ) (value : PyFloat) : PyFloat :=
  PyFloat.maximum (.finite least) [PyFloat.minimum (.finite 1) [value]]

/-- `prediction_confidence`. -/
def predictionConfidence (artifact : PartitionRankerModelArtifact)
    (features : List (String × PyFloat)) : Except PartitionError (PyFloat × List String) := do
  let ratio ← oodFeatureRatio artifact features
  let base ← operand (Json.getD artifact.confidencePolicy "base_confidence" (.number 1))
  return (clamp 0 (base.mul ((PyFloat.finite 1).sub (.finite ratio))),
    if ratio = 0 then [] else ["feature_distribution_shift"])

/-- What `predict` returns: a reward, its confidence and warnings. -/
structure Prediction where
  reward : PyFloat
  confidence : PyFloat
  warnings : List String

/-- `<` of the keys that contributions are sorted by, `(-abs(contribution), name)`. -/
def contributionLt (a b : String × PyFloat) : Bool :=
  PyFloat.ltThen a.2.magnitude.neg b.2.magnitude.neg (a.1 < b.1)

section Predicting

variable (rt : Runtime)

/-- `predict`. -/
def predict (artifact : PartitionRankerModelArtifact) (features : List (String × PyFloat)) :
    Except PartitionError Prediction := do
  let normalized ← normalizedFeatures features artifact.featureOrder artifact.featureMean
    artifact.featureScale
  let reward := (← operand artifact.intercept).add
    (rt.summation.sum (← products artifact.coefficients normalized))
  rejectIf (reward.isFinite = false) .value
  let (confidence, warnings) ← predictionConfidence artifact features
  return ⟨clamp (-1) reward, confidence, warnings⟩

/-- `feature_contributions`. -/
def featureContributions (artifact : PartitionRankerModelArtifact)
    (features : List (String × PyFloat)) : Except PartitionError (List (String × PyFloat)) := do
  let normalized ← normalizedFeatures features artifact.featureOrder artifact.featureMean
    artifact.featureScale
  let contributions := artifact.featureOrder.zip (← products artifact.coefficients normalized)
  return (rt.sorter.sort contributionLt contributions).take 5

end Predicting

/-- A clamped figure is a number between its bounds. -/
theorem clamp_spec {least : ℚ} (hleast : least ≤ 1) (value : PyFloat) :
    ∃ q, clamp least value = .finite q ∧ least ≤ q ∧ q ≤ 1 := by
  have hmin : ∃ q, PyFloat.minimum (.finite 1) [value] = .finite q ∧ q ≤ 1 ∨
      PyFloat.minimum (.finite 1) [value] = .negInf := by
    rcases value with q | - | - | -
    · by_cases hlt : q < 1
      · exact ⟨q, .inl ⟨by simp [PyFloat.minimum, PyFloat.lt, hlt], hlt.le⟩⟩
      · exact ⟨1, .inl ⟨by simp [PyFloat.minimum, PyFloat.lt, hlt], le_rfl⟩⟩
    · exact ⟨1, .inl ⟨rfl, le_rfl⟩⟩
    · exact ⟨1, .inl ⟨rfl, le_rfl⟩⟩
    · exact ⟨1, .inr rfl⟩
  obtain ⟨q, ⟨hq, hle⟩ | hq⟩ := hmin
  · unfold clamp
    rw [hq]
    by_cases hlt : least < q
    · exact ⟨q, by simp [PyFloat.maximum, PyFloat.lt, hlt], hlt.le, hle⟩
    · exact ⟨least, by simp [PyFloat.maximum, PyFloat.lt, hlt], le_rfl, hleast⟩
  · unfold clamp
    rw [hq]
    exact ⟨least, rfl, le_rfl, hleast⟩

/-- **What `predict` returns lies within its bounds.** -/
theorem predict_spec {rt : Runtime} {artifact : PartitionRankerModelArtifact}
    {features : List (String × PyFloat)} {prediction : Prediction}
    (h : predict rt artifact features = .ok prediction) :
    (∃ q, prediction.reward = .finite q ∧ -1 ≤ q ∧ q ≤ 1) ∧
      ∃ q, prediction.confidence = .finite q ∧ 0 ≤ q ∧ q ≤ 1 := by
  obtain ⟨_, _, h⟩ := bind_eq_ok h
  obtain ⟨_, _, h⟩ := bind_eq_ok h
  obtain ⟨_, _, h⟩ := bind_eq_ok h
  obtain ⟨_, _, h⟩ := bind_eq_ok h
  obtain ⟨⟨confidence, warnings⟩, hconfidence, h⟩ := bind_eq_ok h
  obtain rfl := Except.ok.inj h
  refine ⟨clamp_spec (by norm_num) _, ?_⟩
  obtain ⟨_, _, h⟩ := bind_eq_ok hconfidence
  obtain ⟨_, _, h⟩ := bind_eq_ok h
  obtain ⟨rfl, -⟩ := Prod.mk.inj (Except.ok.inj h)
  exact clamp_spec zero_le_one _

end LearnedRewardRanker

end Partition
end AiopsK8s
