/-
# The feature vector of a candidate

`extract_partition_features` of `partition_features`: what a trained ranker sees of a request and a
candidate.  A feature is a finite float that is not negative; an integer becomes a float by
`float(value)`, which raises for one that is too large.
-/

import AiopsK8s.Partition.Agent

namespace AiopsK8s
namespace Partition

open Effect ModelPartitionOrchestrationAgent

namespace Features

/-- `PartitionContractError("invalid_partition_features", …)`. -/
def invalidFeatures (message : String) : PartitionError :=
  .contract "invalid_partition_features" message

/-- `_number`, with the minimum `0.0` that every call states. -/
def number (value : PyFloat) (field : String) : Except PartitionError PyFloat := do
  rejectIf (value.isFinite = false) (invalidFeatures s!"{field} must be finite")
  rejectIf (PyFloat.lt value (.finite 0) = true)
    (invalidFeatures s!"{field} byte sizes must not be negative")
  return value

/-- `_number` of an integer, and `_bytes`. -/
def integer (value : ℤ) (field : String) : Except PartitionError PyFloat :=
  match PyFloat.ofInt value with
  | none => .error .overflow
  | some value => number value field

/-- `_optional_number`. -/
def optionalNumber (value : Option ℚ) (field : String) : Except PartitionError PyFloat :=
  match value with
  | none => .ok (.finite 0)
  | some value => number (.finite value) field

/-- `_optional_bytes`. -/
def optionalBytes (value : Option ℤ) (field : String) : Except PartitionError PyFloat :=
  match value with
  | none => .ok (.finite 0)
  | some value => integer value field

/-- `_forecast_value`, of an attribute that is a float or an integer. -/
def forecastValue (forecast : Option WorkloadForecast)
    (read : WorkloadForecast → Except PartitionError PyFloat) :
    Except PartitionError (PyFloat × PyFloat) :=
  match forecast with
  | none => .ok (.finite 0, .finite 1)
  | some forecast => do return (← read forecast, .finite 0)

/-- `_text` of the plan type. -/
def planTypeOf (request : NormalizedPartitionRequest) : Except PartitionError String := do
  rejectIf (Text.strip request.planType = "") (invalidFeatures "plan_type is required")
  rejectIf (Text.strip request.planType ∉ ["training", "inference"])
    (invalidFeatures "plan_type is unsupported")
  return Text.strip request.planType

/-- `1.0` or `0.0`. -/
def indicator (c : Bool) : PyFloat := .finite (if c then 1 else 0)

section Vector

variable (rt : Runtime)

/-- `_mean`. -/
def mean (values : List PyFloat) : PyFloat :=
  (rt.summation.sum values).div (.finite values.length)

/-- The features of the model, the devices and the links of a request. -/
def requestFeatures (request : NormalizedPartitionRequest) (planType : String)
    (totalComputeUnits : PyFloat) : Except PartitionError (List (String × PyFloat)) := do
  let parameters ← request.layers.mapM fun l => integer l.parameterBytes "layers.parameter_bytes"
  let activations ← request.layers.mapM fun l =>
    integer l.activationBytes "layers.activation_bytes"
  let working ← request.layers.mapM fun l =>
    integer l.workingMemoryBytes "layers.working_memory_bytes"
  let compute ← request.devices.mapM fun d =>
    number (.finite d.computeUnitsPerSecond) "devices.compute_units_per_second"
  let memory ← request.devices.mapM fun d =>
    integer d.memoryAvailableBytes "devices.memory_available_bytes"
  let bandwidth ← request.networkLinks.mapM fun l =>
    number (.finite l.bandwidthBytesPerSecond) "network_links.bandwidth_bytes_per_second"
  let latency ← request.networkLinks.mapM fun l =>
    number (.finite l.latencyMs) "network_links.latency_ms"
  return [("plan_type_training", indicator (planType = "training")),
    ("plan_type_inference", indicator (planType = "inference")),
    ("layer_count", ← integer request.layers.length "layer_count"),
    ("participant_count", ← integer request.participants.length "participant_count"),
    ("total_compute_units", totalComputeUnits),
    ("total_parameter_bytes", rt.summation.sum parameters),
    ("total_activation_bytes", rt.summation.sum activations),
    ("total_working_memory_bytes", rt.summation.sum working),
    ("device_compute_min", minOrZero compute), ("device_compute_mean", mean rt compute),
    ("device_compute_max", maxOrZero compute), ("device_memory_min", minOrZero memory),
    ("device_memory_mean", mean rt memory), ("device_memory_max", maxOrZero memory),
    ("network_bandwidth_min", minOrZero bandwidth), ("network_bandwidth_mean", mean rt bandwidth),
    ("network_bandwidth_max", maxOrZero bandwidth), ("network_latency_min", minOrZero latency),
    ("network_latency_mean", mean rt latency), ("network_latency_max", maxOrZero latency)]

/-- The features of the limits and the forecast of a request. -/
def contextFeatures (request : NormalizedPartitionRequest) :
    Except PartitionError (List (String × PyFloat)) := do
  let constraints := request.constraints
  let forecast := request.workloadForecast
  let rate ← forecastValue forecast fun f =>
    number (.finite f.expectedRequestRate) "workload_forecast.expected_request_rate"
  let batch ← forecastValue forecast fun f =>
    integer f.expectedBatchSize "workload_forecast.expected_batch_size"
  let sequence ← forecastValue forecast fun f =>
    integer f.expectedSequenceLength "workload_forecast.expected_sequence_length"
  let uncertainty ← optionalNumber (forecast.map (·.uncertainty)) "workload_forecast.uncertainty"
  return [("max_latency_ms", ← optionalNumber constraints.maxEndToEndLatencyMs
      "constraints.max_end_to_end_latency_ms"),
    ("max_transfer_bytes", ← optionalBytes constraints.maxTransferBytes
      "constraints.max_transfer_bytes"),
    ("minimum_memory_headroom_ratio", ← number (.finite constraints.minimumMemoryHeadroomRatio)
      "constraints.minimum_memory_headroom_ratio"),
    ("forecast_request_rate", rate.1), ("forecast_batch_size", batch.1),
    ("forecast_sequence_length", sequence.1), ("forecast_uncertainty", uncertainty),
    ("forecast_request_rate_missing", rate.2), ("forecast_batch_size_missing", batch.2),
    ("forecast_sequence_length_missing", sequence.2)]

/-- The features of a candidate. -/
def candidateFeatures (candidate : PartitionCandidate) (totalComputeUnits : PyFloat) :
    Except PartitionError (List (String × PyFloat)) := do
  let compute ← candidate.partitions.mapM fun p => number p.computeUnits "partitions.compute_units"
  let _ ← candidate.partitions.mapM fun p =>
    integer p.memoryDemandBytes "partitions.memory_demand_bytes"
  rejectIf (compute = []) (invalidFeatures "candidate must contain partitions")
  rejectIf (candidate.splitPoints = []) (invalidFeatures "candidate must contain split points")
  let splits ← candidate.splitPoints.mapM fun point => integer point "split_points"
  return [("candidate_partition_count", ← integer candidate.partitions.length
      "candidate_partition_count"),
    ("candidate_compute_share_min", (minOrZero compute).div totalComputeUnits),
    ("candidate_compute_share_mean", (mean rt compute).div totalComputeUnits),
    ("candidate_compute_share_max", (maxOrZero compute).div totalComputeUnits),
    ("estimated_compute_ms", ← number candidate.estimatedComputeMs "estimated_compute_ms"),
    ("estimated_transfer_ms", ← number candidate.estimatedTransferMs "estimated_transfer_ms"),
    ("estimated_total_latency_ms", ← number candidate.estimatedTotalLatencyMs
      "estimated_total_latency_ms"),
    ("estimated_step_time_ms", ← number candidate.estimatedStepTimeMs "estimated_step_time_ms"),
    ("total_transfer_bytes", ← integer candidate.totalTransferBytes "total_transfer_bytes"),
    ("gradient_transfer_bytes", ← integer candidate.gradientTransferBytes
      "gradient_transfer_bytes"),
    ("maximum_memory_pressure", ← number candidate.maximumMemoryPressure
      "maximum_memory_pressure"),
    ("maximum_load_imbalance", ← number candidate.maximumLoadImbalance "maximum_load_imbalance"),
    ("predicted_resilience_risk", ← number candidate.predictedResilienceRisk
      "predicted_resilience_risk"),
    ("baseline_score", ← number candidate.score "baseline_score"),
    ("split_position_min", minOrZero splits), ("split_position_mean", mean rt splits),
    ("split_position_max", maxOrZero splits)]

/-- `extract_partition_features`. -/
def extractPartitionFeatures (context : RankingContext) (candidate : PartitionCandidate) :
    Except PartitionError (List (String × PyFloat)) := do
  let request := context.request
  let planType ← planTypeOf request
  rejectIf (request.layers = [] ∨ request.devices = [] ∨ request.networkLinks = [])
    (invalidFeatures "layers, devices, and network links are required")
  let compute ← request.layers.mapM fun l =>
    number (.finite l.computeUnits) "layers.compute_units"
  let total := rt.summation.sum compute
  rejectIf (PyFloat.ge (.finite 0) total = true)
    (invalidFeatures "total_compute_units must be positive")
  let vector := (← requestFeatures rt request planType total) ++ (← contextFeatures request) ++
    (← candidateFeatures rt candidate total)
  rejectIf (vector.map Prod.fst ≠ featureOrder)
    (invalidFeatures "feature order does not match partition-feature-v1")
  vector.mapM fun (name, value) => do return (name, ← number value name)

/-- Features are extracted of a candidate whose score is a number. -/
theorem score_of_features {rt : Runtime} {context : RankingContext} {candidate : PartitionCandidate}
    {features : List (String × PyFloat)}
    (h : extractPartitionFeatures rt context candidate = .ok features) :
    ∃ q, candidate.score = .finite q := by
  obtain ⟨_, _, h⟩ := bind_eq_ok h
  obtain ⟨_, _, h⟩ := bind_eq_ok h
  obtain ⟨compute, _, h⟩ := bind_eq_ok h
  obtain ⟨_, _, h⟩ := bind_eq_ok h
  obtain ⟨_, _, h⟩ := bind_eq_ok h
  obtain ⟨_, _, h⟩ := bind_eq_ok h
  obtain ⟨vector, hvector, _⟩ := bind_eq_ok h
  obtain ⟨_, _, h⟩ := bind_eq_ok hvector
  obtain ⟨_, _, h⟩ := bind_eq_ok h
  obtain ⟨_, _, h⟩ := bind_eq_ok h
  obtain ⟨_, _, h⟩ := bind_eq_ok h
  obtain ⟨_, _, h⟩ := bind_eq_ok h
  -- the eleven figures of a candidate, of which the score is the last
  obtain ⟨_, _, h⟩ := bind_eq_ok h
  obtain ⟨_, _, h⟩ := bind_eq_ok h
  obtain ⟨_, _, h⟩ := bind_eq_ok h
  obtain ⟨_, _, h⟩ := bind_eq_ok h
  obtain ⟨_, _, h⟩ := bind_eq_ok h
  obtain ⟨_, _, h⟩ := bind_eq_ok h
  obtain ⟨_, _, h⟩ := bind_eq_ok h
  obtain ⟨_, _, h⟩ := bind_eq_ok h
  obtain ⟨_, _, h⟩ := bind_eq_ok h
  obtain ⟨_, _, h⟩ := bind_eq_ok h
  obtain ⟨_, hscore, _⟩ := bind_eq_ok h
  obtain ⟨_, hfinite, _⟩ := bind_eq_ok hscore
  exact PyFloat.isFinite_iff.1 (by simpa using rejectIf_eq_ok.1 hfinite)

end Vector

end Features

end Partition
end AiopsK8s
