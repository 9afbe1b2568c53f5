/-
# The features of a candidate

`FEATURE_ORDER` and `FEATURE_SCHEMA_VERSION` of `partition_features.py`.
-/

import Mathlib.Data.String.Basic

namespace AiopsK8s
namespace Partition

/-- `FEATURE_SCHEMA_VERSION`. -/
def featureSchemaVersion : String := "partition-feature-v1"

/-- `FEATURE_ORDER`. -/
def featureOrder : List String :=
  ["plan_type_training", "plan_type_inference", "layer_count", "participant_count",
    "total_compute_units", "total_parameter_bytes", "total_activation_bytes",
    "total_working_memory_bytes", "device_compute_min", "device_compute_mean",
    "device_compute_max", "device_memory_min", "device_memory_mean", "device_memory_max",
    "network_bandwidth_min", "network_bandwidth_mean", "network_bandwidth_max",
    "network_latency_min", "network_latency_mean", "network_latency_max", "max_latency_ms",
    "max_transfer_bytes", "minimum_memory_headroom_ratio", "forecast_request_rate",
    "forecast_batch_size", "forecast_sequence_length", "forecast_uncertainty",
    "forecast_request_rate_missing", "forecast_batch_size_missing",
    "forecast_sequence_length_missing", "candidate_partition_count",
    "candidate_compute_share_min", "candidate_compute_share_mean", "candidate_compute_share_max",
    "estimated_compute_ms", "estimated_transfer_ms", "estimated_total_latency_ms",
    "estimated_step_time_ms", "total_transfer_bytes", "gradient_transfer_bytes",
    "maximum_memory_pressure", "maximum_load_imbalance", "predicted_resilience_risk",
    "baseline_score", "split_position_min", "split_position_mean", "split_position_max"]

end Partition
end AiopsK8s
