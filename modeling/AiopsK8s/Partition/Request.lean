/-
# Planning and replanning a request

`plan_request` and `replan_request` of `model_partition_agent`: the common checks, the strategy for
the type and the mode of the request, the plan that it intends, and the fields that identify the
plan.  A replanning leaves out what a directive excludes; the plan that it returns is the next
version of the plan that failed.  The candidates are selected in any mode, with any model.

`Planned` collects what the planner can return for a request: a first plan and the plans of any
number of replannings after it.
-/

import AiopsK8s.Partition.Feedback
import AiopsK8s.Partition.Selection

namespace AiopsK8s
namespace Partition

open Effect

namespace ModelPartitionOrchestrationAgent

/-- The text in front of the confidence that an intent states. -/
def confidencePrefix : String := "planning_confidence:"

/-- `_intent_confidence`. -/
def intentConfidence (rt : Runtime) : List String → Except PartitionError ℚ
  | [] => .error (.contract "invalid_partition_intent"
      "strategy intent must include valid confidence")
  | assumption :: assumptions =>
      match confidencePrefix.toList.isPrefixOf? assumption.toList with
      | none => intentConfidence rt assumptions
      | some confidence =>
          match rt.floatOfText (String.ofList confidence) with
          | none => .error .value
          | some (.finite q) => if 0 ≤ q ∧ q ≤ 1 then .ok q else intentConfidence rt assumptions
          | some _ => intentConfidence rt assumptions

/-- `_with_v2_metadata`. -/
def withV2Metadata (rt : Runtime) (policy : ModelPartitionPolicy) (plan : PartitionExecutionPlan)
    (request : NormalizedPartitionRequest) (intent : PartitionIntent) :
    Except PartitionError PartitionExecutionPlan := do
  let confidence ← intentConfidence rt intent.assumptions
  return { plan with
    planVersion := 1
    parentPlanId := none
    planType := request.planType
    approvedModelVersion := request.approvedModelVersion
    strategyId := intent.strategyId
    strategyVersion := intent.strategyVersion
    inputSnapshotId := request.contextSnapshotId
    inputSnapshotHash := request.contextSnapshotHash
    assumptions := intent.assumptions
    warnings := intent.warnings
    confidence := confidence
    deterministicSignature := rt.digest (signaturePayload request.inputSignature intent.strategyId
      intent.strategyVersion policy.version plan.selection plan.selectedCandidate)
    handoffStatus :=
      if plan.valid = true ∧ request.legacyInput = false then "ready" else "not_ready" }

/-- `_with_replan_metadata`. -/
def withReplanMetadata (rt : Runtime) (policy : ModelPartitionPolicy) (plan : PartitionExecutionPlan)
    (previous : PartitionExecutionPlan) (request : NormalizedPartitionRequest) :
    PartitionExecutionPlan :=
  { plan with
    planVersion := previous.planVersion + 1
    parentPlanId := some previous.planId
    planType := previous.planType
    approvedModelVersion := previous.approvedModelVersion
    strategyId := previous.strategyId
    strategyVersion := previous.strategyVersion
    inputSnapshotId := previous.inputSnapshotId
    inputSnapshotHash := previous.inputSnapshotHash
    assumptions := previous.assumptions
    warnings := previous.warnings
    confidence := previous.confidence
    deterministicSignature := rt.digest (signaturePayload request.inputSignature
      previous.strategyId previous.strategyVersion policy.version plan.selection
      plan.selectedCandidate)
    handoffStatus :=
      if plan.valid = true ∧ previous.handoffStatus = "ready" then "ready" else "not_ready" }

variable (rt : Runtime) (sel : Selecting rt) (registry : PartitionStrategyRegistry)
  (policy : ModelPartitionPolicy)

/-- What a request is planned from: what the common checks make of it and what its strategy
intends. -/
def prepare (request : PartitionPlanningRequest) :
    Except PartitionError (NormalizedPartitionRequest × PartitionIntent) := do
  let normalized ← PartitionCommonProcessor.process rt request
  let strategy ← registry.resolve normalized.planType normalized.approvedExecutionMode.name
  let intent ← strategy.buildPartitionIntent rt normalized
  return (normalized, intent)

/-- `plan_request`. -/
def planRequest (planId : String) (request : PartitionPlanningRequest) :
    Except PartitionError PartitionExecutionPlan := do
  let (normalized, intent) ← prepare rt registry request
  let plan ← planSelecting rt sel policy planId normalized.roundPlan .none normalized intent
  withV2Metadata rt policy plan normalized intent

/-- The plan of `_replan`, before it is identified. -/
def replanned (planId : String) (normalized : NormalizedPartitionRequest) (intent : PartitionIntent)
    (previous : PartitionExecutionPlan) (directive : RepartitionDirective) (attempt : ℤ) :
    Except PartitionError PartitionExecutionPlan :=
  let refused := fun errors => safeFailure policy planId normalized.roundPlan errors [] none
  if policy.maxReplanAttempts < attempt then .ok (refused ["replan_attempts_exhausted"])
  else if directive.errors ≠ [] then .ok (refused directive.errors)
  else if previous.selectedCandidate = none then
    .ok (refused ["previous_plan_has_no_candidate"])
  else planSelecting rt sel policy planId normalized.roundPlan directive.exclusions normalized intent

/-- `replan_request`. -/
def replanRequest (planId : String) (request : PartitionPlanningRequest)
    (previous : PartitionExecutionPlan) (directive : RepartitionDirective) (attempt : ℤ) :
    Except PartitionError PartitionExecutionPlan := do
  let (normalized, intent) ← prepare rt registry request
  let plan ← replanned rt sel policy planId normalized intent previous directive attempt
  return withReplanMetadata rt policy plan previous normalized

/-- **What the planner can return for a request**: a first plan, or what a replanning makes of a
plan that it returned before. -/
inductive Planned (request : PartitionPlanningRequest) : PartitionExecutionPlan → Prop
  | first {planId : String} {plan : PartitionExecutionPlan}
      (h : planRequest rt sel registry policy planId request = .ok plan) : Planned request plan
  | next {planId : String} {previous plan : PartitionExecutionPlan}
      {directive : RepartitionDirective} {attempt : ℤ} (hprevious : Planned request previous)
      (h : replanRequest rt sel registry policy planId request previous directive attempt = .ok plan) :
      Planned request plan

end ModelPartitionOrchestrationAgent

end Partition
end AiopsK8s
