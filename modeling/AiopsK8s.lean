import AiopsK8s.Lib.Effect
import AiopsK8s.Lib.Text
import AiopsK8s.Lib.Json
import AiopsK8s.Lib.Round
import AiopsK8s.Lib.Binary64
import AiopsK8s.Lib.Arithmetic
import AiopsK8s.Lib.Grouping
import AiopsK8s.Lib.Crash
import AiopsK8s.Lib.FileTree
import AiopsK8s.Lib.FileProg
import AiopsK8s.Lib.JsonSort
import AiopsK8s.Lib.JsonLine
import AiopsK8s.Lib.Lines
import AiopsK8s.Repository.CrashSafety
import AiopsK8s.Supervision.Dispatch
import AiopsK8s.Supervision.History
import AiopsK8s.Supervision.Outcome
import AiopsK8s.Supervision.Exits
import AiopsK8s.Supervision.Review
import AiopsK8s.Supervision.ResolverLaws
import AiopsK8s.Partition.Conversions
import AiopsK8s.Learning.Loadable
import AiopsK8s.Learning.GroupSplit
import AiopsK8s.Learning.SelectionMetrics
import AiopsK8s.Learning.AverageRanks
import AiopsK8s.Learning.ActionPolicy
import AiopsK8s.Execution.Agreement
import AiopsK8s.Execution.RecoveryMonitor
import AiopsK8s.Execution.CommandText
import AiopsK8s.Execution.GuardAnswer
import AiopsK8s.Agents.GroupChat
import AiopsK8s.Agents.ActionPaths
import AiopsK8s.Agents.HADiagnosis
import AiopsK8s.Agents.Autonomous
import AiopsK8s.Experiment.ChaosMesh
import AiopsK8s.Locking.Exclusion
import AiopsK8s.Jobs.Races
import AiopsK8s.Jobs.EventStream
import AiopsK8s.Jobs.Cancellation
import AiopsK8s.Jobs.Completion
import AiopsK8s.Jobs.ArtifactDeletion
import AiopsK8s.Experiment.Obligations
import AiopsK8s.Experiment.RecoveryEvaluator
import AiopsK8s.Experiment.Session
import AiopsK8s.Experiment.Advice
import AiopsK8s.Experiment.Verdict
import AiopsK8s.Experiment.Evaluation
import AiopsK8s.Experiment.Handover
import AiopsK8s.Experiment.ResultStage
import AiopsK8s.Partition.Acceptance
import AiopsK8s.Partition.Optimality
import AiopsK8s.Partition.Accounting
import AiopsK8s.Supervision.ProtocolRoundTrip
import AiopsK8s.Partition.Feedback
import AiopsK8s.Partition.Evaluator
import AiopsK8s.Partition.FeatureVector
import AiopsK8s.Partition.Selection
import AiopsK8s.Partition.Request
import AiopsK8s.Partition.Layout
import AiopsK8s.Partition.Policy
import AiopsK8s.Partition.Drawing
import AiopsK8s.Partition.Agreement
import AiopsK8s.Partition.Replanning
import AiopsK8s.Partition.PlanDocuments
import AiopsK8s.Partition.ReadBack
import AiopsK8s.Partition.Revalidation
import AiopsK8s.Comparison.Outcomes
import AiopsK8s.Comparison.Ranking
import AiopsK8s.Comparison.SafetyFirst
import AiopsK8s.Comparison.SuccessBounds
import AiopsK8s.Comparison.Statistics
import AiopsK8s.Comparison.Completion
import AiopsK8s.Comparison.TreatmentLaws
import AiopsK8s.Comparison.TreatmentValues
import AiopsK8s.Comparison.OutcomeFile
import AiopsK8s.Agents.Convergence
import AiopsK8s.Lib.Lineage
import AiopsK8s.Repository.Plans
import AiopsK8s.Repository.Lineage
import AiopsK8s.Repository.Histories
