/-
# Planner and validator agree

The validator recomputes nothing of what the planner did; it looks at the request and at the plan.
For every plan that planning or replanning a request returns, however often it was replanned and
whatever was excluded, it finds exactly the following (`findings`): a plan without a candidate is
reported as one; of a plan with a candidate only the service levels are in question, because the
planner compares the latency before it is rounded and does not look at the throughput, and, for a
federated plan, that a replica is missing where a participant was excluded.

The planner looks candidates up by digests, so this needs digests that tell the candidates of the
request apart.  It also needs distinct layer names, as every decoder of layers demands.
-/

import AiopsK8s.Partition.Drawing
import AiopsK8s.Partition.Policy
import AiopsK8s.Partition.Request

namespace AiopsK8s
namespace Partition

open Effect ModelPartitionOrchestrationAgent

namespace PartitionPlanValidator

/-! ### The rules on the partitions -/

section Rules

variable {roundPlan : RoundPlan} {plan : PartitionExecutionPlan} {c : PartitionCandidate}
  {exclusions : Exclusions} {participants : List String}

theorem lookup_layers (hnames : (roundPlan.layers.map (·.name)).Nodup) {layer : ModelLayer}
    (h : layer ∈ roundPlan.layers) : (Dict.ofEntries (roundPlan.layers.map fun layer =>
      (layer.name, layer))).lookup layer.name = some layer := by
  have hkeys : ((roundPlan.layers.map fun layer => (layer.name, layer)).map Prod.fst).Nodup := by
    rw [List.map_map]
    exact hnames
  rw [Dict.ofEntries_of_nodup hkeys, ← Dict.mem_iff_lookup hkeys]
  exact List.mem_map_of_mem h

theorem mapM_lookup {dict : List (String × ModelLayer)} {run : List ModelLayer}
    (h : ∀ layer ∈ run, dict.lookup layer.name = some layer) :
    (run.map (·.name)).mapM (fun name => dict.lookup name) = some run := by
  induction run with
  | nil => rfl
  | cons layer run ih =>
      rw [List.map_cons, List.mapM_cons, h layer List.mem_cons_self,
        ih fun l hl => h l (List.mem_cons_of_mem _ hl)]
      rfl

/-- **A partition that fits passes the rules on partitions.** -/
theorem partitionErrors_of_fits (hnames : (roundPlan.layers.map (·.name)).Nodup)
    {limits : List (String × ℤ)} {p : LogicalPartition} (hfits : Fits roundPlan limits p)
    (hknown : p.deviceId ∈ roundPlan.participants) : partitionErrors roundPlan p = .ok [] := by
  obtain ⟨run, device, allowed, hlayers, hrun, hne, hdemand, hdevice, hallowed, hle, -⟩ := hfits
  have hassigned := mapM_lookup fun layer hlayer => lookup_layers hnames (hrun layer hlayer)
  have hempty : p.layerNames ≠ [] := by
    rw [hlayers]
    simpa using hne
  have hlookup : (Dict.ofEntries (roundPlan.devices.map fun device =>
      (device.deviceId, device))).lookup p.deviceId = some device := hdevice
  unfold partitionErrors
  dsimp only
  rw [failing_eq_nil.2 hempty, hlookup]
  dsimp only
  rw [if_neg (not_not.2 hknown), hlayers, hassigned]
  dsimp only
  rw [hdemand]
  simp only [bind, Except.bind, pure, Except.pure]
  rw [hallowed]
  dsimp only
  rw [failing_eq_nil.2 (not_not.2 rfl), failing_eq_nil.2 (not_lt.2 hle)]
  rfl

theorem partitionErrors_layout (hnames : (roundPlan.layers.map (·.name)).Nodup)
    (hlayout : Layout roundPlan exclusions participants c)
    (hknown : ∀ p ∈ participants, p ∈ roundPlan.participants) :
    ∃ errors, c.partitions.mapM (partitionErrors roundPlan) = .ok errors ∧ errors.flatten = [] := by
  have hrules : ∀ p ∈ c.partitions, partitionErrors roundPlan p = .ok [] := by
    intro p hp
    refine partitionErrors_of_fits hnames (hlayout.fits p hp) (hknown _ ?_)
    rw [← hlayout.devices]
    exact List.mem_map_of_mem hp
  refine ⟨c.partitions.map fun _ => [], mapM_eq_map hrules, ?_⟩
  simp

/-- What the rules find in a layout whose graph passes. -/
theorem candidateErrors_layout (hnames : (roundPlan.layers.map (·.name)).Nodup)
    (hlayout : Layout roundPlan exclusions participants c)
    (hknown : ∀ p ∈ participants, p ∈ roundPlan.participants) (hvalid : plan.valid = true)
    (hgraph : GraphRules roundPlan plan c) :
    candidateErrors roundPlan plan c = .ok (coverageErrors roundPlan plan c ++
      latencyErrors roundPlan.constraints.maxEndToEndLatencyMs c) := by
  obtain ⟨errors, herrors, hflatten⟩ := partitionErrors_layout hnames hlayout hknown
  have hedges : c.graphEdges.flatMap (edgeErrors roundPlan plan c) = [] :=
    List.flatMap_eq_nil_iff.2 hgraph.edges
  have htraining : (if isTrainingPlan plan then trainingGraphErrors plan.approvedExecutionMode c
      else []) = [] := by
    split_ifs with h
    · exact hgraph.training h
    · rfl
  unfold candidateErrors
  simp only [herrors, bind, Except.bind, pure, Except.pure]
  rw [failing_eq_nil.2 (by simp [hvalid, hlayout.valid]),
    failing_eq_nil.2 (not_not.2 (nodup_partitionIds hlayout.ids)), hflatten, hgraph.nodes, hedges,
    htraining, failing_eq_nil.2 hgraph.acyclic]
  simp

theorem transferErrors_layout (hlayout : Layout roundPlan exclusions participants c) :
    transferErrors roundPlan.constraints c = [] :=
  transferErrors_eq_nil.2 hlayout.transfer

end Rules

/-! ### The identity of a plan -/

/-- A plan names the job, the model, the mode and the policy that it was planned with. -/
structure NamesRequest (policy : ModelPartitionPolicy) (roundPlan : RoundPlan)
    (p : PartitionExecutionPlan) : Prop where
  jobId : p.jobId = roundPlan.jobId
  modelId : p.modelId = roundPlan.modelId
  mode : p.approvedExecutionMode = roundPlan.executionMode.name
  policyVersion : p.policyVersion = policy.version

section Identity

variable {rt : Runtime} {policy : ModelPartitionPolicy} {planId : String} {roundPlan : RoundPlan}
  {normalized : NormalizedPartitionRequest} {intent : PartitionIntent} {exclusions : Exclusions}
  {p : PartitionExecutionPlan}

theorem namesRequest_safeFailure {errors : List String} {alternatives : List PartitionCandidate}
    {selection : Option CandidateSelection} : NamesRequest policy roundPlan
      (safeFailure policy planId roundPlan errors alternatives selection) :=
  ⟨rfl, rfl, rfl, rfl⟩

theorem namesRequest_selectedPlan {selected : PartitionCandidate}
    {alternatives : List PartitionCandidate} {rationale : String} {selection : CandidateSelection} :
    NamesRequest policy roundPlan
      (selectedPlan policy planId roundPlan selected alternatives rationale selection) :=
  ⟨rfl, rfl, rfl, rfl⟩

theorem namesRequest_planOfSelection {strategyVersion : String} {cs : List PartitionCandidate}
    {selection : CandidateSelection} : NamesRequest policy roundPlan
      (planOfSelection rt policy planId roundPlan strategyVersion cs selection) := by
  unfold planOfSelection
  dsimp only
  split
  · exact namesRequest_safeFailure
  · exact namesRequest_selectedPlan

theorem namesRequest_planSelecting {sel : Selecting rt}
    (h : planSelecting rt sel policy planId roundPlan exclusions normalized intent = .ok p) :
    NamesRequest policy roundPlan p := by
  unfold planSelecting at h
  dsimp only at h
  split_ifs at h with hfull hfew hfew
  · obtain rfl := Except.ok.inj h
    exact namesRequest_safeFailure
  · obtain ⟨candidate, _, h⟩ := bind_eq_ok h
    obtain ⟨selection, _, h⟩ := bind_eq_ok h
    obtain rfl := Except.ok.inj h
    unfold federatedPlanOfSelection
    split
    · exact namesRequest_safeFailure
    · exact namesRequest_selectedPlan
  · obtain rfl := Except.ok.inj h
    exact namesRequest_safeFailure
  · obtain ⟨candidates, _, h⟩ := bind_eq_ok h
    obtain ⟨selection, _, h⟩ := bind_eq_ok h
    obtain rfl := Except.ok.inj h
    exact namesRequest_planOfSelection

/-- What identifies a plan for a request. -/
structure Identified (rt : Runtime) (policy : ModelPartitionPolicy)
    (normalized : NormalizedPartitionRequest) (intent : PartitionIntent) (p : PartitionExecutionPlan) :
    Prop extends NamesRequest policy normalized.roundPlan p where
  planType : p.planType = normalized.planType
  approvedModelVersion : p.approvedModelVersion = normalized.approvedModelVersion
  strategyId : p.strategyId = intent.strategyId
  strategyVersion : p.strategyVersion = intent.strategyVersion
  inputSnapshotId : p.inputSnapshotId = normalized.contextSnapshotId
  inputSnapshotHash : p.inputSnapshotHash = normalized.contextSnapshotHash
  signature : p.deterministicSignature
    = deterministicSignature rt normalized.inputSignature p

/-- A first plan is identified by its request. -/
theorem identified_withV2Metadata {plan : PartitionExecutionPlan}
    (hnames : NamesRequest policy normalized.roundPlan plan)
    (h : withV2Metadata rt policy plan normalized intent = .ok p) :
    Identified rt policy normalized intent p ∧ p.valid = plan.valid ∧
      p.selectedCandidate = plan.selectedCandidate := by
  obtain ⟨confidence, _, h⟩ := bind_eq_ok h
  obtain rfl := Except.ok.inj h
  refine ⟨⟨⟨hnames.jobId, hnames.modelId, hnames.mode, hnames.policyVersion⟩, rfl, rfl, rfl, rfl,
    rfl, rfl, ?_⟩, rfl, rfl⟩
  rw [deterministicSignature]
  dsimp only
  rw [hnames.policyVersion]

/-- A replanned one by the plan that it replaces. -/
theorem identified_withReplanMetadata {plan previous : PartitionExecutionPlan}
    (hnames : NamesRequest policy normalized.roundPlan plan)
    (hprevious : Identified rt policy normalized intent previous) :
    Identified rt policy normalized intent
      (withReplanMetadata rt policy plan previous normalized) := by
  refine ⟨⟨hnames.jobId, hnames.modelId, hnames.mode, hnames.policyVersion⟩, hprevious.planType,
    hprevious.approvedModelVersion, hprevious.strategyId, hprevious.strategyVersion,
    hprevious.inputSnapshotId, hprevious.inputSnapshotHash, ?_⟩
  rw [deterministicSignature, withReplanMetadata]
  dsimp only
  rw [hnames.policyVersion]

end Identity

/-! ### The rules on the request -/

section Request

variable {rt : Runtime} {registry : PartitionStrategyRegistry} {policy : ModelPartitionPolicy}
  {request : PartitionPlanningRequest} {normalized : NormalizedPartitionRequest}
  {intent : PartitionIntent} {strategy : PartitionStrategy} {p : PartitionExecutionPlan}

/-- What the common checks establish of the provenance of a request. -/
theorem process_provenance (h : PartitionCommonProcessor.process rt request = .ok normalized) :
    request.envelope.approvedBy ≠ "" ∧ request.envelope.approvalRef ≠ "" ∧
      request.approvedExecutionMode = some normalized.approvedExecutionMode ∧
      request.envelope.planType ∈ ["training", "inference"] := by
  obtain ⟨_, htype, h⟩ := bind_eq_ok h
  obtain ⟨_, happroval, h⟩ := bind_eq_ok h
  obtain ⟨mode, hmode, h⟩ := bind_eq_ok h
  obtain ⟨_, _, h⟩ := bind_eq_ok h
  obtain ⟨_, _, h⟩ := bind_eq_ok h
  obtain ⟨_, _, h⟩ := bind_eq_ok h
  obtain rfl := Except.ok.inj h
  have happroval := not_or.1 (rejectIf_eq_ok.1 happroval)
  refine ⟨happroval.1, happroval.2, ?_, not_not.1 (rejectIf_eq_ok.1 htype)⟩
  unfold PartitionCommonProcessor.approvedMode at hmode
  split at hmode
  · cases hmode
  · rename_i m hm
    obtain ⟨_, _, hmode⟩ := bind_eq_ok hmode
    rw [hm, Except.ok.inj hmode]

/-- An approved mode has its provenance. -/
theorem approved_provenance (mode : ApprovedExecutionMode) :
    ¬(mode.approved = false ∨ mode.approvedBy = "" ∨ mode.approvalRef = "") := by
  simp [mode.approved_true, mode.approvedBy_proper.ne_empty, mode.approvalRef_proper.ne_empty]

theorem identityErrors_identified (hplan : Identified rt policy normalized intent p) :
    identityErrors normalized.roundPlan p = [] := by
  have hprovenance := approved_provenance normalized.roundPlan.executionMode
  rw [identityErrors, hplan.jobId, hplan.modelId, hplan.mode, failing_eq_nil.2 hprovenance]
  simp

theorem provenanceErrors_identified
    (hrequest : PartitionCommonProcessor.process rt request = .ok normalized)
    (hplan : Identified rt policy normalized intent p) :
    provenanceErrors request normalized p = [] := by
  obtain ⟨happrovedBy, happrovalRef, hmode, -⟩ := process_provenance hrequest
  have hname : p.approvedExecutionMode = normalized.approvedExecutionMode.name := hplan.mode
  rw [provenanceErrors, hmode]
  simp only [if_neg (approved_provenance normalized.approvedExecutionMode)]
  simp [failing, happrovedBy, happrovalRef, hname, hplan.planType, hplan.approvedModelVersion,
    hplan.inputSnapshotId, hplan.inputSnapshotHash]

/-- An intent carries the identity of its strategy. -/
theorem intent_identity (h : strategy.buildPartitionIntent rt normalized = .ok intent) :
    intent.strategyId = strategy.strategyId ∧ intent.strategyVersion = strategy.strategyVersion := by
  cases strategy with
  | inference s =>
      obtain ⟨_, _, h⟩ := bind_eq_ok h
      obtain rfl := Except.ok.inj h
      exact ⟨rfl, rfl⟩
  | training s =>
      obtain ⟨_, _, h⟩ := bind_eq_ok h
      obtain rfl := Except.ok.inj h
      exact ⟨rfl, rfl⟩
  | federated s =>
      obtain ⟨_, _, h⟩ := bind_eq_ok h
      obtain rfl := Except.ok.inj h
      exact ⟨rfl, rfl⟩

theorem strategyErrors_identified
    (hresolve : registry.resolve normalized.planType normalized.approvedExecutionMode.name
      = .ok strategy) (hintent : strategy.buildPartitionIntent rt normalized = .ok intent)
    (hplan : Identified rt policy normalized intent p) :
    strategyErrors registry normalized p = .ok [] := by
  obtain ⟨hid, hversion⟩ := intent_identity hintent
  rw [strategyErrors, hresolve]
  simp [failing, hplan.strategyId, hplan.strategyVersion, hid, hversion]

/-- The signature of an identified plan is in order. -/
theorem signature_identified (hplan : Identified rt policy normalized intent p) :
    ¬(p.deterministicSignature = "" ∨ p.deterministicSignature
      ≠ deterministicSignature rt normalized.inputSignature p) := by
  rw [not_or, not_not]
  refine ⟨?_, hplan.signature⟩
  rw [hplan.signature]
  exact (rt.sha256_hex _).proper.ne_empty

/-- Of the rules on the request only those on inference can fail. -/
theorem v2Errors_identified (hrequest : PartitionCommonProcessor.process rt request = .ok normalized)
    (hresolve : registry.resolve normalized.planType normalized.approvedExecutionMode.name
      = .ok strategy) (hintent : strategy.buildPartitionIntent rt normalized = .ok intent)
    (hplan : Identified rt policy normalized intent p) :
    v2Errors rt registry request normalized p =
      if normalized.planType = "inference" then inferenceErrors request normalized.roundPlan p
      else .ok [] := by
  unfold v2Errors
  rw [strategyErrors_identified hresolve hintent hplan,
    provenanceErrors_identified hrequest hplan, failing_eq_nil.2 (signature_identified hplan)]
  split_ifs
  · rcases inferenceErrors request normalized.roundPlan p with e | errors
    · rfl
    · simp [bind, Except.bind, pure, Except.pure]
  · rfl

end Request

/-! ### Every plan of a request -/

section Planned

variable {rt : Runtime} {sel : Selecting rt} {registry : PartitionStrategyRegistry}
  {policy : ModelPartitionPolicy}
  {request : PartitionPlanningRequest} {normalized : NormalizedPartitionRequest}
  {intent : PartitionIntent} {p : PartitionExecutionPlan}

theorem prepare_eq_ok (h : prepare rt registry request = .ok (normalized, intent)) :
    PartitionCommonProcessor.process rt request = .ok normalized ∧ ∃ strategy,
      registry.resolve normalized.planType normalized.approvedExecutionMode.name = .ok strategy ∧
      strategy.buildPartitionIntent rt normalized = .ok intent := by
  obtain ⟨n, hprocess, h⟩ := bind_eq_ok h
  obtain ⟨strategy, hresolve, h⟩ := bind_eq_ok h
  obtain ⟨i, hintent, h⟩ := bind_eq_ok h
  obtain ⟨rfl, rfl⟩ := Prod.mk.inj (Except.ok.inj h)
  exact ⟨hprocess, strategy, hresolve, hintent⟩

/-- What a plan of a request is: identified by the request, and a refusal or the choice of a
candidate over the participants that some exclusions leave. -/
def Produced (rt : Runtime) (policy : ModelPartitionPolicy) (normalized : NormalizedPartitionRequest)
    (intent : PartitionIntent) (p : PartitionExecutionPlan) : Prop :=
  Identified rt policy normalized intent p ∧
    ∃ exclusions, Chosen normalized.roundPlan normalized intent exclusions p

theorem chosen_congr {roundPlan : RoundPlan} {exclusions : Exclusions} {plan : PartitionExecutionPlan}
    (h : Chosen roundPlan normalized intent exclusions plan) (hvalid : p.valid = plan.valid)
    (hselected : p.selectedCandidate = plan.selectedCandidate) :
    Chosen roundPlan normalized intent exclusions p := by
  unfold Chosen at h ⊢
  rw [hvalid, hselected]
  exact h

/-- The digests tell the candidates of a request apart, whatever is excluded. -/
def DigestsDistinct (rt : Runtime) (registry : PartitionStrategyRegistry)
    (policy : ModelPartitionPolicy) (request : PartitionPlanningRequest) : Prop :=
  ∀ normalized intent exclusions, prepare rt registry request = .ok (normalized, intent) →
    KeysDistinct rt policy normalized.roundPlan normalized intent exclusions

/-- What a first planning returns. -/
theorem produced_planRequest (hkeys : DigestsDistinct rt registry policy request) {planId : String}
    (h : planRequest rt sel registry policy planId request = .ok p) :
    ∃ normalized intent, prepare rt registry request = .ok (normalized, intent) ∧
      Produced rt policy normalized intent p := by
  obtain ⟨⟨normalized, intent⟩, hprepare, h⟩ := bind_eq_ok h
  obtain ⟨plan, hplan, h⟩ := bind_eq_ok h
  obtain ⟨hprocess, strategy, -, hintent⟩ := prepare_eq_ok hprepare
  obtain ⟨hidentified, hvalid, hselected⟩ :=
    identified_withV2Metadata (namesRequest_planSelecting hplan) h
  exact ⟨normalized, intent, hprepare, hidentified, .none,
    chosen_congr (chosen_planSelecting hprocess (hkeys _ _ _ hprepare) hplan) hvalid hselected⟩

/-- What a replanning returns, of a plan that was produced. -/
theorem produced_replanRequest (hkeys : DigestsDistinct rt registry policy request) {planId : String}
    {previous : PartitionExecutionPlan} {directive : RepartitionDirective} {attempt : ℤ}
    (hprepare : prepare rt registry request = .ok (normalized, intent))
    (hprevious : Produced rt policy normalized intent previous)
    (h : replanRequest rt sel registry policy planId request previous directive attempt = .ok p) :
    Produced rt policy normalized intent p := by
  obtain ⟨⟨n, i⟩, hprepare', h⟩ := bind_eq_ok h
  obtain ⟨rfl, rfl⟩ := Prod.mk.inj (Except.ok.inj (hprepare'.symm.trans hprepare))
  obtain ⟨plan, hplan, h⟩ := bind_eq_ok h
  obtain rfl := Except.ok.inj h
  have hplan' : NamesRequest policy n.roundPlan plan ∧
      ∃ exclusions, Chosen n.roundPlan n i exclusions plan := by
    unfold replanned at hplan
    split_ifs at hplan
    · obtain rfl := Except.ok.inj hplan
      exact ⟨namesRequest_safeFailure, .none, .inl ⟨rfl, rfl⟩⟩
    · obtain rfl := Except.ok.inj hplan
      exact ⟨namesRequest_safeFailure, .none, .inl ⟨rfl, rfl⟩⟩
    · obtain rfl := Except.ok.inj hplan
      exact ⟨namesRequest_safeFailure, .none, .inl ⟨rfl, rfl⟩⟩
    · obtain ⟨hprocess, strategy, -, hintent⟩ := prepare_eq_ok hprepare
      exact ⟨namesRequest_planSelecting hplan, _,
        chosen_planSelecting hprocess (hkeys _ _ _ hprepare) hplan⟩
  obtain ⟨hnames, exclusions, hchosen⟩ := hplan'
  exact ⟨identified_withReplanMetadata hnames hprevious.1, exclusions, chosen_congr hchosen rfl rfl⟩

/-- **Every plan of a request is produced**, after any number of replannings. -/
theorem produced_of_planned (hkeys : DigestsDistinct rt registry policy request)
    (h : Planned rt sel registry policy request p) :
    ∃ normalized intent, prepare rt registry request = .ok (normalized, intent) ∧
      Produced rt policy normalized intent p := by
  induction h with
  | first h => exact produced_planRequest hkeys h
  | next _ h ih =>
      obtain ⟨normalized, intent, hprepare, hprevious⟩ := ih
      exact ⟨normalized, intent, hprepare, produced_replanRequest hkeys hprepare hprevious h⟩

/-! ### What the validator finds -/

/-- A federated plan with a replica for fewer participants than the request has. -/
def replicaFindings (normalized : NormalizedPartitionRequest) (selected : PartitionCandidate) :
    List String :=
  failing (normalized.planType = "training" ∧
    normalized.approvedExecutionMode.name = "federated_learning" ∧
    selected.partitions.length ≠ normalized.participants.length) "layer_coverage_mismatch"

/-- What the validator finds in a plan of the planner. -/
def findings (request : PartitionPlanningRequest) (normalized : NormalizedPartitionRequest)
    (plan : PartitionExecutionPlan) : Except PartitionError (List String) :=
  match plan.selectedCandidate with
  | none => .ok ("selected_candidate_required" ::
      if normalized.planType = "inference" then
        ["predicted_throughput_unverifiable", "snapshot_availability_unverifiable"] else [])
  | some selected => do
      let levels ←
        if normalized.planType = "inference" then
          inferenceSlaErrors request normalized.roundPlan selected
        else .ok []
      return replicaFindings normalized selected ++
        latencyErrors normalized.constraints.maxEndToEndLatencyMs selected ++ levels

/-- The modes in which a registry splits a model for training are those whose graph the validator
knows. -/
def SplitsKnownModes (registry : PartitionStrategyRegistry) : Prop :=
  ∀ mode s, ("training", mode, PartitionStrategy.training s) ∈ registry.entries →
    mode ∈ trainingGraphModes ∧ mode ≠ "federated_learning"

/-- What a strategy of a standard registry means for a request. -/
theorem strategy_cases (hregistry : registry.Standard) (hmodes : SplitsKnownModes registry)
    (hprepare : prepare rt registry request = .ok (normalized, intent)) :
    (normalized.planType = "inference" ∧ intent.strategyId ≠ "federated-full-model-v1") ∨
    (normalized.planType = "training" ∧ intent.strategyId ≠ "federated-full-model-v1" ∧
      normalized.approvedExecutionMode.name ∈ trainingGraphModes ∧
      normalized.approvedExecutionMode.name ≠ "federated_learning") ∨
    (normalized.planType = "training" ∧ intent.strategyId = "federated-full-model-v1" ∧
      normalized.approvedExecutionMode.name = "federated_learning") := by
  obtain ⟨-, strategy, hresolve, hintent⟩ := prepare_eq_ok hprepare
  have hid := (intent_identity hintent).1
  have hmem := PartitionStrategyRegistry.mem_of_resolve hresolve
  have hentry := hregistry _ hmem
  cases strategy with
  | inference s =>
      refine .inl ⟨hentry.1, ?_⟩
      rw [hid, show (PartitionStrategy.inference s).strategyId = s.strategyId from rfl, hentry.2.2]
      decide
  | training s =>
      rw [hentry.1] at hmem
      refine .inr (.inl ⟨hentry.1, ?_, hmodes _ _ hmem⟩)
      rw [hid, show (PartitionStrategy.training s).strategyId = s.strategyId from rfl, hentry.2.2]
      decide
  | federated s => exact .inr (.inr ⟨hentry.1, hid.trans hentry.2.2, hentry.2.1⟩)

end Planned

/-! ### Coverage and service levels -/

section Findings

variable {rt : Runtime} {registry : PartitionStrategyRegistry} {policy : ModelPartitionPolicy}
  {request : PartitionPlanningRequest} {normalized : NormalizedPartitionRequest}
  {intent : PartitionIntent} {p : PartitionExecutionPlan} {selected : PartitionCandidate}
  {roundPlan : RoundPlan} {exclusions : Exclusions} {participants : List String}

theorem survivors_subset {q : String} (h : q ∈ survivors roundPlan exclusions) :
    q ∈ roundPlan.participants := (List.mem_filter.1 h).1

/-- The partitions of a split cover the model. -/
theorem coverageErrors_split {training : Bool}
    (hlayout : SplitLayout roundPlan exclusions participants training selected) :
    coverageErrors roundPlan p selected = [] := by
  rw [coverageErrors, failing_eq_nil]
  rintro ⟨-, hne⟩
  exact hne hlayout.covers

theorem length_flatMap_const {α β : Type} {l : List α} {f : α → List β} {m : List β}
    (h : ∀ a ∈ l, f a = m) : (l.flatMap f).length = l.length * m.length := by
  rw [List.length_flatMap, List.map_congr_left fun a ha => congrArg List.length (h a ha)]
  simp

/-- The replicas of a federated plan cover it where no participant is left out. -/
theorem coverageErrors_replicas {aggregator : LogicalPartition} {remote : List LogicalPartition}
    (hlayout : ReplicaLayout roundPlan exclusions participants selected aggregator remote)
    (htype : p.planType = "training") (hmode : p.approvedExecutionMode = "federated_learning")
    (htwo : 2 ≤ selected.partitions.length) (hlayers : roundPlan.layers ≠ []) :
    coverageErrors roundPlan p selected = failing
      (selected.partitions.length ≠ roundPlan.participants.length) "layer_coverage_mismatch" := by
  have hfull : fullModelReplicas roundPlan p selected = true ↔
      selected.partitions.length = roundPlan.participants.length := by
    simp only [fullModelReplicas, decide_eq_true_iff]
    exact ⟨fun h => h.2.2.1, fun h => ⟨htype, hmode, h, hlayout.replicas⟩⟩
  have hcover : selected.partitions.flatMap (·.layerNames) ≠ roundPlan.layers.map (·.name) := by
    intro heq
    have hlength := congrArg List.length heq
    rw [length_flatMap_const hlayout.replicas, List.length_map] at hlength
    have hpos : 0 < roundPlan.layers.length := List.length_pos_of_ne_nil hlayers
    have hmul : 2 * roundPlan.layers.length ≤
        selected.partitions.length * roundPlan.layers.length := Nat.mul_le_mul_right _ htwo
    omega
  unfold coverageErrors failing
  by_cases hlength : selected.partitions.length = roundPlan.participants.length
  · rw [if_neg fun h => absurd (hfull.2 hlength) (by simp [h.1]), if_neg (not_not.2 hlength)]
  · rw [if_pos ⟨Bool.eq_false_iff.2 fun h => hlength (hfull.1 h), hcover⟩, if_pos hlength]

/-- The graph of an inference candidate is a chain. -/
theorem chain_forwardGraph (hgraph : ForwardGraph selected) :
    hasInferenceForwardChain selected = true := by
  unfold hasInferenceForwardChain
  refine List.all_eq_true.2 fun pair hpair => List.any_eq_true.2 ?_
  have hends : (pair.1.partitionId, pair.2.partitionId, "forward") ∈
      selected.graphEdges.map endpoints := by
    rw [hgraph.edges]
    exact List.mem_map_of_mem hpair
  obtain ⟨edge, hedge, heq⟩ := List.mem_map.1 hends
  obtain ⟨hsource, htarget, htype⟩ : edge.sourcePartition = pair.1.partitionId ∧
      edge.targetPartition = pair.2.partitionId ∧ edge.edgeType = "forward" := by
    simpa [endpoints] using heq
  refine ⟨edge, hedge, ?_⟩
  rw [decide_eq_true_iff]
  exact ⟨hsource, htarget, by rw [htype]; decide⟩

theorem inferenceGraphErrors_forward (hgraph : ForwardGraph selected) :
    inferenceGraphErrors selected = [] := by
  have htypes : ¬∃ edge ∈ selected.graphEdges, edge.edgeType ∉ inferenceForwardEdgeTypes := by
    rintro ⟨edge, hedge, htype⟩
    obtain ⟨pair, -, heq⟩ := List.mem_map.1 (mem_of_endpoints hgraph.edges hedge)
    obtain ⟨-, -, hforward⟩ : pair.1.partitionId = edge.sourcePartition ∧
        pair.2.partitionId = edge.targetPartition ∧ "forward" = edge.edgeType := by
      simpa using heq
    rw [← hforward] at htype
    exact htype (by decide)
  rw [inferenceGraphErrors, failing_eq_nil.2 htypes, chain_forwardGraph hgraph]
  rfl

/-- **The devices and links of an inference candidate are there.** -/
theorem feasibility_forward (hgraph : ForwardGraph selected)
    (hlayout : SplitLayout roundPlan exclusions participants false selected)
    (hknown : ∀ q ∈ participants, q ∈ roundPlan.participants) :
    predictedSnapshotAvailabilityFeasibility roundPlan selected = 1 := by
  have hdevices : ¬(selected.partitions.any fun q =>
      q.deviceId ∉ roundPlan.devices.map (·.deviceId) ∨ q.deviceId ∉ roundPlan.participants)
        = true := by
    rw [List.any_eq_true]
    rintro ⟨q, hq, hunknown⟩
    rw [decide_eq_true_iff] at hunknown
    obtain ⟨-, device, -, -, -, -, -, hdevice, -⟩ := hlayout.fits q hq
    have hmem := Dict.mem_of_lookup_reverse ((Dict.lookup_ofEntries _ _).symm.trans hdevice)
    obtain ⟨d, hd, heq⟩ := List.mem_map.1 hmem
    rcases hunknown with hunknown | hunknown
    · exact hunknown (List.mem_map.2 ⟨d, hd, (Prod.mk.inj heq).1⟩)
    · refine hunknown (hknown _ ?_)
      rw [← hlayout.devices]
      exact List.mem_map_of_mem hq
  have hnodes : ¬(¬SameElements (selected.graphNodes.map fun n => (n.partitionId, n.deviceId))
      (selected.partitions.map fun p => (p.partitionId, p.deviceId)) ∨
        hasInferenceForwardChain selected = false) := by
    have hsame : selected.graphNodes.map (fun n => (n.partitionId, n.deviceId))
        = selected.partitions.map fun p => (p.partitionId, p.deviceId) := hgraph.nodes
    rw [hsame, chain_forwardGraph hgraph, not_or, not_not]
    exact ⟨⟨List.Subset.refl _, List.Subset.refl _⟩, by decide⟩
  unfold predictedSnapshotAvailabilityFeasibility
  dsimp only
  rw [if_neg hdevices, if_neg hnodes]
  refine if_neg ?_
  rw [List.any_eq_true]
  rintro ⟨pair, hpair, hmissing⟩
  rw [decide_eq_true_iff] at hmissing
  exact hmissing.2 (hlayout.linked pair hpair).1

/-- The rules on the candidate of a produced plan. -/
theorem candidateErrors_produced (hregistry : registry.Standard) (hmodes : SplitsKnownModes registry)
    (hprepare : prepare rt registry request = .ok (normalized, intent))
    (hnames : (normalized.layers.map (·.name)).Nodup) (hlayers : normalized.layers ≠ [])
    (hplan : Identified rt policy normalized intent p)
    (hchosen : Chosen normalized.roundPlan normalized intent exclusions p)
    (hselected : p.selectedCandidate = some selected) :
    candidateErrors normalized.roundPlan p selected = .ok (replicaFindings normalized selected ++
        latencyErrors normalized.constraints.maxEndToEndLatencyMs selected) ∧
      transferErrors normalized.roundPlan.constraints selected = [] ∧
      (normalized.planType = "inference" → inferenceGraphErrors selected = [] ∧
        predictedSnapshotAvailabilityFeasibility normalized.roundPlan selected = 1) := by
  obtain ⟨-, hnone⟩ | ⟨chosen, hvalid, hchosen, htwo, hlayout⟩ := hchosen
  · rw [hselected] at hnone
    cases hnone
  obtain rfl : selected = chosen := Option.some.inj (hselected.symm.trans hchosen)
  have hmode : p.approvedExecutionMode = normalized.approvedExecutionMode.name := hplan.mode
  have hknown : ∀ q ∈ survivors normalized.roundPlan exclusions,
      q ∈ normalized.roundPlan.participants := fun q => survivors_subset
  rcases strategy_cases hregistry hmodes hprepare with ⟨htype, hid⟩ | ⟨htype, hid, hgraphMode, hnot⟩ |
    ⟨htype, hid, hfederated⟩
  · obtain ⟨hid', -⟩ | ⟨-, splitPoints, -, -, hlayout⟩ := hlayout
    · exact absurd hid' hid
    have hinference : isTrainingPlan p = false := by
      simp [isTrainingPlan, hplan.planType, htype]
    have hintent : (candidateIntent normalized intent).isSome = false := by
      simp [candidateIntent, htype]
    rw [hintent] at hlayout
    have hgraph := hlayout.forward rfl
    have hne : selected.partitions ≠ [] := by
      intro hnil
      have hdevices := congrArg List.length hlayout.devices
      rw [hnil] at hdevices
      simp only [List.map_nil, List.length_nil] at hdevices
      omega
    have hreplica : replicaFindings normalized selected = [] := by
      rw [replicaFindings, failing_eq_nil, htype]
      exact fun h => absurd h.1 (by decide)
    refine ⟨?_, transferErrors_layout hlayout.toLayout, fun _ =>
      ⟨inferenceGraphErrors_forward hgraph, feasibility_forward hgraph hlayout hknown⟩⟩
    rw [candidateErrors_layout hnames hlayout.toLayout hknown hvalid (graphRules_forward hgraph
      hinference hne (nodup_partitionIds hlayout.ids) hlayout.linked), coverageErrors_split hlayout,
      hreplica]
    rfl
  · obtain ⟨hid', -⟩ | ⟨-, splitPoints, -, -, hlayout⟩ := hlayout
    · exact absurd hid' hid
    have htraining : isTrainingPlan p = true := by simp [isTrainingPlan, hplan.planType, htype]
    have hintent : (candidateIntent normalized intent).isSome = true := by
      simp [candidateIntent, htype]
    rw [hintent] at hlayout
    obtain ⟨first, last, hgraph⟩ := hlayout.backward rfl
    have hreplica : replicaFindings normalized selected = [] := by
      rw [replicaFindings, failing_eq_nil]
      exact fun h => hnot h.2.1
    refine ⟨?_, transferErrors_layout hlayout.toLayout, fun h => ?_⟩
    · rw [candidateErrors_layout hnames hlayout.toLayout hknown hvalid (graphRules_training hgraph
        htraining (hmode ▸ hgraphMode) (hmode ▸ hnot) (nodup_partitionIds hlayout.ids)
        hlayout.linked), coverageErrors_split hlayout, hreplica]
      rfl
    · rw [htype] at h
      exact absurd h (by decide)
  · obtain ⟨-, aggregator, remote, hlayout⟩ | ⟨hid', -⟩ := hlayout
    · have htraining : isTrainingPlan p = true := by simp [isTrainingPlan, hplan.planType, htype]
      have hlength : 2 ≤ selected.partitions.length := by
        have hdevices := congrArg List.length hlayout.devices
        rw [List.length_map] at hdevices
        omega
      have hplanType : p.planType = "training" := hplan.planType.trans htype
      have hreplica : replicaFindings normalized selected = failing (selected.partitions.length ≠
          normalized.roundPlan.participants.length) "layer_coverage_mismatch" := by
        unfold replicaFindings failing
        refine if_congr ?_ rfl rfl
        exact ⟨fun h => h.2.2, fun h => ⟨htype, hfederated, h⟩⟩
      refine ⟨?_, transferErrors_layout hlayout.toLayout, fun h => ?_⟩
      · rw [candidateErrors_layout hnames hlayout.toLayout hknown hvalid (graphRules_aggregation
          hlayout htraining (hmode.trans hfederated)), hreplica,
          coverageErrors_replicas hlayout hplanType (hmode.trans hfederated) hlength hlayers]
        rfl
      · rw [htype] at h
        exact absurd h (by decide)
    · exact absurd hid hid'

end Findings

/-! ### Planner and validator -/

section Agreement

variable {rt : Runtime} {sel : Selecting rt} {registry : PartitionStrategyRegistry}
  {policy : ModelPartitionPolicy}
  {request : PartitionPlanningRequest} {normalized : NormalizedPartitionRequest}
  {intent : PartitionIntent} {p : PartitionExecutionPlan}

theorem eraseDups_failing {P Q : Prop} [Decidable P] [Decidable Q] {a b : String} (h : a ≠ b) :
    (failing P a ++ failing Q b).eraseDups = failing P a ++ failing Q b := by
  unfold failing
  split_ifs <;> simp [List.eraseDups_cons, Ne.symm h]

theorem latencyErrors_eq {limit : Option ℚ} {selected : PartitionCandidate} :
    latencyErrors limit selected = failing (∃ l ∈ limit,
      PyFloat.lt (.finite l) selected.estimatedTotalLatencyMs = true) "latency_slo_exceeded" := by
  cases limit with
  | none => simp [latencyErrors, failing]
  | some l => simp [latencyErrors, failing]

/-- The verdict on a produced plan. -/
theorem validateV2_produced (hregistry : registry.Standard) (hmodes : SplitsKnownModes registry)
    (hprepare : prepare rt registry request = .ok (normalized, intent))
    (hnames : (normalized.layers.map (·.name)).Nodup) (hplan : Produced rt policy normalized intent p) :
    validateV2 rt registry request p = (do
      return result (← findings request normalized p) v2CheckedRules) := by
  obtain ⟨hidentified, exclusions, hchosen⟩ := hplan
  obtain ⟨hprocess, strategy, hresolve, hintent⟩ := prepare_eq_ok hprepare
  obtain ⟨-, -, -, -, -, -, hfeasible⟩ := PartitionCommonProcessor.process_eq_ok hprocess
  have hlayers := (PartitionCommonProcessor.validateFeasibility_eq_ok hfeasible).2.1
  have hidentity := identityErrors_identified hidentified
  have hv2 := v2Errors_identified hprocess hresolve hintent hidentified
  unfold validateV2
  rw [hprocess]
  dsimp only
  rw [hv2]
  unfold validateLegacy legacyErrors findings inferenceErrors
  rcases hselected : p.selectedCandidate with _ | selected
  · simp only [hidentity, List.nil_append, bind, Except.bind, pure, Except.pure, result]
    split_ifs <;> rfl
  · obtain ⟨hcandidate, htransfer, hinference⟩ := candidateErrors_produced hregistry hmodes hprepare
      hnames hlayers hidentified hchosen hselected
    have hdups : (replicaFindings normalized selected ++
        latencyErrors normalized.constraints.maxEndToEndLatencyMs selected).eraseDups
          = replicaFindings normalized selected ++
            latencyErrors normalized.constraints.maxEndToEndLatencyMs selected := by
      rw [latencyErrors_eq]
      exact eraseDups_failing (by decide)
    simp only [hidentity, hcandidate, htransfer, List.nil_append, List.append_nil, bind, Except.bind,
      pure, Except.pure, result, hdups]
    split_ifs with htype
    · rw [(hinference htype).1]
      rcases inferenceSlaErrors request normalized.roundPlan selected with e | levels
      · rfl
      · rfl
    · simp only [List.append_nil, hdups]

/-- The devices and links of a produced inference plan are there. -/
theorem feasibility_produced (hregistry : registry.Standard) (hmodes : SplitsKnownModes registry)
    (hprepare : prepare rt registry request = .ok (normalized, intent))
    (hnames : (normalized.layers.map (·.name)).Nodup) (hplan : Produced rt policy normalized intent p)
    (htype : normalized.planType = "inference") {selected : PartitionCandidate}
    (hselected : p.selectedCandidate = some selected) :
    predictedSnapshotAvailabilityFeasibility normalized.roundPlan selected = 1 := by
  obtain ⟨hidentified, exclusions, hchosen⟩ := hplan
  obtain ⟨-, -, -, -, -, -, hfeasible⟩ :=
    PartitionCommonProcessor.process_eq_ok (prepare_eq_ok hprepare).1
  exact ((candidateErrors_produced hregistry hmodes hprepare hnames
    (PartitionCommonProcessor.validateFeasibility_eq_ok hfeasible).2.1 hidentified hchosen
    hselected).2.2 htype).2

/-- **Planner and validator agree.**  Whatever plan planning and replanning a request return, the
validator finds what `findings` says of it and nothing else; and the devices and links of an
inference plan are there. -/
theorem validateV2_planned {payload : Json}
    (hregistry : PartitionStrategyRegistry.ofPolicy rt payload = .ok registry)
    (hmodes : SplitsKnownModes registry) (hkeys : DigestsDistinct rt registry policy request)
    (hnames : ((PartitionCommonProcessor.layersOf request).map (·.name)).Nodup)
    (h : Planned rt sel registry policy request p) :
    ∃ normalized intent, prepare rt registry request = .ok (normalized, intent) ∧
      validateV2 rt registry request p = (do
        return result (← findings request normalized p) v2CheckedRules) ∧
      (normalized.planType = "inference" → ∀ selected ∈ p.selectedCandidate,
        predictedSnapshotAvailabilityFeasibility normalized.roundPlan selected = 1) := by
  obtain ⟨normalized, intent, hprepare, hproduced⟩ := produced_of_planned hkeys h
  obtain ⟨-, -, hlayers, -⟩ := PartitionCommonProcessor.process_eq_ok (prepare_eq_ok hprepare).1
  rw [← hlayers] at hnames
  have hstandard := PartitionStrategyRegistry.standard_ofPolicy hregistry
  exact ⟨normalized, intent, hprepare,
    validateV2_produced hstandard hmodes hprepare hnames hproduced, fun htype selected hselected =>
      feasibility_produced hstandard hmodes hprepare hnames hproduced htype hselected⟩

/-- A policy with a strategy for inference only. -/
def inferencePolicyDocument : Json := .obj [
  ("version", .str "1"),
  ("strategy_policies", .obj [("inference-partition-v1", .obj [
    ("supported_modes", .arr [.str "split_inference"]),
    ("objectives", .obj [("latency", .int 1), ("memory_pressure", .int 0),
      ("communication", .int 0)])])]),
  ("confidence", .obj [("base", .int 1), ("missing_forecast_penalty", .int 0),
    ("legacy_input_penalty", .int 0)])]

/-- What the keys of the splits of a request are the digests of. -/
def keyed (document : Json) (request : PartitionPlanningRequest) :
    Except PartitionError (List String × ℕ × String) := do
  let registry ← PartitionStrategyRegistry.ofPolicy servingRuntime document
  let prepared ← prepare servingRuntime registry request
  return (prepared.1.roundPlan.participants, prepared.1.roundPlan.layers.length,
    prepared.2.strategyVersion)

/-- The keys of the three splits of four layers on two devices are their digests. -/
theorem digestsDistinct_of_keyed {document : Json} {registry : PartitionStrategyRegistry}
    {policy : ModelPartitionPolicy} {request : PartitionPlanningRequest}
    (hregistry : PartitionStrategyRegistry.ofPolicy servingRuntime document = .ok registry)
    (h : keyed document request = .ok (["a", "b"], 4, "inference-partition-v1:1")) :
    DigestsDistinct servingRuntime registry policy request := by
  intro normalized intent exclusions hprepare
  obtain ⟨_, hregistry', h⟩ := bind_eq_ok h
  obtain rfl := Except.ok.inj (hregistry.symm.trans hregistry')
  obtain ⟨prepared, hprepared, h⟩ := bind_eq_ok h
  obtain rfl := Except.ok.inj (hprepare.symm.trans hprepared)
  obtain ⟨hparticipants, h⟩ := Prod.mk.inj (Except.ok.inj h)
  obtain ⟨hlayers, hversion⟩ := Prod.mk.inj h
  exact keysDistinct_twoDevices splitKey_servingRuntime hparticipants hlayers hversion

theorem keyed_twoDevices : keyed inferencePolicyDocument twoDeviceRequest =
    .ok (["a", "b"], 4, "inference-partition-v1:1") := by
  decide +kernel

/-- The split of the first plan is left out. -/
def withoutFirst : RepartitionDirective := ⟨"split", [], [], [[3]], [], [], []⟩

/-- The request for two devices is planned, and replanned without its split. -/
structure TwoDevices (registry : PartitionStrategyRegistry) (normalized : NormalizedPartitionRequest)
    (intent : PartitionIntent) (previous p : PartitionExecutionPlan) : Prop where
  loaded : PartitionStrategyRegistry.ofPolicy servingRuntime inferencePolicyDocument = .ok registry
  prepared : prepare servingRuntime registry twoDeviceRequest = .ok (normalized, intent)
  first : planRequest servingRuntime baselineOnly registry latencyPolicy "plan" twoDeviceRequest
    = .ok previous
  nothing : findings twoDeviceRequest normalized previous = .ok []
  next : replanRequest servingRuntime baselineOnly registry latencyPolicy "next" twoDeviceRequest
    previous withoutFirst 1 = .ok p
  modes : SplitsKnownModes registry
  first_valid : previous.valid = true
  first_split : previous.selectedCandidate.map (·.splitPoints) = some [3]
  next_valid : p.valid = true
  next_split : p.selectedCandidate.map (·.splitPoints) = some [2]
  finite : ∀ x ∈ previous.figures ++ p.figures, x.isFinite = true

set_option maxRecDepth 4000 in
theorem replanRequest_twoDevices : ((do
    let registry ← PartitionStrategyRegistry.ofPolicy servingRuntime inferencePolicyDocument
    let prepared ← prepare servingRuntime registry twoDeviceRequest
    let previous ← planRequest servingRuntime baselineOnly registry latencyPolicy "plan"
      twoDeviceRequest
    let found ← findings twoDeviceRequest prepared.1 previous
    let p ← replanRequest servingRuntime baselineOnly registry latencyPolicy "next" twoDeviceRequest
      previous withoutFirst 1
    return (registry.entries.all (fun entry => entry.1 = "inference") && previous.valid && p.valid &&
      (previous.figures ++ p.figures).all (·.isFinite), found,
      previous.selectedCandidate.map (·.splitPoints), p.selectedCandidate.map (·.splitPoints))) :
        Except PartitionError (Bool × List String × Option (List ℤ) × Option (List ℤ)))
      = .ok (true, [], some [3], some [2]) := by
  decide +kernel

theorem exists_twoDevices :
    ∃ registry normalized intent previous p, TwoDevices registry normalized intent previous p := by
  obtain ⟨registry, hregistry, h⟩ := bind_eq_ok replanRequest_twoDevices
  obtain ⟨⟨normalized, intent⟩, hprepare, h⟩ := bind_eq_ok h
  obtain ⟨previous, hprevious, h⟩ := bind_eq_ok h
  obtain ⟨found, hfound, h⟩ := bind_eq_ok h
  obtain ⟨p, hp, h⟩ := bind_eq_ok h
  obtain ⟨hall, h⟩ := Prod.mk.inj (Except.ok.inj h)
  obtain ⟨hempty, hsplits⟩ := Prod.mk.inj h
  obtain ⟨hfirst, hnext⟩ := Prod.mk.inj hsplits
  rw [hempty] at hfound
  simp only [Bool.and_eq_true] at hall
  obtain ⟨⟨⟨hentries, hpreviousValid⟩, hpValid⟩, hfinite⟩ := hall
  refine ⟨registry, normalized, intent, previous, p, hregistry, hprepare, hprevious, hfound, hp,
    fun mode s hentry => ?_, hpreviousValid, hfirst, hpValid, hnext, List.all_eq_true.1 hfinite⟩
  have htype : "training" = "inference" :=
    of_decide_eq_true (List.all_eq_true.1 hentries _ hentry)
  exact absurd htype (by decide)

/-- **The plan for two devices is valid**, and the validator finds nothing in it. -/
theorem validateV2_twoDevices : ∃ registry p,
    PartitionStrategyRegistry.ofPolicy servingRuntime inferencePolicyDocument = .ok registry ∧
    Planned servingRuntime baselineOnly registry latencyPolicy twoDeviceRequest p ∧
    p.valid = true ∧ p.selectedCandidate.map (·.splitPoints) = some [3] ∧
    validateV2 servingRuntime registry twoDeviceRequest p = .ok (result [] v2CheckedRules) := by
  obtain ⟨registry, normalized, intent, p, _, h⟩ := exists_twoDevices
  obtain ⟨normalized', intent', hprepare, hverdict, -⟩ := validateV2_planned h.loaded h.modes
    (digestsDistinct_of_keyed h.loaded keyed_twoDevices) (by decide) (.first h.first)
  obtain ⟨rfl, -⟩ := Prod.mk.inj (Except.ok.inj (hprepare.symm.trans h.prepared))
  rw [h.nothing] at hverdict
  exact ⟨registry, p, h.loaded, .first h.first, h.first_valid, h.first_split, hverdict⟩

end Agreement

end PartitionPlanValidator

end Partition
end AiopsK8s
