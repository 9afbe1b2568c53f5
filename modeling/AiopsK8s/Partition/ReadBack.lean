/-
# The planner's plans are read back

What the planner returns is persisted as a document and decoded again: by the repository, and by the
feedback service before it replans.  The decoder checks what the planner never states: texts without
surrounding blanks, known edge types, figures that are finite and not negative.  The texts and the
bytes of every candidate that the planner builds satisfy these checks (`isReadable_buildCandidate`), in
every mode so does every selection (`isReadable_select`), and no figure is negative
(`figures_buildCandidate`).  A figure may be infinite where those of the request are large, also one of
a candidate that is rejected.  So the plans of a request and of replannings that go through the
documents are read back exactly where all figures are finite (`fromDict_filed`).

It takes a policy and a registry whose figures are those that their decoders accept.
-/

import AiopsK8s.Learning.Registry
import AiopsK8s.Partition.Evaluator
import AiopsK8s.Partition.PlanDocuments
import AiopsK8s.Partition.Replanning

namespace AiopsK8s
namespace Partition

open Effect Text

namespace ModelPartitionOrchestrationAgent

/-! ### Placements and hops -/

section Parts

variable {rt : Runtime} {roundPlan : RoundPlan} {limits : List (String × ℤ)}
  {participants : List String} {runs : List (List ModelLayer)} {placed : List Placement}

theorem proper_toString (n : ℕ) : Proper (toString n) := by
  have hspace : ∀ c ∈ (toString n).toList, isSpace c = false := by
    intro c hc
    have hdigit := UnicodeDecimals.isDigit_of_mem_toString hc
    simp only [Char.isDigit, Bool.and_eq_true, decide_eq_true_eq] at hdigit
    have hlow : 48 ≤ c.toNat := by exact_mod_cast hdigit.1
    have hhigh : c.toNat ≤ 57 := by exact_mod_cast hdigit.2
    simp only [isSpace, Bool.or_eq_false_iff, Bool.and_eq_false_iff, decide_eq_false_iff_not,
      beq_eq_false_iff_ne]
    omega
  refine proper_iff_ends.2 ⟨Nat.repr_ne_empty, fun c hc => hspace c (List.mem_of_head? hc),
    fun c hc => hspace c (List.mem_of_getLast? hc)⟩

theorem proper_partitionName (index : ℕ) : Proper (partitionName index) := by
  have hname : partitionName index = "partition-" ++ toString (index + 1) := by
    simp [partitionName, toString]
  rw [hname]
  exact Proper.append ⟨'p', "artition-".toList, rfl, by decide⟩ (proper_toString _)

theorem isReadable_place {index : ℕ} {deviceId : String} {layers : List ModelLayer}
    {placement : Placement} (h : place rt roundPlan limits index deviceId layers = .ok placement) :
    placement.partition.IsReadable := by
  unfold place at h
  split at h
  · cases h
  · rename_i device hdevice
    obtain ⟨demand, hdemand, h⟩ := bind_eq_ok h
    obtain ⟨_, _, h⟩ := bind_eq_ok h
    obtain ⟨_, _, h⟩ := bind_eq_ok h
    obtain rfl := Except.ok.inj h
    have hmem := Dict.mem_of_lookup_reverse ((Dict.lookup_ofEntries _ _).symm.trans hdevice)
    obtain ⟨d, _, heq⟩ := List.mem_map.1 hmem
    obtain ⟨rfl, rfl⟩ := Prod.mk.inj heq
    refine ⟨proper_partitionName index, d.deviceId_proper, fun name hname => ?_,
      memoryDemand_nonneg hdemand⟩
    obtain ⟨layer, _, rfl⟩ := List.mem_map.1 hname
    exact layer.name_proper

theorem isReadable_placements (h : placements rt roundPlan limits participants runs = .ok placed) :
    ∀ p ∈ placed.map (·.partition), p.IsReadable := by
  intro p hp
  obtain ⟨placement, hplacement, rfl⟩ := List.mem_map.1 hp
  obtain ⟨item, _, hplace⟩ := exists_of_mem_mapM h hplacement
  exact isReadable_place hplace

theorem isReadable_hop {links : List (String × String)} {source target : LogicalPartition}
    {targetNode edgeType : String} {bytes : ℤ} {joint : Hop} (hsource : Proper source.partitionId)
    (htarget : Proper targetNode) (htype : edgeType ∈ ExecutionGraphEdge.edgeTypes)
    (hbytes : 0 ≤ bytes)
    (h : hop roundPlan links source target targetNode edgeType bytes = .ok joint) :
    ∀ e ∈ joint.edge, e.IsReadable := by
  unfold hop at h
  dsimp only at h
  split_ifs at h
  · obtain rfl := Except.ok.inj h
    exact fun e he => by cases he
  · split at h
    · obtain rfl := Except.ok.inj h
      exact fun e he => by cases he
    · obtain ⟨ms, _, h⟩ := bind_eq_ok h
      obtain rfl := Except.ok.inj h
      intro e he
      obtain rfl := Option.some.inj he
      exact ⟨hsource, htarget, hbytes, htype⟩

theorem isReadable_edges {joined : List Hop} (h : ∀ hop ∈ joined, ∀ e ∈ hop.edge, e.IsReadable) :
    ∀ e ∈ joined.filterMap Hop.edge, e.IsReadable := by
  intro e he
  obtain ⟨hop, hhop, hedge⟩ := List.mem_filterMap.1 he
  exact h hop hhop e hedge

theorem isReadable_hops {links : List (String × String)} {splitPoints : List ℕ}
    {partitions : List LogicalPartition} {joined : List Hop}
    (hpartitions : ∀ p ∈ partitions, p.IsReadable)
    (h : hops roundPlan links splitPoints partitions = .ok joined) :
    ∀ e ∈ joined.filterMap Hop.edge, e.IsReadable := by
  refine isReadable_edges fun joint hmem => ?_
  obtain ⟨⟨⟨source, target⟩, boundary⟩, hitem, h⟩ := exists_of_mem_mapM h hmem
  obtain ⟨hsource, htarget⟩ := List.of_mem_zip (List.of_mem_zip hitem).1
  dsimp only at h
  split at h
  · cases h
  · rename_i layer _
    exact isReadable_hop (hpartitions _ hsource).partitionId
      (hpartitions _ (List.mem_of_mem_tail htarget)).partitionId (by decide)
      layer.activationBytes_nonneg h

/-- The edges from the remote participants to the aggregator. -/
theorem isReadable_remote {links : List (String × String)} {remote : List LogicalPartition}
    {aggregator : LogicalPartition} {joined : List Hop} (hremote : ∀ p ∈ remote, p.IsReadable)
    (h : remote.mapM (fun partition => hop roundPlan links partition aggregator "aggregation"
      "aggregation" (roundPlan.layers.map (·.parameterBytes)).sum) = .ok joined) :
    ∀ e ∈ joined.filterMap Hop.edge, e.IsReadable := by
  refine isReadable_edges fun joint hjoint => ?_
  obtain ⟨p, hp, h⟩ := exists_of_mem_mapM h hjoint
  exact isReadable_hop (hremote p hp).partitionId (by decide) (by decide) parameterBytes_nonneg h

end Parts

/-! ### Graphs -/

/-- What is read of a graph is readable. -/
structure GraphSummary.IsReadable (graph : GraphSummary) : Prop where
  nodes : ∀ n ∈ graph.nodes, n.IsReadable
  edges : ∀ e ∈ graph.edges, e.IsReadable

section Graphs

variable {rt : Runtime} {partitions : List LogicalPartition} {joined : List Hop}
  {computeMs : List PyFloat} {forward : GraphSummary} {first last : LogicalPartition}

theorem isReadable_nodes (hpartitions : ∀ p ∈ partitions, p.IsReadable) :
    ∀ n ∈ partitions.map fun p => (⟨p.partitionId, p.deviceId⟩ : ExecutionGraphNode),
      n.IsReadable := by
  intro n hn
  obtain ⟨p, hp, rfl⟩ := List.mem_map.1 hn
  exact ⟨(hpartitions p hp).partitionId, (hpartitions p hp).deviceId⟩

theorem isReadable_forwardGraph (hpartitions : ∀ p ∈ partitions, p.IsReadable)
    (hedges : ∀ e ∈ joined.filterMap Hop.edge, e.IsReadable) :
    (forwardGraph partitions joined).IsReadable :=
  ⟨isReadable_nodes hpartitions, hedges⟩

/-- A text that the training graph makes of the name of a partition. -/
theorem proper_suffixed {name suffix : String} (hname : Proper name) (hsuffix : Proper suffix) :
    Proper (name ++ suffix) := by
  obtain ⟨hne, hfirst, -⟩ := proper_iff_ends.1 hname
  rcases hchars : name.toList with _ | ⟨c, l⟩
  · exact absurd (String.toList_eq_nil_iff.1 hchars) hne
  · exact Proper.append ⟨c, l, hchars, hfirst c (by rw [hchars]; rfl)⟩ hsuffix

theorem proper_forward {name : String} (h : Proper name) : Proper s!"{name}:forward" := by
  have heq : s!"{name}:forward" = name ++ ":forward" := by simp [toString]
  rw [heq]
  exact proper_suffixed h (by decide)

theorem proper_backward {name : String} (h : Proper name) : Proper s!"{name}:backward" := by
  have heq : s!"{name}:backward" = name ++ ":backward" := by simp [toString]
  rw [heq]
  exact proper_suffixed h (by decide)

theorem proper_aggregation : Proper "aggregation" := by decide

theorem isReadable_buildTrainingGraph (hpartitions : ∀ p ∈ partitions, p.IsReadable)
    (hfirst : first.IsReadable) (hlast : last.IsReadable) (hforward : forward.IsReadable)
    (hbytes : 0 ≤ forward.transferBytes) :
    (buildTrainingGraph rt partitions first last forward computeMs).IsReadable := by
  refine ⟨fun n hn => ?_, fun e he => ?_⟩
  · rcases List.mem_append.1 hn with hn | hn
    · rcases List.mem_append.1 hn with hn | hn
      · obtain ⟨p, hp, rfl⟩ := List.mem_map.1 hn
        exact ⟨proper_forward (hpartitions p hp).partitionId, (hpartitions p hp).deviceId⟩
      · obtain ⟨p, hp, rfl⟩ := List.mem_map.1 hn
        have hp := hpartitions p (List.mem_reverse.1 hp)
        exact ⟨proper_backward hp.partitionId, hp.deviceId⟩
    · obtain rfl := List.mem_singleton.1 hn
      exact ⟨proper_aggregation, hfirst.deviceId⟩
  · rcases List.mem_append.1 he with he | he
    · rcases List.mem_append.1 he with he | he
      · rcases List.mem_append.1 he with he | he
        · obtain ⟨f, hf, rfl⟩ := List.mem_map.1 he
          have hf := hforward.edges f hf
          exact ⟨proper_forward hf.sourcePartition, proper_forward hf.targetPartition,
            hf.transferBytes, by simp [ExecutionGraphEdge.edgeTypes]⟩
        · obtain rfl := List.mem_singleton.1 he
          exact ⟨proper_forward hlast.partitionId, proper_backward hlast.partitionId, hbytes,
            by simp [ExecutionGraphEdge.edgeTypes]⟩
      · obtain ⟨f, hf, rfl⟩ := List.mem_map.1 he
        have hf := hforward.edges f (List.mem_reverse.1 hf)
        exact ⟨proper_backward hf.targetPartition, proper_backward hf.sourcePartition,
          hf.transferBytes, by simp [ExecutionGraphEdge.edgeTypes]⟩
    · obtain rfl := List.mem_singleton.1 he
      exact ⟨proper_backward hfirst.partitionId, proper_aggregation, hbytes,
        by simp [ExecutionGraphEdge.edgeTypes]⟩

theorem isReadable_graphOf {intent : Option PartitionIntent}
    (hpartitions : ∀ p ∈ partitions, p.IsReadable)
    (hedges : ∀ e ∈ joined.filterMap Hop.edge, e.IsReadable) (hhops : ∀ hop ∈ joined, hop.Figures) :
    (graphOf rt intent partitions joined computeMs).IsReadable := by
  have hforward : (forwardGraph partitions joined).IsReadable :=
    isReadable_forwardGraph hpartitions hedges
  unfold graphOf
  split
  · rename_i first last hfirst hlast
    exact isReadable_buildTrainingGraph hpartitions (hpartitions _ (List.mem_of_head? hfirst))
      (hpartitions _ (List.mem_of_getLast? hlast)) hforward (figures_forwardGraph hhops).transferBytes
  · exact hforward

end Graphs

/-! ### Candidates -/

section Candidates

variable {rt : Runtime} {policy : ModelPartitionPolicy} {roundPlan : RoundPlan}
  {participants : List String} {splitPoints : List ℕ} {exclusions : Exclusions}
  {c : PartitionCandidate}

/-- **Every candidate is readable**, also one that is rejected. -/
theorem isReadable_buildCandidate {intent : Option PartitionIntent}
    (hpoints : ∀ point ∈ splitPoints, 1 ≤ point)
    (h : buildCandidate rt policy roundPlan participants splitPoints exclusions intent = .ok c) :
    c.IsReadable := by
  obtain ⟨placed, hplaced, h⟩ := bind_eq_ok h
  obtain ⟨joined, hjoined, h⟩ := bind_eq_ok h
  obtain ⟨score, _, h⟩ := bind_eq_ok h
  obtain rfl := Except.ok.inj h
  obtain ⟨-, hcompute, -⟩ := figures_placed (figures_placements hplaced)
  have hpartitions := isReadable_placements hplaced
  have hgraph : (graphOf rt intent (placed.map (·.partition)) joined
      (placed.map (·.computeMs))).IsReadable :=
    isReadable_graphOf hpartitions (isReadable_hops hpartitions hjoined) (figures_hops hjoined)
  have hfigures : (graphOf rt intent (placed.map (·.partition)) joined
      (placed.map (·.computeMs))).Figures := figures_graphOf (figures_hops hjoined) hcompute
  refine ⟨fun point hpoint => ?_, hpartitions, hgraph.nodes, hgraph.edges, hfigures.transferBytes,
    hfigures.gradientBytes⟩
  obtain ⟨n, hn, rfl⟩ := List.mem_map.1 hpoint
  exact Int.ofNat_le.2 (hpoints n hn)

theorem isReadable_buildFederated {intent : PartitionIntent}
    (h : buildFederatedFullModelCandidate rt policy roundPlan participants exclusions intent
      = .ok c) : c.IsReadable := by
  obtain ⟨placed, hplaced, h⟩ := bind_eq_ok h
  have hpartitions := isReadable_placements hplaced
  dsimp only at h
  split at h
  · cases h
  · rename_i aggregator remote hremote
    obtain ⟨joined, hjoined, h⟩ := bind_eq_ok h
    obtain ⟨score, _, h⟩ := bind_eq_ok h
    obtain rfl := Except.ok.inj h
    have haggregator := hpartitions aggregator (hremote ▸ List.mem_cons_self)
    have hedges := isReadable_remote
      (fun p hp => hpartitions p (hremote ▸ List.mem_cons_of_mem _ hp)) hjoined
    have hbytes := transferBytes_nonneg (figures_edges (figures_remote hjoined))
    refine ⟨List.forall_mem_nil _, hpartitions, fun n hn => ?_, hedges, hbytes, hbytes⟩
    rcases List.mem_append.1 hn with hn | hn
    · exact isReadable_nodes hpartitions n hn
    · obtain rfl := List.mem_singleton.1 hn
      exact ⟨proper_aggregation, haggregator.deviceId⟩

theorem isReadable_candidates {normalized : NormalizedPartitionRequest} {intent : PartitionIntent}
    {cs : List PartitionCandidate}
    (h : candidates rt policy roundPlan normalized intent exclusions = .ok cs) :
    ∀ c ∈ cs, c.IsReadable := by
  intro c hc
  obtain ⟨splitPoints, hsplit, h⟩ := exists_of_mem_mapM h hc
  refine isReadable_buildCandidate (fun point hpoint => ?_) h
  have hsub := (mem_combinations.1 (List.mem_filter.1 hsplit).1).1
  exact (List.mem_range'_1.1 (hsub.subset hpoint)).1

/-- No figure of a candidate that `_plan` considers is negative. -/
theorem figures_candidates {normalized : NormalizedPartitionRequest} {intent : PartitionIntent}
    {cs : List PartitionCandidate} (hpolicy : policy.Checked) (hweights : Weighted intent)
    (h : candidates rt policy roundPlan normalized intent exclusions = .ok cs) :
    ∀ c ∈ cs, c.Figures PyFloat.NotNeg := by
  intro c hc
  obtain ⟨splitPoints, _, h⟩ := exists_of_mem_mapM h hc
  refine (figures_buildCandidate hpolicy (fun i hi => ?_) h).1
  unfold candidateIntent at hi
  split_ifs at hi
  · obtain rfl := Option.some.inj hi
    exact hweights
  · cases hi

end Candidates

end ModelPartitionOrchestrationAgent

/-! ### Selections -/

namespace GuardedCandidateSelector

open Learning JsonText

section Selections

variable {rt : Runtime} {fl : Floats rt.toPython} {s : GuardedCandidateSelector}
  {context : RankingContext} {candidates : List PartitionCandidate} {mode : SelectionMode}
  {modelVersion : Option String} {artifact : PartitionRankerModelArtifact}
  {baseline selection learned : CandidateSelection} {reason : String}

theorem proper_candidateKey (version : String) (c : PartitionCandidate) :
    Proper (candidateKey rt version c) := (rt.sha256_hex _).proper

theorem proper_validKeys : ∀ key ∈ (validKeys rt context candidates).map some, ∀ k ∈ key, Proper k := by
  intro key hkey k hk
  obtain ⟨l, hl, rfl⟩ := List.mem_map.1 hkey
  obtain ⟨c, _, rfl⟩ := List.mem_map.1 hl
  obtain rfl := Option.some.inj hk
  exact proper_candidateKey _ _

theorem isReadable_ensureValidFinal (h : selection.IsReadable) :
    (ensureValidFinal rt selection context candidates).IsReadable := by
  have hkeys : ∀ key ∈ (validKeys rt context candidates).map some, ∀ k ∈ key, Proper k :=
    proper_validKeys
  unfold ensureValidFinal
  dsimp only
  by_cases hfinal : selection.finalSelectedCandidateKey ∈ (validKeys rt context candidates).map some ∨
      (validKeys rt context candidates).map some = []
  · rw [if_pos hfinal]
    exact h
  · rw [if_neg hfinal]
    refine ⟨h.baseline, h.learned, fun key hkey => ?_, h.modelVersion, h.modelArtifactHash,
      fun reason hreason => ?_⟩
    · dsimp only at hkey
      split_ifs at hkey
      · exact h.baseline key hkey
      · exact hkeys _ (List.mem_of_head? (Option.join_eq_some_iff.1 hkey)) key rfl
    · obtain rfl := Option.some.inj hreason
      decide

theorem isReadable_rank : (DeterministicPolicyRanker.rank rt context candidates).IsReadable := by
  have hkey : ∀ key ∈ ((DeterministicPolicyRanker.ordered rt candidates).find? (·.valid)).map
      (candidateKey rt context.strategyVersion), Proper key := by
    intro key hkey
    obtain ⟨c, _, rfl⟩ := Option.map_eq_some_iff.1 hkey
    exact proper_candidateKey _ _
  have hnone : ∀ key ∈ (none : Option String), Proper key := fun _ h => by cases h
  exact ⟨hkey, hnone, hkey, hnone, hnone, hnone⟩

theorem isReadable_unavailable (hbaseline : baseline.IsReadable) (hreason : Proper reason) :
    (unavailableLearnedSelection rt baseline context candidates mode reason).IsReadable := by
  refine isReadable_ensureValidFinal ⟨hbaseline.baseline, by simp, hbaseline.baseline,
    hbaseline.modelVersion, hbaseline.modelArtifactHash, fun r hr => ?_⟩
  dsimp only at hr
  split_ifs at hr
  · obtain rfl := Option.some.inj hr
    exact hreason
  · cases hr

/-- Why there is no model to use. -/
theorem proper_unavailable (h : learnedAvailability rt fl s modelVersion = .ok (.error reason)) :
    Proper reason := by
  unfold learnedAvailability at h
  split at h
  · obtain rfl := Except.error.inj (Except.ok.inj h)
    decide
  · split_ifs at h
    · obtain rfl := Except.error.inj (Except.ok.inj h)
      decide
    · obtain rfl := Except.error.inj (Except.ok.inj h)
      decide
    · split at h
      · cases Except.ok.inj h
      · obtain rfl := Except.error.inj (Except.ok.inj h)
        decide
      · cases h

theorem proper_distributionFailure {ratio : ℚ} {confidence : Option PyFloat}
    (h : distributionFailure s ratio confidence = some reason) : Proper reason := by
  unfold distributionFailure at h
  split_ifs at h
  · obtain rfl := Option.some.inj h
    decide
  · obtain rfl := Option.some.inj h
    decide

theorem proper_entryFailure {selected : CandidateRankingEntry}
    (h : entryFailure rt s artifact context candidates selected = .ok (some reason)) :
    Proper reason := by
  unfold entryFailure at h
  split at h
  · obtain rfl := Option.some.inj (Except.ok.inj h)
    decide
  · split_ifs at h
    · obtain rfl := Option.some.inj (Except.ok.inj h)
      decide
    · obtain ⟨features, _, h⟩ := bind_eq_ok h
      obtain ⟨ratio, _, h⟩ := bind_eq_ok h
      exact proper_distributionFailure (Except.ok.inj h)

/-- Why a guard fails. -/
theorem proper_guardFailure
    (h : guardFailure rt s artifact learned context candidates = .ok (some reason)) :
    Proper reason := by
  unfold guardFailure at h
  split_ifs at h
  · obtain rfl := Option.some.inj (Except.ok.inj h)
    decide
  · obtain rfl := Option.some.inj (Except.ok.inj h)
    decide
  · obtain ⟨mae, _, h⟩ := bind_eq_ok h
    split_ifs at h
    · obtain rfl := Option.some.inj (Except.ok.inj h)
      decide
    · obtain ⟨correlation, _, h⟩ := bind_eq_ok h
      split_ifs at h
      · obtain rfl := Option.some.inj (Except.ok.inj h)
        decide
      · split at h
        · obtain rfl := Option.some.inj (Except.ok.inj h)
          decide
        · split_ifs at h
          · obtain rfl := Option.some.inj (Except.ok.inj h)
            decide
          · exact proper_entryFailure h

/-- What was verified has a proper version and a digest. -/
theorem proper_artifact (h : artifact.verifyHash fl rt.sha256 = .ok ()) :
    Proper artifact.modelVersion ∧ Proper artifact.artifactHash := by
  obtain ⟨p, hvalid, h⟩ := bind_eq_ok h
  obtain ⟨haccepted, hhash⟩ := PartitionRankerModelArtifact.validate_eq_ok.1 hvalid
  have hversion := PartitionRankerModelArtifact.checkText_eq_ok.1
    (PartitionRankerModelArtifact.checkText_of_version haccepted.modelVersion)
  have hhash := PartitionRankerModelArtifact.checkText_eq_ok.1
    (PartitionRankerModelArtifact.checkText_of_sha256 (hhash rfl) "artifact_hash")
  exact ⟨⟨hversion.2.symm, hversion.1⟩, ⟨hhash.2.symm, hhash.1⟩⟩

theorem isReadable_learnedSelection (havailable : Available rt fl s modelVersion artifact)
    (hbaseline : baseline.IsReadable)
    (h : learnedSelection rt artifact baseline context candidates = .ok learned) :
    learned.IsReadable := by
  obtain ⟨entries, _, h⟩ := bind_eq_ok h
  obtain ⟨ordered, hordered, h⟩ := bind_eq_ok h
  obtain rfl := Except.ok.inj h
  obtain ⟨hversion, hhash⟩ := proper_artifact havailable.verified
  have hkey : ∀ key ∈ ordered.head?.map (·.key), Proper key := by
    intro key hkey
    obtain ⟨e, he, rfl⟩ := Option.map_eq_some_iff.1 hkey
    obtain ⟨-, hkey, -⟩ := learnedEntry_eq_ok ((head_orderedLearned hordered).1 e he).entry
    rw [hkey]
    exact proper_candidateKey _ _
  refine ⟨hbaseline.baseline, hkey, hkey, fun version hmem => ?_, fun hash hmem => ?_, by simp⟩
  · obtain rfl := Option.some.inj hmem
    exact hversion
  · obtain rfl := Option.some.inj hmem
    exact hhash

/-- **Every selection is readable**, in every mode. -/
theorem isReadable_select (h : select rt fl s context candidates mode modelVersion = .ok selection) :
    selection.IsReadable := by
  have hbaseline : (DeterministicPolicyRanker.rank rt context candidates).IsReadable := isReadable_rank
  unfold select at h
  revert h
  generalize DeterministicPolicyRanker.rank rt context candidates = baseline at hbaseline ⊢
  intro h
  unfold selectFrom at h
  by_cases hdeterministic : mode = .deterministic
  · rw [if_pos hdeterministic] at h
    obtain rfl := Except.ok.inj h
    exact isReadable_ensureValidFinal hbaseline
  · rw [if_neg hdeterministic] at h
    dsimp only at h
    obtain ⟨available, havailable, h⟩ := bind_eq_ok h
    rcases available with reason | artifact
    · obtain rfl := Except.ok.inj h
      exact isReadable_unavailable hbaseline (proper_unavailable havailable)
    dsimp only at h
    rcases hlearned : learnedSelection rt artifact baseline context candidates with e | learned
    · rw [hlearned] at h
      obtain rfl := Except.ok.inj h
      exact isReadable_unavailable hbaseline (by decide)
    rw [hlearned] at h
    dsimp only at h
    have hreadable := isReadable_learnedSelection (learnedAvailability_eq_ok havailable) hbaseline
      hlearned
    split_ifs at h with hshadow
    · obtain rfl := Except.ok.inj h
      exact isReadable_ensureValidFinal ⟨hreadable.baseline, hreadable.learned, hbaseline.baseline,
        hreadable.modelVersion, hreadable.modelArtifactHash, by simp [shadowed]⟩
    rcases hguards : guardFailure rt s artifact learned context candidates with e | failure
    · rw [hguards] at h
      obtain rfl := Except.ok.inj h
      exact isReadable_unavailable hbaseline (by decide)
    rw [hguards] at h
    rcases failure with _ | reason
    · obtain rfl := Except.ok.inj h
      exact isReadable_ensureValidFinal hreadable
    · obtain rfl := Except.ok.inj h
      refine isReadable_ensureValidFinal ⟨hreadable.baseline, hreadable.learned, hbaseline.baseline,
        hreadable.modelVersion, hreadable.modelArtifactHash, fun r hr => ?_⟩
      obtain rfl := Option.some.inj hr
      exact proper_guardFailure hguards

end Selections

end GuardedCandidateSelector

/-! ### Strategies -/

namespace PartitionStrategyRegistry

/-- No strategy has a negative weight. -/
def Weighted (registry : PartitionStrategyRegistry) : Prop :=
  ∀ entry ∈ registry.entries, ∀ w ∈ entry.2.2.objectiveWeights, 0 ≤ w.2

section OfPolicy

variable {rt : Runtime} {policy confidence : List (String × Json)} {version : {s : String // Proper s}}

theorem fractions_nonneg {objectives : List (String × Json)} {field : String} {required : List String}
    {weights : {l : List (String × ℚ) // l.map Prod.fst = required}}
    (h : policyDecoder.fractions rt objectives field required = .ok weights) :
    ∀ w ∈ weights.1, 0 ≤ w.2 := by
  induction required with
  | nil =>
      obtain rfl := Except.ok.inj h
      exact List.forall_mem_nil _
  | cons name required ih =>
      obtain ⟨weight, _, h⟩ := bind_eq_ok h
      obtain ⟨rest, hrest, h⟩ := bind_eq_ok h
      obtain rfl := Except.ok.inj h
      exact List.forall_mem_cons.2 ⟨weight.2.1, ih hrest⟩

theorem objectiveWeights_nonneg {value : Json} {required : List String} {field : String}
    {weights : {l : List (String × ℚ) // l.map Prod.fst = required}}
    (h : policyDecoder.objectiveWeights rt value required field = .ok weights) :
    ∀ w ∈ weights.1, 0 ≤ w.2 := by
  obtain ⟨objectives, _, h⟩ := bind_eq_ok h
  obtain ⟨read, hread, h⟩ := bind_eq_ok h
  obtain ⟨_, _, h⟩ := bind_eq_ok h
  obtain rfl := Except.ok.inj h
  exact fractions_nonneg hread

theorem weighted_inferenceStrategy {s : InferencePartitionStrategy}
    (h : inferenceStrategy rt policy version confidence = .ok s) :
    ∀ w ∈ s.objectiveWeights, 0 ≤ w.2 := by
  obtain ⟨_, _, h⟩ := bind_eq_ok h
  obtain ⟨weights, hweights, h⟩ := bind_eq_ok h
  obtain ⟨_, _, h⟩ := bind_eq_ok h
  obtain ⟨_, _, h⟩ := bind_eq_ok h
  obtain rfl := Except.ok.inj h
  exact objectiveWeights_nonneg hweights

theorem weighted_trainingStrategy {s : TrainingPartitionStrategy}
    (h : trainingStrategy rt policy version confidence = .ok s) :
    ∀ w ∈ s.objectiveWeights, 0 ≤ w.2 := by
  obtain ⟨_, _, h⟩ := bind_eq_ok h
  obtain ⟨weights, hweights, h⟩ := bind_eq_ok h
  obtain ⟨_, _, h⟩ := bind_eq_ok h
  obtain ⟨_, _, h⟩ := bind_eq_ok h
  obtain ⟨_, _, h⟩ := bind_eq_ok h
  obtain rfl := Except.ok.inj h
  exact objectiveWeights_nonneg hweights

theorem weighted_federatedStrategy {s : FederatedFullModelStrategy}
    (h : federatedStrategy rt policy version confidence = .ok s) :
    ∀ w ∈ s.objectiveWeights, 0 ≤ w.2 := by
  obtain ⟨weights, hweights, h⟩ := bind_eq_ok h
  obtain ⟨_, _, h⟩ := bind_eq_ok h
  obtain rfl := Except.ok.inj h
  exact objectiveWeights_nonneg hweights

/-- **The strategies of a policy have no negative weight.** -/
theorem weighted_ofPolicy {payload : Json} {registry : PartitionStrategyRegistry}
    (h : ofPolicy rt payload = .ok registry) : registry.Weighted := by
  obtain ⟨_, _, h⟩ := bind_eq_ok h
  obtain ⟨_, _, h⟩ := bind_eq_ok h
  obtain ⟨_, _, h⟩ := bind_eq_ok h
  obtain ⟨_, _, h⟩ := bind_eq_ok h
  obtain ⟨_, _, h⟩ := bind_eq_ok h
  obtain ⟨inference, hinference, h⟩ := bind_eq_ok h
  obtain ⟨training, htraining, h⟩ := bind_eq_ok h
  obtain ⟨federated, hfederated, h⟩ := bind_eq_ok h
  obtain rfl := Except.ok.inj h
  intro entry hentry
  rcases List.mem_append.1 hentry with hentry | hentry
  · rcases List.mem_append.1 hentry with hentry | hentry
    · obtain ⟨mode, _, rfl⟩ := List.mem_map.1 hentry
      exact weighted_inferenceStrategy hinference
    · cases training with
      | none => cases hentry
      | some s =>
          obtain ⟨mode, _, rfl⟩ := List.mem_map.1 hentry
          obtain ⟨_, hbuilt⟩ := exists_of_optionalStrategy htraining
          exact weighted_trainingStrategy hbuilt
  · cases federated with
    | none => cases hentry
    | some s =>
        obtain rfl := List.mem_singleton.1 hentry
        obtain ⟨_, hbuilt⟩ := exists_of_optionalStrategy hfederated
        exact weighted_federatedStrategy hbuilt

end OfPolicy

/-- The intent of a strategy has its weights. -/
theorem intent_weights {rt : Runtime} {strategy : PartitionStrategy}
    {normalized : NormalizedPartitionRequest} {intent : PartitionIntent}
    (h : strategy.buildPartitionIntent rt normalized = .ok intent) :
    intent.objectiveWeights = strategy.objectiveWeights := by
  cases strategy with
  | inference s =>
      obtain ⟨_, _, h⟩ := bind_eq_ok h
      obtain rfl := Except.ok.inj h
      rfl
  | training s =>
      obtain ⟨_, _, h⟩ := bind_eq_ok h
      obtain rfl := Except.ok.inj h
      rfl
  | federated s =>
      obtain ⟨_, _, h⟩ := bind_eq_ok h
      obtain rfl := Except.ok.inj h
      rfl

theorem strategyId_ne_empty {registry : PartitionStrategyRegistry} {planType mode : String}
    {strategy : PartitionStrategy} (hregistry : registry.Standard)
    (h : registry.resolve planType mode = .ok strategy) : strategy.strategyId ≠ "" := by
  have hentry := hregistry _ (mem_of_resolve h)
  cases strategy with
  | inference s =>
      have hid : s.strategyId = "inference-partition-v1" := hentry.2.2
      rw [PartitionStrategy.strategyId, hid]
      decide
  | training s =>
      have hid : s.strategyId = "training-partition-v1" := hentry.2.2
      rw [PartitionStrategy.strategyId, hid]
      decide
  | federated s =>
      have hid : s.strategyId = "federated-full-model-v1" := hentry.2.2
      rw [PartitionStrategy.strategyId, hid]
      decide

end PartitionStrategyRegistry

/-! ### Plans -/

/-- What the decoders of a request check of the texts that a plan takes from it as they are. -/
structure PartitionPlanningRequest.Named (request : PartitionPlanningRequest) : Prop where
  jobId : Proper request.envelope.jobId
  snapshotId : request.context.snapshotId ≠ ""

/-- A request that is read back is named. -/
theorem PartitionPlanningRequest.IsReadable.named {request : PartitionPlanningRequest}
    (h : request.IsReadable) : request.Named :=
  ⟨h.envelope.jobId, h.context.snapshotId.ne_empty⟩

namespace ModelPartitionOrchestrationAgent

section Plans

variable {rt : Runtime} {sel : Selecting rt} {registry : PartitionStrategyRegistry}
  {policy : ModelPartitionPolicy} {request : PartitionPlanningRequest}
  {normalized : NormalizedPartitionRequest} {intent : PartitionIntent} {exclusions : Exclusions}
  {planId : String} {roundPlan : RoundPlan} {p previous : PartitionExecutionPlan}
  {directive : RepartitionDirective} {attempt : ℤ}

/-- The texts of a plan that is not identified yet are proper. -/
structure Titled (policy : ModelPartitionPolicy) (planId : String) (roundPlan : RoundPlan) : Prop
    where
  planId : Proper planId
  jobId : Proper roundPlan.jobId
  modelId : Proper roundPlan.modelId
  version : Proper policy.version

theorem isReadable_legacy (h : Titled policy planId roundPlan) :
    (PartitionExecutionPlan.legacy planId roundPlan.jobId roundPlan.modelId
      roundPlan.executionMode.name policy.version).IsReadable where
  planId := h.planId
  jobId := h.jobId
  modelId := h.modelId
  approvedExecutionMode := roundPlan.executionMode.name_proper
  policyVersion := h.version
  selectedCandidate := fun c hc => by cases hc
  alternativeCandidates := List.forall_mem_nil _
  planVersion := le_refl _
  parentPlanId := fun c hc => by cases hc
  planType := by simp [PartitionExecutionPlan.legacy]
  approvedModelVersion := by simp [PartitionExecutionPlan.legacy]
  strategyId := by simp [PartitionExecutionPlan.legacy]
  strategyVersion := by simp [PartitionExecutionPlan.legacy]
  inputSnapshotId := by simp [PartitionExecutionPlan.legacy]
  confidence := le_refl _
  handoffStatus := by simp [PartitionExecutionPlan.legacy]
  selection := fun c hc => by cases hc

/-- What `_plan` returns: a refusal, or one of the candidates and the others. -/
inductive Outcome (policy : ModelPartitionPolicy) (planId : String) (roundPlan : RoundPlan)
    (P : PartitionCandidate → Prop) : PartitionExecutionPlan → Prop
  | failure {errors : List String} {alternatives : List PartitionCandidate}
      {selection : Option CandidateSelection} (halternatives : ∀ c ∈ alternatives, P c)
      (hselection : ∀ s ∈ selection, s.IsReadable) :
      Outcome policy planId roundPlan P
        (safeFailure policy planId roundPlan errors alternatives selection)
  | selected {selected : PartitionCandidate} {alternatives : List PartitionCandidate}
      {rationale : String} {selection : CandidateSelection} (hselected : P selected)
      (halternatives : ∀ c ∈ alternatives, P c) (hselection : selection.IsReadable) :
      Outcome policy planId roundPlan P
        (selectedPlan policy planId roundPlan selected alternatives rationale selection)

variable {P : PartitionCandidate → Prop}

theorem Outcome.isReadable (h : Outcome policy planId roundPlan P p)
    (htitled : Titled policy planId roundPlan) (hP : ∀ c, P c → c.IsReadable) : p.IsReadable := by
  cases h with
  | failure halternatives hselection =>
      exact { isReadable_legacy htitled with
        alternativeCandidates := fun c hc => hP c (halternatives c hc)
        selection := hselection }
  | selected hselected halternatives hselection =>
      exact { isReadable_legacy htitled with
        selectedCandidate := fun c hc => by
          obtain rfl := Option.some.inj hc
          exact hP _ hselected
        alternativeCandidates := fun c hc => hP c (halternatives c hc)
        selection := fun s hs => by
          obtain rfl := Option.some.inj hs
          exact hselection }

theorem Outcome.figures {Q : PyFloat → Prop} (h : Outcome policy planId roundPlan P p)
    (hP : ∀ c, P c → c.Figures Q) : p.Figures Q := by
  cases h with
  | failure halternatives _ =>
      exact ⟨fun c hc => (by cases hc), fun c hc => hP c (halternatives c hc)⟩
  | selected hselected halternatives _ =>
      refine ⟨fun c hc => ?_, fun c hc => hP c (halternatives c hc)⟩
      obtain rfl := Option.some.inj hc
      exact hP _ hselected

theorem outcome_refused (errors : List String) :
    Outcome policy planId roundPlan P (safeFailure policy planId roundPlan errors [] none) :=
  .failure (List.forall_mem_nil _) fun s hs => by cases hs

theorem outcome_planOfSelection {strategyVersion : String} {cs : List PartitionCandidate}
    {selection : CandidateSelection} (hcs : ∀ c ∈ cs, P c) (hselection : selection.IsReadable) :
    Outcome policy planId roundPlan P
      (planOfSelection rt policy planId roundPlan strategyVersion cs selection) := by
  have hfound : ∀ key c, (Dict.ofEntries (cs.map fun c =>
      (candidateKey rt strategyVersion c, c))).lookup key = some c → P c := by
    intro key c hc
    have hmem := Dict.mem_of_lookup_reverse ((Dict.lookup_ofEntries _ _).symm.trans hc)
    obtain ⟨d, hd, heq⟩ := List.mem_map.1 hmem
    obtain rfl := (Prod.mk.inj heq).2
    exact hcs d hd
  have hordered : ∀ c ∈ selection.entries.filterMap fun entry => (Dict.ofEntries (cs.map fun c =>
      (candidateKey rt strategyVersion c, c))).lookup entry.candidateKey, P c := by
    intro c hc
    obtain ⟨entry, _, hlookup⟩ := List.mem_filterMap.1 hc
    exact hfound _ c hlookup
  unfold planOfSelection
  dsimp only
  split
  · exact .failure hordered fun s hs => Option.some.inj hs ▸ hselection
  · rename_i selected hselected
    obtain ⟨key, _, hlookup⟩ := Option.bind_eq_some_iff.1 hselected
    exact .selected (hfound key selected hlookup)
      (fun c hc => hordered c (List.mem_filter.1 hc).1) hselection

/-- A candidate that `_plan` builds: the one of federated learning, or one of the splits. -/
def Built (rt : Runtime) (policy : ModelPartitionPolicy) (roundPlan : RoundPlan)
    (exclusions : Exclusions) (normalized : NormalizedPartitionRequest) (intent : PartitionIntent)
    (c : PartitionCandidate) : Prop :=
  buildFederatedFullModelCandidate rt policy roundPlan (survivors roundPlan exclusions) exclusions
      intent = .ok c ∨
    ∃ cs, candidates rt policy roundPlan normalized intent exclusions = .ok cs ∧ c ∈ cs

theorem isReadable_built {c : PartitionCandidate}
    (h : Built rt policy roundPlan exclusions normalized intent c) : c.IsReadable := by
  obtain h | ⟨cs, hcs, hc⟩ := h
  · exact isReadable_buildFederated h
  · exact isReadable_candidates hcs c hc

theorem figures_built {c : PartitionCandidate} (hpolicy : policy.Checked)
    (hweights : Weighted intent) (h : Built rt policy roundPlan exclusions normalized intent c) :
    c.Figures PyFloat.NotNeg := by
  obtain h | ⟨cs, hcs, hc⟩ := h
  · exact figures_buildFederated hpolicy hweights h
  · exact figures_candidates hpolicy hweights hcs c hc

/-- **The plans of `_plan`**, in every selection mode, hold candidates that it has built. -/
theorem outcome_planSelecting
    (h : planSelecting rt sel policy planId roundPlan exclusions normalized intent = .ok p) :
    Outcome policy planId roundPlan (Built rt policy roundPlan exclusions normalized intent) p := by
  unfold planSelecting at h
  dsimp only at h
  split_ifs at h
  · obtain rfl := Except.ok.inj h
    exact outcome_refused _
  · obtain ⟨candidate, hcandidate, h⟩ := bind_eq_ok h
    obtain ⟨selection, hselection, h⟩ := bind_eq_ok h
    obtain rfl := Except.ok.inj h
    have hselection := GuardedCandidateSelector.isReadable_select hselection
    unfold federatedPlanOfSelection
    split
    · refine .failure (fun c hc => ?_) fun s hs => Option.some.inj hs ▸ hselection
      obtain rfl := List.mem_singleton.1 hc
      exact .inl hcandidate
    · exact .selected (.inl hcandidate) (List.forall_mem_nil _) hselection
  · obtain rfl := Except.ok.inj h
    exact outcome_refused _
  · obtain ⟨cs, hcs, h⟩ := bind_eq_ok h
    obtain ⟨selection, hselection, h⟩ := bind_eq_ok h
    obtain rfl := Except.ok.inj h
    exact outcome_planOfSelection (fun c hc => .inr ⟨cs, hcs, hc⟩)
      (GuardedCandidateSelector.isReadable_select hselection)

theorem outcome_replanned
    (h : replanned rt sel policy planId normalized intent previous directive attempt = .ok p) :
    Outcome policy planId normalized.roundPlan
      (Built rt policy normalized.roundPlan directive.exclusions normalized intent) p := by
  unfold replanned at h
  split_ifs at h
  · obtain rfl := Except.ok.inj h
    exact outcome_refused _
  · obtain rfl := Except.ok.inj h
    exact outcome_refused _
  · obtain rfl := Except.ok.inj h
    exact outcome_refused _
  · exact outcome_planSelecting h

/-! ### Plans of a request -/

/-- The texts of what the common checks return. -/
theorem process_texts (h : PartitionCommonProcessor.process rt request = .ok normalized) :
    normalized.jobId = request.envelope.jobId ∧ Proper normalized.modelId ∧
      Proper normalized.approvedModelVersion ∧
      normalized.contextSnapshotId = request.context.snapshotId ∧ normalized.planType ≠ "" := by
  obtain ⟨_, htype, h⟩ := bind_eq_ok h
  obtain ⟨_, _, h⟩ := bind_eq_ok h
  obtain ⟨mode, _, h⟩ := bind_eq_ok h
  obtain ⟨_, _, h⟩ := bind_eq_ok h
  obtain ⟨_, hmatch, h⟩ := bind_eq_ok h
  obtain ⟨_, _, h⟩ := bind_eq_ok h
  obtain rfl := Except.ok.inj h
  have hmatch := rejectIf_eq_ok.1 hmatch
  simp only [not_or, not_not] at hmatch
  refine ⟨rfl, ?_, ?_, rfl, ?_⟩
  · dsimp only
    rw [hmatch.1]
    exact request.context.modelRegistryContext.modelId_proper
  · dsimp only
    rw [hmatch.2.1]
    exact request.context.modelRegistryContext.approvedModelVersion_proper
  · have htype := not_not.1 (rejectIf_eq_ok.1 htype)
    rintro hempty
    rw [show request.envelope.planType = "" from hempty] at htype
    exact absurd htype (by decide)

theorem intentConfidence_nonneg {assumptions : List String} {q : ℚ}
    (h : intentConfidence rt assumptions = .ok q) : 0 ≤ q := by
  induction assumptions with
  | nil => cases h
  | cons assumption assumptions ih =>
      unfold intentConfidence at h
      split at h
      · exact ih h
      · split at h
        · cases h
        · split_ifs at h with hbounds
          · obtain rfl := Except.ok.inj h
            exact hbounds.1
          · exact ih h
        · exact ih h

theorem handoffStatus_ne_empty {P : Prop} [Decidable P] :
    (if P then "ready" else "not_ready") ≠ "" := by
  split_ifs <;> decide

/-- What a request is planned from has proper texts and weights. -/
theorem titled_of_prepare (hpolicy : policy.Checked) (hregistry : registry.Weighted)
    (hnamed : request.Named) (hplanId : Proper planId)
    (h : prepare rt registry request = .ok (normalized, intent)) :
    Titled policy planId normalized.roundPlan ∧ Weighted intent := by
  obtain ⟨hprocess, strategy, hresolve, hintent⟩ := PartitionPlanValidator.prepare_eq_ok h
  obtain ⟨hjob, hmodel, -⟩ := process_texts hprocess
  have hproper : Proper normalized.jobId := hjob ▸ hnamed.jobId
  refine ⟨⟨hplanId, hproper, hmodel, hpolicy.version⟩, fun w hw => ?_⟩
  rw [PartitionStrategyRegistry.intent_weights hintent] at hw
  exact hregistry _ (PartitionStrategyRegistry.mem_of_resolve hresolve) w hw

theorem isReadable_planRequest (hpolicy : policy.Checked) (hstandard : registry.Standard)
    (hregistry : registry.Weighted) (hnamed : request.Named) (hplanId : Proper planId)
    (h : planRequest rt sel registry policy planId request = .ok p) :
    p.IsReadable ∧ p.Figures PyFloat.NotNeg := by
  obtain ⟨⟨normalized, intent⟩, hprepare, h⟩ := bind_eq_ok h
  obtain ⟨plan, hplan, h⟩ := bind_eq_ok h
  obtain ⟨htitled, hweights⟩ := titled_of_prepare hpolicy hregistry hnamed hplanId hprepare
  have houtcome := outcome_planSelecting hplan
  have hreadable := houtcome.isReadable htitled fun _ hc => isReadable_built hc
  have hfigures := houtcome.figures fun _ hc => figures_built hpolicy hweights hc
  obtain ⟨hprocess, strategy, hresolve, hintent⟩ := PartitionPlanValidator.prepare_eq_ok hprepare
  obtain ⟨-, -, hversion, hsnapshot, htype⟩ := process_texts hprocess
  have hid := PartitionStrategyRegistry.strategyId_ne_empty hstandard hresolve
  rw [← (PartitionPlanValidator.intent_identity hintent).1] at hid
  obtain ⟨confidence, hconfidence, h⟩ := bind_eq_ok h
  obtain rfl := Except.ok.inj h
  exact ⟨{ hreadable with
    planVersion := le_refl _
    parentPlanId := fun parent hparent => by cases hparent
    planType := htype
    approvedModelVersion := hversion.ne_empty
    strategyId := hid
    strategyVersion := intent.strategyVersion_proper.ne_empty
    inputSnapshotId := fun hempty => hnamed.snapshotId (hsnapshot ▸ hempty)
    confidence := intentConfidence_nonneg hconfidence
    handoffStatus := handoffStatus_ne_empty },
    hfigures.selectedCandidate, hfigures.alternativeCandidates⟩

theorem isReadable_replanRequest (hpolicy : policy.Checked) (hregistry : registry.Weighted)
    (hnamed : request.Named) (hplanId : Proper planId) (hprevious : previous.IsReadable)
    (h : replanRequest rt sel registry policy planId request previous directive attempt = .ok p) :
    p.IsReadable ∧ p.Figures PyFloat.NotNeg := by
  obtain ⟨⟨normalized, intent⟩, hprepare, h⟩ := bind_eq_ok h
  obtain ⟨plan, hplan, h⟩ := bind_eq_ok h
  obtain rfl := Except.ok.inj h
  obtain ⟨htitled, hweights⟩ := titled_of_prepare hpolicy hregistry hnamed hplanId hprepare
  have houtcome := outcome_replanned hplan
  have hreadable := houtcome.isReadable htitled fun _ hc => isReadable_built hc
  have hfigures := houtcome.figures fun _ hc => figures_built hpolicy hweights hc
  have hversion := hprevious.planVersion
  exact ⟨{ hreadable with
    planVersion := by
      dsimp only [withReplanMetadata]
      omega
    parentPlanId := fun parent hparent => Option.some.inj hparent ▸ hprevious.planId
    planType := hprevious.planType
    approvedModelVersion := hprevious.approvedModelVersion
    strategyId := hprevious.strategyId
    strategyVersion := hprevious.strategyVersion
    inputSnapshotId := hprevious.inputSnapshotId
    confidence := hprevious.confidence
    handoffStatus := handoffStatus_ne_empty },
    hfigures.selectedCandidate, hfigures.alternativeCandidates⟩

/-- **Plans that go through their documents**: a first plan, or a replanning of what was read from
the document of such a plan. -/
inductive Filed (rt : Runtime) (sel : Selecting rt) (registry : PartitionStrategyRegistry)
    (policy : ModelPartitionPolicy) (request : PartitionPlanningRequest) :
    PartitionExecutionPlan → Prop
  | first {planId : String} {plan : PartitionExecutionPlan} (hplanId : Proper planId)
      (h : planRequest rt sel registry policy planId request = .ok plan) :
      Filed rt sel registry policy request plan
  | next {planId : String} {filed previous plan : PartitionExecutionPlan}
      {directive : RepartitionDirective} {attempt : ℤ}
      (hfiled : Filed rt sel registry policy request filed)
      (hread : PartitionExecutionPlan.fromDict rt filed.toDict = .ok previous)
      (hplanId : Proper planId)
      (h : replanRequest rt sel registry policy planId request previous directive attempt = .ok plan) :
      Filed rt sel registry policy request plan

theorem isReadable_filed (hpolicy : policy.Checked) (hstandard : registry.Standard)
    (hregistry : registry.Weighted) (hnamed : request.Named)
    (h : Filed rt sel registry policy request p) :
    p.IsReadable ∧ p.Figures PyFloat.NotNeg ∧ Planned rt sel registry policy request p := by
  induction h with
  | first hplanId h =>
      obtain ⟨hreadable, hfigures⟩ :=
        isReadable_planRequest hpolicy hstandard hregistry hnamed hplanId h
      exact ⟨hreadable, hfigures, .first h⟩
  | next _ hread hplanId h ih =>
      obtain ⟨hfiled, -, hplanned⟩ := ih
      obtain rfl := Except.ok.inj ((PartitionExecutionPlan.fromDict_toDict hfiled
        (PartitionExecutionPlan.figures_of_fromDict hread)).symm.trans hread)
      obtain ⟨hreadable, hfigures⟩ :=
        isReadable_replanRequest hpolicy hregistry hnamed hplanId hfiled h
      exact ⟨hreadable, hfigures, .next hplanned h⟩

/-- **A plan is read back from its document exactly where its figures are finite**, after any number
of replannings that each read the plan before from its document; so what the documents carry on are
the plans of the planner.  A plan with another figure is refused. -/
theorem fromDict_filed {payload : Json} (hpolicy : policy.Checked)
    (hregistry : PartitionStrategyRegistry.ofPolicy rt payload = .ok registry)
    (hnamed : request.Named) (h : Filed rt sel registry policy request p) :
    Planned rt sel registry policy request p ∧
      (PartitionExecutionPlan.fromDict rt p.toDict = .ok p ↔
        p.Figures fun x => x.isFinite = true) ∧
      ((¬p.Figures fun x => x.isFinite = true) → ∃ code message,
        PartitionExecutionPlan.fromDict rt p.toDict = .error (.contract code message)) := by
  obtain ⟨hreadable, hnotNeg, hplanned⟩ := isReadable_filed hpolicy
    (PartitionStrategyRegistry.standard_ofPolicy hregistry)
    (PartitionStrategyRegistry.weighted_ofPolicy hregistry) hnamed h
  have hnumber : p.Figures PyFloat.IsNumber ↔ p.Figures fun x => x.isFinite = true :=
    ⟨fun h => h.imp fun _ hx => (PyFloat.isNumber_iff.1 hx).2,
      fun h => (hnotNeg.and h).imp fun _ hx => PyFloat.isNumber_iff.2 hx⟩
  rw [← hnumber]
  exact ⟨hplanned, PartitionExecutionPlan.fromDict_toDict_iff hreadable⟩

theorem named_twoDevices : twoDeviceRequest.Named := ⟨by decide, by decide⟩

/-- The plan for two devices is replanned from its document, and what is returned is read back. -/
theorem fromDict_withoutFirst : ∃ registry previous p,
    replanRequest servingRuntime baselineOnly registry latencyPolicy "next" twoDeviceRequest previous
      PartitionPlanValidator.withoutFirst 1 = .ok p ∧ p.valid = true ∧
    PartitionExecutionPlan.fromDict servingRuntime previous.toDict = .ok previous ∧
    PartitionExecutionPlan.fromDict servingRuntime p.toDict = .ok p := by
  obtain ⟨registry, _, _, previous, p, h⟩ := PartitionPlanValidator.exists_twoDevices
  obtain ⟨hfirst, hnext⟩ := List.forall_mem_append.1 h.finite
  have hplanId : Proper "plan" := by decide
  have hnextId : Proper "next" := by decide
  obtain ⟨-, hread, -⟩ := fromDict_filed checked_latencyPolicy h.loaded named_twoDevices
    (.first hplanId h.first)
  have hread := hread.2 (PartitionExecutionPlan.figures_of_forall hfirst)
  obtain ⟨-, hreplanned, -⟩ := fromDict_filed checked_latencyPolicy h.loaded named_twoDevices
    (.next (.first hplanId h.first) hread hnextId h.next)
  exact ⟨registry, previous, p, h.next, h.next_valid, hread,
    hreplanned.2 (PartitionExecutionPlan.figures_of_forall hnext)⟩

end Plans

end ModelPartitionOrchestrationAgent

end Partition
end AiopsK8s
