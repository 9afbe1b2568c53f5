/-
# A negotiation of the deterministic adapters

`MutualSupervisionCoordinator._negotiate` with the deterministic adapters, any limits and any
profile of at least two rounds.  A round that is approved with revisions outstanding replaces
the action by the suggestion of the cost adapter (`reviseAction_eq`), which nobody revises
again, so the second round decides under every strategy (`negotiate_converges`).

The event store is arbitrary, so a negotiation may also raise what the store raises.
-/

import AiopsK8s.Agents.Adapters
import AiopsK8s.Lib.Summation

namespace AiopsK8s
namespace Agents

open Effect Supervision

variable {σ : Type}

/-! ### Computations that raise what the event store raises -/

/-- The event store of the coordinator raises the exception for some event. -/
def StoreRaises (c : Coordinator σ) (e : PyExn) : Prop :=
  ∃ store, c.eventStore = some store ∧
    ∃ event env env', (store.append event).run env = (.error e, env')

/-- From any state, `m` returns a value of `Q` or raises what the event store raises. -/
def Yields {α : Type} (c : Coordinator σ) (m : Act σ α) (Q : α → Prop) : Prop :=
  Triple (fun _ => True) m (fun a _ => Q a) (fun e _ => StoreRaises c e)

namespace Yields

variable {α β : Type} {c : Coordinator σ}

theorem pure {a : α} {Q : α → Prop} (h : Q a) : Yields c (Pure.pure a) Q :=
  Triple.pure fun _ _ => h

theorem bind {m : Act σ α} {f : α → Act σ β} {Q : α → Prop} {R : β → Prop} (hm : Yields c m Q)
    (hf : ∀ a, Q a → Yields c (f a) R) : Yields c (m >>= f) R :=
  Triple.bind hm fun a s hs => hf a hs s trivial

theorem newTraceId (label : String) : Yields c (Act.newTraceId label) fun _ => True := by
  intro s _
  refine ⟨fun _ _ _ => trivial, fun e s' h => ?_⟩
  cases h

/-- Recording an event raises only what the store raises. -/
theorem record (event : Event) : Yields c (c.record event) fun _ => True := by
  intro s _
  refine ⟨fun _ _ _ => trivial, fun e s' h => ?_⟩
  rcases Eff.run_bind_cases h with ⟨_, hn, _⟩ | ⟨_, s₁, -, h⟩
  · cases hn
  · split at h
    · cases h
    · rename_i store hstore
      rcases hr : (store.append event).run s₁.env with ⟨r, env'⟩
      have hcall : (Act.call (store.append event)).run s₁ = (r, { s₁ with env := env' }) := by
        show (match (store.append event).run s₁.env with | (r, env) => (r, { s₁ with env })) = _
        rw [hr]
      rw [hcall] at h
      obtain rfl : r = .error e := congrArg Prod.fst h
      exact ⟨store, hstore, event, s₁.env, env', hr⟩

end Yields

/-! ### One round -/

section Round

variable {panel : Panel} {c : Coordinator σ} {diagnosis : Diagnosis} {evidence : EvidenceSnapshot}
  {action : RecoveryAction}

/-- **A reviewer's turn** ends with a review that is in order. -/
theorem reviewOnce_inOrder (hc : Deterministic panel c) {a : AgentAdapter σ} (ha : a ∈ c.adapters)
    (hconf : 0 ≤ diagnosis.confidence ∧ diagnosis.confidence ≤ 1)
    (hns : Text.isBlank action.ns = false) (hdeployment : Text.isBlank action.deployment = false)
    (runId : String) (roundIndex : ℕ) (evidence : EvidenceSnapshot) {d : SupervisionDecision}
    (hd : d.proposedAction = some action) (s : RunState σ) :
    ∃ r s', (c.reviewOnce a runId roundIndex d diagnosis evidence).run s = (.ok (some r), s') ∧
      InOrder panel evidence action r := by
  obtain ⟨r, hreview, hmeta, hr⟩ := hc.review_inOrder ha evidence
    { runId, roundIndex, policyVersion := c.protocol.version, diagnosis } hconf hd
  let stamped : PeerReview :=
    { r with
      reviewId := traceId "review" s.nextId
      runId
      roundIndex
      policyVersion := c.protocol.version }
  refine ⟨stamped, { s with nextId := s.nextId + 1 }, ?_,
    ⟨hr.confidence_mem, hr.reason_text, hr.suggested, hr.revise⟩⟩
  unfold Coordinator.reviewOnce
  rw [hreview]
  rw [Eff.run_bind, show (Act.call (pure (RawReply.review (toRawReview r)) : Eff σ PyExn _)).run s =
    (.ok (.review (toRawReview r)), s) from rfl]
  dsimp only
  rw [Eff.run_bind, show (Act.newTraceId "review" : Act σ String).run s =
    (.ok (traceId "review" s.nextId), { s with nextId := s.nextId + 1 }) from rfl]
  dsimp only
  rw [Eff.run_bind, normalize_raw hmeta hr hns hdeployment]
  rfl

/-- **The reviews of a round are in order**, whoever is asked. -/
theorem collectReviews_inOrder (hc : Deterministic panel c)
    (hconf : 0 ≤ diagnosis.confidence ∧ diagnosis.confidence ≤ 1)
    (hns : Text.isBlank action.ns = false) (hdeployment : Text.isBlank action.deployment = false)
    {runId : String} {roundIndex : ℕ} {d : SupervisionDecision}
    (hd : d.proposedAction = some action) (reviewers : List String) {reviews : List PeerReview}
    (hreviews : ∀ r ∈ reviews, InOrder panel evidence action r) :
    Yields c (c.collectReviews runId roundIndex d diagnosis evidence reviewers reviews)
      fun result => ∃ all, result = .ok all ∧ ∀ r ∈ all, InOrder panel evidence action r := by
  induction reviewers generalizing reviews with
  | nil => exact .pure ⟨reviews, rfl, hreviews⟩
  | cons reviewer rest ih =>
      unfold Coordinator.collectReviews
      split
      · exact ih hreviews
      · rename_i adapter hadapter
        have hmem : adapter ∈ c.adapters :=
          List.mem_of_find?_eq_some (Option.eq_some_of_filter_eq_some hadapter)
        have hturn : Yields c (Eff.attempt PyExn.isException
            (c.reviewOnce adapter runId roundIndex d diagnosis evidence)) fun outcome =>
              ∃ r, outcome = .ok (some r) ∧ InOrder panel evidence action r := by
          intro s _
          obtain ⟨r, s₁, hrun, hr⟩ := reviewOnce_inOrder hc hmem hconf hns hdeployment runId
            roundIndex evidence hd s
          refine ⟨fun outcome s' h => ?_, fun e s' h => ?_⟩ <;>
            rcases Eff.run_attempt_cases h with ⟨a, hm, he⟩ | ⟨e', hm, -, he⟩ | ⟨e', hm, -, he⟩ <;>
            rw [hrun] at hm <;> cases hm <;> cases he
          exact ⟨r, rfl, hr⟩
        refine hturn.bind ?_
        rintro - ⟨r, rfl, hr⟩
        refine (Yields.record _).bind fun _ _ => ih ?_
        intro r' hr'
        rcases List.mem_append.1 hr' with h | h
        · exact hreviews r' h
        · obtain rfl := List.mem_singleton.1 h
          exact hr

/-- Copies of one suggestion have its replicas as their least replicas. -/
theorem applyRevisions_eq {s : RecoveryAction} {limit : ℤ} {revisions : List PeerReview}
    (hne : revisions ≠ []) (hall : ∀ r ∈ revisions, r.suggestedAction = some s)
    (hkind : s.kind = action.kind) (hscale : action.kind = .scaleOut)
    (hlimit : s.replicas = some limit) : ∃ notes, applyRevisions action revisions =
      .ok ({ action with replicas := some limit, reason := s.reason }, notes) := by
  have hsuggestions : revisions.filterMap (·.suggestedAction) = revisions.map fun _ => s := by
    rw [List.filterMap_congr hall, ← List.filterMap_eq_map]
    rfl
  have hreplicas : ∀ l : List PeerReview,
      (l.map fun _ => s).mapM (·.replicas) = some (l.map fun _ => limit) := by
    intro l
    induction l with
    | nil => rfl
    | cons r rest ih =>
        rw [List.map_cons, List.mapM_cons, hlimit, ih]
        rfl
  have hmin : ∀ l : List PeerReview, (l.map fun _ => limit).foldl min limit = limit := by
    intro l
    induction l with
    | nil => rfl
    | cons r rest ih => simpa using ih
  obtain ⟨r, rest, rfl⟩ := List.exists_cons_of_ne_nil hne
  unfold applyRevisions
  rw [hsuggestions]
  simp only [List.map_cons]
  have hsame : (s :: rest.map fun _ => s).find? (fun s => !decide (s.kind = action.kind)) =
      none := by
    rw [List.find?_eq_none]
    intro s' hs'
    obtain rfl : s' = s := by
      rcases List.mem_cons.1 hs' with h | h
      · exact h
      · obtain ⟨_, -, h⟩ := List.mem_map.1 h
        exact h.symm
    simp [hkind]
  have hmapM := hreplicas (r :: rest)
  simp only [List.map_cons] at hmapM
  rw [hsame]
  simp only [hscale, if_true, hmapM, hmin]
  exact ⟨_, rfl⟩

/-- **Revisions that the cost adapter asked for are accepted**: the revised action is its
suggestion, which passes the semantic check. -/
theorem reviseAction_eq {revisions : List PeerReview} (hne : revisions ≠ [])
    (hall : ∀ r ∈ revisions, InOrder panel evidence action r ∧ r.verdict = .revise)
    (hsem : actionSemanticError action c.protocol evidence evidence.ns evidence.deployment = "") :
    canRevise panel.costAgent action evidence = true ∧
      ∃ notes, c.reviseAction action revisions evidence =
        .ok (costSuggestion panel.costAgent action, notes) := by
  obtain ⟨r, hr⟩ := List.exists_mem_of_ne_nil revisions hne
  have hcan := ((hall r hr).1.revise (hall r hr).2).2
  obtain ⟨hscale, replicas, -, -, hdesired, -⟩ := canRevise_iff.1 hcan
  have hsuggested : ∀ r ∈ revisions,
      r.suggestedAction = some (costSuggestion panel.costAgent action) :=
    fun r hr => ((hall r hr).1.revise (hall r hr).2).1
  have hkind : (costSuggestion panel.costAgent action).kind = action.kind := rfl
  obtain ⟨notes, happly⟩ := applyRevisions_eq hne hsuggested hkind hscale rfl
  obtain ⟨htarget, hspace, -⟩ := actionSemanticError_eq_empty.1 hsem
  have hrevised : actionSemanticError (costSuggestion panel.costAgent action) c.protocol evidence
      evidence.ns evidence.deployment = "" :=
    actionSemanticError_eq_empty.2 ⟨htarget, hspace, fun _ => ⟨_, rfl, hdesired⟩⟩
  refine ⟨hcan, notes, ?_⟩
  unfold Coordinator.reviseAction
  rw [happly]
  show (if actionSemanticError (costSuggestion panel.costAgent action) c.protocol evidence
    evidence.ns evidence.deployment = "" then _ else _) = _
  rw [if_pos hrevised]
  rfl

/-- A round that was added to the trace of a negotiation, about the action. -/
def RoundAdded (t t' : NegotiationTrace) (action : RecoveryAction) (status : ConsensusStatus) :
    Prop :=
  ∃ d round, t'.decisions = t.decisions ++ [d] ∧ t'.rounds = t.rounds ++ [round] ∧
    d.proposedAction = some action ∧ round.inputDecisionIds = [d.decisionId] ∧
    round.consensusStatus = status

/-- **How a round ends**: it approves the action, rejects it, or replaces it by the suggestion
of the cost adapter. -/
def RoundLaw (panel : Panel) (evidence : EvidenceSnapshot) (action : RecoveryAction)
    (t : NegotiationTrace) : RoundOutcome → Prop
  | .settled selected t' =>
    RoundAdded t t' action .approved ∧ selected = some action ∨
      RoundAdded t t' action .rejected ∧ selected = none
  | .revised revised t' =>
    RoundAdded t t' action .revisionRequired ∧ revised = costSuggestion panel.costAgent action ∧
      canRevise panel.costAgent action evidence = true
  | .failed _ _ => False

/-- The revisions of the resolver are reviews of the round. -/
theorem mem_revisions_resolve {sum : List PyFloat → PyFloat} {p : ResearchProtocolProfile}
    {reviews : List PeerReview} {scopes : List String} {r : PeerReview}
    (h : r ∈ (ConsensusResolver.resolve sum p reviews scopes).revisions) :
    r ∈ reviews ∧ r.verdict = .revise := by
  have hrevisions : (ConsensusResolver.resolve sum p reviews scopes).revisions =
      ((ConsensusResolver.orderReviews p reviews).filter
        (ConsensusResolver.isEnabledReviewer p)).filter (·.verdict == .revise) := by
    unfold ConsensusResolver.resolve
    cases p.consensusStrategy <;> rfl
  rw [hrevisions] at h
  obtain ⟨h, hrevise⟩ := List.mem_filter.1 h
  exact ⟨ConsensusResolver.mem_orderReviews.1 (List.mem_filter.1 h).1, by simpa using hrevise⟩

/-- The second half of a round, on reviews that are in order. -/
theorem resolveRound_law {runId : String} {roundIndex : ℕ} {d : SupervisionDecision}
    {reviews : List PeerReview} {t₀ t : NegotiationTrace} (hd : d.proposedAction = some action)
    (hdecisions : t.decisions = t₀.decisions ++ [d]) (hrounds : t.rounds = t₀.rounds)
    (hreviews : ∀ r ∈ reviews, InOrder panel evidence action r)
    (hsem : actionSemanticError action c.protocol evidence evidence.ns evidence.deployment = "") :
    Yields c (c.resolveRound runId roundIndex d action evidence reviews t)
      (RoundLaw panel evidence action t₀) := by
  have hadded : ∀ round : NegotiationRound, round.inputDecisionIds = [d.decisionId] →
      RoundAdded t₀ { t with rounds := t.rounds ++ [round] } action round.consensusStatus :=
    fun round hinput => ⟨d, round, hdecisions, by rw [hrounds], hd, hinput, rfl⟩
  unfold Coordinator.resolveRound
  dsimp only
  split
  · exact (Yields.record _).bind fun _ _ => .pure (.inr ⟨hadded _ rfl, rfl⟩)
  · split
    · rename_i hrevisions
      obtain ⟨hcan, notes, hrevise⟩ := reviseAction_eq (c := c) hrevisions
        (fun r hr => ⟨hreviews r (mem_revisions_resolve hr).1, (mem_revisions_resolve hr).2⟩) hsem
      rw [hrevise]
      exact (Yields.record _).bind fun _ _ => .pure ⟨hadded _ rfl, rfl, hcan⟩
    · refine (Yields.newTraceId _).bind fun _ _ => ?_
      exact (Yields.record _).bind fun _ _ => .pure (.inl ⟨hadded _ rfl, rfl⟩)

/-- **How a round of the negotiation ends.** -/
theorem negotiateRound_law (hc : Deterministic panel c)
    (hconf : 0 ≤ diagnosis.confidence ∧ diagnosis.confidence ≤ 1)
    (hns : Text.isBlank action.ns = false) (hdeployment : Text.isBlank action.deployment = false)
    (hsem : actionSemanticError action c.protocol evidence evidence.ns evidence.deployment = "")
    {runId proposalAgent : String} {candidates : List Supervision.RecoveryActionCandidate}
    {roundIndex : ℕ} {t : NegotiationTrace} :
    Yields c (c.negotiateRound runId proposalAgent diagnosis evidence candidates roundIndex action
      t) (RoundLaw panel evidence action t) := by
  unfold Coordinator.negotiateRound
  refine (Yields.newTraceId _).bind fun decisionId _ => ?_
  refine (Yields.record _).bind fun _ _ => ?_
  refine (collectReviews_inOrder hc hconf hns hdeployment rfl _ (by simp)).bind ?_
  rintro - ⟨reviews, rfl, hreviews⟩
  exact resolveRound_law rfl rfl rfl hreviews hsem

end Round

/-! ### The negotiation -/

/-- **A negotiation that converged**: at most two rounds, of which the last one approves or
rejects the action of its decision; and where a round asked for a revision, that action asks
for exactly the limit of the cost agent, above the observed desired replicas. -/
def Converged (agent : CostAgent) (evidence : EvidenceSnapshot) : NegotiationOutcome → Prop
  | .failed _ _ => False
  | .settled selected t =>
    t.rounds.length ≤ 2 ∧ ∃ d round action, t.decisions.getLast? = some d ∧
      t.rounds.getLast? = some round ∧ round.inputDecisionIds = [d.decisionId] ∧
      d.proposedAction = some action ∧
      (round.consensusStatus = .approved ∧ selected = some action ∨
        round.consensusStatus = .rejected ∧ selected = none) ∧
      ((∃ r ∈ t.rounds, r.consensusStatus = .revisionRequired) →
        action.replicas = some agent.maxCostSafeReplicas ∧
          evidence.desiredReplicas < agent.maxCostSafeReplicas)

/-- A round that settles ends a negotiation of at most one earlier round. -/
theorem converged_of_settled {panel : Panel} {evidence : EvidenceSnapshot}
    {action : RecoveryAction} {t t' : NegotiationTrace} {selected : Option RecoveryAction}
    (h : RoundLaw panel evidence action t (.settled selected t')) (hlength : t.rounds.length ≤ 1)
    (hrevised : (∃ r ∈ t.rounds, r.consensusStatus = .revisionRequired) →
      action.replicas = some panel.costAgent.maxCostSafeReplicas ∧
        evidence.desiredReplicas < panel.costAgent.maxCostSafeReplicas) :
    Converged panel.costAgent evidence (.settled selected t') := by
  have hboth : ∀ status, RoundAdded t t' action status → status ≠ .revisionRequired →
      (status = .approved ∧ selected = some action ∨ status = .rejected ∧ selected = none) →
      Converged panel.costAgent evidence (.settled selected t') := by
    rintro status ⟨d, round, hdecisions, hrounds, hd, hinput, rfl⟩ hstatus hselected
    refine ⟨?_, d, round, action, by simp [hdecisions], by simp [hrounds], hinput, hd, hselected, ?_⟩
    · rw [hrounds, List.length_append, List.length_singleton]
      omega
    · rintro ⟨r, hr, hrequired⟩
      rw [hrounds, List.mem_append, List.mem_singleton] at hr
      rcases hr with hr | rfl
      · exact hrevised ⟨r, hr, hrequired⟩
      · exact absurd hrequired hstatus
  rcases h with ⟨hadded, hselected⟩ | ⟨hadded, hselected⟩
  · exact hboth _ hadded nofun (.inl ⟨rfl, hselected⟩)
  · exact hboth _ hadded nofun (.inr ⟨rfl, hselected⟩)

/-- What `run` establishes before it negotiates: the diagnosis and the proposed action went
through their checks. -/
structure Presented (diagnosis : Diagnosis) (action : RecoveryAction) : Prop where
  diagnosed : ∃ name result stamp refs service decision,
    normalizeDiagnosisOutput name result stamp refs service = .ok (diagnosis, decision)
  proposed : ∃ name result actions,
    normalizeProposalOutput name result = .ok actions ∧ action ∈ actions

/-- The confidence of a checked diagnosis. -/
theorem Presented.confidence_mem {diagnosis : Diagnosis} {action : RecoveryAction}
    (h : Presented diagnosis action) : 0 ≤ diagnosis.confidence ∧ diagnosis.confidence ≤ 1 := by
  obtain ⟨name, result, stamp, refs, service, decision, h⟩ := h.diagnosed
  obtain ⟨⟨_, _⟩, -, h⟩ := bind_eq_ok h
  obtain ⟨_, -, h⟩ := bind_eq_ok h
  obtain ⟨_, -, h⟩ := bind_eq_ok h
  obtain ⟨_, -, h⟩ := bind_eq_ok h
  obtain ⟨confidence, hconf, h⟩ := bind_eq_ok h
  iterate 8 obtain ⟨_, -, h⟩ := bind_eq_ok h
  cases h
  obtain ⟨x, -, hconf⟩ := bind_eq_ok hconf
  split at hconf
  · split at hconf
    · cases hconf
      assumption
    · cases hconf
  · cases hconf

/-- A checked text is not blank. -/
theorem requireOutputText_ok {value : PyValue} {label s : String}
    (h : requireOutputText value label = .ok s) : Text.isBlank s = false := by
  unfold requireOutputText at h
  split at h
  · split at h
    · cases h
    · cases h
      exact Bool.eq_false_iff.2 ‹_›
  · cases h

/-- The target of a checked action is named. -/
theorem Presented.target {diagnosis : Diagnosis} {action : RecoveryAction}
    (h : Presented diagnosis action) :
    Text.isBlank action.ns = false ∧ Text.isBlank action.deployment = false := by
  obtain ⟨name, result, actions, h, hmem⟩ := h.proposed
  have hchecked : ∃ raw, validateRecoveryActionOutput name raw = .ok action := by
    unfold normalizeProposalOutput at h
    split at h
    · cases h
      cases hmem
    · cases h
    · obtain ⟨items, -, h⟩ := bind_eq_ok h
      obtain ⟨raw, -, hraw⟩ := exists_of_mem_mapM h hmem
      exact ⟨raw, hraw⟩
  obtain ⟨raw, hraw⟩ := hchecked
  obtain ⟨ns, hns, hraw⟩ := bind_eq_ok hraw
  obtain ⟨deployment, hdeployment, hraw⟩ := bind_eq_ok hraw
  iterate 3 obtain ⟨_, -, hraw⟩ := bind_eq_ok hraw
  cases hraw
  exact ⟨requireOutputText_ok hns, requireOutputText_ok hdeployment⟩

/-- **A negotiation of the deterministic adapters converges**: from any state it decides within
two rounds or raises what the event store raises. -/
theorem negotiate_converges {panel : Panel} {c : Coordinator σ} (hc : Deterministic panel c)
    (hrounds : 2 ≤ c.protocol.maxNegotiationRounds) {runId : String} {diagnosis : Diagnosis}
    {evidence : EvidenceSnapshot} {candidate : Supervision.RecoveryActionCandidate}
    {candidates : List Supervision.RecoveryActionCandidate} {roundOffset : ℕ}
    (hpresented : Presented diagnosis candidate.action)
    (hsem : actionSemanticError candidate.action c.protocol evidence evidence.ns
      evidence.deployment = "") :
    Yields c (c.negotiate runId diagnosis evidence (candidate :: candidates) roundOffset)
      (Converged panel.costAgent evidence) := by
  obtain ⟨hns, hdeployment⟩ := hpresented.target
  have hconf := hpresented.confidence_mem
  obtain ⟨proposer, hproposer⟩ : ∃ a, c.singleAdapterFor "propose" = some a := by
    obtain ⟨a, ha, happlication⟩ := hc.proposes
    refine Option.isSome_iff_exists.1 (List.find?_isSome.2 ⟨a, ha, ?_⟩)
    rw [happlication.capabilities_eq]
    decide
  obtain ⟨left, hleft⟩ : ∃ left, c.protocol.maxNegotiationRounds = left + 2 :=
    ⟨_, (Nat.sub_add_cancel hrounds).symm⟩
  unfold Coordinator.negotiate
  rw [hproposer]
  dsimp only
  rw [hleft]
  unfold Coordinator.negotiateLoop
  refine (negotiateRound_law hc hconf hns hdeployment hsem).bind fun outcome hlaw => ?_
  cases outcome with
  | failed text t => exact hlaw.elim
  | settled selected t => exact .pure (converged_of_settled hlaw (by simp) (by simp))
  | revised revised t =>
      obtain ⟨⟨d, round, -, hround, -⟩, rfl, hcan⟩ := hlaw
      obtain ⟨-, replicas, -, -, hdesired, -⟩ := canRevise_iff.1 hcan
      obtain ⟨htarget, hspace, -⟩ := actionSemanticError_eq_empty.1 hsem
      have hsem' : actionSemanticError (costSuggestion panel.costAgent candidate.action) c.protocol
          evidence evidence.ns evidence.deployment = "" :=
        actionSemanticError_eq_empty.2 ⟨htarget, hspace, fun _ => ⟨_, rfl, hdesired⟩⟩
      dsimp only
      unfold Coordinator.negotiateLoop
      have hns' : Text.isBlank (costSuggestion panel.costAgent candidate.action).ns = false := hns
      refine (negotiateRound_law hc hconf hns' hdeployment hsem').bind fun outcome hlaw => ?_
      cases outcome with
      | failed text t => exact hlaw.elim
      | settled selected t' =>
          refine .pure (converged_of_settled hlaw ?_ fun _ => ⟨rfl, hdesired⟩)
          rw [hround]
          rfl
      | revised revised t' =>
          have hagain := hlaw.2.2
          rw [canRevise_costSuggestion] at hagain
          cases hagain

/-! ### A negotiation with a revision -/

/-- The limits of a small deployment. -/
def webPanel : Panel := ⟨"ha", "application", ⟨"infra", 5⟩, ⟨"cost", 3⟩⟩

/-- An adapter that only reviews. -/
def reviewing (name : String) (capabilities : List String)
    (review : SupervisionDecision → EvidenceSnapshot → ReviewContext → Option PeerReview) :
    AgentAdapter Unit where
  name
  runtime := "deterministic"
  capabilities
  beginRun _ _ := pure ()
  diagnose _ _ _ := pure .other
  propose _ _ := pure .nothing
  review decision evidence context := pure (toRawReply (review decision evidence context))
  postReview _ _ _ := pure .nothing

theorem weight_one_nonneg : (0 : ℚ) ≤ 1 := by norm_num

/-- A profile in which the HA agent outweighs the other two reviewers. -/
def weightedProfile : ResearchProtocolProfile where
  profileId := "weighted"
  version := "1"
  agents :=
    [⟨"ha", "deterministic-ha", "deterministic", true, ["availability"], 2,
        ["diagnose", "review", "post_review"], by norm_num⟩,
      ⟨"application", "deterministic-application", "deterministic", true, ["executability"], 1,
        ["propose", "review", "post_review"], weight_one_nonneg⟩,
      ⟨"infra", "deterministic-infrastructure", "deterministic", true, ["capacity"], 1,
        ["review", "post_review"], weight_one_nonneg⟩,
      ⟨"cost", "deterministic-cost", "deterministic", true, ["budget"], 1,
        ["review", "post_review"], weight_one_nonneg⟩]
  reviewMatrix := [("application", ["ha", "infra", "cost"])]
  consensusStrategy := .weightedMajority
  maxNegotiationRounds := 3
  maxReplanAttempts := 1
  fallbackAction := .observeOnly
  humanReviewOnFailure := true
  actionSpace := [.observeOnly, .rolloutRestart, .scaleOut]
  rewardWeights := [("recovery", 1)]
  experimentTags := []
  configHash := ""
  names_nodup := by decide
  rounds_pos := by decide
  fallback_observes := rfl
  review_on_failure := rfl
  no_self_review := by decide

/-- The coordinator of the four agents. -/
def panelCoordinator : Coordinator Unit where
  validator := ⟨["prod"], ["web"], 1, 5⟩
  collect _ _ := Eff.raise ⟨.other, "no cluster"⟩
  assess _ _ _ _ := pure ⟨false, 0, "unknown", 1, true⟩
  executeRecovery _ := pure (emptyResult "mock" "no cluster")
  mode := .mock
  backend := .python
  eventStore := none
  acquireLock _ _ := pure ()
  releaseLock _ _ := pure ()
  operationLockOwnedExternally := false
  runtimeControl := none
  sum := PyFloat.compensated
  protocol := weightedProfile
  adapters :=
    [reviewing "ha" ["diagnose", "review", "post_review"] (haReview "ha"),
      reviewing "application" ["propose", "review", "post_review"] (applicationReview "application"),
      reviewing "infra" ["review", "post_review"] (infrastructureReview ⟨"infra", 5⟩),
      reviewing "cost" ["review", "post_review"] (costReview ⟨"cost", 3⟩)]
  registered := by decide

theorem deterministic_panelCoordinator : Deterministic webPanel panelCoordinator := by
  have happlication : IsApplicationAdapter webPanel (reviewing "application"
      ["propose", "review", "post_review"] (applicationReview "application")) :=
    ⟨rfl, rfl, fun _ _ _ => rfl⟩
  constructor
  · intro a ha
    simp only [panelCoordinator, List.mem_cons, List.not_mem_nil, or_false] at ha
    rcases ha with rfl | rfl | rfl | rfl
    · exact .inl ⟨rfl, rfl, fun _ _ _ => rfl⟩
    · exact .inr (.inl happlication)
    · exact .inr (.inr (.inl ⟨rfl, rfl, fun _ _ _ => rfl⟩))
    · exact .inr (.inr (.inr ⟨rfl, rfl, fun _ _ _ => rfl⟩))
  · exact ⟨_, .tail _ (.head _), happlication⟩

/-- A deployment of one replica. -/
def webEvidence : EvidenceSnapshot where
  ns := "prod"
  deployment := "web"
  metricValues := [("cpu", 95)]
  desiredReplicas := 1
  availableReplicas := 1
  restartCount := 0
  podStatuses := ["Running"]
  podIdentities := []
  events := []
  latencyMs := none
  errorRate := none
  logSummary := ""
  source := "fake"

/-- A saturated deployment. -/
def webDiagnosis : Diagnosis := ⟨"web", "cpu_saturation", "critical", 1, []⟩

/-- A scale-out above every limit. -/
def overCapacity : Supervision.RecoveryActionCandidate :=
  ⟨⟨"prod", "web", .scaleOut, some 9, "saturated"⟩, 1, 1⟩

/-- The replicas of the selected action and the status of each round. -/
def summary : Except PyExn NegotiationOutcome → Option (Option ℤ × List ConsensusStatus)
  | .ok (.settled (some action) t) => some (action.replicas, t.rounds.map (·.consensusStatus))
  | _ => none

/-- What the HA adapter returned. -/
def webDiagnosed : RawDiagnosisOutput :=
  .pair ⟨.ofText "web", .ofText "cpu_saturation", .ofText "critical", .ofNumber 1, some []⟩
    ⟨.ofText "ha", .ofText "ha_diagnosis", false, .data (.bool true), .ofText "saturated",
      .ofNumber 1, .ofNumber 1⟩

/-- The HA agent outvotes the veto of the infrastructure agent, the revision of the cost agent
is applied, and the second round approves the limit of the cost agent. -/
theorem negotiate_converges_overCapacity :
    Yields panelCoordinator
        (panelCoordinator.negotiate "run" webDiagnosis webEvidence [overCapacity] 0)
        (Converged ⟨"cost", 3⟩ webEvidence) ∧
      summary ((panelCoordinator.negotiate "run" webDiagnosis webEvidence [overCapacity] 0).run
        (.start ())).1 = some (some 3, [.revisionRequired, .approved]) := by
  have hdiagnosed : ∃ decision, normalizeDiagnosisOutput "ha" webDiagnosed ⟨"", "", 0, ""⟩ [] "web" =
      .ok (webDiagnosis, decision) := by
    unfold normalizeDiagnosisOutput webDiagnosed
    exact ⟨⟨"", "", 0, "ha", "ha_diagnosis", none, true, "saturated", 1, [], 1, ""⟩, rfl⟩
  obtain ⟨decision, hdecision⟩ := hdiagnosed
  have hpresented : Presented webDiagnosis overCapacity.action :=
    ⟨⟨_, _, _, _, _, decision, hdecision⟩, "application",
      .sequence [some (toRawAction overCapacity.action)], _, rfl, .head _⟩
  refine ⟨negotiate_converges deterministic_panelCoordinator (by decide) hpresented (by decide), ?_⟩
  decide +kernel

end Agents
end AiopsK8s
