/-
# Protocol profiles

`research_protocol.py`.  `validate_semantics` runs on every profile before the
coordinator is built from it, and a profile is frozen, so the facts it checks
are fields of `ResearchProtocolProfile`: a profile that breaks one cannot be
written down, and the later calls of `validate_integrity` cannot raise.
-/

import Mathlib.Data.List.Basic
import AiopsK8s.Supervision.Models

namespace AiopsK8s
namespace Supervision

/-- `ConsensusStrategy`. -/
inductive ConsensusStrategy where
  | roleBasedVeto
  | unanimousVeto
  | weightedMajority
  deriving DecidableEq, Repr

/-- `ConsensusStrategy.value`. -/
def ConsensusStrategy.value : ConsensusStrategy → String
  | roleBasedVeto => "role_based_veto"
  | unanimousVeto => "unanimous_veto"
  | weightedMajority => "weighted_majority"

/-- `ProtocolAgentBinding`. -/
structure ProtocolAgentBinding where
  name : String
  implementationId : String
  runtime : String
  enabled : Bool
  vetoScopes : List String
  consensusWeight : ℚ
  capabilities : List String
  weight_nonneg : 0 ≤ consensusWeight

/-- `ResearchProtocolProfile`, with what `validate_semantics` establishes and a
run rests on. -/
structure ResearchProtocolProfile where
  profileId : String
  version : String
  agents : List ProtocolAgentBinding
  reviewMatrix : List (String × List String)
  consensusStrategy : ConsensusStrategy
  maxNegotiationRounds : ℕ
  maxReplanAttempts : ℕ
  fallbackAction : RecoveryActionKind
  humanReviewOnFailure : Bool
  actionSpace : List RecoveryActionKind
  rewardWeights : List (String × ℚ)
  experimentTags : List String
  configHash : String
  names_nodup : (agents.map (·.name)).Nodup
  rounds_pos : 1 ≤ maxNegotiationRounds
  fallback_observes : fallbackAction = .observeOnly
  review_on_failure : humanReviewOnFailure = true
  no_self_review : ∀ e ∈ reviewMatrix, e.1 ∉ e.2

namespace ResearchProtocolProfile

/-- `enabled_agents`. -/
def enabledAgents (p : ResearchProtocolProfile) : List ProtocolAgentBinding :=
  p.agents.filter (·.enabled)

/-- `bindings.get(name)` of the resolver: the binding of that name. -/
def binding? (p : ResearchProtocolProfile) (name : String) : Option ProtocolAgentBinding :=
  p.agents.find? (·.name == name)

end ResearchProtocolProfile

/-- `_protocol_identity`. -/
structure ProtocolIdentity where
  profileId : String
  version : String
  configHash : String
  deriving DecidableEq, Repr

/-- The identity of a profile. -/
def ResearchProtocolProfile.identity (p : ResearchProtocolProfile) : ProtocolIdentity :=
  ⟨p.profileId, p.version, p.configHash⟩

end Supervision
end AiopsK8s
