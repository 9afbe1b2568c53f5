/-
# Directives of a replanning

`RepartitionDirective` of `partition_feedback`: what a replanning leaves out.  A directive is merged
with a newer one (`merge`): the exclusions of both are united, and the memory limit of a device is
that of the newer where both state one.  So a merge weakens a directive exactly where the newer
limit of a device is the higher one (`merge_faithful_iff`).

`.key` is the `LookupError` of an index that a sequence does not have.
-/

import AiopsK8s.Lib.Sorting
import AiopsK8s.Partition.Accounting
import AiopsK8s.Partition.Optimality
import Mathlib.Data.List.Lex
import Mathlib.Data.Prod.Lex

namespace AiopsK8s
namespace Partition

open Effect Sorting

/-- `RepartitionDirective`. -/
@[ext]
structure RepartitionDirective where
  exclusionType : String
  excludedDevices : List String
  excludedLinks : List (String × String)
  excludedSplits : List (List ℤ)
  excludedCandidateSplits : List (List ℤ)
  memoryLimits : List (String × ℤ)
  errors : List String
  deriving DecidableEq

namespace RepartitionDirective

/-! ### Documents -/

section Documents

variable (rt : Runtime)

/-- `for item in value`. -/
def iterate : Json → Except PartitionError (List Json)
  | .arr items => .ok items
  | .str s => .ok (s.toList.map fun c => .str (String.singleton c))
  | .obj fields => .ok (fields.map fun f => .str f.1)
  | _ => .error .type

/-- `str(value)`. -/
def textOf (value : Json) : Except PartitionError String :=
  if value.hasLongInteger then .error .value else .ok (rt.toPython.str value)

/-- `int(value)`. -/
def intOf : Json → Except PartitionError ℤ
  | .int i => .ok i
  | .bool b => .ok (if b then 1 else 0)
  | .float (.finite q) => .ok (q.num.tdiv q.den)
  | .float .nan => .error .value
  | .float _ => .error .overflow
  | .str s =>
      match rt.intOfText s with
      | some i => .ok i
      | none => .error .value
  | _ => .error .type

/-- `value[index]`. -/
def item (value : Json) (index : ℕ) : Except PartitionError Json :=
  match value with
  | .arr items =>
      match items[index]? with
      | some item => .ok item
      | none => .error .key
  | .str s =>
      match s.toList[index]? with
      | some c => .ok (.str (String.singleton c))
      | none => .error .key
  | .obj _ => .error .key
  | _ => .error .type

/-- `(str(link[0]), str(link[1]))`. -/
def linkOf (link : Json) : Except PartitionError (String × String) := do
  let source ← textOf rt (← item link 0)
  let target ← textOf rt (← item link 1)
  return (source, target)

/-- `(str(device_id), int(limit))` of `device_id, limit = value`. -/
def limitOf (value : Json) : Except PartitionError (String × ℤ) := do
  match ← iterate value with
  | [deviceId, limit] => do
      let name ← textOf rt deviceId
      let bytes ← intOf rt limit
      return (name, bytes)
  | _ => .error .value

/-- `tuple(int(point) for point in split)`. -/
def splitOf (split : Json) : Except PartitionError (List ℤ) := do
  (← iterate split).mapM (intOf rt)

/-- `splits`. -/
def splits (payload : List (String × Json)) (name : String) :
    Except PartitionError (List (List ℤ)) :=
  match Json.getD payload name (.arr []) with
  | .arr values => values.mapM (splitOf rt)
  | _ => .error (.contract "invalid_feedback_directive" s!"{name} must be a list")

/-- `RepartitionDirective.from_dict`. -/
def fromDict (payload : List (String × Json)) : Except PartitionError RepartitionDirective := do
  let exclusionType ← stripped rt.toPython (Json.get payload "exclusion_type")
  let devices ← (← iterate (Json.getD payload "excluded_devices" (.arr []))).mapM (textOf rt)
  let links ← (← iterate (Json.getD payload "excluded_links" (.arr []))).mapM (linkOf rt)
  let splitPoints ← splits rt payload "excluded_splits"
  let candidateSplits ← splits rt payload "excluded_candidate_splits"
  let limits ← (← iterate (Json.getD payload "memory_limits" (.arr []))).mapM (limitOf rt)
  let errors ← (← iterate (Json.getD payload "errors" (.arr []))).mapM (textOf rt)
  return {
    exclusionType := if exclusionType.1 = "" then "none" else exclusionType.1
    excludedDevices := devices
    excludedLinks := links
    excludedSplits := splitPoints
    excludedCandidateSplits := candidateSplits
    memoryLimits := limits
    errors := errors }

end Documents

/-- `RepartitionDirective.to_dict`. -/
def toDict (d : RepartitionDirective) : List (String × Json) :=
  [("exclusion_type", .str d.exclusionType), ("excluded_devices", .texts d.excludedDevices),
    ("excluded_links", .ofList (fun link => .arr [.str link.1, .str link.2]) d.excludedLinks),
    ("excluded_splits", .ofList (.ofList .int) d.excludedSplits),
    ("excluded_candidate_splits", .ofList (.ofList .int) d.excludedCandidateSplits),
    ("memory_limits", .ofList (fun limit => .arr [.str limit.1, .int limit.2]) d.memoryLimits),
    ("errors", .texts d.errors)]

/-! ### Merging -/

/-- `RepartitionDirective.merge`. -/
def merge (d newer : RepartitionDirective) : RepartitionDirective where
  exclusionType := newer.exclusionType
  excludedDevices := sortedSet id (d.excludedDevices ++ newer.excludedDevices)
  excludedLinks := sortedSet toLex (d.excludedLinks ++ newer.excludedLinks)
  excludedSplits := sortedSet id (d.excludedSplits ++ newer.excludedSplits)
  excludedCandidateSplits :=
    sortedSet id (d.excludedCandidateSplits ++ newer.excludedCandidateSplits)
  memoryLimits := (Dict.update (Dict.ofEntries d.memoryLimits)
    (Dict.ofEntries newer.memoryLimits)).insertionSort fun a b => toLex a ≤ toLex b
  errors := sortedSet id (d.errors ++ newer.errors)

/-- What `_replan` reads of a directive. -/
def exclusions (d : RepartitionDirective) : Exclusions where
  excludedDevices := d.excludedDevices
  excludedLinks := d.excludedLinks
  excludedSplits := d.excludedSplits ++ d.excludedCandidateSplits
  memoryLimits := Dict.ofEntries d.memoryLimits

/-! ### Reading a directive back -/

section RoundTrip

variable (rt : Runtime)

theorem textOf_str (s : String) : textOf rt (.str s) = .ok s := rfl

theorem linkOf_pair (link : String × String) :
    linkOf rt (.arr [.str link.1, .str link.2]) = .ok link := rfl

theorem limitOf_pair (limit : String × ℤ) :
    limitOf rt (.arr [.str limit.1, .int limit.2]) = .ok limit := rfl

theorem splitOf_points (points : List ℤ) : splitOf rt (.ofList .int points) = .ok points :=
  mapM_map_ok fun _ _ => rfl

theorem stripped_str (py : Python) (s : String) :
    ∃ r, stripped py (.str s) = .ok r ∧ r.1 = Text.strip s :=
  ⟨_, rfl, strippedText_str py s⟩

/-- The type that is read from a text. -/
def typeRead (s : String) : String := if Text.strip s = "" then "none" else Text.strip s

/-- **What the document of a directive is read into**: the type of the exclusion is trimmed, and an
empty one is `none`. -/
theorem fromDict_toDict (d : RepartitionDirective) :
    fromDict rt d.toDict = .ok { d with exclusionType := typeRead d.exclusionType } := by
  obtain ⟨r, hr, hval⟩ := stripped_str rt.toPython d.exclusionType
  have htype : stripped rt.toPython (Json.get d.toDict "exclusion_type") = .ok r := hr
  have hdevices : (d.excludedDevices.map Json.str).mapM (textOf rt) = .ok d.excludedDevices :=
    mapM_map_ok fun s _ => textOf_str rt s
  have hlinks : (d.excludedLinks.map fun link => Json.arr [.str link.1, .str link.2]).mapM
      (linkOf rt) = .ok d.excludedLinks := mapM_map_ok fun link _ => linkOf_pair rt link
  have hsplits : (d.excludedSplits.map (Json.ofList .int)).mapM (splitOf rt)
      = .ok d.excludedSplits := mapM_map_ok fun points _ => splitOf_points rt points
  have hcandidates : (d.excludedCandidateSplits.map (Json.ofList .int)).mapM (splitOf rt)
      = .ok d.excludedCandidateSplits := mapM_map_ok fun points _ => splitOf_points rt points
  have hlimits : (d.memoryLimits.map fun limit => Json.arr [.str limit.1, .int limit.2]).mapM
      (limitOf rt) = .ok d.memoryLimits := mapM_map_ok fun limit _ => limitOf_pair rt limit
  have herrors : (d.errors.map Json.str).mapM (textOf rt) = .ok d.errors :=
    mapM_map_ok fun s _ => textOf_str rt s
  have hd : Json.getD d.toDict "excluded_devices" (.arr []) = .arr (d.excludedDevices.map .str) :=
    rfl
  have hl : Json.getD d.toDict "excluded_links" (.arr [])
      = .arr (d.excludedLinks.map fun link => .arr [.str link.1, .str link.2]) := rfl
  have hm : Json.getD d.toDict "memory_limits" (.arr [])
      = .arr (d.memoryLimits.map fun limit => .arr [.str limit.1, .int limit.2]) := rfl
  have he : Json.getD d.toDict "errors" (.arr []) = .arr (d.errors.map .str) := rfl
  have hs : splits rt d.toDict "excluded_splits" = .ok d.excludedSplits := hsplits
  have hc : splits rt d.toDict "excluded_candidate_splits" = .ok d.excludedCandidateSplits :=
    hcandidates
  simp only [fromDict, htype, hd, hl, hm, he, hs, hc, iterate, hdevices, hlinks, hlimits, herrors,
    hval, bind, Except.bind]
  rfl

/-- **A directive is read back exactly where its type is trimmed and not empty.** -/
theorem fromDict_toDict_eq_iff (d : RepartitionDirective) :
    fromDict rt d.toDict = .ok d ↔ Text.Proper d.exclusionType := by
  rw [fromDict_toDict, Except.ok.injEq]
  constructor
  · intro h
    have htype : typeRead d.exclusionType = d.exclusionType := congrArg exclusionType h
    unfold typeRead at htype
    split_ifs at htype with hempty
    · rw [← htype] at hempty
      exact absurd hempty (by decide)
    · exact ⟨htype, fun hnil => hempty (htype.trans hnil)⟩
  · intro h
    have hne : ¬Text.strip d.exclusionType = "" := by
      rw [h.strip_eq]
      exact h.ne_empty
    rw [typeRead, if_neg hne, h.strip_eq]

end RoundTrip

/-! ### Exclusions -/

variable (a b c : RepartitionDirective)

/-- What either directive excludes, the merged one excludes. -/
structure Excludes (d e : RepartitionDirective) : Prop where
  devices : ∀ device ∈ e.excludedDevices, device ∈ d.excludedDevices
  links : ∀ link ∈ e.excludedLinks, link ∈ d.excludedLinks
  splits : ∀ split ∈ e.exclusions.excludedSplits, split ∈ d.exclusions.excludedSplits

theorem merge_excludes : (a.merge b).Excludes a ∧ (a.merge b).Excludes b := by
  refine ⟨⟨?_, ?_, ?_⟩, ⟨?_, ?_, ?_⟩⟩ <;> intro x hx <;>
    simp only [merge, exclusions, mem_sortedSet, List.mem_append] at hx ⊢ <;> tauto

/-- The exclusions of two directives are the same sets. -/
structure SameExclusions (d e : RepartitionDirective) : Prop where
  devices : ∀ device, device ∈ d.excludedDevices ↔ device ∈ e.excludedDevices
  links : ∀ link, link ∈ d.excludedLinks ↔ link ∈ e.excludedLinks
  splits : ∀ split, split ∈ d.excludedSplits ↔ split ∈ e.excludedSplits
  candidateSplits : ∀ split, split ∈ d.excludedCandidateSplits ↔ split ∈ e.excludedCandidateSplits

theorem merge_idempotent : (a.merge a).SameExclusions a := by
  refine ⟨?_, ?_, ?_, ?_⟩ <;> intro x <;>
    simp only [merge, mem_sortedSet, List.mem_append, or_self]

/-- The exclusions of two directives are the same tuples. -/
structure EqualExclusions (d e : RepartitionDirective) : Prop where
  devices : d.excludedDevices = e.excludedDevices
  links : d.excludedLinks = e.excludedLinks
  splits : d.excludedSplits = e.excludedSplits
  candidateSplits : d.excludedCandidateSplits = e.excludedCandidateSplits

/-- Uniting sorted sets is associative. -/
theorem sortedSet_assoc {α β : Type} [DecidableEq α] [LinearOrder β] {key : α → β}
    (hkey : Function.Injective key) (l m n : List α) :
    sortedSet key (sortedSet key (l ++ m) ++ n) = sortedSet key (l ++ sortedSet key (m ++ n)) := by
  refine sortedSet_congr hkey fun x => ?_
  simp only [List.mem_append, mem_sortedSet, or_assoc]

theorem merge_assoc : ((a.merge b).merge c).EqualExclusions (a.merge (b.merge c)) :=
  ⟨sortedSet_assoc Function.injective_id _ _ _, sortedSet_assoc toLex.injective _ _ _,
    sortedSet_assoc Function.injective_id _ _ _, sortedSet_assoc Function.injective_id _ _ _⟩

end RepartitionDirective

namespace ModelPartitionOrchestrationAgent

/-! ### What a memory limit rejects -/

/-- The reason of a demand above a memory limit. -/
def notImproved (deviceId : String) : String := s!"memory_replan_not_improved:{deviceId}"

/-- A candidate is rejected by a memory limit. -/
def RejectedByLimit (candidate : PartitionCandidate) : Prop :=
  ∃ deviceId, notImproved deviceId ∈ candidate.rejectionReasons

/-- A limit is below what a partition needs. -/
def LimitBelow (limits : List (String × ℤ)) (partitions : List LogicalPartition) : Prop :=
  ∃ p ∈ partitions, ∃ limit ∈ limits.lookup p.deviceId, limit < p.memoryDemandBytes

theorem take_append_text (s t : String) {n : ℕ} (h : n ≤ s.toList.length) :
    (s ++ t).toList.take n = s.toList.take n := by
  rw [String.toList_append, List.take_append_of_le_length h]

theorem notImproved_inj {a b : String} (h : notImproved a = notImproved b) : a = b := by
  have hlist : ("memory_replan_not_improved:" ++ a).toList
      = ("memory_replan_not_improved:" ++ b).toList := congrArg String.toList h
  rw [String.toList_append, String.toList_append] at hlist
  exact String.toList_inj.1 (List.append_cancel_left hlist)

/-- How the reason begins: no other reason of a candidate does. -/
theorem take_notImproved (deviceId : String) :
    (notImproved deviceId).toList.take 8 = "memory_r".toList :=
  (take_append_text "memory_replan_not_improved:" deviceId (by decide)).trans (by decide)

theorem ne_notImproved_of_take {s deviceId : String} {start : List Char}
    (h : s.toList.take 8 = start) (hne : start ≠ "memory_r".toList) : s ≠ notImproved deviceId := by
  rintro rfl
  exact hne (h.symm.trans (take_notImproved deviceId))

theorem capacity_ne_notImproved (a b : String) :
    s!"memory_capacity_exceeded:{a}" ≠ notImproved b :=
  ne_notImproved_of_take (take_append_text "memory_capacity_exceeded:" a (by decide)) (by decide)

variable {rt : Runtime} {policy : ModelPartitionPolicy} {roundPlan : RoundPlan}
  {participants : List String} {splitPoints : List ℕ} {limits limits' : List (String × ℤ)}
  {excludedLinks : List (String × String)}

theorem hop_reason_ne {source target : LogicalPartition} {node edgeType reason deviceId : String}
    {bytes : ℤ} {joint : Hop}
    (h : hop roundPlan excludedLinks source target node edgeType bytes = .ok joint)
    (hreason : joint.reason = some reason) : reason ≠ notImproved deviceId := by
  have hstart : ∀ s t u : String, 8 ≤ s.toList.length →
      (s ++ t ++ "->" ++ u).toList.take 8 = s.toList.take 8 := by
    intro s t u hs
    rw [String.append_assoc, String.append_assoc]
    exact take_append_text s _ hs
  unfold hop at h
  simp only at h
  split at h
  · obtain rfl := Except.ok.inj h
    obtain rfl := Option.some.inj hreason
    exact ne_notImproved_of_take (hstart "failed_network_link:" _ _ (by decide)) (by decide)
  · split at h
    · obtain rfl := Except.ok.inj h
      obtain rfl := Option.some.inj hreason
      exact ne_notImproved_of_take (hstart "missing_network_link:" _ _ (by decide)) (by decide)
    · obtain ⟨_, _, h⟩ := bind_eq_ok h
      obtain rfl := Except.ok.inj h
      cases hreason

theorem limitReasons_ne {constraints : PartitionConstraints} {transferBytes : ℤ} {latencyMs : PyFloat}
    {reason deviceId : String} (h : reason ∈ limitReasons constraints transferBytes latencyMs) :
    reason ≠ notImproved deviceId := by
  unfold limitReasons at h
  rcases List.mem_append.1 h with h | h
  · split_ifs at h
    · rw [List.mem_singleton.1 h]
      exact ne_notImproved_of_take rfl (by decide)
    · cases h
  · split_ifs at h
    · rw [List.mem_singleton.1 h]
      exact ne_notImproved_of_take rfl (by decide)
    · cases h

theorem mem_memoryReasons {deviceId name : String} {allowed demand : ℤ} :
    notImproved name ∈ memoryReasons limits deviceId allowed demand ↔
      deviceId = name ∧ ∃ limit ∈ limits.lookup deviceId, limit < demand := by
  have hcapacity : ¬notImproved name ∈ (if allowed < demand then
      [s!"memory_capacity_exceeded:{deviceId}"] else []) := by
    intro h
    split_ifs at h
    · exact capacity_ne_notImproved deviceId name (List.mem_singleton.1 h).symm
    · cases h
  unfold memoryReasons
  rw [List.mem_append]
  rcases hlimit : limits.lookup deviceId with _ | limit
  · simp [hcapacity]
  · constructor
    · rintro (h | h)
      · exact absurd h hcapacity
      · simp only at h
        split_ifs at h with hlt
        · exact ⟨(notImproved_inj (List.mem_singleton.1 h)).symm, limit, rfl, hlt⟩
        · cases h
    · rintro ⟨rfl, bound, hbound, hlt⟩
      obtain rfl := Option.some.inj hbound
      right
      simp only [if_pos hlt]
      exact List.mem_singleton_self _

/-- Bytes that a candidate may need: they are divided by those of a device, and an integer that is too
large has no float. -/
def InReach (bytes : ℤ) : Prop := (bytes : ℚ) < Binary64.limit * (Binary64.limit - 1)

/-- Bytes of a device that have a float. -/
theorem le_limit_sub_one {n : ℤ} (h : (n : ℚ) < Binary64.limit) : (n : ℚ) ≤ Binary64.limit - 1 := by
  obtain ⟨limit, hlimit⟩ := Binary64.exists_int_limit
  rw [← hlimit] at h ⊢
  exact_mod_cast Int.le_sub_one_of_lt (by exact_mod_cast h)

theorem one_le_limit_sub_one : (1 : ℚ) ≤ Binary64.limit - 1 := by
  have hbytes : (2 ^ 54 - 1 : ℚ) ≤ Binary64.limit :=
    le_mul_of_one_le_right (by norm_num) (one_le_zpow₀ one_le_two (by norm_num))
  have hsmall : (2 : ℚ) ≤ 2 ^ 54 - 1 := by norm_num
  linarith

theorem available_lt_limit {device : ResourceDevice} {constraints : PartitionConstraints} {allowed : ℤ}
    (h : allowedMemory device constraints = .ok allowed) :
    (device.memoryAvailableBytes : ℚ) < Binary64.limit := by
  unfold allowedMemory at h
  split at h
  · cases h
  · rename_i available havailable
    exact (le_abs_self _).trans_lt (PyFloat.ofInt_eq_some.1 havailable).1

/-- **What a placement says**: its device is one of the round plan, what it needs is in reach, and its
reasons are those of its demand. -/
theorem place_spec {index : ℕ} {deviceId : String} {layers : List ModelLayer} {placement : Placement}
    (h : place rt roundPlan limits index deviceId layers = .ok placement) :
    (∃ device ∈ roundPlan.devices, device.deviceId = deviceId) ∧
      placement.partition.deviceId = deviceId ∧ InReach placement.partition.memoryDemandBytes ∧
      ∃ allowed, placement.rejectionReasons
        = memoryReasons limits deviceId allowed placement.partition.memoryDemandBytes := by
  unfold place at h
  split at h
  · cases h
  · rename_i device hdevice
    obtain ⟨demand, hdemand, h⟩ := bind_eq_ok h
    obtain ⟨pressure, hpressure, h⟩ := bind_eq_ok h
    obtain ⟨allowed, hallowed, h⟩ := bind_eq_ok h
    obtain rfl := Except.ok.inj h
    have hmem := Dict.mem_of_lookup_reverse ((Dict.lookup_ofEntries _ _).symm.trans hdevice)
    obtain ⟨d, hd, heq⟩ := List.mem_map.1 hmem
    obtain ⟨hname, rfl⟩ := Prod.mk.inj heq
    have hlt := (intQuotient_eq_ok_iff (memoryDemand_nonneg hdemand)
      (lt_of_lt_of_le one_pos (le_max_left 1 d.memoryAvailableBytes))).1 ⟨_, hpressure⟩
    have havailable := le_limit_sub_one (available_lt_limit hallowed)
    have hmax : ((max 1 d.memoryAvailableBytes : ℤ) : ℚ) ≤ Binary64.limit - 1 := by
      rw [Int.cast_max, Int.cast_one]
      exact max_le one_le_limit_sub_one havailable
    exact ⟨⟨d, hd, hname⟩, rfl, hlt.trans_le (mul_le_mul_of_nonneg_left hmax
      (Binary64.largest_nonneg.trans Binary64.largest_lt_limit.le)), allowed, rfl⟩

/-- The partition of a placement does not depend on the limits. -/
theorem partition_place {index : ℕ} {deviceId : String} {layers : List ModelLayer}
    {placement placement' : Placement}
    (h : place rt roundPlan limits index deviceId layers = .ok placement)
    (h' : place rt roundPlan limits' index deviceId layers = .ok placement') :
    placement.partition = placement'.partition := by
  unfold place at h h'
  split at h
  · cases h
  · rename_i device hdevice
    rw [hdevice] at h'
    obtain ⟨demand, hdemand, h⟩ := bind_eq_ok h
    obtain ⟨demand', hdemand', h'⟩ := bind_eq_ok h'
    obtain rfl := Except.ok.inj (hdemand.symm.trans hdemand')
    obtain ⟨_, _, h⟩ := bind_eq_ok h
    obtain ⟨_, _, h'⟩ := bind_eq_ok h'
    obtain ⟨_, _, h⟩ := bind_eq_ok h
    obtain ⟨_, _, h'⟩ := bind_eq_ok h'
    obtain rfl := Except.ok.inj h
    obtain rfl := Except.ok.inj h'
    rfl

theorem partitions_placements {runs : List (List ModelLayer)} {placed placed' : List Placement}
    (h : placements rt roundPlan limits participants runs = .ok placed)
    (h' : placements rt roundPlan limits' participants runs = .ok placed') :
    placed.map (·.partition) = placed'.map (·.partition) :=
  map_eq_of_mapM (fun _ _ _ ha hb => partition_place ha hb) h h'

/-- A limit is named among the reasons of the placements where it is below what one of them needs. -/
theorem exists_mem_placements {runs : List (List ModelLayer)} {placed : List Placement}
    (h : placements rt roundPlan limits participants runs = .ok placed) :
    (∃ name, notImproved name ∈ placed.flatMap (·.rejectionReasons)) ↔
      LimitBelow limits (placed.map (·.partition)) := by
  have hreasons : ∀ placement ∈ placed, ∀ name, notImproved name ∈ placement.rejectionReasons ↔
      placement.partition.deviceId = name ∧ ∃ limit ∈ limits.lookup placement.partition.deviceId,
        limit < placement.partition.memoryDemandBytes := by
    intro placement hplacement name
    obtain ⟨item, _, hitem⟩ := exists_of_mem_mapM h hplacement
    obtain ⟨_, hdevice, _, allowed, hreason⟩ := place_spec hitem
    rw [hreason, mem_memoryReasons, hdevice]
  constructor
  · rintro ⟨name, hname⟩
    obtain ⟨placement, hplacement, hmem⟩ := List.mem_flatMap.1 hname
    obtain ⟨_, hbelow⟩ := (hreasons placement hplacement name).1 hmem
    exact ⟨_, List.mem_map_of_mem hplacement, hbelow⟩
  · rintro ⟨partition, hpartition, hbelow⟩
    obtain ⟨placement, hplacement, rfl⟩ := List.mem_map.1 hpartition
    exact ⟨_, List.mem_flatMap.2 ⟨placement, hplacement,
      (hreasons placement hplacement _).2 ⟨rfl, hbelow⟩⟩⟩

/-- Only the placements name a memory limit. -/
theorem exists_mem_reasons {placed : List Placement} {joined : List Hop}
    {constraints : PartitionConstraints} {transferBytes : ℤ} {latencyMs : PyFloat}
    (hjoined : ∀ hop ∈ joined, ∀ reason deviceId, hop.reason = some reason →
      reason ≠ notImproved deviceId) :
    (∃ name, notImproved name ∈ placed.flatMap (·.rejectionReasons) ++
        joined.filterMap Hop.reason ++ limitReasons constraints transferBytes latencyMs) ↔
      ∃ name, notImproved name ∈ placed.flatMap (·.rejectionReasons) := by
  refine exists_congr fun name => ⟨fun h => ?_, fun h => ?_⟩
  · rcases List.mem_append.1 h with h | h
    · rcases List.mem_append.1 h with h | h
      · exact h
      · obtain ⟨hop, hhop, hreason⟩ := List.mem_filterMap.1 h
        exact absurd rfl (hjoined hop hhop _ name hreason)
    · have hne : notImproved name ≠ notImproved name := limitReasons_ne h
      exact absurd rfl hne
  · exact List.mem_append_left _ (List.mem_append_left _ h)

variable {exclusions : Exclusions} {candidate candidate' : PartitionCandidate}

/-- The hops between neighbours name no memory limit. -/
theorem hops_reason_ne {partitions : List LogicalPartition} {joined : List Hop}
    (h : hops roundPlan excludedLinks splitPoints partitions = .ok joined) :
    ∀ hop ∈ joined, ∀ reason deviceId, hop.reason = some reason →
      reason ≠ notImproved deviceId := by
  intro joint hjoint reason deviceId hreason
  obtain ⟨⟨⟨source, target⟩, boundary⟩, _, hitem⟩ := exists_of_mem_mapM h hjoint
  simp only at hitem
  split at hitem
  · cases hitem
  · exact hop_reason_ne hitem hreason

/-- **A candidate is rejected by a memory limit where one is below what a partition needs.** -/
theorem rejectedByLimit_buildCandidate {intent : Option PartitionIntent}
    (h : buildCandidate rt policy roundPlan participants splitPoints exclusions intent
      = .ok candidate) :
    RejectedByLimit candidate ↔ LimitBelow exclusions.memoryLimits candidate.partitions := by
  obtain ⟨placed, hplaced, h⟩ := bind_eq_ok h
  obtain ⟨joined, hjoined, h⟩ := bind_eq_ok h
  obtain ⟨score, _, h⟩ := bind_eq_ok h
  obtain rfl := Except.ok.inj h
  exact (exists_mem_reasons (hops_reason_ne hjoined)).trans (exists_mem_placements hplaced)

/-- A federated candidate as well. -/
theorem rejectedByLimit_buildFederated {intent : PartitionIntent}
    (h : buildFederatedFullModelCandidate rt policy roundPlan participants exclusions intent
      = .ok candidate) :
    RejectedByLimit candidate ↔ LimitBelow exclusions.memoryLimits candidate.partitions := by
  obtain ⟨placed, hplaced, h⟩ := bind_eq_ok h
  have hmem := exists_mem_placements hplaced
  rcases hplaces : placed.map (·.partition) with _ | ⟨aggregator, remote⟩
  · simp only [hplaces] at h
    cases h
  · simp only [hplaces] at h
    obtain ⟨joined, hjoined, h⟩ := bind_eq_ok h
    obtain ⟨score, _, h⟩ := bind_eq_ok h
    obtain rfl := Except.ok.inj h
    rw [hplaces] at hmem
    refine (exists_mem_reasons fun joint hjoint reason deviceId hreason => ?_).trans hmem
    obtain ⟨partition, _, hhop⟩ := exists_of_mem_mapM hjoined hjoint
    exact hop_reason_ne hhop hreason

/-- The partitions of a candidate do not depend on the limits. -/
theorem partitions_buildCandidate {intent : Option PartitionIntent}
    (h : buildCandidate rt policy roundPlan participants splitPoints
      { exclusions with memoryLimits := limits } intent = .ok candidate)
    (h' : buildCandidate rt policy roundPlan participants splitPoints
      { exclusions with memoryLimits := limits' } intent = .ok candidate') :
    candidate.partitions = candidate'.partitions := by
  obtain ⟨placed, hplaced, h⟩ := bind_eq_ok h
  obtain ⟨placed', hplaced', h'⟩ := bind_eq_ok h'
  obtain ⟨_, _, h⟩ := bind_eq_ok h
  obtain ⟨_, _, h'⟩ := bind_eq_ok h'
  obtain ⟨_, _, h⟩ := bind_eq_ok h
  obtain ⟨_, _, h'⟩ := bind_eq_ok h'
  obtain rfl := Except.ok.inj h
  obtain rfl := Except.ok.inj h'
  exact partitions_placements hplaced hplaced'

theorem partitions_buildFederated {intent : PartitionIntent}
    (h : buildFederatedFullModelCandidate rt policy roundPlan participants
      { exclusions with memoryLimits := limits } intent = .ok candidate)
    (h' : buildFederatedFullModelCandidate rt policy roundPlan participants
      { exclusions with memoryLimits := limits' } intent = .ok candidate') :
    candidate.partitions = candidate'.partitions := by
  obtain ⟨placed, hplaced, heq⟩ := partitions_eq_placements h
  obtain ⟨placed', hplaced', heq'⟩ := partitions_eq_placements h'
  rw [heq, heq']
  exact partitions_placements hplaced hplaced'

/-- What a partition of a candidate needs is not negative and in reach, and its device is one of the
round plan. -/
structure Needed (p : LogicalPartition) : Prop where
  nonneg : 0 ≤ p.memoryDemandBytes
  inReach : InReach p.memoryDemandBytes
  device : Text.Proper p.deviceId

theorem needed_placements {runs : List (List ModelLayer)} {placed : List Placement}
    (h : placements rt roundPlan limits participants runs = .ok placed) :
    ∀ p ∈ placed.map (·.partition), Needed p := by
  intro p hp
  obtain ⟨placement, hplacement, rfl⟩ := List.mem_map.1 hp
  obtain ⟨⟨⟨deviceId, layers⟩, index⟩, _, hplace⟩ := exists_of_mem_mapM h hplacement
  obtain ⟨⟨device, _, hname⟩, hdevice, hreach, _⟩ := place_spec hplace
  refine ⟨memoryDemand_nonneg (memoryDemand_of_place hplace), hreach, ?_⟩
  rw [hdevice, ← hname]
  exact device.deviceId_proper

theorem needed_buildCandidate {intent : Option PartitionIntent}
    (h : buildCandidate rt policy roundPlan participants splitPoints exclusions intent
      = .ok candidate) : ∀ p ∈ candidate.partitions, Needed p := by
  obtain ⟨placed, hplaced, h⟩ := bind_eq_ok h
  obtain ⟨_, _, h⟩ := bind_eq_ok h
  obtain ⟨_, _, h⟩ := bind_eq_ok h
  obtain rfl := Except.ok.inj h
  exact needed_placements hplaced

theorem needed_buildFederated {intent : PartitionIntent}
    (h : buildFederatedFullModelCandidate rt policy roundPlan participants exclusions intent
      = .ok candidate) : ∀ p ∈ candidate.partitions, Needed p := by
  obtain ⟨placed, hplaced, heq⟩ := partitions_eq_placements h
  rw [heq]
  exact needed_placements hplaced

end ModelPartitionOrchestrationAgent

namespace RepartitionDirective

open ModelPartitionOrchestrationAgent

/-! ### Memory limits of a merge -/

/-- `dict(directive.memory_limits)[device_id]`. -/
def limit? (d : RepartitionDirective) (deviceId : String) : Option ℤ :=
  d.exclusions.memoryLimits.lookup deviceId

/-- **The newer limit of a device is what a merge states.** -/
theorem limit?_merge (a b : RepartitionDirective) (deviceId : String) :
    (a.merge b).limit? deviceId = (b.limit? deviceId).or (a.limit? deviceId) := by
  have hnodup := Dict.nodup_keys_update (Dict.nodup_keys_ofEntries a.memoryLimits)
    (Dict.ofEntries b.memoryLimits)
  have hperm : (a.merge b).memoryLimits.Perm (Dict.update (Dict.ofEntries a.memoryLimits)
      (Dict.ofEntries b.memoryLimits)) := List.perm_insertionSort _ _
  have hsorted : ((a.merge b).memoryLimits.map Prod.fst).Nodup := (hperm.map _).nodup_iff.2 hnodup
  have hnewer : (Dict.ofEntries b.memoryLimits).reverse.lookup deviceId = b.limit? deviceId := by
    rw [← Dict.lookup_ofEntries, Dict.ofEntries_of_nodup (Dict.nodup_keys_ofEntries _)]
    rfl
  have hupdate : (Dict.update (Dict.ofEntries a.memoryLimits)
      (Dict.ofEntries b.memoryLimits)).lookup deviceId
      = (b.limit? deviceId).or (a.limit? deviceId) := by
    rw [Dict.lookup_update, hnewer]
    rfl
  rw [← hupdate, limit?, exclusions, Dict.ofEntries_of_nodup hsorted]
  ext limit
  rw [← Dict.mem_iff_lookup hsorted, ← Dict.mem_iff_lookup hnodup, hperm.mem_iff]

/-- Every candidate that the limits of `e` reject, those of `d` reject. -/
structure KeepsRejections (d e : RepartitionDirective) : Prop where
  split : ∀ (rt : Runtime) (policy : ModelPartitionPolicy) (roundPlan : RoundPlan) (participants : List String)
    (splitPoints : List ℕ) (exclusions : Exclusions) (intent : Option PartitionIntent)
    (candidate candidate' : PartitionCandidate),
    buildCandidate rt policy roundPlan participants splitPoints
      { exclusions with memoryLimits := e.exclusions.memoryLimits } intent = .ok candidate →
    buildCandidate rt policy roundPlan participants splitPoints
      { exclusions with memoryLimits := d.exclusions.memoryLimits } intent = .ok candidate' →
    RejectedByLimit candidate → RejectedByLimit candidate'
  federated : ∀ (rt : Runtime) (policy : ModelPartitionPolicy) (roundPlan : RoundPlan)
    (participants : List String) (exclusions : Exclusions) (intent : PartitionIntent)
    (candidate candidate' : PartitionCandidate),
    buildFederatedFullModelCandidate rt policy roundPlan participants
      { exclusions with memoryLimits := e.exclusions.memoryLimits } intent = .ok candidate →
    buildFederatedFullModelCandidate rt policy roundPlan participants
      { exclusions with memoryLimits := d.exclusions.memoryLimits } intent = .ok candidate' →
    RejectedByLimit candidate → RejectedByLimit candidate'

/-- A limit of `e` on a device is one of `d` that is not higher, or a negative one, where some bytes
in reach are above it. -/
def LimitsFall (d e : RepartitionDirective) : Prop :=
  ∀ deviceId, Text.Proper deviceId → ∀ old ∈ e.limit? deviceId, InReach (old + 1) →
    ∃ new ∈ d.limit? deviceId, new ≤ old ∨ new < 0

theorem limitBelow_of_limitsFall {d e : RepartitionDirective} (h : d.LimitsFall e)
    {partitions : List LogicalPartition} (hneeded : ∀ p ∈ partitions, Needed p)
    (hbelow : LimitBelow e.exclusions.memoryLimits partitions) :
    LimitBelow d.exclusions.memoryLimits partitions := by
  obtain ⟨p, hp, old, hold, hlt⟩ := hbelow
  obtain ⟨hnonneg, hreach, hproper⟩ := hneeded p hp
  have hnext : ((old + 1 : ℤ) : ℚ) ≤ p.memoryDemandBytes := by exact_mod_cast hlt
  obtain ⟨new, hnew, hle⟩ := h p.deviceId hproper old hold (hnext.trans_lt hreach)
  exact ⟨p, hp, new, hnew, by omega⟩

/-- **Where the limits fall, the rejections stay.** -/
theorem keepsRejections_of_limitsFall {d e : RepartitionDirective} (h : d.LimitsFall e) :
    d.KeepsRejections e := by
  constructor
  · intro rt policy roundPlan participants splitPoints exclusions intent candidate candidate' hc hc'
      hrejected
    have hbelow := (rejectedByLimit_buildCandidate hc).1 hrejected
    refine (rejectedByLimit_buildCandidate hc').2 ?_
    rw [← partitions_buildCandidate hc hc']
    exact limitBelow_of_limitsFall h (needed_buildCandidate hc) hbelow
  · intro rt policy roundPlan participants exclusions intent candidate candidate' hc hc' hrejected
    have hbelow := (rejectedByLimit_buildFederated hc).1 hrejected
    refine (rejectedByLimit_buildFederated hc').2 ?_
    rw [← partitions_buildFederated hc hc']
    exact limitBelow_of_limitsFall h (needed_buildFederated hc) hbelow

/-! ### A candidate for every demand -/

theorem proper_layer : Text.Proper "layer" := by decide
theorem zero_nonneg : (0 : ℤ) ≤ 0 := le_refl _

/-- A layer of some bytes. -/
def layerOf (bytes : ℤ) (h : 0 ≤ bytes) : ModelLayer :=
  ⟨"layer", 1, bytes, 0, 0, proper_layer, ModelBlock.one_ge_millionth, h, zero_nonneg, zero_nonneg⟩

/-- A device of some bytes. -/
def deviceOf (name : String) (hname : Text.Proper name) (bytes : ℤ) (h : 1 ≤ bytes) :
    ResourceDevice :=
  { PartitionPlanValidator.tenByteDevice name hname with
    memoryCapacityBytes := bytes
    memoryAvailableBytes := bytes
    memoryCapacityBytes_pos := h
    memoryAvailableBytes_nonneg := zero_le_one.trans h
    available_le_capacity := le_refl bytes }

/-- A round plan with that layer and that device. -/
def onDevice (device : ResourceDevice) (layer : ModelLayer) : RoundPlan :=
  { PartitionPlanValidator.tenByteRoundPlan.toRoundPlan with
    layers := [layer]
    participants := [device.deviceId]
    devices := [device]
    networkLinks := [] }

/-- The layer is placed on the device, where its bytes are in reach of the largest. -/
theorem exists_place_onDevice (rt : Runtime) (device : ResourceDevice) {bytes : ℤ} (h : 0 ≤ bytes)
    (hpos : 1 ≤ device.memoryAvailableBytes)
    (hlimit : (device.memoryAvailableBytes : ℚ) = Binary64.limit - 1) (hreach : InReach bytes)
    (limits : List (String × ℤ)) : ∃ placement,
      place rt (onDevice device (layerOf bytes h)) limits 0 device.deviceId [layerOf bytes h]
        = .ok placement ∧
      placement.partition.deviceId = device.deviceId ∧
      placement.partition.memoryDemandBytes = bytes := by
  have hlookup : (devicesOf (onDevice device (layerOf bytes h))).lookup device.deviceId
      = some device := by
    obtain ⟨found, hfound⟩ := exists_lookup_devicesOf (onDevice device (layerOf bytes h))
      (List.mem_singleton_self device.deviceId)
    rw [hfound, List.mem_singleton.1 (mem_of_lookup_devicesOf hfound)]
  have hdemand : memoryDemand [layerOf bytes h] = .ok bytes := by
    simp [memoryDemand, layerOf]
  obtain ⟨pressure, hpressure⟩ : ∃ x, intQuotient bytes (max 1 device.memoryAvailableBytes)
      = .ok x := by
    rw [max_eq_right hpos]
    refine (intQuotient_eq_ok_iff h (by omega)).2 ?_
    rw [hlimit]
    exact hreach
  obtain ⟨allowed, hallowed⟩ := exists_allowedMemory device
    (onDevice device (layerOf bytes h)).constraints (hlimit.trans_lt (sub_one_lt _))
  unfold place
  simp only [hlookup, hdemand, hpressure, hallowed, bind, Except.bind]
  exact ⟨_, rfl, rfl, rfl⟩

theorem exists_onDevice (rt : Runtime) {name : String} (hname : Text.Proper name) {bytes : ℤ}
    (h : 0 ≤ bytes) (hreach : InReach bytes) : ∃ device, ∀ limits, ∃ candidate partition,
      buildCandidate rt latencyPolicy (onDevice device (layerOf bytes h)) [name] []
        { Exclusions.none with memoryLimits := limits } none = .ok candidate ∧
      candidate.partitions = [partition] ∧ partition.deviceId = name ∧
      partition.memoryDemandBytes = bytes := by
  obtain ⟨limit, hlimit⟩ := Binary64.exists_int_limit
  have hpos : 1 ≤ limit - 1 := by
    have hone := one_le_limit_sub_one
    rw [← hlimit] at hone
    exact_mod_cast hone
  refine ⟨deviceOf name hname (limit - 1) hpos, fun limits => ?_⟩
  have hbytes : ((limit - 1 : ℤ) : ℚ) = Binary64.limit - 1 := by
    rw [Int.cast_sub, hlimit, Int.cast_one]
  obtain ⟨placement, hplacement, hdevice, hneeds⟩ :=
    exists_place_onDevice rt (deviceOf name hname (limit - 1) hpos) h hpos hbytes hreach limits
  have hplaced : placements rt (onDevice (deviceOf name hname (limit - 1) hpos) (layerOf bytes h))
      limits [name] (runs (onDevice (deviceOf name hname (limit - 1) hpos) (layerOf bytes h)).layers [])
      = .ok [placement] := mapM_of_forall₂ (.cons hplacement .nil)
  have hzero : ((0 : ℤ) : ℚ) < Binary64.limit := by
    rw [Int.cast_zero]
    exact zero_lt_one.trans_le (Binary64.one_le_largest.trans Binary64.largest_lt_limit.le)
  obtain ⟨communication, hcommunication⟩ :=
    exists_intQuotient (m := latencyPolicy.transferReferenceBytes) le_rfl (by decide) hzero
  have hhops : ∀ links partitions, hops (onDevice (deviceOf name hname (limit - 1) hpos)
      (layerOf bytes h)) links [] partitions = .ok [] := by
    intro links partitions
    rw [hops, List.zip_nil_right]
    rfl
  have hempty : ∀ partitions computeMs,
      (graphOf rt none partitions [] computeMs).transferBytes = 0 := fun _ _ => rfl
  unfold buildCandidate
  simp only [hplaced, hhops, candidateScore, score, hempty, hcommunication, bind, Except.bind]
  exact ⟨_, placement.partition, rfl, rfl, hdevice, hneeds⟩

/-- **The rejections stay only where the limits fall.** -/
theorem limitsFall_of_keepsRejections {d e : RepartitionDirective} (h : d.KeepsRejections e) :
    d.LimitsFall e := by
  intro name hname old hold hreach
  by_contra hnone
  have hdemand : ∃ demand, 0 ≤ demand ∧ InReach demand ∧ old < demand ∧
      ∀ new ∈ d.limit? name, demand ≤ new := by
    have hzero : InReach 0 := by
      rw [InReach, Int.cast_zero]
      exact mul_pos (zero_lt_one.trans_le (Binary64.one_le_largest.trans
        Binary64.largest_lt_limit.le)) (zero_lt_one.trans_le one_le_limit_sub_one)
    have hmax : InReach (max 0 (old + 1)) := by
      rcases max_choice 0 (old + 1) with hmax | hmax <;> rw [hmax]
      · exact hzero
      · exact hreach
    refine ⟨max 0 (old + 1), le_max_left _ _, hmax, by omega, fun new hnew => ?_⟩
    have hhigher : ¬(new ≤ old ∨ new < 0) := fun hle => hnone ⟨new, hnew, hle⟩
    omega
  obtain ⟨demand, hnonneg, hinReach, hlt, hbelow⟩ := hdemand
  obtain ⟨device, hbuilds⟩ := exists_onDevice PartitionPlanValidator.constantRuntime hname hnonneg
    hinReach
  obtain ⟨candidate, partition, hc, hpartitions, hdevice, hbytes⟩ :=
    hbuilds e.exclusions.memoryLimits
  obtain ⟨candidate', partition', hc', hpartitions', hdevice', hbytes'⟩ :=
    hbuilds d.exclusions.memoryLimits
  have hrejected : RejectedByLimit candidate := by
    rw [rejectedByLimit_buildCandidate hc, hpartitions]
    refine ⟨partition, List.mem_singleton_self _, old, ?_, ?_⟩
    · rw [hdevice]
      exact hold
    · rw [hbytes]
      exact hlt
  have hrejected' := h.split _ _ _ _ _ _ _ _ _ hc hc' hrejected
  rw [rejectedByLimit_buildCandidate hc', hpartitions'] at hrejected'
  obtain ⟨p, hp, new, hnew, hover⟩ := hrejected'
  rw [List.mem_singleton.1 hp, hdevice'] at hnew
  rw [List.mem_singleton.1 hp, hbytes'] at hover
  have hle := hbelow new hnew
  omega

/-! ### Merging -/

/-- The newer directive does not raise a limit of the older, but for a negative one and one that no
bytes in reach are above. -/
def NoLimitRaised (d newer : RepartitionDirective) : Prop :=
  ∀ deviceId, Text.Proper deviceId → ∀ old ∈ d.limit? deviceId, ∀ new ∈ newer.limit? deviceId,
    InReach (old + 1) → new ≤ old ∨ new < 0

theorem limitsFall_merge_iff (a b : RepartitionDirective) :
    (a.merge b).LimitsFall a ↔ a.NoLimitRaised b := by
  constructor
  · intro h name hname old hold new hnew hreach
    obtain ⟨limit, hlimit, hle⟩ := h name hname old hold hreach
    rw [limit?_merge, hnew, Option.some_or] at hlimit
    rw [Option.some.inj hlimit]
    exact hle
  · intro h name hname old hold hreach
    rcases hnew : b.limit? name with _ | new
    · refine ⟨old, ?_, .inl le_rfl⟩
      rw [limit?_merge, hnew, Option.none_or]
      exact hold
    · refine ⟨new, ?_, h name hname old hold new hnew hreach⟩
      rw [limit?_merge, hnew, Option.some_or]
      rfl

/-- The limits of the newer directive are those of the merge. -/
theorem limitsFall_merge_newer (a b : RepartitionDirective) : (a.merge b).LimitsFall b := by
  intro name hname old hold _
  refine ⟨old, ?_, .inl le_rfl⟩
  rw [limit?_merge, hold, Option.some_or]
  rfl

/-- **A merge never weakens, and is read back, exactly where the newer directive raises no limit of
the older and its type is a proper text.**  That it keeps the exclusions of both, is associative and
idempotent holds of all directives. -/
theorem merge_faithful_iff (a b : RepartitionDirective) :
    ((a.merge b).Excludes a ∧ (a.merge b).Excludes b ∧
      (a.merge b).KeepsRejections a ∧ (a.merge b).KeepsRejections b ∧
      (∀ c, ((a.merge b).merge c).EqualExclusions (a.merge (b.merge c))) ∧
      (a.merge a).SameExclusions a ∧ (b.merge b).SameExclusions b ∧
      ∀ rt, fromDict rt (a.merge b).toDict = .ok (a.merge b)) ↔
    a.NoLimitRaised b ∧ Text.Proper b.exclusionType := by
  constructor
  · rintro ⟨-, -, hkeeps, -, -, -, -, hread⟩
    refine ⟨(limitsFall_merge_iff a b).1 (limitsFall_of_keepsRejections hkeeps), ?_⟩
    have hproper := (fromDict_toDict_eq_iff PartitionPlanValidator.constantRuntime
      (a.merge b)).1 (hread _)
    exact hproper
  · rintro ⟨hlimits, htype⟩
    obtain ⟨ha, hb⟩ := merge_excludes a b
    exact ⟨ha, hb, keepsRejections_of_limitsFall ((limitsFall_merge_iff a b).2 hlimits),
      keepsRejections_of_limitsFall (limitsFall_merge_newer a b), merge_assoc a b,
      merge_idempotent a, merge_idempotent b, fun rt => (fromDict_toDict_eq_iff rt _).2 htype⟩

theorem inReach_eleven : InReach (10 + 1) := by
  have hbytes : (2 ^ 54 - 1 : ℚ) ≤ Binary64.limit :=
    le_mul_of_one_le_right (by norm_num) (one_le_zpow₀ one_le_two (by norm_num))
  refine lt_of_lt_of_le ?_ (le_mul_of_one_le_right ?_ one_le_limit_sub_one)
  · exact lt_of_lt_of_le (by norm_num) hbytes
  · exact le_trans (by norm_num) hbytes

/-- A memory limit on `a`. -/
def limitOnA (bytes : ℤ) : RepartitionDirective := ⟨"memory", [], [], [], [], [("a", bytes)], []⟩

/-- **A later feedback about a device raises its limit**, and a candidate that was rejected is not. -/
theorem limit_raised : ¬∀ a b : RepartitionDirective, (a.merge b).KeepsRejections a := by
  intro h
  have hfall := (limitsFall_merge_iff _ _).1
    (limitsFall_of_keepsRejections (h (limitOnA 10) (limitOnA 20)))
  have hle : (20 : ℤ) ≤ 10 ∨ (20 : ℤ) < 0 :=
    hfall "a" PartitionPlanValidator.proper_a 10 rfl 20 rfl inReach_eleven
  omega

end RepartitionDirective

end Partition
end AiopsK8s
