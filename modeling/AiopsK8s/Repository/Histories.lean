/-
# What a repository remembers

Whatever is called on a repository, in any order, and wherever the calls are stopped: once the
repository is opened again, its committed plans form a lawful shelf (`lineage_lawful`).  A plan
that was committed is never touched again, not even by a call that is stopped half-way, and `get`
goes on to return its report (`committed_kept`).  `history` and `is_current_leaf` tell the lineage
(`history_lineage`).

The calls come one after the other.  What is required of a call of `save` is what the planner
gives it (`Saving`): a report of one plan, whose document names the plan and its parent, and
identifiers of `uuid4` that are new when they are drawn.
-/

import AiopsK8s.Lib.Steps
import AiopsK8s.Partition.Acceptance
import AiopsK8s.Repository.CrashSafety
import AiopsK8s.Repository.Lineage

namespace AiopsK8s
namespace Repository

open Effect Files Crash Lineage AiopsK8s.Partition

/-! ### Calls that may be stopped -/

section Calls

variable {rt : Runtime} {policy : Json} {ls : Listing} {u t : FileTree Content} {id : String}
  {link : Link String} {plan : Fields} {I : FileTree Content → Prop}

/-- An admissible publication is under way, or was stopped. -/
def Interrupted (py : Python) (u t : FileTree Content) : Prop :=
  ∃ (pub : Publication py) (ids : TransactionIds) (link : Link String),
    Setting pub ids u ∧ Admissible u pub link ∧ Recoverable pub ids u t

/-- What a call of `save` left: nothing new, or a published plan directory. -/
def Saved (py : Python) (u : FileTree Content) (id : String) (report : Fields)
    (t : FileTree Content) : Prop :=
  (t = u ∧ isCommitted u [id] = true) ∨
    ∃ (pub : Publication py) (ids : TransactionIds) (link : Link String),
      Setting pub ids u ∧ Admissible u pub link ∧ Recovered pub ids u t ∧ Published pub ids t ∧
        pub.name = id ∧ pub.report = report

/-- **`save` after its recovery** leaves a sound repository, or one that an admissible publication
left when it was stopped. -/
theorem saveRecovered_spec {call : SaveCall} (hs : Sound u)
    (hplan : Json.get call.report "plan" = .obj plan) (hnamed : Named plan id link)
    (hfresh : Fresh u call.ids id) :
    Survives (· = u) (saveRecovered rt policy ls call)
      (fun r => Saved rt.toPython u id r.2)
      (fun _ t => t = u ∨ Interrupted rt.toPython u t) := by
  have hstay : ∀ (e : Stop RepositoryError) (t : FileTree Content), t = u →
      t = u ∨ Interrupted rt.toPython u t := fun _ _ h => .inl h
  have hid : rt.str (Json.get plan "plan_id") = id := by
    rw [hnamed.planId]
    rfl
  refine Survives.bind (orRaise_spec.weaken (fun _ h => h) (fun _ _ h => h) hstay) fun identity => ?_
  obtain ⟨found, version⟩ := identity
  refine Survives.of_fact (fun _ h => h.2) fun hidentity => ?_
  obtain ⟨rfl, rfl, hpositive⟩ := planIdentity_spec hplan hnamed hidentity
  simp only [hid, hnamed.plain.pathParts]
  refine Survives.bind (orRaise_spec.weaken (fun _ h => h.1) (fun _ _ h => h) hstay) fun text => ?_
  refine Survives.of_fact (fun _ h => h.2) fun htext => ?_
  obtain rfl : text = toString link.version := by
    unfold versionText at htext
    split_ifs at htext
    exact (Except.ok.inj htext).symm
  refine Survives.bind (orRaise_spec.weaken (fun _ h => h.1) (fun _ _ h => h.1) hstay)
    fun sidecars => ?_
  refine Survives.bind (orRaise_spec.weaken (fun _ h => h) (fun _ _ h => h.1) hstay)
    fun authenticator => ?_
  refine Survives.bind (look_spec.weaken (fun _ h => h) (fun _ _ h => h) hstay) fun _ => ?_
  refine Survives.of_fact (fun _ h => h.2) fun hversion => ?_
  refine Survives.bind (look_spec.weaken (fun _ h => h.1) (fun _ _ h => h) hstay)
    fun persisted => ?_
  refine Survives.of_fact (fun _ h => h.2) fun hpersisted => ?_
  cases persisted with
  | true =>
      refine Survives.pure fun _ h => .inl ⟨h.1, ?_⟩
      unfold isPersisted at hpersisted
      split_ifs at hpersisted with hfound
      · exact (Bool.and_eq_true_iff.1 hfound).1
      · cases hpersisted
  | false =>
      have hnew := uncommitted_of_checks hs hversion hpersisted
      refine Survives.bind (orRaise_spec.weaken (fun _ h => h.1) (fun _ _ h => h.1) hstay)
        fun _ => ?_
      refine Survives.bind ((validateLineage_spec rt.toPython ls hs hnamed hpositive).weaken
        (fun _ h => h) (fun _ _ h => h) hstay) fun _ => ?_
      refine Survives.of_fact (fun _ h => h.2) fun hadmits => ?_
      refine Survives.bind (orRaise_spec.weaken (fun _ h => h.1) (fun _ _ h => h) hstay)
        fun report => ?_
      refine Survives.of_fact (fun _ h => h.2) fun hreport => ?_
      have hreportPlan : Json.get report "plan" = .obj found := by
        obtain ⟨decoded, _, h⟩ := bind_eq_ok hreport
        obtain rfl := Except.ok.inj h
        rw [Json.get_set_ne (by decide), hplan]
      refine Survives.bind (look_spec.weaken (fun _ h => h.1) (fun _ _ h => h.1) hstay)
        fun history => ?_
      have hname : pathName id = id := hnamed.plain.pathName
      have hplainId : PlainId id := by
        rw [PlainId, hname]
        exact ⟨hnamed.plain.pathParts, hnamed.plain⟩
      have hsetting : ∀ pub : Publication rt.toPython, pub.planId = id → Setting pub call.ids u := by
        rintro pub rfl
        refine ⟨hplainId, ?_⟩
        rw [Publication.name, hname]
        exact hfresh
      have hadmissible : ∀ pub : Publication rt.toPython, pub.planId = id →
          pub.version = link.version.toNat → pub.report = report → Admissible u pub link := by
        rintro pub rfl hversion rfl
        have hpubName : pub.name = pub.planId := hname
        refine ⟨⟨found, hreportPlan, hpubName ▸ hnamed⟩, ?_, hpubName ▸ hnew, hadmits⟩
        rw [hversion]
        omega
      refine Survives.bind ((publishPlanDirectory_spec (hsetting _ rfl) ls).weaken (fun _ h => h)
        (fun _ _ h => h) fun _ t h => .inr ⟨_, _, link, hsetting _ rfl,
          hadmissible _ rfl rfl rfl, h⟩) fun _ => ?_
      exact Survives.pure fun t h => .inr ⟨_, _, link, hsetting _ rfl, hadmissible _ rfl rfl rfl,
        h.1, h.2, hname, rfl⟩

/-- What every admissible publication keeps. -/
def Stable (py : Python) (I : FileTree Content → Prop) : Prop :=
  ∀ (u t : FileTree Content) (pub : Publication py) (ids : TransactionIds) (link : Link String),
    Sound u → I u → Setting pub ids u → Admissible u pub link → Recovered pub ids u t → I t

/-- The states in which a repository may be found: a sound one, or what an admissible publication
left of one. -/
def From (py : Python) (I : FileTree Content → Prop) (t : FileTree Content) : Prop :=
  ∃ u, Sound u ∧ I u ∧ (t = u ∨ Interrupted py u t)

theorem From.of_sound {py : Python} (hs : Sound t) (hI : I t) : From py I t := ⟨t, hs, hI, .inl rfl⟩

/-- **A complete recovery finds a sound repository**, and one that is stopped changes nothing
about that. -/
theorem recover_from {py : Python} (hI : Stable py I) (ls : Listing) :
    Survives (From py I) (recoverIncompleteTransactions ls) (fun _ t => Sound t ∧ I t)
      (fun e t => e = .crash ∧ From py I t) := by
  refine Survives.of_eq fun t ht => ?_
  obtain ⟨u, hs, hu, rfl | ⟨pub, ids, link, hset, ha, hr⟩⟩ := ht
  · exact (recover_unchanged ls hs.settled).weaken (fun _ h => h) (fun _ _ h => h ▸ ⟨hs, hu⟩)
      fun _ _ h => ⟨h.1, h.2 ▸ .of_sound hs hu⟩
  · exact (recover_spec hset ls hs.settled).weaken (fun _ h => h ▸ hr)
      (fun _ _ h => ⟨h.sound hset hs ha, hI _ _ _ _ _ hs hu hset ha h⟩)
      fun _ _ h => ⟨h.1, u, hs, hu, .inr ⟨pub, ids, link, hset, ha, h.2⟩⟩

theorem recover_keeps {py : Python} (hI : Stable py I) (ls : Listing) :
    Keeps (From py I) (recoverIncompleteTransactions ls) :=
  (recover_from hI ls).weaken (fun _ h => h) (fun _ _ h => .of_sound h.1 h.2) fun _ _ h => h.2

/-- The operations that only read. -/
theorem get_from {py : Python} (hI : Stable py I) (ls : Listing) (planId : String)
    (version : Option ℤ) : Keeps (From py I) (get ls planId version) :=
  Keeps.bind (recover_keeps hI ls) fun _ => Keeps.bind (orRaise_keeps _) fun _ => look_keeps _

theorem isCurrentLeaf_from {py : Python} (hI : Stable py I) (ls : Listing) (planId : String) :
    Keeps (From py I) (isCurrentLeaf ls planId) :=
  Keeps.bind (get_from hI ls planId none) fun _ => Keeps.bind (look_keeps _) fun _ => Keeps.pure _

theorem history_from {py py' : Python} (hI : Stable py I) (ls : Listing) (fuel : ℕ)
    (seen : List String) (lineage : List Json) (planId : String) :
    Keeps (From py I) (historyFrom py' ls fuel seen lineage planId) := by
  induction fuel generalizing seen lineage planId with
  | zero => exact Keeps.pure _
  | succ fuel ih =>
      refine Survives.ite (fun _ => Keeps.throwing _) fun _ => ?_
      refine Keeps.bind (get_from hI ls planId none) fun report => ?_
      refine Keeps.bind (orRaise_keeps _) fun next => ?_
      cases next with
      | none => exact Keeps.pure _
      | some parent => exact ih _ _ _

/-- What a caller of `save` promises: the report of a plan that names itself and its parent, and
identifiers that are new when `uuid4` draws them. -/
structure Saving (ls : Listing) (t : FileTree Content) (call : SaveCall) (id : String)
    (link : Link String) : Prop where
  plan : ∃ plan, Json.get call.report "plan" = .obj plan ∧ Named plan id link
  fresh : ∀ limit u rest,
    (recoverIncompleteTransactions ls).run ⟨t, limit⟩ = (.ok (), ⟨u, rest⟩) → Fresh u call.ids id

/-- **`save`** from any state in which a repository may be found. -/
theorem save_from {call : SaveCall} (hI : Stable rt.toPython I) (ht : From rt.toPython I t)
    (hsaving : Saving ls t call id link) :
    Survives (· = t) (save rt policy ls call)
      (fun r t' => ∃ u, Sound u ∧ I u ∧ Saved rt.toPython u id r.2 t')
      (fun _ => From rt.toPython I) := by
  obtain ⟨plan, hplan, hnamed⟩ := hsaving.plan
  refine Survives.bind (survives_ran ((recover_from hI ls).weaken (fun _ h => h ▸ ht)
    (fun _ _ h => h) fun _ _ h => h.2)) fun _ => Survives.of_eq fun u hu => ?_
  obtain ⟨⟨hs, hIu⟩, limit, rest, hrun⟩ := hu
  refine (saveRecovered_spec hs hplan hnamed (hsaving.fresh limit u rest hrun)).weaken
    (fun _ h => h) (fun _ _ h => ⟨u, hs, hIu, h⟩) fun _ _ h => ⟨u, hs, hIu, h⟩

theorem Saved.sound {report : Fields} (hs : Sound u) (h : Saved rt.toPython u id report t) :
    Sound t := by
  rcases h with ⟨rfl, -⟩ | ⟨pub, ids, link, hset, ha, hr, -⟩
  · exact hs
  · exact hr.sound hset hs ha

theorem Saved.keeps {report : Fields} (hI : Stable rt.toPython I) (hs : Sound u) (hu : I u)
    (h : Saved rt.toPython u id report t) : I t := by
  rcases h with ⟨rfl, -⟩ | ⟨pub, ids, link, hset, ha, hr, -⟩
  · exact hu
  · exact hI _ _ _ _ _ hs hu hset ha hr

end Calls

/-! ### Runs -/

/-- The public operations of a repository; `open_` is the constructor. -/
inductive Call where
  | save (call : SaveCall)
  | get (planId : String) (version : Option ℤ)
  | history (fuel : ℕ) (planId : String)
  | isCurrentLeaf (planId : String)
  | open_

/-- A call, how it lists directories, and after how many steps it is stopped. -/
structure Operation where
  call : Call
  ls : Listing
  budget : Option ℕ

section Runs

open PartitionPlanValidator (constantRuntime)

variable (rt : Runtime) (policy : Json)

/-- What an operation leaves. -/
def perform (t : FileTree Content) (op : Operation) : FileTree Content :=
  match op.call with
  | .save call => after (save rt policy op.ls call) t op.budget
  | .get planId version => after (get op.ls planId version) t op.budget
  | .history fuel planId => after (history rt.toPython op.ls fuel planId) t op.budget
  | .isCurrentLeaf planId => after (isCurrentLeaf op.ls planId) t op.budget
  | .open_ => after (recoverIncompleteTransactions op.ls) t op.budget

/-- The repository as a transition system. -/
def step (t : FileTree Content) (op : Operation) : Option (FileTree Content) :=
  some (perform rt policy t op)

/-- What is required of an operation. -/
def Allowed (t : FileTree Content) (op : Operation) : Prop :=
  match op.call with
  | .save call => ∃ id link, Saving op.ls t call id link
  | _ => True

variable {rt policy} {I : FileTree Content → Prop} {t t₀ t₁ t₂ t₃ u : FileTree Content}
  {ops ops' : List Operation} {ls ls' : Listing}

theorem from_of_after {α : Type} {m : Work α}
    (h : Survives (From rt.toPython I) m (fun _ => From rt.toPython I) (fun _ => From rt.toPython I))
    (ht : From rt.toPython I t) (budget : Option ℕ) : From rt.toPython I (after m t budget) := by
  rcases h.after ht budget with ⟨_, h⟩ | ⟨_, h⟩
  · exact h
  · exact h

/-- **One operation**, stopped anywhere. -/
theorem perform_from (hI : Stable rt.toPython I) (ht : From rt.toPython I t) {op : Operation}
    (hop : Allowed t op) : From rt.toPython I (perform rt policy t op) := by
  obtain ⟨call, ls, budget⟩ := op
  cases call with
  | save call =>
      obtain ⟨id, link, hsaving⟩ := hop
      rcases (save_from hI ht hsaving).after rfl budget with ⟨r, u, hs, hu, h⟩ | ⟨_, h⟩
      · exact .of_sound (h.sound hs) (h.keeps hI hs hu)
      · exact h
  | get planId version =>
      exact from_of_after (get_from hI ls planId version) ht budget
  | history fuel planId => exact from_of_after (history_from hI ls fuel _ _ planId) ht budget
  | isCurrentLeaf planId => exact from_of_after (isCurrentLeaf_from hI ls planId) ht budget
  | open_ => exact from_of_after (recover_keeps hI ls) ht budget

/-- **A run**, whose operations may all be stopped. -/
theorem from_of_run (hI : Stable rt.toPython I) (ht : From rt.toPython I t₀)
    (hok : Steps.Along (step rt policy) Allowed ops t₀)
    (hrun : Steps.exec (step rt policy) ops t₀ = some t) : From rt.toPython I t := by
  refine Steps.invariant_along (fun s op s' hs hop hstep => ?_) ht hok hrun
  obtain rfl := Option.some.inj hstep
  exact perform_from hI hs hop

theorem stable_true {py : Python} : Stable py fun _ => True := fun _ _ _ _ _ _ _ _ _ _ => trivial

/-- A repository without a committed plan. -/
theorem sound_of_uncommitted (hsettled : Settled t₀) (hempty : ∀ x, isCommitted t₀ [x] = false) :
    Sound t₀ := by
  refine ⟨hsettled, fun x hx => ?_, ?_⟩
  · rw [hempty x] at hx
    cases hx
  · have hshelf : shelf t₀ = fun _ => none := funext fun x => shelf_of_uncommitted (hempty x)
    rw [hshelf]
    exact lawful_empty

/-- **Opening a repository** that was found in one of the states. -/
theorem open_from {py : Python} (hI : Stable py I) (ht : From py I t) (ls : Listing) :
    ∃ u, (recoverIncompleteTransactions ls).run ⟨t, none⟩ = (.ok (), ⟨u, none⟩) ∧ Sound u ∧ I u := by
  have hraise : ∀ e s, ¬((Stop.raised e : Stop RepositoryError) = .crash ∧ From py I s) := by
    rintro e s ⟨h, -⟩
    cases h
  obtain ⟨_, u, hrun, hu⟩ := (recover_from hI ls).completes hraise ht
  exact ⟨u, hrun, hu⟩

/-- **The committed plans form a lawful shelf** after every run from a repository without a
committed plan: whatever was called, in any order, and wherever it was stopped, opening the
repository leads to a tree in which the shelf holds every committed directory, every plan follows
the version before it, no plan is followed by two, and the parents of every plan lead back to a
first version. -/
theorem lineage_lawful (hsettled : Settled t₀) (hempty : ∀ x, isCommitted t₀ [x] = false)
    (hok : Steps.Along (step rt policy) Allowed ops t₀)
    (hrun : Steps.exec (step rt policy) ops t₀ = some t) (ls : Listing) :
    ∃ u, (recoverIncompleteTransactions ls).run ⟨t, none⟩ = (.ok (), ⟨u, none⟩) ∧
      Lawful (shelf u) ∧ (∀ x, isCommitted u [x] = true ↔ ∃ link, shelf u x = some link) ∧
      ∀ x link, shelf u x = some link →
        ∃ l, Chain (shelf u) x l ∧ (l.length : ℤ) = link.version := by
  have hsound := sound_of_uncommitted hsettled hempty
  obtain ⟨u, hopen, hu, -⟩ := open_from stable_true
    (from_of_run stable_true (.of_sound hsound trivial) hok hrun) ls
  exact ⟨u, hopen, hu.lawful, fun x => hu.committed_iff,
    fun x link hx => hu.lawful.exists_chain hx⟩

/-! ### Two versions of a plan -/

theorem latency_limit : ∀ l ∈ some (1000 : ℚ), 1 / 1000000 ≤ l := by
  intro l hl
  obtain rfl := Option.some.inj hl
  norm_num

/-- Four layers on two devices, in a second at most. -/
def limitedRoundPlan : FederatedRoundPlan :=
  { PartitionPlanRepository.fourLayerRoundPlan with
    constraints := ⟨some 1000, some 10, 0, latency_limit, PartitionPlanValidator.ten_byte_limit,
      PartitionPlanValidator.headroom_nonneg, PartitionPlanValidator.headroom_lt_one⟩ }

/-- Three layers on the first device and one on the second. -/
def firstFigures : PartitionCandidate ℚ where
  splitPoints := [3]
  partitions := [⟨"partition-1", "a", ["embedding", "attention", "feedforward"], 3, 7⟩,
    ⟨"partition-2", "b", ["head"], 1, 3⟩]
  graphNodes := [⟨"partition-1", "a"⟩, ⟨"partition-2", "b"⟩]
  graphEdges := [⟨"partition-1", "partition-2", 1, 2, "forward"⟩]
  estimatedComputeMs := 5
  estimatedTransferMs := 2
  estimatedTotalLatencyMs := 7
  totalTransferBytes := 1
  maximumMemoryPressure := Binary64.nearest (7 / 10)
  valid := true
  rejectionReasons := []
  score := Binary64.nearest (7 / 1000)
  estimatedStepTimeMs := 0
  gradientTransferBytes := 0
  maximumLoadImbalance := 0
  predictedResilienceRisk := 0

/-- The first version of a plan. -/
def firstPlan : PartitionExecutionPlan :=
  { PartitionExecutionPlan.legacy "plan-1" "job" "model" "split_inference" "1" with
    selectedCandidate := some (firstFigures.map .finite)
    valid := true
    approvedModelVersion := LegacyFederatedRoundPlanAdapter.modelVersion constantRuntime "model"
    strategyId := "inference-partition-v1"
    strategyVersion := "inference-partition-v1:1"
    inputSnapshotId := "legacy-snapshot-job"
    inputSnapshotHash := constantRuntime.sha256 ""
    confidence := 1
    deterministicSignature := constantRuntime.sha256 "" }

/-- The version after it. -/
def secondPlan : PartitionExecutionPlan :=
  { firstPlan with planId := "plan-2", planVersion := 2, parentPlanId := some "plan-1" }

/-- A call of `save` with the report of a plan. -/
def saveCall (plan : PartitionExecutionPlan) (ids : TransactionIds) : SaveCall where
  report := planningReport none limitedRoundPlan.toDict plan ⟨true, [], []⟩ .null .null
  sidecars := []
  includeLegacyReport := false
  keys := ⟨none, none, none, fun _ => ⟨fun _ => "", fun _ => ""⟩⟩
  stamps := ⟨ids.transaction, "2026-01-01T00:00:00+00:00", "2026-01-01T00:00:00+00:00"⟩
  ids := ids

/-- The report of a plan with plain names may be saved in a settled tree without the identifiers. -/
theorem saving_saveCall (ls : Listing) {plan : PartitionExecutionPlan} {ids : TransactionIds}
    (hsettled : Settled t) (hfresh : Fresh t ids plan.planId) (hproper : Text.Proper plan.planId)
    (hplain : PlainName plan.planId)
    (hparents : ∀ y ∈ plan.parentPlanId, Text.Proper y ∧ PlainName y) :
    Saving ls t (saveCall plan ids) plan.planId ⟨plan.planVersion, plan.parentPlanId⟩ where
  plan := ⟨plan.toDict, by simp [saveCall, planningReport, Json.get_cons_ne],
    named_toDict plan hproper hplain hparents⟩
  fresh := by
    intro limit u rest hrun
    obtain ⟨-, rfl⟩ := ((recover_unchanged ls hsettled) limit.isSome ⟨t, limit⟩ ⟨rfl, rfl⟩).1 () _ hrun
    exact hfresh

/-- What a call of `save` that returns leaves is sound. -/
theorem sound_of_save {call : SaveCall} {id : String} {link : Link String} (hs : Sound t)
    (hsaving : Saving ls t call id link)
    (hok : ((save rt policy ls call).run ⟨t, none⟩).1.isOk = true) :
    Sound (perform rt policy t ⟨.save call, ls, none⟩) := by
  obtain ⟨hspec, -⟩ := save_from stable_true (.of_sound hs trivial) hsaving false ⟨t, none⟩
    ⟨rfl, rfl⟩
  rcases hrun : (save rt policy ls call).run ⟨t, none⟩ with ⟨stop | r, d⟩
  · rw [hrun] at hok
    cases hok
  · have hstore : perform rt policy t ⟨.save call, ls, none⟩ =
        ((save rt policy ls call).run ⟨t, none⟩).2.store := rfl
    rw [hstore, hrun]
    obtain ⟨-, u, hu, -, hsaved⟩ := hspec r d hrun
    exact hsaved.sound hu

theorem settled_empty : Settled FileTree.empty where
  markers _ _ h := absurd rfl h
  staging _ _ := rfl
  pending _ := rfl

theorem sound_empty : Sound FileTree.empty := sound_of_uncommitted settled_empty fun _ => rfl

/-- The first version is saved in a new repository. -/
def firstSave : Operation := ⟨.save (saveCall firstPlan firstIds), Listing.byLength, none⟩

theorem saving_firstPlan (ls : Listing) :
    Saving ls FileTree.empty (saveCall firstPlan firstIds) "plan-1" ⟨1, none⟩ :=
  saving_saveCall ls settled_empty (fresh_empty (by decide)) (by decide) (by decide)
    (by intro y hy; cases hy)

/-- The repository with the first version. -/
def firstTree : FileTree Content :=
  perform constantRuntime PartitionPlanValidator.inferencePolicyDocument FileTree.empty firstSave

def secondIds : TransactionIds := ⟨⟨"4c", by simp⟩, ⟨"5b", by simp⟩, ⟨"6a", by simp⟩⟩

/-- The root entries that the second publication makes. -/
def secondNames : List String :=
  [secondIds.staging, secondIds.backup, secondIds.marker, secondIds.temporary]

set_option maxRecDepth 8000 in
theorem save_firstPlan :
    (((save constantRuntime PartitionPlanValidator.inferencePolicyDocument Listing.byLength
        (saveCall firstPlan firstIds)).run ⟨FileTree.empty, none⟩).1.isOk,
      secondNames.all fun x => (firstTree.node [x]).isNone, shelf firstTree "plan-1") =
        (true, true, some ⟨1, none⟩) := by
  decide +kernel

theorem sound_firstTree : Sound firstTree :=
  sound_of_save sound_empty (saving_firstPlan _) (Prod.mk.inj save_firstPlan).1

theorem shelf_firstTree : shelf firstTree "plan-1" = some ⟨1, none⟩ :=
  (Prod.mk.inj (Prod.mk.inj save_firstPlan).2).2

theorem saving_secondPlan (ls : Listing) :
    Saving ls firstTree (saveCall secondPlan secondIds) "plan-2" ⟨2, some "plan-1"⟩ := by
  refine saving_saveCall ls sound_firstTree.settled ⟨fun x hx => ?_, by decide⟩ (by decide)
    (by decide) ?_
  · have hall := List.all_eq_true.1 (Prod.mk.inj (Prod.mk.inj save_firstPlan).2).1 x hx
    exact Option.isNone_iff_eq_none.1 hall
  · rintro y hy
    obtain rfl := Option.some.inj hy
    exact ⟨by decide, by decide⟩

/-- The second version is saved, and may be stopped. -/
def secondSave (budget : Option ℕ) : Operation :=
  ⟨.save (saveCall secondPlan secondIds), Listing.byLength, budget⟩

/-- The repository with both versions. -/
def secondTree : FileTree Content :=
  perform constantRuntime PartitionPlanValidator.inferencePolicyDocument firstTree (secondSave none)

set_option maxRecDepth 8000 in
theorem save_secondPlan :
    (((save constantRuntime PartitionPlanValidator.inferencePolicyDocument Listing.byLength
        (saveCall secondPlan secondIds)).run ⟨firstTree, none⟩).1.isOk,
      shelf secondTree "plan-1", shelf secondTree "plan-2") =
        (true, some ⟨1, none⟩, some ⟨2, some "plan-1"⟩) := by
  decide +kernel

theorem sound_secondTree : Sound secondTree :=
  sound_of_save sound_firstTree (saving_secondPlan _) (Prod.mk.inj save_secondPlan).1

/-- Two versions of a plan are saved in a new repository, and are on its shelf. -/
theorem lineage_lawful_secondTree :
    ∃ u, (recoverIncompleteTransactions Listing.byLength).run ⟨secondTree, none⟩ =
        (.ok (), ⟨u, none⟩) ∧
      Lawful (shelf u) ∧ (∀ x, isCommitted u [x] = true ↔ ∃ link, shelf u x = some link) ∧
      (∀ x link, shelf u x = some link →
        ∃ l, Chain (shelf u) x l ∧ (l.length : ℤ) = link.version) ∧
      shelf u "plan-1" = some ⟨1, none⟩ ∧ shelf u "plan-2" = some ⟨2, some "plan-1"⟩ := by
  have hok : Steps.Along (step constantRuntime PartitionPlanValidator.inferencePolicyDocument)
      Allowed [firstSave, secondSave none] FileTree.empty := by
    refine ⟨⟨_, _, saving_firstPlan _⟩, fun t ht => ?_⟩
    obtain rfl := Option.some.inj ht
    exact ⟨⟨_, _, saving_secondPlan _⟩, fun _ _ => trivial⟩
  have hrun : Steps.exec (step constantRuntime PartitionPlanValidator.inferencePolicyDocument)
      [firstSave, secondSave none] FileTree.empty = some secondTree := rfl
  obtain ⟨u, hopen, hlawful, hshelf, hchain⟩ :=
    lineage_lawful settled_empty (fun _ => rfl) hok hrun Listing.byLength
  obtain ⟨-, rfl⟩ := ((recover_unchanged Listing.byLength sound_secondTree.settled) false
    ⟨secondTree, none⟩ ⟨rfl, rfl⟩).1 () _ hopen
  exact ⟨_, hopen, hlawful, hshelf, hchain, (Prod.mk.inj (Prod.mk.inj save_secondPlan).2).1,
    (Prod.mk.inj (Prod.mk.inj save_secondPlan).2).2⟩

/-- What an admissible publication keeps of a committed plan: everything. -/
theorem stable_entry {py : Python} (x : String) (e : Path → Option (Node Content)) :
    Stable py fun t => isCommitted t [x] = true ∧ entry t x = e := by
  rintro u t pub ids link hs ⟨hx, he⟩ hset ha hr
  have hentry : entry t x = entry u x := hr.frame.others x (notMem_ownNames hset ha.new hx)
  exact ⟨(isCommitted_of_entry hentry).trans hx, hentry.trans he⟩

/-- **A committed plan is kept.**  In every state of every later run, also where an operation was
stopped half-way, its directory is what it was, and `get` returns the report it returned. -/
theorem committed_kept (hs : Sound t₀) (hok : Steps.Along (step rt policy) Allowed ops t₀)
    (hrun : Steps.exec (step rt policy) ops t₀ = some t) {x : String}
    (hx : isCommitted t₀ [x] = true) :
    entry t x = entry t₀ x ∧ ∃ report, readJson t₀ [x, "latest.json"] = .ok report ∧
      ∀ ls, ∃ u, (get ls x none).run ⟨t, none⟩ = (.ok report, ⟨u, none⟩) := by
  have hI : Stable rt.toPython fun t => isCommitted t [x] = true ∧ entry t x = entry t₀ x :=
    stable_entry x (entry t₀ x)
  have ht := from_of_run hI (.of_sound hs ⟨hx, rfl⟩) hok hrun
  obtain ⟨report, plan, link, hheld⟩ := hs.held x hx
  refine ⟨?_, .obj report, readJson_of_content hheld.latest, fun ls => ?_⟩
  · obtain ⟨u, hu, ⟨hcommitted, hentry⟩, rfl | ⟨pub, ids, link, hset, ha, hr⟩⟩ := ht
    · exact hentry
    · exact (hr.entry_eq hset ha hcommitted).trans hentry
  · have hget : Survives (From rt.toPython fun t => isCommitted t [x] = true ∧
        entry t x = entry t₀ x) (get ls x none) (fun r _ => r = .obj report)
          (fun e _ => e = .crash) := by
      refine Survives.bind ((recover_from hI ls).weaken (fun _ h => h) (fun _ _ h => h)
        fun _ _ h => h.1) fun _ => Survives.of_eq fun u hu => ?_
      exact (getRecovered_held (hheld.of_entry hu.2.2) hu.2.1).weaken (fun _ h => h)
        (fun _ _ h => h.2) fun _ _ h => h
    obtain ⟨r, u, hrun, rfl⟩ := hget.completes (fun _ _ h => by cases h) ht
    exact ⟨u, hrun⟩

set_option maxRecDepth 8000 in
theorem staged_secondPlan :
    (perform constantRuntime PartitionPlanValidator.inferencePolicyDocument firstTree
      (secondSave (some 10))).isDir [secondIds.staging, "plan-2"] = true := by
  decide +kernel

/-- The first version is there when the save of the second was stopped in its staging directory. -/
theorem committed_kept_firstTree :
    ∃ t, t = perform constantRuntime PartitionPlanValidator.inferencePolicyDocument firstTree
        (secondSave (some 10)) ∧
      t.isDir [secondIds.staging, "plan-2"] = true ∧ entry t "plan-1" = entry firstTree "plan-1" ∧
      ∃ report, readJson firstTree ["plan-1", "latest.json"] = .ok report ∧
        ∀ ls, ∃ u, (get ls "plan-1" none).run ⟨t, none⟩ = (.ok report, ⟨u, none⟩) := by
  have hok : Steps.Along (step constantRuntime PartitionPlanValidator.inferencePolicyDocument)
      Allowed [secondSave (some 10)] firstTree :=
    ⟨⟨_, _, saving_secondPlan _⟩, fun _ _ => trivial⟩
  obtain ⟨hentry, hget⟩ := committed_kept sound_firstTree hok (Steps.exec_singleton.2 rfl)
    (committed_of_shelf shelf_firstTree)
  exact ⟨_, rfl, staged_secondPlan, hentry, hget⟩

end Runs

/-! ### The readers of the lineage -/

section Readers

variable {u : FileTree Content} {x : String} {link : Link String} {l : List String}

/-- The latest report of a plan. -/
def latestReport (t : FileTree Content) (x : String) : Json :=
  match readJson t [x, "latest.json"] with
  | .ok report => report
  | .error _ => .null

theorem Held.latestReport {report plan : Fields} (h : Held u x report plan link) :
    latestReport u x = .obj report := by
  rw [Repository.latestReport, readJson_of_content h.latest]

/-- The parent that `history` follows. -/
theorem nextPlan_held {report plan : Fields} (py : Python) (h : Held u x report plan link) :
    nextPlan py (.obj report) = .ok link.parent := by
  rw [nextPlan, planField_obj h.ofReport]
  simp only [bind, Except.bind, getField, h.named.parent]
  rcases hparent : link.parent with _ | y
  · rfl
  · obtain ⟨hproper, -⟩ := h.named.parents y (by rw [hparent]; rfl)
    simp [Json.ofOption, textOf, Json.hasLongInteger, Python.str, hproper.strip_eq,
      hproper.ne_empty, pure, Except.pure]

/-- **The loop of `history`** walks the way back to the first version. -/
theorem historyFrom_chain (py : Python) (ls : Listing) (hs : Sound u) (hl : Chain (shelf u) x l)
    {fuel : ℕ} (hfuel : l.length ≤ fuel) {seen : List String} (hseen : ∀ y ∈ l, y ∉ seen)
    (lineage : List Json) :
    Survives (· = u) (historyFrom py ls fuel seen lineage x)
      (fun r t => t = u ∧ r = some (lineage ++ l.map (latestReport u)))
      (fun e t => e = .crash ∧ t = u) := by
  have hnodup := hl.nodup hs.lawful
  induction hl generalizing fuel seen lineage with
  | @first x e hx hnone =>
      obtain ⟨fuel, rfl⟩ : ∃ n, fuel = n + 1 := ⟨fuel - 1, by simp at hfuel; omega⟩
      obtain ⟨report, plan, link, hheld⟩ := hs.held x (committed_of_shelf hx)
      have hlink := hheld.shelf (committed_of_shelf hx)
      rw [hx] at hlink
      cases hlink
      refine Survives.ite (fun hmem => absurd hmem (hseen x List.mem_cons_self)) fun _ => ?_
      refine Survives.bind (get_held ls hs.settled hheld (committed_of_shelf hx)) fun r => ?_
      refine Survives.of_fact (fun _ h => h.2) fun hr => ?_
      subst hr
      rw [nextPlan_held py hheld, hnone]
      refine Survives.bind (Survives.pure (Q := fun next t => t = u ∧ next = none)
        fun _ h => ⟨h.1, rfl⟩) fun next => ?_
      refine Survives.of_fact (fun _ h => h.2) fun hnext => ?_
      subst hnext
      refine Survives.pure fun _ h => ⟨h.1, ?_⟩
      rw [List.map_singleton, hheld.latestReport]
  | @next x y e l hx hy htail ih =>
      obtain ⟨fuel, rfl⟩ : ∃ n, fuel = n + 1 := ⟨fuel - 1, by simp at hfuel; omega⟩
      obtain ⟨report, plan, link, hheld⟩ := hs.held x (committed_of_shelf hx)
      have hlink := hheld.shelf (committed_of_shelf hx)
      rw [hx] at hlink
      cases hlink
      obtain ⟨hnotin, hrest⟩ := List.nodup_cons.1 hnodup
      refine Survives.ite (fun hmem => absurd hmem (hseen x List.mem_cons_self)) fun _ => ?_
      refine Survives.bind (get_held ls hs.settled hheld (committed_of_shelf hx)) fun r => ?_
      refine Survives.of_fact (fun _ h => h.2) fun hr => ?_
      subst hr
      rw [nextPlan_held py hheld, hy]
      refine Survives.bind (Survives.pure (Q := fun next t => t = u ∧ next = some y)
        fun _ h => ⟨h.1, rfl⟩) fun next => ?_
      refine Survives.of_fact (fun _ h => h.2) fun hnext => ?_
      subst hnext
      have hseen' : ∀ z ∈ l, z ∉ x :: seen := by
        intro z hz hmem
        rcases List.mem_cons.1 hmem with rfl | hmem
        · exact hnotin hz
        · exact hseen z (List.mem_cons_of_mem _ hz) hmem
      have hwhole : lineage ++ [.obj report] ++ l.map (latestReport u) =
          lineage ++ (x :: l).map (latestReport u) := by
        rw [List.map_cons, hheld.latestReport, List.append_assoc]
        rfl
      have hloop := ih (by simpa using hfuel) hseen' (lineage ++ [.obj report]) hrest
      rw [hwhole] at hloop
      exact hloop.weaken (fun _ h => h.1) (fun _ _ h => h) fun _ _ h => h

/-- `history` returns the latest reports on the way back. -/
theorem history_chain (py : Python) (ls : Listing) (hs : Sound u) (hl : Chain (shelf u) x l)
    {fuel : ℕ} (hfuel : l.length ≤ fuel) :
    (history py ls fuel x).run ⟨u, none⟩ =
      (.ok (some (l.map (latestReport u))), ⟨u, none⟩) := by
  have hloop := historyFrom_chain py ls hs hl hfuel (fun _ _ => List.not_mem_nil) []
  obtain ⟨r, t, hrun, rfl, rfl⟩ := hloop.completes (fun _ _ h => by cases h.1) rfl
  exact hrun

/-- **Histories do not fork**: of two histories with a plan in common, one ends with the other. -/
theorem histories_linear (py : Python) (ls : Listing) (hs : Sound u) {x' y : String}
    {l' : List String} (hl : Chain (shelf u) x l) (hl' : Chain (shelf u) x' l') (hy : y ∈ l)
    (hy' : y ∈ l') {fuel : ℕ} (hfuel : l.length ≤ fuel) (hfuel' : l'.length ≤ fuel) :
    ∃ h h', (history py ls fuel x).run ⟨u, none⟩ = (.ok (some h), ⟨u, none⟩) ∧
      (history py ls fuel x').run ⟨u, none⟩ = (.ok (some h'), ⟨u, none⟩) ∧
      (h <:+ h' ∨ h' <:+ h) := by
  refine ⟨_, _, history_chain py ls hs hl hfuel, history_chain py ls hs hl' hfuel', ?_⟩
  rcases hs.lawful.linear hl hl' hy hy' with hsuffix | hsuffix
  · exact .inl (hsuffix.map _)
  · exact .inr (hsuffix.map _)

/-- **`history` and `is_current_leaf` tell the lineage.**  In a sound repository `history` of a
committed plan ends, as soon as it is given as many steps as the plan's version says, and returns
the latest reports on the way back to the first version; the plan is the current leaf exactly when
no committed plan follows it. -/
theorem history_lineage (py : Python) (ls : Listing) (hs : Sound u) (hx : shelf u x = some link)
    {fuel : ℕ} (hfuel : link.version ≤ fuel) :
    (∃ l, Chain (shelf u) x l ∧ (l.length : ℤ) = link.version ∧
      (history py ls fuel x).run ⟨u, none⟩ = (.ok (some (l.map (latestReport u))), ⟨u, none⟩)) ∧
    ∃ b, (isCurrentLeaf ls x).run ⟨u, none⟩ = (.ok b, ⟨u, none⟩) ∧
      (b = true ↔ ∀ y d, shelf u y = some d → d.parent ≠ some x) := by
  constructor
  · obtain ⟨l, hl, hlength⟩ := hs.lawful.exists_chain hx
    exact ⟨l, hl, hlength, history_chain py ls hs hl (by omega)⟩
  · obtain ⟨report, plan, link, hheld⟩ := hs.held x (committed_of_shelf hx)
    obtain ⟨b, hb, hiff⟩ := hasPersistedChild_spec ls hs x
    have hleaf : Survives (· = u) (isCurrentLeaf ls x) (fun r t => t = u ∧ r = !b)
        (fun e _ => e = .crash) := by
      refine Survives.bind ((get_held ls hs.settled hheld (committed_of_shelf hx)).weaken
        (fun _ h => h) (fun _ _ h => h.1) fun _ _ h => h.1) fun _ => ?_
      refine Survives.bind (look_ok hb) fun child => Survives.of_fact (fun _ h => h.2) fun hc => ?_
      subst hc
      exact Survives.pure fun _ h => ⟨h.1, rfl⟩
    obtain ⟨r, t, hrun, rfl, rfl⟩ := hleaf.completes (fun _ _ h => by cases h) rfl
    refine ⟨_, hrun, ?_⟩
    rw [Bool.not_eq_true', ← Bool.not_eq_true, hiff]
    refine ⟨fun hno y d hd hparent => hno ⟨y, d, hd, hparent⟩, fun hno hfound => ?_⟩
    obtain ⟨y, d, hd, hparent⟩ := hfound
    exact hno y d hd hparent

/-- The second version is the current leaf, and its history goes back to the first. -/
theorem history_lineage_secondTree :
    (∃ l, Chain (shelf secondTree) "plan-2" l ∧ (l.length : ℤ) = 2 ∧
      (history Python.ascii Listing.byLength 2 "plan-2").run ⟨secondTree, none⟩ =
        (.ok (some (l.map (latestReport secondTree))), ⟨secondTree, none⟩)) ∧
    ∃ b, (isCurrentLeaf Listing.byLength "plan-2").run ⟨secondTree, none⟩ =
        (.ok b, ⟨secondTree, none⟩) ∧
      (b = true ↔ ∀ y d, shelf secondTree y = some d → d.parent ≠ some "plan-2") :=
  @history_lineage secondTree "plan-2" ⟨2, some "plan-1"⟩ Python.ascii Listing.byLength
    sound_secondTree (Prod.mk.inj (Prod.mk.inj save_secondPlan).2).2 2 (le_refl _)

end Readers

end Repository
end AiopsK8s
