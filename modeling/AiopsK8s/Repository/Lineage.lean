/-
# The lineage of the saved plans

The committed plan directories of a repository are a shelf of versions (`shelf`), and between two
calls the repository is sound (`Sound`): nothing is left to recover, every committed directory
holds the documents of its plan, and the shelf is lawful.

A publication that the lineage admits leaves a sound repository once it is recovered
(`Recovered.sound`), and `_validate_lineage` admits what the shelf admits
(`validateLineage_spec`).  The plan documents name the plan and its parent by texts without space
around them, which name directories in the root (`Named`): the planner writes them so
(`named_toDict`), and `_has_persisted_child` compares the names as they are written.
-/

import AiopsK8s.Lib.Lineage
import AiopsK8s.Repository.Plans
import AiopsK8s.Repository.PublishSafety

namespace AiopsK8s
namespace Repository

open Effect Files Crash Lineage AiopsK8s.Partition

/-! ### What the plan directories hold -/

/-- The place of a plan in its lineage, as its document says. -/
def linkOf (plan : Fields) : Option (Link String) :=
  match Json.get plan "plan_version", Json.get plan "parent_plan_id" with
  | .int version, .null => some ⟨version, none⟩
  | .int version, .str parent => some ⟨version, some parent⟩
  | _, _ => none

/-- The plan of the latest report of a committed plan directory. -/
def savedPlan (t : FileTree Content) (x : String) : Option Fields :=
  if isCommitted t [x] then
    match readPlan t [x, "latest.json"] with
    | .ok plan => some plan
    | .error _ => none
  else none

/-- The committed plans of a repository. -/
def shelf (t : FileTree Content) : Versions String := fun x => (savedPlan t x).bind linkOf

/-- A plan document with the names of the plan and of its parent. -/
structure Named (plan : Fields) (id : String) (link : Link String) : Prop where
  planId : Json.get plan "plan_id" = .str id
  version : Json.get plan "plan_version" = .int link.version
  parent : Json.get plan "parent_plan_id" = .ofOption .str link.parent
  proper : Text.Proper id
  plain : PlainName id
  parents : ∀ y ∈ link.parent, Text.Proper y ∧ PlainName y

/-- The document of a plan with such names, as the planner writes it. -/
theorem named_toDict (p : PartitionExecutionPlan) (hproper : Text.Proper p.planId)
    (hplain : PlainName p.planId) (hparents : ∀ y ∈ p.parentPlanId, Text.Proper y ∧ PlainName y) :
    Named p.toDict p.planId ⟨p.planVersion, p.parentPlanId⟩ where
  planId := by simp [PartitionExecutionPlan.toDict]
  version := by simp [PartitionExecutionPlan.toDict, Json.get_cons_ne]
  parent := by simp [PartitionExecutionPlan.toDict, Json.get_cons_ne]
  proper := hproper
  plain := hplain
  parents := hparents

/-- A plan directory with its latest report, which is that of its version. -/
structure Held (t : FileTree Content) (x : String) (report plan : Fields) (link : Link String) :
    Prop where
  latest : t.content [x, "latest.json"] = some (.doc (.obj report))
  version : t.content [x, "versions", toString link.version, "report.json"] =
    some (.doc (.obj report))
  ofReport : Json.get report "plan" = .obj plan
  named : Named plan x link

/-- **A repository between two calls**: nothing is left to recover, every committed plan
directory holds its documents, and the plans form a lawful shelf. -/
structure Sound (t : FileTree Content) : Prop where
  settled : Settled t
  held : ∀ x, isCommitted t [x] = true → ∃ report plan link, Held t x report plan link
  lawful : Lawful (shelf t)

section Documents

variable {t t' : FileTree Content} {x : String} {report plan : Fields} {link : Link String}

theorem Named.linkOf (h : Named plan x link) : linkOf plan = some link := by
  obtain ⟨version, parent⟩ := link
  have hversion : Json.get plan "plan_version" = .int version := h.version
  have hparent : Json.get plan "parent_plan_id" = .ofOption .str parent := h.parent
  rw [Repository.linkOf, hversion, hparent]
  cases parent <;> rfl

theorem readJson_of_content {p : Path} {v : Json} (h : t.content p = some (.doc v)) :
    readJson t p = .ok v := by
  rw [readJson, FileTree.content_eq_some.1 h]

theorem isFile_of_content {p : Path} {c : Content} (h : t.content p = some c) :
    t.isFile p = true := by
  rw [FileTree.isFile, h]
  rfl

theorem readPlan_of_content {p : Path} (h : t.content p = some (.doc (.obj report)))
    (hplan : Json.get report "plan" = .obj plan) : readPlan t p = .ok plan := by
  have hgetD : Json.getD report "plan" (.obj []) = .obj plan := by
    rw [Json.get] at hplan
    rw [Json.getD]
    rcases hlookup : report.lookup "plan" with _ | v
    · rw [hlookup] at hplan
      cases hplan
    · rw [hlookup] at hplan
      exact hplan
  rw [readPlan, readJson_of_content h]
  simp only [bind, Except.bind, hgetD]

theorem Held.readPlan (h : Held t x report plan link) :
    readPlan t [x, "latest.json"] = .ok plan :=
  readPlan_of_content h.latest h.ofReport

theorem Held.shelf (h : Held t x report plan link) (hx : isCommitted t [x] = true) :
    shelf t x = some link := by
  simp only [Repository.shelf, savedPlan, hx, h.readPlan, if_true, Option.bind_some,
    h.named.linkOf]

theorem shelf_of_uncommitted (h : isCommitted t [x] = false) : shelf t x = none := by
  simp [Repository.shelf, savedPlan, h]

theorem readPlan_of_entry (h : entry t' x = entry t x) (r : Path) :
    readPlan t' (x :: r) = readPlan t (x :: r) := by
  have hr : t'.node (x :: r) = t.node (x :: r) := congrFun h r
  simp only [readPlan, readJson, hr]

theorem shelf_of_entry (h : entry t' x = entry t x) : shelf t' x = shelf t x := by
  simp only [Repository.shelf, savedPlan, isCommitted_of_entry h, readPlan_of_entry h]

theorem Held.of_entry (h : Held t x report plan link) (he : entry t' x = entry t x) :
    Held t' x report plan link :=
  ⟨(content_of_entry he).trans h.latest, (content_of_entry he).trans h.version, h.ofReport, h.named⟩

/-- A directory with a commit marker is there. -/
theorem node_of_committed (h : isCommitted t [x] = true) : t.node [x] ≠ none := by
  obtain ⟨c, hc⟩ := FileTree.isFile_iff.1 h
  have hdir : t.node [x] = some .dir := by
    have hrooted := t.rooted ([x] ++ [commitFile]) (by simp) (by rw [hc]; simp)
    simpa using hrooted
  rw [hdir]
  simp

/-- What is not a directory has no commit marker. -/
theorem uncommitted_of_not_dir (h : t.isDir [x] = false) : isCommitted t [x] = false := by
  rw [Bool.eq_false_iff]
  intro hcommitted
  obtain ⟨c, hc⟩ := FileTree.isFile_iff.1 hcommitted
  have hdir : t.node [x] = some .dir := by
    have hrooted := t.rooted ([x] ++ [commitFile]) (by simp) (by rw [hc]; simp)
    simpa using hrooted
  rw [FileTree.isDir_iff.2 hdir] at h
  cases h

end Documents

/-! ### What a publication adds -/

section Publication

variable {py : Python} {pub : Publication py} {ids : TransactionIds} {t₀ t : FileTree Content}
  {link : Link String} {x : String}

/-- A publication that the lineage of the tree admits. -/
structure Admissible (t₀ : FileTree Content) (pub : Publication py) (link : Link String) :
    Prop where
  plan : ∃ plan, Json.get pub.report "plan" = .obj plan ∧ Named plan pub.name link
  version : (pub.version : ℤ) = link.version
  new : isCommitted t₀ [pub.name] = false
  admits : Admits (shelf t₀) link

theorem isDir_of_none (h : t.node [x] = none) : t.isDir [x] = false := by
  simp [FileTree.isDir, h]

/-- After a recovery the plan directory is the only one of the publication's own entries that
may be a directory. -/
theorem Recovered.own_not_dir (hr : Recovered pub ids t₀ t) (hx : x ∈ ownNames pub ids)
    (hne : x ≠ pub.name) : t.isDir [x] = false := by
  simp only [ownNames, List.mem_cons, List.not_mem_nil, or_false] at hx
  rcases hx with rfl | rfl | rfl | rfl | rfl
  · exact absurd rfl hne
  · exact isDir_of_none hr.staging
  · exact isDir_of_none hr.unmarked.backup
  · exact isDir_of_none hr.unmarked.marker
  · exact hr.frame.temporary

/-- A plan that was committed before is none of the publication's own entries. -/
theorem notMem_ownNames (h : Setting pub ids t₀) (hnew : isCommitted t₀ [pub.name] = false)
    (hx : isCommitted t₀ [x] = true) : x ∉ ownNames pub ids := by
  intro hmem
  rcases List.mem_cons.1 hmem with rfl | hmem
  · rw [hnew] at hx
    cases hx
  · exact node_of_committed hx (h.fresh.absent x hmem)

/-- **A recovery leaves nothing to recover**, if nothing was left before the publication. -/
theorem Recovered.settled (h : Setting pub ids t₀) (hs : Settled t₀)
    (hr : Recovered pub ids t₀ t) : Settled t where
  markers := by
    intro y hy hnode
    rcases eq_or_ne y ids.marker with rfl | hne
    · exact absurd hr.unmarked.marker hnode
    · have hentry := hr.frame.others y (marker_notMem_ownNames h hy hne)
      have heq : t.node [y] = t₀.node [y] := congrFun hentry []
      rw [readMarker_of_entry hentry]
      exact hs.markers y hy (heq ▸ hnode)
  staging := by
    intro y hy
    rcases eq_or_ne y ids.staging with rfl | hne
    · exact isDir_of_none hr.staging
    · rw [isDir_of_entry (hr.frame.others y (staging_notMem_ownNames h hy hne))]
      exact hs.staging y hy
  pending := by
    intro y
    by_cases hmem : y ∈ ownNames pub ids
    · rcases eq_or_ne y pub.name with rfl | hne
      · rcases hr.consistent with hk | hp
        · rw [isPending_of_entry hk.plan, hs.pending]
        · simp [isPending, hp.committed]
      · simp [isPending, hr.own_not_dir hmem hne]
    · rw [isPending_of_entry (hr.frame.others y hmem), hs.pending]

/-- The documents of a publication. -/
theorem Published.held {plan : Fields} (hp : Published pub ids t)
    (hplan : Json.get pub.report "plan" = .obj plan) (hnamed : Named plan pub.name link)
    (hversion : (pub.version : ℤ) = link.version) : Held t pub.name pub.report plan link where
  latest := hp.documents.latest
  version := by
    have hreport := hp.documents.versionReport
    have htext : toString pub.version = toString link.version := by
      rw [← hversion]
      rfl
    rw [Publication.versionDirectory, htext] at hreport
    exact hreport
  ofReport := hplan
  named := hnamed

/-- **A recovery after an admissible publication leaves a sound repository.** -/
theorem Recovered.sound (h : Setting pub ids t₀) (hs : Sound t₀) (ha : Admissible t₀ pub link)
    (hr : Recovered pub ids t₀ t) : Sound t := by
  obtain ⟨plan, hplan, hnamed⟩ := ha.plan
  refine ⟨hr.settled h hs.settled, fun x hx => ?_, ?_⟩
  · by_cases hmem : x ∈ ownNames pub ids
    · rcases eq_or_ne x pub.name with rfl | hne
      · rcases hr.consistent with hk | hp
        · rw [isCommitted_of_entry hk.plan, ha.new] at hx
          cases hx
        · exact ⟨_, _, _, hp.held hplan hnamed ha.version⟩
      · rw [uncommitted_of_not_dir (hr.own_not_dir hmem hne)] at hx
        cases hx
    · have hentry := hr.frame.others x hmem
      rw [isCommitted_of_entry hentry] at hx
      obtain ⟨report, plan, link, hheld⟩ := hs.held x hx
      exact ⟨report, plan, link, hheld.of_entry hentry⟩
  · -- the shelf is the old one, or has one plan more
    have hother : ∀ x, x ≠ pub.name → shelf t x = shelf t₀ x := by
      intro x hne
      by_cases hmem : x ∈ ownNames pub ids
      · rw [shelf_of_uncommitted (uncommitted_of_not_dir (hr.own_not_dir hmem hne)),
          shelf_of_uncommitted (uncommitted_of_not_dir (isDir_of_none (h.fresh.absent x
            ((List.mem_cons.1 hmem).resolve_left hne))))]
      · exact shelf_of_entry (hr.frame.others x hmem)
    have hold : shelf t₀ pub.name = none := shelf_of_uncommitted ha.new
    rcases hr.consistent with hk | hp
    · have hsame : shelf t = shelf t₀ := by
        funext x
        rcases eq_or_ne x pub.name with rfl | hne
        · exact shelf_of_entry hk.plan
        · exact hother x hne
      rw [hsame]
      exact hs.lawful
    · have hmore : shelf t = Function.update (shelf t₀) pub.name (some link) := by
        funext x
        rcases eq_or_ne x pub.name with rfl | hne
        · rw [Function.update_self]
          exact (hp.held hplan hnamed ha.version).shelf hp.committed
        · rw [Function.update_of_ne hne, hother x hne]
      rw [hmore]
      exact hs.lawful.insert hold ha.admits

/-- While a publication is under way, a plan that was committed before is as it was. -/
theorem Recoverable.entry_eq (h : Setting pub ids t₀) (ha : Admissible t₀ pub link)
    (hr : Recoverable pub ids t₀ t) (hx : isCommitted t₀ [x] = true) : entry t x = entry t₀ x :=
  hr.frame.others x (notMem_ownNames h ha.new hx)

end Publication

/-! ### Reading -/

/-- What a program returned, it returned in a run. -/
theorem survives_ran {α : Type} {m : Work α} {s : FileTree Content}
    {Q : α → FileTree Content → Prop} {E : Stop RepositoryError → FileTree Content → Prop}
    (h : Survives (· = s) m Q E) : Survives (· = s) m
      (fun a s' => Q a s' ∧ ∃ limit rest, m.run ⟨s, limit⟩ = (.ok a, ⟨s', rest⟩)) E := by
  rintro limited ⟨s', limit⟩ hd
  obtain rfl : s' = s := hd.2
  obtain ⟨hok, herr⟩ := h limited _ hd
  refine ⟨fun a d hr => ?_, herr⟩
  obtain ⟨hb, hq⟩ := hok a d hr
  exact ⟨hb, hq, limit, d.budget, hr⟩

section Reading

variable {α β : Type} {P : FileTree Content → Prop} {u : FileTree Content}

theorem orRaise_spec {x : Except RepositoryError α} :
    Survives P (orRaise x) (fun a t => P t ∧ x = .ok a) (fun _ => P) := by
  rcases x with e | a
  · exact Survives.throwing fun _ h => h
  · exact Survives.pure fun _ h => ⟨h, rfl⟩

theorem look_spec {f : FileTree Content → Except RepositoryError α} :
    Survives (· = u) (look f) (fun a t => t = u ∧ f u = .ok a) (fun _ t => t = u) := by
  refine Survives.bind Survives.observe fun x => ?_
  refine Survives.of_fact (φ := x = f u) (fun t ht => by rw [ht.2, ht.1]) fun hx => ?_
  subst hx
  exact orRaise_spec.weaken (fun _ h => h.1) (fun _ _ h => h) fun _ _ h => h

theorem look_ok {f : FileTree Content → Except RepositoryError α} {a : α}
    {E : Stop RepositoryError → FileTree Content → Prop} (h : f u = .ok a) :
    Survives (· = u) (look f) (fun b t => t = u ∧ b = a) E := by
  refine Survives.bind Survives.observe fun x => ?_
  refine Survives.of_fact (φ := x = .ok a) (fun t ht => by rw [ht.2, ht.1, h]) fun hx => ?_
  subst hx
  exact Survives.pure fun _ h => ⟨h.1, rfl⟩

theorem orRaise_keeps (x : Except RepositoryError α) : Keeps P (orRaise x) :=
  orRaise_spec.weaken (fun _ h => h) (fun _ _ h => h.1) fun _ _ h => h

theorem look_keeps (f : FileTree Content → Except RepositoryError α) : Keeps P (look f) :=
  Keeps.bind (Keeps.observe f) orRaise_keeps

theorem mapError_spec {f : RepositoryError → RepositoryError} {m : Work α}
    {Q : α → FileTree Content → Prop} (h : Survives P m Q (fun _ t => t = u)) :
    Survives P (mapError f m) Q (fun _ t => t = u) := by
  intro limited d hd
  obtain ⟨hok, herr⟩ := h limited d hd
  rcases hr : m d with ⟨stop | a, d'⟩
  · have hstop := herr _ _ hr
    rcases stop with _ | e
    · have hrun : (mapError f m).run d = (.error .crash, d') := by simp only [mapError, Eff.run, hr]
      refine ⟨fun a d'' h => ?_, fun e d'' h => ?_⟩ <;> rw [hrun] at h <;> cases h
      exact hstop
    · have hrun : (mapError f m).run d = (.error (.raised (f e)), d') := by
        simp only [mapError, Eff.run, hr]
      refine ⟨fun a d'' h => ?_, fun e d'' h => ?_⟩ <;> rw [hrun] at h <;> cases h
      exact ⟨hstop.1, (by intro h; cases h), hstop.2.2⟩
  · have hrun : (mapError f m).run d = (.ok a, d') := by simp only [mapError, Eff.run, hr]
    refine ⟨fun b d'' h => ?_, fun e d'' h => ?_⟩ <;> rw [hrun] at h <;> cases h
    exact hok _ _ hr

/-- **A recovery of a settled tree changes nothing.** -/
theorem recover_unchanged (ls : Listing) (hu : Settled u) :
    Survives (· = u) (recoverIncompleteTransactions ls) (fun _ t => t = u)
      (fun e t => e = .crash ∧ t = u) := by
  refine Survives.test (Survives.bind Survives.observe fun markers => ?_) (Survives.pure fun _ h => h.1)
  refine Survives.of_fact (φ := markers = (rootNames ls u).filter isMarkerName)
    (fun t ht => by rw [ht.2, ht.1.1]) fun hmarkers => ?_
  refine Survives.bind (Q := fun _ t => t = u) (Survives.weaken (P := fun t => t = u)
    (Survives.forM (fun _ t => t = u) fun x rest hsuffix => ?_) (fun _ h => h.1.1) (fun _ _ h => h)
      fun _ _ h => h) fun _ => ?_
  · have hx := hsuffix.subset List.mem_cons_self
    rw [hmarkers, List.mem_filter] at hx
    refine Survives.bind Survives.observe fun read => ?_
    refine Survives.of_fact (φ := read = .ok none) ?_ fun hread => ?_
    · rintro t ⟨rfl, rfl⟩
      exact hu.markers x hx.2 (mem_rootNames.1 hx.1)
    · subst hread
      exact Survives.pure fun _ h => h.1
  · refine Survives.bind Survives.observe fun entries => ?_
    refine Survives.weaken (P := fun t => t = u) (Survives.forM (fun _ t => t = u)
      fun x rest _ => ?_) (fun _ h => h.1) (fun _ _ h => h) fun _ _ h => h
    refine Survives.ite (fun hx => ?_) fun _ => Survives.test (Survives.of_fact (φ := False) ?_
      False.elim) (Survives.pure fun _ h => h.1)
    · refine removeTree_rule (fun t t' ht hdir _ => ?_) fun t t' ht hq => ?_
      · rw [ht, hu.staging x hx] at hdir
        cases hdir
      · rw [ht, hu.staging x hx] at hq
        exact hq
    · rintro t ⟨rfl, hp⟩
      rw [hu.pending x] at hp
      cases hp

variable (ls : Listing) (hu : Settled u)

include hu

theorem recover_read : Survives (· = u) (recoverIncompleteTransactions ls) (fun _ t => t = u)
    (fun _ t => t = u) :=
  (recover_unchanged ls hu).weaken (fun _ h => h) (fun _ _ h => h) fun _ _ h => h.2

/-- **`get`** reads the latest report of a committed plan. -/
theorem get_spec (id : String) : Survives (· = u) (get ls id none)
    (fun report t => t = u ∧ isCommitted u (pathParts id) = true ∧
      readJson u (pathParts id ++ ["latest.json"]) = .ok report) (fun _ t => t = u) := by
  refine Survives.bind (recover_read ls hu) fun _ => Survives.bind orRaise_spec fun path => ?_
  refine Survives.of_fact (φ := path = pathParts id ++ ["latest.json"])
    (fun t ht => (Except.ok.inj ht.2).symm) fun hpath => ?_
  subst hpath
  refine look_spec.weaken (fun _ h => h.1) (fun report t h => ⟨h.1, ?_⟩) fun _ _ h => h
  obtain ⟨-, hreport⟩ := h
  split_ifs at hreport with hfound
  exact ⟨(Bool.and_eq_true_iff.1 hfound).1, hreport⟩

end Reading

section Held

variable {u : FileTree Content} {x : String} {report plan : Fields} {link : Link String}

/-- `get` finds a plan that is held. -/
theorem getRecovered_held (hheld : Held u x report plan link) (hx : isCommitted u [x] = true)
    {E : Stop RepositoryError → FileTree Content → Prop} :
    Survives (· = u) (getRecovered x none) (fun r t => t = u ∧ r = .obj report) E := by
  have hpath : pathParts x = [x] := hheld.named.plain.pathParts
  have hfound : (isCommitted u [x] && u.isFile ([x] ++ ["latest.json"])) = true := by
    have hfile : u.isFile ([x] ++ ["latest.json"]) = true := isFile_of_content hheld.latest
    rw [hx, hfile]
    rfl
  have hread : readJson u ([x] ++ ["latest.json"]) = .ok (.obj report) :=
    readJson_of_content hheld.latest
  unfold getRecovered
  rw [hpath]
  refine Survives.bind (Survives.pure (Q := fun path t => t = u ∧ path = [x] ++ ["latest.json"])
    fun _ h => ⟨h, rfl⟩) fun path => ?_
  refine Survives.of_fact (fun _ h => h.2) fun hpath' => ?_
  subst hpath'
  refine (look_ok ?_).weaken (fun _ h => h.1) (fun _ _ h => h) fun _ _ h => h
  simp only [hfound, if_true, hread]

theorem get_held (ls : Listing) (hu : Settled u) (hheld : Held u x report plan link)
    (hx : isCommitted u [x] = true) :
    Survives (· = u) (get ls x none) (fun r t => t = u ∧ r = .obj report)
      (fun e t => e = .crash ∧ t = u) :=
  Survives.bind (recover_unchanged ls hu) fun _ => getRecovered_held hheld hx

end Held

/-! ### The checks of `save` -/

section Checks

variable {u : FileTree Content} {plan report : Fields} {id y : String} {link : Link String}

theorem planField_obj (h : Json.get report "plan" = .obj plan) :
    planField (.obj report) = .ok (.obj plan) := by
  rw [Json.get] at h
  rcases hlookup : report.lookup "plan" with _ | v
  · rw [hlookup] at h
    cases h
  · rw [hlookup] at h
    obtain rfl : v = .obj plan := h
    rw [planField, hlookup]

/-- The loop of `_has_persisted_child` finds a plan that follows the given one. -/
theorem hasChildAmong_spec (hs : Sound u) (y : String) (names : List String) :
    ∃ b, hasChildAmong u y names = .ok b ∧
      (b = true ↔ ∃ x ∈ names, ∃ d, shelf u x = some d ∧ d.parent = some y) := by
  induction names with
  | nil => exact ⟨false, rfl, by simp⟩
  | cons x rest ih =>
      obtain ⟨b, hb, hiff⟩ := ih
      by_cases hx : isCommitted u [x] = true
      · obtain ⟨report, plan, link, hheld⟩ := hs.held x hx
        have hshelf := hheld.shelf hx
        have hfound : (isCommitted u [x] && u.isFile [x, "latest.json"]) = true := by
          rw [hx, isFile_of_content hheld.latest]
          rfl
        have hequal : (Json.get plan "parent_plan_id").equal (.str y) = decide (link.parent = some y) := by
          rw [hheld.named.parent]
          rcases link.parent with _ | z
          · simp [Json.ofOption]
          · simp [Json.ofOption]
        have hstep : hasChildAmong u y (x :: rest) =
            if link.parent = some y then .ok true else hasChildAmong u y rest := by
          rw [hasChildAmong, if_pos hfound, hheld.readPlan]
          simp only [bind, Except.bind, hequal, decide_eq_true_eq]
        rw [hstep]
        by_cases hparent : link.parent = some y
        · rw [if_pos hparent]
          exact ⟨true, rfl, fun _ => ⟨x, List.mem_cons_self, link, hshelf, hparent⟩, fun _ => rfl⟩
        · rw [if_neg hparent]
          refine ⟨b, hb, hiff.trans (Iff.intro ?_ ?_)⟩
          · rintro ⟨z, hz, hd⟩
            exact ⟨z, List.mem_cons_of_mem _ hz, hd⟩
          rintro ⟨z, hz, d, hd, hy⟩
          rcases List.mem_cons.1 hz with rfl | hz
          · rw [hshelf] at hd
            cases hd
            exact absurd hy hparent
          · exact ⟨z, hz, d, hd, hy⟩
      · have hx' : isCommitted u [x] = false := by simpa using hx
        have hstep : hasChildAmong u y (x :: rest) = hasChildAmong u y rest := by
          rw [hasChildAmong, if_neg (by simp [hx'])]
        rw [hstep]
        refine ⟨b, hb, hiff.trans (Iff.intro ?_ ?_)⟩
        · rintro ⟨z, hz, hd⟩
          exact ⟨z, List.mem_cons_of_mem _ hz, hd⟩
        rintro ⟨z, hz, d, hd, hy⟩
        rcases List.mem_cons.1 hz with rfl | hz
        · rw [shelf_of_uncommitted hx'] at hd
          cases hd
        · exact ⟨z, hz, d, hd, hy⟩

theorem committed_of_shelf {x : String} (h : shelf u x = some link) : isCommitted u [x] = true := by
  by_contra hx
  rw [shelf_of_uncommitted (by simpa using hx)] at h
  cases h

/-- The shelf of a sound repository holds every committed plan directory. -/
theorem Sound.committed_iff (hs : Sound u) {x : String} :
    isCommitted u [x] = true ↔ ∃ link, shelf u x = some link := by
  refine ⟨fun hx => ?_, fun ⟨_, hlink⟩ => committed_of_shelf hlink⟩
  obtain ⟨report, plan, link, hheld⟩ := hs.held x hx
  exact ⟨link, hheld.shelf hx⟩

/-- **`_has_persisted_child`** tells whether a committed plan follows the given one. -/
theorem hasPersistedChild_spec (ls : Listing) (hs : Sound u) (y : String) :
    ∃ b, hasPersistedChild ls u y = .ok b ∧
      (b = true ↔ ∃ x d, shelf u x = some d ∧ d.parent = some y) := by
  unfold hasPersistedChild
  split_ifs with hroot
  · obtain ⟨b, hb, hiff⟩ := hasChildAmong_spec hs y (rootNames ls u)
    refine ⟨b, hb, hiff.trans (Iff.intro ?_ ?_)⟩
    · rintro ⟨x, _, d, hd⟩
      exact ⟨x, d, hd⟩
    rintro ⟨x, d, hd, hy⟩
    exact ⟨x, mem_rootNames.2 (node_of_committed (committed_of_shelf hd)), d, hd, hy⟩
  · refine ⟨false, rfl, by simp, fun hfound => absurd ?_ hroot⟩
    obtain ⟨x, d, hd, -⟩ := hfound
    have hdir := u.rooted [x] (by simp) (node_of_committed (committed_of_shelf hd))
    exact FileTree.isDir_iff.2 hdir

/-- **`_validate_lineage`** admits what the shelf admits. -/
theorem validateLineage_spec (py : Python) (ls : Listing) (hs : Sound u) (hnamed : Named plan id link)
    (hpositive : 1 ≤ link.version) :
    Survives (· = u) (validateLineage py ls plan link.version)
      (fun _ t => t = u ∧ Admits (shelf u) link) (fun _ t => t = u) := by
  unfold validateLineage
  simp only [hnamed.parent]
  refine Survives.ite (fun hone => ?_) fun hone => ?_
  · refine orRaise_spec.weaken (fun _ h => h) (fun _ t h => ⟨h.1, ?_⟩) fun _ _ h => h
    have hnone : link.parent = none := by
      have hnull := require_eq_ok.1 h.2
      rcases hparent : link.parent with _ | y
      · rfl
      · rw [hparent] at hnull
        cases hnull
    refine ⟨hpositive, fun _ => hone, fun {y} hy => ?_, fun {y x d} hy => ?_⟩ <;>
      rw [hnone] at hy <;> cases hy
  · refine Survives.bind orRaise_spec fun parent => ?_
    refine Survives.of_fact (fun _ h => h.2) fun hstripped => ?_
    refine Survives.bind (Q := fun _ t => t = u ∧ parent.1 ≠ "") (orRaise_spec.weaken
      (fun _ h => h.1) (fun _ _ h => ⟨h.1, by simpa using require_eq_ok.1 h.2⟩) fun _ _ h => h)
      fun _ => ?_
    refine Survives.of_fact (fun _ h => h.2) fun hne => ?_
    rcases hparent : link.parent with _ | y
    · rw [hparent] at hstripped
      obtain rfl : parent = ⟨"", fun h => absurd rfl h⟩ := (Except.ok.inj hstripped).symm
      exact absurd rfl hne
    obtain ⟨hproper, hplain⟩ := hnamed.parents y (by rw [hparent]; rfl)
    obtain rfl : parent = ⟨y, fun _ => hproper⟩ := by
      rw [hparent, Json.ofOption, stripped_proper hproper] at hstripped
      exact (Except.ok.inj hstripped).symm
    refine Survives.bind ((mapError_spec (get_spec ls hs.settled y)).weaken (fun _ h => h.1)
      (fun _ _ h => h) fun _ _ h => h) fun found => ?_
    refine Survives.of_fact (fun _ h => h.2) fun hfound => ?_
    rw [hplain.pathParts] at hfound
    obtain ⟨report', plan', link', hheld⟩ := hs.held y hfound.1
    have hread : readJson u ([y] ++ ["latest.json"]) = .ok (.obj report') :=
      readJson_of_content hheld.latest
    obtain rfl : found = .obj report' := by
      rw [hread] at hfound
      exact (Except.ok.inj hfound.2).symm
    have hversion : (do getField "plan_version" (← planField (.obj report'))) =
        (.ok (.int link'.version) : Except RepositoryError Json) := by
      rw [planField_obj hheld.ofReport]
      simp only [bind, Except.bind, getField, hheld.named.version]
    rw [hversion]
    refine Survives.bind (Q := fun v t => t = u ∧ v = .int link'.version) (orRaise_spec.weaken
      (fun _ h => h.1) (fun _ _ h => ⟨h.1, (Except.ok.inj h.2).symm⟩) fun _ _ h => h) fun v => ?_
    refine Survives.of_fact (fun _ h => h.2) fun hv => ?_
    subst hv
    refine Survives.bind (Q := fun _ t => t = u ∧ link'.version = link.version - 1)
      (orRaise_spec.weaken (fun _ h => h.1) (fun _ _ h => ⟨h.1, by
        simpa using require_eq_ok.1 h.2⟩) fun _ _ h => h) fun _ => ?_
    refine Survives.of_fact (fun _ h => h.2) fun hbefore => ?_
    obtain ⟨b, hb, hiff⟩ := hasPersistedChild_spec ls hs y
    refine Survives.bind (look_spec.weaken (fun _ h => h.1) (fun _ _ h => h) fun _ _ h => h)
      fun child => ?_
    refine orRaise_spec.weaken (fun _ h => h) (fun _ t h => ⟨h.1.1, ?_⟩) fun _ _ h => h.1
    have hchild : child = b := by
      have heq := h.1.2
      rw [hb] at heq
      exact (Except.ok.inj heq).symm
    have hno : b = false := by
      have hnot := require_eq_ok.1 h.2
      rw [hchild] at hnot
      simpa using hnot
    refine ⟨hpositive, fun hnone => ?_, fun {z} hz => ?_, fun {z x d} hz hd hy => ?_⟩
    · rw [hparent] at hnone
      cases hnone
    · rw [hparent] at hz
      obtain rfl := Option.some.inj hz
      exact ⟨link', hheld.shelf hfound.1, by omega⟩
    · rw [hparent] at hz
      obtain rfl := Option.some.inj hz
      have htrue := hiff.2 ⟨x, d, hd, hy⟩
      rw [hno] at htrue
      cases htrue

/-- What `_plan_identity` finds. -/
theorem planIdentity_spec {py : Python} {version : ℤ} {found : Fields}
    (hplan : Json.get report "plan" = .obj plan) (hnamed : Named plan id link)
    (h : planIdentity py report = .ok (found, version)) :
    found = plan ∧ version = link.version ∧ 1 ≤ link.version := by
  rw [planIdentity, hplan] at h
  obtain ⟨planId, _, h⟩ := bind_eq_ok h
  obtain ⟨signature, _, h⟩ := bind_eq_ok h
  rw [hnamed.version, versionOf] at h
  split_ifs at h with hone
  · obtain ⟨_, _, h⟩ := bind_eq_ok h
    obtain ⟨rfl, rfl⟩ := Prod.mk.inj (Except.ok.inj h)
    exact ⟨rfl, rfl, hone⟩

/-- A plan directory that passes the first checks of `save` is a new one. -/
theorem uncommitted_of_checks (hs : Sound u) {signature : Json} {v : Unit}
    (hversion : checkVersion u [id] link.version = .ok v)
    (hpersisted : isPersisted u [id] ([id] ++ ["versions", toString link.version, "report.json"])
      signature = .ok false) : isCommitted u [id] = false := by
  rw [Bool.eq_false_iff]
  intro hcommitted
  obtain ⟨report, plan, link', hheld⟩ := hs.held id hcommitted
  have hlatest : u.isFile ([id] ++ ["latest.json"]) = true := isFile_of_content hheld.latest
  have hread : readPlan u ([id] ++ ["latest.json"]) = .ok plan := hheld.readPlan
  rw [checkVersion, hcommitted, hlatest, hread] at hversion
  simp only [Bool.and_self, if_true, bind, Except.bind, hheld.named.version] at hversion
  have hsame : link'.version = link.version := by simpa using require_eq_ok.1 hversion
  have hfile : u.isFile ([id] ++ ["versions", toString link.version, "report.json"]) = true := by
    rw [← hsame]
    exact isFile_of_content hheld.version
  rw [isPersisted, hcommitted, hfile] at hpersisted
  simp only [Bool.and_self, if_true] at hpersisted
  obtain ⟨existing, _, h⟩ := bind_eq_ok hpersisted
  obtain ⟨_, _, h⟩ := bind_eq_ok h
  cases Except.ok.inj h

end Checks

end Repository
end AiopsK8s
