/-
# When a job is stored as completed

`_run_job` starts from `completed`, and each attempt that did not complete is meant to overwrite
it.  `recordAttempt` does so for three of the four statuses that are not `completed`: an attempt
that ends `interrupted` leaves the status of the job alone.  An exception that `except Exception`
does not catch leaves it alone as well, and the `finally` block stores it.  The third way to a
wrong `completed` is the event that is set between its last test and `set_result`.

`stores_true_status` is that nothing else goes wrong, in any order of the statements of the thread
and its callers: without these three steps `completed` is stored if and only if every repetition
ran and completed, none raised and no cancellation was requested.
-/

import AiopsK8s.Jobs.Cancellation

namespace AiopsK8s
namespace Jobs

open Steps
open Experiment (Fields)

/-- What `_job_status` makes of a recorded attempt. -/
def attemptStatus (py : Python) (attempt : Fields) : ExperimentJobStatus :=
  jobStatus (py.str (Json.get attempt "status"))

/-- The entry of `attempts` for a result. -/
def recorded (serialized detection : Fields) : Fields :=
  if detection.isEmpty then serialized else Json.set serialized "detection" (.obj detection)

/-- The attempts of a stored aggregate. -/
def Outcome.attempts (o : Outcome) : List Fields :=
  match Json.get (o.result.getD []) "attempts" with
  | .arr items => items.filterMap fun item => match item with
    | .obj fields => some fields
    | _ => none
  | _ => []

/-- The attempts before the one under way have all left the status `completed`. -/
def RunnerPhase.unharmed : RunnerPhase → Bool
  | attempting _ _ p => p.terminalStatus = .completed
  | _ => false

/-- An attempt that ends `interrupted`; one that raises an exception that is not caught while the
status is `completed` and the event is not set; or the event set between its last test and
`set_result` while the status is `completed`. -/
def Misreports (py : Python) (s : State) : Action → Prop
  | .returned serialized detection => attemptStatus py (recorded serialized detection) = .interrupted
  | .raised none => s.runner.unharmed = true ∧ s.cancellation = false
  | .client i _ => s.clients i = .cancelSignalling ∧ s.runner.stored = none ∧
      s.runner.decided = some .completed
  | _ => False

instance decidableMisreports (py : Python) (s : State) : ∀ a, Decidable (Misreports py s a)
  | .returned serialized detection => inferInstanceAs
      (Decidable (attemptStatus py (recorded serialized detection) = .interrupted))
  | .client i _ => inferInstanceAs (Decidable (s.clients i = .cancelSignalling ∧
      s.runner.stored = none ∧ s.runner.decided = some .completed))
  | .raised none => inferInstanceAs
      (Decidable (s.runner.unharmed = true ∧ s.cancellation = false))
  | .raised (some _) => isFalse id
  | .runner _ => isFalse id
  | .emit _ => isFalse id
  | .cancel _ => isFalse id
  | .delete _ => isFalse id

section Runs

variable (py : Python) (experimentId : String) (request : JobRequest)

/-- The step that stores an outcome stores `completed` if and only if every repetition ran and
completed, none raised and the event is not set; no attempt of the aggregate contradicts it. -/
structure TrueStatus (before : List Action) (s : State) (o : Outcome) : Prop where
  completed : o.status = .completed ↔
    o.attempts.length = request.repetitions ∧
      (∀ attempt ∈ o.attempts, attemptStatus py attempt = .completed) ∧
        (∀ error, .raised error ∉ before) ∧ s.cancellation = false
  uncompleted : (∃ attempt ∈ o.attempts, attemptStatus py attempt ≠ .completed) →
    o.status ≠ .completed

/-- Whatever a run stores has a true status. -/
def StoresTrueStatus (acts : List Action) (s₀ : State) : Prop :=
  ∀ before now after s t o, acts = before ++ .runner now :: after →
    exec (step py experimentId) before s₀ = some s →
      step py experimentId s (.runner now) = some t →
        s.runner.stored = none → t.runner.stored = some o → TrueStatus py request before s o

end Runs

/-! ### One attempt -/

/-- Every text maps to a terminal status. -/
theorem jobStatus_terminal (runtimeStatus : String) :
    (jobStatus runtimeStatus).terminal = true := by
  unfold jobStatus
  dsimp only
  split_ifs <;> rfl

/-- A missing status counts as one that failed, under either name. -/
theorem attemptStatus_recorded (py : Python) (serialized detection : Fields) :
    attemptStatus py (recorded serialized detection) =
      jobStatus (py.str (Json.getD (recorded serialized detection) "status" (.str "failed"))) := by
  unfold attemptStatus Json.get Json.getD
  rcases (recorded serialized detection).lookup "status" with - | status
  · have hnone : jobStatus "None" = jobStatus "failed" := by decide +kernel
    exact hnone
  · rfl

/-- What the status of a recorded attempt changes. -/
def recordStatus (p : Progress) (attempt : Fields) : ExperimentJobStatus → Progress × Bool
  | .cancelled => (⟨p.attempts ++ [attempt], .cancelled, p.error⟩, true)
  | .blocked => (⟨p.attempts ++ [attempt], .blocked, p.error⟩, false)
  | .failed => (⟨p.attempts ++ [attempt], .failed, p.error⟩, false)
  | _ => (⟨p.attempts ++ [attempt], p.terminalStatus, p.error⟩, false)

theorem recordAttempt_eq (py : Python) (p : Progress) (serialized detection : Fields) :
    recordAttempt py p serialized detection =
      recordStatus p (recorded serialized detection)
        (attemptStatus py (recorded serialized detection)) := by
  rw [attemptStatus_recorded]
  rfl

/-- **What recording an attempt does**, unless it was interrupted: it joins the attempts, and the
status stays `completed` only if it completed. -/
theorem recordAttempt_spec (py : Python) (p : Progress) (serialized detection : Fields)
    (h : attemptStatus py (recorded serialized detection) ≠ .interrupted) :
    (recordAttempt py p serialized detection).1.attempts =
        p.attempts ++ [recorded serialized detection] ∧
      ((recordAttempt py p serialized detection).1.terminalStatus = .completed ↔
        p.terminalStatus = .completed ∧
          attemptStatus py (recorded serialized detection) = .completed) ∧
      ((recordAttempt py p serialized detection).2 = true →
        attemptStatus py (recorded serialized detection) ≠ .completed) := by
  rw [recordAttempt_eq]
  cases hstatus : attemptStatus py (recorded serialized detection) with
  | completed => exact ⟨rfl, by simp [recordStatus], fun hbreak => absurd hbreak Bool.false_ne_true⟩
  | interrupted => exact absurd hstatus h
  | cancelled => exact ⟨rfl, by simp [recordStatus], fun _ => by decide⟩
  | blocked => exact ⟨rfl, by simp [recordStatus], fun _ => by decide⟩
  | failed => exact ⟨rfl, by simp [recordStatus], fun _ => by decide⟩
  | queued | running | cancelling =>
      have hterminal := jobStatus_terminal (py.str (Json.get (recorded serialized detection) "status"))
      rw [← attemptStatus, hstatus] at hterminal
      cases hterminal

theorem attempts_failProgress (cancelled : Bool) (p : Progress) (error : Option String) :
    (failProgress cancelled p error).attempts = p.attempts := by
  cases error <;> rfl

/-! ### What the thread knows -/

/-- The attempts so far, and the status they leave. -/
structure Tallied (py : Python) (request : JobRequest) (job : ExperimentJob) (attempt : ℕ)
    (p : Progress) : Prop where
  request_eq : job.request = request
  count : attempt = p.attempts.length + 1
  status : p.terminalStatus = .completed ↔
    ∀ attempt ∈ p.attempts, attemptStatus py attempt = .completed

/-- Every repetition ran and completed. -/
def AllCompleted (py : Python) (request : JobRequest) (p : Progress) : Prop :=
  p.attempts.length = request.repetitions ∧
    ∀ attempt ∈ p.attempts, attemptStatus py attempt = .completed

/-- What the variables of the thread say in each of its phases. -/
def RunnerPhase.Tells (py : Python) (request : JobRequest) (cancellation : Bool) :
    RunnerPhase → Prop
  | fetching => True
  | requiring job => job.request = request
  | starting job _ => job.request = request
  | confirming job => job.request = request
  | checking job attempt p =>
    Tallied py request job attempt p ∧ attempt ≤ request.repetitions + 1
  | attempting job attempt p => Tallied py request job attempt p ∧ attempt ≤ request.repetitions
  | appending job attempt p _ => Tallied py request job attempt p ∧ attempt ≤ request.repetitions
  | closing job p => job.request = request ∧ (AllCompleted py request p →
    p.terminalStatus = .completed) ∧
    (p.terminalStatus = .completed → AllCompleted py request p ∨ cancellation = true)
  | storing job p => job.request = request ∧
    (p.terminalStatus = .completed ↔ AllCompleted py request p ∧ cancellation = false)
  | saving job p => job.request = request ∧
    (p.terminalStatus = .completed ↔ AllCompleted py request p ∧ cancellation = false)
  | reporting _ => True
  | leaving _ => True
  | finished _ => True

/-- What every action but the three keeps. -/
structure Telling (py : Python) (request : JobRequest) (s : State) : Prop where
  rows : ∀ job, s.store.row = some job → job.request = request
  phase : s.runner.Tells py request s.cancellation

theorem telling_initial (py : Python) (request : JobRequest) (now : String) :
    Telling py request (State.initial request now) where
  rows job h := by
    cases h
    rfl
  phase := trivial

section Steps

variable {py : Python} {experimentId : String} {request : JobRequest}

theorem Telling.setRunner {s : State} (h : Telling py request s) {phase : RunnerPhase}
    (hphase : phase.Tells py request s.cancellation) : Telling py request (s.setRunner phase) :=
  ⟨h.rows, hphase⟩

theorem Telling.setClient {s : State} (h : Telling py request s) (i : ℕ) (phase : ClientPhase) :
    Telling py request (s.setClient i phase) := ⟨h.rows, h.phase⟩

/-- An update of the row that keeps the request. -/
theorem Telling.update {s : State} (h : Telling py request s)
    {f : ExperimentJob → ExperimentJob} (hf : ∀ job, (f job).request = job.request) :
    Telling py request (s.setStore (s.store.update f)) where
  rows job hjob := by
    obtain ⟨row, hrow, rfl⟩ := Option.map_eq_some_iff.1 hjob
    rw [hf]
    exact h.rows row hrow
  phase := h.phase

/-- The last test of the event. -/
theorem closeProgress_tells {cancelled : Bool} {p : Progress}
    (hall : AllCompleted py request p → p.terminalStatus = .completed)
    (hstatus : p.terminalStatus = .completed → AllCompleted py request p ∨ cancelled = true) :
    (closeProgress cancelled p).terminalStatus = .completed ↔
      AllCompleted py request (closeProgress cancelled p) ∧ cancelled = false := by
  cases cancelled with
  | true => exact iff_of_false closeProgress_cancelled fun hc => Bool.false_ne_true hc.2.symm
  | false =>
      have hsame : closeProgress false p = p := if_neg fun hc => Bool.false_ne_true hc.1
      rw [hsame]
      refine ⟨fun hc => ⟨?_, rfl⟩, fun hc => hall hc.1⟩
      exact (hstatus hc).resolve_right Bool.false_ne_true

/-- The head of the loop: the repetitions are done, or they stop early, or the next begins. -/
theorem checking_tells {s : State} {job : ExperimentJob} {attempt : ℕ} {p : Progress}
    (htally : Tallied py request job attempt p) (hle : attempt ≤ request.repetitions + 1) :
    (job.request.repetitions < attempt →
        RunnerPhase.Tells py request s.cancellation (.closing job p)) ∧
      (¬job.request.repetitions < attempt → RunnerPhase.Tells py request s.cancellation
        (.closing job { p with terminalStatus := .cancelled })) ∧
      (¬job.request.repetitions < attempt →
        RunnerPhase.Tells py request s.cancellation (.attempting job attempt p)) := by
  obtain ⟨hrequest, hcount, hstatus⟩ := htally
  rw [hrequest]
  refine ⟨fun hdone => ⟨hrequest, ?_, ?_⟩, fun hmore => ⟨hrequest, ?_, ?_⟩, fun hmore => ?_⟩
  · exact fun hall => hstatus.2 hall.2
  · exact fun hc => .inl ⟨by omega, hstatus.1 hc⟩
  · intro hall
    have hlength : p.attempts.length = request.repetitions := hall.1
    omega
  · intro hc
    cases hc
  · exact ⟨⟨hrequest, hcount, hstatus⟩, by omega⟩

/-- The thread's own statements. -/
theorem telling_advanceRunner {s t : State} {now : String} (h : Telling py request s)
    (hstep : advanceRunner py experimentId s now = some t) : Telling py request t := by
  have hphase := h.phase
  unfold advanceRunner at hstep
  cases heq : s.runner <;> rw [heq] at hstep hphase <;> dsimp only at hstep
  case fetching =>
    split at hstep <;> cases hstep
    · exact h.setRunner trivial
    · rename_i job hjob
      exact h.setRunner (h.rows job hjob)
  case requiring job =>
    split at hstep <;> cases hstep
    · exact h.setRunner trivial
    · exact h.setRunner hphase
  case starting job existing =>
    cases hstep
    have hupdate := h.update fun row =>
      (rfl : (existing.transition .running now none none row).request = row.request)
    exact hupdate.setRunner hphase
  case confirming job =>
    split at hstep <;> cases hstep
    · exact h.setRunner trivial
    · exact h.setRunner ⟨⟨hphase, rfl, by simp⟩, by simp⟩
  case checking job attempt p =>
    obtain ⟨hdone, hstop, hnext⟩ := checking_tells (s := s) hphase.1 hphase.2
    split at hstep
    · rename_i hlast
      cases hstep
      exact h.setRunner (hdone hlast)
    · rename_i hmore
      split at hstep <;> cases hstep
      · exact h.setRunner (hstop hmore)
      · exact h.setRunner (hnext hmore)
  case attempting | finished => cases hstep
  case appending job attempt p event =>
    split at hstep <;> cases hstep
    · exact h.setRunner hphase
    · rename_i store hstore
      refine ⟨fun row hrow => ?_, hphase⟩
      unfold Store.appendEvent at hstore
      split at hstore <;> cases hstore
      rename_i row' hrow'
      cases hrow
      exact h.rows row' hrow'
  case closing job p =>
    cases hstep
    exact h.setRunner ⟨hphase.1, closeProgress_tells hphase.2.1 hphase.2.2⟩
  case storing job p =>
    split at hstep
    · cases hstep
      exact h.setRunner trivial
    · split at hstep <;> cases hstep
      · exact h.setRunner trivial
      · exact h.setRunner hphase
  case saving job p =>
    cases hstep
    have hupdate := h.update fun row => (rfl : (row.setResult p.terminalStatus
      (aggregate py experimentId job p) p.error now).request = row.request)
    exact ⟨hupdate.rows, trivial⟩
  case reporting o =>
    split at hstep <;> cases hstep
    · exact h.setRunner trivial
    · exact h.setRunner trivial
  case leaving o =>
    cases hstep
    exact ⟨h.rows, trivial⟩

/-- An event of an attempt leaves the variables alone. -/
theorem telling_emit {s t : State} {event : Experiment.RuntimeEvent} (h : Telling py request s)
    (hstep : step py experimentId s (.emit event) = some t) : Telling py request t := by
  have hphase := h.phase
  simp only [step, emitEvent] at hstep
  split at hstep
  · rename_i job attempt p heq
    rw [heq] at hphase
    split at hstep <;> cases hstep
    · refine ⟨h.rows, ?_⟩
      rw [heq]
      exact hphase
    · exact ⟨h.rows, hphase⟩
  · cases hstep

/-- An attempt that returns, unless it ends `interrupted`. -/
theorem telling_returned {s t : State} {serialized detection : Fields} (h : Telling py request s)
    (hok : attemptStatus py (recorded serialized detection) ≠ .interrupted)
    (hstep : step py experimentId s (.returned serialized detection) = some t) :
    Telling py request t := by
  have hphase := h.phase
  simp only [step, returnAttempt] at hstep
  split at hstep
  · rename_i job attempt p heq
    rw [heq] at hphase
    obtain ⟨⟨hrequest, hcount, hstatus⟩, hle⟩ := hphase
    obtain ⟨hattempts, hcompleted, hbreaks⟩ := recordAttempt_spec py p serialized detection hok
    have hall : (recordAttempt py p serialized detection).1.terminalStatus = .completed ↔
        ∀ attempt ∈ (recordAttempt py p serialized detection).1.attempts,
          attemptStatus py attempt = .completed := by
      rw [hcompleted, hstatus, hattempts, List.forall_mem_append, List.forall_mem_singleton]
    generalize recordAttempt py p serialized detection = result at *
    obtain ⟨p', breaks⟩ := result
    have hlength : p'.attempts.length = p.attempts.length + 1 := by
      have hlength := congrArg List.length hattempts
      rw [List.length_append, List.length_singleton] at hlength
      exact hlength
    have hcount' : attempt + 1 = p'.attempts.length + 1 := by omega
    cases breaks <;> cases hstep
    · exact h.setRunner ⟨⟨hrequest, hcount', hall⟩, by omega⟩
    · refine h.setRunner ⟨hrequest, fun hc => hall.2 hc.2, fun hc => ?_⟩
      refine absurd (hall.1 hc _ ?_) (hbreaks rfl)
      rw [hattempts]
      exact List.mem_append_right _ (List.mem_singleton_self _)
  · cases hstep

/-- An attempt that raises: what is not caught must find the status failed or the event set. -/
theorem telling_raised {s t : State} {error : Option String} (h : Telling py request s)
    (hok : ¬Misreports py s (.raised error))
    (hstep : step py experimentId s (.raised error) = some t) : Telling py request t := by
  have hphase := h.phase
  simp only [step, raiseAttempt] at hstep
  split at hstep
  · rename_i job attempt p heq
    rw [heq] at hphase
    obtain ⟨⟨hrequest, hcount, -⟩, hle⟩ := hphase
    cases hstep
    refine h.setRunner ⟨hrequest, fun hall => ?_, fun hc => .inr ?_⟩
    · have hlength := hall.1
      rw [attempts_failProgress] at hlength
      omega
    · cases error with
      | some message =>
          rcases hcancelled : s.cancellation with - | -
          · rw [hcancelled] at hc
            cases hc
          · rfl
      | none =>
          have hunharmed : s.runner.unharmed = true := by
            rw [heq]
            exact decide_eq_true hc
          by_contra hset
          exact hok ⟨hunharmed, by simpa using hset⟩
  · cases hstep

/-- The event is set: outside the gap before `set_result` nothing depends on it being clear, and in
the gap the status is not `completed`. -/
theorem tells_signal {phase : RunnerPhase} {cancellation : Bool}
    (h : phase.Tells py request cancellation) (cancelled : Bool)
    (hgap : phase.stored = none → phase.decided ≠ some .completed) :
    phase.Tells py request (cancellation || cancelled) := by
  cases phase with
  | storing job p =>
      have hnot : p.terminalStatus ≠ .completed := fun hc => hgap rfl (congrArg some hc)
      refine ⟨h.1, iff_of_false hnot fun hall => hnot (h.2.2 ⟨hall.1, ?_⟩)⟩
      exact (Bool.or_eq_false_iff.1 hall.2).1
  | saving job p =>
      have hnot : p.terminalStatus ≠ .completed := fun hc => hgap rfl (congrArg some hc)
      refine ⟨h.1, iff_of_false hnot fun hall => hnot (h.2.2 ⟨hall.1, ?_⟩)⟩
      exact (Bool.or_eq_false_iff.1 hall.2).1
  | closing job p =>
      refine ⟨h.1, h.2.1, fun hc => (h.2.2 hc).imp_right fun hset => ?_⟩
      rw [hset, Bool.true_or]
  | _ => exact h

/-- The statements of a caller, but for a late signal. -/
theorem telling_advanceClient {s t : State} {i : ℕ} {now : String} (h : Telling py request s)
    (hok : ¬Misreports py s (.client i now)) (hstep : advanceClient s i now = some t) :
    Telling py request t := by
  unfold advanceClient at hstep
  cases heq : s.clients i <;> rw [heq] at hstep <;> dsimp only at hstep
  case idle => cases hstep
  case cancelReading | cancelConfirming | deleteReading =>
    split at hstep <;> cases hstep <;> exact h.setClient _ _
  case cancelWriting =>
    cases hstep
    have hupdate := h.update fun row => (rfl : (row.requestCancel now).request = row.request)
    exact hupdate.setClient _ _
  case cancelSignalling =>
    cases hstep
    exact ⟨h.rows, tells_signal h.phase s.registered fun hnone hc => hok ⟨heq, hnone, hc⟩⟩
  case deleteWriting =>
    cases hstep
    refine ⟨fun row hrow => ?_, h.phase⟩
    cases hrow

/-- **Every action but the three keeps what the thread knows.** -/
theorem telling_step {s t : State} {a : Action} (h : Telling py request s)
    (hok : ¬Misreports py s a) (hstep : step py experimentId s a = some t) :
    Telling py request t := by
  cases a with
  | runner now => exact telling_advanceRunner h hstep
  | emit event => exact telling_emit h hstep
  | returned serialized detection => exact telling_returned h hok hstep
  | raised error => exact telling_raised h hok hstep
  | cancel i =>
      simp only [step] at hstep
      split at hstep <;> cases hstep
      exact h.setClient _ _
  | delete i =>
      simp only [step] at hstep
      split at hstep <;> cases hstep
      exact h.setClient _ _
  | client i now => exact telling_advanceClient h hok hstep

end Steps

/-! ### After an exception -/

/-- An attempt raised: the thread is past its loop with too few attempts. -/
def RunnerPhase.Short (request : JobRequest) : RunnerPhase → Prop
  | closing _ p => p.attempts.length < request.repetitions
  | storing _ p => p.attempts.length < request.repetitions
  | saving _ p => p.attempts.length < request.repetitions
  | reporting _ => True
  | leaving _ => True
  | finished _ => True
  | _ => False

section Runs

variable {py : Python} {experimentId : String} {request : JobRequest}

theorem attempts_closeProgress (cancelled : Bool) (p : Progress) :
    (closeProgress cancelled p).attempts = p.attempts := by
  unfold closeProgress
  split <;> rfl

/-- The thread does not return to its loop. -/
theorem short_step {s t : State} {a : Action} (h : s.runner.Short request)
    (hstep : step py experimentId s a = some t) : t.runner.Short request := by
  cases a with
  | runner now =>
      simp only [step] at hstep
      unfold advanceRunner at hstep
      cases heq : s.runner <;> rw [heq] at hstep h <;> dsimp only at hstep
      case closing job p =>
        cases hstep
        show (closeProgress s.cancellation p).attempts.length < _
        rw [attempts_closeProgress]
        exact h
      case storing job p =>
        split at hstep
        · cases hstep
          exact trivial
        · split at hstep <;> cases hstep
          · exact trivial
          · exact h
      case saving job p =>
        cases hstep
        exact trivial
      case reporting o => split at hstep <;> cases hstep <;> exact trivial
      case leaving o =>
        cases hstep
        exact trivial
      case finished => cases hstep
      all_goals exact h.elim
  | emit event =>
      simp only [step, emitEvent] at hstep
      split at hstep
      · rename_i heq
        rw [heq] at h
        exact h.elim
      · cases hstep
  | returned serialized detection =>
      simp only [step, returnAttempt] at hstep
      split at hstep
      · rename_i heq
        rw [heq] at h
        exact h.elim
      · cases hstep
  | raised error =>
      simp only [step, raiseAttempt] at hstep
      split at hstep
      · rename_i heq
        rw [heq] at h
        exact h.elim
      · cases hstep
  | cancel i =>
      simp only [step] at hstep
      split at hstep <;> cases hstep
      exact h
  | delete i =>
      simp only [step] at hstep
      split at hstep <;> cases hstep
      exact h
  | client i now =>
      simp only [step] at hstep
      unfold advanceClient at hstep
      cases hphase : s.clients i <;> rw [hphase] at hstep <;> dsimp only at hstep
      case idle => cases hstep
      case cancelWriting | cancelSignalling | deleteWriting =>
        cases hstep
        exact h
      case cancelReading | cancelConfirming | deleteReading =>
        split at hstep <;> cases hstep <;> exact h

/-- **An exception ends the run of the attempts.** -/
theorem short_of_raised {acts : List Action} {s t : State} {error : Option String}
    (h : Telling py request s)
    (hok : Along (step py experimentId) (fun s a => ¬Misreports py s a) acts s)
    (hrun : exec (step py experimentId) acts s = some t) (hraised : .raised error ∈ acts) :
    t.runner.Short request := by
  induction acts generalizing s with
  | nil => cases hraised
  | cons a acts ih =>
      obtain ⟨u, hu, ht⟩ := exec_cons.1 hrun
      rcases List.mem_cons.1 hraised with rfl | hlater
      · have hshort : u.runner.Short request := by
          have hphase := h.phase
          simp only [step, raiseAttempt] at hu
          split at hu
          · rename_i job attempt p heq
            rw [heq] at hphase
            obtain ⟨⟨-, hcount, -⟩, hle⟩ := hphase
            cases hu
            show (failProgress s.cancellation p error).attempts.length < request.repetitions
            rw [attempts_failProgress]
            omega
          · cases hu
        exact invariant (fun _ _ _ hs hstep => short_step hs hstep) hshort ht
      · exact ih (telling_step h hok.1 hu) (hok.2 u hu) ht hlater

/-! ### What is stored -/

/-- The aggregate lists the attempts. -/
theorem attempts_aggregate (status : ExperimentJobStatus) (job : ExperimentJob) (p : Progress) :
    Outcome.attempts ⟨status, some (aggregate py experimentId job p)⟩ = p.attempts := by
  have hget : Json.get (aggregate py experimentId job p) "attempts" =
      .ofList Json.obj p.attempts := rfl
  unfold Outcome.attempts
  rw [Option.getD_some, hget]
  simp [Json.ofList]

/-- The only statement that stores an outcome. -/
theorem saving_of_stored {s t : State} {now : String} {o : Outcome}
    (hstep : step py experimentId s (.runner now) = some t) (hnone : s.runner.stored = none)
    (hstored : t.runner.stored = some o) :
    ∃ job p, s.runner = .saving job p ∧
      o = ⟨p.terminalStatus, some (aggregate py experimentId job p)⟩ := by
  simp only [step] at hstep
  unfold advanceRunner at hstep
  cases heq : s.runner <;> rw [heq] at hstep hnone <;> dsimp only at hstep
  case saving job p =>
    cases hstep
    cases hstored
    exact ⟨job, p, rfl, rfl⟩
  case reporting | leaving => cases hnone
  case attempting | finished => cases hstep
  case starting | closing =>
    cases hstep
    cases hstored
  case checking | storing =>
    split at hstep
    · cases hstep
      cases hstored
    · split at hstep <;> cases hstep <;> cases hstored
  all_goals split at hstep <;> cases hstep <;> cases hstored

/-- What is stored after a run without the three steps. -/
theorem trueStatus_of_along {before : List Action} {s₀ s t : State} {now : String} {o : Outcome}
    (h : Telling py request s₀)
    (hok : Along (step py experimentId) (fun s a => ¬Misreports py s a) before s₀)
    (hrun : exec (step py experimentId) before s₀ = some s)
    (hstep : step py experimentId s (.runner now) = some t) (hnone : s.runner.stored = none)
    (hstored : t.runner.stored = some o) : TrueStatus py request before s o := by
  obtain ⟨job, p, heq, rfl⟩ := saving_of_stored hstep hnone hstored
  have htelling : Telling py request s :=
    invariant_along (fun _ _ _ hu hmis hs => telling_step hu hmis hs) h hok hrun
  have hphase := htelling.phase
  rw [heq] at hphase
  obtain ⟨-, hstatus⟩ := hphase
  have hraised : p.attempts.length = request.repetitions → ∀ error, .raised error ∉ before := by
    intro hlength error hmem
    have hshort := short_of_raised h hok hrun hmem
    rw [heq] at hshort
    exact absurd hlength (Nat.ne_of_lt hshort)
  refine ⟨?_, ?_⟩
  · rw [attempts_aggregate]
    constructor
    · intro hcompleted
      obtain ⟨⟨hlength, hall⟩, hcancelled⟩ := hstatus.1 hcompleted
      exact ⟨hlength, hall, hraised hlength, hcancelled⟩
    · rintro ⟨hlength, hall, -, hcancelled⟩
      exact hstatus.2 ⟨⟨hlength, hall⟩, hcancelled⟩
  · rw [attempts_aggregate]
    rintro ⟨attempt, hmem, hne⟩ hcompleted
    exact hne ((hstatus.1 hcompleted).1.2 attempt hmem)

end Runs

/-- The statements of a thread whose only attempt ends `interrupted`, up to the checks of
`set_result`. -/
def interruptedAttempt : List Action :=
  List.replicate 5 (.runner "t") ++ [.returned [("status", .str "interrupted")] []] ++
    List.replicate 3 (.runner "t")

end Jobs
end AiopsK8s
