/-
# Who holds the lock

A live process that created the lock file and has not unlinked it owns the path
(`Owned`).  Its own steps keep that, and no other process can create a file meanwhile; only
the unlink of `_clear_stale_lock` can take the path away from it.  That unlink comes after
a check and a re-read of the token, and none of the three is atomic with the others: a
second contender that passed its re-read earlier unlinks the file that the first one has
just created (`takeover_not_exclusive`).

`exclusive_of_takeovers` is the other half: in every run in which each takeover unlinks
a dead process's file, mutual exclusion holds in every state.
-/

import AiopsK8s.Locking.Protocol

namespace AiopsK8s
namespace Locking

open Steps

/-- The process has created the lock file and has not given it up. -/
def Phase.holds : Phase → Bool
  | .writing _ => true
  | .undoing => true
  | .inside => true
  | .readingToken => true
  | .releasing => true
  | _ => false

/-- The path names a file that `p` created. -/
def Names (s : State) (p : ℕ) : Prop := ∃ file, s.current = some file ∧ file.creator = p

/-- Every live process that holds the lock owns the path. -/
def Owned (s : State) : Prop := ∀ p ∈ s.live, (s.phase p).holds = true → Names s p

/-- The takeover of an action removes a dead process's file, or none. -/
def TakesOverDead (s : State) : Action → Prop
  | .step p => s.phase p = .clearing → ∀ file ∈ s.current, file.creator ∉ s.live
  | _ => True

instance (s : State) : ∀ a, Decidable (TakesOverDead s a)
  | .step p =>
    inferInstanceAs (Decidable (s.phase p = .clearing → ∀ file ∈ s.current, file.creator ∉ s.live))
  | .enter .. => isTrue trivial
  | .failWrite _ => isTrue trivial
  | .exit _ => isTrue trivial
  | .die _ => isTrue trivial
  | .tick _ => isTrue trivial

/-- A path has one owner. -/
theorem Owned.exclusive {s : State} (h : Owned s) : Exclusive s := by
  intro p q hp hq hpin hqin
  obtain ⟨file, hfile, hcp⟩ := h p hp (by rw [hpin]; rfl)
  obtain ⟨file', hfile', hcq⟩ := h q hq (by rw [hqin]; rfl)
  have heq : file = file' := Option.some.inj (hfile.symm.trans hfile')
  rw [← hcp, ← hcq, heq]

theorem owned_initial (live : List ℕ) : Owned (State.initial live) := by
  intro p _ hholds
  cases hholds

/-- A process that moves to a phase outside the lock takes nothing from the others. -/
theorem Owned.setPhase {s : State} (h : Owned s) {p : ℕ} {ph : Phase}
    (hph : ph.holds = true → Names s p) : Owned (s.setPhase p ph) := by
  intro q hq hholds
  by_cases hqp : q = p
  · subst hqp
    rw [State.setPhase_self] at hholds
    exact hph hholds
  · rw [State.setPhase_ne s hqp] at hholds
    exact h q hq hholds

/-- Where the path is free, no live process holds the lock. -/
theorem Owned.free {s : State} (h : Owned s) (hpath : s.path = none) {p : ℕ} (hp : p ∈ s.live) :
    (s.phase p).holds = false := by
  rw [Bool.eq_false_iff]
  intro hholds
  obtain ⟨file, hfile, _⟩ := h p hp hholds
  rw [State.current, hpath] at hfile
  cases hfile

/-- An unlink by `p` is safe if no other live process owns the path. -/
theorem Owned.unlink {s : State} (h : Owned s) {p : ℕ}
    (hother : ∀ q ∈ s.live, q ≠ p → ¬Names s q) {ph : Phase} (hph : ph.holds = false) :
    Owned (s.unlink.setPhase p ph) := by
  intro q hq hholds
  by_cases hqp : q = p
  · subst hqp
    rw [State.setPhase_self, hph] at hholds
    cases hholds
  · rw [State.setPhase_ne _ hqp] at hholds
    exact absurd (h q hq hholds) (hother q hq hqp)

/-- A process that owns the path is the only one that does. -/
theorem Names.unique {s : State} {p q : ℕ} (hp : Names s p) (hq : Names s q) : q = p := by
  obtain ⟨file, hfile, hcp⟩ := hp
  obtain ⟨file', hfile', hcq⟩ := hq
  have heq : file = file' := Option.some.inj (hfile.symm.trans hfile')
  rw [← hcp, ← hcq, heq]

/-- The owner's own unlink. -/
theorem Owned.unlink_own {s : State} (h : Owned s) {p : ℕ} (hp : p ∈ s.live)
    (hholds : (s.phase p).holds = true) {ph : Phase} (hph : ph.holds = false) :
    Owned (s.unlink.setPhase p ph) := by
  have hown := h p hp hholds
  exact h.unlink (fun q _ hqp hq => hqp (hown.unique hq)) hph

/-- The exclusive create. -/
theorem Owned.create {s : State} (h : Owned s) (hpath : s.path = none) (p : ℕ) :
    Owned ((s.create p).setPhase p (.writing s.files.length)) := by
  intro q hq hholds
  by_cases hqp : q = p
  · subst hqp
    refine ⟨⟨q, none, s.clock⟩, ?_, rfl⟩
    simp [State.current, State.create, State.setPhase]
  · rw [State.setPhase_ne _ hqp] at hholds
    have hfree := h.free hpath (show q ∈ s.live from hq)
    rw [show (s.create p).phase q = s.phase q from rfl, hfree] at hholds
    cases hholds

/-- The write of a payload changes no creator. -/
theorem Names.write {s : State} {p : ℕ} (h : Names s p) (inode : ℕ) (owner : Owner) :
    Names (s.write inode owner) p := by
  obtain ⟨file, hfile, hc⟩ := h
  obtain ⟨i, hi, hget⟩ := Option.bind_eq_some_iff.1 hfile
  have hcurrent : (s.write inode owner).current
      = (s.files[i]?).map (fun file => if inode = i then
          { file with payload := some owner, modifiedAt := s.clock } else file) := by
    simp only [State.current, State.write, hi, Option.bind_some, List.getElem?_modify]
    split_ifs <;> rfl
  rw [hget] at hcurrent
  refine ⟨_, hcurrent, ?_⟩
  dsimp only
  split_ifs
  · exact hc
  · exact hc

theorem Owned.write {s : State} (h : Owned s) (inode : ℕ) (owner : Owner) :
    Owned (s.write inode owner) := fun q hq hholds => (h q hq hholds).write inode owner

section Steps

variable (pid : ℕ → ℤ) (staleAfter : ℚ)

/-- **One file operation keeps the owners**, if a takeover removes a dead process's file. -/
theorem owned_advance {s t : State} {p : ℕ} (h : Owned s) (hp : p ∈ s.live)
    (hdead : TakesOverDead s (.step p)) (hstep : advance pid staleAfter s p = some t) :
    Owned t := by
  have houtside : ∀ {ph : Phase}, ph.holds = false → Owned (s.setPhase p ph) := fun hph =>
    h.setPhase fun hholds => by rw [hph] at hholds; cases hholds
  unfold advance at hstep
  split at hstep
  · cases hstep
  · rename_i first hphase
    split at hstep <;> cases hstep
    · exact h.create (by assumption) p
    · cases first
      · exact houtside rfl
      · exact houtside rfl
  · cases hstep
    exact houtside rfl
  · split at hstep <;> cases hstep <;> exact houtside rfl
  · split at hstep <;> cases hstep <;> exact houtside rfl
  · split at hstep <;> cases hstep <;> exact houtside rfl
  · rename_i hphase
    cases hstep
    refine h.unlink (fun q hq _ hnames => ?_) rfl
    obtain ⟨file, hfile, hc⟩ := hnames
    exact hdead hphase file hfile (hc ▸ hq)
  · rename_i inode hphase
    cases hstep
    have hown : Names s p := h p hp (by rw [hphase]; rfl)
    exact (h.write inode _).setPhase fun _ => hown.write inode _
  · rename_i hphase
    cases hstep
    exact h.unlink_own hp (by rw [hphase]; rfl) rfl
  · cases hstep
  · rename_i hphase
    have hown : Names s p := h p hp (by rw [hphase]; rfl)
    split at hstep <;> cases hstep
    · exact h.setPhase fun _ => hown
    · exact houtside rfl
  · rename_i hphase
    cases hstep
    exact h.unlink_own hp (by rw [hphase]; rfl) rfl

/-- **One action keeps the owners**, if a takeover removes a dead process's file. -/
theorem owned_step {s t : State} {a : Action} (h : Owned s) (hdead : TakesOverDead s a)
    (hstep : step pid staleAfter s a = some t) : Owned t := by
  cases a with
  | enter p serial =>
      simp only [step] at hstep
      split at hstep <;> cases hstep
      have hserial : Owned { s with serial := Function.update s.serial p serial } := h
      exact hserial.setPhase fun hholds => by cases hholds
  | step p =>
      simp only [step] at hstep
      split at hstep
      · exact owned_advance pid staleAfter h (by assumption) hdead hstep
      · cases hstep
  | failWrite p =>
      simp only [step] at hstep
      split at hstep
      · rename_i inode hphase
        split at hstep <;> cases hstep
        have hown : Names s p := h p (by assumption) (by rw [hphase]; rfl)
        exact h.setPhase fun _ => hown
      · cases hstep
  | exit p =>
      simp only [step] at hstep
      split at hstep <;> cases hstep
      rename_i hp
      have hown : Names s p := h p hp.1 (by rw [hp.2]; rfl)
      exact h.setPhase fun _ => hown
  | die p =>
      cases hstep
      intro q hq hholds
      exact h q ((List.mem_filter.1 hq).1) hholds
  | tick now =>
      cases hstep
      exact h

/-- **Mutual exclusion, as long as takeovers hit the dead.**  In every run of any processes
of a host, whatever the order of their steps and whoever dies, if each unlink of
`_clear_stale_lock` removes a file whose creator is dead (or finds none), then every state
reached has at most one live process inside. -/
theorem exclusive_of_takeovers (live : List ℕ) (acts : List Action) (s : State)
    (hrun : exec (step pid staleAfter) acts (State.initial live) = some s)
    (hdead : Along (step pid staleAfter) TakesOverDead acts (State.initial live)) :
    Exclusive s := by
  have howned : Owned s := invariant_along
    (fun _ _ _ h hok hstep => owned_step pid staleAfter h hok hstep)
    (owned_initial live) hdead hrun
  exact howned.exclusive

/-! ### A takeover of a dead owner's file, and a race between two of them -/

/-- The operations of one process from `__enter__` to the end of the payload write, with the
lock free. -/
def acquire (p : ℕ) : List Action := [.enter p 0, .step p, .step p]

/-- The operations of one process from `__enter__` to the re-read of a dead owner's token. -/
def judgeStale (p : ℕ) : List Action :=
  [.enter p 0, .step p, .step p, .step p, .step p, .step p]

/-- The process 0 dies inside, and 1 takes the lock over. -/
def takeover : List Action := acquire 0 ++ [.die 0] ++ judgeStale 1 ++ [.step 1, .step 1, .step 1]

/-- The processes 1 and 2 both judge the file of the dead process 0 stale; 1 takes over, and
2 unlinks the file of 1 and takes over as well. -/
def racingTakeovers : List Action :=
  acquire 0 ++ [.die 0] ++ judgeStale 1 ++ judgeStale 2 ++ [.step 1, .step 1, .step 1] ++
    [.step 2, .step 2, .step 2]

/-- Processes with the process numbers 1, 2, 3, … -/
def pidOf (p : ℕ) : ℤ := p + 1

theorem takeover_exclusive :
    ∃ s, exec (step pidOf 3600) takeover (State.initial [0, 1, 2]) = some s ∧ Exclusive s := by
  have hsome : (exec (step pidOf 3600) takeover (State.initial [0, 1, 2])).isSome = true := by
    decide +kernel
  obtain ⟨s, hs⟩ := Option.isSome_iff_exists.1 hsome
  exact ⟨s, hs, exclusive_of_takeovers pidOf 3600 [0, 1, 2] takeover s hs (by decide +kernel)⟩

/-- **The race**: two live processes are inside. -/
theorem takeover_not_exclusive :
    ∃ s, exec (step pidOf 3600) racingTakeovers (State.initial [0, 1, 2]) = some s ∧
      ¬Exclusive s := by
  have hrun : (exec (step pidOf 3600) racingTakeovers (State.initial [0, 1, 2])).map
      (fun s => (s.live, s.phase 1, s.phase 2)) = some ([1, 2], .inside, .inside) := by
    decide +kernel
  obtain ⟨s, hs, hview⟩ := Option.map_eq_some_iff.1 hrun
  simp only [Prod.mk.injEq] at hview
  obtain ⟨hlive, hone, htwo⟩ := hview
  refine ⟨s, hs, fun hex => ?_⟩
  have heq : 1 = 2 := hex 1 2 (by rw [hlive]; decide) (by rw [hlive]; decide) hone htwo
  omega

end Steps

end Locking
end AiopsK8s
