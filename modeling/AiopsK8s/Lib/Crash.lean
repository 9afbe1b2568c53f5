/-
# Programs that may crash

A program works on a store by atomic steps and may be stopped between any two of
them.  `Disk` adds a *budget* to the store: the number of atomic steps before the
crash, or `none` for a run that is not stopped.  Quantifying over the budget is
quantifying over the crash point, and a program stays executable.

`Survives P m Q E` is the crash triple: from a store of `P`, `m` returns with
`Q`, or stops with a store of `E`, where a stop is a crash or a raised exception;
without a budget there is no crash (`Survives.completes`).  Its rules follow the
program text, and a loop over a list carries an invariant of the items that are
left (`Survives.forM`).
-/

import AiopsK8s.Lib.Effect

namespace AiopsK8s
namespace Crash

open Effect

/-- A store and the number of atomic steps until the crash. -/
structure Disk (S : Type) where
  store : S
  budget : Option ℕ

/-- Why a program did not return. -/
inductive Stop (ε : Type) where
  | crash
  | raised (e : ε)
  deriving DecidableEq, Repr

/-- A program on the store `S`. -/
abbrev Prog (S ε α : Type) : Type := Eff (Disk S) (Stop ε) α

variable {S ε α β : Type}

/-- One atomic step. -/
def atomic (f : S → S) : Prog S ε Unit := fun d =>
  match d.budget with
  | some 0 => (.error .crash, d)
  | some (n + 1) => (.ok (), ⟨f d.store, some n⟩)
  | none => (.ok (), ⟨f d.store, none⟩)

/-- Look at the store. -/
def observe (f : S → α) : Prog S ε α := fun d => (.ok (f d.store), d)

/-- Branch on what the store shows. -/
def test (c : S → Bool) (m₁ m₂ : Prog S ε α) : Prog S ε α := do
  if ← observe c then m₁ else m₂

/-- Run `m` where the condition holds. -/
def only (c : Bool) (m : Prog S ε Unit) : Prog S ε Unit := if c then m else pure ()

/-- Raise an exception. -/
def throwing (e : ε) : Prog S ε α := Eff.raise (.raised e)

/-- `m`, followed by `cleanup` when `m` raises; a crash runs no clean-up. -/
def onRaise (m : Prog S ε α) (cleanup : Prog S ε Unit) : Prog S ε α := fun d =>
  match m d with
  | (.error (.raised e), d') =>
    match cleanup d' with
    | (.ok _, d'') => (.error (.raised e), d'')
    | (.error stop, d'') => (.error stop, d'')
  | r => r

/-- The store that a run leaves behind. -/
def after (m : Prog S ε α) (s : S) (budget : Option ℕ) : S := (m.run ⟨s, budget⟩).2.store

/-- From a store of `P`, `m` returns with `Q` or stops with `E`. -/
def Survives (P : S → Prop) (m : Prog S ε α) (Q : α → S → Prop) (E : Stop ε → S → Prop) : Prop :=
  ∀ limited : Bool, Triple (fun d => d.budget.isSome = limited ∧ P d.store) m
    (fun a d => d.budget.isSome = limited ∧ Q a d.store)
    (fun e d => d.budget.isSome = limited ∧ (e = .crash → limited = true) ∧ E e d.store)

namespace Survives

variable {P P' : S → Prop} {Q Q' : α → S → Prop} {R : β → S → Prop} {E E' : Stop ε → S → Prop}

theorem weaken {m : Prog S ε α} (h : Survives P m Q E) (hP : ∀ s, P' s → P s)
    (hQ : ∀ a s, Q a s → Q' a s) (hE : ∀ e s, E e s → E' e s) : Survives P' m Q' E' :=
  fun limited => (h limited).weaken (fun _ hd => ⟨hd.1, hP _ hd.2⟩)
    (fun _ _ hd => ⟨hd.1, hQ _ _ hd.2⟩) (fun _ _ hd => ⟨hd.1, hd.2.1, hE _ _ hd.2.2⟩)

theorem pure {a : α} (h : ∀ s, P s → Q a s) : Survives P (Pure.pure a : Prog S ε α) Q E :=
  fun _ => Triple.pure fun _ hd => ⟨hd.1, h _ hd.2⟩

theorem throwing {e : ε} (h : ∀ s, P s → E (.raised e) s) :
    Survives P (Crash.throwing e : Prog S ε α) Q E :=
  fun _ => Triple.raise fun _ hd => ⟨hd.1, nofun, h _ hd.2⟩

theorem bind {m : Prog S ε α} {f : α → Prog S ε β} (hm : Survives P m Q E)
    (hf : ∀ a, Survives (Q a) (f a) R E) : Survives P (m >>= f) R E :=
  fun limited => Triple.bind (hm limited) fun a => hf a limited

theorem ite {c : Prop} [Decidable c] {m₁ m₂ : Prog S ε α} (h₁ : c → Survives P m₁ Q E)
    (h₂ : ¬c → Survives P m₂ Q E) : Survives P (if c then m₁ else m₂) Q E :=
  fun limited => Triple.ite (fun hc => h₁ hc limited) fun hc => h₂ hc limited

/-- An atomic step is done or not done. -/
theorem atomic {f : S → S} {Q : Unit → S → Prop} (hE : ∀ s, P s → E .crash s)
    (hQ : ∀ s, P s → Q () (f s)) : Survives P (Crash.atomic f : Prog S ε Unit) Q E := by
  rintro limited ⟨s, budget⟩ ⟨hb, hs⟩
  rcases budget with _ | _ | n
  · refine ⟨fun a d hr => ?_, fun e d hr => by cases hr⟩
    cases hr
    exact ⟨hb, hQ s hs⟩
  · refine ⟨fun a d hr => (by cases hr), fun e d hr => ?_⟩
    cases hr
    exact ⟨hb, fun _ => hb.symm, hE s hs⟩
  · refine ⟨fun a d hr => ?_, fun e d hr => by cases hr⟩
    cases hr
    exact ⟨hb, hQ s hs⟩

/-- What was seen is a fact about the store. -/
theorem observe {f : S → α} : Survives P (Crash.observe f : Prog S ε α)
    (fun a s => P s ∧ a = f s) E := by
  rintro limited ⟨s, budget⟩ ⟨hb, hs⟩
  refine ⟨fun a d hr => ?_, fun e d hr => by cases hr⟩
  cases hr
  exact ⟨hb, hs, rfl⟩

theorem test {c : S → Bool} {m₁ m₂ : Prog S ε α}
    (h₁ : Survives (fun s => P s ∧ c s = true) m₁ Q E)
    (h₂ : Survives (fun s => P s ∧ c s = false) m₂ Q E) : Survives P (Crash.test c m₁ m₂) Q E := by
  refine bind observe fun b => ite (fun hb => ?_) fun hb => ?_
  · exact h₁.weaken (fun s hs => ⟨hs.1, hs.2 ▸ hb⟩) (fun _ _ hq => hq) (fun _ _ he => he)
  · refine h₂.weaken (fun s hs => ⟨hs.1, ?_⟩) (fun _ _ hq => hq) (fun _ _ he => he)
    rw [← hs.2]
    exact Bool.eq_false_iff.2 hb

/-- Two facts about one program. -/
theorem and {m : Prog S ε α} (h : Survives P m Q E) (h' : Survives P' m Q' E') :
    Survives (fun s => P s ∧ P' s) m (fun a s => Q a s ∧ Q' a s) (fun e s => E e s ∧ E' e s) := by
  intro limited d hd
  obtain ⟨hok, herr⟩ := h limited d ⟨hd.1, hd.2.1⟩
  obtain ⟨hok', herr'⟩ := h' limited d ⟨hd.1, hd.2.2⟩
  refine ⟨fun a d' hr => ?_, fun e d' hr => ?_⟩
  · exact ⟨(hok a d' hr).1, (hok a d' hr).2, (hok' a d' hr).2⟩
  · exact ⟨(herr e d' hr).1, (herr e d' hr).2.1, (herr e d' hr).2.2, (herr' e d' hr).2.2⟩

/-- It suffices to start from one known store at a time. -/
theorem of_eq {m : Prog S ε α} (h : ∀ s₀, P s₀ → Survives (· = s₀) m Q E) : Survives P m Q E :=
  fun limited d hd => h d.store hd.2 limited d ⟨hd.1, rfl⟩

/-- A fact that the precondition gives may be used in the proof. -/
theorem of_fact {φ : Prop} {m : Prog S ε α} (hφ : ∀ s, P s → φ) (h : φ → Survives P m Q E) :
    Survives P m Q E :=
  fun limited d hd => h (hφ _ hd.2) limited d hd

/-- A clean-up after an exception. -/
theorem onRaise {m : Prog S ε α} {cleanup : Prog S ε Unit} (hm : Survives P m Q E')
    (hcrash : ∀ s, E' .crash s → E .crash s)
    (hcleanup : ∀ e, Survives (E' (.raised e)) cleanup (fun _ => E (.raised e)) E) :
    Survives P (Crash.onRaise m cleanup) Q E := by
  intro limited d hd
  obtain ⟨hok, herr⟩ := hm limited d hd
  rcases hr : m d with ⟨stop | a, d'⟩
  · rcases stop with _ | e
    · have hrun : (Crash.onRaise m cleanup).run d = (.error .crash, d') := by
        simp only [Crash.onRaise, Eff.run, hr]
      have hstop := herr _ _ hr
      refine ⟨fun a d'' h => ?_, fun e d'' h => ?_⟩ <;> rw [hrun] at h <;> cases h
      exact ⟨hstop.1, hstop.2.1, hcrash _ hstop.2.2⟩
    · have hstop := herr _ _ hr
      obtain ⟨hcok, hcerr⟩ := hcleanup e limited d' ⟨hstop.1, hstop.2.2⟩
      rcases hc : cleanup d' with ⟨stop' | u, d''⟩
      · have hrun : (Crash.onRaise m cleanup).run d = (.error stop', d'') := by
          simp only [Crash.onRaise, Eff.run, hr, hc]
        refine ⟨fun a d''' h => ?_, fun e' d''' h => ?_⟩ <;> rw [hrun] at h <;> cases h
        exact hcerr _ _ hc
      · have hrun : (Crash.onRaise m cleanup).run d = (.error (.raised e), d'') := by
          simp only [Crash.onRaise, Eff.run, hr, hc]
        refine ⟨fun a d''' h => ?_, fun e' d''' h => ?_⟩ <;> rw [hrun] at h <;> cases h
        have hfinal := hcok _ _ hc
        have hraised : (Stop.raised e : Stop ε) ≠ .crash := by simp
        exact ⟨hfinal.1, fun h => absurd h hraised, hfinal.2⟩
  · have hrun : (Crash.onRaise m cleanup).run d = (.ok a, d') := by
      simp only [Crash.onRaise, Eff.run, hr]
    refine ⟨fun b d'' h => ?_, fun e d'' h => ?_⟩ <;> rw [hrun] at h <;> cases h
    exact hok _ _ hr

/-- A loop over a list, with an invariant of the items that are left. -/
theorem forM {f : β → Prog S ε PUnit} (I : List β → S → Prop) {l : List β}
    (h : ∀ b rest, b :: rest <:+ l → Survives (I (b :: rest)) (f b) (fun _ => I rest) E) :
    Survives (I l) (l.forM f) (fun _ => I []) E := by
  induction l with
  | nil => exact pure fun _ hs => hs
  | cons b rest ih =>
      refine bind (h b rest (List.suffix_refl _)) fun _ => ih fun b' rest' hsuffix => ?_
      exact h b' rest' (hsuffix.trans (List.suffix_cons b rest))

/-- **A run that is not stopped returns**, unless it raises. -/
theorem completes {m : Prog S ε α} (h : Survives P m Q E) (hE : ∀ e s, ¬E (.raised e) s) {s : S}
    (hs : P s) : ∃ a s', m.run ⟨s, none⟩ = (.ok a, ⟨s', none⟩) ∧ Q a s' := by
  obtain ⟨hok, herr⟩ := h false ⟨s, none⟩ ⟨rfl, hs⟩
  rcases hr : m.run ⟨s, none⟩ with ⟨stop | a, s', budget⟩
  · obtain ⟨-, hcrash, hstop⟩ := herr _ _ hr
    rcases stop with _ | e
    · exact absurd (hcrash rfl) (by decide)
    · exact absurd hstop (hE e s')
  · obtain ⟨hb, hq⟩ := hok _ _ hr
    rcases budget with _ | n
    · exact ⟨a, s', rfl, hq⟩
    · cases hb

/-- What a run leaves behind, whatever its budget. -/
theorem after {m : Prog S ε α} (h : Survives P m Q E) {s : S} (hs : P s) (budget : Option ℕ) :
    (∃ a, Q a (Crash.after m s budget)) ∨ ∃ e, E e (Crash.after m s budget) := by
  obtain ⟨hok, herr⟩ := h budget.isSome ⟨s, budget⟩ ⟨rfl, hs⟩
  unfold Crash.after
  rcases hr : m.run ⟨s, budget⟩ with ⟨stop | a, d⟩
  · exact .inr ⟨stop, (herr _ _ hr).2.2⟩
  · exact .inl ⟨a, (hok _ _ hr).2⟩

end Survives

/-- A step that returns or stops in the invariant `I`. -/
def Keeps (I : S → Prop) (m : Prog S ε α) : Prop := Survives I m (fun _ => I) (fun _ => I)

namespace Keeps

variable {I : S → Prop}

theorem pure (a : α) : Keeps I (Pure.pure a : Prog S ε α) := Survives.pure fun _ hs => hs

/-- An invariant, where the way a program stops does not matter. -/
theorem survives {m : Prog S ε α} (h : Keeps I m) :
    Survives I m (fun _ => I) (fun _ _ => True) :=
  Survives.weaken h (fun _ hs => hs) (fun _ _ hs => hs) fun _ _ _ => trivial

theorem throwing (e : ε) : Keeps I (Crash.throwing e : Prog S ε α) :=
  Survives.throwing fun _ hs => hs

theorem atomic {f : S → S} (h : ∀ s, I s → I (f s)) : Keeps I (Crash.atomic f : Prog S ε Unit) :=
  Survives.atomic (fun _ hs => hs) h

theorem observe (f : S → α) : Keeps I (Crash.observe f : Prog S ε α) :=
  Survives.observe.weaken (fun _ hs => hs) (fun _ _ hs => hs.1) (fun _ _ hs => hs)

theorem bind {m : Prog S ε α} {f : α → Prog S ε β} (hm : Keeps I m) (hf : ∀ a, Keeps I (f a)) :
    Keeps I (m >>= f) :=
  Survives.bind hm hf

theorem test {c : S → Bool} {m₁ m₂ : Prog S ε α} (h₁ : Keeps I m₁) (h₂ : Keeps I m₂) :
    Keeps I (Crash.test c m₁ m₂) :=
  Survives.test (Survives.weaken h₁ (fun _ h => h.1) (fun _ _ h => h) fun _ _ h => h)
    (Survives.weaken h₂ (fun _ h => h.1) (fun _ _ h => h) fun _ _ h => h)

theorem only {c : Bool} {m : Prog S ε Unit} (h : Keeps I m) : Keeps I (Crash.only c m) :=
  Survives.ite (fun _ => h) fun _ => pure ()

theorem forM {l : List β} {f : β → Prog S ε PUnit} (h : ∀ b ∈ l, Keeps I (f b)) :
    Keeps I (l.forM f) :=
  Survives.forM (fun _ => I) fun b _ hsuffix => h b (hsuffix.subset List.mem_cons_self)

end Keeps

end Crash
end AiopsK8s
