/-
# Computations with a state and exceptions

`Eff σ ε α` is a computation that reads and writes a state `σ` and either
returns an `α` or raises an `ε`.  The state reached is kept in both cases, as
it is in a language whose exceptions do not roll back what was done before
them: a log written before the exception is still there after it.

`Triple P m Q E` says what one computation does from the states of `P`: a
normal return satisfies `Q`, an exception satisfies `E`.  The rules follow the
program text (`Triple.pure`, `Triple.bind`, `Triple.catching`), and `Stable I m`
is the special case of an invariant `I` that every outcome keeps, which is all
that the calls to an unknown environment need.
-/

import Mathlib.Data.List.Forall2
import Mathlib.Tactic.Common

namespace AiopsK8s
namespace Effect

/-- A sequence without a state returns only if both parts return. -/
theorem bind_eq_ok {ε α β : Type} {x : Except ε α} {f : α → Except ε β} {b : β}
    (h : (x >>= f) = .ok b) : ∃ a, x = .ok a ∧ f a = .ok b := by
  cases x with
  | error e => cases h
  | ok a => exact ⟨a, rfl, h⟩

/-- Two steps that accept the same, followed by continuations that accept the same. -/
theorem bind_eq_ok_congr {ε α β : Type} {x y : Except ε α} {f g : α → Except ε β}
    (hx : ∀ a, x = .ok a ↔ y = .ok a) (hf : ∀ a b, f a = .ok b ↔ g a = .ok b) {b : β} :
    (x >>= f) = .ok b ↔ (y >>= g) = .ok b := by
  constructor
  · intro h
    obtain ⟨a, ha, h⟩ := bind_eq_ok h
    rw [(hx a).1 ha]
    exact (hf a b).1 h
  · intro h
    obtain ⟨a, ha, h⟩ := bind_eq_ok h
    rw [(hx a).2 ha]
    exact (hf a b).2 h

/-- A loop that collects results returns only if every pass does. -/
theorem mapM_eq_ok {ε α β : Type} {f : α → Except ε β} {l : List α} {r : List β}
    (h : l.mapM f = .ok r) : List.Forall₂ (fun a b => f a = .ok b) l r := by
  induction l generalizing r with
  | nil =>
      rw [List.mapM_nil] at h
      cases h
      exact .nil
  | cons a l ih =>
      rw [List.mapM_cons] at h
      obtain ⟨b, hb, h⟩ := bind_eq_ok h
      obtain ⟨r', hr', h⟩ := bind_eq_ok h
      cases h
      exact .cons hb (ih hr')

theorem mapM_of_forall₂ {ε α β : Type} {f : α → Except ε β} {l : List α} {r : List β}
    (h : List.Forall₂ (fun a b => f a = .ok b) l r) : l.mapM f = .ok r := by
  induction h with
  | nil => rfl
  | cons hb _ ih =>
      rw [List.mapM_cons, hb, ih]
      rfl

/-- A loop whose passes all return returns. -/
theorem exists_mapM_ok {ε α β : Type} {f : α → Except ε β} {l : List α}
    (h : ∀ a ∈ l, ∃ b, f a = .ok b) : ∃ r, l.mapM f = .ok r := by
  induction l with
  | nil => exact ⟨[], rfl⟩
  | cons a l ih =>
      obtain ⟨b, hb⟩ := h a List.mem_cons_self
      obtain ⟨r, hr⟩ := ih fun c hc => h c (List.mem_cons_of_mem _ hc)
      refine ⟨b :: r, ?_⟩
      rw [List.mapM_cons, hb, hr]
      rfl

/-- What a loop collects comes from one of its passes. -/
theorem exists_of_mem_mapM {ε α β : Type} {f : α → Except ε β} {l : List α} {r : List β}
    (h : l.mapM f = .ok r) {b : β} (hb : b ∈ r) : ∃ a ∈ l, f a = .ok b := by
  have hpairs := mapM_eq_ok h
  clear h
  induction hpairs with
  | nil => exact (List.not_mem_nil hb).elim
  | cons hab _ ih =>
      rcases List.mem_cons.1 hb with rfl | hb
      · exact ⟨_, List.mem_cons_self .., hab⟩
      · obtain ⟨a, ha, hfa⟩ := ih hb
        exact ⟨a, List.mem_cons_of_mem _ ha, hfa⟩

/-- Every item of a loop that returns is collected. -/
theorem exists_mem_of_mapM {ε α β : Type} {f : α → Except ε β} {l : List α} {r : List β}
    (h : l.mapM f = .ok r) {a : α} (ha : a ∈ l) : ∃ b ∈ r, f a = .ok b := by
  have hpairs := mapM_eq_ok h
  clear h
  induction hpairs with
  | nil => exact (List.not_mem_nil ha).elim
  | cons hab _ ih =>
      rcases List.mem_cons.1 ha with rfl | ha
      · exact ⟨_, List.mem_cons_self .., hab⟩
      · obtain ⟨b, hb, hfb⟩ := ih ha
        exact ⟨b, List.mem_cons_of_mem _ hb, hfb⟩

/-- What holds of any two items of a loop carries over to what it collects. -/
theorem pairwise_mapM {ε α β : Type} {f : α → Except ε β} {S : α → α → Prop} {T : β → β → Prop}
    {l : List α} {r : List β} (h : l.mapM f = .ok r) (hl : l.Pairwise S)
    (hST : ∀ a ∈ l, ∀ a' ∈ l, ∀ b b', f a = .ok b → f a' = .ok b' → S a a' → T b b') :
    r.Pairwise T := by
  induction l generalizing r with
  | nil =>
      rw [List.mapM_nil] at h
      cases h
      exact .nil
  | cons a l ih =>
      obtain ⟨ha, hl⟩ := List.pairwise_cons.1 hl
      rw [List.mapM_cons] at h
      obtain ⟨b, hb, h⟩ := bind_eq_ok h
      obtain ⟨r', hr', h⟩ := bind_eq_ok h
      cases h
      refine List.pairwise_cons.2 ⟨fun b' hb' => ?_, ih hr' hl fun a₁ h₁ a₂ h₂ =>
        hST a₁ (List.mem_cons_of_mem _ h₁) a₂ (List.mem_cons_of_mem _ h₂)⟩
      obtain ⟨a', ha', hfa'⟩ := exists_of_mem_mapM hr' hb'
      exact hST a List.mem_cons_self a' (List.mem_cons_of_mem _ ha') b b' hb hfa' (ha a' ha')

/-- Loops over the same items whose results agree in part agree in that part. -/
theorem map_eq_of_mapM {ε α β γ : Type} {f g : α → Except ε β} {part : β → γ}
    (h : ∀ a b c, f a = .ok b → g a = .ok c → part b = part c) {l : List α} {r s : List β}
    (hr : l.mapM f = .ok r) (hs : l.mapM g = .ok s) : r.map part = s.map part := by
  have hpairs := mapM_eq_ok hr
  have hpairs' := mapM_eq_ok hs
  clear hr hs
  induction hpairs generalizing s with
  | nil =>
      cases hpairs'
      rfl
  | cons hab _ ih =>
      cases hpairs' with
      | cons hac hrest => rw [List.map_cons, List.map_cons, h _ _ _ hab hac, ih hrest]

/-- What every pass keeps of its item, the loop keeps of its items. -/
theorem map_eq_map_of_mapM {ε α β γ : Type} {f : α → Except ε β} {g : α → γ} {k : β → γ}
    {l : List α} {r : List β} (h : ∀ a ∈ l, ∀ b, f a = .ok b → k b = g a)
    (hr : l.mapM f = .ok r) : r.map k = l.map g := by
  induction l generalizing r with
  | nil =>
      rw [List.mapM_nil] at hr
      cases hr
      rfl
  | cons a l ih =>
      rw [List.mapM_cons] at hr
      obtain ⟨b, hb, hr⟩ := bind_eq_ok hr
      obtain ⟨r', hr', hr⟩ := bind_eq_ok hr
      cases hr
      rw [List.map_cons, List.map_cons, h a List.mem_cons_self b hb,
        ih (fun c hc => h c (List.mem_cons_of_mem _ hc)) hr']

/-- Reading back what was written, item by item. -/
theorem mapM_map_ok {ε α β : Type} {f : β → Except ε α} {g : α → β} {l : List α}
    (h : ∀ a ∈ l, f (g a) = .ok a) : (l.map g).mapM f = .ok l := by
  refine mapM_of_forall₂ (List.forall₂_map_left_iff.2 ?_)
  exact List.forall₂_same.2 h

/-- Two loops whose passes accept the same accept the same. -/
theorem mapM_eq_ok_congr {ε α β : Type} {f g : α → Except ε β}
    (h : ∀ a b, f a = .ok b ↔ g a = .ok b) {l : List α} {r : List β} :
    l.mapM f = .ok r ↔ l.mapM g = .ok r := by
  constructor
  · intro hr
    exact mapM_of_forall₂ ((mapM_eq_ok hr).imp fun a b => (h a b).1)
  · intro hr
    exact mapM_of_forall₂ ((mapM_eq_ok hr).imp fun a b => (h a b).2)

/-- A loop whose passes succeed under a condition, each with a known result. -/
theorem mapM_eq_ok_iff {ε α β : Type} {f : α → Except ε β} {P : α → Prop} {g : α → β}
    (h : ∀ a b, f a = .ok b ↔ P a ∧ b = g a) {l : List α} {r : List β} :
    l.mapM f = .ok r ↔ (∀ a ∈ l, P a) ∧ r = l.map g := by
  constructor
  · intro hr
    have hpairs := mapM_eq_ok hr
    clear hr
    induction hpairs with
    | nil => exact ⟨fun a ha => (List.not_mem_nil ha).elim, rfl⟩
    | cons hab _ ih =>
        obtain ⟨hP, rfl⟩ := (h _ _).1 hab
        obtain ⟨hrest, rfl⟩ := ih
        exact ⟨List.forall_mem_cons.2 ⟨hP, hrest⟩, rfl⟩
  · rintro ⟨hP, rfl⟩
    refine mapM_of_forall₂ (List.forall₂_map_right_iff.2 (List.forall₂_same.2 fun a ha => ?_))
    exact (h a (g a)).2 ⟨hP a ha, rfl⟩

/-- A loop that decodes: it returns exactly what encodes to its items. -/
theorem mapM_eq_ok_iff_map {ε α β : Type} {f : α → Except ε β} {P : β → Prop} {g : β → α}
    (h : ∀ a b, f a = .ok b ↔ a = g b ∧ P b) {l : List α} {r : List β} :
    l.mapM f = .ok r ↔ l = r.map g ∧ ∀ b ∈ r, P b := by
  constructor
  · intro hr
    have hpairs := mapM_eq_ok hr
    clear hr
    induction hpairs with
    | nil => exact ⟨rfl, fun b hb => (List.not_mem_nil hb).elim⟩
    | cons hab _ ih =>
        obtain ⟨rfl, hP⟩ := (h _ _).1 hab
        obtain ⟨rfl, hrest⟩ := ih
        exact ⟨rfl, List.forall_mem_cons.2 ⟨hP, hrest⟩⟩
  · rintro ⟨rfl, hP⟩
    exact mapM_map_ok fun b hb => (h (g b) b).2 ⟨rfl, hP b hb⟩

/-- A loop whose passes return what is computed returns what is computed of its items. -/
theorem mapM_eq_map {ε α β : Type} {f : α → Except ε β} {g : α → β} {l : List α}
    (h : ∀ a ∈ l, f a = .ok (g a)) : l.mapM f = .ok (l.map g) :=
  mapM_of_forall₂ (List.forall₂_map_right_iff.2 (List.forall₂_same.2 h))

/-- A loop of checks passes if each pass does. -/
theorem forM_eq_ok {ε α : Type} {f : α → Except ε PUnit} {l : List α} :
    l.forM f = .ok ⟨⟩ ↔ ∀ a ∈ l, f a = .ok ⟨⟩ := by
  induction l with
  | nil => simp [pure, Except.pure]
  | cons a l ih =>
      have hcons : (a :: l).forM f = f a >>= fun _ => l.forM f := rfl
      rw [hcons, List.forall_mem_cons, ← ih]
      rcases f a with e | ⟨⟩ <;> simp [bind, Except.bind]

/-- `if condition: raise error`. -/
def rejectIf {ε : Type} (condition : Prop) [Decidable condition] (error : ε) : Except ε Unit :=
  if condition then .error error else .ok ()

/-- `for item in items: if bad(item): raise error(item)`. -/
def rejectAny {ε α : Type} (items : List α) (bad : α → Bool) (error : α → ε) : Except ε Unit :=
  match items.find? bad with
  | some item => .error (error item)
  | none => .ok ()

@[simp] theorem rejectIf_eq_ok {ε : Type} {condition : Prop} [Decidable condition] {error : ε} :
    rejectIf condition error = .ok () ↔ ¬condition := by
  unfold rejectIf
  split_ifs with h <;> simp [h]

@[simp] theorem rejectAny_eq_ok {ε α : Type} {items : List α} {bad : α → Bool}
    {error : α → ε} :
    rejectAny items bad error = .ok () ↔ ∀ a ∈ items, bad a = false := by
  unfold rejectAny
  rcases h : items.find? bad with _ | a
  · simpa using h
  · have hbad := List.find?_some h
    simp only [reduceCtorEq, false_iff]
    intro hall
    rw [hall a (List.mem_of_find?_eq_some h)] at hbad
    cases hbad

/-- Checks in sequence pass if each of them passes. -/
theorem checks_seq {ε : Type} {x y : Except ε Unit} :
    (do x; y) = .ok () ↔ x = .ok () ∧ y = .ok () := by
  rcases x with e | ⟨⟩ <;> simp [bind, Except.bind]

/-- A computation over the state `σ` that returns an `α` or raises an `ε`. -/
def Eff (σ ε α : Type) : Type := σ → Except ε α × σ

namespace Eff

variable {σ ε α β : Type}

/-- Run a computation from a state. -/
def run (m : Eff σ ε α) (s : σ) : Except ε α × σ := m s

/-- Continue with a normal result, pass an exception on. -/
def bind (m : Eff σ ε α) (f : α → Eff σ ε β) : Eff σ ε β := fun s =>
  match m s with
  | (.ok a, s') => f a s'
  | (.error e, s') => (.error e, s')

instance : Monad (Eff σ ε) where
  pure a := fun s => (.ok a, s)
  bind := bind

theorem id_map (m : Eff σ ε α) : id <$> m = m := by
  funext s
  change bind m (fun a => Pure.pure a) s = m s
  unfold bind
  rcases m s with ⟨e | a, s'⟩ <;> rfl

theorem bind_assoc {γ : Type} (m : Eff σ ε α) (f : α → Eff σ ε β) (g : β → Eff σ ε γ) :
    m >>= f >>= g = m >>= fun a => f a >>= g := by
  funext s
  change bind (bind m f) g s = bind m (fun a => bind (f a) g) s
  unfold bind
  rcases m s with ⟨e | a, s'⟩ <;> rfl

instance : LawfulMonad (Eff σ ε) :=
  LawfulMonad.mk' _ id_map (fun _ _ => rfl) bind_assoc

/-- Raise an exception. -/
def raise (e : ε) : Eff σ ε α := fun s => (.error e, s)

/-- Update the state. -/
def modify (f : σ → σ) : Eff σ ε Unit := fun s => (.ok (), f s)

/-- Read the state. -/
def get : Eff σ ε σ := fun s => (.ok s, s)

/-- The outcome of `m` as a value: an exception that `catches` accepts becomes
`.error`, any other exception passes through. -/
def attempt (catches : ε → Bool) (m : Eff σ ε α) : Eff σ ε (Except ε α) := fun s =>
  match m s with
  | (.ok a, s') => (.ok (.ok a), s')
  | (.error e, s') => if catches e then (.ok (.error e), s') else (.error e, s')

/-- Run `m`, then `after` whatever the outcome of `m`; an exception of `after`
replaces the outcome (Python's `finally`, a context manager's exit). -/
def ensuring (m : Eff σ ε α) (after : Eff σ ε Unit) : Eff σ ε α := fun s =>
  match m s with
  | (r, s') =>
    match after s' with
    | (.ok _, s'') => (r, s'')
    | (.error e, s'') => (.error e, s'')

/-- Run a computation on a part of the state: `get` reads the part, `set` writes it back. -/
def zoom {τ : Type} (get : τ → σ) (set : σ → τ → τ) (m : Eff σ ε α) : Eff τ ε α := fun t =>
  match m (get t) with
  | (r, s) => (r, set s t)

/-- A result without a state, as a computation. -/
def ofExcept (r : Except ε α) : Eff σ ε α := fun s => (r, s)

/-- `if condition: m`. -/
def when (condition : Prop) [Decidable condition] (m : Eff σ ε Unit) : Eff σ ε Unit :=
  if condition then m else Pure.pure ()

/-- `if condition: raise e`. -/
def raiseIf (condition : Prop) [Decidable condition] (e : ε) : Eff σ ε Unit :=
  when condition (raise e)

@[simp] theorem run_zoom {τ : Type} (get : τ → σ) (set : σ → τ → τ) (m : Eff σ ε α) (t : τ) :
    (zoom get set m).run t = ((m.run (get t)).1, set (m.run (get t)).2 t) := rfl

@[simp] theorem run_ofExcept (r : Except ε α) (s : σ) :
    (ofExcept r : Eff σ ε α).run s = (r, s) := rfl

@[simp] theorem run_pure (a : α) (s : σ) : (Pure.pure a : Eff σ ε α).run s = (.ok a, s) := rfl

@[simp] theorem run_bind (m : Eff σ ε α) (f : α → Eff σ ε β) (s : σ) :
    (m >>= f).run s = match m.run s with
      | (.ok a, s') => (f a).run s'
      | (.error e, s') => (.error e, s') := rfl

@[simp] theorem run_raise (e : ε) (s : σ) : (raise e : Eff σ ε α).run s = (.error e, s) := rfl

@[simp] theorem run_modify (f : σ → σ) (s : σ) :
    (modify f : Eff σ ε Unit).run s = (.ok (), f s) := rfl

/-- The two ways through a sequence. -/
theorem run_bind_cases {m : Eff σ ε α} {f : α → Eff σ ε β} {s s' : σ} {r : Except ε β}
    (h : (m >>= f).run s = (r, s')) :
    (∃ e, m.run s = (.error e, s') ∧ r = .error e) ∨
      ∃ a s₁, m.run s = (.ok a, s₁) ∧ (f a).run s₁ = (r, s') := by
  rw [run_bind] at h
  rcases hm : m.run s with ⟨e | a, s₁⟩ <;> rw [hm] at h
  · cases h
    exact .inl ⟨e, rfl, rfl⟩
  · exact .inr ⟨a, s₁, rfl, h⟩

/-- A sequence returns only if both parts return. -/
theorem run_bind_ok {m : Eff σ ε α} {f : α → Eff σ ε β} {s s' : σ} {b : β}
    (h : (m >>= f).run s = (.ok b, s')) :
    ∃ a s₁, m.run s = (.ok a, s₁) ∧ (f a).run s₁ = (.ok b, s') := by
  rcases run_bind_cases h with ⟨_, _, he⟩ | ⟨a, s₁, hm, hf⟩
  · cases he
  · exact ⟨a, s₁, hm, hf⟩

/-- The three ways through a handler. -/
theorem run_attempt_cases {m : Eff σ ε α} {catches : ε → Bool} {s s' : σ}
    {r : Except ε (Except ε α)} (h : (attempt catches m).run s = (r, s')) :
    (∃ a, m.run s = (.ok a, s') ∧ r = .ok (.ok a)) ∨
      (∃ e, m.run s = (.error e, s') ∧ catches e = true ∧ r = .ok (.error e)) ∨
        ∃ e, m.run s = (.error e, s') ∧ catches e = false ∧ r = .error e := by
  simp only [attempt, run] at h ⊢
  rcases hm : m s with ⟨e | a, s₁⟩ <;> rw [hm] at h
  · cases hc : catches e <;> simp only [hc] at h <;> cases h
    · exact .inr (.inr ⟨e, rfl, hc, rfl⟩)
    · exact .inr (.inl ⟨e, rfl, hc, rfl⟩)
  · cases h
    exact .inl ⟨a, rfl, rfl⟩

/-- A handler returns what it caught or what was returned. -/
theorem run_attempt_ok {m : Eff σ ε α} {catches : ε → Bool} {s s' : σ} {r : Except ε α}
    (h : (attempt catches m).run s = (.ok r, s')) : m.run s = (r, s') := by
  rcases run_attempt_cases h with ⟨a, hm, he⟩ | ⟨e, hm, _, he⟩ | ⟨_, _, _, he⟩ <;> cases he
  · exact hm
  · exact hm

/-- The closing computation keeps a normal return. -/
theorem run_ensuring_ok {m : Eff σ ε α} {after : Eff σ ε Unit} {s s' : σ} {a : α}
    (h : (ensuring m after).run s = (.ok a, s')) :
    ∃ s₁, m.run s = (.ok a, s₁) ∧ after.run s₁ = (.ok (), s') := by
  simp only [ensuring, run] at h ⊢
  rcases hm : m s with ⟨r, s₁⟩
  rcases ha : after s₁ with ⟨e | u, s₂⟩ <;> simp only [hm, ha] at h <;> cases h
  exact ⟨s₁, rfl, ha⟩

end Eff

open Eff

variable {σ ε α β : Type}

/-- From a state of `P`, `m` returns with `Q` or raises with `E`. -/
def Triple (P : σ → Prop) (m : Eff σ ε α) (Q : α → σ → Prop) (E : ε → σ → Prop) : Prop :=
  ∀ s, P s →
    (∀ a s', m.run s = (.ok a, s') → Q a s') ∧ (∀ e s', m.run s = (.error e, s') → E e s')

namespace Triple

variable {P P' : σ → Prop} {Q Q' : α → σ → Prop} {R : β → σ → Prop} {E E' : ε → σ → Prop}

/-- The rule of consequence. -/
theorem weaken {m : Eff σ ε α} (h : Triple P m Q E) (hP : ∀ s, P' s → P s)
    (hQ : ∀ a s, Q a s → Q' a s) (hE : ∀ e s, E e s → E' e s) : Triple P' m Q' E' := fun s hs =>
  ⟨fun a s' hr => hQ a s' ((h s (hP s hs)).1 a s' hr),
    fun e s' hr => hE e s' ((h s (hP s hs)).2 e s' hr)⟩

/-- A returned value satisfies what held before. -/
theorem pure {a : α} (h : ∀ s, P s → Q a s) : Triple P (Pure.pure a : Eff σ ε α) Q E := by
  intro s hs
  refine ⟨fun b s' hr => ?_, fun e s' hr => ?_⟩
  · obtain ⟨hb, rfl⟩ := Prod.mk.injEq .. ▸ hr
    cases hb
    exact h _ hs
  · cases hr

/-- A raised exception satisfies what held before. -/
theorem raise {e : ε} (h : ∀ s, P s → E e s) : Triple P (Eff.raise e : Eff σ ε α) Q E := by
  intro s hs
  refine ⟨fun b s' hr => ?_, fun e' s' hr => ?_⟩
  · cases hr
  · cases hr
    exact h _ hs

/-- A state update. -/
theorem modify {f : σ → σ} {Q : Unit → σ → Prop} (h : ∀ s, P s → Q () (f s)) :
    Triple P (Eff.modify f : Eff σ ε Unit) Q E := by
  intro s hs
  refine ⟨fun b s' hr => ?_, fun e s' hr => ?_⟩
  · cases hr
    exact h _ hs
  · cases hr

/-- Sequencing: the exception postcondition is shared by both parts. -/
theorem bind {m : Eff σ ε α} {f : α → Eff σ ε β} (hm : Triple P m Q E)
    (hf : ∀ a, Triple (Q a) (f a) R E) : Triple P (m >>= f) R E := by
  intro s hs
  obtain ⟨hok, herr⟩ := hm s hs
  rcases hr : m.run s with ⟨r | r, s₁⟩
  · refine ⟨fun b s' h => ?_, fun e s' h => ?_⟩ <;> rw [run_bind, hr] at h <;> cases h
    exact herr _ _ hr
  · have hQ := hok _ _ hr
    refine ⟨fun b s' h => ?_, fun e s' h => ?_⟩ <;> rw [run_bind, hr] at h
    · exact (hf r s₁ hQ).1 _ _ h
    · exact (hf r s₁ hQ).2 _ _ h

/-- A result without a state. -/
theorem ofExcept {r : Except ε α} (hok : ∀ a s, r = .ok a → P s → Q a s)
    (herr : ∀ e s, r = .error e → P s → E e s) :
    Triple P (Eff.ofExcept r : Eff σ ε α) Q E := by
  intro s hs
  refine ⟨fun a s' hr => ?_, fun e s' hr => ?_⟩ <;>
    (rw [run_ofExcept, Prod.mk.injEq] at hr; obtain ⟨hr, rfl⟩ := hr)
  · exact hok a s hr hs
  · exact herr e s hr hs

/-- Every computation satisfies the trivial postconditions. -/
theorem trivial {m : Eff σ ε α} : Triple P m (fun _ _ => True) (fun _ _ => True) := fun _ _ =>
  ⟨fun _ _ _ => True.intro, fun _ _ _ => True.intro⟩

/-- Reading the state: the rest starts from the state that was read. -/
theorem bind_get {f : σ → Eff σ ε β} (h : ∀ s, P s → Triple (fun t => t = s) (f s) R E) :
    Triple P (Eff.get >>= f) R E := by
  intro s hs
  exact h s hs s rfl

/-- Catching: a caught exception is a normal outcome, any other keeps the
exception postcondition. -/
theorem attempt {m : Eff σ ε α} {c : ε → Bool} {Q : α → σ → Prop}
    (hm : Triple P m Q E') (hE : ∀ e s, c e = false → E' e s → E e s) :
    Triple P (Eff.attempt c m)
      (fun r s => match r with | .ok a => Q a s | .error e => c e = true ∧ E' e s) E := by
  intro s hs
  obtain ⟨hok, herr⟩ := hm s hs
  rcases hr : m.run s with ⟨r | r, s₁⟩
  · have h' : (Eff.attempt c m).run s
        = if c r then (.ok (.error r), s₁) else (.error r, s₁) := by
      simp only [Eff.attempt, Eff.run] at hr ⊢
      rw [hr]
    cases hc : c r
    · refine ⟨fun b s' h => ?_, fun e s' h => ?_⟩ <;> rw [h', hc] at h <;> cases h
      exact hE _ _ hc (herr _ _ hr)
    · refine ⟨fun b s' h => ?_, fun e s' h => ?_⟩ <;> rw [h', hc] at h <;> cases h
      exact ⟨hc, herr _ _ hr⟩
  · have h' : (Eff.attempt c m).run s = (.ok (.ok r), s₁) := by
      simp only [Eff.attempt, Eff.run] at hr ⊢
      rw [hr]
    refine ⟨fun b s' h => ?_, fun e s' h => ?_⟩ <;> rw [h'] at h <;> cases h
    exact hok _ _ hr

/-- `ensuring`: the closing computation starts from either outcome of `m`. -/
theorem ensuring {m : Eff σ ε α} {after : Eff σ ε Unit} (hm : Triple P m Q E)
    (hok : ∀ a, Triple (Q a) after (fun _ => Q a) E)
    (herr : ∀ e, Triple (E e) after (fun _ => E e) E) :
    Triple P (Eff.ensuring m after) Q E := by
  intro s hs
  obtain ⟨h₁, h₂⟩ := hm s hs
  rcases hr : m.run s with ⟨r, s₁⟩
  rcases ha : after.run s₁ with ⟨a | a, s₂⟩
  · have h' : (Eff.ensuring m after).run s = (.error a, s₂) := by
      simp only [Eff.ensuring, Eff.run] at hr ha ⊢
      simp only [hr, ha]
    refine ⟨fun b s' h => ?_, fun e s' h => ?_⟩ <;> rw [h'] at h <;> cases h
    cases r with
    | error e => exact (herr e s₁ (h₂ _ _ hr)).2 _ _ ha
    | ok b => exact (hok b s₁ (h₁ _ _ hr)).2 _ _ ha
  · have h' : (Eff.ensuring m after).run s = (r, s₂) := by
      simp only [Eff.ensuring, Eff.run] at hr ha ⊢
      simp only [hr, ha]
    refine ⟨fun b s' h => ?_, fun e s' h => ?_⟩ <;> rw [h'] at h <;> cases h
    · exact (hok b s₁ (h₁ _ _ hr)).1 _ _ ha
    · exact (herr e s₁ (h₂ _ _ hr)).1 _ _ ha

/-- A branch on a proposition. -/
theorem ite {c : Prop} [Decidable c] {m₁ m₂ : Eff σ ε α} (h₁ : c → Triple P m₁ Q E)
    (h₂ : ¬c → Triple P m₂ Q E) : Triple P (if c then m₁ else m₂) Q E := by
  split
  · exact h₁ ‹_›
  · exact h₂ ‹_›

/-- A guarded computation. -/
theorem when {c : Prop} [Decidable c] {m : Eff σ ε Unit} {Q : Unit → σ → Prop}
    (h₁ : c → Triple P m Q E) (h₂ : ∀ s, ¬c → P s → Q () s) : Triple P (Eff.when c m) Q E :=
  Triple.ite h₁ fun hc => Triple.pure fun s hs => h₂ s hc hs

/-- Two facts about one computation. -/
theorem and {m : Eff σ ε α} (h₁ : Triple P m Q E) (h₂ : Triple P' m Q' E') :
    Triple (fun s => P s ∧ P' s) m (fun a s => Q a s ∧ Q' a s) (fun e s => E e s ∧ E' e s) :=
  fun s hs => ⟨fun a s' hr => ⟨(h₁ s hs.1).1 a s' hr, (h₂ s hs.2).1 a s' hr⟩,
    fun e s' hr => ⟨(h₁ s hs.1).2 e s' hr, (h₂ s hs.2).2 e s' hr⟩⟩

end Triple

/-- Every outcome of `m` keeps the invariant `I`. -/
def Stable (I : σ → Prop) (m : Eff σ ε α) : Prop := Triple I m (fun _ => I) (fun _ => I)

namespace Stable

variable {I : σ → Prop}

theorem pure (a : α) : Stable I (Pure.pure a : Eff σ ε α) := Triple.pure fun _ h => h

theorem bind {m : Eff σ ε α} {f : α → Eff σ ε β} (hm : Stable I m) (hf : ∀ a, Stable I (f a)) :
    Stable I (m >>= f) :=
  Triple.bind hm hf

theorem modify {f : σ → σ} (h : ∀ s, I s → I (f s)) : Stable I (Eff.modify f : Eff σ ε Unit) :=
  Triple.modify h

theorem raise (e : ε) : Stable I (Eff.raise e : Eff σ ε α) := Triple.raise fun _ h => h

theorem ofExcept (r : Except ε α) : Stable I (Eff.ofExcept r : Eff σ ε α) := by
  intro s hs
  constructor <;> intro _ s' hr <;> cases hr <;> exact hs

theorem get : Stable I (Eff.get : Eff σ ε σ) := by
  intro s hs
  constructor <;> intro _ s' hr <;> cases hr
  exact hs

/-- A computation on a part of the state keeps what no change of that part can break. -/
theorem zoom {τ : Type} {J : τ → Prop} {get : τ → σ} {set : σ → τ → τ} {m : Eff σ ε α}
    (h : ∀ s t, J t → J (set s t)) : Stable J (Eff.zoom get set m) := by
  intro t ht
  rcases hm : m.run (get t) with ⟨r, s⟩
  constructor <;> intro _ t' hr <;> rw [run_zoom, hm] at hr <;> cases hr <;> exact h _ _ ht

theorem ite {c : Prop} [Decidable c] {m₁ m₂ : Eff σ ε α} (h₁ : c → Stable I m₁)
    (h₂ : ¬c → Stable I m₂) : Stable I (if c then m₁ else m₂) :=
  Triple.ite h₁ h₂

theorem attempt {m : Eff σ ε α} {c : ε → Bool} (hm : Stable I m) : Stable I (Eff.attempt c m) :=
  (Triple.attempt hm fun _ _ _ h => h).weaken (fun _ h => h)
    (fun r _ h => by cases r with | ok _ => exact h | error _ => exact h.2) (fun _ _ h => h)

/-- An invariant that every outcome keeps holds after a run. -/
theorem holds {m : Eff σ ε α} (hm : Stable I m) {s s' : σ} {r : Except ε α} (hs : I s)
    (hr : m.run s = (r, s')) : I s' := by
  cases r with
  | ok a => exact (hm s hs).1 a s' hr
  | error e => exact (hm s hs).2 e s' hr

end Stable

end Effect
end AiopsK8s
