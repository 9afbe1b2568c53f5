/-
# Which exceptions a computation raises

A computation converts values as it goes and stops at the first error.  `reading` collects what it
converts, in order, up to that error.  `Covers` says that a collection decides the errors: only
allowed ones are raised if and only if every value of the collection can be converted.  The rules
follow the way the computation is written: a bind collects what its parts collect
(`Covers.bind`), and a loop collects for every item that it reaches (`Covers.mapM`).
-/

import Mathlib.Data.List.Basic

namespace AiopsK8s
namespace Raising

variable {ε ρ α β : Type}

/-- What is collected after `x`, if `x` returns. -/
def reading (x : Except ε α) (f : α → List ρ) : List ρ :=
  match x with
  | .ok a => f a
  | .error _ => []

/-- What a loop collects: it stops at the first item that raises. -/
def readItems (f : α → Except ε β) (reads : α → List ρ) : List α → List ρ
  | [] => []
  | a :: l => reads a ++ reading (f a) fun _ => readItems f reads l

/-- What is collected depends on what is accepted, not on the errors. -/
theorem reading_congr {x y : Except ε α} (h : ∀ a, x = .ok a ↔ y = .ok a) (f : α → List ρ) :
    reading x f = reading y f := by
  rcases y with e | b
  · rcases x with e' | a
    · rfl
    · exact absurd ((h a).1 rfl) (by simp)
  · rw [(h b).2 rfl]

/-- What a loop collects depends on the items that its passes accept. -/
theorem readItems_congr {γ : Type} {f : α → Except ε β} {g : α → Except ε γ}
    (h : ∀ a, (∃ b, f a = .ok b) ↔ ∃ c, g a = .ok c) (reads : α → List ρ) (l : List α) :
    readItems f reads l = readItems g reads l := by
  induction l with
  | nil => rfl
  | cons a l ih =>
      have ha := h a
      rw [readItems, readItems, ih]
      rcases hf : f a with e | b <;> rcases hg : g a with e' | c
      · rfl
      · rw [hf, hg] at ha
        simp at ha
      · rw [hf, hg] at ha
        simp at ha
      · rfl

variable (Allowed : ε → Prop) (Converts : ρ → Prop)

/-- Only allowed errors are raised. -/
def Raises (x : Except ε α) : Prop := ∀ e, x = .error e → Allowed e

/-- The collection decides whether only allowed errors are raised. -/
def Covers (x : Except ε α) (rs : List ρ) : Prop := Raises Allowed x ↔ ∀ r ∈ rs, Converts r

variable {Allowed Converts}

theorem raises_ok (a : α) : Raises Allowed (.ok a : Except ε α) := by
  intro e he
  cases he

theorem raises_error {e : ε} : Raises Allowed (.error e : Except ε α) ↔ Allowed e := by
  constructor
  · exact fun h => h e rfl
  · rintro h _ ⟨⟩
    exact h

theorem raises_bind {x : Except ε α} {f : α → Except ε β} :
    Raises Allowed (x >>= f) ↔ Raises Allowed x ∧ ∀ a, x = .ok a → Raises Allowed (f a) := by
  rcases x with e | a
  · have herror : (Except.error e >>= f) = (.error e : Except ε β) := rfl
    rw [herror, raises_error, raises_error]
    exact ⟨fun h => ⟨h, fun _ ha => by cases ha⟩, fun h => h.1⟩
  · have hok : ((Except.ok a : Except ε α) >>= f) = f a := rfl
    rw [hok]
    constructor
    · intro h
      refine ⟨raises_ok a, ?_⟩
      rintro _ ⟨⟩
      exact h
    · exact fun h => h.2 a rfl

theorem Raises.bind {x : Except ε α} {f : α → Except ε β} (hx : Raises Allowed x)
    (hf : ∀ a, Raises Allowed (f a)) : Raises Allowed (x >>= f) :=
  raises_bind.2 ⟨hx, fun a _ => hf a⟩

/-- A loop raises what its passes raise. -/
theorem Raises.mapM {f : α → Except ε β} {l : List α} (h : ∀ a ∈ l, Raises Allowed (f a)) :
    Raises Allowed (l.mapM f) := by
  induction l with
  | nil => exact raises_ok []
  | cons a l ih =>
      obtain ⟨ha, hl⟩ := List.forall_mem_cons.1 h
      rw [List.mapM_cons]
      exact ha.bind fun _ => (ih hl).bind fun _ => raises_ok _

/-- Nothing is converted by a computation that raises only allowed errors. -/
theorem covers_nil {x : Except ε α} (h : Raises Allowed x) : Covers Allowed Converts x [] :=
  ⟨fun _ _ hr => (List.not_mem_nil hr).elim, fun _ => h⟩

theorem covers_ok (a : α) : Covers Allowed Converts (.ok a : Except ε α) [] := covers_nil (raises_ok a)

theorem covers_error {e : ε} (h : Allowed e) : Covers Allowed Converts (.error e : Except ε α) [] :=
  covers_nil (raises_error.2 h)

namespace Covers

variable {x : Except ε α} {f : α → Except ε β} {rs ss : List ρ} {k : α → List ρ}

/-- A bind collects what its parts collect. -/
theorem bind (hx : Covers Allowed Converts x rs)
    (hf : ∀ a, x = .ok a → Covers Allowed Converts (f a) (k a)) :
    Covers Allowed Converts (x >>= f) (rs ++ reading x k) := by
  have hraises : Raises Allowed x ↔ ∀ r ∈ rs, Converts r := hx
  unfold Covers
  rw [raises_bind, hraises, List.forall_mem_append]
  refine and_congr Iff.rfl ?_
  rcases x with e | a
  · constructor
    · intro _ r hr
      exact (List.not_mem_nil hr).elim
    · intro _ a ha
      cases ha
  · constructor
    · exact fun h => (hf a rfl).1 (h a rfl)
    · rintro h _ ⟨⟩
      exact (hf a rfl).2 h

/-- A step that converts nothing. -/
theorem step (hx : Raises Allowed x) (hf : ∀ a, x = .ok a → Covers Allowed Converts (f a) (k a)) :
    Covers Allowed Converts (x >>= f) (reading x k) :=
  (covers_nil hx).bind hf

/-- What follows converts nothing. -/
theorem last (hx : Covers Allowed Converts x rs) (hf : ∀ a, x = .ok a → Raises Allowed (f a)) :
    Covers Allowed Converts (x >>= f) rs := by
  have hraises : Raises Allowed x ↔ ∀ r ∈ rs, Converts r := hx
  unfold Covers
  rw [raises_bind, hraises]
  exact and_iff_left hf

theorem ite {p : Prop} [Decidable p] {y : Except ε α} (hx : p → Covers Allowed Converts x rs)
    (hy : ¬p → Covers Allowed Converts y ss) :
    Covers Allowed Converts (if p then x else y) (if p then rs else ss) := by
  by_cases hp : p
  · rw [if_pos hp, if_pos hp]
    exact hx hp
  · rw [if_neg hp, if_neg hp]
    exact hy hp

/-- A loop collects for every item that it reaches. -/
theorem mapM {reads : α → List ρ} (h : ∀ a, Covers Allowed Converts (f a) (reads a)) (l : List α) :
    Covers Allowed Converts (l.mapM f) (readItems f reads l) := by
  induction l with
  | nil => exact covers_ok []
  | cons a l ih =>
      rw [List.mapM_cons]
      refine (h a).bind fun b _ => ?_
      exact ih.last fun bs _ => raises_ok _

end Covers

end Raising
end AiopsK8s
