/-
# Runs of a transition system

A system is a partial function `step : S → A → Option S`: the action `a` is enabled in `s`
where it is defined.  A run is the list of its actions, in any order the system allows;
`exec` is the state it reaches.

`Along ok acts s` says that every action of a run is taken in a state that `ok` accepts.
`invariant_along` is the induction on runs: what every accepted action keeps holds at the
end of a run that is accepted all along.
-/

import Mathlib.Tactic.Common

namespace AiopsK8s
namespace Steps

variable {S A : Type} (step : S → A → Option S)

/-- The state that a run reaches. -/
def exec : List A → S → Option S
  | [], s => some s
  | a :: acts, s => (step s a).bind (exec acts)

/-- Every action of the run is taken in a state that `ok` accepts. -/
def Along (ok : S → A → Prop) : List A → S → Prop
  | [], _ => True
  | a :: acts, s => ok s a ∧ ∀ t, step s a = some t → Along ok acts t

/-- A run is accepted or not, where `ok` is decidable. -/
def decideAlong (ok : S → A → Prop) [∀ s a, Decidable (ok s a)] :
    ∀ acts s, Decidable (Along step ok acts s)
  | [], _ => isTrue trivial
  | a :: acts, s =>
    match h : step s a with
    | none => decidable_of_iff (ok s a)
        ⟨fun hok => ⟨hok, fun t ht => by rw [h] at ht; cases ht⟩, fun hal => hal.1⟩
    | some t =>
      have : Decidable (Along step ok acts t) := decideAlong ok acts t
      decidable_of_iff (ok s a ∧ Along step ok acts t)
        ⟨fun hal => ⟨hal.1, fun u hu => by
            rw [h] at hu
            cases hu
            exact hal.2⟩,
          fun hal => ⟨hal.1, hal.2 t h⟩⟩

instance (ok : S → A → Prop) [∀ s a, Decidable (ok s a)] (acts : List A) (s : S) :
    Decidable (Along step ok acts s) := decideAlong step ok acts s

variable {step}

@[simp] theorem exec_nil (s : S) : exec step [] s = some s := rfl

theorem exec_cons {a : A} {acts : List A} {s t : S} :
    exec step (a :: acts) s = some t ↔ ∃ u, step s a = some u ∧ exec step acts u = some t := by
  have hcons : exec step (a :: acts) s = (step s a).bind (exec step acts) := rfl
  rw [hcons, Option.bind_eq_some_iff]

theorem exec_append {acts more : List A} {s t : S} :
    exec step (acts ++ more) s = some t ↔
      ∃ u, exec step acts s = some u ∧ exec step more u = some t := by
  induction acts generalizing s with
  | nil => simp
  | cons a acts ih =>
      rw [List.cons_append, exec_cons]
      constructor
      · rintro ⟨u, hu, ht⟩
        obtain ⟨v, hv, ht⟩ := ih.1 ht
        exact ⟨v, exec_cons.2 ⟨u, hu, hv⟩, ht⟩
      · rintro ⟨v, hv, ht⟩
        obtain ⟨u, hu, hv⟩ := exec_cons.1 hv
        exact ⟨u, hu, ih.2 ⟨v, hv, ht⟩⟩

/-- A run of one action. -/
theorem exec_singleton {a : A} {s t : S} : exec step [a] s = some t ↔ step s a = some t := by
  rw [exec_cons]
  constructor
  · rintro ⟨u, hu, ht⟩
    cases ht
    exact hu
  · intro h
    exact ⟨t, h, rfl⟩

/-- **Induction on runs.**  What every accepted action keeps holds after a run that is
accepted all along. -/
theorem invariant_along {ok : S → A → Prop} {I : S → Prop}
    (hstep : ∀ s a t, I s → ok s a → step s a = some t → I t) {acts : List A} {s t : S}
    (hs : I s) (hok : Along step ok acts s) (h : exec step acts s = some t) : I t := by
  induction acts generalizing s with
  | nil =>
      cases h
      exact hs
  | cons a acts ih =>
      obtain ⟨u, hu, ht⟩ := exec_cons.1 h
      have hIu : I u := hstep s a u hs hok.1 hu
      exact ih hIu (hok.2 u hu) ht

/-- What every action keeps holds after every run. -/
theorem invariant {I : S → Prop} (hstep : ∀ s a t, I s → step s a = some t → I t)
    {acts : List A} {s t : S} (hs : I s) (h : exec step acts s = some t) : I t := by
  have hall : ∀ (acts : List A) (s : S), Along step (fun _ _ => True) acts s := by
    intro acts
    induction acts with
    | nil => exact fun _ => trivial
    | cons a acts ih => exact fun s => ⟨trivial, fun t _ => ih t⟩
  exact invariant_along (fun s a t hI _ => hstep s a t hI) hs (hall acts s) h

/-- The rest of an accepted run is accepted. -/
theorem along_append {ok : S → A → Prop} {acts more : List A} {s t : S}
    (hok : Along step ok (acts ++ more) s) (h : exec step acts s = some t) :
    Along step ok more t := by
  induction acts generalizing s with
  | nil =>
      cases h
      exact hok
  | cons a acts ih =>
      obtain ⟨u, hu, ht⟩ := exec_cons.1 h
      exact ih (hok.2 u hu) ht

/-- The beginning of an accepted run is accepted. -/
theorem along_left {ok : S → A → Prop} {acts more : List A} {s : S}
    (hok : Along step ok (acts ++ more) s) : Along step ok acts s := by
  induction acts generalizing s with
  | nil => exact trivial
  | cons a acts ih => exact ⟨hok.1, fun u hu => ih (hok.2 u hu)⟩

/-- An accepted run goes on with an accepted action. -/
theorem along_concat {ok : S → A → Prop} {acts : List A} {a : A} {s t : S}
    (hok : Along step ok acts s) (h : exec step acts s = some t) (ha : ok t a) :
    Along step ok (acts ++ [a]) s := by
  induction acts generalizing s with
  | nil =>
      cases h
      exact ⟨ha, fun _ _ => trivial⟩
  | cons b acts ih =>
      obtain ⟨u, hu, ht⟩ := exec_cons.1 h
      refine ⟨hok.1, fun v hv => ?_⟩
      rw [hu] at hv
      cases hv
      exact ih (hok.2 u hu) ht

/-- A run is accepted all along if each of its actions is. -/
theorem along_of_forall {ok : S → A → Prop} {acts : List A} {s : S}
    (h : ∀ before a after t, acts = before ++ a :: after → exec step before s = some t → ok t a) :
    Along step ok acts s := by
  induction acts generalizing s with
  | nil => exact trivial
  | cons a acts ih =>
      refine ⟨h [] a acts s rfl rfl, fun u hu => ih fun before b after t hacts ht => ?_⟩
      have hrun : exec step (a :: before) s = some t := exec_cons.2 ⟨u, hu, ht⟩
      exact h (a :: before) b after t (by rw [hacts, List.cons_append]) hrun

end Steps
end AiopsK8s
