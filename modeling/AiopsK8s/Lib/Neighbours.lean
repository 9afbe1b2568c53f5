/-
# Neighbours in a list

The pairs of neighbours in a list are `l.zip l.tail`.  They lie in the order of the list
(`sublist_of_mem_zip_tail`).  A list without repetition in which every edge of a graph goes forward
is a topological order of the graph, so the graph has no cycle (`not_cyclic_of_topological`).
-/

import AiopsK8s.Lib.Dfs

namespace AiopsK8s

open Relation

variable {α : Type}

/-- Neighbours lie in the order of the list. -/
theorem sublist_of_mem_zip_tail {l : List α} {a b : α} (h : (a, b) ∈ l.zip l.tail) :
    [a, b].Sublist l := by
  induction l with
  | nil => cases h
  | cons c l ih =>
      cases l with
      | nil => cases h
      | cons d l =>
          rw [List.tail_cons, List.zip_cons_cons, List.mem_cons] at h
          rcases h with heq | h
          · obtain ⟨rfl, rfl⟩ := Prod.mk.inj heq
            exact (List.singleton_sublist.2 List.mem_cons_self).cons_cons _
          · exact (ih h).cons _

variable [DecidableEq α]

/-- In a list without repetition the place of an element says what comes before it. -/
theorem idxOf_lt_of_sublist {l : List α} (hl : l.Nodup) {a b : α} (h : [a, b].Sublist l) :
    l.idxOf a < l.idxOf b := by
  induction l with
  | nil => cases h
  | cons c l ih =>
      obtain ⟨hc, hl⟩ := List.nodup_cons.1 hl
      cases h with
      | cons _ h =>
          have ha : c ≠ a := fun heq => hc (heq ▸ h.subset (by simp))
          have hb : c ≠ b := fun heq => hc (heq ▸ h.subset (by simp))
          rw [List.idxOf_cons_ne _ ha, List.idxOf_cons_ne _ hb]
          exact Nat.succ_lt_succ (ih hl h)
      | cons_cons _ h =>
          have hb : a ≠ b := fun heq => hc (heq ▸ List.singleton_sublist.1 h)
          rw [List.idxOf_cons_self, List.idxOf_cons_ne _ hb]
          exact Nat.succ_pos _

/-- **A graph with a topological order has no cycle.** -/
theorem not_cyclic_of_topological {nodes : List α} (hnodes : nodes.Nodup) {successors : α → List α}
    (h : ∀ a, ∀ b ∈ successors a, [a, b].Sublist nodes) : ¬Dfs.Cyclic successors := by
  have hstep : ∀ a b, Dfs.Edge successors a b → nodes.idxOf a < nodes.idxOf b :=
    fun a b hb => idxOf_lt_of_sublist hnodes (h a b hb)
  have hpath : ∀ a b, TransGen (Dfs.Edge successors) a b → nodes.idxOf a < nodes.idxOf b := by
    intro a b hab
    induction hab with
    | single hb => exact hstep _ _ hb
    | tail _ hb ih => exact Nat.lt_trans ih (hstep _ _ hb)
  rintro ⟨a, ha⟩
  exact Nat.lt_irrefl _ (hpath a a ha)

end AiopsK8s
