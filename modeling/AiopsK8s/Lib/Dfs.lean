/-
# Depth-first search for a cycle

A recursive search with two marks: the nodes on the path that is being followed and the nodes
that are done.  It stops at the first node it meets again on its own path, and then leaves the
path marked.  The depth of the recursion is bounded by the number of nodes, so `visit` takes
that bound as fuel, and `none` stands for a search that ran out of it.

The invariant is `Marks.Sound`: the path is a path, and nothing that is done lies on a cycle.
`visit_spec` is what one call keeps of it, by induction on the fuel, and `hasCycle_spec` that
the search of all nodes ends and decides whether there is a cycle.
-/

import Mathlib.Data.List.Perm.Subperm
import Mathlib.Logic.Relation

namespace AiopsK8s
namespace Dfs

open Relation

section AnyFound

variable {α σ : Type}

/-- `any(f(x) for x in l)` with a state: what is behind the first `x` that holds is left out. -/
def anyFound (f : α → σ → Option (Bool × σ)) : List α → σ → Option (Bool × σ)
  | [], s => some (false, s)
  | a :: l, s =>
      match f a s with
      | none => none
      | some (true, s') => some (true, s')
      | some (false, s') => anyFound f l s'

/-- What every call keeps is kept by all of them, where `R` relates the state before and after
a call that finds nothing and `D` says what such a call leaves done. -/
theorem anyFound_spec {f : α → σ → Option (Bool × σ)} {C : Prop} {R : σ → σ → Prop}
    {D : α → σ → Prop} (hrefl : ∀ s, R s s) (htrans : ∀ s t u, R s t → R t u → R s u)
    (hmono : ∀ a s t, R s t → D a s → D a t) {l : List α} {s₀ : σ}
    (hstep : ∀ a ∈ l, ∀ s, R s₀ s → ∃ found s', f a s = some (found, s') ∧
      (found = true → C) ∧ (found = false → R s s' ∧ D a s')) :
    ∃ found s', anyFound f l s₀ = some (found, s') ∧ (found = true → C) ∧
      (found = false → R s₀ s' ∧ ∀ a ∈ l, D a s') := by
  induction l generalizing s₀ with
  | nil => exact ⟨false, s₀, rfl, by simp, fun _ => ⟨hrefl s₀, by simp⟩⟩
  | cons a l ih =>
      obtain ⟨found, s₁, hf, htrue, hfalse⟩ := hstep a List.mem_cons_self s₀ (hrefl s₀)
      cases found with
      | true =>
          refine ⟨true, s₁, ?_, htrue, by simp⟩
          simp only [anyFound, hf]
      | false =>
          obtain ⟨hR, hD⟩ := hfalse rfl
          have hrest : ∀ b ∈ l, ∀ s, R s₁ s → ∃ found s', f b s = some (found, s') ∧
              (found = true → C) ∧ (found = false → R s s' ∧ D b s') := fun b hb s hs =>
            hstep b (List.mem_cons_of_mem _ hb) s (htrans _ _ _ hR hs)
          obtain ⟨found, s₂, hg, htrue', hfalse'⟩ := ih hrest
          refine ⟨found, s₂, ?_, htrue', fun hfound => ?_⟩
          · simp only [anyFound, hf, hg]
          · obtain ⟨hR', hD'⟩ := hfalse' hfound
            refine ⟨htrans _ _ _ hR hR', fun b hb => ?_⟩
            rcases List.mem_cons.1 hb with rfl | hb
            · exact hmono _ _ _ hR' hD
            · exact hD' b hb

end AnyFound

/-- The nodes on the path that is being followed, and the nodes that are done. -/
structure Marks (α : Type) where
  visiting : List α
  visited : List α

variable {α : Type}

/-- The search from one node. -/
def visit [DecidableEq α] (successors : α → List α) : ℕ → α → Marks α → Option (Bool × Marks α)
  | 0, _, _ => none
  | fuel + 1, node, m =>
      if node ∈ m.visiting then some (true, m)
      else if node ∈ m.visited then some (false, m)
      else
        match anyFound (visit successors fuel) (successors node)
            { m with visiting := node :: m.visiting } with
        | none => none
        | some (true, m') => some (true, m')
        | some (false, m') => some (false, ⟨m'.visiting.erase node, node :: m'.visited⟩)

/-- The search from every node. -/
def hasCycle [DecidableEq α] (nodes : List α) (successors : α → List α) : Option Bool :=
  (anyFound (visit successors (nodes.length + 1)) nodes ⟨[], []⟩).map Prod.fst

/-- There is an edge. -/
def Edge (successors : α → List α) (a b : α) : Prop := b ∈ successors a

/-- Some node reaches itself. -/
def Cyclic (successors : α → List α) : Prop := ∃ a, TransGen (Edge successors) a a

/-- What holds of the marks between two calls. -/
structure Marks.Sound (nodes : List α) (successors : α → List α) (m : Marks α) : Prop where
  visiting_nodup : m.visiting.Nodup
  visiting_known : m.visiting ⊆ nodes
  visited_closed : ∀ a ∈ m.visited, ∀ b ∈ successors a, b ∈ m.visited
  visited_acyclic : ∀ a ∈ m.visited, ¬TransGen (Edge successors) a a
  disjoint : ∀ a ∈ m.visited, a ∉ m.visiting

/-- What a call that finds nothing leaves: the same path, and no node less done. -/
structure Marks.Extends (nodes : List α) (successors : α → List α) (m m' : Marks α) : Prop where
  visiting_eq : m'.visiting = m.visiting
  visited_subset : m.visited ⊆ m'.visited
  sound : m.Sound nodes successors → m'.Sound nodes successors

namespace Marks

variable {nodes : List α} {successors : α → List α} {m m' m'' : Marks α} {node : α}

theorem Extends.refl (m : Marks α) : m.Extends nodes successors m := ⟨rfl, fun _ h => h, id⟩

theorem Extends.trans (h : m.Extends nodes successors m') (h' : m'.Extends nodes successors m'') :
    m.Extends nodes successors m'' :=
  ⟨h'.visiting_eq.trans h.visiting_eq, fun _ ha => h'.visited_subset (h.visited_subset ha),
    fun hm => h'.sound (h.sound hm)⟩

/-- What is done stays closed along a path. -/
theorem Sound.visited_of_reachable (hm : m.Sound nodes successors) {a b : α}
    (ha : a ∈ m.visited) (hab : ReflTransGen (Edge successors) a b) : b ∈ m.visited := by
  induction hab with
  | refl => exact ha
  | tail _ hbc ih => exact hm.visited_closed _ ih _ hbc

/-- A node is put on the path. -/
theorem Sound.enter (hm : m.Sound nodes successors) (hknown : node ∈ nodes)
    (hvisiting : node ∉ m.visiting) (hvisited : node ∉ m.visited) :
    Sound nodes successors { m with visiting := node :: m.visiting } where
  visiting_nodup := List.nodup_cons.2 ⟨hvisiting, hm.visiting_nodup⟩
  visiting_known := List.cons_subset.2 ⟨hknown, hm.visiting_known⟩
  visited_closed := hm.visited_closed
  visited_acyclic := hm.visited_acyclic
  disjoint a ha := by
    rw [List.mem_cons, not_or]
    exact ⟨fun h => hvisited (h ▸ ha), hm.disjoint a ha⟩

/-- A node whose successors are all done lies on no cycle: a cycle would lead back to it, which
is still on the path, through nodes that are done. -/
theorem Sound.acyclic_of_done (hm : m.Sound nodes successors) (hvisiting : node ∈ m.visiting)
    (hdone : ∀ b ∈ successors node, b ∈ m.visited) : ¬TransGen (Edge successors) node node := by
  intro hcycle
  obtain ⟨b, hb, hback⟩ := TransGen.head'_iff.1 hcycle
  exact hm.disjoint node (hm.visited_of_reachable (hdone b hb) hback) hvisiting

/-- A node is taken off the path. -/
theorem Sound.leave (hm : m.Sound nodes successors) {rest : List α}
    (hpath : m.visiting = node :: rest) (hdone : ∀ b ∈ successors node, b ∈ m.visited) :
    Sound nodes successors ⟨rest, node :: m.visited⟩ := by
  obtain ⟨hnode, hrest⟩ := List.nodup_cons.1 (hpath ▸ hm.visiting_nodup)
  refine ⟨hrest, fun a ha => hm.visiting_known (hpath ▸ List.mem_cons_of_mem _ ha), ?_, ?_, ?_⟩
  · intro a ha b hb
    rcases List.mem_cons.1 ha with rfl | ha
    · exact List.mem_cons_of_mem _ (hdone b hb)
    · exact List.mem_cons_of_mem _ (hm.visited_closed a ha b hb)
  · intro a ha
    rcases List.mem_cons.1 ha with rfl | ha
    · exact hm.acyclic_of_done (hpath ▸ List.mem_cons_self) hdone
    · exact hm.visited_acyclic a ha
  · intro a ha hmem
    rcases List.mem_cons.1 ha with rfl | ha
    · exact hnode hmem
    · exact hm.disjoint a ha (hpath ▸ List.mem_cons_of_mem _ hmem)

end Marks

variable [DecidableEq α] {nodes : List α} {successors : α → List α}

/-- **The search from one node** ends; what it finds is a cycle, and when it finds nothing the
node is done and the path is as it was.  By induction on the fuel, which bounds what the path
can still grow by. -/
theorem visit_spec (hclosed : ∀ a ∈ nodes, ∀ b ∈ successors a, b ∈ nodes) (fuel : ℕ) :
    ∀ (node : α) (m : Marks α), node ∈ nodes → m.Sound nodes successors →
      (∀ v ∈ m.visiting, TransGen (Edge successors) v node) →
      nodes.length < fuel + m.visiting.length →
      ∃ found m', visit successors fuel node m = some (found, m') ∧
        (found = true → Cyclic successors) ∧
        (found = false → m.Extends nodes successors m' ∧ node ∈ m'.visited) := by
  induction fuel with
  | zero =>
      intro node m _ hm _ hfuel
      have hlen : m.visiting.length ≤ nodes.length :=
        (hm.visiting_nodup.subperm hm.visiting_known).length_le
      omega
  | succ fuel ih =>
      intro node m hknown hm hpath hfuel
      unfold visit
      by_cases hvisiting : node ∈ m.visiting
      · rw [if_pos hvisiting]
        exact ⟨true, m, rfl, fun _ => ⟨node, hpath node hvisiting⟩, by simp⟩
      rw [if_neg hvisiting]
      by_cases hvisited : node ∈ m.visited
      · rw [if_pos hvisited]
        exact ⟨false, m, rfl, by simp, fun _ => ⟨.refl m, hvisited⟩⟩
      rw [if_neg hvisited]
      have henter := hm.enter hknown hvisiting hvisited
      have hstep : ∀ b ∈ successors node, ∀ m₁,
          Marks.Extends nodes successors { m with visiting := node :: m.visiting } m₁ →
          ∃ found m₂, visit successors fuel b m₁ = some (found, m₂) ∧
            (found = true → Cyclic successors) ∧
            (found = false → m₁.Extends nodes successors m₂ ∧ b ∈ m₂.visited) := by
        intro b hb m₁ hm₁
        refine ih b m₁ (hclosed node hknown b hb) (hm₁.sound henter) (fun v hv => ?_) ?_
        · rw [hm₁.visiting_eq] at hv
          rcases List.mem_cons.1 hv with rfl | hv
          · exact TransGen.single hb
          · exact (hpath v hv).tail hb
        · rw [hm₁.visiting_eq, List.length_cons]
          omega
      obtain ⟨found, m', hany, htrue, hfalse⟩ := anyFound_spec
        (D := fun b m => b ∈ m.visited) Marks.Extends.refl (fun _ _ _ => Marks.Extends.trans)
        (fun _ _ _ h hb => h.visited_subset hb) hstep
      rw [hany]
      cases found with
      | true => exact ⟨true, m', rfl, htrue, by simp⟩
      | false =>
          obtain ⟨hext, hdone⟩ := hfalse rfl
          have herase : m'.visiting.erase node = m.visiting := by
            rw [hext.visiting_eq, List.erase_cons_head]
          refine ⟨false, _, rfl, by simp, fun _ => ⟨⟨herase, fun a ha => ?_, fun _ => ?_⟩, ?_⟩⟩
          · exact List.mem_cons_of_mem _ (hext.visited_subset ha)
          · rw [herase]
            exact (hext.sound henter).leave hext.visiting_eq hdone
          · exact List.mem_cons_self

/-- **The search of all nodes ends and decides whether there is a cycle**, in whatever order the
nodes and the successors are listed. -/
theorem hasCycle_spec (hclosed : ∀ a ∈ nodes, ∀ b ∈ successors a, b ∈ nodes)
    (hknown : ∀ a, a ∉ nodes → successors a = []) :
    ∃ found, hasCycle nodes successors = some found ∧ (found = true ↔ Cyclic successors) := by
  have hempty : Marks.Sound nodes successors ⟨[], []⟩ :=
    ⟨List.nodup_nil, List.nil_subset _, by simp, by simp, by simp⟩
  have hstep : ∀ a ∈ nodes, ∀ m, Marks.Extends nodes successors ⟨[], []⟩ m →
      ∃ found m', visit successors (nodes.length + 1) a m = some (found, m') ∧
        (found = true → Cyclic successors) ∧
        (found = false → m.Extends nodes successors m' ∧ a ∈ m'.visited) := by
    intro a ha m hm
    refine visit_spec hclosed _ a m ha (hm.sound hempty) (fun v hv => ?_) (by omega)
    rw [hm.visiting_eq] at hv
    exact absurd hv List.not_mem_nil
  obtain ⟨found, m', hany, htrue, hfalse⟩ := anyFound_spec
    (D := fun a m => a ∈ m.visited) Marks.Extends.refl (fun _ _ _ => Marks.Extends.trans)
    (fun _ _ _ h ha => h.visited_subset ha) hstep
  refine ⟨found, by rw [hasCycle, hany]; rfl, htrue, ?_⟩
  rintro ⟨a, hcycle⟩
  by_contra hnot
  obtain ⟨hext, hdone⟩ := hfalse (by simpa using hnot)
  have ha : a ∈ nodes := by
    by_contra hunknown
    obtain ⟨b, hb, _⟩ := TransGen.head'_iff.1 hcycle
    rw [Edge, hknown a hunknown] at hb
    exact absurd hb List.not_mem_nil
  exact (hext.sound hempty).visited_acyclic a (hdone a ha) hcycle

end Dfs
end AiopsK8s
