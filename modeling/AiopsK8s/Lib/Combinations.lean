/-
# Combinations

`itertools.combinations`: the sublists of a given length, in the order of their places.  They are
those of `List.sublistsLen`, which lists them in another order, so of a strictly increasing list
they are the strictly increasing lists of its elements (`mem_combinations_of_pairwise`).
-/

import Mathlib.Data.List.Sort
import Mathlib.Data.List.Sublists

namespace AiopsK8s

variable {α : Type}

/-- `itertools.combinations(l, k)`. -/
def combinations : List α → ℕ → List (List α)
  | _, 0 => [[]]
  | [], _ + 1 => []
  | a :: l, k + 1 => (combinations l k).map (a :: ·) ++ combinations l (k + 1)

theorem combinations_perm (l : List α) (k : ℕ) : (combinations l k).Perm (l.sublistsLen k) := by
  induction l generalizing k with
  | nil => cases k <;> simp [combinations]
  | cons a l ih =>
      cases k with
      | zero => simp [combinations]
      | succ k =>
          rw [combinations, List.sublistsLen_succ_cons]
          exact (((ih k).map _).append (ih (k + 1))).trans List.perm_append_comm

theorem mem_combinations {s l : List α} {k : ℕ} :
    s ∈ combinations l k ↔ s.Sublist l ∧ s.length = k := by
  rw [(combinations_perm l k).mem_iff, List.mem_sublistsLen]

theorem nodup_combinations {l : List α} (h : l.Nodup) (k : ℕ) : (combinations l k).Nodup :=
  (combinations_perm l k).nodup_iff.2 (List.nodup_sublistsLen k h)

/-- **The combinations of a strictly increasing list.** -/
theorem mem_combinations_of_pairwise [LinearOrder α] {s l : List α} {k : ℕ}
    (hl : l.Pairwise (· < ·)) :
    s ∈ combinations l k ↔ s.Pairwise (· < ·) ∧ s.length = k ∧ ∀ a ∈ s, a ∈ l := by
  rw [mem_combinations]
  constructor
  · rintro ⟨hsub, hlen⟩
    exact ⟨hl.sublist hsub, hlen, fun a ha => hsub.subset ha⟩
  · rintro ⟨hs, hlen, hmem⟩
    have hnodup : s.Nodup := hs.imp fun h => h.ne
    have hle : ∀ {m : List α}, m.Pairwise (· < ·) → m.Pairwise (· ≤ ·) := fun h => h.imp le_of_lt
    exact ⟨List.sublist_of_subperm_of_pairwise (hnodup.subperm hmem) (hle hs) (hle hl), hlen⟩

end AiopsK8s
