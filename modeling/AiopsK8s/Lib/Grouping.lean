/-
# Grouping

`groupBy key l` is what a loop over `l` leaves in a dictionary when it appends every item to the
list of its key.  No key occurs twice, a key reads the items that have it in their order
(`mem_groupBy`), and no item is lost or counted twice (`sum_length_groupBy`).
-/

import AiopsK8s.Lib.Dict
import Mathlib.Algebra.BigOperators.Group.List.Basic
import Mathlib.Algebra.Order.Ring.Nat

namespace AiopsK8s
namespace Dict

variable {κ α : Type} [DecidableEq κ]

/-- `d[key].append(a)`, where a missing key starts with an empty list. -/
def append (d : List (κ × List α)) (key : κ) (a : α) : List (κ × List α) :=
  set d key ((d.lookup key).getD [] ++ [a])

/-- `for a in l: d[key(a)].append(a)`, from an empty dictionary. -/
def groupBy (key : α → κ) (l : List α) : List (κ × List α) :=
  l.foldl (fun d a => append d (key a) a) []

theorem nodup_keys_groupBy (key : α → κ) (l : List α) :
    ((groupBy key l).map Prod.fst).Nodup := by
  suffices h : ∀ d : List (κ × List α), (d.map Prod.fst).Nodup →
      ((l.foldl (fun d a => append d (key a) a) d).map Prod.fst).Nodup from
    h [] List.nodup_nil
  induction l with
  | nil => exact fun d hd => hd
  | cons a l ih => exact fun d hd => ih _ (nodup_keys_set hd _ _)

/-- What a key reads after the loop: what it read before, and the items that have it. -/
theorem getD_lookup_foldl (key : α → κ) (l : List α) (d : List (κ × List α)) (k : κ) :
    ((l.foldl (fun d a => append d (key a) a) d).lookup k).getD [] =
      (d.lookup k).getD [] ++ l.filter fun a => key a = k := by
  induction l generalizing d with
  | nil => simp
  | cons a l ih =>
      rw [List.foldl_cons, ih, append, lookup_set, List.filter_cons]
      by_cases hk : k = key a
      · simp [hk]
      · have hk' : ¬key a = k := fun h => hk h.symm
        simp [hk, hk']

theorem mem_keys_groupBy {key : α → κ} {l : List α} {k : κ} :
    k ∈ (groupBy key l).map Prod.fst ↔ ∃ a ∈ l, key a = k := by
  suffices h : ∀ d : List (κ × List α),
      (k ∈ (l.foldl (fun d a => append d (key a) a) d).map Prod.fst ↔
        k ∈ d.map Prod.fst ∨ ∃ a ∈ l, key a = k) by
    unfold groupBy
    simpa using h []
  induction l with
  | nil => simp
  | cons a l ih =>
      intro d
      rw [List.foldl_cons, ih, append, mem_keys_set]
      simp only [List.mem_cons, exists_eq_or_imp, eq_comm (a := k)]
      tauto

/-- **The groups**: every key that occurs, with the items that have it. -/
theorem mem_groupBy {key : α → κ} {l : List α} {k : κ} {values : List α} :
    (k, values) ∈ groupBy key l ↔
      (∃ a ∈ l, key a = k) ∧ values = l.filter fun a => key a = k := by
  have hread := getD_lookup_foldl key l [] k
  rw [List.lookup_nil, Option.getD_none, List.nil_append] at hread
  rw [mem_iff_lookup (nodup_keys_groupBy key l), ← mem_keys_groupBy]
  constructor
  · intro h
    refine ⟨?_, ?_⟩
    · by_contra hmem
      rw [lookup_eq_none.2 hmem] at h
      cases h
    · have hgroup : (groupBy key l).lookup k = some values := h
      rw [← hread]
      exact (congrArg (Option.getD · []) hgroup).symm
  · rintro ⟨hmem, rfl⟩
    rcases hlookup : (groupBy key l).lookup k with _ | values
    · exact absurd hmem (lookup_eq_none.1 hlookup)
    · rw [← hread]
      exact congrArg some (congrArg (Option.getD · []) hlookup).symm

/-- A group has an item. -/
theorem ne_nil_of_mem_groupBy {key : α → κ} {l : List α} {group : κ × List α}
    (h : group ∈ groupBy key l) : group.2 ≠ [] := by
  obtain ⟨k, values⟩ := group
  obtain ⟨⟨a, ha, hk⟩, rfl⟩ := mem_groupBy.1 h
  exact List.ne_nil_of_mem (List.mem_filter.2 ⟨ha, by simpa using hk⟩)

theorem sum_length_set (d : List (κ × List α)) (key : κ) (values : List α) :
    ((set d key values).map fun item => item.2.length).sum + ((d.lookup key).getD []).length =
      (d.map fun item => item.2.length).sum + values.length := by
  induction d with
  | nil => simp [set]
  | cons item d ih =>
      obtain ⟨k, v⟩ := item
      rw [set, lookup_cons]
      by_cases hk : k = key
      · simp [hk]
        omega
      · have hk' : ¬key = k := fun h => hk h.symm
        simp only [hk, hk', if_false, List.map_cons, List.sum_cons]
        omega

/-- **No item is lost or counted twice.** -/
theorem sum_length_groupBy (key : α → κ) (l : List α) :
    ((groupBy key l).map fun group => group.2.length).sum = l.length := by
  suffices h : ∀ d : List (κ × List α),
      ((l.foldl (fun d a => append d (key a) a) d).map fun group => group.2.length).sum =
        (d.map fun group => group.2.length).sum + l.length by
    unfold groupBy
    simpa using h []
  induction l with
  | nil => simp
  | cons a l ih =>
      intro d
      have hset := sum_length_set d (key a) ((d.lookup (key a)).getD [] ++ [a])
      rw [List.foldl_cons, ih, append, List.length_cons]
      rw [List.length_append, List.length_singleton] at hset
      omega

/-- **The items of one key among the items of a dictionary of groups.** -/
theorem filter_flatten {key : α → κ} {groups : List (κ × List α)}
    (hkey : ∀ group ∈ groups, ∀ a ∈ group.2, key a = group.1)
    (hnodup : (groups.map Prod.fst).Nodup) (k : κ) :
    ((groups.map Prod.snd).flatten).filter (fun a => key a = k) = (groups.lookup k).getD [] := by
  induction groups with
  | nil => rfl
  | cons group groups ih =>
      obtain ⟨k', values⟩ := group
      obtain ⟨hvalues, hkey⟩ := List.forall_mem_cons.1 hkey
      obtain ⟨hnot, hnodup⟩ := List.nodup_cons.1 hnodup
      rw [List.map_cons, List.flatten_cons, List.filter_append, ih hkey hnodup, lookup_cons]
      by_cases hk : k = k'
      · subst hk
        have hall : values.filter (fun a => key a = k) = values :=
          List.filter_eq_self.2 fun a ha => decide_eq_true (hvalues a ha)
        rw [hall, if_pos rfl, lookup_eq_none.2 hnot]
        exact List.append_nil values
      · have hnone : values.filter (fun a => key a = k) = [] :=
          List.filter_eq_nil_iff.2 fun a ha h =>
            hk ((of_decide_eq_true h).symm.trans (hvalues a ha))
        rw [hnone, if_neg hk, List.nil_append]

/-- The items of a key are a group, or there are none. -/
theorem filter_flatten_cases {key : α → κ} {groups : List (κ × List α)}
    (hkey : ∀ group ∈ groups, ∀ a ∈ group.2, key a = group.1)
    (hnodup : (groups.map Prod.fst).Nodup) (k : κ) :
    ((groups.map Prod.snd).flatten).filter (fun a => key a = k) = [] ∨
      (k, ((groups.map Prod.snd).flatten).filter fun a => key a = k) ∈ groups := by
  rw [filter_flatten hkey hnodup]
  rcases hlookup : groups.lookup k with _ | values
  · exact .inl rfl
  · exact .inr ((mem_iff_lookup hnodup).2 hlookup)

end Dict
end AiopsK8s
