/-
# Average ranks

`_average_ranks` of `partition_learning.py`, which the Spearman correlation of the quality gate
compares.  The outer loop takes the sorted list one run of equal values at a time, the inner one
looks for the end of the run, and every index of the run is given the mean of the positions that the
run holds.  Before each turn the values below the start are below all that are left, and their
indices hold their ranks; so the rank of a run that starts behind `s` values and has `m` of its own
is `s + (m + 1) / 2` (`averageRanks_eq`).

A rank is half of an integer, so its float is exact.
-/

import AiopsK8s.Lib.Binary64
import AiopsK8s.Lib.Sorting
import Mathlib.Algebra.Order.Field.Rat
import Mathlib.Data.List.Nodup
import Mathlib.Tactic.Ring

namespace AiopsK8s
namespace Learning

open Sorting

/-! ### The code -/

/-- The inner loop of `_average_ranks`: the end of the run of `value`. -/
def runEnd (ranked : List (PyFloat × ℕ)) (value : PyFloat) (stop : ℕ) : ℕ :=
  if h : stop < ranked.length then
    if PyFloat.eq ranked[stop].1 value then runEnd ranked value (stop + 1) else stop
  else stop
termination_by ranked.length - stop

theorem le_runEnd (ranked : List (PyFloat × ℕ)) (value : PyFloat) (stop : ℕ) :
    stop ≤ runEnd ranked value stop := by
  fun_induction runEnd with
  | case1 stop h heq ih => omega
  | case2 => exact le_rfl
  | case3 => exact le_rfl

/-- `for index, _ in ranked[start:end]: result[index] = rank`. -/
def writeRun (run : List (PyFloat × ℕ)) (rank : ℚ) (result : List ℚ) : List ℚ :=
  run.foldl (fun result item => result.set item.2 rank) result

/-- The outer loop of `_average_ranks`. -/
def assignRanks (ranked : List (PyFloat × ℕ)) (start : ℕ) (result : List ℚ) : List ℚ :=
  if h : start < ranked.length then
    let stop := runEnd ranked ranked[start].1 (start + 1)
    assignRanks ranked stop
      (writeRun ((ranked.drop start).take (stop - start)) ((start + 1 + stop) / 2) result)
  else result
termination_by ranked.length - start
decreasing_by
  have := le_runEnd ranked ranked[start].1 (start + 1)
  omega

/-- `sorted(enumerate(values), key=lambda item: item[1])`; an item here has its value first. -/
def rankedItems (values : List PyFloat) : List (PyFloat × ℕ) :=
  sorted (fun a b => PyFloat.lt a.1 b.1) values.zipIdx

/-- `_average_ranks`. -/
def averageRanks (values : List PyFloat) : List ℚ :=
  assignRanks (rankedItems values) 0 (List.replicate values.length 0)

/-! ### The rank of a value -/

/-- The fractional rank of a value: the values below it, and half of those equal to it and one. -/
def fractionalRank (values : List PyFloat) (value : PyFloat) : ℚ :=
  values.countP (PyFloat.lt · value) + (values.countP (PyFloat.eq · value) + 1) / 2

theorem fractionalRank_perm {l m : List PyFloat} (h : l.Perm m) (value : PyFloat) :
    fractionalRank l value = fractionalRank m value := by
  rw [fractionalRank, fractionalRank, h.countP_eq, h.countP_eq]

/-! ### The loops -/

section Loops

variable {ranked : List (PyFloat × ℕ)}

/-- What the inner loop stops at: every item up to there is of the run, the next one is not. -/
theorem runEnd_spec (value : PyFloat) {stop : ℕ} (hstop : stop ≤ ranked.length) :
    runEnd ranked value stop ≤ ranked.length ∧
      (∀ (k : ℕ) (h : k < ranked.length), stop ≤ k → k < runEnd ranked value stop →
        PyFloat.eq ranked[k].1 value = true) ∧
      ∀ h : runEnd ranked value stop < ranked.length,
        PyFloat.eq ranked[runEnd ranked value stop].1 value = false := by
  fun_induction runEnd with
  | case1 stop hlt heq ih =>
      obtain ⟨hle, hrun, hnext⟩ := ih hlt
      refine ⟨hle, fun k hk hstopk hkend => ?_, hnext⟩
      rcases hstopk.eq_or_lt with rfl | hstopk
      · exact heq
      · exact hrun k hk hstopk hkend
  | case2 stop hlt heq =>
      exact ⟨hlt.le, fun k _ hle hgt => absurd hle (by omega), fun _ => Bool.eq_false_iff.2 heq⟩
  | case3 stop hge =>
      exact ⟨hstop, fun k _ hle hgt => absurd hle (by omega), fun h => absurd h hge⟩

@[simp] theorem length_writeRun (run : List (PyFloat × ℕ)) (rank : ℚ) (result : List ℚ) :
    (writeRun run rank result).length = result.length := by
  induction run generalizing result with
  | nil => rfl
  | cons item run ih => exact (ih _).trans List.length_set

/-- An index that is not of the run keeps what it has. -/
theorem getElem?_writeRun_of_notMem {run : List (PyFloat × ℕ)} {index : ℕ} (rank : ℚ)
    (result : List ℚ) (h : index ∉ run.map Prod.snd) :
    (writeRun run rank result)[index]? = result[index]? := by
  induction run generalizing result with
  | nil => rfl
  | cons item run ih =>
      rw [List.map_cons, List.mem_cons, not_or] at h
      have hset : (result.set item.2 rank)[index]? = result[index]? :=
        List.getElem?_set_ne (Ne.symm h.1)
      exact (ih _ h.2).trans hset

/-- An index of the run holds the rank. -/
theorem getElem?_writeRun_of_mem {run : List (PyFloat × ℕ)} {index : ℕ} (rank : ℚ)
    {result : List ℚ} (hindex : index < result.length) (h : index ∈ run.map Prod.snd) :
    (writeRun run rank result)[index]? = some rank := by
  induction run generalizing result with
  | nil => cases h
  | cons item run ih =>
      have hlength : index < (result.set item.2 rank).length := by
        rw [List.length_set]
        exact hindex
      by_cases hrun : index ∈ run.map Prod.snd
      · exact ih hlength hrun
      · obtain rfl : index = item.2 := (List.mem_cons.1 h).resolve_right hrun
        have hset : (result.set item.2 rank)[item.2]? = some rank :=
          List.getElem?_set_self hindex
        exact (getElem?_writeRun_of_notMem rank _ hrun).trans hset

/-- The elements with a property are counted by the stretch of positions that they fill. -/
theorem countP_eq_sub {α : Type} {p : α → Bool} {l : List α} {m n : ℕ} (hn : n ≤ l.length)
    (h : ∀ (k : ℕ) (hk : k < l.length), p l[k] = true ↔ m ≤ k ∧ k < n) :
    l.countP p = n - m := by
  induction l generalizing m n with
  | nil =>
      have : n = 0 := Nat.le_zero.1 hn
      simp [this]
  | cons a l ih =>
      have hhead : p a = true ↔ m ≤ 0 ∧ 0 < n := h 0 (Nat.succ_pos _)
      have htail := ih (m := m - 1) (Nat.sub_le_of_le_add hn) fun k hk => by
        have hk' := h (k + 1) (Nat.succ_lt_succ hk)
        rw [List.getElem_cons_succ] at hk'
        rw [hk']
        omega
      rw [List.countP_cons, htail]
      split
      · rename_i hpa
        have := hhead.1 hpa
        omega
      · rename_i hpa
        have : ¬(m ≤ 0 ∧ 0 < n) := fun hmn => hpa (hhead.2 hmn)
        omega

/-- The indices of a stretch of the items. -/
theorem mem_map_snd_take_drop {start stop k : ℕ} (h : k < ranked.length)
    (hstop : stop ≤ ranked.length) (hnodup : (ranked.map Prod.snd).Nodup) :
    ranked[k].2 ∈ ((ranked.drop start).take (stop - start)).map Prod.snd ↔
      start ≤ k ∧ k < stop := by
  constructor
  · intro hmem
    obtain ⟨item, hitem, heq⟩ := List.mem_map.1 hmem
    obtain ⟨i, hi, rfl⟩ := List.mem_take_iff_getElem.1 hitem
    rw [List.length_drop] at hi
    rw [List.getElem_drop] at heq
    have hk : start + i = k := by
      have hi' : start + i < (ranked.map Prod.snd).length := by
        rw [List.length_map]
        omega
      have hk' : k < (ranked.map Prod.snd).length := by
        rw [List.length_map]
        exact h
      have hindices : (ranked.map Prod.snd)[start + i] = (ranked.map Prod.snd)[k] := by
        rw [List.getElem_map, List.getElem_map]
        exact heq
      exact hnodup.getElem_inj_iff.1 hindices
    omega
  · rintro ⟨hstart, hlt⟩
    refine List.mem_map_of_mem (List.mem_take_iff_getElem.2 ⟨k - start, ?_, ?_⟩)
    · rw [List.length_drop]
      omega
    · rw [List.getElem_drop]
      congr 1
      omega

/-- The mean position of a run is the rank of its value. -/
theorem fractionalRank_of_run {start stop : ℕ} {value : PyFloat} (hstop : stop ≤ ranked.length)
    (hlt : start ≤ stop)
    (hbelow : ∀ (k : ℕ) (h : k < ranked.length),
      PyFloat.lt ranked[k].1 value = true ↔ k < start)
    (hrun : ∀ (k : ℕ) (h : k < ranked.length),
      PyFloat.eq ranked[k].1 value = true ↔ start ≤ k ∧ k < stop) :
    fractionalRank (ranked.map Prod.fst) value = (start + 1 + stop) / 2 := by
  have hstart : ranked.countP (fun item => PyFloat.lt item.1 value) = start - 0 := by
    refine countP_eq_sub (hlt.trans hstop) fun k hk => ?_
    rw [hbelow k hk]
    omega
  have hequal := countP_eq_sub (p := fun item => PyFloat.eq item.1 value) hstop hrun
  rw [fractionalRank, List.countP_map, List.countP_map]
  change ((ranked.countP fun item => PyFloat.lt item.1 value : ℕ) : ℚ) +
    ((ranked.countP fun item => PyFloat.eq item.1 value : ℕ) + 1) / 2 = _
  rw [hstart, hequal, Nat.sub_zero, Nat.cast_sub hlt]
  ring

/-- **Every turn of the outer loop ranks a run.**  What stands before the start is below the rest
and has its rank; in the end every item has. -/
theorem assignRanks_spec (start : ℕ) (result : List ℚ) (hstart : start ≤ ranked.length)
    (hnan : ∀ item ∈ ranked, item.1 ≠ .nan)
    (hsorted : ranked.Pairwise fun a b => PyFloat.lt b.1 a.1 = false)
    (hnodup : (ranked.map Prod.snd).Nodup)
    (hlength : ∀ item ∈ ranked, item.2 < result.length)
    (hbelow : ∀ (i j : ℕ) (hi : i < ranked.length) (hj : j < ranked.length),
      i < start → start ≤ j → PyFloat.lt ranked[i].1 ranked[j].1 = true)
    (hwritten : ∀ (k : ℕ) (h : k < ranked.length), k < start →
      result[ranked[k].2]? = some (fractionalRank (ranked.map Prod.fst) ranked[k].1)) :
    ∀ (k : ℕ) (h : k < ranked.length), (assignRanks ranked start result)[ranked[k].2]? =
      some (fractionalRank (ranked.map Prod.fst) ranked[k].1) := by
  fun_induction assignRanks with
  | case1 start result h stop ih =>
      have hle : start + 1 ≤ stop := le_runEnd _ _ _
      obtain ⟨hstop, hrun, hnext⟩ := runEnd_spec ranked[start].1 (Nat.succ_le_of_lt h)
      have hmem : ∀ (k : ℕ) (hk : k < ranked.length), ranked[k].1 ≠ .nan := fun k hk =>
        hnan _ (List.getElem_mem hk)
      -- every item of the run has the value of its first
      have hvalue : ∀ (k : ℕ) (hk : k < ranked.length), start ≤ k → k < stop →
          ranked[k].1 = ranked[start].1 := by
        intro k hk hstartk hkstop
        rcases hstartk.eq_or_lt with rfl | hstartk
        · rfl
        · exact (PyFloat.eq_iff.1 (hrun k hk hstartk hkstop)).2
      have habove : ∀ (k : ℕ) (hk : k < ranked.length), stop ≤ k →
          PyFloat.lt ranked[start].1 ranked[k].1 = true := by
        intro k hk hstopk
        have hends : stop < ranked.length := hstopk.trans_lt hk
        have hat : ∀ (j : ℕ) (hj : j < ranked.length), stop ≤ j →
            PyFloat.eq ranked[j].1 ranked[start].1 = false →
              PyFloat.lt ranked[start].1 ranked[j].1 = true := by
          intro j hj hstopj heq
          have hge := List.pairwise_iff_getElem.1 hsorted start j h hj (by omega)
          rcases PyFloat.lt_or_eq_or_lt (hmem start h) (hmem j hj) with hlt | heq' | hlt
          · exact hlt
          · rw [PyFloat.eq_comm, heq] at heq'
            cases heq'
          · rw [hge] at hlt
            cases hlt
        rcases hstopk.eq_or_lt with rfl | hlt
        · exact hat _ hk le_rfl (hnext hends)
        · refine hat k hk hstopk (Bool.eq_false_iff.2 fun heq => ?_)
          have hge := List.pairwise_iff_getElem.1 hsorted stop k hends hk hlt
          rw [(PyFloat.eq_iff.1 heq).2, hat stop hends le_rfl (hnext hends)] at hge
          cases hge
      have hrank : fractionalRank (ranked.map Prod.fst) ranked[start].1 =
          ((start : ℚ) + 1 + stop) / 2 := by
        refine fractionalRank_of_run hstop (by omega) (fun k hk => ?_) fun k hk => ?_
        · constructor
          · intro hlt
            by_contra hge
            rcases lt_or_ge k stop with hkstop | hkstop
            · rw [hvalue k hk (by omega) hkstop, PyFloat.lt_self] at hlt
              cases hlt
            · rw [PyFloat.lt_asymm (habove k hk hkstop)] at hlt
              cases hlt
          · exact fun hlt => hbelow k start hk h hlt le_rfl
        · constructor
          · intro heq
            have hself := (PyFloat.eq_iff.1 heq).2
            refine ⟨le_of_not_gt fun hlt => ?_, lt_of_not_ge fun hge => ?_⟩
            · have hfalse := hbelow k start hk h hlt le_rfl
              rw [hself, PyFloat.lt_self] at hfalse
              cases hfalse
            · have hfalse := habove k hk hge
              rw [hself, PyFloat.lt_self] at hfalse
              cases hfalse
          · rintro ⟨hstartk, hkstop⟩
            exact PyFloat.eq_iff.2 ⟨hmem k hk, hvalue k hk hstartk hkstop⟩
      refine ih hstop (fun item hitem => ?_) (fun i j hi hj histop hstopj => ?_)
        fun k hk hkstop => ?_
      · rw [length_writeRun]
        exact hlength item hitem
      · rcases lt_or_ge i start with hlt | hge
        · exact hbelow i j hi hj hlt (by omega)
        · rw [hvalue i hi hge histop]
          exact habove j hj hstopj
      · rcases lt_or_ge k start with hlt | hge
        · rw [getElem?_writeRun_of_notMem _ _ fun hrun => ?_]
          · exact hwritten k hk hlt
          · exact absurd ((mem_map_snd_take_drop hk hstop hnodup).1 hrun).1 (by omega)
        · rw [getElem?_writeRun_of_mem _ (hlength _ (List.getElem_mem hk))
            ((mem_map_snd_take_drop hk hstop hnodup).2 ⟨hge, hkstop⟩), hvalue k hk hge hkstop,
            hrank]
  | case2 start result h => exact fun k hk => hwritten k hk (by omega)

end Loops

/-! ### The ranks -/

/-- In a list where of each two elements one outweighs the other, or both half, the weights of all
pairs come to half of their number. -/
theorem sum_sum_weights {α : Type} {w : α → α → ℚ} (l : List α)
    (h : ∀ a ∈ l, ∀ b ∈ l, w a b + w b a = 1) :
    (l.map fun a => (l.map fun b => w b a).sum).sum = (l.length : ℚ) ^ 2 / 2 := by
  induction l with
  | nil => simp
  | cons a l ih =>
      have htail := ih fun b hb c hc => h b (by simp [hb]) c (by simp [hc])
      have hpairs : ((l.map fun b => w b a).sum + (l.map fun b => w a b).sum : ℚ) = l.length := by
        rw [← List.sum_map_add, List.map_congr_left (g := fun _ => (1 : ℚ))
          fun b hb => h b (by simp [hb]) a (by simp)]
        simp
      have hself := h a (by simp) a (by simp)
      simp only [List.map_cons, List.sum_cons, List.sum_map_add, htail, List.length_cons,
        Nat.cast_add, Nat.cast_one]
      linarith

theorem rankedItems_perm (values : List PyFloat) :
    (rankedItems values).Perm values.zipIdx := sorted_perm _

theorem map_fst_rankedItems (values : List PyFloat) :
    ((rankedItems values).map Prod.fst).Perm values := by
  have h := (rankedItems_perm values).map Prod.fst
  rwa [List.zipIdx_map_fst] at h

theorem nodup_map_snd_rankedItems (values : List PyFloat) :
    ((rankedItems values).map Prod.snd).Nodup := by
  refine ((rankedItems_perm values).map Prod.snd).nodup_iff.2 ?_
  rw [List.zipIdx_map_snd]
  exact List.nodup_range'

theorem mem_rankedItems {values : List PyFloat} {item : PyFloat × ℕ} :
    item ∈ rankedItems values ↔ values[item.2]? = some item.1 := by
  rw [(rankedItems_perm values).mem_iff, List.mem_zipIdx_iff_getElem?]

/-- Floats that are not `nan` are in order. -/
theorem pairwise_rankedItems {values : List PyFloat} (hnan : ∀ value ∈ values, value ≠ .nan) :
    (rankedItems values).Pairwise fun a b => PyFloat.lt b.1 a.1 = false := by
  have hmem : ∀ item ∈ values.zipIdx, item.1 ≠ .nan := fun item hitem =>
    hnan _ (List.mem_of_getElem? (List.mem_zipIdx_iff_getElem?.1 hitem))
  refine pairwise_sorted ⟨fun a _ b _ hab => PyFloat.lt_asymm hab, fun a ha b hb c hc hba hcb => ?_⟩
  rw [Bool.eq_false_iff, Ne, PyFloat.lt_iff_extended (hmem _ ‹_›) (hmem _ ‹_›), not_lt] at hba hcb ⊢
  exact hba.trans hcb

@[simp] theorem length_assignRanks (ranked : List (PyFloat × ℕ)) (start : ℕ) (result : List ℚ) :
    (assignRanks ranked start result).length = result.length := by
  fun_induction assignRanks with
  | case1 start result h stop ih => rw [ih, length_writeRun]
  | case2 => rfl

/-- **`_average_ranks` gives every value its fractional rank.** -/
theorem averageRanks_eq {values : List PyFloat} (hnan : ∀ value ∈ values, value ≠ .nan) :
    averageRanks values = values.map (fractionalRank values) := by
  have hlength : (averageRanks values).length = values.length := by
    rw [averageRanks, length_assignRanks, List.length_replicate]
  refine List.ext_getElem? fun i => ?_
  rcases lt_or_ge i values.length with hi | hi
  · have hitem : (values[i], i) ∈ rankedItems values :=
      mem_rankedItems.2 (List.getElem?_eq_getElem hi)
    obtain ⟨k, hk, heq⟩ := List.getElem_of_mem hitem
    have hspec := assignRanks_spec 0 (List.replicate values.length 0) (Nat.zero_le _)
      (fun item hmem => hnan _ (List.mem_of_getElem? (mem_rankedItems.1 hmem)))
      (pairwise_rankedItems hnan) (nodup_map_snd_rankedItems values)
      (fun item hmem => ?_) (fun _ _ _ _ h => absurd h (Nat.not_lt_zero _))
      (fun _ _ h => absurd h (Nat.not_lt_zero _)) k hk
    · rw [heq, fractionalRank_perm (map_fst_rankedItems values)] at hspec
      rw [List.getElem?_map, List.getElem?_eq_getElem hi]
      exact hspec
    · rw [List.length_replicate]
      exact (List.getElem?_eq_some_iff.1 (mem_rankedItems.1 hmem)).1
  · rw [List.getElem?_eq_none (hlength ▸ hi), List.getElem?_eq_none (by simpa using hi)]

/-- What one value adds to the rank of another: one from below, a half if it is equal. -/
def weight (other value : PyFloat) : ℚ :=
  (if PyFloat.lt other value then 1 else 0) + (if PyFloat.eq other value then 1 else 0) / 2

theorem weight_add_weight {a b : PyFloat} (ha : a ≠ .nan) (hb : b ≠ .nan) :
    weight a b + weight b a = 1 := by
  rcases PyFloat.lt_or_eq_or_lt ha hb with h | h | h
  · have hne : PyFloat.eq a b = false := Bool.eq_false_iff.2 fun heq => by
      simp [(PyFloat.eq_iff.1 heq).2] at h
    simp [weight, h, PyFloat.lt_asymm h, hne, PyFloat.eq_comm b a]
  · obtain rfl := (PyFloat.eq_iff.1 h).2
    simp [weight, h]
    norm_num
  · have hne : PyFloat.eq a b = false := Bool.eq_false_iff.2 fun heq => by
      simp [(PyFloat.eq_iff.1 heq).2] at h
    simp [weight, h, PyFloat.lt_asymm h, hne, PyFloat.eq_comm b a]

theorem sum_map_weight (values : List PyFloat) (value : PyFloat) :
    (values.map fun other => weight other value).sum + 1 / 2 = fractionalRank values value := by
  have hsum : (values.map fun other => weight other value).sum =
      (values.countP (PyFloat.lt · value) : ℚ) + values.countP (PyFloat.eq · value) / 2 := by
    induction values with
    | nil => simp
    | cons other values ih =>
        rw [List.map_cons, List.sum_cons, ih, List.countP_cons, List.countP_cons, weight]
        push_cast
        ring
  rw [hsum, fractionalRank]
  ring

/-- **The ranks of `n` values come to `n (n + 1) / 2`.** -/
theorem sum_averageRanks {values : List PyFloat} (hnan : ∀ value ∈ values, value ≠ .nan) :
    (averageRanks values).sum = (values.length : ℚ) * (values.length + 1) / 2 := by
  have hweights := sum_sum_weights (w := weight) values fun a ha b hb =>
    weight_add_weight (hnan a ha) (hnan b hb)
  have hranks : (values.map (fractionalRank values)).sum =
      (values.map fun value => (values.map fun other => weight other value).sum).sum +
        (values.map fun _ => (1 / 2 : ℚ)).sum := by
    rw [← List.sum_map_add]
    exact congrArg List.sum (List.map_congr_left fun value _ => (sum_map_weight values value).symm)
  rw [averageRanks_eq hnan, hranks, hweights, List.map_const', List.sum_replicate, nsmul_eq_mul]
  ring

/-- A list in another order: at each place the element of the index that stands there. -/
def reorder {α : Type} (order : List ℕ) (l : List α) : List α := order.filterMap (l[·]?)

/-- The indices in their own order leave the list as it is. -/
theorem reorder_range {α : Type} (l : List α) : reorder (List.range l.length) l = l := by
  induction l using List.reverseRecOn with
  | nil => rfl
  | append_singleton l a ih =>
      have hfront : (List.range l.length).filterMap ((l ++ [a])[·]?) =
          reorder (List.range l.length) l :=
        List.filterMap_congr fun i hi => List.getElem?_append_left (List.mem_range.1 hi)
      rw [reorder, List.length_append, List.length_singleton, List.range_succ,
        List.filterMap_append, hfront, ih]
      simp

theorem reorder_perm {α : Type} {order : List ℕ} {l : List α}
    (h : order.Perm (List.range l.length)) : (reorder order l).Perm l :=
  (h.filterMap _).trans (.of_eq (reorder_range l))

theorem map_reorder {α β : Type} (f : α → β) (order : List ℕ) (l : List α) :
    reorder order (l.map f) = (reorder order l).map f := by
  rw [reorder, reorder, List.map_filterMap]
  exact List.filterMap_congr fun i _ => List.getElem?_map

/-- **The laws of `_average_ranks`.**  At each index stands the number of values below the value
there and half of the number of equal ones and one; so the ranks come to `n (n + 1) / 2`, equal
values share a rank and the ranks follow the values into any order. -/
theorem averageRanks_laws (values : List PyFloat) (hnan : ∀ value ∈ values, value ≠ .nan) :
    averageRanks values = values.map (fractionalRank values) ∧
      (averageRanks values).sum = (values.length : ℚ) * (values.length + 1) / 2 ∧
      (∀ (i j : ℕ) (value : PyFloat), values[i]? = some value → values[j]? = some value →
        (averageRanks values)[i]? = (averageRanks values)[j]?) ∧
      ∀ order : List ℕ, order.Perm (List.range values.length) →
        averageRanks (reorder order values) = reorder order (averageRanks values) := by
  refine ⟨averageRanks_eq hnan, sum_averageRanks hnan, fun i j value hi hj => ?_,
    fun order horder => ?_⟩
  · rw [averageRanks_eq hnan, List.getElem?_map, List.getElem?_map, hi, hj]
  · have hperm := reorder_perm horder
    have hranks : fractionalRank (reorder order values) = fractionalRank values :=
      funext (fractionalRank_perm hperm)
    rw [averageRanks_eq fun value hmem => hnan value (hperm.mem_iff.1 hmem), hranks,
      averageRanks_eq hnan, map_reorder]

/-- Two equal rewards share the second and the third place. -/
theorem averageRanks_tied :
    (∀ value ∈ [PyFloat.finite 1, .finite 0, .finite 1], value ≠ .nan) ∧
      averageRanks [.finite 1, .finite 0, .finite 1] = [5 / 2, 1, 5 / 2] := by
  have hnan : ∀ value ∈ [PyFloat.finite 1, .finite 0, .finite 1], value ≠ .nan := by simp
  refine ⟨hnan, (averageRanks_laws _ hnan).1.trans ?_⟩
  decide +kernel

end Learning
end AiopsK8s
