/-
# Filtering and permuting a sorted list

`List.insertionSort` is stable, so it commutes with a filter (`filter_insertionSort`), and
where no two different elements are equivalent the sorted list depends on the elements alone
(`insertionSort_eq_of_perm`).  What `sorted(set(l))` yields depends on the elements of `l` alone
(`sortedSet_congr`).

`sorted` needs no order: it asks a comparison, as Python does.  Among elements that the comparison
orders the result is in order (`pairwise_sorted`); an element that it does not order, such as a key
that is `nan`, stays between those before it and those after it (`sorted_barrier`).  `Sorter` leaves
open what becomes of elements that are not ordered; the first of a sorted list that has a property
is the least that has it (`Sorter.find?_sort`).
-/

import Mathlib.Data.List.Dedup
import Mathlib.Data.List.Induction
import Mathlib.Data.List.Pairwise
import Mathlib.Data.List.Sort

namespace AiopsK8s
namespace Sorting

variable {α : Type} {r : α → α → Prop} [DecidableRel r] {q : α → Bool}

/-- An element below all of a list is put in front of it. -/
theorem orderedInsert_of_forall {a : α} {l : List α} (h : ∀ b ∈ l, r a b) :
    l.orderedInsert r a = a :: l := by
  cases l with
  | nil => rfl
  | cons b l => rw [List.orderedInsert_cons, if_pos (h b (List.mem_cons_self ..))]

/-- An element that the filter drops leaves nothing behind. -/
theorem filter_orderedInsert_of_neg {a : α} (ha : ¬q a = true) (l : List α) :
    (l.orderedInsert r a).filter q = l.filter q := by
  induction l with
  | nil => rw [List.orderedInsert_nil, List.filter_cons_of_neg ha]
  | cons b l ih =>
      rw [List.orderedInsert_cons]
      split
      · rw [List.filter_cons_of_neg ha]
      · rw [List.filter_cons, List.filter_cons, ih]

/-- An element that the filter keeps is put in its place among those that are kept. -/
theorem filter_orderedInsert_of_pos [IsTrans α r] {a : α} (ha : q a = true) {l : List α}
    (hl : l.Pairwise r) : (l.orderedInsert r a).filter q = (l.filter q).orderedInsert r a := by
  induction l with
  | nil => rw [List.orderedInsert_nil, List.filter_cons_of_pos ha, List.filter_nil,
      List.orderedInsert_nil]
  | cons b l ih =>
      obtain ⟨hb, hl⟩ := List.pairwise_cons.1 hl
      rw [List.orderedInsert_cons]
      split
      · rename_i hab
        rw [List.filter_cons_of_pos ha, orderedInsert_of_forall]
        intro c hc
        rcases List.mem_cons.1 (List.mem_filter.1 hc).1 with rfl | hc
        · exact hab
        · exact IsTrans.trans a b c hab (hb c hc)
      · rename_i hab
        by_cases hq : q b = true
        · rw [List.filter_cons_of_pos hq, List.filter_cons_of_pos hq, List.orderedInsert_cons,
            if_neg hab, ih hl]
        · rw [List.filter_cons_of_neg hq, List.filter_cons_of_neg hq, ih hl]

/-- **Sorting and then filtering is filtering and then sorting.** -/
theorem filter_insertionSort [IsTrans α r] [Std.Total r] (l : List α) :
    (l.insertionSort r).filter q = (l.filter q).insertionSort r := by
  induction l with
  | nil => rfl
  | cons a l ih =>
      rw [List.insertionSort_cons]
      by_cases ha : q a = true
      · rw [filter_orderedInsert_of_pos ha (List.pairwise_insertionSort r l), ih,
          List.filter_cons_of_pos ha, List.insertionSort_cons]
      · rw [filter_orderedInsert_of_neg ha, ih, List.filter_cons_of_neg ha]

/-- **A sorted list is determined by its elements**, where equivalent elements are equal. -/
theorem insertionSort_eq_of_perm [IsTrans α r] [Std.Total r] {l m : List α} (h : l.Perm m)
    (hantisymm : ∀ a ∈ l, ∀ b ∈ l, r a b → r b a → a = b) :
    l.insertionSort r = m.insertionSort r := by
  have hperm : (l.insertionSort r).Perm (m.insertionSort r) :=
    ((List.perm_insertionSort r l).trans h).trans (List.perm_insertionSort r m).symm
  refine List.Perm.eq_of_pairwise (fun a b ha hb hab hba => ?_)
    (List.pairwise_insertionSort r l) (List.pairwise_insertionSort r m) hperm
  refine hantisymm a ((List.mem_insertionSort r).1 ha) b ?_ hab hba
  exact h.mem_iff.2 ((List.mem_insertionSort r).1 hb)

omit [DecidableRel r] in
/-- The first element with a property is before the others that have it. -/
theorem rel_of_find?_eq_some {a : α} {l : List α} (hl : l.Pairwise r) (h : l.find? q = some a) :
    ∀ b ∈ l, q b = true → b = a ∨ r a b := by
  induction l with
  | nil => cases h
  | cons c l ih =>
      obtain ⟨hc, hl⟩ := List.pairwise_cons.1 hl
      intro b hb hq
      rw [List.find?_cons] at h
      by_cases hqc : q c = true
      · rw [hqc] at h
        obtain rfl := Option.some.inj h
        exact (List.mem_cons.1 hb).imp_right (hc b)
      · rw [Bool.eq_false_iff.2 hqc] at h
        rcases List.mem_cons.1 hb with rfl | hb
        · exact absurd hq hqc
        · exact ih hl h b hb hq

/-! ### Sorted sets -/

section SortedSet

variable {β : Type} [DecidableEq α] [LinearOrder β] {key : α → β}

instance isTransKey : IsTrans α fun a b => key a ≤ key b := ⟨fun _ _ _ => le_trans⟩

instance totalKey : Std.Total fun a b : α => key a ≤ key b := ⟨fun a b => le_total (key a) (key b)⟩

/-- `tuple(sorted(set(l)))`, in the order of a key. -/
def sortedSet (key : α → β) (l : List α) : List α :=
  l.dedup.insertionSort fun a b => key a ≤ key b

@[simp] theorem mem_sortedSet {l : List α} {a : α} : a ∈ sortedSet key l ↔ a ∈ l := by
  rw [sortedSet, List.mem_insertionSort, List.mem_dedup]

theorem nodup_sortedSet {l : List α} : (sortedSet key l).Nodup :=
  (List.perm_insertionSort _ _).nodup_iff.2 l.nodup_dedup

/-- **The same elements, the same sorted set.** -/
theorem sortedSet_congr (hkey : Function.Injective key) {l m : List α}
    (h : ∀ a, a ∈ l ↔ a ∈ m) : sortedSet key l = sortedSet key m := by
  have hperm : l.dedup.Perm m.dedup := by
    refine (List.perm_ext_iff_of_nodup l.nodup_dedup m.nodup_dedup).2 fun a => ?_
    rw [List.mem_dedup, List.mem_dedup]
    exact h a
  exact insertionSort_eq_of_perm hperm fun a _ b _ hab hba => hkey (le_antisymm hab hba)

end SortedSet

/-! ### Sorting by a comparison -/

section Sorted

variable (lt : α → α → Bool)

/-- Put an element in front of the first one that it is not below. -/
def insert (a : α) : List α → List α
  | [] => [a]
  | b :: l => if lt a b then b :: insert a l else a :: b :: l

/-- `sorted(l)`: each element in turn goes behind the last one that it is not below.  This is the
insertion sort of a short list; on longer ones the interpreter does otherwise, and to the same end
where the comparison is an order. -/
def sorted (l : List α) : List α := (l.foldl (fun behind a => insert lt a behind) []).reverse

variable {lt}

theorem insert_perm (a : α) (l : List α) : (insert lt a l).Perm (a :: l) := by
  induction l with
  | nil => rfl
  | cons b l ih =>
      rw [insert]
      split
      · exact (ih.cons b).trans (.swap a b l)
      · rfl

variable (lt) in
theorem foldl_insert_perm (l behind : List α) :
    (l.foldl (fun behind a => insert lt a behind) behind).Perm (l ++ behind) := by
  induction l generalizing behind with
  | nil => rfl
  | cons a l ih =>
      rw [List.foldl_cons]
      refine (ih _).trans ?_
      exact ((insert_perm a behind).append_left l).trans List.perm_middle

/-- **Sorting permutes.** -/
theorem sorted_perm (l : List α) : (sorted lt l).Perm l := by
  have h := foldl_insert_perm lt l []
  rw [List.append_nil] at h
  exact (List.reverse_perm _).trans h

theorem mem_sorted {l : List α} {a : α} : a ∈ sorted lt l ↔ a ∈ l := (sorted_perm l).mem_iff

theorem sorted_concat (l : List α) (a : α) :
    sorted lt (l ++ [a]) = (insert lt a (sorted lt l).reverse).reverse := by
  rw [sorted, sorted, List.foldl_append, List.reverse_reverse]
  rfl

/-- An element goes no further than one that it is not below. -/
theorem insert_append {a b : α} (h : lt a b = false) (l m : List α) :
    insert lt a (l ++ b :: m) = insert lt a l ++ b :: m := by
  induction l with
  | nil => simp [insert, h]
  | cons c l ih =>
      rw [List.cons_append, insert, insert]
      split
      · rw [ih, List.cons_append]
      · rfl

/-- **An element that is not compared parts the list.** -/
theorem sorted_barrier {b : α} (hleft : ∀ a, lt a b = false) (hright : ∀ a, lt b a = false)
    (l m : List α) : sorted lt (l ++ b :: m) = sorted lt l ++ b :: sorted lt m := by
  induction m using List.reverseRecOn with
  | nil =>
      rw [sorted_concat]
      have hinsert : ∀ behind, insert lt b behind = b :: behind := by
        intro behind
        cases behind with
        | nil => rfl
        | cons c behind => rw [insert, hright c]; rfl
      rw [hinsert, List.reverse_cons, List.reverse_reverse]
      rfl
  | append_singleton m a ih =>
      rw [← List.cons_append, ← List.append_assoc, sorted_concat, ih, List.reverse_append,
        List.reverse_cons, List.append_assoc, List.singleton_append, insert_append (hleft a),
        sorted_concat]
      simp

/-- The elements of a list are ordered by the comparison. -/
structure OrderedBy (lt : α → α → Bool) (l : List α) : Prop where
  asymm : ∀ a ∈ l, ∀ b ∈ l, lt a b = true → lt b a = false
  trans : ∀ a ∈ l, ∀ b ∈ l, ∀ c ∈ l, lt b a = false → lt c b = false → lt c a = false

/-- A comparison that compares keys orders the elements. -/
theorem orderedBy_of_key {κ : Type} [LinearOrder κ] (key : α → κ) {l : List α}
    (h : ∀ a ∈ l, ∀ b ∈ l, lt a b = true ↔ key a < key b) : OrderedBy lt l where
  asymm a ha b hb hlt := by
    rw [h a ha b hb] at hlt
    rw [← Bool.not_eq_true, h b hb a ha]
    exact hlt.asymm
  trans a ha b hb c hc hba hcb := by
    rw [← Bool.not_eq_true, h b hb a ha, not_lt] at hba
    rw [← Bool.not_eq_true, h c hc b hb, not_lt] at hcb
    rw [← Bool.not_eq_true, h c hc a ha, not_lt]
    exact hba.trans hcb

theorem OrderedBy.mono {l m : List α} (h : OrderedBy lt m) (hsub : l ⊆ m) : OrderedBy lt l :=
  ⟨fun a ha b hb => h.asymm a (hsub ha) b (hsub hb),
    fun a ha b hb c hc => h.trans a (hsub ha) b (hsub hb) c (hsub hc)⟩

theorem pairwise_insert {a : α} {l : List α} (h : OrderedBy lt (a :: l))
    (hl : l.Pairwise fun b c => lt b c = false) :
    (insert lt a l).Pairwise fun b c => lt b c = false := by
  induction l with
  | nil => exact List.pairwise_singleton _ a
  | cons b l ih =>
      obtain ⟨hb, hl⟩ := List.pairwise_cons.1 hl
      have hmem : ∀ c ∈ l, c ∈ a :: b :: l := fun c hc =>
        List.mem_cons_of_mem _ (List.mem_cons_of_mem _ hc)
      rw [insert]
      split
      · rename_i hab
        have hsub : a :: l ⊆ a :: b :: l := List.cons_subset_cons a (List.subset_cons_self b l)
        refine List.pairwise_cons.2 ⟨fun c hc => ?_, ih (h.mono hsub) hl⟩
        rcases List.mem_cons.1 ((insert_perm a l).mem_iff.1 hc) with rfl | hc
        · exact h.asymm _ (by simp) b (by simp) hab
        · exact hb c hc
      · rename_i hab
        have hab : lt a b = false := Bool.eq_false_iff.2 hab
        refine List.pairwise_cons.2 ⟨fun c hc => ?_, List.pairwise_cons.2 ⟨hb, hl⟩⟩
        rcases List.mem_cons.1 hc with rfl | hc
        · exact hab
        · exact h.trans c (hmem c hc) b (by simp) a (by simp) (hb c hc) hab

/-- **Elements that the comparison orders are in its order.** -/
theorem pairwise_sorted {l : List α} (h : OrderedBy lt l) :
    (sorted lt l).Pairwise fun a b => lt b a = false := by
  suffices hrev : (sorted lt l).reverse.Pairwise fun a b => lt a b = false by
    exact List.pairwise_reverse.1 hrev
  induction l using List.reverseRecOn with
  | nil => exact .nil
  | append_singleton l a ih =>
      rw [sorted_concat, List.reverse_reverse]
      refine pairwise_insert (h.mono fun b hb => ?_) (ih (h.mono (List.subset_append_left l [a])))
      rcases List.mem_cons.1 hb with rfl | hb
      · simp
      · exact List.mem_append_left _ (mem_sorted.1 (List.mem_reverse.1 hb))

/-- **Sorting commutes with a map that keeps the comparison.** -/
theorem map_sorted {β : Type} {lt' : β → β → Bool} {f : α → β}
    (hf : ∀ a b, lt' (f a) (f b) = lt a b) (l : List α) :
    (sorted lt l).map f = sorted lt' (l.map f) := by
  have hinsert : ∀ a l, (insert lt a l).map f = insert lt' (f a) (l.map f) := by
    intro a l
    induction l with
    | nil => rfl
    | cons b l ih =>
        rw [insert, List.map_cons, insert, hf]
        split
        · rw [List.map_cons, ih]
        · rfl
  suffices h : ∀ behind, (l.foldl (fun behind a => insert lt a behind) behind).map f =
      (l.map f).foldl (fun behind a => insert lt' a behind) (behind.map f) by
    rw [sorted, List.map_reverse, h, sorted]
    rfl
  induction l with
  | nil => exact fun _ => rfl
  | cons a l ih =>
      intro behind
      rw [List.foldl_cons, ih, hinsert]
      rfl

/-- **The sorted list is determined by its elements**, where the comparison tells them apart. -/
theorem sorted_eq_of_perm {l m : List α} (h : l.Perm m) (hl : OrderedBy lt l)
    (heq : ∀ a ∈ l, ∀ b ∈ l, lt a b = false → lt b a = false → a = b) :
    sorted lt l = sorted lt m := by
  have hm : OrderedBy lt m := hl.mono h.symm.subset
  have hperm : (sorted lt l).Perm (sorted lt m) :=
    ((sorted_perm l).trans h).trans (sorted_perm m).symm
  refine List.Perm.eq_of_pairwise (fun a b ha hb hba hab => ?_) (pairwise_sorted hl)
    (pairwise_sorted hm) hperm
  exact heq a (mem_sorted.1 ha) b (h.mem_iff.2 (mem_sorted.1 hb)) hab hba

/-- `sorted` of Python.  Where the comparison orders the elements the result is known, the sort being
stable; where it does not, as with keys that are `nan`, it is some permutation of them. -/
structure Sorter where
  sort : {α : Type} → (α → α → Bool) → List α → List α
  perm : ∀ {α : Type} (lt : α → α → Bool) (l : List α), (sort lt l).Perm l
  ordered : ∀ {α : Type} {lt : α → α → Bool} {l : List α}, OrderedBy lt l → sort lt l = sorted lt l

namespace Sorter

variable (sorter : Sorter)

/-- By insertion. -/
def insertion : Sorter := ⟨sorted, fun _ l => sorted_perm l, fun _ => rfl⟩

theorem mem_sort {l : List α} {a : α} : a ∈ sorter.sort lt l ↔ a ∈ l := (sorter.perm lt l).mem_iff

/-- **The first of a sorted list that has a property**: no other that has it is below. -/
theorem find?_sort {a : α} {l : List α} (h : (sorter.sort lt l).find? q = some a)
    (hl : OrderedBy lt l) : ∀ b ∈ l, q b = true → lt b a = false := by
  have ha : a ∈ l := sorter.mem_sort.1 (List.mem_of_find?_eq_some h)
  rw [sorter.ordered hl] at h
  intro b hb hq
  rcases rel_of_find?_eq_some (pairwise_sorted hl) h b (mem_sorted.2 hb) hq with rfl | hlt
  · by_contra hself
    have htrue : lt b b = true := by simpa using hself
    rw [hl.asymm b hb b hb htrue] at htrue
    cases htrue
  · exact hlt

/-- Nothing is below the first of a sorted list. -/
theorem head?_sort {a : α} {l : List α} (h : (sorter.sort lt l).head? = some a)
    (hl : OrderedBy lt l) {b : α} (hb : b ∈ l) : lt b a = false := by
  have hfind : (sorter.sort lt l).find? (fun _ => true) = some a := by
    rcases hsort : sorter.sort lt l with _ | ⟨c, rest⟩
    · rw [hsort] at h
      cases h
    · rw [hsort] at h
      exact h
  exact sorter.find?_sort hfind hl b hb rfl

end Sorter

/-- Of two elements of a list one comes first. -/
theorem rel_or_rel {R : α → α → Prop} {l : List α} (h : l.Pairwise R) {a b : α} (ha : a ∈ l)
    (hb : b ∈ l) (hne : a ≠ b) : R a b ∨ R b a := by
  have hsymm : Std.Symm fun a b => R a b ∨ R b a := ⟨fun _ _ => Or.symm⟩
  have hor : l.Pairwise fun a b => R a b ∨ R b a := h.imp Or.inl
  exact hor.forall ha hb hne

/-- Among elements that the comparison orders, those with a property come first if they are below
the others. -/
theorem pairwise_sorted_iff_of_ordered {good : α → Prop} {l : List α} (h : OrderedBy lt l)
    (htotal : l.Pairwise fun a b => lt a b = true ∨ lt b a = true) :
    ((sorted lt l).Pairwise fun a b => good b → good a) ↔
      ∀ x ∈ l, ∀ y ∈ l, good x → ¬good y → lt x y = true := by
  constructor
  · intro hgood x hx y hy hgx hgy
    have hne : x ≠ y := fun heq => hgy (heq ▸ hgx)
    have hplace := rel_or_rel ((pairwise_sorted h).and hgood) (mem_sorted.2 hx) (mem_sorted.2 hy)
      hne
    have hcompared : lt x y = true ∨ lt y x = true := by
      rcases rel_or_rel htotal hx hy hne with hxy | hyx
      · exact hxy
      · exact hyx.symm
    rcases hplace with ⟨hyx, _⟩ | ⟨_, hgood⟩
    · rcases hcompared with hxy | hlt
      · exact hxy
      · rw [hyx] at hlt
        cases hlt
    · exact absurd (hgood hgx) hgy
  · intro hbelow
    refine (pairwise_sorted h).imp_of_mem fun {a b} ha hb hba hgb => ?_
    by_contra hga
    rw [hbelow b (mem_sorted.1 hb) a (mem_sorted.1 ha) hgb hga] at hba
    cases hba

/-- **What comes first where some elements are not compared.**  An element with a property precedes
one without it if it is below it, or if an element that is not compared stands between them. -/
theorem pairwise_sorted_iff {good : α → Prop} {loose : α → Bool} {l : List α}
    (hloose : ∀ z ∈ l, loose z = true → good z ∧ ∀ a, lt a z = false ∧ lt z a = false)
    (hordered : OrderedBy lt (l.filter fun a => !loose a))
    (htotal : l.Pairwise fun a b => loose a = false → loose b = false →
      lt a b = true ∨ lt b a = true) :
    ((sorted lt l).Pairwise fun a b => good b → good a) ↔
      ∀ (i j : ℕ) (x y : α), l[i]? = some x → l[j]? = some y → good x → ¬good y →
        lt x y = true ∨ ∃ (k : ℕ) (z : α), i ≤ k ∧ k < j ∧ l[k]? = some z ∧ loose z = true := by
  induction hn : l.length using Nat.strong_induction_on generalizing l with
  | _ n ih =>
      by_cases hexists : ∃ z ∈ l, loose z = true
      · obtain ⟨z, hz, hzloose⟩ := hexists
        obtain ⟨hzgood, hzcompared⟩ := hloose z hz hzloose
        obtain ⟨before, after, rfl⟩ := List.append_of_mem hz
        have hafter := ih after.length (by rw [← hn]; simp; omega)
          (fun w hw => hloose w (by simp [hw]))
          (hordered.mono fun w hw => by
            rw [List.filter_append, List.filter_cons]
            simp only [List.mem_append]
            refine .inr ?_
            split
            · exact List.mem_cons_of_mem _ hw
            · exact hw)
          (List.pairwise_cons.1 (List.pairwise_append.1 htotal).2.1).2 rfl
        have hat : (before ++ z :: after)[before.length]? = some z := by simp
        have hshift : ∀ k, (before ++ z :: after)[before.length + 1 + k]? = after[k]? := by
          intro k
          rw [List.getElem?_append_right (by omega)]
          simp [show before.length + 1 + k - before.length = k + 1 from by omega]
        rw [sorted_barrier (fun a => (hzcompared a).1) (fun a => (hzcompared a).2),
          List.pairwise_append, List.pairwise_cons, hafter]
        constructor
        · rintro ⟨_, ⟨_, hafter⟩, hacross⟩ i j x y hx hy hgx hgy
          have hbefore : ∀ a ∈ before, good a := fun a ha =>
            hacross a (mem_sorted.2 ha) z List.mem_cons_self hzgood
          have hj : before.length < j := by
            rcases lt_trichotomy j before.length with hj | rfl | hj
            · rw [List.getElem?_append_left hj] at hy
              exact absurd (hbefore y (List.mem_of_getElem? hy)) hgy
            · rw [hat] at hy
              exact absurd (Option.some.inj hy ▸ hzgood) hgy
            · exact hj
          by_cases hi : i ≤ before.length
          · exact .inr ⟨before.length, z, hi, hj, hat, hzloose⟩
          · obtain ⟨i', rfl⟩ : ∃ i', i = before.length + 1 + i' := ⟨i - before.length - 1, by omega⟩
            obtain ⟨j', rfl⟩ : ∃ j', j = before.length + 1 + j' := ⟨j - before.length - 1, by omega⟩
            rw [hshift] at hx hy
            rcases hafter i' j' x y hx hy hgx hgy with hlt | ⟨k, w, hik, hkj, hk, hw⟩
            · exact .inl hlt
            · refine .inr ⟨before.length + 1 + k, w, by omega, by omega, ?_, hw⟩
              rw [hshift]
              exact hk
        · intro hbelow
          have hbefore : ∀ a ∈ before, good a := by
            intro a ha
            by_contra hga
            obtain ⟨j, hj⟩ := List.mem_iff_getElem?.1 ha
            have hlt := (List.getElem?_eq_some_iff.1 hj).1
            have hj' : (before ++ z :: after)[j]? = some a := by
              rw [List.getElem?_append_left hlt]
              exact hj
            rcases hbelow before.length j z a hat hj' hzgood hga with hza | ⟨k, w, hik, hkj, _⟩
            · rw [(hzcompared a).2] at hza
              cases hza
            · omega
          refine ⟨List.pairwise_of_forall_mem_list fun a ha _ _ _ => hbefore a (mem_sorted.1 ha),
            ⟨fun _ _ _ => hzgood, fun i j x y hx hy hgx hgy => ?_⟩, ?_⟩
          · rw [← hshift] at hx hy
            rcases hbelow _ _ x y hx hy hgx hgy with hlt | ⟨k, w, hik, hkj, hk, hw⟩
            · exact .inl hlt
            · obtain ⟨k', rfl⟩ : ∃ k', k = before.length + 1 + k' :=
                ⟨k - before.length - 1, by omega⟩
              rw [hshift] at hk
              exact .inr ⟨k', w, by omega, by omega, hk, hw⟩
          · exact fun a ha _ _ _ => hbefore a (mem_sorted.1 ha)
      · have hnone : ∀ a ∈ l, loose a = false := fun a ha =>
          Bool.eq_false_iff.2 fun h => hexists ⟨a, ha, h⟩
        have hfilter : l.filter (fun a => !loose a) = l :=
          List.filter_eq_self.2 fun a ha => by rw [hnone a ha]; rfl
        rw [hfilter] at hordered
        rw [pairwise_sorted_iff_of_ordered hordered
          (htotal.imp_of_mem fun ha hb h => h (hnone _ ha) (hnone _ hb))]
        constructor
        · intro h i j x y hx hy hgx hgy
          exact .inl (h x (List.mem_of_getElem? hx) y (List.mem_of_getElem? hy) hgx hgy)
        · intro h x hx y hy hgx hgy
          obtain ⟨i, hi⟩ := List.mem_iff_getElem?.1 hx
          obtain ⟨j, hj⟩ := List.mem_iff_getElem?.1 hy
          rcases h i j x y hi hj hgx hgy with hlt | ⟨k, z, _, _, hk, hz⟩
          · exact hlt
          · rw [hnone z (List.mem_of_getElem? hk)] at hz
            cases hz

end Sorted

/-! ### The first largest element -/

section Extremes

variable {α β : Type} [LinearOrder β] (key : α → β)

/-- `max(first, *rest, key=key)`: of several largest elements the first. -/
def maxBy (first : α) (rest : List α) : α :=
  rest.foldl (fun best a => if key best < key a then a else best) first

/-- `min(first, *rest, key=key)`: of several least elements the first. -/
def minBy (first : α) (rest : List α) : α := maxBy (fun a => OrderDual.toDual (key a)) first rest

theorem maxBy_mem (first : α) (rest : List α) : maxBy key first rest ∈ first :: rest := by
  induction rest generalizing first with
  | nil => exact List.mem_singleton_self first
  | cons a rest ih =>
      change maxBy key (if key first < key a then a else first) rest ∈ _
      rcases List.mem_cons.1 (ih (if key first < key a then a else first)) with heq | hmem
      · rw [heq]
        split_ifs
        · exact List.mem_cons_of_mem _ List.mem_cons_self
        · exact List.mem_cons_self
      · exact List.mem_cons_of_mem _ (List.mem_cons_of_mem _ hmem)

/-- **No element is larger.** -/
theorem le_maxBy {first : α} {rest : List α} {a : α} (h : a ∈ first :: rest) :
    key a ≤ key (maxBy key first rest) := by
  induction rest generalizing first a with
  | nil => rw [List.mem_singleton.1 h, maxBy, List.foldl_nil]
  | cons b rest ih =>
      change key a ≤ key (maxBy key (if key first < key b then b else first) rest)
      have hbest : key (if key first < key b then b else first) ≤
          key (maxBy key (if key first < key b then b else first) rest) := ih List.mem_cons_self
      have hfirst : key first ≤ key (if key first < key b then b else first) := by
        split_ifs with hlt
        · exact hlt.le
        · exact le_rfl
      have hnext : key b ≤ key (if key first < key b then b else first) := by
        split_ifs with hlt
        · exact le_rfl
        · exact not_lt.1 hlt
      rcases List.mem_cons.1 h with rfl | hmem
      · exact hfirst.trans hbest
      · rcases List.mem_cons.1 hmem with rfl | hrest
        · exact hnext.trans hbest
        · exact ih (List.mem_cons_of_mem _ hrest)

theorem minBy_mem (first : α) (rest : List α) : minBy key first rest ∈ first :: rest :=
  maxBy_mem _ first rest

end Extremes

end Sorting
end AiopsK8s
