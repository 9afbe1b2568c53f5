/-
# Lineages

A shelf holds versions by their names, and every version but the first of its line names
the one it follows.  It is lawful when the numbers of a line count from one, without a gap,
and no version is followed by two (`Lawful`).

A lawful shelf stays lawful when a version is added that it admits (`Lawful.insert`).  From
every version of a lawful shelf the parents lead back to a first version in as many steps as
its number says (`Lawful.exists_chain`), and two lines that meet are one line
(`Lawful.linear`).
-/

import Mathlib.Algebra.Order.Group.Int
import Mathlib.Data.List.Infix
import Mathlib.Data.List.Nodup
import Mathlib.Logic.Function.Basic

namespace AiopsK8s
namespace Lineage

/-- The number of a version and the version it follows. -/
structure Link (I : Type) where
  version : ℤ
  parent : Option I
  deriving DecidableEq

/-- A shelf: versions by name. -/
abbrev Versions (I : Type) : Type := I → Option (Link I)

variable {I : Type} {s : Versions I} {x x' y : I} {e e' : Link I} {l l' m : List I}

/-- **A lawful shelf**: every line counts from one without a gap, and no version is followed
by two. -/
structure Lawful (s : Versions I) : Prop where
  positive : ∀ {x e}, s x = some e → 1 ≤ e.version
  rooted : ∀ {x e}, s x = some e → e.parent = none → e.version = 1
  parent : ∀ {x e y}, s x = some e → e.parent = some y → ∃ d, s y = some d ∧ d.version + 1 = e.version
  single : ∀ {x x' e e' y}, s x = some e → s x' = some e' → e.parent = some y → e'.parent = some y →
    x = x'

/-- The shelf is ready for a version: it holds the one before, which nothing follows yet. -/
structure Admits (s : Versions I) (e : Link I) : Prop where
  positive : 1 ≤ e.version
  rooted : e.parent = none → e.version = 1
  parent : ∀ {y}, e.parent = some y → ∃ d, s y = some d ∧ d.version + 1 = e.version
  leaf : ∀ {y x d}, e.parent = some y → s x = some d → d.parent ≠ some y

theorem lawful_empty : Lawful (fun _ => none : Versions I) where
  positive h := by cases h
  rooted h := by cases h
  parent h := by cases h
  single h := by cases h

/-- **A version that is admitted keeps the shelf lawful.** -/
theorem Lawful.insert [DecidableEq I] (h : Lawful s) (hx : s x = none) (he : Admits s e) :
    Lawful (Function.update s x (some e)) := by
  have hcases : ∀ {z d}, Function.update s x (some e) z = some d → (z = x ∧ d = e) ∨ s z = some d := by
    intro z d hd
    rcases eq_or_ne z x with rfl | hne
    · rw [Function.update_self] at hd
      exact .inl ⟨rfl, (Option.some.inj hd).symm⟩
    · rw [Function.update_of_ne hne] at hd
      exact .inr hd
  have hkeep : ∀ {z d}, s z = some d → Function.update s x (some e) z = some d := by
    intro z d hd
    have hne : z ≠ x := by
      rintro rfl
      rw [hx] at hd
      cases hd
    rwa [Function.update_of_ne hne]
  refine ⟨fun {z d} hd => ?_, fun {z d} hd hnone => ?_, fun {z d y} hd hy => ?_,
    fun {z z' d d' y} hd hd' hy hy' => ?_⟩
  · rcases hcases hd with ⟨-, rfl⟩ | hd
    · exact he.positive
    · exact h.positive hd
  · rcases hcases hd with ⟨-, rfl⟩ | hd
    · exact he.rooted hnone
    · exact h.rooted hd hnone
  · have hparent : ∃ c, s y = some c ∧ c.version + 1 = d.version := by
      rcases hcases hd with ⟨-, rfl⟩ | hd
      · exact he.parent hy
      · exact h.parent hd hy
    obtain ⟨c, hc, hversion⟩ := hparent
    exact ⟨c, hkeep hc, hversion⟩
  · rcases hcases hd with ⟨rfl, rfl⟩ | hz <;> rcases hcases hd' with ⟨rfl, rfl⟩ | hz'
    · rfl
    · exact absurd hy' (he.leaf hy hz')
    · exact absurd hy (he.leaf hy' hz)
    · exact h.single hz hz' hy hy'

/-- The way from a version back to the first one of its line. -/
inductive Chain (s : Versions I) : I → List I → Prop
  | first {x : I} {e : Link I} : s x = some e → e.parent = none → Chain s x [x]
  | next {x y : I} {e : Link I} {l : List I} :
      s x = some e → e.parent = some y → Chain s y l → Chain s x (x :: l)

namespace Chain

theorem eq_cons (h : Chain s x l) : ∃ rest, l = x :: rest := by
  cases h with
  | first => exact ⟨[], rfl⟩
  | next => exact ⟨_, rfl⟩

/-- There is one way back. -/
theorem unique (h : Chain s x l) (h' : Chain s x l') : l = l' := by
  induction h generalizing l' with
  | first hx hnone =>
      cases h' with
      | first => rfl
      | next hx' hy' =>
          rw [hx] at hx'
          cases hx'
          rw [hnone] at hy'
          cases hy'
  | next hx hy _ ih =>
      cases h' with
      | first hx' hnone =>
          rw [hx] at hx'
          cases hx'
          rw [hnone] at hy
          cases hy
      | next hx' hy' htail =>
          rw [hx] at hx'
          cases hx'
          rw [hy] at hy'
          cases hy'
          rw [ih htail]

/-- The rest of the way from a version on it. -/
theorem of_suffix (h : Chain s x l) (hm : y :: m <:+ l) : Chain s y (y :: m) := by
  induction h with
  | first hx hnone =>
      obtain ⟨rfl, rfl⟩ : y = _ ∧ m = [] := by
        rcases List.suffix_cons_iff.1 hm with heq | hnil
        · exact List.cons.inj heq
        · simp at hnil
      exact .first hx hnone
  | next hx hy htail ih =>
      rcases List.suffix_cons_iff.1 hm with heq | htail'
      · obtain ⟨rfl, rfl⟩ := List.cons.inj heq
        exact .next hx hy htail
      · exact ih htail'

/-- The version that is followed next. -/
theorem next_parent (h : Chain s x l) {z : I} (hm : y :: z :: m <:+ l) :
    ∃ d, s y = some d ∧ d.parent = some z := by
  cases h.of_suffix hm with
  | next hy hz htail =>
      obtain ⟨rest, hrest⟩ := htail.eq_cons
      obtain ⟨rfl, -⟩ := List.cons.inj hrest
      exact ⟨_, hy, hz⟩

/-- **The numbers on the way back fall by one.** -/
theorem version (hs : Lawful s) (h : Chain s x l) (hx : s x = some e) {i : ℕ} (hi : l[i]? = some y) :
    ∃ d, s y = some d ∧ d.version + i = e.version := by
  induction h generalizing e i with
  | first hx' _ =>
      rcases i with _ | i
      · obtain rfl : _ = y := by simpa using hi
        exact ⟨e, hx, by simp⟩
      · simp at hi
  | next hx' hparent _ ih =>
      rcases i with _ | i
      · obtain rfl : _ = y := by simpa using hi
        exact ⟨e, hx, by simp⟩
      · rw [hx] at hx'
        cases hx'
        obtain ⟨c, hc, hversion⟩ := hs.parent hx hparent
        obtain ⟨d, hd, hsum⟩ := ih hc (by simpa using hi)
        refine ⟨d, hd, ?_⟩
        push_cast
        omega

/-- No version comes twice on the way back. -/
theorem nodup (hs : Lawful s) (h : Chain s x l) : l.Nodup := by
  obtain ⟨e, hx⟩ : ∃ e, s x = some e := by
    cases h with
    | first hx => exact ⟨_, hx⟩
    | next hx => exact ⟨_, hx⟩
  rw [List.nodup_iff_getElem?_ne_getElem?]
  intro i j hij hj heq
  obtain ⟨z, hz⟩ : ∃ z, l[j]? = some z := ⟨_, List.getElem?_eq_getElem hj⟩
  obtain ⟨d, hd, hi⟩ := h.version hs hx (heq.trans hz)
  obtain ⟨d', hd', hj'⟩ := h.version hs hx hz
  rw [hd] at hd'
  cases hd'
  omega

end Chain

/-- **Every version leads back to a first one**, in as many steps as its number says. -/
theorem Lawful.exists_chain (h : Lawful s) (hx : s x = some e) :
    ∃ l, Chain s x l ∧ (l.length : ℤ) = e.version := by
  obtain ⟨n, hn⟩ : ∃ n : ℕ, e.version = n + 1 :=
    ⟨(e.version - 1).toNat, by have := h.positive hx; omega⟩
  induction n generalizing x e with
  | zero =>
      rcases hparent : e.parent with _ | y
      · exact ⟨[x], .first hx hparent, by simpa using hn.symm⟩
      · obtain ⟨d, hd, hversion⟩ := h.parent hx hparent
        have := h.positive hd
        omega
  | succ n ih =>
      rcases hparent : e.parent with _ | y
      · have := h.rooted hx hparent
        omega
      · obtain ⟨d, hd, hversion⟩ := h.parent hx hparent
        obtain ⟨l, hl, hlength⟩ := ih hd (by push_cast at hn; omega)
        refine ⟨x :: l, .next hx hparent hl, ?_⟩
        rw [List.length_cons]
        push_cast
        omega

/-- **Lines do not fork**: of two lines that meet, one is the end of the other. -/
theorem Lawful.linear (h : Lawful s) (hl : Chain s x l) (hl' : Chain s x' l') (hy : y ∈ l)
    (hy' : y ∈ l') : l <:+ l' ∨ l' <:+ l := by
  induction hl with
  | @first x e hx hnone =>
      obtain rfl := List.mem_singleton.1 hy
      obtain ⟨before, after, rfl⟩ := List.append_of_mem hy'
      have htail := hl'.of_suffix (List.suffix_append before (y :: after))
      rw [(Chain.first hx hnone).unique htail]
      exact .inl (List.suffix_append before _)
  | @next x z e l hx hz htail ih =>
      rcases List.mem_cons.1 hy with rfl | hmem
      · obtain ⟨before, after, rfl⟩ := List.append_of_mem hy'
        have hafter := hl'.of_suffix (List.suffix_append before (y :: after))
        rw [(Chain.next hx hz htail).unique hafter]
        exact .inl (List.suffix_append before _)
      · rcases ih hmem with hsuffix | hsuffix
        · obtain ⟨before, rfl⟩ := hsuffix
          rcases List.eq_nil_or_concat before with rfl | ⟨before, w, rfl⟩
          · exact .inr (List.suffix_cons x l)
          · -- the version before the common end is the only one that follows it
            obtain ⟨rest, rfl⟩ := htail.eq_cons
            have hsuffix : w :: z :: rest <:+ before.concat w ++ z :: rest := by
              rw [List.concat_append]
              exact List.suffix_append before _
            obtain ⟨d, hw, hparent⟩ := hl'.next_parent hsuffix
            obtain rfl := h.single hx hw hz hparent
            exact .inl hsuffix
        · exact .inr (hsuffix.trans (List.suffix_cons x l))

end Lineage
end AiopsK8s
