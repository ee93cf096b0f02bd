import Gleaner.Proofs.Markup.Lists
import Gleaner.Proofs.Markup.Tree.Nodes
import Mathlib.Data.Finset.Card
import Mathlib.Data.Finset.Range
import Mathlib.Logic.Relation

/-! Document order, defined from the nodes alone: a node stands before what is below it, and whatever is
in one child stands before whatever is in a later child of the same parent. -/
namespace Gleaner.Markup.Tree

/-- `x` is `y` or below it. -/
def Within (t : Tree) : NodeId → NodeId → Prop :=
  Relation.ReflTransGen fun a b => t.parent? a = some b

/-- `x` is below `y`, at any depth. -/
def Below (t : Tree) : NodeId → NodeId → Prop :=
  Relation.TransGen fun a b => t.parent? a = some b

/-- `x` begins before `y` does. -/
def Precedes (t : Tree) (x y : NodeId) : Prop :=
  t.Below y x ∨
    ∃ p c d, [c, d].Sublist (t.children p).toList ∧ t.Within x c ∧ t.Within y d

/-- Children and parents agree, nothing is below itself, and the fragment of a template stands first in
it. -/
structure Sound (t : Tree) : Prop where
  size_pos : 0 < t.size
  mem_children : ∀ p c, c ∈ t.children p ↔ t.parent? c = some p
  nodup : ∀ p, (t.children p).toList.Nodup
  acyclic : ∀ n, ¬ t.Below n n
  template : ∀ n, t.name? n = some (.html, "template") →
    ∃ f, (t.children n)[0]? = some f ∧ t.name? f = none

variable {t : Tree} {n p c d x y : NodeId}

theorem Within.refl : t.Within x x := Relation.ReflTransGen.refl

theorem Within.trans {z : NodeId} (h : t.Within x y) (h' : t.Within y z) : t.Within x z :=
  Relation.ReflTransGen.trans h h'

theorem Within.step (h : t.Within x c) (hc : t.parent? c = some n) : t.Within x n :=
  Relation.ReflTransGen.tail h hc

theorem within_of_parent? (h : t.parent? c = some n) : t.Within c n := .single h

theorem Below.within (h : t.Below x y) : t.Within x y := Relation.TransGen.to_reflTransGen h

theorem below_of_parent?_within (h : t.parent? x = some p) (hp : t.Within p y) : t.Below x y :=
  Relation.TransGen.head' h hp

theorem below_of_within_parent? (h : t.Within x c) (hc : t.parent? c = some y) : t.Below x y :=
  Relation.TransGen.tail' h hc

theorem below_iff : t.Below x n ↔ ∃ c, t.parent? c = some n ∧ t.Within x c := by
  rw [Below, Relation.TransGen.tail'_iff]
  exact exists_congr fun c => and_comm

theorem within_iff : t.Within x n ↔ x = n ∨ t.Below x n := by
  constructor
  · intro h
    rcases Relation.ReflTransGen.cases_tail h with h | ⟨c, hc, hn⟩
    · exact .inl h.symm
    · exact .inr (below_of_within_parent? hc hn)
  · rintro (rfl | h)
    · exact .refl
    · exact h.within

/-- There is one way up from a node. -/
theorem Within.comparable (hx : t.Within x c) (hx' : t.Within x d) : t.Within c d ∨ t.Within d c := by
  refine Relation.ReflTransGen.total_of_right_unique ?_ hx hx'
  intro a b b' hb hb'
  exact Option.some.inj (hb.symm.trans hb')

/-- Whatever a node is below, its siblings are below. -/
theorem below_of_beside (hc : t.parent? c = some p) (hd : t.parent? d = some p) (hcy : t.Below c y) :
    t.Below d y := by
  obtain ⟨q, hq, hqy⟩ := Relation.TransGen.head'_iff.1 hcy
  obtain rfl : q = p := Option.some.inj (hq.symm.trans hc)
  exact below_of_parent?_within hd hqy

namespace Sound

variable (h : t.Sound)

include h

theorem lt_size_of_child (hc : t.parent? c = some p) : p < t.size :=
  lt_size_of_mem_children ((h.mem_children p c).2 hc)

theorem not_within (hx : t.Below x y) : ¬ t.Within y x := by
  intro hy
  rcases within_iff.1 hy with rfl | hy
  · exact h.acyclic y hx
  · exact h.acyclic x (Relation.TransGen.trans hx hy)

/-- Two children of a node hold nothing in common. -/
theorem eq_of_within (hc : t.parent? c = some p) (hd : t.parent? d = some p) (hxc : t.Within x c)
    (hxd : t.Within x d) : c = d := by
  rcases hxc.comparable hxd with hcd | hdc
  · rcases within_iff.1 hcd with hcd | hcd
    · exact hcd
    · exact (h.acyclic d (below_of_beside hc hd hcd)).elim
  · rcases within_iff.1 hdc with hdc | hdc
    · exact hdc.symm
    · exact (h.acyclic c (below_of_beside hd hc hdc)).elim

theorem parent?_of_sublist (hs : [c, d].Sublist (t.children p).toList) :
    t.parent? c = some p ∧ t.parent? d = some p := by
  have hmem := hs.subset
  refine ⟨(h.mem_children p c).1 ?_, (h.mem_children p d).1 ?_⟩
  · exact Array.mem_toList_iff.1 (hmem (by simp))
  · exact Array.mem_toList_iff.1 (hmem (by simp))

/-- What stands in a node does not stand in a node beside it. -/
theorem not_within_of_beside (hs : [c, d].Sublist (t.children p).toList) (hx : t.Within x c) :
    ¬ t.Within x d := by
  intro hx'
  obtain ⟨hc, hd⟩ := h.parent?_of_sublist hs
  obtain rfl := h.eq_of_within hc hd hx hx'
  exact not_sublist_swap (h.nodup p) hs hs

theorem precedes_irrefl : ¬ t.Precedes x x := by
  rintro (hx | ⟨p, c, d, hs, hxc, hxd⟩)
  · exact h.acyclic x hx
  · exact h.not_within_of_beside hs hxc hxd

theorem precedes_asymm (hxy : t.Precedes x y) : ¬ t.Precedes y x := by
  intro hyx
  rcases hxy with hxy | ⟨p, c, d, hs, hxc, hyd⟩ <;> rcases hyx with hyx | ⟨p', c', d', hs', hyc', hxd'⟩
  · exact h.acyclic x (Relation.TransGen.trans hyx hxy)
  · exact h.not_within_of_beside hs' hyc' (hxy.within.trans hxd')
  · exact h.not_within_of_beside hs hxc (hyx.within.trans hyd)
  · obtain ⟨hc, hd⟩ := h.parent?_of_sublist hs
    obtain ⟨hc', hd'⟩ := h.parent?_of_sublist hs'
    -- Both pairs of siblings separate `x` from `y`: they would be one pair in two orders, unless one of
    -- them holds the other, and then a node of that pair holds both.
    by_cases hcd : c = d'
    · subst hcd
      obtain rfl : p = p' := Option.some.inj (hc.symm.trans hd')
      obtain rfl := h.eq_of_within hd hc' hyd hyc'
      exact not_sublist_swap (h.nodup p) hs hs'
    · rcases hxc.comparable hxd' with hle | hle <;> rcases within_iff.1 hle with heq | hlt
      · exact hcd heq
      · exact h.not_within_of_beside hs' hyc' (hyd.trans (below_of_beside hc hd hlt).within)
      · exact hcd heq.symm
      · exact h.not_within_of_beside hs (hyc'.trans (below_of_beside hd' hc' hlt).within) hyd

end Sound

/-! The traversal of a tree lists it in document order. -/

variable {fuel : Nat} {l : List NodeId}

theorem mem_forestWith : x ∈ t.forestWith fuel l ↔ ∃ c ∈ l, x ∈ t.subtreeWith fuel c := by
  induction l with
  | nil => simp [forestWith]
  | cons c l ih => simp [forestWith, ih]

namespace Sound

variable (h : t.Sound)

include h

theorem within_of_mem_subtreeWith (hx : x ∈ t.subtreeWith fuel n) : t.Within x n := by
  induction fuel generalizing n with
  | zero =>
    rw [subtreeWith, List.mem_singleton] at hx
    exact hx ▸ Within.refl
  | succ fuel ih =>
    rw [subtreeWith, List.mem_cons, mem_forestWith] at hx
    rcases hx with rfl | ⟨c, hc, hx⟩
    · exact Within.refl
    · exact (ih hx).step ((h.mem_children n c).1 (Array.mem_toList_iff.1 hc))

theorem pairwise_forestWith (hsub : ∀ c, (t.subtreeWith fuel c).Pairwise t.Precedes)
    (hl : l.Sublist (t.children p).toList) : (t.forestWith fuel l).Pairwise t.Precedes := by
  induction l with
  | nil =>
    rw [forestWith]
    exact List.Pairwise.nil
  | cons c l ih =>
    rw [forestWith, List.pairwise_append]
    refine ⟨hsub c, ih ((List.sublist_cons_self c l).trans hl), fun x hx y hy => ?_⟩
    obtain ⟨d, hd, hy⟩ := mem_forestWith.1 hy
    have hs : [c, d].Sublist (c :: l) := (List.singleton_sublist.2 hd).cons_cons c
    exact .inr ⟨p, c, d, hs.trans hl, h.within_of_mem_subtreeWith hx, h.within_of_mem_subtreeWith hy⟩

theorem pairwise_subtreeWith : (t.subtreeWith fuel n).Pairwise t.Precedes := by
  induction fuel generalizing n with
  | zero =>
    rw [subtreeWith]
    exact List.pairwise_singleton ..
  | succ fuel ih =>
    rw [subtreeWith, List.pairwise_cons]
    refine ⟨fun x hx => .inl ?_, h.pairwise_forestWith (fun c => ih) (List.Sublist.refl _)⟩
    obtain ⟨c, hc, hx⟩ := mem_forestWith.1 hx
    have hparent := (h.mem_children n c).1 (Array.mem_toList_iff.1 hc)
    exact below_of_within_parent? (h.within_of_mem_subtreeWith hx) hparent

end Sound

section Extent

open Classical

/-- The nodes that stand in `n`, `n` among them. -/
noncomputable def extent (t : Tree) (n : NodeId) : Finset NodeId :=
  (Finset.range t.size).filter (t.Within · n)

theorem card_extent_le : (t.extent n).card ≤ t.size := by
  have := Finset.card_le_card (Finset.filter_subset (t.Within · n) (Finset.range t.size))
  rwa [Finset.card_range] at this

theorem mem_extent : x ∈ t.extent n ↔ x < t.size ∧ t.Within x n := by
  simp [extent]

end Extent

namespace Sound

variable (h : t.Sound)

include h

theorem extent_ssubset (hc : t.parent? c = some n) : t.extent c ⊂ t.extent n := by
  rw [Finset.ssubset_iff_of_subset]
  · have hn : n < t.size := h.lt_size_of_child hc
    refine ⟨n, mem_extent.2 ⟨hn, Within.refl⟩, fun hmem => ?_⟩
    exact h.not_within (.single hc) (mem_extent.1 hmem).2
  · intro x hx
    obtain ⟨hlt, hx⟩ := mem_extent.1 hx
    exact mem_extent.2 ⟨hlt, hx.step hc⟩

/-- The traversal goes deep enough if it may go as deep as there are nodes. -/
theorem mem_subtreeWith (hfuel : (t.extent n).card ≤ fuel) (hx : t.Within x n) :
    x ∈ t.subtreeWith fuel n := by
  induction fuel generalizing n with
  | zero =>
    rcases within_iff.1 hx with rfl | hx
    · rw [subtreeWith]
      exact List.mem_singleton.2 rfl
    · obtain ⟨c, hc, -⟩ := below_iff.1 hx
      have := Finset.card_lt_card (h.extent_ssubset hc)
      omega
  | succ fuel ih =>
    rw [subtreeWith, List.mem_cons, mem_forestWith]
    rcases within_iff.1 hx with rfl | hx
    · exact .inl rfl
    · obtain ⟨c, hc, hxc⟩ := below_iff.1 hx
      have := Finset.card_lt_card (h.extent_ssubset hc)
      refine .inr ⟨c, ?_, ih (by omega) hxc⟩
      exact Array.mem_toList_iff.2 ((h.mem_children n c).2 hc)

theorem mem_subtree_iff : x ∈ t.subtree n ↔ t.Within x n :=
  ⟨h.within_of_mem_subtreeWith, h.mem_subtreeWith card_extent_le⟩

/-- Among the nodes of a subtree, document order is the order of its traversal. -/
theorem sublist_subtree_iff (hx : t.Within x n) (hy : t.Within y n) :
    [x, y].Sublist (t.subtree n) ↔ t.Precedes x y := by
  have hordered : (t.subtree n).Pairwise t.Precedes := h.pairwise_subtreeWith
  have hof : ∀ {a b}, [a, b].Sublist (t.subtree n) → t.Precedes a b :=
    List.pairwise_iff_forall_sublist.1 hordered
  refine ⟨hof, fun hxy => ?_⟩
  rcases sublist_or_swap (h.mem_subtree_iff.2 hx) (h.mem_subtree_iff.2 hy) with rfl | hs | hs
  · exact (h.precedes_irrefl hxy).elim
  · exact hs
  · exact (h.precedes_asymm hxy (hof hs)).elim

theorem mem_descendants_iff : x ∈ t.descendants n ↔ t.Below x n ∧ t.isElement x := by
  rw [descendants, List.mem_filter, h.mem_subtree_iff, within_iff, Bool.and_eq_true, bne_iff_ne]
  constructor
  · rintro ⟨rfl | hx, hne, he⟩
    · exact (hne rfl).elim
    · exact ⟨hx, he⟩
  · rintro ⟨hx, he⟩
    refine ⟨.inr hx, ?_, he⟩
    rintro rfl
    exact h.acyclic x hx

theorem pairwise_descendants : (t.descendants n).Pairwise t.Precedes :=
  h.pairwise_subtreeWith.filter _

end Sound

/-! Creation and document order. They are one if every node was put behind all that there was. -/

/-- Each node stands in the one made just before it or in one that holds that, and children stand by age. -/
structure InPlace (t : Tree) : Prop where
  root : t.parent? root = none
  parent : ∀ n, n + 1 < t.size → ∃ c, t.parent? (n + 1) = some c ∧ t.Within n c
  children : ∀ p, (t.children p).toList.Pairwise (· < ·)

theorem le_of_within_of (hparent : ∀ m ≤ x, ∀ p, t.parent? m = some p → p < m) (hx : t.Within x c) :
    c ≤ x := by
  induction hx with
  | refl => exact Nat.le_refl x
  | tail _ hp ih => exact (hparent _ ih _ hp).le.trans ih

theorem InPlace.parent_lt (h : t.InPlace) (hc : t.parent? y = some c) : c < y := by
  induction y using Nat.strong_induction_on generalizing c with
  | _ y ih =>
    cases y with
    | zero => cases h.root.symm.trans hc
    | succ n =>
      obtain ⟨c', hc', hn⟩ := h.parent n (lt_size_of_parent? hc)
      obtain rfl : c' = c := Option.some.inj (hc'.symm.trans hc)
      exact Nat.lt_succ_of_le (le_of_within_of (fun m hm p => ih m (Nat.lt_succ_of_le hm)) hn)

theorem InPlace.le_of_within (h : t.InPlace) (hx : t.Within x c) : c ≤ x :=
  le_of_within_of (fun _ _ _ => h.parent_lt) hx

namespace Sound

variable (h : t.Sound)

include h

/-- A new child stands behind all that stands in its parent already. -/
theorem precedes_child (hplace : t.InPlace) (hy : t.parent? y = some c) (hx : t.Below x c)
    (hlt : x < y) : t.Precedes x y := by
  obtain ⟨d, hd, hxd⟩ := below_iff.1 hx
  have hdy : d < y := (hplace.le_of_within hxd).trans_lt hlt
  rcases sublist_or_swap (Array.mem_toList_iff.2 ((h.mem_children c d).2 hd))
    (Array.mem_toList_iff.2 ((h.mem_children c y).2 hy)) with rfl | hs | hs
  · exact (Nat.lt_irrefl d hdy).elim
  · exact .inr ⟨c, d, y, hs, hxd, .refl⟩
  · exact (Nat.lt_asymm hdy (List.pairwise_iff_forall_sublist.1 (hplace.children c) hs)).elim

/-- What stands before a node and not in one that holds it stands before all that this one holds. -/
theorem precedes_of_within (hxn : t.Precedes x n) (hn : t.Within n c) (hx : ¬ t.Below x c)
    (hy : t.parent? y = some c) : t.Precedes x y := by
  rcases hxn with hnx | ⟨p, a, b, hs, hxa, hnb⟩
  · rcases hn.comparable hnx.within with hcx | hxc
    · exact .inl (below_of_parent?_within hy hcx)
    · obtain rfl := (within_iff.1 hxc).resolve_right hx
      exact .inl (.single hy)
  · rcases hn.comparable hnb with hcb | hbc
    · exact .inr ⟨p, a, b, hs, hxa, (within_of_parent? hy).trans hcb⟩
    · rcases within_iff.1 hbc with rfl | hbc
      · exact .inr ⟨p, a, b, hs, hxa, within_of_parent? hy⟩
      · obtain ⟨ha, hb⟩ := h.parent?_of_sublist hs
        have hac : t.Below a c := below_of_beside hb ha hbc
        exact (hx (Relation.TransGen.trans_right hxa hac)).elim

theorem precedes_of_lt (hplace : t.InPlace) (hlt : x < y) (hy : y < t.size) : t.Precedes x y := by
  induction y with
  | zero => exact (Nat.not_lt_zero x hlt).elim
  | succ n ih =>
    obtain ⟨c, hc, hn⟩ := hplace.parent n hy
    by_cases hx : t.Below x c
    · exact h.precedes_child hplace hc hx hlt
    · rcases Nat.lt_succ_iff_lt_or_eq.1 hlt with hxn | rfl
      · exact h.precedes_of_within (ih hxn (Nat.lt_of_succ_lt hy)) hn hx hc
      · obtain rfl := (within_iff.1 hn).resolve_right hx
        exact .inl (.single hc)

theorem lt_of_precedes (hall : ∀ x y, x < y → y < t.size → t.Precedes x y) (hx : x < t.size)
    (hxy : t.Precedes x y) : x < y := by
  rcases Nat.lt_trichotomy x y with hlt | rfl | hlt
  · exact hlt
  · exact (h.precedes_irrefl hxy).elim
  · exact (h.precedes_asymm hxy (hall y x hlt hx)).elim

theorem inPlace_of_precedes (hall : ∀ x y, x < y → y < t.size → t.Precedes x y) : t.InPlace where
  root := by
    cases hc : t.parent? root with
    | none => rfl
    | some c =>
      have hlt : c < root := h.lt_of_precedes hall (h.lt_size_of_child hc) (.inl (.single hc))
      exact (Nat.not_lt_zero c hlt).elim
  parent n hn := by
    rcases hall n (n + 1) n.lt_succ_self hn with hbelow | ⟨p, a, b, hs, hna, hb⟩
    · obtain ⟨c, hc, hcn⟩ := Relation.TransGen.head'_iff.1 hbelow
      refine ⟨c, hc, ?_⟩
      rcases within_iff.1 (show t.Within c n from hcn) with rfl | hcn
      · exact .refl
      · -- A node between the two would have been made between them.
        have hnc : n < c := h.lt_of_precedes hall (Nat.lt_of_succ_lt hn) (.inl hcn)
        have hcn : c < n + 1 := h.lt_of_precedes hall (h.lt_size_of_child hc) (.inl (.single hc))
        exact (Nat.not_lt.2 (Nat.le_of_lt_succ hcn) hnc).elim
    · obtain ⟨ha, hbp⟩ := h.parent?_of_sublist hs
      rcases within_iff.1 hb with rfl | hb
      · exact ⟨p, hbp, hna.step ha⟩
      · have hnb : n < b := h.lt_of_precedes hall (Nat.lt_of_succ_lt hn) (.inr ⟨p, a, b, hs, hna, .refl⟩)
        have hbn : b < n + 1 := h.lt_of_precedes hall (lt_size_of_parent? hbp) (.inl hb)
        exact (Nat.not_lt.2 (Nat.le_of_lt_succ hbn) hnb).elim
  children p := by
    refine List.pairwise_iff_forall_sublist.2 fun {c d} hs => ?_
    have hsize : c < t.size := lt_size_of_parent? (h.parent?_of_sublist hs).1
    exact h.lt_of_precedes hall hsize (.inr ⟨p, c, d, hs, .refl, .refl⟩)

/-- Creation order is document order just if every node stands in its place. -/
theorem inPlace_iff : t.InPlace ↔ ∀ x y, x < y → y < t.size → t.Precedes x y :=
  ⟨fun hplace _ _ => h.precedes_of_lt hplace, h.inPlace_of_precedes⟩

end Sound

end Gleaner.Markup.Tree
