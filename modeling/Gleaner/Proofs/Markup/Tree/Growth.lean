import Gleaner.Proofs.Markup.Tree.Nodes
import Mathlib.Data.List.Induction

/-! Trees that only grew at the end: every node was made as the last child of an older one. Such a tree is
the list of what was appended to what, and it can be read off that list. -/
namespace Gleaner.Markup

/-- A node as it was appended, and the number of the one that it was appended to. -/
structure Growth where
  content : Content
  parent : Nat

namespace Growth

/-- The numbers of the nodes that satisfy `p`, if the first one of the list has the number `k`. -/
def numbers (p : Growth → Bool) : Nat → List Growth → List Nat
  | _, [] => []
  | k, g :: rest => if p g then k :: numbers p (k + 1) rest else numbers p (k + 1) rest

/-- Every node was appended to an older one, if the first one of the list has the number `k`. -/
def Rooted : Nat → List Growth → Prop
  | _, [] => True
  | k, g :: rest => g.parent < k ∧ Rooted (k + 1) rest

/-- The children that the nodes of the list become of the node `n`. -/
def childrenOf (n k : Nat) (l : List Growth) : List Nat := numbers (·.parent == n) k l

variable {p : Growth → Bool} {k n : Nat} {g : Growth} {l l' : List Growth}

theorem numbers_append : numbers p k (l ++ l') = numbers p k l ++ numbers p (k + l.length) l' := by
  induction l generalizing k with
  | nil => rfl
  | cons g l ih =>
    rw [List.cons_append, numbers, numbers, ih, List.length_cons, Nat.add_assoc, Nat.add_comm 1]
    split <;> rfl

theorem numbers_eq_nil (h : ∀ g ∈ l, p g = false) : numbers p k l = [] := by
  induction l generalizing k with
  | nil => rfl
  | cons g l ih =>
    rw [List.forall_mem_cons] at h
    rw [numbers, h.1]
    exact ih h.2

/-- The same numbers are found by looking at one node after the other. -/
theorem filter_range'_eq_numbers {f : Nat → Bool} (h : ∀ i g, l[i]? = some g → f (k + i) = p g) :
    (List.range' k l.length).filter f = numbers p k l := by
  induction l generalizing k with
  | nil => rfl
  | cons g l ih =>
    have hhead : f k = p g := h 0 g rfl
    have hrest := ih (k := k + 1) fun i g hg => by
      rw [Nat.add_assoc, Nat.add_comm 1]
      exact h (i + 1) g hg
    rw [List.length_cons, List.range'_succ, List.filter_cons, numbers, hhead, hrest]

theorem rooted_append : Rooted k (l ++ l') ↔ Rooted k l ∧ Rooted (k + l.length) l' := by
  induction l generalizing k with
  | nil => simp [Rooted]
  | cons g l ih =>
    rw [List.cons_append, Rooted, Rooted, ih, List.length_cons, and_assoc, Nat.add_assoc,
      Nat.add_comm 1]

theorem Rooted.parent_lt (h : Rooted k l) (hg : g ∈ l) : g.parent < k + l.length := by
  induction l generalizing k with
  | nil => cases hg
  | cons g' l ih =>
    rw [List.length_cons]
    rcases List.mem_cons.1 hg with rfl | hg
    · have := h.1
      omega
    · have := ih h.2 hg
      omega

theorem childrenOf_append :
    childrenOf n k (l ++ l') = childrenOf n k l ++ childrenOf n (k + l.length) l' := numbers_append

theorem childrenOf_eq_nil (h : ∀ g ∈ l, g.parent ≠ n) : childrenOf n k l = [] :=
  numbers_eq_nil fun g hg => beq_eq_false_iff_ne.2 (h g hg)

end Growth

namespace Tree

def grow (t : Tree) (g : Growth) : Tree := (t.create g.content).1.append g.parent t.size

/-- The tree in which the nodes of the list have the numbers from 1 on. -/
def ofGrowth (l : List Growth) : Tree := l.foldl grow {}

variable {t t' : Tree} {g : Growth} {l : List Growth} {m n i : Nat}

theorem ext_node? (h : ∀ n, t.node? n = t'.node? n) : t = t' := by
  cases t
  cases t'
  exact congrArg mk (Array.ext_getElem? h)

theorem detach_of_loose (h : t.parent? n = none) : t.detach n = t := by
  simp only [detach, h]

@[simp]
theorem size_grow : (t.grow g).size = t.size + 1 := by
  rw [grow, size_append, size_create]

theorem node?_grow (hp : g.parent < t.size) :
    (t.grow g).node? m =
      if m = t.size then some ⟨g.content, some g.parent, #[]⟩
      else if m = g.parent then
        (t.node? m).map fun node => { node with children := node.children.push t.size }
      else t.node? m := by
  have hloose : (t.create g.content).1.parent? t.size = none := by
    rw [parent?_create, parent?_eq_none (Nat.le_refl _)]
  rw [grow, append, detach_of_loose hloose, node?_modify, node?_modify, node?_create]
  by_cases hm : m = t.size
  · subst hm
    simp [Nat.ne_of_lt hp]
  · simp only [hm, Ne.symm hm, if_false, eq_comm (a := g.parent)]

/-- A character joins the text that was appended last. -/
theorem pushChar_grow {s : String} {p : Nat} (hp : p < t.size) (c : Char) :
    (t.grow ⟨.text s, p⟩).pushChar t.size c = t.grow ⟨.text (s.push c), p⟩ := by
  refine ext_node? fun m => ?_
  rw [pushChar, node?_modify, node?_grow hp, node?_grow hp]
  by_cases hm : m = t.size
  · simp [hm]
  · simp [hm, Ne.symm hm]

theorem ofGrowth_concat : ofGrowth (l ++ [g]) = (ofGrowth l).grow g := List.foldl_concat ..

@[simp]
theorem size_ofGrowth : (ofGrowth l).size = l.length + 1 := by
  induction l using List.reverseRecOn with
  | nil => rfl
  | append_singleton l g ih => rw [ofGrowth_concat, size_grow, ih, List.length_append]; rfl

/-- What a node of such a tree is: what was appended, to what, and what was appended to it. -/
theorem node?_ofGrowth (h : Growth.Rooted 1 l) (hg : l[i]? = some g) :
    (ofGrowth l).node? (i + 1) =
      some ⟨g.content, some g.parent, (Growth.childrenOf (i + 1) 1 l).toArray⟩ := by
  induction l using List.reverseRecOn with
  | nil => cases hg
  | append_singleton l last ih =>
    obtain ⟨hl, hlast, -⟩ := Growth.rooted_append.1 h
    rw [Nat.add_comm] at hlast
    have hchildren : Growth.childrenOf (i + 1) (1 + l.length) [last] =
        if last.parent = i + 1 then [l.length + 1] else [] := by
      simp only [Growth.childrenOf, Growth.numbers, beq_iff_eq, Nat.add_comm 1]
    rw [ofGrowth_concat, node?_grow (by rwa [size_ofGrowth]), size_ofGrowth, Growth.childrenOf_append,
      hchildren]
    rcases Nat.lt_or_ge i l.length with hi | hi
    · rw [List.getElem?_append_left hi] at hg
      rw [if_neg (by omega), ih hl hg]
      by_cases hparent : i + 1 = last.parent
      · rw [if_pos hparent, if_pos hparent.symm]
        simp
      · rw [if_neg hparent, if_neg (Ne.symm hparent)]
        simp
    · -- Nothing can have been appended yet to the node that was appended last.
      have hi' : i = l.length := by
        have := (List.getElem?_eq_some_iff.1 hg).1
        rw [List.length_append] at this
        exact Nat.le_antisymm (Nat.le_of_lt_succ this) hi
      subst hi'
      rw [List.getElem?_concat_length, Option.some.injEq] at hg
      subst hg
      rw [if_pos rfl, if_neg (Nat.ne_of_lt hlast), Growth.childrenOf_eq_nil fun g hg => ?_]
      · rfl
      · have := hl.parent_lt hg
        omega

theorem parent?_root_ofGrowth (h : Growth.Rooted 1 l) : (ofGrowth l).parent? root = none := by
  induction l using List.reverseRecOn with
  | nil => rfl
  | append_singleton l last ih =>
    obtain ⟨hl, hlast, -⟩ := Growth.rooted_append.1 h
    rw [Nat.add_comm] at hlast
    rw [ofGrowth_concat, parent?, node?_grow (by rwa [size_ofGrowth]),
      if_neg (by rw [size_ofGrowth]; exact Nat.ne_of_lt (Nat.succ_pos _))]
    have hroot := ih hl
    rw [parent?] at hroot
    split
    · rw [← hroot]
      cases (ofGrowth l).node? root <;> rfl
    · exact hroot

end Tree

end Gleaner.Markup
