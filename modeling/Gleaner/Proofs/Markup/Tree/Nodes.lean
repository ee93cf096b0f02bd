import Gleaner.Selector.Match
import Mathlib.Data.List.Nodup
import Mathlib.Tactic.ByContra

/-! What each operation on a tree does to the nodes, seen through four things: how many there are, what
an element is called, what stands around a node and what stands in it. -/
namespace Gleaner.Markup

/-- The namespace and the name of an element; other nodes have none. -/
def Node.name? (node : Node) : Option (Namespace × String) :=
  match node.content with
  | .element e => some (e.space, e.name)
  | _ => none

namespace Tree

def name? (t : Tree) (n : NodeId) : Option (Namespace × String) :=
  (t.node? n).bind Node.name?

variable {t : Tree} {n m p : NodeId}

theorem element?_map_eq : (t.element? n).map (fun e => (e.space, e.name)) = t.name? n := by
  simp only [element?, name?]
  rcases t.node? n with _ | ⟨_ | _ | _ | _ | _ | _, _, _⟩ <;> rfl

theorem isElement_eq : t.isElement n = (t.name? n).isSome := by
  rw [isElement, ← element?_map_eq, Option.isSome_map]

theorem node?_eq_none (h : t.size ≤ n) : t.node? n = none :=
  Array.getElem?_eq_none h

theorem parent?_eq_none (h : t.size ≤ n) : t.parent? n = none := by
  rw [parent?, node?_eq_none h]
  rfl

theorem children_eq_empty (h : t.size ≤ n) : t.children n = #[] := by
  rw [children, node?_eq_none h]
  rfl

theorem lt_size_of_parent? (h : t.parent? n = some p) : n < t.size := by
  by_contra hn
  rw [parent?_eq_none (Nat.le_of_not_lt hn)] at h
  cases h

theorem lt_size_of_mem_children (h : m ∈ t.children n) : n < t.size := by
  by_contra hn
  rw [children_eq_empty (Nat.le_of_not_lt hn)] at h
  simp at h

theorem lt_size_of_isElement (h : t.isElement n) : n < t.size := by
  by_contra hn
  rw [isElement_eq, name?, node?_eq_none (Nat.le_of_not_lt hn)] at h
  cases h

/-! Changing one node. -/

section Modify

variable (f : Node → Node)

@[simp]
theorem size_modify : (t.modify n f).size = t.size := by
  simp [modify, size]

theorem node?_modify :
    (t.modify n f).node? m = if n = m then (t.node? m).map f else t.node? m := by
  simp only [modify, node?, Array.getElem?_modify]

/-- A part of the nodes that `f` does not change. -/
theorem bind_node?_modify {α : Type} (g : Node → Option α) (hf : ∀ node, g (f node) = g node) :
    ((t.modify n f).node? m).bind g = (t.node? m).bind g := by
  rw [node?_modify]
  split
  · cases t.node? m with
    | none => rfl
    | some node => exact hf node
  · rfl

theorem name?_modify (hf : ∀ node, (f node).name? = node.name?) :
    (t.modify n f).name? m = t.name? m :=
  bind_node?_modify f Node.name? hf

theorem parent?_modify (hf : ∀ node, (f node).parent = node.parent) :
    (t.modify n f).parent? m = t.parent? m :=
  bind_node?_modify f Node.parent hf

theorem children_modify (hf : ∀ node, (f node).children = node.children) :
    (t.modify n f).children m = t.children m := by
  have h := bind_node?_modify (t := t) (n := n) (m := m) f (some ∘ Node.children)
    fun node => congrArg some (hf node)
  simpa only [children, Option.map_eq_bind] using congrArg (Option.getD · #[]) h

end Modify

section Parts

variable (q : Option NodeId) (f : Array NodeId → Array NodeId)

@[simp]
theorem name?_setParent :
    (t.modify n fun node => { node with parent := q }).name? m = t.name? m :=
  name?_modify _ fun _ => rfl

@[simp]
theorem name?_setChildren :
    (t.modify n fun node => { node with children := f node.children }).name? m = t.name? m :=
  name?_modify _ fun _ => rfl

@[simp]
theorem children_setParent :
    (t.modify n fun node => { node with parent := q }).children m = t.children m :=
  children_modify _ fun _ => rfl

@[simp]
theorem parent?_setChildren :
    (t.modify n fun node => { node with children := f node.children }).parent? m = t.parent? m :=
  parent?_modify _ fun _ => rfl

theorem parent?_setParent (hn : n < t.size) :
    (t.modify n fun node => { node with parent := q }).parent? m =
      if m = n then q else t.parent? m := by
  by_cases h : n = m
  · subst h
    rw [parent?, node?_modify, if_pos rfl, if_pos rfl]
    simp [node?, Array.getElem?_eq_getElem (show n < t.nodes.size from hn)]
  · rw [parent?, node?_modify, if_neg h, if_neg (Ne.symm h), parent?]

theorem children_setChildren (hp : p < t.size) :
    (t.modify p fun node => { node with children := f node.children }).children m =
      if m = p then f (t.children p) else t.children m := by
  by_cases h : p = m
  · subst h
    rw [children, node?_modify, if_pos rfl, if_pos rfl, children]
    simp [node?, Array.getElem?_eq_getElem (show p < t.nodes.size from hp)]
  · rw [children, node?_modify, if_neg h, if_neg (Ne.symm h), children]

end Parts

/-! Taking a node out of its place. -/

@[simp]
theorem size_detach : (t.detach n).size = t.size := by
  unfold detach
  split <;> simp

@[simp]
theorem name?_detach : (t.detach n).name? m = t.name? m := by
  unfold detach
  split
  · rfl
  · rw [name?_setParent, name?_setChildren (Array.filter (· != n))]

theorem parent?_detach : (t.detach n).parent? m = if m = n then none else t.parent? m := by
  unfold detach
  split
  · next h =>
    split
    · next hmn => rw [hmn, h]
    · rfl
  · next h =>
    have hn : n < t.size := lt_size_of_parent? h
    rw [parent?_setParent _ (by simpa using hn), parent?_setChildren (Array.filter (· != n))]

theorem children_detach (hmem : ∀ p, n ∈ t.children p ↔ t.parent? n = some p) :
    ((t.detach n).children m).toList = (t.children m).toList.filter (· != n) := by
  have hself : t.parent? n ≠ some m →
      (t.children m).toList.filter (· != n) = (t.children m).toList := by
    intro hm
    refine List.filter_eq_self.2 fun c hc => bne_iff_ne.2 ?_
    rintro rfl
    exact hm ((hmem m).1 (Array.mem_toList_iff.1 hc))
  unfold detach
  split
  · next h => rw [hself (by simp [h])]
  · next p h =>
    have hp : p < t.size := lt_size_of_mem_children ((hmem p).2 h)
    rw [children_setParent, children_setChildren (Array.filter (· != n)) hp]
    by_cases hmp : m = p
    · rw [if_pos hmp, hmp, Array.toList_filter]
    · rw [if_neg hmp, hself]
      rw [h]
      exact fun heq => hmp (Option.some.inj heq).symm

/-! Putting a node somewhere else. -/

section Place

variable {c : NodeId}

@[simp]
theorem size_append : (t.append p c).size = t.size := by
  simp [append]

@[simp]
theorem name?_append : (t.append p c).name? m = t.name? m := by
  rw [append, name?_setChildren (Array.push · c), name?_setParent, name?_detach]

theorem parent?_append (hc : c < t.size) :
    (t.append p c).parent? m = if m = c then some p else t.parent? m := by
  rw [append, parent?_setChildren (Array.push · c), parent?_setParent _ (by simpa using hc),
    parent?_detach]
  split <;> rfl

theorem children_append (hp : p < t.size) :
    (t.append p c).children m =
      if m = p then ((t.detach c).children p).push c else (t.detach c).children m := by
  rw [append, children_setChildren (Array.push · c) (by simpa using hp), children_setParent,
    children_setParent]

variable {s : NodeId}

/-- The children of a parent with `c` put before each `s`. -/
def withBefore (s c : NodeId) (children : Array NodeId) : Array NodeId :=
  children.flatMap fun d => if d = s then #[c, d] else #[d]

theorem toList_withBefore (children : Array NodeId) :
    (withBefore s c children).toList =
      children.toList.flatMap fun d => if d = s then [c, d] else [d] := by
  rw [withBefore, Array.toList_flatMap]
  refine List.flatMap_congr fun d _ => ?_
  split <;> rfl

theorem insertBefore_eq (hs : s ≠ c) (hp : t.parent? s = some p) :
    t.insertBefore s c =
      ((t.detach c).modify c fun node => { node with parent := some p }).modify p fun node =>
        { node with children := withBefore s c node.children } := by
  have h : (t.detach c).parent? s = some p := by rw [parent?_detach, if_neg hs, hp]
  simp only [insertBefore, h]
  rfl

theorem size_insertBefore (hs : s ≠ c) (hp : t.parent? s = some p) :
    (t.insertBefore s c).size = t.size := by
  rw [insertBefore_eq hs hp, size_modify, size_modify, size_detach]

theorem name?_insertBefore (hs : s ≠ c) (hp : t.parent? s = some p) :
    (t.insertBefore s c).name? m = t.name? m := by
  rw [insertBefore_eq hs hp, name?_setChildren, name?_setParent, name?_detach]

theorem parent?_insertBefore (hs : s ≠ c) (hp : t.parent? s = some p) (hc : c < t.size) :
    (t.insertBefore s c).parent? m = if m = c then some p else t.parent? m := by
  rw [insertBefore_eq hs hp, parent?_setChildren, parent?_setParent _ (by simpa using hc),
    parent?_detach]
  split <;> rfl

theorem children_insertBefore (hs : s ≠ c) (hp : t.parent? s = some p) (hlt : p < t.size) :
    (t.insertBefore s c).children m =
      if m = p then withBefore s c ((t.detach c).children p) else (t.detach c).children m := by
  rw [insertBefore_eq hs hp, children_setChildren _ (by simpa using hlt), children_setParent,
    children_setParent]

end Place

/-! New nodes. -/

section Create

variable {content : Content} {e : Element}

theorem node?_create :
    (t.create content).1.node? m = if m = t.size then some { content } else t.node? m :=
  Array.getElem?_push

@[simp]
theorem size_create : (t.create content).1.size = t.size + 1 :=
  Array.size_push ..

@[simp]
theorem parent?_create : (t.create content).1.parent? m = t.parent? m := by
  rw [parent?, node?_create]
  split
  · next h => rw [h, parent?_eq_none (Nat.le_refl _)]; rfl
  · rfl

@[simp]
theorem children_create : (t.create content).1.children m = t.children m := by
  rw [children, node?_create]
  split
  · next h => rw [h, children_eq_empty (Nat.le_refl _)]; rfl
  · rfl

theorem name?_create :
    (t.create content).1.name? m =
      if m = t.size then ({ content : Node }).name? else t.name? m := by
  rw [name?, node?_create]
  split <;> rfl

@[simp]
theorem create_snd : (t.create content).2 = t.size := rfl

theorem isElement_create : (t.create (.element e)).1.isElement t.size := by
  rw [isElement_eq, name?_create, if_pos rfl]
  rfl

theorem createElement_of_ne (h : ¬ (e.space = .html ∧ e.name = "template")) :
    t.createElement e = t.create (.element e) := by
  simp only [createElement, if_neg h]

theorem createElement_snd : (t.createElement e).2 = t.size := by
  unfold createElement
  split <;> rfl

variable (h : e.space = .html ∧ e.name = "template")

include h

theorem size_createTemplate : (t.createElement e).1.size = t.size + 2 := by
  simp [createElement, if_pos h, size]

theorem node?_createTemplate :
    (t.createElement e).1.node? m =
      if m = t.size + 1 then some { content := .fragment, parent := some t.size }
      else if m = t.size then some { content := .element e, children := #[t.size + 1] }
      else t.node? m := by
  simp only [createElement, if_pos h, node?, Array.getElem?_push, Array.size_push]
  rfl

theorem parent?_createTemplate :
    (t.createElement e).1.parent? m = if m = t.size + 1 then some t.size else t.parent? m := by
  rw [parent?, node?_createTemplate h]
  split
  · rfl
  · split
    · next hm => rw [hm, parent?_eq_none (Nat.le_refl _)]; rfl
    · rfl

theorem children_createTemplate :
    (t.createElement e).1.children m = if m = t.size then #[t.size + 1] else t.children m := by
  rw [children, node?_createTemplate h]
  split
  · next hm =>
    rw [hm, if_neg (Nat.succ_ne_self _), children_eq_empty (Nat.le_succ _)]
    rfl
  · split <;> rfl

theorem name?_createTemplate :
    (t.createElement e).1.name? m =
      if m = t.size + 1 then none
      else if m = t.size then some (.html, "template") else t.name? m := by
  rw [name?, node?_createTemplate h]
  split
  · rfl
  · split
    · simp [Node.name?, h.1, h.2]
    · rfl

end Create

theorem isElement_createElement {e : Element} : (t.createElement e).1.isElement t.size := by
  rw [isElement_eq]
  by_cases he : e.space = .html ∧ e.name = "template"
  · rw [name?_createTemplate he, if_neg (Nat.ne_of_lt (Nat.lt_succ_self _)), if_pos rfl]
    rfl
  · rw [createElement_of_ne he, ← isElement_eq, isElement_create]

/-! Changing what a node holds. -/

/-- The two trees differ at most in the text and the attributes of their nodes. -/
structure SameShape (t t' : Tree) : Prop where
  size : t'.size = t.size
  name? : ∀ m, t'.name? m = t.name? m
  parent? : ∀ m, t'.parent? m = t.parent? m
  children : ∀ m, t'.children m = t.children m

theorem sameShape_modify {f : Node → Node}
    (hf : ∀ node, (f node).name? = node.name? ∧ (f node).parent = node.parent ∧
      (f node).children = node.children) : SameShape t (t.modify n f) where
  size := size_modify f
  name? _ := name?_modify f fun node => (hf node).1
  parent? _ := parent?_modify f fun node => (hf node).2.1
  children _ := children_modify f fun node => (hf node).2.2

theorem sameShape_pushChar (c : Char) : SameShape t (t.pushChar n c) :=
  sameShape_modify fun node => by
    rcases node with ⟨_ | _ | _ | _ | _ | _, _, _⟩ <;> exact ⟨rfl, rfl, rfl⟩

theorem sameShape_addMissing (attrs : List Attr) : SameShape t (t.addMissing n attrs) :=
  sameShape_modify fun node => by
    rcases node with ⟨_ | _ | _ | _ | _ | _, _, _⟩ <;> exact ⟨rfl, rfl, rfl⟩

end Tree

end Gleaner.Markup
