import Gleaner.Proofs.Markup.Tree.Moves

/-! Where the tree construction puts a node: always in, around or just inside some open element, so that
nothing ends up in a node that is still open further in. -/
namespace Gleaner.Markup

namespace Place

/-- The node that a node put at the place becomes a child of. -/
def parent (t : Tree) : Place → NodeId
  | .lastIn p => p
  | .beforeTable table above => (t.parent? table).getD above

/-- A node may be put at the place: what it would stand before is another element. -/
def Admits (t : Tree) (n : NodeId) : Place → Prop
  | .lastIn _ => True
  | .beforeTable table _ => t.isElement table ∧ table ≠ n

end Place

/-- A place that admits a node that is to be made admits it once it is made. -/
theorem Place.Admits.grown {t t' : Tree} {pl : Place} (h : pl.Admits t t.size)
    (hg : Tree.Grown t t') : pl.Admits t' t.size := by
  cases pl with
  | lastIn p => trivial
  | beforeTable table above =>
    obtain ⟨helem, hne⟩ := h
    refine ⟨?_, hne⟩
    rwa [Tree.isElement_eq, hg.name? table (Tree.lt_size_of_isElement helem), ← Tree.isElement_eq]

namespace Tree

variable {t : Tree} {c q z : NodeId}

/-- The node is neither a table nor a template, so it does not matter for where misplaced content goes. -/
def Ordinary (t : Tree) (n : NodeId) : Prop :=
  t.name? n ≠ some (.html, "table") ∧ t.name? n ≠ some (.html, "template")

/-- `q` is `z`, the node around it, or a child of it that is no element. -/
def Near (t : Tree) (z q : NodeId) : Prop :=
  q = z ∨ t.parent? z = some q ∨ t.parent? q = some z ∧ t.name? q = none

theorem Sound.near_templateContent (h : t.Sound) (hz : t.name? z = some (.html, "template")) :
    t.Near z (t.templateContent z) := by
  obtain ⟨f, hf, hname⟩ := h.template z hz
  rw [templateContent, hf]
  exact .inr (.inr ⟨h.parent?_of_first hf, hname⟩)

theorem Apart.near_lt {n : NodeId} (hn : t.Apart n) (hz : z < n) (h : t.Near z q) : q < n := by
  rcases h with rfl | hq | ⟨hq, -⟩
  · exact hz
  · exact (hn z q hq).1 hz
  · exact (hn q z hq).2 hz

/-- What is near `z` is in no element that `z` is not in. -/
theorem not_within_of_near (hc : t.isElement c) (hz : ¬ t.Within z c) (hq : t.Near z q) :
    ¬ t.Within q c := by
  intro hw
  rcases hq with rfl | hq | ⟨hq, hname⟩
  · exact hz hw
  · exact hz ((within_of_parent? hq).trans hw)
  · rcases Relation.ReflTransGen.cases_head hw with heq | ⟨p, hp, hpc⟩
    · rw [isElement_eq, ← heq, hname] at hc
      cases hc
    · obtain rfl : z = p := Option.some.inj (hq.symm.trans hp)
      exact hz hpc

theorem Sound.moved_place (h : t.Sound) {pl : Place} (hc : c < t.size) (hq : pl.parent t < t.size)
    (hpl : pl.Admits t c) : Moved t (t.place c pl) c (pl.parent t) := by
  cases pl with
  | lastIn p => exact h.moved_append hc hq
  | beforeTable table above =>
    cases hp : t.parent? table with
    | none =>
      simp only [place, Place.parent, hp, Option.getD_none] at hq ⊢
      exact h.moved_append hc hq
    | some p =>
      simp only [place, Place.parent, hp, Option.getD_some]
      exact h.moved_insertBefore hc hpl.1 hpl.2 hp

theorem appendChar_cases (t : Tree) (p : NodeId) (ch : Char) :
    (∃ n, t.appendChar p ch = t.pushChar n ch) ∨
      t.appendChar p ch = (t.create (.text ch.toString)).1.append p t.size := by
  unfold appendChar
  split
  · split
    · exact .inl ⟨_, rfl⟩
    · exact .inr rfl
  · exact .inr rfl

theorem insertCharBefore_cases (t : Tree) (s : NodeId) (ch : Char) :
    (∃ n, t.insertCharBefore s ch = t.pushChar n ch) ∨
      t.insertCharBefore s ch = (t.create (.text ch.toString)).1.insertBefore s t.size := by
  unfold insertCharBefore
  split
  · split
    · exact .inl ⟨_, rfl⟩
    · exact .inr rfl
  · exact .inr rfl

/-- A character joins a text that is there, or becomes a new node at its place. -/
theorem placeChar_cases (t : Tree) (ch : Char) (pl : Place) :
    (∃ n, t.placeChar ch pl = t.pushChar n ch) ∨
      t.placeChar ch pl = (t.create (.text ch.toString)).1.place t.size pl := by
  cases pl with
  | lastIn p => exact t.appendChar_cases p ch
  | beforeTable table above =>
    simp only [placeChar, place, parent?_create]
    split
    · exact t.insertCharBefore_cases table ch
    · exact t.appendChar_cases above ch

end Tree

namespace Builder

variable {b : Builder} {n target : NodeId} {l pre rest : List NodeId} {name : String}

theorem nameOf_eq : b.nameOf n = (b.tree.name? n).getD (.html, "") := by
  rw [← Tree.element?_map_eq, nameOf]
  cases b.tree.element? n <;> rfl

theorem isHtml_iff (hname : name ≠ "") : b.isHtml n name ↔ b.tree.name? n = some (.html, name) := by
  rw [isHtml, nameOf_eq, beq_iff_eq]
  cases b.tree.name? n with
  | none => simp [Ne.symm hname]
  | some e => simp

theorem isElement_of_isHtml (hname : name ≠ "") (h : b.isHtml n name) : b.tree.isElement n := by
  rw [Tree.isElement_eq, (isHtml_iff hname).1 h]
  rfl

theorem htmlElement_mem (hrest : rest ≠ []) (hstack : b.stack = pre ++ rest) :
    b.htmlElement ∈ rest := by
  rw [htmlElement, hstack, List.getLast?_append_of_ne_nil _ hrest, List.getLast?_eq_some_getLast hrest]
  exact List.getLast_mem hrest

theorem head?_getD_htmlElement (l : List NodeId) :
    l.head?.getD b.htmlElement ∈ l ∨ l.head?.getD b.htmlElement = b.htmlElement := by
  cases l with
  | nil => exact .inr rfl
  | cons n l => exact .inl List.mem_cons_self

theorem fosterPlace_append (hpre : ∀ m ∈ pre, b.tree.Ordinary m) :
    b.fosterPlace (pre ++ rest) = b.fosterPlace rest := by
  induction pre with
  | nil => rfl
  | cons m pre ih =>
    obtain ⟨htable, htemplate⟩ := hpre m List.mem_cons_self
    rw [List.cons_append, fosterPlace, if_neg ((isHtml_iff (by decide)).not.2 htemplate),
      if_neg ((isHtml_iff (by decide)).not.2 htable)]
    exact ih fun m' hm' => hpre m' (List.mem_cons_of_mem m hm')

theorem fosterPlace_near (h : b.tree.Sound) :
    ∃ z, (z ∈ l ∨ z = b.htmlElement) ∧ b.tree.Near z ((b.fosterPlace l).parent b.tree) := by
  induction l with
  | nil => exact ⟨b.htmlElement, .inr rfl, .inl rfl⟩
  | cons n l ih =>
    rw [fosterPlace]
    split
    · next htemplate =>
      exact ⟨n, .inl List.mem_cons_self,
        h.near_templateContent ((isHtml_iff (by decide)).1 htemplate)⟩
    · split
      · rw [Place.parent]
        cases hp : b.tree.parent? n with
        | some p => exact ⟨n, .inl List.mem_cons_self, .inr (.inl hp)⟩
        | none =>
          refine ⟨_, ?_, .inl rfl⟩
          exact (head?_getD_htmlElement l).imp_left (List.mem_cons_of_mem n)
      · obtain ⟨z, hz, hnear⟩ := ih
        exact ⟨z, hz.imp_left (List.mem_cons_of_mem n), hnear⟩

theorem fosterPlace_admits (hl : n ∉ l) : (b.fosterPlace l).Admits b.tree n := by
  induction l with
  | nil => trivial
  | cons m l ih =>
    rw [List.mem_cons, not_or] at hl
    rw [fosterPlace]
    split
    · trivial
    · split
      · next htable => exact ⟨isElement_of_isHtml (by decide) htable, Ne.symm hl.1⟩
      · exact ih hl.2

theorem placeFor_near (h : b.tree.Sound) (target : NodeId) (hstack : b.stack = pre ++ rest)
    (hpre : ∀ m ∈ pre, b.tree.Ordinary m) :
    ∃ z, (z ∈ rest ∨ z = target ∨ z = b.htmlElement) ∧
      b.tree.Near z ((b.placeFor target).parent b.tree) := by
  rw [placeFor]
  split
  · rw [hstack, fosterPlace_append hpre]
    obtain ⟨z, hz, hnear⟩ := fosterPlace_near (l := rest) h
    exact ⟨z, hz.imp_right .inr, hnear⟩
  · split
    · next htemplate =>
      exact ⟨target, .inr (.inl rfl),
        h.near_templateContent ((isHtml_iff (by decide)).1 htemplate)⟩
    · exact ⟨target, .inr (.inl rfl), .inl rfl⟩

theorem placeFor_admits (hstack : b.stack = pre ++ rest) (hn : n ∉ rest)
    (hpre : ∀ m ∈ pre, b.tree.Ordinary m) :
    (b.placeFor target).Admits b.tree n := by
  rw [placeFor]
  split
  · rw [hstack, fosterPlace_append hpre]
    exact fosterPlace_admits hn
  · split <;> trivial

end Builder

end Gleaner.Markup
