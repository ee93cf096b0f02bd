import Gleaner.Markup.Construct.Formatting
import Gleaner.Proofs.Markup.Construct.Places

/-! What holds of the tree and the open elements all along. The stack names elements of the tree, and no
open element stands in one that was opened after it, although it need not stand in one that was opened
before it: misplaced elements are open inside a table and stand in front of it. -/
namespace Gleaner.Markup

/-- The tag can open an element again: the tags of tables and templates never do. -/
def Tag.Reopenable (t : Tag) : Prop := t.name ≠ "table" ∧ t.name ≠ "template"

def Formatting.Reopenable : Formatting → Prop
  | .marker => True
  | .element _ t => t.Reopenable

structure Nesting (t : Tree) (stack : List NodeId) (formatting : List Formatting)
    (head : Option NodeId) : Prop where
  sound : t.Sound
  isElement : ∀ n ∈ stack, t.isElement n
  nested : stack.Pairwise fun newer older => ¬ t.Within older newer
  reopenable : ∀ e ∈ formatting, e.Reopenable
  head_lt : ∀ n, head = some n → n < t.size

namespace Nesting

variable {t t' : Tree} {stack stack' : List NodeId} {formatting formatting' : List Formatting}
  {head : Option NodeId} {n c q : NodeId}

theorem lt_size (h : Nesting t stack formatting head) : ∀ m ∈ stack, m < t.size :=
  fun m hm => Tree.lt_size_of_isElement (h.isElement m hm)

theorem nodup (h : Nesting t stack formatting head) : stack.Nodup := by
  refine h.nested.imp fun {newer older} hw => ?_
  rintro rfl
  exact hw Tree.Within.refl

theorem sublist (h : Nesting t stack formatting head) (hs : stack'.Sublist stack) :
    Nesting t stack' formatting head :=
  { h with isElement := fun n hn => h.isElement n (hs.subset hn), nested := h.nested.sublist hs }

theorem withFormatting (h : Nesting t stack formatting head)
    (hf : ∀ e ∈ formatting', e.Reopenable) : Nesting t stack formatting' head :=
  { h with reopenable := hf }

/-- An element is opened among the others: it stands in none that is opened later, and none that was
opened before stands in it. -/
theorem insert {pre post : List NodeId} (h : Nesting t (pre ++ post) formatting head)
    (hn : t.isElement n) (hpre : ∀ m ∈ pre, ¬ t.Within n m) (hpost : ∀ m ∈ post, ¬ t.Within m n) :
    Nesting t (pre ++ n :: post) formatting head where
  sound := h.sound
  isElement m hm := by
    rcases List.mem_cons.1 (List.perm_middle.subset hm) with rfl | hm
    · exact hn
    · exact h.isElement m hm
  nested := by
    obtain ⟨hnpre, hnpost, hcross⟩ := List.pairwise_append.1 h.nested
    refine List.pairwise_append.2 ⟨hnpre, List.pairwise_cons.2 ⟨hpost, hnpost⟩, fun y hy x hx => ?_⟩
    rcases List.mem_cons.1 hx with rfl | hx
    · exact hpre y hy
    · exact hcross y hy x hx
  reopenable := h.reopenable
  head_lt := h.head_lt

theorem sameShape (h : Nesting t stack formatting head) (hs : Tree.SameShape t t') :
    Nesting t' stack formatting head where
  sound := h.sound.sameShape hs
  isElement n hn := by
    rw [Tree.isElement_eq, hs.name?, ← Tree.isElement_eq]
    exact h.isElement n hn
  nested := h.nested.imp fun hw hw' => hw (hs.within_iff.1 hw')
  reopenable := h.reopenable
  head_lt n hn := hs.size ▸ h.head_lt n hn

theorem detach (h : Nesting t stack formatting head) (hn : t.isElement n) :
    Nesting (t.detach n) stack formatting head where
  sound := h.sound.detach (h.sound.notFirst_of_isElement hn)
  isElement m hm := by
    rw [Tree.isElement_eq, Tree.name?_detach, ← Tree.isElement_eq]
    exact h.isElement m hm
  nested := h.nested.imp fun hw hw' => hw (Tree.within_of_detach hw')
  reopenable := h.reopenable
  head_lt m hm := by
    rw [Tree.size_detach]
    exact h.head_lt m hm

theorem grown (h : Nesting t stack formatting head) (hg : Tree.Grown t t') (hs : t'.Sound) :
    Nesting t' stack formatting head where
  sound := hs
  isElement n hn := by
    rw [Tree.isElement_eq, hg.name? n (h.lt_size n hn), ← Tree.isElement_eq]
    exact h.isElement n hn
  nested := h.nested.imp_of_mem fun _ hm hw hw' => hw (hg.within (h.lt_size _ hm) hw')
  reopenable := h.reopenable
  head_lt n hn := Nat.lt_trans (h.head_lt n hn) hg.size_lt

/-- Moving `c` into `q` is harmless if no two open elements come to stand in each other that way. -/
theorem moved (h : Nesting t stack formatting head) (hm : Tree.Moved t t' c q)
    (hq : ¬ t.Within q c) (hfirst : t.NotFirst c)
    (hout : stack.Pairwise fun newer older => ¬ (t.Within older c ∧ t.Within q newer)) :
    Nesting t' stack formatting head where
  sound := h.sound.moved hm hq hfirst
  isElement n hn := by
    rw [Tree.isElement_eq, hm.name?, ← Tree.isElement_eq]
    exact h.isElement n hn
  nested := (h.nested.and hout).imp fun hw hw' => (hm.within_cases hw').elim hw.1 hw.2
  reopenable := h.reopenable
  head_lt n hn := hm.size ▸ h.head_lt n hn

/-- A new node may be put wherever only old nodes are around it. -/
theorem moved_fresh (h : Nesting t stack formatting head) (hn : t.Fresh n)
    (hold : ∀ m ∈ stack, m < n) (hm : Tree.Moved t t' n q) (hq : q < n) :
    Nesting t' stack formatting head := by
  refine h.moved hm (hn.not_within hq) (h.sound.notFirst_of_loose hn.parent?) ?_
  refine List.pairwise_iff_forall_sublist.2 fun {newer older} hs hw => ?_
  exact hn.not_within (hold older (hs.subset (by simp))) hw.1

/-- A new element may then be opened. -/
theorem open_fresh (h : Nesting t stack formatting head) (hn : t.Fresh n)
    (hold : ∀ m ∈ stack, m < n) (hm : Tree.Moved t t' n q) (hq : q < n) (helem : t.isElement n) :
    Nesting t' (n :: stack) formatting head := by
  refine Nesting.insert (List.nil_append stack ▸ h.moved_fresh hn hold hm hq) ?_ (by simp)
    fun m hmem hw => ?_
  · rwa [Tree.isElement_eq, hm.name?, ← Tree.isElement_eq]
  · rcases hm.within_cases hw with hw | ⟨hw, -⟩ <;> exact hn.not_within (hold m hmem) hw

end Nesting

namespace Builder

/-- The invariant of the tree construction. -/
def Coherent (b : Builder) : Prop := Nesting b.tree b.stack b.formatting b.head

variable {b : Builder} {n target : NodeId} {stack : List NodeId}

theorem htmlElement_lt (hstack : ∀ m ∈ b.stack, m < n) (hn : 0 < n) : b.htmlElement < n := by
  rcases List.eq_nil_or_concat b.stack with h | ⟨l, m, h⟩
  · rw [htmlElement, h]
    exact hn
  · rw [htmlElement, h, List.concat_eq_append, List.getLast?_concat]
    exact hstack m (by simp [h])

theorem current_lt (hstack : ∀ m ∈ b.stack, m < n) (hn : 0 < n) : b.current < n := by
  rw [current]
  cases h : b.stack with
  | nil => exact hn
  | cons m l => exact hstack m (by simp [h])

theorem placeFor_lt (h : b.tree.Sound) (hn : b.tree.Apart n) (hstack : ∀ m ∈ b.stack, m < n)
    (htarget : target < n) : (b.placeFor target).parent b.tree < n := by
  obtain ⟨z, hz, hnear⟩ := placeFor_near h target (List.nil_append _).symm (by simp)
  refine hn.near_lt ?_ hnear
  rcases hz with hz | rfl | rfl
  · exact hstack z hz
  · exact htarget
  · exact htmlElement_lt hstack (Nat.zero_lt_of_lt htarget)

theorem placeFor_admits_fresh (hstack : ∀ m ∈ b.stack, m < n) :
    (b.placeFor target).Admits b.tree n :=
  placeFor_admits (List.nil_append _).symm (fun hn => Nat.lt_irrefl n (hstack n hn)) (by simp)

/-- A new node is put into an old one. -/
theorem insertNode_moved (h : b.tree.Sound) (hn : b.tree.Fresh n) (hstack : ∀ m ∈ b.stack, m < n)
    (htarget : target < n) : ∃ q < n, Tree.Moved b.tree (b.insertNode n target).tree n q := by
  have hlt := placeFor_lt h hn.apart hstack htarget
  exact ⟨_, hlt,
    h.moved_place hn.lt_size (Nat.lt_trans hlt hn.lt_size) (placeFor_admits_fresh hstack)⟩

theorem insertElement_eq (e : Element) :
    b.insertElement e = ((b.createElement e).1.insertNode b.tree.size b.current, b.tree.size) := by
  simp only [insertElement, createElement, Tree.createElement_snd]
  rfl

/-- The new element may be opened on top of any elements that are open, not only of those that mattered
for its place. -/
theorem insertElement_nesting (h : Nesting b.tree stack b.formatting b.head)
    (hstack : ∀ m ∈ b.stack, m < b.tree.size) (e : Element) :
    Nesting (b.insertElement e).1.tree (b.tree.size :: stack) b.formatting b.head := by
  have hg := h.sound.grown_createElement (e := e)
  have hcreated : Nesting (b.createElement e).1.tree stack b.formatting b.head :=
    h.grown hg h.sound.createElement
  obtain ⟨q, hq, hm⟩ := insertNode_moved (b := (b.createElement e).1) hcreated.sound hg.fresh hstack
    (current_lt hstack h.sound.size_pos)
  rw [insertElement_eq]
  exact hcreated.open_fresh hg.fresh h.lt_size hm hq Tree.isElement_createElement

namespace Coherent

variable (h : b.Coherent)

include h

theorem lt_size : ∀ m ∈ b.stack, m < b.tree.size := Nesting.lt_size h

theorem withStack (hs : stack.Sublist b.stack) : { b with stack := stack }.Coherent :=
  Nesting.sublist h hs

theorem withFormatting {formatting : List Formatting} (hf : ∀ e ∈ formatting, e.Reopenable) :
    { b with formatting := formatting }.Coherent :=
  Nesting.withFormatting h hf

@[simp]
theorem insertElement (e : Element) : (b.insertElement e).1.Coherent := by
  have hn := (insertElement_nesting h h.lt_size e).sublist (List.sublist_cons_self ..)
  rw [insertElement_eq] at hn ⊢
  exact hn

@[simp]
theorem openElement (e : Element) : (b.openElement e).1.Coherent := by
  have hn := insertElement_nesting h h.lt_size e
  rw [Builder.openElement, insertElement_eq]
  rw [insertElement_eq] at hn
  exact hn

theorem appendNode {content : Content} {p : NodeId}
    (hc : ({ content : Node }).name? ≠ some (.html, "template")) (hp : p < b.tree.size) :
    { b with tree := (b.tree.create content).1.append p b.tree.size }.Coherent := by
  have hg := h.sound.grown_create content
  have hcreated := Nesting.grown h hg (h.sound.create hc)
  have hm := hcreated.sound.moved_append hg.fresh.lt_size (Nat.lt_trans hp hg.size_lt)
  exact hcreated.moved_fresh hg.fresh h.lt_size hm hp

theorem appendComment {p : NodeId} (hp : p < b.tree.size) (text : String) :
    (b.appendComment p text).Coherent :=
  h.appendNode (by simp [Node.name?]) hp

@[simp]
theorem appendComment_root (text : String) : (b.appendComment Tree.root text).Coherent :=
  h.appendComment h.sound.size_pos text

@[simp]
theorem appendComment_htmlElement (text : String) :
    (b.appendComment b.htmlElement text).Coherent :=
  h.appendComment (htmlElement_lt h.lt_size h.sound.size_pos) text

@[simp]
theorem insertDoctype (d : Doctype) : (b.insertDoctype d).Coherent :=
  h.appendNode (by simp [Node.name?]) h.sound.size_pos

@[simp]
theorem insertComment (text : String) : (b.insertComment text).Coherent := by
  have hg := h.sound.grown_create (.comment text)
  have hcreated := Nesting.grown h hg (h.sound.create (by simp [Node.name?]))
  obtain ⟨q, hq, hm⟩ := insertNode_moved (b := (b.createNode (.comment text)).1) hcreated.sound
    hg.fresh h.lt_size (current_lt h.lt_size h.sound.size_pos)
  exact hcreated.moved_fresh hg.fresh h.lt_size hm hq

theorem withSameShape {t : Tree} (hs : Tree.SameShape b.tree t) : { b with tree := t }.Coherent :=
  Nesting.sameShape h hs

@[simp]
theorem insertChar (c : Char) : (b.insertChar c).Coherent := by
  rw [Builder.insertChar]
  rcases b.tree.placeChar_cases c (b.placeFor b.current) with ⟨n, heq⟩ | heq
  · simp only [heq]
    exact h.withSameShape (Tree.sameShape_pushChar c)
  · simp only [heq]
    -- The place was found before the text was made, which makes no difference to it.
    have hg := h.sound.grown_create (.text c.toString)
    have hcreated := Nesting.grown h hg (h.sound.create (by simp [Node.name?]))
    have hcurrent := current_lt h.lt_size h.sound.size_pos
    have hparent : (b.placeFor b.current).parent (b.tree.create (.text c.toString)).1 =
        (b.placeFor b.current).parent b.tree := by
      cases b.placeFor b.current <;> simp [Place.parent]
    have hlt : (b.placeFor b.current).parent b.tree < b.tree.size :=
      placeFor_lt h.sound h.sound.apart_size h.lt_size hcurrent
    have hadm : (b.placeFor b.current).Admits (b.tree.create (.text c.toString)).1 b.tree.size :=
      (placeFor_admits_fresh h.lt_size).grown hg
    rw [← hparent] at hlt
    have hm := hcreated.sound.moved_place hg.fresh.lt_size (Nat.lt_trans hlt hg.size_lt) hadm
    exact hcreated.moved_fresh hg.fresh h.lt_size hm hlt

@[simp]
theorem startRoot (t : Tag) : (b.startRoot t).Coherent := by
  have hg := h.sound.grown_createElement (e := t.element)
  have hcreated := Nesting.grown h hg h.sound.createElement
  have hm := hcreated.sound.moved_append (q := Tree.root) hg.fresh.lt_size hcreated.sound.size_pos
  have hopen := hcreated.open_fresh hg.fresh h.lt_size hm h.sound.size_pos
    Tree.isElement_createElement
  simp only [Builder.startRoot, Builder.createElement, Tree.createElement_snd]
  exact hopen

end Coherent

/-! The operations that the rules are made of keep the invariant. -/

section Operations

variable {m : Mode} {t : Tag} {name : String} {names : List String} {p : NodeId → Bool}

@[simp]
theorem coherent_done : b.done.1.Coherent ↔ b.Coherent := Iff.rfl

@[simp]
theorem coherent_again : (b.again m).1.Coherent ↔ b.Coherent := Iff.rfl

@[simp]
theorem coherent_inMode : (b.inMode m).Coherent ↔ b.Coherent := Iff.rfl

@[simp]
theorem coherent_notFramesetOk : b.notFramesetOk.Coherent ↔ b.Coherent := Iff.rfl

@[simp]
theorem coherent_mk {tree : Tree} {formatting : List Formatting} {head form : Option NodeId}
    {returnMode : Mode} {templateModes : List Mode} {framesetOk skipLineFeed fosterParenting : Bool}
    {tableText : List Char} {documentMode : DocumentMode} {lexerRequest : Option LexState} :
    Coherent ⟨tree, m, returnMode, templateModes, stack, formatting, head, form, framesetOk,
      skipLineFeed, fosterParenting, tableText, documentMode, lexerRequest⟩ ↔
      Nesting tree stack formatting head := Iff.rfl

@[simp]
theorem nesting_iff_coherent : Nesting b.tree b.stack b.formatting b.head ↔ b.Coherent := Iff.rfl

@[simp]
theorem Coherent.ite {c : Prop} [Decidable c] {x y : Builder} (hx : x.Coherent) (hy : y.Coherent) :
    (if c then x else y).Coherent := by
  split
  · exact hx
  · exact hy

/-- A rule with two cases keeps the invariant if it does in both. -/
theorem coherent_ite {c : Prop} [Decidable c] {x y : Outcome} (hx : c → x.1.Coherent)
    (hy : ¬ c → y.1.Coherent) : (if c then x else y).1.Coherent := by
  split
  · exact hx ‹_›
  · exact hy ‹_›

variable (h : b.Coherent)

include h

@[simp]
theorem Coherent.pop : b.pop.Coherent := h.withStack (List.tail_sublist _)

@[simp]
theorem Coherent.popThrough : (b.popThrough p).Coherent :=
  h.withStack ((List.tail_sublist _).trans (List.dropWhile_sublist _))

@[simp]
theorem Coherent.popThroughName : (b.popThroughName name).Coherent := h.popThrough

@[simp]
theorem Coherent.popUntil : (b.popUntil p).Coherent := h.withStack (List.dropWhile_sublist _)

@[simp]
theorem Coherent.popUntilIn : (b.popUntilIn names).Coherent := h.popUntil

@[simp]
theorem Coherent.closeImplied : (b.closeImplied names).Coherent := h.popUntil

@[simp]
theorem Coherent.closeImpliedExcept : (b.closeImpliedExcept name).Coherent := h.closeImplied

@[simp]
theorem Coherent.removeFromStack : (b.removeFromStack n).Coherent :=
  h.withStack (List.erase_sublist ..)

@[simp]
theorem Coherent.closeParagraph : b.closeParagraph.Coherent :=
  h.closeImpliedExcept.popThroughName

@[simp]
theorem Coherent.closeParagraphInScope : b.closeParagraphInScope.Coherent := by
  unfold Builder.closeParagraphInScope
  split
  · exact h.closeParagraph
  · exact h

@[simp]
theorem Coherent.clearToMarker : b.clearToMarker.Coherent :=
  h.withFormatting fun e he => h.reopenable e
    (((List.tail_sublist _).trans (List.dropWhile_sublist _)).subset he)

@[simp]
theorem Coherent.pushMarker : b.pushMarker.Coherent :=
  h.withFormatting (List.forall_mem_cons.2 ⟨trivial, h.reopenable⟩)

@[simp]
theorem Coherent.start : (b.start t).Coherent := h.openElement _

@[simp]
theorem Coherent.startVoid : (b.startVoid t).Coherent := h.insertElement _

@[simp]
theorem Coherent.startImplied : (b.startImplied name).Coherent := h.openElement _

@[simp]
theorem Coherent.startRaw {s : LexState} : (b.startRaw t s).Coherent := h.start (t := t)

@[simp]
theorem Coherent.mergeAttributes : (b.mergeAttributes n t).Coherent :=
  h.withSameShape (Tree.sameShape_addMissing _)

end Operations

end Builder

end Gleaner.Markup
