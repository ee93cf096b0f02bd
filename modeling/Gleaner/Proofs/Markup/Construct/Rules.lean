import Gleaner.Markup.Construct.Dispatch
import Gleaner.Proofs.Markup.Construct.Adoption
import Mathlib.Tactic.SplitIfs

/-! Every rule of the tree construction keeps the invariant. -/
namespace Gleaner.Markup.Builder

variable {b : Builder} {t : Tag} {tok : Token}

/-! The root element, the head and what may stand in it. -/

@[simp]
theorem Coherent.mergeRoot (h : b.Coherent) : (b.mergeRoot t).Coherent := by
  unfold Builder.mergeRoot
  split_ifs <;> simp [h]

@[simp]
theorem Coherent.startTemplate (h : b.Coherent) : (b.startTemplate t).Coherent := by
  simp [Builder.startTemplate, h]

@[simp]
theorem Coherent.leaveTemplate (h : b.Coherent) : b.leaveTemplate.Coherent := by
  simp [Builder.leaveTemplate, h]

@[simp]
theorem Coherent.endTemplate (h : b.Coherent) : b.endTemplate.Coherent := by
  unfold Builder.endTemplate
  split_ifs <;> simp [h]

@[simp]
theorem Coherent.templateEof (h : b.Coherent) : b.templateEof.1.Coherent := by
  unfold Builder.templateEof
  split_ifs <;> simp [h]

@[simp]
theorem Coherent.headStart (h : b.Coherent) : (b.headStart t).1.Coherent := by
  unfold Builder.headStart
  dsimp only
  split_ifs <;> simp [h]

@[simp]
theorem Coherent.headEnd (h : b.Coherent) : (b.headEnd t).1.Coherent := by
  unfold Builder.headEnd
  dsimp only
  split_ifs <;> simp [h]

@[simp]
theorem Coherent.onInitial (h : b.Coherent) : (b.onInitial tok).1.Coherent := by
  unfold Builder.onInitial
  repeat' split
  all_goals simp [h]

@[simp]
theorem Coherent.onBeforeHtml (h : b.Coherent) : (b.onBeforeHtml tok).1.Coherent := by
  unfold Builder.onBeforeHtml
  repeat' split
  all_goals simp [h]

/-- The element that is kept as the head is one of the tree. -/
@[simp]
theorem Coherent.startHead (h : b.Coherent) : (b.startHead t).Coherent := by
  have hopen := h.openElement t.element
  have hlt : (b.openElement t.element).2 < (b.openElement t.element).1.tree.size :=
    hopen.lt_size _ List.mem_cons_self
  exact { hopen with head_lt := fun n hn => Option.some.inj hn ▸ hlt }

@[simp]
theorem Coherent.onBeforeHead (h : b.Coherent) : (b.onBeforeHead tok).1.Coherent := by
  unfold Builder.onBeforeHead
  repeat' split
  all_goals simp [h]

@[simp]
theorem Coherent.onHead (h : b.Coherent) : (b.onHead tok).1.Coherent := by
  unfold Builder.onHead
  repeat' split
  all_goals simp [h]

/-! Head content that comes late is put into the head, which is only on the stack for that. -/

section Under

variable {x : NodeId}

theorem Coherent.start_under (h : b.Coherent) (hx : x < b.tree.size) :
    (({ b with stack := x :: b.stack }.start t).removeFromStack x).Coherent := by
  have hopen := insertElement_nesting (b := { b with stack := x :: b.stack }) h
    (List.forall_mem_cons.2 ⟨hx, h.lt_size⟩) t.element
  have herase : (b.tree.size :: x :: b.stack).erase x = b.tree.size :: b.stack := by
    rw [List.erase_cons_tail (by simpa using (Nat.ne_of_lt hx).symm), List.erase_cons_head]
  rw [← herase] at hopen
  simp only [Builder.start, Builder.openElement, insertElement_eq] at hopen ⊢
  exact hopen

theorem Coherent.startVoid_under (h : b.Coherent) (hx : x < b.tree.size) :
    (({ b with stack := x :: b.stack }.startVoid t).removeFromStack x).Coherent := by
  have hopen := insertElement_nesting (b := { b with stack := x :: b.stack }) h
    (List.forall_mem_cons.2 ⟨hx, h.lt_size⟩) t.element
  have hclosed : Nesting ({ b with stack := x :: b.stack }.insertElement t.element).1.tree
      ((x :: b.stack).erase x) b.formatting b.head := by
    rw [List.erase_cons_head]
    exact hopen.sublist (List.sublist_cons_self ..)
  simp only [Builder.startVoid, insertElement_eq] at hclosed ⊢
  exact hclosed

theorem Coherent.headStart_under (h : b.Coherent) (hx : x < b.tree.size)
    (ht : Names.headContent.contains t.name) :
    (({ b with stack := x :: b.stack }.headStart t).1.removeFromStack x).Coherent := by
  have hstart := h.start_under (t := t) hx
  have htemplate := Coherent.start_under (b := b.pushMarker.notFramesetOk) (t := t)
    (by simp [h]) hx
  unfold Builder.headStart
  dsimp only
  split_ifs with hhtml hvoid htitle hraw hscript htempl hhead
  · simp [hhtml, Names.headContent] at ht
  · exact h.startVoid_under hx
  · exact hstart
  · exact hstart
  · exact hstart
  · exact htemplate
  · simp [hhead, Names.headContent] at ht
  · simp_all [Names.headContent]

end Under

@[simp]
theorem Coherent.lateHeadStart (h : b.Coherent) (ht : Names.headContent.contains t.name) :
    (b.lateHeadStart t).1.Coherent := by
  refine h.headStart_under ?_ ht
  cases hhead : b.head with
  | none => exact htmlElement_lt h.lt_size h.sound.size_pos
  | some n => exact h.head_lt n hhead

@[simp]
theorem Coherent.afterHeadStart (h : b.Coherent) : (b.afterHeadStart t).1.Coherent := by
  unfold Builder.afterHeadStart
  dsimp only
  split_ifs <;> simp_all

@[simp]
theorem Coherent.onAfterHead (h : b.Coherent) : (b.onAfterHead tok).1.Coherent := by
  unfold Builder.onAfterHead
  repeat' split
  all_goals simp [h]

/-! The body. -/

@[simp]
theorem Coherent.mergeBody (h : b.Coherent) : (b.mergeBody t).Coherent := by
  unfold Builder.mergeBody
  repeat' split
  all_goals simp [h]

theorem isElement_of_bodyElement? {n : NodeId} (hn : b.bodyElement? = some n) :
    b.tree.isElement n := by
  unfold bodyElement? at hn
  split at hn
  · split at hn
    · next hbody =>
      obtain rfl := Option.some.inj hn
      exact isElement_of_isHtml (by decide) hbody
    · cases hn
  · cases hn

@[simp]
theorem Coherent.replaceBody (h : b.Coherent) : (b.replaceBody t).Coherent := by
  unfold Builder.replaceBody
  split
  · next n hok hbody =>
    have hroot : [b.htmlElement].Sublist b.stack := by
      have hne : b.stack ≠ [] := by
        intro hnil
        rw [bodyElement?, hnil] at hbody
        cases hbody
      exact List.singleton_sublist.2 (htmlElement_mem hne (List.nil_append _).symm)
    have hdetached := (Nesting.detach h (isElement_of_bodyElement? hbody)).sublist hroot
    exact Coherent.start hdetached
  · exact h

@[simp]
theorem Coherent.startItem (h : b.Coherent) : (b.startItem t).Coherent := by
  have h' : b.notFramesetOk.Coherent := h
  unfold Builder.startItem
  dsimp only
  split
  · exact h'.closeImpliedExcept.popThroughName.closeParagraphInScope.start
  · exact h'.closeParagraphInScope.start

@[simp]
theorem Coherent.startForm (h : b.Coherent) : (b.startForm t).Coherent := by
  unfold Builder.startForm
  dsimp only
  have hopen := h.closeParagraphInScope.openElement t.element
  split_ifs
  · exact h
  · exact hopen
  · exact hopen

@[simp]
theorem Coherent.endForm (h : b.Coherent) : b.endForm.Coherent := by
  unfold Builder.endForm
  split_ifs
  · exact h.closeImplied.popThroughName
  · exact h
  · split
    · exact h
    · next n hform =>
      have h' : { b with form := none }.Coherent := h
      dsimp only
      split_ifs
      · exact h'.closeImplied.removeFromStack
      · exact h'

@[simp]
theorem Coherent.startHeading (h : b.Coherent) : (b.startHeading t).Coherent := by
  unfold Builder.startHeading
  dsimp only
  split_ifs
  · exact h.closeParagraphInScope.pop.start
  · exact h.closeParagraphInScope.start

@[simp]
theorem Coherent.startButton (h : b.Coherent) : (b.startButton t).Coherent := by
  unfold Builder.startButton
  dsimp only
  split_ifs
  · exact h.closeImplied.popThroughName.reconstruct.start
  · exact h.reconstruct.start

@[simp]
theorem Coherent.startNobr (h : b.Coherent) (ht : t.Reopenable) : (b.startNobr t).Coherent := by
  unfold Builder.startNobr
  dsimp only
  split_ifs
  · exact (h.reconstruct.closeFormatting "nobr").reconstruct.startFormatting ht
  · exact h.reconstruct.startFormatting ht

@[simp]
theorem Coherent.startSelect (h : b.Coherent) : (b.startSelect t).Coherent :=
  h.reconstruct.start

@[simp]
theorem Coherent.startOption (h : b.Coherent) : (b.startOption t).Coherent := by
  unfold Builder.startOption
  split_ifs
  · exact h.pop.reconstruct.start
  · exact h.reconstruct.start

@[simp]
theorem Coherent.startRuby (h : b.Coherent) {inside : List String} :
    (b.startRuby t inside).Coherent := by
  unfold Builder.startRuby
  split_ifs <;> simp [h]

@[simp]
theorem Coherent.startForeign (h : b.Coherent) {e : Element} : (b.startForeign t e).Coherent := by
  unfold Builder.startForeign
  split_ifs <;> simp [h]

@[simp]
theorem Coherent.startBodyVoid (h : b.Coherent) : (b.startBodyVoid t).Coherent := by
  unfold Builder.startBodyVoid
  dsimp only
  split_ifs <;> simp [h]

@[simp]
theorem Coherent.bodyStart (h : b.Coherent) : (b.bodyStart t).1.Coherent := by
  unfold Builder.bodyStart
  dsimp only
  have hclosed := h.closeParagraphInScope
  have hopened := h.reconstruct
  have hlink : t.name = "a" → t.Reopenable := fun hname => by simp [Tag.Reopenable, hname]
  have hformatting : Names.formatting.contains t.name → t.Reopenable := fun hname =>
    Tag.reopenable_of_contains hname (by decide) (by decide)
  have hnobr : t.name = "nobr" → t.Reopenable := fun hname => by simp [Tag.Reopenable, hname]
  repeat' with_reducible refine coherent_ite (fun _ => ?_) fun _ => ?_
  all_goals try simp [h, hclosed, hopened]
  · exact h.closeOuterLink.reconstruct.startFormatting (hlink ‹_›)
  · exact h.reconstruct.startFormatting (hformatting ‹_›)
  · exact h.startNobr (hnobr ‹_›)

@[simp]
theorem Coherent.endParagraph (h : b.Coherent) : b.endParagraph.Coherent := by
  unfold Builder.endParagraph
  split_ifs
  · exact h.closeParagraph
  · exact h.startImplied.closeParagraph

@[simp]
theorem Coherent.endItem (h : b.Coherent) {scope : Scope} {name : String} :
    (b.endItem scope name).Coherent := by
  unfold Builder.endItem
  split_ifs <;> simp [h]

@[simp]
theorem Coherent.endBlock (h : b.Coherent) {name : String} : (b.endBlock name).Coherent := by
  unfold Builder.endBlock
  split_ifs <;> simp [h]

@[simp]
theorem Coherent.endHeading (h : b.Coherent) : b.endHeading.Coherent := by
  unfold Builder.endHeading
  split_ifs <;> simp [h]

@[simp]
theorem Coherent.bodyEnd (h : b.Coherent) : (b.bodyEnd t).1.Coherent := by
  unfold Builder.bodyEnd
  dsimp only
  have hended : (b.endBlock t.name).Coherent := h.endBlock
  repeat' with_reducible refine coherent_ite (fun _ => ?_) fun _ => ?_
  all_goals simp [h, hended]

@[simp]
theorem Coherent.bodyChar (h : b.Coherent) {c : Char} : (b.bodyChar c).Coherent := by
  unfold Builder.bodyChar
  dsimp only
  have hopened := h.reconstruct
  split_ifs <;> simp [h, hopened]

@[simp]
theorem Coherent.onBody (h : b.Coherent) : (b.onBody tok).1.Coherent := by
  unfold Builder.onBody
  repeat' split
  all_goals simp [h]

@[simp]
theorem Coherent.onText (h : b.Coherent) : (b.onText tok).1.Coherent := by
  cases tok with
  | char c => exact h.insertChar c
  | endTag _ => exact h.pop
  | eof => exact h.pop
  | startTag _ | comment _ | doctype _ | nameless => exact h

/-! Tables. -/

@[simp]
theorem Coherent.fosterInBody (h : b.Coherent) : (b.fosterInBody tok).1.Coherent :=
  Coherent.onBody (b := { b with fosterParenting := true }) h

@[simp]
theorem Coherent.tableChar (h : b.Coherent) {c : Char} : (b.tableChar c).1.Coherent := by
  unfold Builder.tableChar
  split_ifs <;> simp [h]

@[simp]
theorem Coherent.tableStart (h : b.Coherent) : (b.tableStart t).1.Coherent := by
  unfold Builder.tableStart
  dsimp only
  have hcleared : (b.popUntilIn tableContext).Coherent := h.popUntilIn
  repeat' with_reducible refine coherent_ite (fun _ => ?_) fun _ => ?_
  all_goals simp [h, hcleared]

@[simp]
theorem Coherent.tableEnd (h : b.Coherent) : (b.tableEnd t).1.Coherent := by
  unfold Builder.tableEnd
  dsimp only
  split_ifs <;> simp [h]

@[simp]
theorem Coherent.onTable (h : b.Coherent) : (b.onTable tok).1.Coherent := by
  unfold Builder.onTable
  split <;> simp [h]

theorem Coherent.foldl {α : Type} {f : Builder → α → Builder}
    (hf : ∀ {b : Builder} {x : α}, b.Coherent → (f b x).Coherent) (l : List α) (h : b.Coherent) :
    (l.foldl f b).Coherent := by
  induction l generalizing b with
  | nil => exact h
  | cons x l ih => exact ih (hf h)

@[simp]
theorem Coherent.flushTableText (h : b.Coherent) : b.flushTableText.Coherent := by
  have h' : { b with tableText := [] }.Coherent := h
  unfold Builder.flushTableText
  dsimp only
  split_ifs
  · exact h'.foldl (fun hb => hb.insertChar _) _
  · exact h'.foldl (fun hb => hb.fosterInBody) _

@[simp]
theorem Coherent.onTableText (h : b.Coherent) : (b.onTableText tok).1.Coherent := by
  unfold Builder.onTableText
  repeat' split
  all_goals simp [h]

@[simp]
theorem Coherent.leaveCaption (h : b.Coherent) : b.leaveCaption.Coherent :=
  h.closeImplied.popThroughName.clearToMarker

@[simp]
theorem Coherent.onCaption (h : b.Coherent) : (b.onCaption tok).1.Coherent := by
  unfold Builder.onCaption
  repeat' split
  all_goals simp [h]

@[simp]
theorem Coherent.leaveColumnGroup (h : b.Coherent) : b.leaveColumnGroup.1.Coherent := by
  unfold Builder.leaveColumnGroup
  split_ifs <;> simp [h]

@[simp]
theorem Coherent.onColumnGroup (h : b.Coherent) : (b.onColumnGroup tok).1.Coherent := by
  unfold Builder.onColumnGroup
  repeat' split
  all_goals simp [h]

@[simp]
theorem Coherent.leaveSection (h : b.Coherent) : b.leaveSection.Coherent := h.popUntilIn.pop

@[simp]
theorem Coherent.sectionOutcome (h : b.Coherent) : b.sectionOutcome.1.Coherent := by
  unfold Builder.sectionOutcome
  split_ifs <;> simp [h]

@[simp]
theorem Coherent.onTableBody (h : b.Coherent) : (b.onTableBody tok).1.Coherent := by
  unfold Builder.onTableBody
  dsimp only
  repeat' split
  all_goals simp [h]

@[simp]
theorem Coherent.leaveRow (h : b.Coherent) : b.leaveRow.Coherent := h.popUntilIn.pop

@[simp]
theorem Coherent.rowOutcome (h : b.Coherent) : b.rowOutcome.1.Coherent := by
  unfold Builder.rowOutcome
  split_ifs <;> simp [h]

@[simp]
theorem Coherent.onRow (h : b.Coherent) : (b.onRow tok).1.Coherent := by
  unfold Builder.onRow
  dsimp only
  have hcleared : (b.popUntilIn rowContext).Coherent := h.popUntilIn
  repeat' split
  all_goals simp [h, hcleared]

@[simp]
theorem Coherent.closeCell (h : b.Coherent) : b.closeCell.Coherent :=
  h.closeImplied.popThrough.clearToMarker

@[simp]
theorem Coherent.onCell (h : b.Coherent) : (b.onCell tok).1.Coherent := by
  unfold Builder.onCell
  dsimp only
  have himplied : (b.closeImplied Names.impliedEnd).Coherent := h.closeImplied
  repeat' split
  all_goals simp [h, himplied]

/-! Selections, templates, frame sets and what follows the body. -/

@[simp]
theorem Coherent.popIf (h : b.Coherent) {name : String} : (b.popIf name).Coherent := by
  unfold Builder.popIf
  split_ifs <;> simp [h]

@[simp]
theorem Coherent.leaveSelect (h : b.Coherent) : b.leaveSelect.Coherent := by
  simp [Builder.leaveSelect, h]

@[simp]
theorem Coherent.endOptionGroup (h : b.Coherent) : b.endOptionGroup.Coherent := by
  unfold Builder.endOptionGroup
  dsimp only
  repeat' split
  all_goals simp [h]

@[simp]
theorem Coherent.selectStart (h : b.Coherent) : (b.selectStart t).1.Coherent := by
  unfold Builder.selectStart
  dsimp only
  have hoption : (b.popIf "option").Coherent := h.popIf
  split_ifs <;> simp [h, hoption]

@[simp]
theorem Coherent.selectEnd (h : b.Coherent) : (b.selectEnd t).1.Coherent := by
  unfold Builder.selectEnd
  dsimp only
  split_ifs <;> simp [h]

@[simp]
theorem Coherent.onSelect (h : b.Coherent) : (b.onSelect tok).1.Coherent := by
  unfold Builder.onSelect
  repeat' split
  all_goals simp [h]

@[simp]
theorem Coherent.onSelectInTable (h : b.Coherent) : (b.onSelectInTable tok).1.Coherent := by
  unfold Builder.onSelectInTable
  dsimp only
  repeat' split
  all_goals simp [h]

@[simp]
theorem Coherent.templateIn (h : b.Coherent) {m : Mode} : (b.templateIn m).1.Coherent := h

@[simp]
theorem Coherent.onTemplate (h : b.Coherent) : (b.onTemplate tok).1.Coherent := by
  unfold Builder.onTemplate
  dsimp only
  repeat' split
  all_goals simp [h]

@[simp]
theorem Coherent.onAfterBody (h : b.Coherent) : (b.onAfterBody tok).1.Coherent := by
  unfold Builder.onAfterBody
  repeat' split
  all_goals simp [h]

@[simp]
theorem Coherent.onAfterAfterBody (h : b.Coherent) : (b.onAfterAfterBody tok).1.Coherent := by
  unfold Builder.onAfterAfterBody
  repeat' split
  all_goals simp [h]

@[simp]
theorem Coherent.onFrameset (h : b.Coherent) : (b.onFrameset tok).1.Coherent := by
  unfold Builder.onFrameset
  dsimp only
  repeat' split
  all_goals simp [h]

@[simp]
theorem Coherent.onAfterFrameset (h : b.Coherent) : (b.onAfterFrameset tok).1.Coherent := by
  unfold Builder.onAfterFrameset
  repeat' split
  all_goals simp [h]

@[simp]
theorem Coherent.onAfterAfterFrameset (h : b.Coherent) :
    (b.onAfterAfterFrameset tok).1.Coherent := by
  unfold Builder.onAfterAfterFrameset
  repeat' split
  all_goals simp [h]

/-! Foreign content, and the rules as a whole. -/

@[simp]
theorem Coherent.inModeRules (h : b.Coherent) : (b.inModeRules tok).1.Coherent := by
  unfold Builder.inModeRules
  split <;> simp [h]

@[simp]
theorem Coherent.breakOut (h : b.Coherent) : (b.breakOut tok).1.Coherent :=
  h.popUntil.inModeRules

@[simp]
theorem Coherent.foreignStart (h : b.Coherent) : (b.foreignStart t).Coherent := h.startForeign

theorem Coherent.foreignEnd (h : b.Coherent) {l : List NodeId} (hl : l.Sublist b.stack)
    (first : Bool) : (b.foreignEnd t first l).1.Coherent := by
  induction l generalizing first with
  | nil => exact h
  | cons n l ih =>
    have hrest : l.Sublist b.stack := (List.sublist_cons_self n l).trans hl
    cases l with
    | nil => exact h
    | cons m l =>
      unfold Builder.foreignEnd
      dsimp only
      split_ifs
      · exact h.inModeRules
      · exact h.withStack hrest
      · exact ih hrest false

@[simp]
theorem Coherent.onForeign (h : b.Coherent) : (b.onForeign tok).1.Coherent := by
  unfold Builder.onForeign
  repeat' split
  all_goals try simp [h]
  exact h.foreignEnd (List.Sublist.refl _) true

theorem Coherent.rules (h : b.Coherent) : (b.rules tok).1.Coherent := by
  unfold Builder.rules
  split_ifs <;> simp [h]

theorem Coherent.settle (h : b.Coherent) (fuel : Nat) : (settle fuel b tok).Coherent := by
  induction fuel generalizing b with
  | zero => exact h
  | succ fuel ih =>
    have hrules : (b.rules tok).1.Coherent := h.rules
    rw [Builder.settle]
    split
    · next b' heq =>
      rw [heq] at hrules
      exact hrules
    · next b' heq =>
      rw [heq] at hrules
      exact ih hrules

theorem Coherent.take (h : b.Coherent) : (b.take tok).Coherent := by
  have h' : { b with skipLineFeed := false }.Coherent := h
  unfold Builder.take
  dsimp only
  repeat' split
  all_goals first | exact h' | exact h'.settle _

end Gleaner.Markup.Builder
