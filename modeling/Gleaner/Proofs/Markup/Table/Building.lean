import Gleaner.Proofs.Markup.Table.Layout
import Gleaner.Markup.Construct.Dispatch

/-! The tree construction inside a plain table: what the tags of rows and cells and the text of a cell append
to the tree. Each step only looks at the current element, so the open elements around it are left open
in the statements. -/
namespace Gleaner.Markup

open Growth

/-- The nodes can be made in this order, and the node `n` among them is an element of that name. -/
structure Growth.Holds (l : List Growth) (n : Nat) (name : String) : Prop where
  rooted : Rooted 1 l
  entry : ∃ i q, n = i + 1 ∧ l[i]? = some (element name q)

namespace Growth.Holds

variable {l l' : List Growth} {n p : Nat} {name : String}

theorem le_length (h : Holds l n name) : n ≤ l.length := by
  obtain ⟨i, q, rfl, hg⟩ := h.entry
  exact (List.getElem?_eq_some_iff.1 hg).1

theorem append (h : Holds l n name) (hrooted : Rooted (l.length + 1) l') : Holds (l ++ l') n name := by
  obtain ⟨i, q, rfl, hg⟩ := h.entry
  have hi : i < l.length := (List.getElem?_eq_some_iff.1 hg).1
  exact ⟨rooted_append.2 ⟨h.rooted, by rwa [Nat.add_comm]⟩, i, q, rfl,
    by rwa [List.getElem?_append_left hi]⟩

/-- A new element is in its place, whatever comes after it. -/
theorem last (h : Rooted 1 l) (hrest : Rooted (l.length + 1) (element name p :: l')) :
    Holds (l ++ element name p :: l') (l.length + 1) name :=
  ⟨rooted_append.2 ⟨h, by rwa [Nat.add_comm]⟩, l.length, p, rfl, by simp⟩

end Growth.Holds

namespace Builder

/-! Steps that end at the current element. -/

section Current

variable {b b' : Builder} {n : NodeId} {rest : List NodeId} {t : Token} {fuel : Nat}

theorem rules_of_html (h : (b.nameOf b.current).1 = .html) : b.rules t = b.inModeRules t := by
  have hforeign : b.isForeign t = false := by
    simp only [isForeign, h]
    simp
  rw [rules, hforeign, if_neg (by decide)]

theorem settle_of_done (h : b.rules t = (b', .done)) : settle (fuel + 1) b t = b' := by
  rw [settle, h]

theorem settle_of_again (h : b.rules t = (b', .again)) : settle (fuel + 1) b t = settle fuel b' t := by
  rw [settle, h]

theorem popUntil_of_head {f : NodeId → Bool} (hstack : b.stack = n :: rest) (hn : f n) :
    b.popUntil f = b := by
  have hdrop : b.stack.dropWhile (!f ·) = b.stack := by
    rw [hstack, List.dropWhile_cons_of_neg (by simp [hn])]
  rw [popUntil, hdrop]

theorem popThrough_of_head {f : NodeId → Bool} (hstack : b.stack = n :: rest) (hn : f n) :
    b.popThrough f = { b with stack := rest } := by
  rw [popThrough, hstack, List.dropWhile_cons_of_neg (by simp [hn])]
  rfl

theorem inScopeBy_of_head {scope : Scope} {f : NodeId → Bool} (hstack : b.stack = n :: rest) (hn : f n) :
    b.inScopeBy scope f = true := by
  rw [inScopeBy, hstack, searchScope, if_pos hn]

end Current

/-- The state in which a table is read, with the nodes made so far. -/
def building (l : List Growth) (mode : Mode) (stack : List NodeId)
    (formatting : List Formatting := []) : Builder where
  tree := .ofGrowth l
  mode := mode
  stack := stack
  formatting := formatting
  head := some 2
  framesetOk := false
  documentMode := .legacy

variable {l : List Growth} {mode : Mode} {stack rest : List NodeId} {formatting : List Formatting}
  {n : NodeId} {name other : String} {names : List String} {t : Token} {b' : Builder}

@[simp]
theorem mode_building : (building l mode stack formatting).mode = mode := rfl

section Holding

variable (h : Holds l n name)

include h

theorem nameOf_building : (building l mode stack formatting).nameOf n = (.html, name) := by
  obtain ⟨i, q, rfl, hg⟩ := h.entry
  rw [nameOf, building, Tree.element?, Tree.node?_ofGrowth h.rooted hg]
  rfl

theorem isHtml_building : (building l mode stack formatting).isHtml n other = (name == other) := by
  rw [isHtml, nameOf_building h]
  rfl

theorem isHtmlIn_building :
    (building l mode stack formatting).isHtmlIn n names = names.contains name := by
  rw [isHtmlIn, nameOf_building h]
  rfl

theorem rules_building : (building l mode (n :: rest) formatting).rules t =
    (building l mode (n :: rest) formatting).inModeRules t :=
  rules_of_html (congrArg Prod.fst (nameOf_building h))

theorem popUntilIn_building (hin : names.contains name) :
    (building l mode (n :: rest) formatting).popUntilIn names =
      building l mode (n :: rest) formatting :=
  popUntil_of_head rfl (by rw [isHtmlIn_building h, hin])

theorem closeImplied_building (hin : names.contains name = false) :
    (building l mode (n :: rest) formatting).closeImplied names =
      building l mode (n :: rest) formatting :=
  popUntil_of_head rfl (by rw [isHtmlIn_building h, hin]; rfl)

theorem popThroughName_building :
    (building l mode (n :: rest) formatting).popThroughName name = building l mode rest formatting :=
  popThrough_of_head rfl (by rw [isHtml_building h, beq_self_eq_true])

theorem inScope_building {scope : Scope} :
    (building l mode (n :: rest) formatting).inScope scope name = true :=
  inScopeBy_of_head rfl (by rw [isHtml_building h, beq_self_eq_true])

/-- A token that the rules of the mode are done with at once. -/
theorem take_of_done (hdoctype : ∀ d, t ≠ .doctype d) (hname : t ≠ .nameless)
    (hrules : (building l mode (n :: rest) formatting).inModeRules t = b'.done) :
    (building l mode (n :: rest) formatting).take t = b' := by
  have hrules' : (building l mode (n :: rest) formatting).rules t = (b', .done) :=
    (rules_building h).trans hrules
  cases t with
  | doctype d => exact absurd rfl (hdoctype d)
  | nameless => exact absurd rfl hname
  | startTag | endTag | comment | char | eof => exact settle_of_done hrules'

/-- What is put into the current element goes to its end. -/
theorem placeFor_building (hname : name ≠ "template") :
    (building l mode (n :: rest) formatting).placeFor n = .lastIn n := by
  have hhtml : (building l mode (n :: rest) formatting).isHtml n "template" = false := by
    rw [isHtml_building h, beq_eq_false_iff_ne.2 hname]
  rw [placeFor, hhtml]
  rfl

theorem start_building (hname : name ≠ "template") (hother : other ≠ "template") :
    (building l mode (n :: rest) formatting).start { name := other } =
      building (l ++ [element other n]) mode ((l.length + 1) :: n :: rest) formatting := by
  have hcreate : (Tree.ofGrowth l).createElement { name := other } =
      (Tree.ofGrowth l).create (.element { name := other }) :=
    Tree.createElement_of_ne fun h => hother h.2
  have hplace : ({ building l mode (n :: rest) formatting with
      tree := ((Tree.ofGrowth l).create (.element { name := other })).1 }).placeFor n = .lastIn n := by
    obtain ⟨i, q, rfl, hg⟩ := h.entry
    have hnode : ((Tree.ofGrowth l).create (.element { name := other })).1.node? (i + 1) =
        (Tree.ofGrowth l).node? (i + 1) := by
      have hne : i + 1 ≠ (Tree.ofGrowth l).size := by
        rw [Tree.size_ofGrowth]
        exact Nat.ne_of_lt (Nat.lt_succ_of_le h.le_length)
      rw [Tree.node?_create, if_neg hne]
    simp [placeFor, building, isHtml, nameOf, Tree.element?, hnode, Tree.node?_ofGrowth h.rooted hg,
      element, hname]
  simp only [start, openElement, insertElement, Builder.createElement, insertNode, current, building,
    Tag.element, List.map_nil, hcreate, List.head?_cons, Option.getD_some] at hplace ⊢
  rw [hplace]
  simp only [Tree.ofGrowth_concat, Tree.grow, Tree.place, Tree.create_snd, Tree.size_ofGrowth]
  rfl

end Holding

/-! Rows and cells. -/

theorem take_tr (h : Holds l n "tbody") :
    (building l .inTableBody (n :: rest)).take (.startTag { name := "tr" }) =
      building (l ++ [element "tr" n]) .inRow ((l.length + 1) :: n :: rest) := by
  refine take_of_done h (by simp) (by simp) ?_
  have hpop : (building l .inTableBody (n :: rest)).popUntilIn sectionContext = _ :=
    popUntilIn_building h (by decide)
  have hstart : (building l .inTableBody (n :: rest)).start { name := "tr" } = _ :=
    start_building h (by decide) (by decide)
  rw [inModeRules, mode_building]
  simp only [onTableBody, hpop, hstart, if_true]
  rfl

theorem take_td (h : Holds l n "tr") :
    (building l .inRow (n :: rest)).take (.startTag { name := "td" }) =
      building (l ++ [element "td" n]) .inCell ((l.length + 1) :: n :: rest) [.marker] := by
  refine take_of_done h (by simp) (by simp) ?_
  have hpop : (building l .inRow (n :: rest)).popUntilIn rowContext = _ :=
    popUntilIn_building h (by decide)
  have hstart : (building l .inRow (n :: rest)).start { name := "td" } = _ :=
    start_building h (by decide) (by decide)
  rw [inModeRules, mode_building]
  simp only [onRow, hpop, hstart, true_or, if_true]
  rfl

theorem take_endTd (h : Holds l n "td") :
    (building l .inCell (n :: rest) [.marker]).take (.endTag { name := "td" }) =
      building l .inRow rest := by
  refine take_of_done h (by simp) (by simp) ?_
  have hscope : (building l .inCell (n :: rest) [.marker]).inScope .table "td" = true :=
    inScope_building h
  have himplied : (building l .inCell (n :: rest) [.marker]).closeImplied Names.impliedEnd = _ :=
    closeImplied_building h (by decide)
  have hpop : (building l .inCell (n :: rest) [.marker]).popThroughName "td" = _ :=
    popThroughName_building h
  rw [inModeRules, mode_building]
  simp only [onCell, hscope, himplied, hpop]
  rfl

theorem take_endTr (h : Holds l n "tr") :
    (building l .inRow (n :: rest)).take (.endTag { name := "tr" }) =
      building l .inTableBody rest := by
  refine take_of_done h (by simp) (by simp) ?_
  have hscope : (building l .inRow (n :: rest)).inScope .table "tr" = true := inScope_building h
  have hpop : (building l .inRow (n :: rest)).popUntilIn rowContext = _ :=
    popUntilIn_building h (by decide)
  rw [inModeRules, mode_building]
  simp only [onRow, hscope, leaveRow, hpop]
  rfl

/-! The text of a cell, one character at a time. -/

section Text

variable {row : Nat} {s : String} {c : Char}

theorem appendChar_ofCell (hn : n = l.length + 1) (h : Rooted 1 (l ++ ofCell row n s)) :
    (Tree.ofGrowth (l ++ ofCell row n s)).appendChar n c =
      Tree.ofGrowth (l ++ ofCell row n (s.push c)) := by
  have hnone : Avoids n (n + (ofCell row n s).length) [] := fun _ hg => absurd hg List.not_mem_nil
  rw [← List.append_nil (_ ++ _)] at h
  have hcell := Tree.node?_cell hn h hnone
  rw [List.append_nil] at hcell
  rw [Tree.appendChar, Tree.children, hcell, ofCell_of_ne (s := s.push c) (by simp)]
  by_cases hs : s = ""
  · -- The first character becomes a node of its own.
    subst hs
    have hcreated := Tree.ofGrowth_concat (l := l ++ ofCell row n "") (g := ⟨.text c.toString, n⟩)
    rw [List.append_assoc] at hcreated
    exact hcreated.symm
  · have htext := Tree.node?_cell_text hn h hnone hs
    rw [List.append_nil] at htext
    have hsize : (Tree.ofGrowth (l ++ [element "td" row])).size = n + 1 := by simp [hn]
    have hsplit : ∀ s', l ++ [element "td" row, ⟨.text s', n⟩] =
        l ++ [element "td" row] ++ [⟨.text s', n⟩] := by simp
    have hpush := Tree.pushChar_grow (t := .ofGrowth (l ++ [element "td" row])) (s := s) (p := n)
      (by rw [hsize]; exact Nat.lt_succ_self n) c
    rw [← Tree.ofGrowth_concat, ← Tree.ofGrowth_concat, ← hsplit, ← hsplit, hsize,
      ← ofCell_of_ne hs] at hpush
    rw [← hpush]
    simp [hs, Tree.text?, htext]

/-- Nothing has to be opened again in a cell, and a table holds no frame set anyway. -/
theorem bodyChar_building (hc : c ≠ '\x00') :
    (building l mode stack [.marker]).bodyChar c = (building l mode stack [.marker]).insertChar c := by
  rw [bodyChar, if_neg hc]
  exact congrArg (insertChar · c) (ite_self _)

theorem take_char (hn : n = l.length + 1) (h : Rooted 1 l) (hrow : row < n) (hc : c ≠ '\x00') :
    (building (l ++ ofCell row n s) .inCell (n :: rest) [.marker]).take (.char c) =
      building (l ++ ofCell row n (s.push c)) .inCell (n :: rest) [.marker] := by
  have hcell : Holds (l ++ ofCell row n s) n "td" := by
    have hrooted := rooted_ofCell (s := s) hrow
    rw [hn] at hrooted ⊢
    exact .last h hrooted
  have hinsert : (building (l ++ ofCell row n s) .inCell (n :: rest) [.marker]).insertChar c =
      building (l ++ ofCell row n (s.push c)) .inCell (n :: rest) [.marker] := by
    have hcurrent : (building (l ++ ofCell row n s) .inCell (n :: rest) [.marker]).current = n := rfl
    rw [insertChar, hcurrent, placeFor_building hcell (by decide), building, building,
      ← appendChar_ofCell hn hcell.rooted]
    rfl
  refine take_of_done hcell (by simp) (by simp) ?_
  rw [inModeRules, mode_building]
  simp only [onCell, onBody, bodyChar_building hc, hinsert]

end Text

/-! The beginning and the end of the table. -/

theorem take_table :
    ({} : Builder).take (.startTag { name := "table" }) = building (ofTable []) .inTable [4, 3, 1] :=
  rfl

/-- The first row opens a section. -/
theorem take_first_tr :
    (building (ofTable []) .inTable [4, 3, 1]).take (.startTag { name := "tr" }) =
      building (ofTable [] ++ [element "tbody" 4, element "tr" 5]) .inRow [6, 5, 4, 3, 1] :=
  rfl

/-- A table without rows has no section. -/
theorem take_endTable_empty :
    (building (ofTable []) .inTable [4, 3, 1]).take (.endTag { name := "table" }) =
      building (ofTable []) .inBody [3, 1] :=
  rfl

theorem resetMode_building (h : Holds l n "body") :
    (building l mode (n :: rest) formatting).resetMode = .inBody := by
  have hname : (building l mode (n :: rest) formatting).nameOf n = (.html, "body") := nameOf_building h
  have hstack : (building l mode (n :: rest) formatting).stack = n :: rest := rfl
  rw [resetMode, hstack, modeFor]
  simp [hname, Names.tableSections]

/-- The end of the table also ends the section. -/
theorem take_endTable {part table body : Nat} (hpart : Holds l part "tbody")
    (htable : Holds l table "table") (hbody : Holds l body "body") :
    (building l .inTableBody (part :: table :: body :: rest)).take (.endTag { name := "table" }) =
      building l .inBody (body :: rest) := by
  have hleave : (building l .inTableBody (part :: table :: body :: rest)).rules
      (.endTag { name := "table" }) = (building l .inTable (table :: body :: rest), .again) := by
    have hscope : (building l .inTableBody (part :: table :: body :: rest)).inScopeBy .table
        ((building l .inTableBody (part :: table :: body :: rest)).isHtmlIn ·
          ["table", "tbody", "tfoot"]) = true :=
      inScopeBy_of_head rfl (by rw [isHtmlIn_building hpart]; decide)
    have hpop : (building l .inTableBody (part :: table :: body :: rest)).popUntilIn
        sectionContext = _ :=
      popUntilIn_building hpart (by decide)
    rw [rules_building hpart, inModeRules, mode_building]
    simp only [onTableBody, sectionOutcome, hscope, leaveSection, hpop]
    rfl
  have hend : (building l .inTable (table :: body :: rest)).rules (.endTag { name := "table" }) =
      (building l .inBody (body :: rest), .done) := by
    have hscope : (building l .inTable (table :: body :: rest)).inScope .table "table" = true :=
      inScope_building htable
    have hpop : (building l .inTable (table :: body :: rest)).popThroughName "table" = _ :=
      popThroughName_building htable
    rw [rules_building htable, inModeRules, mode_building]
    simp only [onTable, tableEnd, hscope, hpop, resetMode_building hbody, if_true]
    rfl
  exact (settle_of_again hleave).trans (settle_of_done hend)

theorem take_eof (h : Holds l n "body") :
    (building l .inBody (n :: rest)).take .eof = building l .inBody (n :: rest) :=
  take_of_done h (by simp) (by simp) rfl

end Builder

end Gleaner.Markup
