import Gleaner.Extraction.Html
import Gleaner.Proofs.Extraction.Lenient
import Gleaner.Proofs.Spec.Json
import Gleaner.Proofs.Markup.Lists
import Gleaner.Proofs.Markup.Table.Reading
import Mathlib.Data.List.Find
import Mathlib.Data.List.Forall2

/-! The extraction from a plain table, from its text to the records: one for each row after the first, with
the normal texts of the first two cells. -/
namespace Gleaner

open Markup

namespace Selector

/-- The elements of one name. -/
def named (name : String) : List Complex := [.mk [.named name] []]

/-- The cells at one position in their row. -/
def cellAt (position : Nat) : List Complex :=
  [.mk [.named "td", .nth { fromEnd := false, sameName := false, a := 0, b := position }] []]

theorem compile_row : HtmlDocument.compile "tr" = .ok (named "tr") := rfl

section Cells

open Selector.Parser

variable {digits : List Nat} {k : Nat} (list : ListReader)

theorem bind_ok {α β : Type} {x : Parser α} {f : α → Parser β} {a : α} {ps rest : List Piece}
    (h : x ps = .ok a rest) : (x >>= f) ps = f a rest := by
  simp only [bind, EStateM.bind, h]

/-- The tokens of a selector for the cells at the position that the digits write. -/
def cellTokens (digits : List Nat) : List Token :=
  [.ident "td", .colon, .function "nth-child", .number { whole := digits }, .closeParenthesis]

/-- The pieces of its condition on the position. -/
def positionPieces (digits : List Nat) : List Piece :=
  [.plain .colon, .block (.function "nth-child") [.plain (.number { whole := digits })]]

/-- The pieces of all of it. -/
def cellPieces (digits : List Nat) : List Piece := .plain (.ident "td") :: positionPieces digits

theorem ofTokens_cellTokens : Piece.ofTokens (cellTokens digits) = cellPieces digits := rfl

theorem pseudo_nthChild (place : Parser.Place) (content rest : List Piece) :
    pseudo list place (.block (.function "nth-child") content :: rest) =
      (List.singleton <$> inside content (nth false false)) rest := by
  have helement : isElementName "nth-child" = false := by decide +kernel
  have hname : "nth-child".map Char.toLower = "nth-child" := by decide +kernel
  simp only [pseudo, helement, functionClass, hname]
  rfl

theorem inside_nth (hk : ({ whole := digits } : Numeral).int? = some (k : Int)) (rest : List Piece) :
    inside [.plain (.number { whole := digits })] (nth false false) rest =
      .ok (.nth { fromEnd := false, sameName := false, a := 0, b := k }) rest := by
  have hposition : position [.plain (.number { whole := digits })] = .ok (0, (k : Int)) [] := by
    rw [position, bind_ok (show next _ = .ok _ [] from rfl)]
    simp only [Piece.token, hk]
    rfl
  simp only [inside]
  rw [bind_ok (show nth false false _ = .ok _ [] from bind_ok hposition)]
  rfl

theorem conditions_positionPieces (hk : ({ whole := digits } : Numeral).int? = some (k : Int)) :
    conditions list {} 2 (positionPieces digits) =
      .ok [.nth { fromEnd := false, sameName := false, a := 0, b := k }] [] := by
  have hcondition : condition? list {} (positionPieces digits) =
      .ok (some [.nth { fromEnd := false, sameName := false, a := 0, b := k }]) [] := by
    simp only [condition?, positionPieces, Functor.map, EStateM.map, pseudo_nthChild, inside_nth hk]
    rfl
  rw [conditions, bind_ok hcondition]
  rfl

theorem complex_cellPieces (hk : ({ whole := digits } : Numeral).int? = some (k : Int)) :
    complex list {} false (cellPieces digits) =
      .ok (.mk [.named "td", .nth { fromEnd := false, sameName := false, a := 0, b := k }] []) [] := by
  have hcompound : compound list {} (cellPieces digits) =
      .ok [.named "td", .nth { fromEnd := false, sameName := false, a := 0, b := k }] [] :=
    (bind_ok (conditions_positionPieces list hk)).trans rfl
  exact (bind_ok hcompound).trans rfl

theorem compile_eq_cellAt {s : String} (hs : Lexer.tokens s = cellTokens digits)
    (hk : ({ whole := digits } : Numeral).int? = some (k : Int)) :
    HtmlDocument.compile s = .ok (cellAt k) := by
  rw [HtmlDocument.compile, parse, Piece.ofText, hs, ofTokens_cellTokens, listWith,
    show splitCommas (cellPieces digits) = [cellPieces digits] from rfl, alternatives,
    bind_ok (complex_cellPieces _ hk)]
  rfl

theorem compile_first : HtmlDocument.compile "td:nth-child(1)" = .ok (cellAt 1) :=
  compile_eq_cellAt (show _ = cellTokens [1] by decide +kernel) rfl

theorem compile_second : HtmlDocument.compile "td:nth-child(2)" = .ok (cellAt 2) :=
  compile_eq_cellAt (show _ = cellTokens [2] by decide +kernel) rfl

end Cells

theorem isPosition_succ (i j : Nat) : isPosition 0 ((j + 1 : Nat) : Int) (i + 1) = decide (i = j) := by
  rw [isPosition]
  by_cases h : i = j
  · simp [h]
  · have hd : ((i + 1 : Nat) : Int) - ((j + 1 : Nat) : Int) ≠ 0 := by omega
    generalize ((i + 1 : Nat) : Int) - ((j + 1 : Nat) : Int) = d at hd ⊢
    simp [h, hd]

end Selector

/-- The entry with a number of entries before it. -/
theorem find?_takeWhile {l : List NodeId} (h : l.Nodup) (j : Nat) :
    l.find? (fun n => decide ((l.takeWhile (· != n)).length = j)) = l[j]? := by
  have hsplit : ∀ (post pre : List NodeId) (j : Nat), (pre ++ post).Nodup →
      post.find? (fun n => decide (((pre ++ post).takeWhile (· != n)).length = pre.length + j)) =
        post[j]? := by
    intro post
    induction post with
    | nil => intro pre j _; rfl
    | cons a post ih =>
      intro pre j hnodup
      have hpre : (pre ++ a :: post).takeWhile (· != a) = pre :=
        takeWhile_middle (nodup_middle_iff.1 hnodup).1
      rw [List.find?_cons, hpre]
      cases j with
      | zero => simp
      | succ j =>
        have hrest := ih (pre ++ [a]) j (by simpa using hnodup)
        rw [List.length_append, List.length_singleton, Nat.add_right_comm, Nat.add_assoc] at hrest
        simpa using hrest
  simpa using hsplit l [] j h

namespace HtmlDocument

variable {d : HtmlDocument} {row n : NodeId} {cells : List String} {s : String}

/-- The cell of a row that has one fewer before it. -/
theorem matching_cellAt (hrow : d.tree.RowAt row cells) (hn : d.tree.CellAt row n s) (j : Nat) :
    d.matching (Selector.cellAt (j + 1)) (some row) n =
      decide (((d.tree.children row).toList.takeWhile (· != n)).length = j) := by
  have hname : (d.tree.element? n).any (fun e => e.name == Selector.nameFor e "td") = true := by
    rw [hn.element]
    decide
  have hsiblings : d.tree.siblings n = (d.tree.children row).toList := by
    rw [Markup.Tree.siblings, hn.parent]
    exact hrow.filter_children
  have hposition : Selector.NthCondition.holds
      { fromEnd := false, sameName := false, a := 0, b := (j + 1 : Nat) } d.tree n =
        decide (((d.tree.children row).toList.takeWhile (· != n)).length = j) := by
    rw [← Selector.isPosition_succ]
    simp [Selector.NthCondition.holds, Markup.Tree.earlierSiblings, hsiblings]
  simp only [matching, Selector.cellAt, Selector.Complex.someHolds, Selector.Complex.holds,
    Selector.Simple.allHold, Selector.Simple.contextHolds, Selector.Simple.holds, hname, hposition,
    Bool.true_and, Bool.and_true, Bool.or_false]

theorem selectFirst_cellAt (hrow : d.tree.RowAt row cells) (j : Nat) :
    d.selectFirst (Selector.cellAt (j + 1)) (some row) = (d.tree.children row).toList[j]? := by
  rw [selectFirst, candidates, hrow.descendants, ← find?_takeWhile hrow.nodup]
  refine List.find?_congr fun n hn => ?_
  obtain ⟨s, hs⟩ := Markup.Tree.exists_cellAt hrow.cells hn
  exact matching_cellAt hrow hs j

theorem matching_named {name : String} {e : Element} (hn : d.tree.element? n = some e)
    (scope : Option NodeId) : d.matching (Selector.named name) scope n =
      (e.name == Selector.nameFor e name) := by
  simp [matching, Selector.named, Selector.Complex.someHolds, Selector.Complex.holds,
    Selector.Simple.allHold, Selector.Simple.contextHolds, Selector.Simple.holds, hn]

/-- The elements of one name in a tree that only grew at the end. -/
theorem select_named_ofGrowth {l : List Growth} (h : Growth.Rooted 1 l)
    (htree : d.tree = .ofGrowth l) (name : String) :
    d.select (Selector.named name) none = Growth.numbers (Growth.isNamed name) 1 l := by
  have hroot : (d.tree.parent? 0).isSome = false := by
    rw [htree, show (0 : NodeId) = Markup.Tree.root from rfl, Markup.Tree.parent?_root_ofGrowth h]
    rfl
  have hsize : d.tree.size = l.length + 1 := by rw [htree, Markup.Tree.size_ofGrowth]
  rw [select, candidates, List.filter_filter, hsize, List.range_eq_range', List.range'_succ,
    List.filter_cons, if_neg (by simp [hroot])]
  refine Growth.filter_range'_eq_numbers fun i g hg => ?_
  have hnode := Markup.Tree.node?_ofGrowth h hg
  rw [← htree, Nat.add_comm] at hnode
  have hparent : (d.tree.parent? (1 + i)).isSome = true := by rw [Markup.Tree.parent?, hnode]; rfl
  cases hcontent : g.content with
  | element e =>
    have helement : d.tree.element? (1 + i) = some e := by
      rw [Markup.Tree.element?, hnode, hcontent]
    rw [matching_named helement, Growth.isNamed, hcontent, Markup.Tree.isElement, helement, hparent]
    simp
  | document | fragment | doctype | comment | text =>
    have helement : d.tree.isElement (1 + i) = false := by
      rw [Markup.Tree.isElement, Markup.Tree.element?, hnode, hcontent]
      rfl
    rw [helement, Growth.isNamed, hcontent]
    simp

end HtmlDocument

/-! The specification and what it finds. -/

/-- One group whose rows are those of a table, with the first two cells of a row as its columns. -/
def priceTable : Json := .object [("prices", .object [("itemName", .string "td:nth-child(1)"),
  ("price", .string "td:nth-child(2)"), ("root", .string "tr")])]

def priceColumns : List Column := [⟨"itemName", "td:nth-child(1)"⟩, ⟨"price", "td:nth-child(2)"⟩]

def priceTableFields : List Field := [⟨"prices", .group ⟨"tr", priceColumns⟩⟩]

def priceTableSpec : Spec where
  fields := priceTableFields
  valid := (fieldsFault_eq_none (by decide : fieldsFault [] priceTableFields = none)).1

theorem ofJson_priceTable : Spec.ofJson priceTable = .ok priceTableSpec := by
  rfl

/-- The normal text of the cell, empty if the row has no such cell. -/
def cellText (cells : List String) (i : Nat) : String := (cells[i]?.map Text.normal).getD ""

def priceRecord (cells : List String) : Record :=
  .ofList [("itemName", cellText cells 0), ("price", cellText cells 1)]

section Content

variable {d : HtmlDocument} {row : NodeId} {cells : List String}

theorem textOf_cellAt {selector : String} {j : Nat} (hrow : d.tree.RowAt row cells)
    (hselector : HtmlDocument.compile selector = .ok (Selector.cellAt (j + 1))) :
    d.backend.textOf selector (some row) = cellText cells j := by
  have hfirst : d.backend.first? selector (some row) = (d.tree.children row).toList[j]? := by
    rw [Backend.first?, show d.backend.compile selector = .ok (Selector.cellAt (j + 1)) from hselector]
    exact d.selectFirst_cellAt hrow j
  rw [Backend.textOf, hfirst, cellText, ← hrow.map_textAt, List.getElem?_map]
  cases (d.tree.children row).toList[j]? <;> rfl

theorem recordOf_row (hrow : d.tree.RowAt row cells) :
    d.backend.recordOf priceColumns row = priceRecord cells := by
  rw [Backend.recordOf, priceRecord, ← textOf_cellAt hrow Selector.compile_first,
    ← textOf_cellAt hrow Selector.compile_second]
  rfl

end Content

theorem priceTableSpec_accepted (d : HtmlDocument) : d.backend.Accepts priceTableSpec := by
  have hplaces : priceTableSpec.places = [⟨"prices", some rootName, "tr"⟩,
      ⟨"prices", some "itemName", "td:nth-child(1)"⟩, ⟨"prices", some "price", "td:nth-child(2)"⟩] := rfl
  rw [Backend.Accepts, hplaces, List.forall_mem_cons, List.forall_mem_cons, List.forall_mem_cons]
  exact ⟨⟨_, Selector.compile_row⟩, ⟨_, Selector.compile_first⟩, ⟨_, Selector.compile_second⟩,
    fun _ hp => absurd hp List.not_mem_nil⟩

theorem dataRows_table {d : HtmlDocument} {rows : List (List String)}
    (htree : d.tree = .ofGrowth (Growth.ofTable rows)) :
    d.backend.dataRows ⟨"tr", priceColumns⟩ = (Growth.rowNumbers 5 6 rows).tail := by
  have hnodes : d.backend.nodes "tr" none = d.select (Selector.named "tr") none := by
    rw [Backend.nodes, show d.backend.compile "tr" = _ from Selector.compile_row]
    rfl
  rw [Backend.dataRows, hnodes, d.select_named_ofGrowth (Growth.rooted_ofTable rows) htree,
    Growth.numbers_ofTable]

theorem records_table {d : HtmlDocument} {rows : List (List String)}
    (htree : d.tree = .ofGrowth (Growth.ofTable rows)) :
    (d.backend.dataRows ⟨"tr", priceColumns⟩).map (d.backend.recordOf priceColumns) =
      rows.tail.map priceRecord := by
  have hrows := List.forall₂_drop 1 (Markup.Tree.rowsAt_ofTable rows)
  rw [dataRows_table htree, ← List.drop_one, ← List.drop_one, ← List.forall₂_eq_eq_eq,
    List.forall₂_map_left_iff, List.forall₂_map_right_iff]
  rw [← htree] at hrows
  exact hrows.imp fun _ _ hrow => recordOf_row hrow

/-- From the text of a table, whatever texts its cells have, the extraction makes one record of each row
after the first, in their order. -/
theorem table_prices (rows : List (List String)) (hrows : ∀ cells ∈ rows, ∀ s ∈ cells, PlainText s) :
    ∃ spec, Spec.ofJson priceTable = .ok spec ∧ extractHtml (tableHtml rows) spec .lenient =
      .ok (.ofList [("prices", .records (rows.tail.map priceRecord))]) := by
  refine ⟨priceTableSpec, ofJson_priceTable, ?_⟩
  have hcontent : (HtmlDocument.ofText (tableHtml rows)).backend.contentOf priceTableSpec =
      .ofList [("prices", .records (rows.tail.map priceRecord))] := by
    rw [← records_table (d := .ofText (tableHtml rows)) (Markup.Tree.ofText_tableHtml hrows)]
    rfl
  rw [← hcontent]
  exact Extraction.lenient_ok_iff.2 ⟨priceTableSpec_accepted _, rfl⟩

/-- A heading, a row with blanks around its texts, an empty row and one with a single cell. -/
def bakeryRows : List (List String) :=
  [["Item", "Price", "Note"], ["Apple\n  pie ", " 1.00", "a > b"], [], ["Bread"]]

theorem table_prices_bakery :
    ∃ spec, Spec.ofJson priceTable = .ok spec ∧ extractHtml (tableHtml bakeryRows) spec .lenient =
      .ok (.ofList [("prices", .records
        [.ofList [("itemName", "Applepie"), ("price", "1.00")],
          .ofList [("itemName", ""), ("price", "")], .ofList [("itemName", "Bread"), ("price", "")]])]) :=
  table_prices bakeryRows (by decide)

end Gleaner
