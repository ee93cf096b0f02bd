import Gleaner.Proofs.Markup.Table.Building
import Gleaner.Proofs.Markup.Table.Tags

/-! Reading a plain table: the tree of its text is the one that holds its rows and cells. -/
namespace Gleaner.Markup

/-! The text of a table. -/

def cellHtml (s : String) : String := "<td>" ++ s ++ "</td>"

def rowHtml (cells : List String) : String := "<tr>" ++ String.join (cells.map cellHtml) ++ "</tr>"

def tableHtml (rows : List (List String)) : String :=
  "<table>" ++ String.join (rows.map rowHtml) ++ "</table>"

/-- No markup begins in the text, and the parser keeps it as it is. -/
def PlainText (s : String) : Prop :=
  ∀ c ∈ s.toList, c ≠ '<' ∧ c ≠ '&' ∧ c ≠ '\x00' ∧ c ≠ '\r'

instance (s : String) : Decidable (PlainText s) :=
  decidable_of_iff
    (s.toList.all fun c => decide (c ≠ '<' ∧ c ≠ '&' ∧ c ≠ '\x00' ∧ c ≠ '\r'))
    (by simp only [List.all_eq_true, decide_eq_true_eq, PlainText])

theorem toList_cellHtml (s : String) :
    (cellHtml s).toList = tagText false "td".toList ++ s.toList ++ tagText true "td".toList := by
  rw [cellHtml, String.toList_append, String.toList_append]
  rfl

theorem toList_rowHtml (cells : List String) : (rowHtml cells).toList =
    tagText false "tr".toList ++ cells.flatMap (fun s => (cellHtml s).toList) ++
      tagText true "tr".toList := by
  rw [rowHtml, String.toList_append, String.toList_append, String.toList_join, List.flatMap_map]
  rfl

theorem toList_tableHtml (rows : List (List String)) : (tableHtml rows).toList =
    tagText false "table".toList ++ rows.flatMap (fun cells => (rowHtml cells).toList) ++
      tagText true "table".toList := by
  rw [tableHtml, String.toList_append, String.toList_append, String.toList_join, List.flatMap_map]
  rfl

namespace Reading

open Growth Builder

variable {l : List Growth} {rest : List NodeId} {n : NodeId} {s : String} {cells : List String}
  {rows : List (List String)}

theorem reads_text {row : NodeId} {text : List Char} (hn : n = l.length + 1) (h : Rooted 1 l)
    (hrow : row < n) (htext : ∀ c ∈ text, c ≠ '<' ∧ c ≠ '&' ∧ c ≠ '\x00') :
    Reads text (building (l ++ ofCell row n s) .inCell (n :: rest) [.marker])
      (building (l ++ ofCell row n (text.foldl String.push s)) .inCell (n :: rest) [.marker]) := by
  induction text generalizing s with
  | nil => exact .nil
  | cons c text ih =>
    rw [List.forall_mem_cons] at htext
    obtain ⟨⟨hless, hamp, hnul⟩, htext⟩ := htext
    exact (Reads.char hless hamp (take_char hn h hrow hnul) rfl).append (ih htext)

theorem foldl_push (s : String) : s.toList.foldl String.push "" = s := by
  have hfold : ∀ (cs : List Char) (s : String), cs.foldl String.push s = s ++ String.ofList cs := by
    intro cs
    induction cs with
    | nil => intro s; simp
    | cons c cs ih =>
      intro s
      rw [List.foldl_cons, ih]
      exact String.toList_injective (by simp)
  rw [hfold, String.ofList_toList]
  simp

theorem reads_cell (h : Holds l n "tr") (hs : PlainText s) :
    Reads (cellHtml s).toList (building l .inRow (n :: rest))
      (building (l ++ ofCell n (l.length + 1) s) .inRow (n :: rest)) := by
  have hlt : n < l.length + 1 := Nat.lt_succ_of_le h.le_length
  have htext : Reads s.toList
      (building (l ++ ofCell n (l.length + 1) "") .inCell ((l.length + 1) :: n :: rest) [.marker]) _ :=
    reads_text rfl h.rooted hlt fun c hc => ⟨(hs c hc).1, (hs c hc).2.1, (hs c hc).2.2.1⟩
  rw [foldl_push] at htext
  rw [toList_cellHtml]
  refine .append (.append ?_ htext) ?_
  · exact .tag (by decide) (by decide) (take_td h) rfl
  · exact .tag (by decide) (by decide) (take_endTd (.last h.rooted (rooted_ofCell hlt))) rfl

theorem reads_cells (h : Holds l n "tr") (hcells : ∀ s ∈ cells, PlainText s) :
    Reads (cells.flatMap fun s => (cellHtml s).toList) (building l .inRow (n :: rest))
      (building (l ++ ofCells n (l.length + 1) cells) .inRow (n :: rest)) := by
  induction cells generalizing l with
  | nil => simpa [ofCells] using Reads.nil
  | cons s cells ih =>
    rw [List.forall_mem_cons] at hcells
    have hcell : Holds (l ++ ofCell n (l.length + 1) s) n "tr" :=
      h.append (rooted_ofCell (Nat.lt_succ_of_le h.le_length))
    have hrest := ih hcell hcells.2
    rw [List.append_assoc, List.length_append, Nat.add_right_comm] at hrest
    exact (reads_cell h hcells.1).append hrest

/-- A row is read from its first tag on. -/
theorem reads_row_rest (h : Holds l n "tr") (hcells : ∀ s ∈ cells, PlainText s) :
    Reads (cells.flatMap (fun s => (cellHtml s).toList) ++ tagText true "tr".toList)
      (building l .inRow (n :: rest))
      (building (l ++ ofCells n (l.length + 1) cells) .inTableBody rest) := by
  have hrow : Holds (l ++ ofCells n (l.length + 1) cells) n "tr" :=
    h.append (rooted_ofCells (Nat.lt_succ_of_le h.le_length))
  exact (reads_cells h hcells).append (.tag (by decide) (by decide) (take_endTr hrow) rfl)

theorem reads_row (h : Holds l n "tbody") (hcells : ∀ s ∈ cells, PlainText s) :
    Reads (rowHtml cells).toList (building l .inTableBody (n :: rest))
      (building (l ++ ofRow n (l.length + 1) cells) .inTableBody (n :: rest)) := by
  have hrow : Holds (l ++ [element "tr" n]) (l.length + 1) "tr" :=
    .last h.rooted ⟨Nat.lt_succ_of_le h.le_length, trivial⟩
  have hrest : Reads _
      (building (l ++ [element "tr" n]) .inRow ((l.length + 1) :: n :: rest)) _ :=
    reads_row_rest hrow hcells
  rw [List.append_assoc, List.length_append] at hrest
  rw [toList_rowHtml, List.append_assoc]
  refine .append ?_ hrest
  exact .tag (by decide) (by decide) (take_tr h) rfl

theorem reads_rows (h : Holds l n "tbody") (hrows : ∀ cells ∈ rows, ∀ s ∈ cells, PlainText s) :
    Reads (rows.flatMap fun cells => (rowHtml cells).toList) (building l .inTableBody (n :: rest))
      (building (l ++ ofRows n (l.length + 1) rows) .inTableBody (n :: rest)) := by
  induction rows generalizing l with
  | nil => simpa [ofRows] using Reads.nil
  | cons cells rows ih =>
    rw [List.forall_mem_cons] at hrows
    have hrooted : Rooted (l.length + 1) (ofRow n (l.length + 1) cells) :=
      ⟨Nat.lt_succ_of_le h.le_length, rooted_ofCells (Nat.lt_succ_self _)⟩
    have hrest := ih (h.append hrooted) hrows.2
    rw [List.append_assoc, List.length_append, Nat.add_right_comm] at hrest
    exact (reads_row h hrows.1).append hrest

/-- The whole text is read up to the end of the table. -/
theorem reads_table (hrows : ∀ cells ∈ rows, ∀ s ∈ cells, PlainText s) :
    Reads (tableHtml rows).toList {} (building (ofTable rows) .inBody [3, 1]) := by
  have hopen : Reads (tagText false "table".toList) {} (building (ofTable []) .inTable [4, 3, 1]) :=
    .tag (by decide) (by decide) take_table rfl
  rw [toList_tableHtml, List.append_assoc]
  refine hopen.append ?_
  cases rows with
  | nil => exact .tag (by decide) (by decide) take_endTable_empty rfl
  | cons cells rows =>
    rw [List.forall_mem_cons] at hrows
    rw [List.flatMap_cons, toList_rowHtml]
    have hfirst : Rooted 1 (ofTable [] ++ [element "tbody" 4, element "tr" 5]) := by
      simp [ofTable, Rooted, element]
    have hrow : Reads (tagText false "tr".toList) (building (ofTable []) .inTable [4, 3, 1])
        (building (ofTable [] ++ [element "tbody" 4, element "tr" 5]) .inRow [6, 5, 4, 3, 1]) :=
      .tag (by decide) (by decide) take_first_tr rfl
    have hcells : Reads _
        (building (ofTable [] ++ [element "tbody" 4, element "tr" 5]) .inRow [6, 5, 4, 3, 1]) _ :=
      reads_row_rest ⟨hfirst, 5, 5, rfl, rfl⟩ hrows.1
    have hwhole : ofTable (cells :: rows) = ofTable [] ++ [element "tbody" 4, element "tr" 5] ++
        ofCells 6 7 cells ++ ofRows 5 (6 + (ofRow 5 6 cells).length) rows := by
      simp [ofTable, ofRows, ofRow]
    have hrooted := rooted_ofTable (cells :: rows)
    rw [hwhole] at hrooted
    have hmore : Reads _ (building (ofTable [] ++ [element "tbody" 4, element "tr" 5] ++
        ofCells 6 7 cells) .inTableBody [5, 4, 3, 1]) _ :=
      reads_rows ⟨(rooted_append.1 hrooted).1, 4, 4, rfl, rfl⟩ hrows.2
    have hlength : (ofTable [] ++ [element "tbody" 4, element "tr" 5] ++ ofCells 6 7 cells).length + 1 =
        6 + (ofRow 5 6 cells).length := by
      simp [ofTable, ofRow]
      omega
    rw [hlength, ← hwhole] at hmore
    rw [← hwhole] at hrooted
    have hend : Reads (tagText true "table".toList) (building (ofTable (cells :: rows)) .inTableBody
        [5, 4, 3, 1]) (building (ofTable (cells :: rows)) .inBody [3, 1]) :=
      .tag (by decide) (by decide)
        (take_endTable ⟨hrooted, 4, 4, rfl, rfl⟩ ⟨hrooted, 3, 3, rfl, rfl⟩ ⟨hrooted, 2, 1, rfl, rfl⟩) rfl
    simpa only [List.append_assoc] using hrow.append (hcells.append (hmore.append hend))

end Reading

theorem unixLines_of_not_mem {text : List Char} (h : '\r' ∉ text) : unixLines text = text := by
  induction text with
  | nil => rfl
  | cons c text ih =>
    rw [List.mem_cons, not_or] at h
    have hc : c ≠ '\r' := Ne.symm h.1
    rw [unixLines, ih h.2]
    · exact fun _ heq => absurd heq hc
    · exact hc

theorem not_mem_tableHtml {rows : List (List String)} {c : Char}
    (hrows : ∀ cells ∈ rows, ∀ s ∈ cells, c ∉ s.toList)
    (hc : c ∉ "<table></table><tr></tr><td></td>".toList) : c ∉ (tableHtml rows).toList := by
  have htag : ∀ text : List Char, text ⊆ "<table></table><tr></tr><td></td>".toList → c ∉ text :=
    fun text hsub hmem => hc (hsub hmem)
  simp only [toList_tableHtml, toList_rowHtml, toList_cellHtml, List.mem_append, List.mem_flatMap, not_or,
    not_exists, not_and]
  refine ⟨⟨htag _ (by decide), fun cells hcells => ⟨⟨htag _ (by decide), fun s hs => ?_⟩,
    htag _ (by decide)⟩⟩, htag _ (by decide)⟩
  exact ⟨⟨htag _ (by decide), hrows cells hcells s hs⟩, htag _ (by decide)⟩

theorem sourceChars_tableHtml {rows : List (List String)}
    (hrows : ∀ cells ∈ rows, ∀ s ∈ cells, PlainText s) :
    sourceChars (tableHtml rows).toList = (tableHtml rows).toList := by
  have hreturn : '\r' ∉ (tableHtml rows).toList :=
    not_mem_tableHtml (fun cells hcells s hs hmem => (hrows cells hcells s hs _ hmem).2.2.2 rfl) (by decide)
  have hmark : ∃ rest, (tableHtml rows).toList = '<' :: rest := by
    rw [toList_tableHtml]
    exact ⟨_, rfl⟩
  obtain ⟨rest, hrest⟩ := hmark
  rw [hrest] at hreturn ⊢
  exact unixLines_of_not_mem hreturn

/-- The tree of a table holds its rows and cells. -/
theorem Tree.ofText_tableHtml {rows : List (List String)}
    (hrows : ∀ cells ∈ rows, ∀ s ∈ cells, PlainText s) :
    Tree.ofText (tableHtml rows) = .ofGrowth (Growth.ofTable rows) := by
  obtain ⟨last, hread⟩ := Reading.reads_table hrows ""
  have hbody : Growth.Holds (Growth.ofTable rows) 3 "body" :=
    ⟨Growth.rooted_ofTable rows, 2, 1, rfl, by rw [Growth.ofTable]; rfl⟩
  have hread' : (tableHtml rows).toList.foldl Reading.feed {} = _ := hread
  rw [ofText, sourceChars_tableHtml hrows, hread']
  change ((Builder.building (Growth.ofTable rows) .inBody [3, 1]).take .eof).tree = _
  rw [Builder.take_eof hbody]
  rfl

end Gleaner.Markup
