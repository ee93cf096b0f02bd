import Gleaner.Proofs.Markup.Tree.Growth
import Gleaner.Selector.Match
import Mathlib.Data.List.Forall2

/-! The rows and cells of a plain table as they stand in the tree: each row holds its cells and nothing else,
and each cell holds its text and nothing else. -/
namespace Gleaner.Markup

namespace Tree

/-- The cell is in the row and holds the text and nothing else. -/
structure CellAt (t : Tree) (row n : NodeId) (s : String) : Prop where
  element : t.element? n = some { name := "td" }
  parent : t.parent? n = some row
  text : t.textAt n = s
  no_element : ∀ fuel, (t.subtreeWith fuel n).filter t.isElement = [n]

/-- The row holds cells with these texts and nothing else. -/
structure RowAt (t : Tree) (row : NodeId) (cells : List String) : Prop where
  element : t.element? row = some { name := "tr" }
  cells : List.Forall₂ (t.CellAt row) (t.children row).toList cells
  increasing : (row :: (t.children row).toList).Pairwise (· < ·)

variable {t : Tree} {row : NodeId} {cells : List String}

theorem filter_forestWith {l : List NodeId} (h : List.Forall₂ (t.CellAt row) l cells) (fuel : Nat) :
    (t.forestWith fuel l).filter t.isElement = l := by
  induction h with
  | nil => rw [forestWith]; rfl
  | cons hcell _ ih =>
    rw [forestWith, List.filter_append, hcell.no_element, ih]
    rfl

theorem subtreeWith_leaf {n : NodeId} (h : t.children n = #[]) (fuel : Nat) :
    t.subtreeWith fuel n = [n] := by
  cases fuel with
  | zero => rw [subtreeWith]
  | succ fuel => rw [subtreeWith, h, forestWith]

theorem RowAt.descendants (h : t.RowAt row cells) : t.descendants row = (t.children row).toList := by
  have hrow : t.isElement row = true := by rw [isElement, h.element]; rfl
  have hcells : ∀ n ∈ (t.children row).toList, row < n := (List.pairwise_cons.1 h.increasing).1
  have hsize : t.size = t.size - 1 + 1 :=
    (Nat.sub_add_cancel (Nat.lt_of_le_of_lt (Nat.zero_le _) (lt_size_of_isElement hrow))).symm
  rw [Tree.descendants, subtree, hsize, subtreeWith, ← List.filter_filter, List.filter_cons, if_pos hrow,
    filter_forestWith h.cells, List.filter_cons, if_neg (by simp)]
  exact List.filter_eq_self.2 fun n hn => bne_iff_ne.2 (Nat.ne_of_gt (hcells n hn))

theorem RowAt.nodup (h : t.RowAt row cells) : (t.children row).toList.Nodup :=
  (List.pairwise_cons.1 h.increasing).2.imp Nat.ne_of_lt

theorem RowAt.map_textAt (h : t.RowAt row cells) : (t.children row).toList.map t.textAt = cells := by
  have htexts := h.cells.imp fun n s hn => hn.text
  rwa [← List.forall₂_map_left_iff (f := t.textAt), List.forall₂_eq_eq_eq] at htexts

theorem exists_cellAt {l : List NodeId} {n : NodeId} (h : List.Forall₂ (t.CellAt row) l cells)
    (hn : n ∈ l) : ∃ s, t.CellAt row n s := by
  induction h with
  | nil => cases hn
  | cons hcell _ ih =>
    rcases List.mem_cons.1 hn with rfl | hn
    · exact ⟨_, hcell⟩
    · exact ih hn

theorem RowAt.filter_children (h : t.RowAt row cells) :
    (t.children row).toList.filter t.isElement = (t.children row).toList := by
  refine List.filter_eq_self.2 fun n hn => ?_
  obtain ⟨s, hs⟩ := exists_cellAt h.cells hn
  rw [isElement, hs.element]
  rfl

theorem cellAt_of_empty {n : NodeId} (hn : t.node? n = some ⟨.element { name := "td" }, some row, #[]⟩) :
    t.CellAt row n "" := by
  have hsubtree : ∀ fuel, t.subtreeWith fuel n = [n] :=
    subtreeWith_leaf (by rw [Tree.children, hn]; rfl)
  have helement : t.element? n = some { name := "td" } := by rw [element?, hn]
  refine ⟨helement, by rw [parent?, hn]; rfl, ?_, fun fuel => ?_⟩
  · rw [textAt, subtree, hsubtree, List.filterMap_cons, text?, hn]
    rfl
  · rw [hsubtree, List.filter_singleton, isElement, helement]
    rfl

theorem cellAt_of_text {n m : NodeId} {s : String}
    (hn : t.node? n = some ⟨.element { name := "td" }, some row, #[m]⟩)
    (hm : t.node? m = some ⟨.text s, some n, #[]⟩) : t.CellAt row n s := by
  have hsubtree : ∀ fuel, t.subtreeWith (fuel + 1) n = [n, m] := fun fuel => by
    have hleaf : t.subtreeWith fuel m = [m] := subtreeWith_leaf (by rw [Tree.children, hm]; rfl) fuel
    rw [subtreeWith, Tree.children, hn]
    change n :: t.forestWith fuel [m] = [n, m]
    rw [forestWith, hleaf, forestWith]
    rfl
  have helement : t.element? n = some { name := "td" } := by rw [element?, hn]
  have hlist : ([n, m] : List NodeId).filter t.isElement = [n] := by
    simp [isElement, element?, hn, hm]
  refine ⟨helement, by rw [parent?, hn]; rfl, ?_, fun fuel => ?_⟩
  · have hsize : n < t.size := lt_size_of_isElement (by rw [isElement, helement]; rfl)
    obtain ⟨fuel, hfuel⟩ := Nat.exists_eq_succ_of_ne_zero (Nat.ne_zero_of_lt hsize)
    rw [textAt, subtree, hfuel, hsubtree]
    simp [text?, hn, hm]
  · cases fuel with
    | zero => rw [subtreeWith, List.filter_singleton, isElement, helement]; rfl
    | succ fuel => rw [hsubtree, hlist]

end Tree

/-! What is appended to a tree for a table, one node after the other. -/

namespace Growth

def element (name : String) (parent : Nat) : Growth := ⟨.element { name }, parent⟩

/-- A cell of the row, with the number `n`. Only a text that is not empty becomes a node. -/
def ofCell (row n : Nat) (s : String) : List Growth :=
  element "td" row :: if s = "" then [] else [⟨.text s, n⟩]

def ofCells (row : Nat) : Nat → List String → List Growth
  | _, [] => []
  | n, s :: rest => ofCell row n s ++ ofCells row (n + (ofCell row n s).length) rest

/-- A row of the section, with the number `r`. -/
def ofRow (part r : Nat) (cells : List String) : List Growth :=
  element "tr" part :: ofCells r (r + 1) cells

def ofRows (part : Nat) : Nat → List (List String) → List Growth
  | _, [] => []
  | r, cells :: rest => ofRow part r cells ++ ofRows part (r + (ofRow part r cells).length) rest

def cellNumbers (row : Nat) : Nat → List String → List Nat
  | _, [] => []
  | n, s :: rest => n :: cellNumbers row (n + (ofCell row n s).length) rest

def rowNumbers (part : Nat) : Nat → List (List String) → List Nat
  | _, [] => []
  | r, cells :: rest => r :: rowNumbers part (r + (ofRow part r cells).length) rest

variable {row n r part : Nat} {s : String} {g : Growth} {cells : List String}
  {rows : List (List String)}

/-- Nothing of the list was appended to a node from `k` up to `m`. -/
def Avoids (k m : Nat) (l : List Growth) : Prop := ∀ g ∈ l, g.parent < k ∨ m ≤ g.parent

theorem ofCell_of_ne (h : s ≠ "") : ofCell row n s = [element "td" row, ⟨.text s, n⟩] := by
  rw [ofCell, if_neg h]

theorem childrenOf_ofCell (hrow : row < n) :
    childrenOf n n (ofCell row n s) = if s = "" then [] else [n + 1] := by
  have hne : row ≠ n := Nat.ne_of_lt hrow
  by_cases hs : s = ""
  · simp [hs, ofCell, childrenOf, numbers, element, hne]
  · simp [hs, ofCell_of_ne hs, childrenOf, numbers, element, hne]

theorem parent_of_mem_ofCell (hg : g ∈ ofCell row n s) : g.parent = row ∨ n ≤ g.parent := by
  by_cases hs : s = ""
  · subst hs
    rw [List.mem_singleton.1 hg]
    exact .inl rfl
  · rw [ofCell_of_ne hs] at hg
    rcases List.mem_pair.1 hg with rfl | rfl
    · exact .inl rfl
    · exact .inr (Nat.le_refl _)

theorem parent_of_mem_ofCells (hg : g ∈ ofCells row n cells) : g.parent = row ∨ n ≤ g.parent := by
  induction cells generalizing n with
  | nil => cases hg
  | cons s rest ih =>
    rcases List.mem_append.1 hg with hg | hg
    · exact parent_of_mem_ofCell hg
    · exact (ih hg).imp_right (Nat.le_of_add_right_le ·)

theorem parent_of_mem_ofRow (hg : g ∈ ofRow part r cells) : g.parent = part ∨ r ≤ g.parent := by
  rcases List.mem_cons.1 hg with rfl | hg
  · exact .inl rfl
  · refine .inr ((parent_of_mem_ofCells hg).elim (fun h => Nat.le_of_eq h.symm) fun h => ?_)
    exact Nat.le_of_succ_le h

theorem parent_of_mem_ofRows (hg : g ∈ ofRows part r rows) : g.parent = part ∨ r ≤ g.parent := by
  induction rows generalizing r with
  | nil => cases hg
  | cons cells rest ih =>
    rcases List.mem_append.1 hg with hg | hg
    · exact parent_of_mem_ofRow hg
    · exact (ih hg).imp_right (Nat.le_of_add_right_le ·)

theorem childrenOf_ofCells (hrow : row < n) :
    childrenOf row n (ofCells row n cells) = cellNumbers row n cells := by
  induction cells generalizing n with
  | nil => rfl
  | cons s rest ih =>
    have hcell : childrenOf row n (ofCell row n s) = [n] := by
      by_cases hs : s = ""
      · simp [hs, ofCell, childrenOf, numbers, element]
      · simp [ofCell_of_ne hs, childrenOf, numbers, element, Nat.ne_of_gt hrow]
    rw [ofCells, childrenOf_append, hcell, ih (Nat.lt_add_right _ hrow), cellNumbers]
    rfl

theorem le_of_mem_cellNumbers {m : Nat} (hm : m ∈ cellNumbers row n cells) : n ≤ m := by
  induction cells generalizing n with
  | nil => cases hm
  | cons s rest ih =>
    rcases List.mem_cons.1 hm with rfl | hm
    · exact Nat.le_refl _
    · exact Nat.le_of_add_right_le (ih hm)

theorem pairwise_cellNumbers : (cellNumbers row n cells).Pairwise (· < ·) := by
  induction cells generalizing n with
  | nil => exact .nil
  | cons s rest ih =>
    refine .cons (fun m hm => Nat.lt_of_lt_of_le ?_ (le_of_mem_cellNumbers hm)) ih
    exact Nat.lt_add_of_pos_right (Nat.succ_pos _)

theorem childrenOf_ofRow (hpart : part < r) :
    childrenOf r r (ofRow part r cells) = cellNumbers r (r + 1) cells := by
  rw [← childrenOf_ofCells (Nat.lt_succ_self r), ofRow, childrenOf, numbers,
    if_neg (by simpa [element] using Nat.ne_of_lt hpart)]
  rfl

theorem rooted_ofCell (hrow : row < n) : Rooted n (ofCell row n s) := by
  by_cases hs : s = ""
  · subst hs
    exact ⟨hrow, trivial⟩
  · rw [ofCell_of_ne hs]
    exact ⟨hrow, Nat.lt_succ_self n, trivial⟩

theorem rooted_ofCells (hrow : row < n) : Rooted n (ofCells row n cells) := by
  induction cells generalizing n with
  | nil => trivial
  | cons s rest ih =>
    exact rooted_append.2 ⟨rooted_ofCell hrow, ih (Nat.lt_add_right _ hrow)⟩

theorem rooted_ofRows (hpart : part < r) : Rooted r (ofRows part r rows) := by
  induction rows generalizing r with
  | nil => trivial
  | cons cells rest ih =>
    exact rooted_append.2
      ⟨⟨hpart, rooted_ofCells (Nat.lt_succ_self r)⟩, ih (Nat.lt_add_right _ hpart)⟩

/-- The node is an element that the name means. -/
def isNamed (name : String) (g : Growth) : Bool :=
  match g.content with
  | .element e => e.name == Selector.nameFor e name
  | _ => false

theorem numbers_ofCells : numbers (isNamed "tr") n (ofCells row n cells) = [] := by
  induction cells generalizing n with
  | nil => rfl
  | cons s rest ih =>
    rw [ofCells, numbers_append, ih, List.append_nil]
    refine numbers_eq_nil fun g hg => ?_
    by_cases hs : s = ""
    · subst hs
      rw [List.mem_singleton.1 hg]
      exact (by decide : isNamed "tr" (element "td" 0) = false)
    · rw [ofCell_of_ne hs] at hg
      rcases List.mem_pair.1 hg with rfl | rfl
      · exact (by decide : isNamed "tr" (element "td" 0) = false)
      · rfl

theorem numbers_ofRows : numbers (isNamed "tr") r (ofRows part r rows) = rowNumbers part r rows := by
  have hrow : isNamed "tr" (element "tr" part) = true :=
    (by decide : isNamed "tr" (element "tr" 0) = true)
  induction rows generalizing r with
  | nil => rfl
  | cons cells rest ih =>
    rw [ofRows, numbers_append, ih, rowNumbers, ofRow, numbers, if_pos hrow, numbers_ofCells]
    rfl

/-- Only the nodes in the middle are appended to a node that is made there. -/
theorem childrenOf_middle {before middle after : List Growth} {m : Nat} (hbefore : Rooted 1 before)
    (hm : before.length < m) (hafter : ∀ g ∈ after, g.parent ≠ m) :
    childrenOf m 1 (before ++ middle ++ after) = childrenOf m (before.length + 1) middle := by
  have hbefore' : ∀ g ∈ before, g.parent ≠ m := fun g hg => by
    have := hbefore.parent_lt hg
    omega
  rw [childrenOf_append, childrenOf_append, childrenOf_eq_nil hbefore', childrenOf_eq_nil hafter,
    List.append_nil, List.nil_append, Nat.add_comm 1]

end Growth

namespace Tree

open Growth

variable {before after : List Growth} {row : Nat} {s : String}

section Cell

variable {n : Nat} (hn : n = before.length + 1) (h : Rooted 1 (before ++ ofCell row n s ++ after))
  (hafter : Avoids n (n + (ofCell row n s).length) after)

include hn h hafter

theorem childrenOf_cell {m : Nat} (hm : n ≤ m) (hm' : m < n + (ofCell row n s).length) :
    childrenOf m 1 (before ++ ofCell row n s ++ after) = childrenOf m n (ofCell row n s) := by
  rw [childrenOf_middle (rooted_append.1 (rooted_append.1 h).1).1 (by omega) fun g hg hgm => ?_, ← hn]
  have := hafter g hg
  omega

theorem node?_cell : (ofGrowth (before ++ ofCell row n s ++ after)).node? n =
    some ⟨.element { name := "td" }, some row, (if s = "" then [] else [n + 1]).toArray⟩ := by
  have hcell := (rooted_append.1 (rooted_append.1 h).1).2
  rw [Nat.add_comm, ← hn] at hcell
  have hrow : row < n := hcell.1
  rw [← childrenOf_ofCell (s := s) hrow,
    ← childrenOf_cell hn h hafter (Nat.le_refl n) (by simp [ofCell])]
  subst hn
  exact node?_ofGrowth h (g := element "td" row) (by simp [ofCell])

theorem node?_cell_text (hs : s ≠ "") : (ofGrowth (before ++ ofCell row n s ++ after)).node? (n + 1) =
    some ⟨.text s, some n, #[]⟩ := by
  have hcell := (rooted_append.1 (rooted_append.1 h).1).2
  rw [Nat.add_comm, ← hn] at hcell
  have hleaf : childrenOf (n + 1) n (ofCell row n s) = [] := by
    rw [ofCell_of_ne hs]
    refine childrenOf_eq_nil fun g hg => ?_
    rcases List.mem_pair.1 hg with rfl | rfl
    · exact Nat.ne_of_lt (Nat.lt_succ_of_lt hcell.1)
    · exact Nat.ne_of_lt (Nat.lt_succ_self n)
  have hchildren :=
    (childrenOf_cell hn h hafter (Nat.le_succ n) (by simp [ofCell_of_ne hs])).trans hleaf
  subst hn
  rw [node?_ofGrowth h (g := ⟨.text s, before.length + 1⟩) (by simp [ofCell_of_ne hs]), hchildren]

/-- The cell that was appended between the other nodes stands in the tree as it should. -/
theorem cellAt_ofGrowth : (ofGrowth (before ++ ofCell row n s ++ after)).CellAt row n s := by
  have hnode := node?_cell hn h hafter
  by_cases hs : s = ""
  · rw [if_pos hs] at hnode
    rw [hs] at hnode ⊢
    exact cellAt_of_empty hnode
  · rw [if_neg hs] at hnode
    exact cellAt_of_text hnode (node?_cell_text hn h hafter hs)

end Cell

theorem cellsAt_ofGrowth {n : Nat} {cells : List String} (hn : n = before.length + 1)
    (h : Rooted 1 (before ++ ofCells row n cells ++ after)) (hrow : row < n)
    (hafter : Avoids n (n + (ofCells row n cells).length) after) :
    List.Forall₂ ((ofGrowth (before ++ ofCells row n cells ++ after)).CellAt row)
      (cellNumbers row n cells) cells := by
  induction cells generalizing before n with
  | nil => exact .nil
  | cons s rest ih =>
    rw [ofCells, List.length_append] at hafter
    rw [ofCells, ← List.append_assoc] at h ⊢
    rw [cellNumbers]
    refine .cons ?_ (ih (by rw [List.length_append, hn]; omega) h (Nat.lt_add_right _ hrow) fun g hg => ?_)
    · rw [List.append_assoc] at h ⊢
      refine cellAt_ofGrowth hn h fun g hg => ?_
      rcases List.mem_append.1 hg with hg | hg
      · exact (parent_of_mem_ofCells hg).imp_left (lt_of_eq_of_lt · hrow)
      · exact (hafter g hg).imp_right (by omega)
    · exact (hafter g hg).imp (by omega) (by omega)

/-- The same for a row. -/
theorem rowAt_ofGrowth {r part : Nat} {cells : List String} (hr : r = before.length + 1)
    (h : Rooted 1 (before ++ ofRow part r cells ++ after))
    (hafter : Avoids r (r + (ofRow part r cells).length) after) :
    (ofGrowth (before ++ ofRow part r cells ++ after)).RowAt r cells := by
  obtain ⟨hbefore, hrow⟩ := rooted_append.1 (rooted_append.1 h).1
  rw [Nat.add_comm, ← hr] at hrow
  have hpart : part < r := hrow.1
  have hself : childrenOf r 1 (before ++ ofRow part r cells ++ after) = cellNumbers r (r + 1) cells := by
    rw [childrenOf_middle hbefore (by omega) fun g hg hgr => ?_, ← hr, childrenOf_ofRow hpart]
    have := hafter g hg
    simp [ofRow] at this
    omega
  have hnode : (ofGrowth (before ++ ofRow part r cells ++ after)).node? r =
      some ⟨.element { name := "tr" }, some part, (cellNumbers r (r + 1) cells).toArray⟩ := by
    rw [← hself]
    subst hr
    exact node?_ofGrowth h (g := element "tr" part) (by simp [ofRow])
  have hchildren : ((ofGrowth (before ++ ofRow part r cells ++ after)).children r).toList =
      cellNumbers r (r + 1) cells := by
    rw [Tree.children, hnode]
    rfl
  refine ⟨by rw [element?, hnode], ?_, ?_⟩
  · have hsplit : before ++ ofRow part r cells ++ after =
        before ++ [element "tr" part] ++ ofCells r (r + 1) cells ++ after := by simp [ofRow]
    rw [hchildren, hsplit]
    rw [hsplit] at h
    refine cellsAt_ofGrowth (by simp [hr]) h (Nat.lt_succ_self r) fun g hg => ?_
    have := hafter g hg
    rw [ofRow, List.length_cons] at this
    exact this.imp (by omega) (by omega)
  · rw [hchildren]
    exact .cons (fun m hm => le_of_mem_cellNumbers hm) pairwise_cellNumbers

theorem rowsAt_ofGrowth {r part : Nat} {rows : List (List String)} (hr : r = before.length + 1)
    (h : Rooted 1 (before ++ ofRows part r rows)) (hpart : part < r) :
    List.Forall₂ (ofGrowth (before ++ ofRows part r rows)).RowAt (rowNumbers part r rows) rows := by
  induction rows generalizing before r with
  | nil => exact .nil
  | cons cells rest ih =>
    rw [ofRows, ← List.append_assoc] at h ⊢
    rw [rowNumbers]
    refine .cons (rowAt_ofGrowth hr h fun g hg => ?_)
      (ih (by rw [List.length_append, hr]; omega) h (Nat.lt_add_right _ hpart))
    exact (parent_of_mem_ofRows hg).imp_left (lt_of_eq_of_lt · hpart)

end Tree

namespace Growth

/-- The nodes of a document that holds a table only. Its rows stand in a section of their own. -/
def ofTable (rows : List (List String)) : List Growth :=
  [element "html" 0, element "head" 1, element "body" 1, element "table" 3] ++
    if rows = [] then [] else element "tbody" 4 :: ofRows 5 6 rows

theorem ofTable_of_ne {rows : List (List String)} (h : rows ≠ []) :
    ofTable rows = [element "html" 0, element "head" 1, element "body" 1, element "table" 3,
      element "tbody" 4] ++ ofRows 5 6 rows := by
  rw [ofTable, if_neg h]
  rfl

theorem rooted_ofTable (rows : List (List String)) : Rooted 1 (ofTable rows) := by
  by_cases h : rows = []
  · simp [ofTable, h, Rooted, element]
  · rw [ofTable_of_ne h]
    exact rooted_append.2 ⟨by simp [Rooted, element], rooted_ofRows (by decide)⟩

theorem numbers_ofTable (rows : List (List String)) :
    numbers (isNamed "tr") 1 (ofTable rows) = rowNumbers 5 6 rows := by
  by_cases h : rows = []
  · subst h
    decide
  · rw [ofTable_of_ne h, numbers_append]
    exact numbers_ofRows

end Growth

theorem Tree.rowsAt_ofTable (rows : List (List String)) :
    List.Forall₂ (ofGrowth (Growth.ofTable rows)).RowAt (Growth.rowNumbers 5 6 rows) rows := by
  by_cases h : rows = []
  · subst h
    exact .nil
  · have hrooted := Growth.rooted_ofTable rows
    rw [Growth.ofTable_of_ne h] at hrooted ⊢
    exact rowsAt_ofGrowth rfl hrooted (by decide)

end Gleaner.Markup
