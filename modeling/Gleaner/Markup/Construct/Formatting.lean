import Gleaner.Markup.Construct.Insert

/-! Formatting elements, which are opened again where their end was misplaced, and the rules that
rearrange the tree when such an element is closed while a block is still open inside it. -/
namespace Gleaner.Markup

/-- The same name and the same attributes in any order. -/
def Tag.sameElement (s t : Tag) : Bool :=
  s.name == t.name && s.attributes.length == t.attributes.length &&
    s.attributes.all t.attributes.contains

namespace Formatting

/-- The entry is for the element `n`. -/
def isFor (n : NodeId) : Formatting → Bool
  | .marker => false
  | .element m _ => m == n

def sameElement (t : Tag) : Formatting → Bool
  | .marker => false
  | .element _ s => s.sameElement t

end Formatting

namespace Builder

/-- The entry needs no reopening, nor do those before it. -/
def settled (b : Builder) : Formatting → Bool
  | .marker => true
  | .element n _ => b.stack.contains n

/-- Opens one element again and puts its entry back. -/
def reopen (b : Builder) : Formatting → Builder
  | .marker => b
  | .element _ t =>
      let (b, n) := b.openElement t.element
      { b with formatting := .element n t :: b.formatting }

/-- Opens the formatting elements again that were closed since the last settled entry, the oldest
first. -/
def reconstruct (b : Builder) : Builder :=
  let (lost, kept) := b.formatting.span (!b.settled ·)
  lost.reverse.foldl reopen { b with formatting := kept }

/-- The entries after the last marker. -/
def recentFormatting (b : Builder) : List Formatting :=
  b.formatting.takeWhile (· != .marker)

/-- Opens a formatting element. Of more than three equal ones since the last marker the oldest is
forgotten. -/
def startFormatting (b : Builder) (t : Tag) : Builder :=
  let (recent, older) := b.formatting.span (· != .marker)
  let recent :=
    if 3 ≤ recent.countP (Formatting.sameElement t) then
      (recent.reverse.eraseP (Formatting.sameElement t)).reverse
    else recent
  let (b, n) := b.openElement t.element
  { b with formatting := .element n t :: (recent ++ older) }

def forget (b : Builder) (n : NodeId) : Builder :=
  { b with formatting := b.formatting.eraseP (Formatting.isFor n) }

/-! Closing an element that has no rule of its own. -/

/-- The stack below the nearest open element `name`, unless a special element stands above it. -/
def belowNearest (b : Builder) (name : String) : List NodeId → Option (List NodeId)
  | [] => none
  | n :: rest =>
      if b.isHtml n name then some rest
      else if b.isSpecial n then none
      else b.belowNearest name rest

def closeGeneric (b : Builder) (name : String) : Builder :=
  match b.belowNearest name b.stack with
  | some rest => { b with stack := rest }
  | none => b

/-! The adoption of content: `</b>` inside a block that `<b>` contains splits the `b` in two, one
around the block and one inside it. -/

/-- The state of the walk from the block to the formatting element: the node moved last, and whether
the new entry goes right after that of the node (otherwise it takes the place of the closed one). -/
structure Adoption where
  builder : Builder
  last : NodeId
  after : Option NodeId := none

/-- One element between the formatting element and the block: dropped from the stack, or replaced by a
copy that takes in the node moved last. Only the first three can be copied. -/
def adoptStep (block : NodeId) (a : Adoption) (index : Nat) (n : NodeId) : Adoption :=
  let b := a.builder
  if 3 ≤ index then { a with builder := (b.forget n).removeFromStack n }
  else
    match b.formatting.find? (Formatting.isFor n) with
    | some (.element _ t) =>
        let (b, copy) := b.createElement t.element
        let b := { b with
          stack := b.stack.map fun m => if m = n then copy else m,
          formatting := b.formatting.map fun e => if e.isFor n then .element copy t else e,
          tree := b.tree.append copy a.last }
        ⟨b, copy, if a.last = block then some copy else a.after⟩
    | _ => { a with builder := b.removeFromStack n }

def adoptWalk (block : NodeId) (a : Adoption) (index : Nat) : List NodeId → Adoption
  | [] => a
  | n :: rest => adoptWalk block (adoptStep block a index n) (index + 1) rest

/-- Splits the formatting element `n` at the block. -/
def adopt (b : Builder) (n : NodeId) (t : Tag) (block : NodeId) : Builder :=
  let below := (b.stack.dropWhile (· != n)).tail
  let ancestor := below.head?.getD b.htmlElement
  let between := ((b.stack.dropWhile (· != block)).tail).takeWhile (· != n)
  let a := adoptWalk block ⟨b, block, none⟩ 0 between
  let b := a.builder
  let b := { b with tree := b.tree.detach a.last }
  let b := b.insertNode a.last ancestor
  let (b, copy) := b.createElement t.element
  let b := { b with tree := (b.tree.moveChildren block copy).append block copy }
  let entry := Formatting.element copy t
  let formatting := match a.after with
    | none => b.formatting.map fun e => if e.isFor n then entry else e
    | some m =>
        (b.formatting.flatMap fun e => if e.isFor m then [entry, e] else [e]).eraseP
          (Formatting.isFor n)
  let stack := (b.stack.erase n).flatMap fun m => if m = block then [copy, m] else [m]
  { b with formatting := formatting, stack := stack }

/-- One round for the end tag `name`; true if there may be more to split. -/
def adoptionRound (b : Builder) (name : String) : Builder × Bool :=
  let entry := b.recentFormatting.findSome? fun
    | .element n t => if t.name = name then some (n, t) else none
    | .marker => none
  match entry with
  | none => (b.closeGeneric name, false)
  | some (n, t) =>
      if !b.stack.contains n then (b.forget n, false)
      else if !b.inScopeBy .default (· == n) then (b, false)
      else
        match (b.stack.takeWhile (· != n)).reverse.find? b.isSpecial with
        | none => ({ b.forget n with stack := (b.stack.dropWhile (· != n)).tail }, false)
        | some block => (b.adopt n t block, true)

def adoptionRounds (name : String) : Nat → Builder → Builder
  | 0, b => b
  | rounds + 1, b =>
      match b.adoptionRound name with
      | (b, true) => adoptionRounds name rounds b
      | (b, false) => b

/-- Closes the formatting element `name`; at most eight blocks are split off. -/
def closeFormatting (b : Builder) (name : String) : Builder :=
  if b.currentIs name && !b.formatting.any (Formatting.isFor b.current) then b.pop
  else adoptionRounds name 8 b

/-- A link inside a link closes the outer one first. -/
def closeOuterLink (b : Builder) : Builder :=
  let outer := b.recentFormatting.findSome? fun
    | .element n _ => if b.isHtml n "a" then some n else none
    | .marker => none
  match outer with
  | none => b
  | some n => ((b.closeFormatting "a").forget n).removeFromStack n

end Builder

end Gleaner.Markup
