import Gleaner.Markup.Construct.Names
import Gleaner.Markup.Construct.DocumentMode
import Gleaner.Markup.Lexer.State
import Gleaner.Text.Blank

/-! The state of the tree construction: the tree so far, the stack of open elements and what the
insertion modes remember. Both stacks are lists with the newest entry first. -/
namespace Gleaner.Markup

inductive Mode
  | initial | beforeHtml | beforeHead | inHead | afterHead | inBody | text
  | inTable | inTableText | inCaption | inColumnGroup | inTableBody | inRow | inCell
  | inSelect | inSelectInTable | inTemplate
  | afterBody | inFrameset | afterFrameset | afterAfterBody | afterAfterFrameset
  deriving DecidableEq, Repr, Inhabited

/-- An entry of the list of active formatting elements; the tag is kept to open the element again. -/
inductive Formatting
  | marker
  | element (n : NodeId) (tag : Tag)
  deriving DecidableEq, Repr

structure Builder where
  tree : Tree := {}
  mode : Mode := .initial
  /-- The mode to return to after raw content or table text. -/
  returnMode : Mode := .inBody
  templateModes : List Mode := []
  /-- Open elements, the current one first. -/
  stack : List NodeId := []
  formatting : List Formatting := []
  head : Option NodeId := none
  form : Option NodeId := none
  framesetOk : Bool := true
  /-- The next token is dropped if it is a line feed. -/
  skipLineFeed : Bool := false
  fosterParenting : Bool := false
  /-- Text read inside a table, the last character first. -/
  tableText : List Char := []
  documentMode : DocumentMode := .standard
  /-- The lexer state that the last start tag asks for. -/
  lexerRequest : Option LexState := none

/-- Whether a token is finished with or goes through the rules again, in the new mode. -/
inductive Verdict
  | done | again
  deriving DecidableEq, Repr

namespace Builder

abbrev Outcome := Builder × Verdict

def done (b : Builder) : Outcome := (b, .done)

def again (b : Builder) (m : Mode) : Outcome := ({ b with mode := m }, .again)

def inMode (b : Builder) (m : Mode) : Builder := { b with mode := m }

/-- The namespace and the name of an element. -/
def nameOf (b : Builder) (n : NodeId) : Namespace × String :=
  match b.tree.element? n with
  | some e => (e.space, e.name)
  | none => (.html, "")

def isHtml (b : Builder) (n : NodeId) (name : String) : Bool :=
  b.nameOf n == (.html, name)

def isHtmlIn (b : Builder) (n : NodeId) (names : List String) : Bool :=
  let (s, name) := b.nameOf n
  s == .html && names.contains name

def isSpecial (b : Builder) (n : NodeId) : Bool :=
  b.isHtmlIn n Names.special

def current (b : Builder) : NodeId :=
  b.stack.head?.getD Tree.root

def currentIs (b : Builder) (name : String) : Bool :=
  b.isHtml b.current name

def currentIn (b : Builder) (names : List String) : Bool :=
  b.isHtmlIn b.current names

def hasOpen (b : Builder) (name : String) : Bool :=
  b.stack.any (b.isHtml · name)

/-- The outermost open element. -/
def htmlElement (b : Builder) : NodeId :=
  b.stack.getLast?.getD Tree.root

/-- The `body` element, if it is the second open element. -/
def bodyElement? (b : Builder) : Option NodeId :=
  match b.stack.reverse with
  | _ :: n :: _ => if b.isHtml n "body" then some n else none
  | _ => none

def notFramesetOk (b : Builder) : Builder := { b with framesetOk := false }

/-! Searching and shortening the stack. -/

/-- Searches from the current element outwards; an element that ends the scope ends the search. -/
def searchScope (b : Builder) (scope : Scope) (wanted : NodeId → Bool) : List NodeId → Bool
  | [] => false
  | n :: rest =>
      if wanted n then true
      else
        let (s, name) := b.nameOf n
        if scope.stopsAt s name then false else b.searchScope scope wanted rest

def inScopeBy (b : Builder) (scope : Scope) (wanted : NodeId → Bool) : Bool :=
  b.searchScope scope wanted b.stack

def inScope (b : Builder) (scope : Scope) (name : String) : Bool :=
  b.inScopeBy scope (b.isHtml · name)

def pop (b : Builder) : Builder := { b with stack := b.stack.tail }

/-- Pops up to and including the first element that satisfies `p`. -/
def popThrough (b : Builder) (p : NodeId → Bool) : Builder :=
  { b with stack := (b.stack.dropWhile (!p ·)).tail }

def popThroughName (b : Builder) (name : String) : Builder :=
  b.popThrough (b.isHtml · name)

/-- Pops elements until the current one satisfies `p`. -/
def popUntil (b : Builder) (p : NodeId → Bool) : Builder :=
  { b with stack := b.stack.dropWhile (!p ·) }

def popUntilIn (b : Builder) (names : List String) : Builder :=
  b.popUntil (b.isHtmlIn · names)

/-- Ends the elements whose end is implied. -/
def closeImplied (b : Builder) (names : List String) : Builder :=
  b.popUntil (!b.isHtmlIn · names)

def closeImpliedExcept (b : Builder) (name : String) : Builder :=
  b.closeImplied (Names.impliedEnd.filter (· != name))

def removeFromStack (b : Builder) (n : NodeId) : Builder :=
  { b with stack := b.stack.erase n }

def closeParagraph (b : Builder) : Builder :=
  (b.closeImpliedExcept "p").popThroughName "p"

def closeParagraphInScope (b : Builder) : Builder :=
  if b.inScope .button "p" then b.closeParagraph else b

/-- Forgets the formatting elements up to the last marker. -/
def clearToMarker (b : Builder) : Builder :=
  { b with formatting := (b.formatting.dropWhile (· != .marker)).tail }

def pushMarker (b : Builder) : Builder :=
  { b with formatting := .marker :: b.formatting }

/-! The mode that the open elements call for. -/

/-- `select` counts as inside a table only if a table is open outside it and no template between. -/
def selectMode (b : Builder) : List NodeId → Mode
  | [] => .inSelect
  | n :: rest =>
      if b.isHtml n "template" then .inSelect
      else if b.isHtml n "table" then .inSelectInTable
      else b.selectMode rest

def modeFor (b : Builder) : List NodeId → Mode
  | [] => .inBody
  | n :: rest =>
      match b.nameOf n with
      | (.html, name) =>
          if name = "select" then b.selectMode rest
          else if (name = "td" ∨ name = "th") ∧ rest ≠ [] then .inCell
          else if name = "tr" then .inRow
          else if Names.tableSections.contains name then .inTableBody
          else if name = "caption" then .inCaption
          else if name = "colgroup" then .inColumnGroup
          else if name = "table" then .inTable
          else if name = "template" then b.templateModes.head?.getD .inBody
          else if name = "head" ∧ rest ≠ [] then .inHead
          else if name = "body" then .inBody
          else if name = "frameset" then .inFrameset
          else if name = "html" then (if b.head.isNone then .beforeHead else .afterHead)
          else b.modeFor rest
      | _ => b.modeFor rest

def resetMode (b : Builder) : Mode := b.modeFor b.stack

end Builder

end Gleaner.Markup
