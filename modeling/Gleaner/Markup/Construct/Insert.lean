import Gleaner.Markup.Construct.State

/-! Putting new nodes into the tree. Usually they go to the end of the current element; misplaced
content of a table goes in front of the table instead. -/
namespace Gleaner.Markup

/-- Where a new node goes: the end of a node, or directly before a table. A table that stands nowhere
(it was taken out of the tree) is replaced by the element around it on the stack. -/
inductive Place
  | lastIn (p : NodeId)
  | beforeTable (table above : NodeId)
  deriving DecidableEq, Repr

namespace Builder

/-- The place for content that must not stand in the table that is open. -/
def fosterPlace (b : Builder) : List NodeId → Place
  | [] => .lastIn b.htmlElement
  | n :: rest =>
      if b.isHtml n "template" then .lastIn (b.tree.templateContent n)
      else if b.isHtml n "table" then .beforeTable n (rest.head?.getD b.htmlElement)
      else b.fosterPlace rest

/-- The place for a node that the rules put into `target`. -/
def placeFor (b : Builder) (target : NodeId) : Place :=
  if b.fosterParenting && b.isHtmlIn target Names.fosterTargets then b.fosterPlace b.stack
  else if b.isHtml target "template" then .lastIn (b.tree.templateContent target)
  else .lastIn target

end Builder

namespace Tree

def place (t : Tree) (n : NodeId) : Place → Tree
  | .lastIn p => t.append p n
  | .beforeTable table above =>
      if (t.parent? table).isSome then t.insertBefore table n else t.append above n

def placeChar (t : Tree) (c : Char) : Place → Tree
  | .lastIn p => t.appendChar p c
  | .beforeTable table above =>
      if (t.parent? table).isSome then t.insertCharBefore table c else t.appendChar above c

end Tree

namespace Builder

def insertNode (b : Builder) (n : NodeId) (target : NodeId) : Builder :=
  let place := b.placeFor target
  { b with tree := b.tree.place n place }

def insertChar (b : Builder) (c : Char) : Builder :=
  let place := b.placeFor b.current
  { b with tree := b.tree.placeChar c place }

def createNode (b : Builder) (c : Content) : Builder × NodeId :=
  let (tree, n) := b.tree.create c
  ({ b with tree := tree }, n)

def createElement (b : Builder) (e : Element) : Builder × NodeId :=
  let (tree, n) := b.tree.createElement e
  ({ b with tree := tree }, n)

def insertComment (b : Builder) (text : String) : Builder :=
  let (b, n) := b.createNode (.comment text)
  b.insertNode n b.current

/-- Adds a comment at the end of `p`. -/
def appendComment (b : Builder) (p : NodeId) (text : String) : Builder :=
  let (b, n) := b.createNode (.comment text)
  { b with tree := b.tree.append p n }

def insertDoctype (b : Builder) (d : Doctype) : Builder :=
  let (b, n) := b.createNode (.doctype d)
  { b with tree := b.tree.append Tree.root n }

/-- Creates an element at the current place without opening it. -/
def insertElement (b : Builder) (e : Element) : Builder × NodeId :=
  let (b, n) := b.createElement e
  (b.insertNode n b.current, n)

def openElement (b : Builder) (e : Element) : Builder × NodeId :=
  let (b, n) := b.insertElement e
  ({ b with stack := n :: b.stack }, n)

end Builder

/-- The HTML element that a start tag stands for. -/
def Tag.element (t : Tag) : Element :=
  ⟨.html, t.name, t.attributes.map fun a => ⟨.none, a.name, a.value⟩⟩

namespace Builder

/-- Inserts the element of a start tag and makes it the current one. -/
def start (b : Builder) (t : Tag) : Builder :=
  (b.openElement t.element).1

/-- Inserts an element that has no content. -/
def startVoid (b : Builder) (t : Tag) : Builder :=
  (b.insertElement t.element).1

/-- Opens an element that no tag asked for. -/
def startImplied (b : Builder) (name : String) : Builder :=
  (b.openElement { name := name }).1

/-- Creates the root element and opens it. -/
def startRoot (b : Builder) (t : Tag) : Builder :=
  let (b, n) := b.createElement t.element
  { b with tree := b.tree.append Tree.root n, stack := n :: b.stack }

/-- Inserts an element whose content the lexer is to read in the state `s`. -/
def startRaw (b : Builder) (t : Tag) (s : LexState) : Builder :=
  { b.start t with returnMode := b.mode, mode := .text, lexerRequest := some s }

/-- Adds the attributes of a repeated start tag to the element that is there already. -/
def mergeAttributes (b : Builder) (n : NodeId) (t : Tag) : Builder :=
  { b with tree := b.tree.addMissing n t.element.attrs }

end Builder

end Gleaner.Markup
