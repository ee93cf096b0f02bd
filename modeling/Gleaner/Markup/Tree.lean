import Gleaner.Markup.Token

/-! Document trees as numbered nodes. A node's number is its place in the order of creation, which need
not be the order in the document: a node may be created at the end of a table and placed before it. -/
namespace Gleaner.Markup

inductive Namespace
  | html | svg | mathml
  deriving DecidableEq, Repr, Inhabited

/-- The namespaces that a foreign attribute may have. -/
inductive AttrSpace
  | none | xlink | xml | xmlns
  deriving DecidableEq, Repr, Inhabited

structure Attr where
  space : AttrSpace
  name : String
  value : String
  deriving DecidableEq, Repr, Inhabited

structure Element where
  space : Namespace := .html
  name : String
  attrs : List Attr := []
  deriving DecidableEq, Repr, Inhabited

/-- The content of a template stands in a fragment of its own, the first child of the element. -/
inductive Content
  | document
  | fragment
  | doctype (d : Doctype)
  | comment (text : String)
  | text (s : String)
  | element (e : Element)
  deriving DecidableEq, Repr, Inhabited

abbrev NodeId := Nat

structure Node where
  content : Content
  parent : Option NodeId := none
  children : Array NodeId := #[]
  deriving Repr, Inhabited

/-- The nodes in order of creation; node 0 is the document. -/
structure Tree where
  nodes : Array Node := #[{ content := .document }]
  deriving Repr, Inhabited

namespace Tree

/-- The number of the document node. -/
def root : NodeId := 0

def size (t : Tree) : Nat := t.nodes.size

def node? (t : Tree) (n : NodeId) : Option Node := t.nodes[n]?

def children (t : Tree) (n : NodeId) : Array NodeId :=
  ((t.node? n).map (·.children)).getD #[]

def parent? (t : Tree) (n : NodeId) : Option NodeId :=
  (t.node? n).bind (·.parent)

def element? (t : Tree) (n : NodeId) : Option Element :=
  match t.node? n with
  | some ⟨.element e, _, _⟩ => some e
  | _ => none

def text? (t : Tree) (n : NodeId) : Option String :=
  match t.node? n with
  | some ⟨.text s, _, _⟩ => some s
  | _ => none

def modify (t : Tree) (n : NodeId) (f : Node → Node) : Tree :=
  ⟨t.nodes.modify n f⟩

/-- Creates a node that has no parent yet. -/
def create (t : Tree) (c : Content) : Tree × NodeId :=
  let n := t.nodes.size
  (⟨t.nodes.push { content := c }⟩, n)

/-- Creates an element; a template gets the fragment for its content. -/
def createElement (t : Tree) (e : Element) : Tree × NodeId :=
  let n := t.nodes.size
  if e.space = .html ∧ e.name = "template" then
    (⟨(t.nodes.push { content := .element e, children := #[n + 1] }).push
      { content := .fragment, parent := some n }⟩, n)
  else t.create (.element e)

/-- The fragment that holds the content of a template. -/
def templateContent (t : Tree) (n : NodeId) : NodeId :=
  (t.children n)[0]?.getD n

/-- Takes the node away from its parent. -/
def detach (t : Tree) (n : NodeId) : Tree :=
  match t.parent? n with
  | none => t
  | some p =>
      (t.modify p fun node => { node with children := node.children.filter (· != n) }).modify n
        fun node => { node with parent := none }

/-- Makes `child` the last child of `p`. -/
def append (t : Tree) (p child : NodeId) : Tree :=
  ((t.detach child).modify child fun node => { node with parent := some p }).modify p
    fun node => { node with children := node.children.push child }

/-- Puts `child` directly before its new sibling, which has a parent. -/
def insertBefore (t : Tree) (sibling child : NodeId) : Tree :=
  let t := t.detach child
  match t.parent? sibling with
  | none => t
  | some p =>
      (t.modify child fun node => { node with parent := some p }).modify p fun node =>
        { node with children := node.children.flatMap fun c =>
            if c = sibling then #[child, c] else #[c] }

/-- Adds a character to the text node `n`. -/
def pushChar (t : Tree) (n : NodeId) (c : Char) : Tree :=
  t.modify n fun node =>
    match node with
    | ⟨.text s, p, ch⟩ => ⟨.text (s.push c), p, ch⟩
    | node => node

/-- Adds a character at the end of `p`, to its last child if that is text. -/
def appendChar (t : Tree) (p : NodeId) (c : Char) : Tree :=
  match (t.children p).back? with
  | some last =>
      if (t.text? last).isSome then t.pushChar last c
      else
        let (t, n) := t.create (.text c.toString)
        t.append p n
  | none =>
      let (t, n) := t.create (.text c.toString)
      t.append p n

/-- The child of the same parent directly before `n`. -/
def previous? (t : Tree) (n : NodeId) : Option NodeId := do
  let siblings := t.children (← t.parent? n)
  let i ← siblings.idxOf? n
  if i = 0 then none else siblings[i - 1]?

/-- Adds a character directly before `sibling`, to the text that already stands there if any. -/
def insertCharBefore (t : Tree) (sibling : NodeId) (c : Char) : Tree :=
  match t.previous? sibling with
  | some last =>
      if (t.text? last).isSome then t.pushChar last c
      else
        let (t, n) := t.create (.text c.toString)
        t.insertBefore sibling n
  | none =>
      let (t, n) := t.create (.text c.toString)
      t.insertBefore sibling n

/-- Moves all children of `source` to the end of `target`. -/
def moveChildren (t : Tree) (source target : NodeId) : Tree :=
  (t.children source).foldl (fun t c => t.append target c) t

/-- Adds the attributes whose names the element `n` does not have yet. -/
def addMissing (t : Tree) (n : NodeId) (attrs : List Attr) : Tree :=
  t.modify n fun node =>
    match node with
    | ⟨.element e, p, ch⟩ =>
        let attrs := attrs.foldl (fun have_ a =>
          if have_.any (fun b => b.space = a.space ∧ b.name = a.name) then have_ else have_ ++ [a])
          e.attrs
        ⟨.element { e with attrs := attrs }, p, ch⟩
    | node => node

end Tree

end Gleaner.Markup
