import Gleaner.Markup.Tree
import Gleaner.Selector.Basic
import Gleaner.Text.Blank

/-! Which elements of a tree a selector matches. -/
namespace Gleaner

namespace Markup.Tree

def isElement (t : Tree) (n : NodeId) : Bool := (t.element? n).isSome

/-- The element that `n` is a child of. -/
def parentElement? (t : Tree) (n : NodeId) : Option NodeId :=
  (t.parent? n).filter t.isElement

def ancestorsFrom (t : Tree) (n : NodeId) : Nat → List NodeId
  | 0 => []
  | fuel + 1 =>
      match t.parentElement? n with
      | none => []
      | some p => p :: t.ancestorsFrom p fuel

/-- The elements around `n`, the innermost first. -/
def ancestors (t : Tree) (n : NodeId) : List NodeId := t.ancestorsFrom n t.size

/-- The elements with the same parent, `n` among them, in order. -/
def siblings (t : Tree) (n : NodeId) : List NodeId :=
  match t.parent? n with
  | none => [n]
  | some p => (t.children p).toList.filter t.isElement

/-- The siblings before `n`, the nearest first. -/
def earlierSiblings (t : Tree) (n : NodeId) : List NodeId :=
  ((t.siblings n).takeWhile (· != n)).reverse

/-- The siblings after `n`, the nearest first. -/
def laterSiblings (t : Tree) (n : NodeId) : List NodeId :=
  ((t.siblings n).dropWhile (· != n)).tail

mutual

/-- The nodes below `n` and `n` itself, in document order; `fuel` bounds the depth. -/
def subtreeWith (t : Tree) : Nat → NodeId → List NodeId
  | 0, n => [n]
  | fuel + 1, n => n :: t.forestWith fuel (t.children n).toList

def forestWith (t : Tree) (fuel : Nat) : List NodeId → List NodeId
  | [] => []
  | n :: rest => t.subtreeWith fuel n ++ t.forestWith fuel rest

end

/-- The nodes below `n` and `n` itself, in document order. -/
def subtree (t : Tree) (n : NodeId) : List NodeId := t.subtreeWith t.size n

/-- The elements below `n`, in document order. -/
def descendants (t : Tree) (n : NodeId) : List NodeId :=
  (t.subtree n).filter fun x => x != n && t.isElement x

/-- All text at and below `n`. -/
def textAt (t : Tree) (n : NodeId) : String :=
  String.join ((t.subtree n).filterMap t.text?)

/-- The element is the outermost one of the document. -/
def isRoot (t : Tree) (n : NodeId) : Bool := t.parent? n == some root

/-- No element and no text stands in `n`. -/
def hasNoContent (t : Tree) (n : NodeId) : Bool :=
  (t.children n).all fun c => !t.isElement c && (t.text? c).isNone

end Markup.Tree

namespace Selector

open Markup

/-- The lower-case form of a name if the element is an HTML one, else the name as written. -/
def nameFor (e : Element) (name : String) : String :=
  if e.space = .html then Text.asciiLower name else name

def Combinator.related (t : Tree) (n : NodeId) : Combinator → List NodeId
  | .descendant => t.ancestors n
  | .child => (t.parentElement? n).toList
  | .nextSibling => (t.earlierSiblings n).take 1
  | .laterSibling => t.earlierSiblings n

/-- The words of a text, which blanks of the grammar of selectors separate; two blanks in a row enclose
an empty word. -/
def spaceSeparated : List Char → List (List Char)
  | [] => [[]]
  | c :: rest =>
      match spaceSeparated rest with
      | [] => [[c]]
      | word :: words => if Text.isSpace c then [] :: word :: words else (c :: word) :: words

/-- One of the lists that end `s` begins with `part`. -/
def hasInfix (part : List Char) : List Char → Bool
  | [] => part.isEmpty
  | c :: rest => part.isPrefixOf (c :: rest) || hasInfix part rest

def AttributeTest.holds (test : AttributeTest) (value wanted : List Char) : Bool :=
  match test with
  | .equals => value == wanted
  | .starts => !wanted.isEmpty && wanted.isPrefixOf value
  | .ends => !wanted.isEmpty && wanted.isSuffixOf value
  | .contains => !wanted.isEmpty && hasInfix wanted value
  | .includes => !wanted.isEmpty && (spaceSeparated value).contains wanted
  | .dashes => value == wanted || (wanted ++ ['-']).isPrefixOf value

def CaseRule.ignores (rule : CaseRule) (e : Element) : Bool :=
  match rule with
  | .exact => false
  | .ignored => true
  | .ignoredInHtml => e.space = .html

def AttributeCondition.holds (c : AttributeCondition) (e : Element) : Bool :=
  e.attrs.any fun a =>
    (c.anySpace || a.space = .none) && a.name == nameFor e c.name &&
      match c.test with
      | none => true
      | some (test, wanted, rule) =>
          let fold (s : String) := if rule.ignores e then s.toList.map Char.toLower else s.toList
          test.holds (fold a.value) (fold wanted)

/-- The position `i`, which counts from one, is `a * n + b` for some natural number `n`. -/
def isPosition (a b : Int) (i : Nat) : Bool :=
  let d := (i : Int) - b
  if 2147483647 < d then false
  else if a = 0 then d = 0
  else d.tmod a = 0 && 0 ≤ d.tdiv a

def NthCondition.holds (c : NthCondition) (t : Tree) (n : NodeId) : Bool :=
  let others := if c.fromEnd then t.laterSiblings n else t.earlierSiblings n
  let same (m : NodeId) : Bool :=
    !c.sameName || (t.element? m).map (fun e => (e.space, e.name)) ==
      (t.element? n).map (fun e => (e.space, e.name))
  isPosition c.a c.b ((others.filter same).length + 1)

def hasId (e : Element) (id : String) : Bool :=
  (e.attrs.find? (·.name == "id")).any (·.value == id)

/-- Class names are separated by blanks of any kind. -/
def hasClass (e : Element) (name : String) : Bool :=
  (e.attrs.filter (·.name == "class")).any fun a =>
    (Text.wordsBy Text.isBlank a.value.toList).contains name.toList

/-- The elements that a selector refers to by `:scope` and by the beginning of a relative selector. -/
structure Context where
  scope : Option NodeId := none
  anchor : Option NodeId := none

/-- The elements that a relative selector may lead to from `n`. -/
def reachable (t : Tree) (n : NodeId) : List NodeId :=
  t.descendants n ++ (t.laterSiblings n).flatMap fun s => s :: t.descendants s

mutual

def Simple.holds (t : Tree) (cx : Context) (n : NodeId) : Simple → Bool
  | .named name => (t.element? n).any fun e => e.name == nameFor e name
  | .any => true
  | .inNoNamespace => false
  | .id id => (t.element? n).any (hasId · id)
  | .hasClass name => (t.element? n).any (hasClass · name)
  | .attribute c => (t.element? n).any c.holds
  | .nth c => c.holds t n
  | .root => t.isRoot n
  | .empty => t.hasNoContent n
  | .scope => match cx.scope with
      | some s => n == s
      | none => t.isRoot n
  | .anchor => cx.anchor == some n
  | .matchesAny l => Complex.someHolds t cx n l
  | .matchesNone l => !Complex.someHolds t cx n l
  | .leadsTo l =>
      (reachable t n).any fun m => Complex.someHolds t { cx with anchor := some n } m l

def Simple.allHold (t : Tree) (cx : Context) (n : NodeId) : List Simple → Bool
  | [] => true
  | s :: rest => s.holds t cx n && Simple.allHold t cx n rest

def Complex.holds (t : Tree) (cx : Context) (n : NodeId) : Complex → Bool
  | .mk subject context => Simple.allHold t cx n subject && Simple.contextHolds t cx n context

/-- Some element in the right place satisfies the first entry, and so on from there. -/
def Simple.contextHolds (t : Tree) (cx : Context) (n : NodeId) :
    List (Combinator × List Simple) → Bool
  | [] => true
  | (c, conditions) :: rest =>
      (c.related t n).any fun m =>
        Simple.allHold t cx m conditions && Simple.contextHolds t cx m rest

def Complex.someHolds (t : Tree) (cx : Context) (n : NodeId) : List Complex → Bool
  | [] => false
  | c :: rest => c.holds t cx n || Complex.someHolds t cx n rest

end

end Selector

end Gleaner
