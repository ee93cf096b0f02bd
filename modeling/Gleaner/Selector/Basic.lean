/-! Selectors: conditions on an element and on the elements around it. -/
namespace Gleaner.Selector

/-- How an element is related to the one that the selector names before it. -/
inductive Combinator
  | descendant | child | nextSibling | laterSibling
  deriving DecidableEq, Repr

inductive AttributeTest
  | equals | includes | dashes | starts | ends | contains
  deriving DecidableEq, Repr

/-- When the case of letters in an attribute value is ignored. -/
inductive CaseRule
  | exact | ignored | ignoredInHtml
  deriving DecidableEq, Repr

structure AttributeCondition where
  /-- The attribute may be in any namespace, not only in none. -/
  anySpace : Bool
  name : String
  /-- The test, the value to compare with, and how to compare; none if the attribute need only exist. -/
  test : Option (AttributeTest × String × CaseRule)
  deriving DecidableEq, Repr

/-- A condition on the position of an element among its siblings: the position is `a * n + b` for some
natural number `n`, counted from either end, among all elements or those of the same name. -/
structure NthCondition where
  fromEnd : Bool
  sameName : Bool
  a : Int
  b : Int
  deriving DecidableEq, Repr

mutual

/-- One condition on an element. -/
inductive Simple
  | named (name : String)
  | any
  | inNoNamespace
  | id (name : String)
  | hasClass (name : String)
  | attribute (c : AttributeCondition)
  | nth (c : NthCondition)
  | root
  | empty
  | scope
  /-- The element that a relative selector starts from. -/
  | anchor
  | matchesAny (alternatives : List Complex)
  | matchesNone (alternatives : List Complex)
  /-- Some element matches one of the alternatives with this one as their anchor. -/
  | leadsTo (alternatives : List Complex)

/-- The conditions on the element itself, then those on the elements that lead to it, the nearest
first. -/
inductive Complex
  | mk (subject : List Simple) (context : List (Combinator × List Simple))

end

/-- Attributes of HTML whose values are compared without regard to case. -/
def caselessAttributes : List String :=
  ["accept", "accept-charset", "align", "alink", "axis", "bgcolor", "charset", "checked", "clear",
   "codetype", "color", "compact", "declare", "defer", "dir", "direction", "disabled", "enctype",
   "face", "frame", "hreflang", "http-equiv", "lang", "language", "link", "media", "method",
   "multiple", "nohref", "noresize", "noshade", "nowrap", "readonly", "rel", "rev", "rules",
   "scope", "scrolling", "selected", "shape", "target", "text", "type", "valign", "valuetype",
   "vlink"]

end Gleaner.Selector
