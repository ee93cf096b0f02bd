import Gleaner.SortedMap

/-! JSON values. The members of an object stand in the order of the text, with all repetitions; the
canonical form of a value sorts them and keeps the last of each name. -/
namespace Gleaner

namespace Json

/-- Numbers as they are read: natural numbers below `2 ^ 64`, negative ones down to `- 2 ^ 63`, and
doubles, by their bits, for all others. -/
inductive Number
  | natural (n : Nat)
  | negative (n : Nat)
  | float (bits : UInt64)
  deriving DecidableEq, Repr

end Json

inductive Json
  | null
  | bool (b : Bool)
  | number (n : Json.Number)
  | string (s : String)
  | array (items : List Json)
  | object (members : List (String × Json))
  deriving Repr, Inhabited

namespace Json

mutual

/-- The value with the members of every object sorted by name, the last of each name only. -/
def canonical : Json → Json
  | .array items => .array (canonicalItems items)
  | .object members => .object (canonicalMembers members)
  | v => v

def canonicalItems : List Json → List Json
  | [] => []
  | v :: rest => v.canonical :: canonicalItems rest

/-- An earlier member gives way to a later one. -/
def canonicalMembers : List (String × Json) → List (String × Json)
  | [] => []
  | (k, v) :: rest =>
      let sorted := canonicalMembers rest
      if sorted.any (·.1 == k) then sorted else insertEntry k v.canonical sorted

end

mutual

/-- The members of every object have strictly increasing names. -/
inductive Canonical : Json → Prop
  | null : Canonical .null
  | bool (b : Bool) : Canonical (.bool b)
  | number (n : Number) : Canonical (.number n)
  | string (s : String) : Canonical (.string s)
  | array {items : List Json} : CanonicalItems items → Canonical (.array items)
  | object {members : List (String × Json)} :
      Increasing members → CanonicalMembers members → Canonical (.object members)

inductive CanonicalItems : List Json → Prop
  | nil : CanonicalItems []
  | cons {v : Json} {rest : List Json} :
      Canonical v → CanonicalItems rest → CanonicalItems (v :: rest)

inductive CanonicalMembers : List (String × Json) → Prop
  | nil : CanonicalMembers []
  | cons {k : String} {v : Json} {rest : List (String × Json)} :
      Canonical v → CanonicalMembers rest → CanonicalMembers ((k, v) :: rest)

end

/-- The value of the last member of the name. -/
def member? (v : Json) (name : String) : Option Json :=
  match v with
  | .object members => members.reverse.lookup name
  | _ => none

end Json

end Gleaner
