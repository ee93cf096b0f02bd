/-! Reading bounded natural numbers. -/
namespace Gleaner.Text

inductive NaturalFault
  | empty | notADigit | tooLarge
  deriving DecidableEq, Repr

def NaturalFault.reason : NaturalFault → String
  | .empty => "cannot parse integer from empty string"
  | .notADigit => "invalid digit found in string"
  | .tooLarge => "number too large to fit in target type"

/-- Continues the number `n`; the first character that makes it fail decides the fault. -/
def naturalFrom (max : Nat) (n : Nat) : List Char → Except NaturalFault Nat
  | [] => .ok n
  | c :: rest =>
      if !c.isDigit then .error .notADigit
      else
        let n := n * 10 + (c.toNat - '0'.toNat)
        if max < n then .error .tooLarge else naturalFrom max n rest

/-- Decimal digits with an optional plus sign, for a number of at most `max`. -/
def natural (max : Nat) (s : List Char) : Except NaturalFault Nat :=
  match s with
  | [] => .error .empty
  | ['+'] => .error .notADigit
  | '+' :: rest => naturalFrom max 0 rest
  | s => naturalFrom max 0 s

/-- The words `true` and `false`. -/
def boolean? (s : List Char) : Option Bool :=
  if s = ['t', 'r', 'u', 'e'] then some true
  else if s = ['f', 'a', 'l', 's', 'e'] then some false
  else none

/-- What is said about a text that is no boolean. -/
def booleanReason : String := "provided string was not `true` or `false`"

end Gleaner.Text
