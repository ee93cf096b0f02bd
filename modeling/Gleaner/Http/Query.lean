import Gleaner.Text.Utf8

/-! Queries: pairs of a name and a value, encoded as the fields of a form. -/
namespace Gleaner.Http

def hexValue? (c : Char) : Option Nat :=
  if c.isDigit then some (c.toNat - '0'.toNat)
  else if 'a' ≤ c ∧ c ≤ 'f' then some (c.toNat - 'a'.toNat + 10)
  else if 'A' ≤ c ∧ c ≤ 'F' then some (c.toNat - 'A'.toNat + 10)
  else none

/-- The byte of two hexadecimal digits. -/
def hexByte? (a b : Char) : Option UInt8 := do
  pure (UInt8.ofNat (16 * (← hexValue? a) + (← hexValue? b)))

/-- The bytes that a text stands for: a plus is a blank, and a percent sign with two digits is a byte. -/
def formBytes : List Char → List UInt8
  | [] => []
  | '+' :: s => 0x20 :: formBytes s
  | '%' :: a :: b :: s =>
      match hexByte? a b with
      | some byte => byte :: formBytes s
      | none => 0x25 :: formBytes (a :: b :: s)
  | c :: s => String.utf8EncodeChar c ++ formBytes s

def formText (s : List Char) : String := String.ofList (Text.Utf8.decodeLenient (formBytes s))

/-- The parts of a text between the separators. -/
def splitAll (sep : Char) : List Char → List (List Char)
  | [] => [[]]
  | c :: s =>
      match splitAll sep s with
      | part :: parts => if c = sep then [] :: part :: parts else (c :: part) :: parts
      | [] => [[c]]

/-- The pair of a part, which ends the name at the first equals sign. -/
def formPair (part : List Char) : String × String :=
  (formText (part.takeWhile (· ≠ '=')), formText ((part.dropWhile (· ≠ '=')).drop 1))

/-- The pairs of a query in order; empty parts are none. -/
def queryPairs (query : String) : List (String × String) :=
  ((splitAll '&' query.toList).filter (!·.isEmpty)).map formPair

end Gleaner.Http
