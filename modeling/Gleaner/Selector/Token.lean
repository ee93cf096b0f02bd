import Gleaner.Decimal.Single
import Gleaner.Text.Quoted

/-! Tokens of selectors, and the two ways in which messages show them. -/
namespace Gleaner.Selector

/-- A number as written. -/
structure Numeral where
  /-- The sign, if one is written: true for minus. -/
  sign : Option Bool := none
  whole : List Nat := []
  fraction : List Nat := []
  /-- The sign (true for minus) and the digits of the exponent. -/
  exponent : Option (Bool × List Nat) := none
  deriving DecidableEq, Repr, Inhabited

inductive Token
  | ident (name : String)
  | atKeyword (name : String)
  | hash (name : String)
  | idHash (name : String)
  | string (text : String)
  | badString (text : String)
  | url (text : String)
  | badUrl (text : String)
  | number (n : Numeral)
  | percentage (n : Numeral)
  | dimension (n : Numeral) (unit : String)
  | blank (text : String)
  | delim (c : Char)
  | colon | semicolon | comma
  | includes | dashes | starts | ends | contains
  | commentOpen | commentClose
  | function (name : String)
  | parenthesis | square | curly
  | closeParenthesis | closeSquare | closeCurly
  deriving DecidableEq, Repr, Inhabited

namespace Numeral

def signed (n : Numeral) : Bool := n.sign.isSome

def negative (n : Numeral) : Bool := n.sign == some true

def digitsValue (digits : List Nat) : Nat := digits.foldl (fun v d => v * 10 + d) 0

/-- The bounds of whole numbers. -/
def maxInt : Int := 2147483647

def minInt : Int := -2147483648

/-- The nearest whole number within the bounds, if the number is written as a whole one. -/
def int? (n : Numeral) : Option Int :=
  if n.fraction.isEmpty && n.exponent.isNone then
    let v : Int := digitsValue n.whole
    some (max minInt (min maxInt (if n.negative then -v else v)))
  else none

def wholeFloat (digits : List Nat) : Float := digits.foldl (fun v d => v * 10.0 + d.toFloat) 0.0

/-- The digits after the point, each weighted by a power of `0.1`. -/
def fractionFloat (digits : List Nat) : Float :=
  (digits.foldl (fun (v, factor) d => (v + d.toFloat * factor, factor * 0.1)) (0.0, 0.1)).1

def toFloat (n : Numeral) : Float :=
  let v := wholeFloat n.whole + fractionFloat n.fraction
  let v := if n.negative then -1.0 * v else 1.0 * v
  match n.exponent with
  | none => v
  | some (negative, digits) =>
      let e := wholeFloat digits
      v * Float.pow 10.0 (if negative then -1.0 * e else 1.0 * e)

def bits (n : Numeral) : UInt32 := n.toFloat.toFloat32.toBits

def percentBits (n : Numeral) : UInt32 := (n.toFloat / 100.0).toFloat32.toBits

/-- The number in front of a message; a sign is shown once more. -/
def shownAs (n : Numeral) (bits : UInt32) : String :=
  let positive := bits.toNat < 0x80000000 && bits != 0
  if n.signed then (if positive then "+" else "-") ++ Decimal.singleText bits
  else Decimal.singleText bits

end Numeral

namespace Token

/-- The token as a message shows it inside a sentence. -/
def shown : Token → String
  | .ident name => name
  | .atKeyword name => "@" ++ name
  | .hash name | .idHash name => "#" ++ name
  | .string text => "\"" ++ text ++ "\""
  | .badString text => "<Bad String " ++ Text.quoted text ++ ">"
  | .url text => "url(" ++ text ++ ")"
  | .badUrl text => "<Bad URL " ++ Text.quoted text ++ ">"
  | .number n => n.shownAs n.bits
  | .percentage n => n.shownAs n.percentBits ++ "%"
  | .dimension n unit => n.shownAs n.bits ++ unit
  | .blank _ => " "
  | .delim c => c.toString
  | .colon => ":"
  | .semicolon => ";"
  | .comma => ","
  | .includes => "~="
  | .dashes => "|="
  | .starts => "^="
  | .ends => "$="
  | .contains => "*="
  | .commentOpen => "<!--"
  | .commentClose => "-->"
  | .function name => name ++ "()"
  | .parenthesis => "<("
  | .square => "<["
  | .curly => "<\x7b"
  | .closeParenthesis => "<)"
  | .closeSquare => "<]"
  | .closeCurly => "<\x7d"

/-- Lines further inside by one step. -/
def indented (lines : List String) : List String := lines.map ("    " ++ ·)

/-- `name(`, the lines of the argument, and `)`. -/
def wrapped (name : String) (argument : List String) : List String :=
  match argument.reverse with
  | [] => [name]
  | last :: before =>
      (name ++ "(") :: indented (before.reverse ++ [last ++ ","]) ++ [")"]

def ofText (name text : String) : List String := wrapped name [Text.quoted text]

/-- The lines that show a number with the name `value` for its value. -/
def numeralLines (n : Numeral) (value : String) (bits : UInt32) : List String :=
  ["has_sign: " ++ toString n.signed ++ ",",
   value ++ ": " ++ Decimal.singleInspected bits ++ ","] ++
  match n.int? with
  | some i => ["int_value: Some(", "    " ++ toString i ++ ",", "),"]
  | none => ["int_value: None,"]

def braced (name : String) (members : List String) : List String :=
  (name ++ " \x7b") :: indented members ++ ["\x7d"]

/-- The token taken apart, line by line. -/
def inspected : Token → List String
  | .ident name => ofText "Ident" name
  | .atKeyword name => ofText "AtKeyword" name
  | .hash name => ofText "Hash" name
  | .idHash name => ofText "IDHash" name
  | .string text => ofText "QuotedString" text
  | .badString text => ofText "BadString" text
  | .url text => ofText "UnquotedUrl" text
  | .badUrl text => ofText "BadUrl" text
  | .number n => braced "Number" (numeralLines n "value" n.bits)
  | .percentage n => braced "Percentage" (numeralLines n "unit_value" n.percentBits)
  | .dimension n unit =>
      braced "Dimension" (numeralLines n "value" n.bits ++ ["unit: " ++ Text.quoted unit ++ ","])
  | .blank text => ofText "WhiteSpace" text
  | .delim c => wrapped "Delim" [Text.quotedChar c]
  | .colon => ["Colon"]
  | .semicolon => ["Semicolon"]
  | .comma => ["Comma"]
  | .includes => ["IncludeMatch"]
  | .dashes => ["DashMatch"]
  | .starts => ["PrefixMatch"]
  | .ends => ["SuffixMatch"]
  | .contains => ["SubstringMatch"]
  | .commentOpen => ["CDO"]
  | .commentClose => ["CDC"]
  | .function name => ofText "Function" name
  | .parenthesis => ["ParenthesisBlock"]
  | .square => ["SquareBracketBlock"]
  | .curly => ["CurlyBracketBlock"]
  | .closeParenthesis => ["CloseParenthesis"]
  | .closeSquare => ["CloseSquareBracket"]
  | .closeCurly => ["CloseCurlyBracket"]

/-- A token that is wrong wherever it stands. -/
def isBroken : Token → Bool
  | .badUrl _ | .badString _ | .closeParenthesis | .closeSquare | .closeCurly => true
  | _ => false

end Token

end Gleaner.Selector
