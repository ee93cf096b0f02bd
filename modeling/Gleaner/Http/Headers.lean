import Gleaner.Http.Token
import Gleaner.Text.Blank

/-! Headers: lines of a name and a value. -/
namespace Gleaner.Http

/-- The headers in order; one name may occur several times. -/
abbrev Headers := List (String × List UInt8)

/-- The bytes of the first header of that name, in any case of its letters. -/
def Headers.first? (h : Headers) (name : String) : Option (List UInt8) :=
  (h.find? fun e => Text.sameAsciiCaseless e.1 name).map (·.2)

/-- The last header of that name. -/
def Headers.last? (h : Headers) (name : String) : Option (List UInt8) :=
  Headers.first? h.reverse name

/-- A header value is a text if it has only the visible characters of ASCII and tabs. -/
def headerText? (value : List UInt8) : Option String :=
  if value.all fun b => (0x20 ≤ b && b < 0x7F) || b == 0x09 then
    some (String.ofList (value.map fun b => Char.ofNat b.toNat))
  else none

def Headers.text? (h : Headers) (name : String) : Option String :=
  (h.first? name).bind headerText?

def lineEnd : List UInt8 := [0x0D, 0x0A]

def isPadding (b : UInt8) : Bool := b == 0x20 || b == 0x09

namespace Headers

def isNameByte (b : UInt8) : Bool := b < 0x80 && isTokenChar (Char.ofNat b.toNat)

def isValueByte (b : UInt8) : Bool := b == 0x09 || (0x20 ≤ b && b != 0x7F)

/-- The rest after the end of a line, for which a line feed is enough. -/
def afterLine? : List UInt8 → Option (List UInt8)
  | 0x0D :: 0x0A :: rest => some rest
  | 0x0A :: rest => some rest
  | _ => none

def trimPadding (bytes : List UInt8) : List UInt8 :=
  ((bytes.dropWhile isPadding).reverse.dropWhile isPadding).reverse

/-- The headers up to the first empty line, at most `left` of them. -/
def read? (bytes : List UInt8) (left : Nat) : Option Headers :=
  match afterLine? bytes, left with
  | some _, _ => some []
  | none, 0 => none
  | none, left + 1 =>
      let name := bytes.takeWhile isNameByte
      match bytes.dropWhile isNameByte with
      | 0x3A :: bytes => do
          if name.isEmpty then none
          else
            let value := bytes.takeWhile isValueByte
            let rest ← afterLine? (bytes.dropWhile isValueByte)
            let others ← read? rest left
            some ((String.ofList (name.map fun b => Char.ofNat b.toNat), trimPadding value) :: others)
      | _ => none

end Headers

end Gleaner.Http
