import Gleaner.Http.Headers
import Gleaner.Http.MediaType
import Gleaner.Text.Quoted
import Gleaner.Text.Utf8

/-! Forms of several parts. A form is read from its beginning, and what is wrong with a part does not
concern the parts before it. -/
namespace Gleaner.Http

/-- What the headers of a part say of it. -/
structure PartHead where
  name : Option String
  contentType : Option String
  deriving DecidableEq, Repr

inductive FormFault
  | incomplete
  | headers
  | incompletePart (name : Option String)
  deriving DecidableEq, Repr

def FormFault.message : FormFault → String
  | .incomplete => "incomplete multipart stream"
  | .headers => "failed to read headers"
  | .incompletePart name =>
      "field " ++ Text.quoted (name.getD "<unknown>") ++ " received with incomplete data"

/-- The parts in order, up to the end of the form or to what is wrong with it. The data of a part may be
cut off, so that only its head is known. -/
inductive Form
  | closed
  | broken (fault : FormFault)
  | cut (head : PartHead)
  | part (head : PartHead) (data : List UInt8) (rest : Form)
  deriving DecidableEq, Repr

/-- The bytes before and after the first occurrence of the pattern. -/
def splitAt? (pattern : List UInt8) : List UInt8 → Option (List UInt8 × List UInt8)
  | [] => if pattern.isEmpty then some ([], []) else none
  | b :: bytes =>
      match List.isPrefixOf? pattern (b :: bytes) with
      | some rest => some ([], rest)
      | none => (splitAt? pattern bytes).map fun (before, rest) => (b :: before, rest)

def dashes : List UInt8 := [0x2D, 0x2D]

namespace PartHead

/-- The bytes in quotes, of which the first is taken; a backslash keeps a quote from ending them. -/
def quotedName? : List UInt8 → Option (List UInt8)
  | [] => none
  | 0x22 :: _ => some []
  | 0x5C :: 0x22 :: s => (quotedName? s).map (0x22 :: ·)
  | b :: s => (quotedName? s).map (b :: ·)

def nameMark : List UInt8 := Text.Utf8.encode "name=".toList

/-- What may stand before the mark: a blank or a semicolon. -/
def isMarkBorder (b : UInt8) : Bool := Text.isSpace (Char.ofNat b.toNat) || b == 0x3B

/-- The value after the first mark with a border before it; `free` says whether there is one before the
first byte. -/
def nameFrom? (free : Bool) : List UInt8 → Option (List UInt8)
  | [] => none
  | b :: s =>
      match free, List.isPrefixOf? nameMark (b :: s) with
      | true, some (0x22 :: value) => quotedName? value
      | true, some value => some (value.takeWhile (· ≠ 0x3B))
      | _, _ => nameFrom? (isMarkBorder b) s

/-- The name in a disposition, if it is a text. -/
def nameOf? (disposition : List UInt8) : Option String := do
  let name ← nameFrom? true disposition
  let text ← Text.Utf8.decode? name
  pure (String.ofList text)

def ofHeaders (headers : Headers) : PartHead where
  name := (headers.last? "content-disposition").bind nameOf?
  contentType := do
    let text ← (headers.last? "content-type").bind headerText?
    let _ ← MediaType.ofText? text
    pure text

/-- How many headers a part may have. -/
def maxHeaders : Nat := 32

/-- The head of a part from the bytes of its headers. -/
def ofBytes? (bytes : List UInt8) : Option PartHead := (Headers.read? bytes maxHeaders).map ofHeaders

end PartHead

namespace Form

/-- The bytes after a delimiter as a form, where `delimiter` begins with a line end; `fuel` bounds the number
of parts. -/
def afterDelimiter (delimiter : List UInt8) : Nat → List UInt8 → Form
  | 0, _ => .broken .incomplete
  | fuel + 1, bytes =>
      if dashes.isPrefixOf bytes then .closed
      else
        match List.isPrefixOf? lineEnd (bytes.dropWhile isPadding) with
        | none => .broken .incomplete
        | some bytes =>
            match splitAt? (lineEnd ++ lineEnd) bytes with
            | none => .broken .incomplete
            | some (headers, bytes) =>
                match PartHead.ofBytes? (headers ++ lineEnd ++ lineEnd) with
                | none => .broken .headers
                | some head =>
                    match splitAt? delimiter bytes with
                    | none => .cut head
                    | some (data, bytes) => .part head data (afterDelimiter delimiter fuel bytes)

/-- Reads a form; what stands before the first delimiter is passed over. -/
def read (boundary : String) (bytes : List UInt8) : Form :=
  let delimiter := dashes ++ Text.Utf8.encode boundary.toList
  match splitAt? delimiter bytes with
  | none => .broken .incomplete
  | some (_, rest) => afterDelimiter (lineEnd ++ delimiter) (rest.length + 1) rest

end Form

end Gleaner.Http
