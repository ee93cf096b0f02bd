import Gleaner.Decimal.Double
import Gleaner.Text.Quoted

/-! Reading JSON texts byte by byte. A failure says what is wrong and where: at the last byte taken, at
the byte after it, or, if the text is well formed there but means nothing, at the byte where this was
noticed. The first failure ends the reading. -/
namespace Gleaner.Json

/-- What stands in the text instead of the expected thing. -/
inductive Found
  | null
  | bool (b : Bool)
  | natural (n : Nat)
  | negative (n : Nat)
  | float (bits : UInt64)
  | string (s : String)
  | sequence
  | map
  deriving DecidableEq, Repr

def Found.text : Found → String
  | .null => "null"
  | .bool b => "boolean `" ++ toString b ++ "`"
  | .natural n => "integer `" ++ toString n ++ "`"
  | .negative n => "integer `-" ++ toString n ++ "`"
  | .float bits => "floating point `" ++ Decimal.doubleText bits ++ "`"
  | .string s => "string " ++ Text.quoted s
  | .sequence => "sequence"
  | .map => "map"

/-- Faults of the text itself. -/
inductive SyntaxFault
  | endInValue | endInObject | endInList | endInString
  | expectedColon | expectedListEnd | expectedObjectEnd | expectedWord | expectedValue
  | trailingComma | trailingText | keyNotString
  | badNumber | numberTooLarge
  | badEscape | controlCharacter | badCodePoint | loneSurrogate | brokenSurrogate
  | tooDeep
  deriving DecidableEq, Repr

/-- Faults of what the text says. -/
inductive DataFault
  | wrongType (found : Found) (expected : String)
  | wrongValue (found : Found) (expected : String)
  | wrongLength (n : Nat) (expected : String)
  | missing (name : String)
  | duplicate (name : String)
  | unknownVariant (name first second : String)
  | noVariant (type : String)
  deriving DecidableEq, Repr

inductive Problem
  | inSyntax (f : SyntaxFault)
  | inData (f : DataFault)
  deriving DecidableEq, Repr

def SyntaxFault.text : SyntaxFault → String
  | .endInValue => "EOF while parsing a value"
  | .endInObject => "EOF while parsing an object"
  | .endInList => "EOF while parsing a list"
  | .endInString => "EOF while parsing a string"
  | .expectedColon => "expected `:`"
  | .expectedListEnd => "expected `,` or `]`"
  | .expectedObjectEnd => "expected `,` or `\x7d`"
  | .expectedWord => "expected ident"
  | .expectedValue => "expected value"
  | .trailingComma => "trailing comma"
  | .trailingText => "trailing characters"
  | .keyNotString => "key must be a string"
  | .badNumber => "invalid number"
  | .numberTooLarge => "number out of range"
  | .badEscape => "invalid escape"
  | .controlCharacter => "control character (\\u0000-\\u001F) found while parsing a string"
  | .badCodePoint => "invalid unicode code point"
  | .loneSurrogate => "lone leading surrogate in hex escape"
  | .brokenSurrogate => "unexpected end of hex escape"
  | .tooDeep => "recursion limit exceeded"

def DataFault.text : DataFault → String
  | .wrongType found expected => "invalid type: " ++ found.text ++ ", expected " ++ expected
  | .wrongValue found expected => "invalid value: " ++ found.text ++ ", expected " ++ expected
  | .wrongLength n expected => "invalid length " ++ toString n ++ ", expected " ++ expected
  | .missing name => "missing field `" ++ name ++ "`"
  | .duplicate name => "duplicate field `" ++ name ++ "`"
  | .unknownVariant name first second =>
      "unknown variant `" ++ name ++ "`, expected `" ++ first ++ "` or `" ++ second ++ "`"
  | .noVariant type => "data did not match any variant of untagged enum " ++ type

def Problem.text : Problem → String
  | .inSyntax f => f.text
  | .inData f => f.text

/-- A step on the way from the whole value to a part of it; `unknown` is a member whose name could not
be read. -/
inductive Segment
  | member (name : String)
  | item (index : Nat)
  | unknown
  deriving DecidableEq, Repr

def pathTextFrom (first : Bool) : List Segment → String
  | [] => ""
  | .item i :: rest => "[" ++ toString i ++ "]" ++ pathTextFrom false rest
  | .member name :: rest => (if first then "" else ".") ++ name ++ pathTextFrom false rest
  | .unknown :: rest => (if first then "" else ".") ++ "?" ++ pathTextFrom false rest

/-- The way to a part of a value as a text such as `a.b[0]`. -/
def pathText (path : List Segment) : String := pathTextFrom true path

/-- A line and a column, the latter counted in bytes from the beginning of the line. -/
structure Position where
  line : Nat := 1
  column : Nat := 0
  deriving DecidableEq, Repr

def Position.after (p : Position) (b : UInt8) : Position :=
  if b = 0x0A then ⟨p.line + 1, 0⟩ else ⟨p.line, p.column + 1⟩

structure Failure where
  problem : Problem
  /-- None as long as a fault of the data has not been given its place. -/
  position : Option Position
  path : List Segment := []
  deriving DecidableEq, Repr

/-- The failure as a message, without the path. -/
def Failure.text (f : Failure) : String :=
  match f.position with
  | none => f.problem.text
  | some p =>
      f.problem.text ++ " at line " ++ toString p.line ++ " column " ++ toString p.column

/-- The failure as a message that begins with the path, if anything is known of it. -/
def Failure.textWithPath (f : Failure) : String :=
  if f.path.all (· = .unknown) then f.text else pathText f.path ++ ": " ++ f.text

/-- The bytes that are left and the position of the first of them. -/
structure Cursor where
  rest : List UInt8
  position : Position := {}

/-- A computation that takes bytes away; a failure also leaves a cursor behind. -/
abbrev Reader := EStateM Failure Cursor

def isBlankByte (b : UInt8) : Bool :=
  b == 0x20 || b == 0x0A || b == 0x09 || b == 0x0D

namespace Cursor

def advance (c : Cursor) : Cursor :=
  match c.rest with
  | [] => c
  | b :: rest => ⟨rest, c.position.after b⟩

def skipBlanksFrom : List UInt8 → Position → Cursor
  | [], p => ⟨[], p⟩
  | b :: rest, p => if isBlankByte b then skipBlanksFrom rest (p.after b) else ⟨b :: rest, p⟩

def skipBlanks (c : Cursor) : Cursor := skipBlanksFrom c.rest c.position

/-- The position behind the next byte. -/
def nextPosition (c : Cursor) : Position := c.advance.position

end Cursor

namespace Reader

/-- Fails at the bytes taken so far. -/
def fail {α : Type} (f : SyntaxFault) : Reader α := fun c =>
  .error ⟨.inSyntax f, some c.position, []⟩ c

/-- Fails at the next byte. -/
def failNext {α : Type} (f : SyntaxFault) : Reader α := fun c =>
  .error ⟨.inSyntax f, some c.nextPosition, []⟩ c

/-- Fails for a fault that has no place yet. -/
def refuse {α : Type} (f : DataFault) : Reader α := fun c =>
  .error ⟨.inData f, none, []⟩ c

def peek : Reader (Option UInt8) := fun c => .ok c.rest.head? c

def advance : Reader Unit := fun c => .ok () c.advance

def next : Reader (Option UInt8) := fun c => .ok c.rest.head? c.advance

/-- Skips blanks and looks at the next byte. -/
def token : Reader (Option UInt8) := fun c =>
  let c := c.skipBlanks
  .ok c.rest.head? c

/-- Gives a failure of `r` that has no place the position where `r` stopped. -/
def placed {α : Type} (r : Reader α) : Reader α := fun c =>
  match r c with
  | .error ⟨p, none, path⟩ c => .error ⟨p, some c.position, path⟩ c
  | result => result

/-- Notes that `r` reads the part `s` of the value. -/
def under {α : Type} (s : Segment) (r : Reader α) : Reader α := fun c =>
  match r c with
  | .error e c => .error { e with path := s :: e.path } c
  | result => result

/-- Reads the contents and then the end, even if the contents are refused; the first failure counts. -/
def closedBy {α : Type} (contents : Reader α) (close : Reader Unit) : Reader α := fun c =>
  match contents c with
  | .ok a c =>
      match close c with
      | .ok _ c => .ok a c
      | .error e c => .error e c
  | .error e c =>
      match close c with
      | .ok _ c => .error e c
      | .error _ c => .error e c

/-- Enters a list or an object if the nesting is still allowed; `depth` counts what is left. -/
def nested {α : Type} (depth : Nat) (r : Nat → Reader α) : Reader α :=
  match depth with
  | 0 | 1 => failNext .tooDeep
  | d + 1 => do
      advance
      r d

/-- How deep lists and objects may be nested, counting the one that is refused. -/
def maxDepth : Nat := 128

/-- Takes the rest of a word whose first letter is taken already. -/
def word : List UInt8 → Reader Unit
  | [] => pure ()
  | b :: rest => do
      match ← next with
      | none => fail .endInValue
      | some c => if c = b then word rest else fail .expectedWord

def wordNull : Reader Unit := word [0x75, 0x6C, 0x6C]
def wordTrue : Reader Unit := word [0x72, 0x75, 0x65]
def wordFalse : Reader Unit := word [0x61, 0x6C, 0x73, 0x65]

/-- The bytes that are left. -/
def remaining : Reader Nat := fun c => .ok c.rest.length c

/-- Nothing but blanks is left. -/
def finish : Reader Unit := do
  match ← token with
  | none => pure ()
  | some _ => failNext .trailingText

/-- The result of reading a whole text. -/
def run {α : Type} (r : Reader α) (bytes : List UInt8) : Except Failure α :=
  match r ⟨bytes, {}⟩ with
  | .ok a _ => .ok a
  | .error e _ => .error e

/-- Reads a value that is the whole text. -/
def runAll {α : Type} (r : Reader α) (bytes : List UInt8) : Except Failure α :=
  run (do
    let a ← r
    finish
    pure a) bytes

end Reader

end Gleaner.Json
