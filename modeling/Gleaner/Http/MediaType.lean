import Gleaner.Http.Token

/-! Media types, such as `text/html; charset=utf-8`. -/
namespace Gleaner.Http

/-- A media type with its parameters in order. The letters of names are in lower case. -/
structure MediaType where
  type : String
  subtype : String
  parameters : List (String × String) := []
  deriving DecidableEq, Repr

/-- The characters of values in quotes. -/
def isQuotedChar (c : Char) : Bool := 0x20 ≤ c.toNat && c != '\x7f'

namespace MediaType

/-- A value in quotes, of which the first may be taken already: at least one character, which may be a
quote, and then a quote. -/
def quotedValue? : List Char → Option (List Char × List Char)
  | [] => none
  | c :: rest =>
      if !isQuotedChar c then none
      else
        let more := rest.takeWhile fun d => isQuotedChar d && d != '"'
        match rest.dropWhile fun d => isQuotedChar d && d != '"' with
        | '"' :: rest => some (c :: more, rest)
        | _ => none

/-- The value of a parameter with the text after it, which is empty or begins with the semicolon. -/
def value? (s : List Char) : Option (List Char × List Char) :=
  match s with
  | '"' :: s => do
      let (value, rest) ← quotedValue? s
      match rest.dropWhile (· = ' ') with
      | ';' :: rest => some (value, ';' :: rest)
      | [] => some (value, [])
      | _ => none
  | s =>
      let value := s.takeWhile isTokenChar
      match s.dropWhile isTokenChar with
      | [] => some (value, [])
      | ';' :: rest => if value.isEmpty then none else some (value, ';' :: rest)
      | _ => none

/-- The parameters of a text in which each one follows a semicolon; `fuel` bounds their number. -/
def parameters? : Nat → List Char → Option (List (String × String))
  | _, [] => some []
  | 0, _ => none
  | fuel + 1, _ :: s =>
      match s.dropWhile (· = ' ') with
      | [] => some []
      | s => do
          let name := s.takeWhile isTokenChar
          let '=' :: s := s.dropWhile isTokenChar | none
          if name.isEmpty then none
          else
            let (value, rest) ← value? s
            let others ← parameters? fuel rest
            some ((String.ofList (name.map Char.toLower), String.ofList value) :: others)

/-- The part of a text before the first character that is not of a token, and the rest. -/
def token (s : List Char) : List Char × List Char :=
  (s.takeWhile isTokenChar, s.dropWhile isTokenChar)

/-- Reads a media type. The one that stands for all types has no parameters. -/
def ofText? (text : String) : Option MediaType := do
  let (type, rest) := token text.toList
  let '/' :: rest := rest | none
  let (subtype, rest) := token rest
  if type.isEmpty || subtype.isEmpty then none
  else
    match rest with
    | [] | ';' :: _ =>
        let parameters ← parameters? (rest.length + 1) rest
        some ⟨String.ofList (type.map Char.toLower), String.ofList (subtype.map Char.toLower),
          parameters⟩
    | _ => none

/-- The parts of the subtype before and after its last plus sign, which does not stand at its start. -/
def subtypeParts (m : MediaType) : String × Option String :=
  let reversed := m.subtype.toList.reverse
  let suffix := reversed.takeWhile (· ≠ '+')
  match reversed.dropWhile (· ≠ '+') with
  | '+' :: c :: rest => (String.ofList (c :: rest).reverse, some (String.ofList suffix.reverse))
  | _ => (m.subtype, none)

def parameter? (m : MediaType) (name : String) : Option String := m.parameters.lookup name

/-- JSON, or a format that is based on it. -/
def isJson (m : MediaType) : Bool :=
  let (main, suffix) := m.subtypeParts
  m.type == "application" && (main == "json" || suffix == some "json")

/-- The boundary between the parts of a form. -/
def boundary? (m : MediaType) : Option String :=
  if m.type = "multipart" ∧ m.subtypeParts.1 = "form-data" then m.parameter? "boundary" else none

end MediaType

end Gleaner.Http
