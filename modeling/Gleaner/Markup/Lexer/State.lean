import Gleaner.Markup.Token
import Gleaner.Markup.Reference

/-! The states of the lexer. Each state consumes one character at a time; whatever it has to remember
of a token that is not finished stands in the `Lexer` record or in the state itself. -/
namespace Gleaner.Markup

/-- Kinds of element content that is not markup, with the two comment levels inside a script. -/
inductive Raw
  | rcdata | rawtext | script | escaped | doubleEscaped
  deriving DecidableEq, Repr

inductive Quote
  | double | single | bare
  deriving DecidableEq, Repr

/-- The place that a character reference stands in. -/
inductive Site
  | text | rcdata | value (q : Quote)
  deriving DecidableEq, Repr

/-- What has been read of a character reference after its ampersand. In `number`, `value` is empty
until the first digit; in `name`, `best` is the longest complete name so far, by its length, with
its text. -/
inductive RefPart
  | start
  | hash
  | number (marker : List Char) (base : Nat) (value : Option Nat)
  | name (read : String) (best : Option (Nat × String))
  deriving DecidableEq, Repr

/-- The two identifiers of a document type. -/
inductive IdKind
  | publicId | systemId
  deriving DecidableEq, Repr

inductive LexState
  | data | plaintext
  | raw (k : Raw) | rawLess (k : Raw) | rawCloseOpen (k : Raw) | rawCloseName (k : Raw)
  | escapeStart | escapeStartDash | doubleEscapeStart | doubleEscapeEnd
  | escapedDash (k : Raw) | escapedDashDash (k : Raw)
  | tagOpen | closeTagOpen | tagName
  | beforeAttribute | attributeName | afterAttributeName
  | beforeValue | value (q : Quote) | afterValue | selfClosing
  | declaration (seen : String)
  | bogusComment | commentStart | commentStartDash | comment
  | commentLess | commentLessBang | commentLessBangDash | commentLessBangDashDash
  | commentEndDash | commentEnd | commentEndBang
  | doctype | beforeDoctypeName | doctypeName | afterDoctypeName (seen : String)
  | afterKeyword (k : IdKind) | beforeId (k : IdKind) | identifier (k : IdKind) (quote : Char)
  | afterId (k : IdKind) | betweenIds | bogusDoctype
  | cdata | cdataBracket | cdataEnd
  | reference (site : Site) (part : RefPart)
  deriving DecidableEq, Repr

/-- The tag being read; `attributes` holds the finished ones, the last first. -/
structure Draft where
  closing : Bool := false
  name : String := ""
  attributes : List Attribute := []
  attributeName : String := ""
  attributeValue : String := ""
  selfClosing : Bool := false
  deriving DecidableEq, Repr, Inhabited

/-- Lexer state: `lastStart` is the name of the last start tag, `buffer` the letters of a possible
end tag inside raw content. -/
structure Lexer where
  state : LexState := .data
  draft : Draft := {}
  lastStart : String := ""
  buffer : String := ""
  commentText : String := ""
  doctypeDraft : Doctype := {}

namespace Draft

/-- Keeps the attribute being read unless its name is taken. -/
def finishAttribute (d : Draft) : Draft :=
  if d.attributeName.isEmpty then d
  else if d.attributes.any (·.name == d.attributeName) then
    { d with attributeName := "", attributeValue := "" }
  else
    { d with attributes := ⟨d.attributeName, d.attributeValue⟩ :: d.attributes,
             attributeName := "", attributeValue := "" }

def beginAttribute (d : Draft) (c : Char) : Draft :=
  { d.finishAttribute with attributeName := c.toString }

def token (d : Draft) : Token :=
  let d := d.finishAttribute
  let tag : Tag := ⟨d.name, d.attributes.reverse, d.selfClosing⟩
  if d.closing then .endTag tag else .startTag tag

end Draft

namespace Lexer

/-- A lexer after a character, with the tokens that the character completed. -/
abbrev Move := Lexer × List Token

def goto (l : Lexer) (s : LexState) : Move :=
  ({ l with state := s }, [])

/-- Goes to `s` and gives `cs` as text. -/
def say (l : Lexer) (s : LexState) (cs : List Char) : Move :=
  ({ l with state := s }, cs.map .char)

/-- The move `m` with the text `cs` before its tokens. -/
def preceded (cs : List Char) (m : Move) : Move :=
  (m.1, cs.map .char ++ m.2)

/-- Gives the finished tag. -/
def emitTag (l : Lexer) : Move :=
  let started := if l.draft.closing then l.lastStart else l.draft.name
  ({ l with state := .data, draft := {}, lastStart := started }, [l.draft.token])

def emitComment (l : Lexer) : Move :=
  ({ l with state := .data, commentText := "" }, [.comment l.commentText])

def emitDoctype (l : Lexer) : Move :=
  ({ l with state := .data, doctypeDraft := {} }, [.doctype l.doctypeDraft])

def addToComment (l : Lexer) (s : LexState) (text : String) : Lexer :=
  { l with state := s, commentText := l.commentText ++ text }

/-- The end tag in `draft` closes the raw content that the last start tag opened. -/
def closesRaw (l : Lexer) : Bool :=
  l.draft.closing && l.draft.name == l.lastStart

end Lexer

/-- NUL is shown as U+FFFD wherever it is kept. -/
def shown (c : Char) : Char :=
  if c = '\x00' then '\uFFFD' else c

end Gleaner.Markup
