import Gleaner.Text.Blank

/-! How strictly missing content is treated. -/
namespace Gleaner

inductive ModeKind
  | lenient | strict
  deriving DecidableEq, Repr, Inhabited

/-- In lenient mode missing content gives empty texts and lists. In strict mode it is an error; whether
a group must have a record is a matter of its own. -/
inductive ExtractionMode
  | lenient
  | strict (requireRecords : Bool)
  deriving DecidableEq, Repr

instance : Inhabited ExtractionMode := ⟨.lenient⟩

namespace ModeKind

def name : ModeKind → String
  | .lenient => "lenient"
  | .strict => "strict"

/-- Reads a kind of mode, blanks around it and the case of its letters aside. -/
def ofText (s : String) : Except String ModeKind :=
  let word := Text.asciiLower (String.ofList (Text.trim s.toList))
  if word = "lenient" then .ok .lenient
  else if word = "strict" then .ok .strict
  else .error ("unknown mode '" ++ word ++ "', expected 'lenient' or 'strict'")

end ModeKind

namespace ExtractionMode

def of (kind : ModeKind) (requireRecords : Bool) : ExtractionMode :=
  match kind with
  | .lenient => .lenient
  | .strict => .strict requireRecords

/-- The strict mode that requires records. -/
def strictest : ExtractionMode := .strict true

def kind : ExtractionMode → ModeKind
  | .lenient => .lenient
  | .strict _ => .strict

def isStrict : ExtractionMode → Bool
  | .lenient => false
  | .strict _ => true

def requiresRecords : ExtractionMode → Bool
  | .lenient => false
  | .strict requireRecords => requireRecords

end ExtractionMode

end Gleaner
