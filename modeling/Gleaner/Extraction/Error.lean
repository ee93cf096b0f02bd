import Gleaner.Charset.Encoding
import Gleaner.Spec.Basic

/-! Why an extraction fails. -/
namespace Gleaner

/-- A selector is not accepted. -/
structure QueryError where
  selector : String
  reason : String
  deriving DecidableEq, Repr

def QueryError.message (e : QueryError) : String :=
  "invalid selector '" ++ e.selector ++ "': " ++ e.reason

inductive ExtractionError
  | spec (e : SpecError)
  | document (e : Charset.DecodeError)
  | selector (field : String) (column : Option String) (e : QueryError)
  | missing (field : String) (column : Option String) (record : Option Nat)
  | noRecords (field : String)
  deriving DecidableEq, Repr

/-- The path of a field or of one of its columns. -/
def placePath (field : String) : Option String → String
  | some column => partPath field column
  | none => field

namespace ExtractionError

def kind : ExtractionError → String
  | .spec _ => "malformed_specification"
  | .document _ => "parse_error"
  | .selector .. => "selector_engine_failure"
  | .missing .. => "missing_required_field"
  | .noRecords _ => "no_records_found"

/-- The document does not have what the mode asks for. -/
def isPolicy : ExtractionError → Bool
  | .missing .. | .noRecords _ => true
  | _ => false

def field? : ExtractionError → Option String
  | .spec e => e.field?
  | .document _ => none
  | .selector field column _ | .missing field column _ => some (placePath field column)
  | .noRecords field => some field

def missingPlace (field : String) (column : Option String) (record : Option Nat) : String :=
  match column, record with
  | some column, some record => field ++ "[" ++ toString record ++ "]." ++ column
  | column, _ => placePath field column

def message : ExtractionError → String
  | .spec e => e.message
  | .document e => "unparsable document: " ++ e.message
  | .selector field column e =>
      "selector for '" ++ placePath field column ++ "' rejected by selector engine: '" ++
        e.selector ++ "': " ++ e.reason
  | .missing field column record =>
      "missing required field '" ++ missingPlace field column record ++ "'"
  | .noRecords field => "no records found for '" ++ field ++ "'"

end ExtractionError

end Gleaner
