import Gleaner.Extraction.Error
import Gleaner.Service.Payload

/-! Why a request fails and how this is answered. -/
namespace Gleaner

inductive Refusal
  | missingFiles
  | duplicateFile (name : String)
  /-- The request is not acceptable as such. -/
  | rejected (status : Nat) (message : String)
  | extraction (e : ExtractionError)
  /-- The extraction did not come to an end. -/
  | unfinished
  deriving DecidableEq, Repr

namespace Refusal

def status : Refusal → Nat
  | .missingFiles | .duplicateFile _ => 400
  | .rejected status _ => status
  | .extraction e => if e.isPolicy then 422 else 400
  | .unfinished => 500

/-- What is told about an extraction that did not come to an end is nothing but that. -/
def message : Refusal → String
  | .missingFiles => "no files available."
  | .duplicateFile name => "only one '" ++ name ++ "' part is allowed"
  | .rejected _ message => message
  | .extraction e => e.message
  | .unfinished => "Internal server error"

def kind? : Refusal → Option String
  | .missingFiles | .duplicateFile _ => some "invalid_upload"
  | .rejected .. => some "invalid_request"
  | .extraction e => some e.kind
  | .unfinished => none

def field? : Refusal → Option String
  | .extraction e => e.field?
  | .duplicateFile name => some name
  | _ => none

def response (r : Refusal) : ErrorResponse := ⟨r.status, r.message, r.kind?, r.field?⟩

end Refusal

end Gleaner
