import Gleaner.Http.Query
import Gleaner.Json.Reader
import Gleaner.Service.Payload
import Gleaner.Text.Natural

/-! The choice of a mode in the query of a request. -/
namespace Gleaner

inductive QueryFault
  | repeated (name : String)
  | unknownMode (value : String)
  | notBoolean
  deriving DecidableEq, Repr

def QueryFault.reason : QueryFault → String
  | .repeated name => (Json.DataFault.duplicate name).text
  | .unknownMode value => "mode: " ++ (Json.DataFault.unknownVariant value "lenient" "strict").text
  | .notBoolean => "require_records: " ++ Text.booleanReason

def QueryFault.message (f : QueryFault) : String :=
  "Failed to deserialize query string: " ++ f.reason

/-- The kind of that exact name. -/
def ModeKind.ofName? (name : String) : Option ModeKind :=
  [ModeKind.lenient, .strict].find? (·.name == name)

namespace ModeChoice

/-- Takes in a pair of the query. A choice is made at most once; other names have no meaning. -/
def add (c : ModeChoice) (pair : String × String) : Except QueryFault ModeChoice :=
  if pair.1 = "mode" then
    if c.mode.isSome then .error (.repeated "mode")
    else match ModeKind.ofName? pair.2 with
      | some k => .ok { c with mode := some k }
      | none => .error (.unknownMode pair.2)
  else if pair.1 = "require_records" then
    if c.requireRecords.isSome then .error (.repeated "require_records")
    else match Text.boolean? pair.2.toList with
      | some b => .ok { c with requireRecords := some b }
      | none => .error .notBoolean
  else .ok c

def ofQuery (query : String) : Except QueryFault ModeChoice :=
  (Http.queryPairs query).foldlM add {}

end ModeChoice

end Gleaner
