import Gleaner.Json.Decode
import Gleaner.Json.Write

/-! Results of an extraction and their JSON form. -/
namespace Gleaner

/-- One row of a group: a text for each column. -/
abbrev Record := SortedMap String

inductive FieldValue
  | text (s : String)
  | records (rows : List Record)
  deriving DecidableEq, Repr

/-- A value for each field. -/
abbrev Extract := SortedMap FieldValue

def FieldValue.text? : FieldValue → Option String
  | .text s => some s
  | .records _ => none

def FieldValue.records? : FieldValue → Option (List Record)
  | .text _ => none
  | .records rows => some rows

namespace Extract

def text? (r : Extract) (name : String) : Option String :=
  (r.get? name).bind (·.text?)

def records? (r : Extract) (name : String) : Option (List Record) :=
  (r.get? name).bind (·.records?)

end Extract

def Record.toJson (r : Record) : Json :=
  .object (r.entries.map fun e => (e.1, .string e.2))

def FieldValue.toJson : FieldValue → Json
  | .text s => .string s
  | .records rows => .array (rows.map Record.toJson)

def Extract.toJson (r : Extract) : Json :=
  .object (r.entries.map fun e => (e.1, e.2.toJson))

/-! Reading results back. -/

def textOfJson? : Json → Option String
  | .string s => some s
  | _ => none

/-- An object with texts only; the last member of each name counts. -/
def Record.ofJson? : Json → Option Record
  | .object members => do
      let entries ← members.mapM fun e => (textOfJson? e.2).map (Prod.mk e.1)
      pure (SortedMap.ofList entries)
  | _ => none

def FieldValue.ofJson? : Json → Option FieldValue
  | .string s => some (.text s)
  | .array items => (items.mapM Record.ofJson?).map .records
  | _ => none

namespace Json.Reader

def fieldValue (depth : Nat) : Reader FieldValue := do
  match FieldValue.ofJson? (← value depth) with
  | some v => pure v
  | none => refuse (.noVariant "FieldValue")

def extract (depth : Nat) : Reader Extract := mapOf depth fieldValue

end Json.Reader

end Gleaner
