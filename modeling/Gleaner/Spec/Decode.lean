import Gleaner.Spec.Basic

/-! Specifications as JSON: a field is a selector, or an object with the row selector under `root` and
one member for each column. -/
namespace Gleaner.Spec

def columnOfMember (field : String) : String × Json → Except SpecError Column
  | (name, .string selector) => .ok ⟨name, selector⟩
  | (name, other) => .error (.field (partPath field name) (.notSelector other.kind))

def groupOfMembers (field : String) (members : List (String × Json)) : Except SpecError Group :=
  match members.lookup rootName with
  | some (.string root) => do
      let columns ← (members.filter (·.1 != rootName)).mapM (columnOfMember field)
      pure ⟨root, columns⟩
  | some other => .error (.field (partPath field rootName) (.notSelector other.kind))
  | none => .error (.field field .noRoot)

def fieldOfMember : String × Json → Except SpecError Field
  | (name, .string selector) => .ok ⟨name, .single selector⟩
  | (name, .object members) => do
      let g ← groupOfMembers name members
      pure ⟨name, .group g⟩
  | (name, other) => .error (.field name (.notTarget other.kind))

/-- Reads a specification off a canonical value. The shape of all fields is looked at before their
content. -/
def ofJson : Json → Except SpecError Spec
  | .object members => do
      let fields ← members.mapM fieldOfMember
      ofFields fields
  | other => .error (.payload (.notObject other.kind))

/-- Reads a specification off a JSON text. -/
def decode (bytes : List UInt8) : Except SpecError Spec :=
  match Json.read bytes with
  | .ok v => ofJson v.canonical
  | .error f => .error (.payload (.notJson f))

/-- The JSON value of a field. -/
def targetJson : Target → Json
  | .single s => .string s
  | .group g =>
      .object (insertEntry rootName (.string g.root)
        (g.columns.map fun c => (c.name, .string c.selector)))

end Gleaner.Spec
