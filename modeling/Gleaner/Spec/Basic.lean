import Gleaner.Json.Read
import Gleaner.Text.Blank

/-! Specifications of what to extract: named fields, each the text of one element or a group of
records. A specification is valid by construction. -/
namespace Gleaner

/-- The member of a group that is its row selector and thus no column name. -/
def rootName : String := "root"

structure Column where
  name : String
  selector : String
  deriving DecidableEq, Repr, Inhabited

/-- Rows found by `root`, the columns looked up inside each row. -/
structure Group where
  root : String
  columns : List Column
  deriving DecidableEq, Repr, Inhabited

inductive Target
  | single (selector : String)
  | group (g : Group)
  deriving DecidableEq, Repr, Inhabited

structure Field where
  name : String
  target : Target
  deriving DecidableEq, Repr, Inhabited

/-- The path of a part of a field. -/
def partPath (field part : String) : String := field ++ "." ++ part

/-- What kind of JSON value stands where a selector is expected. -/
inductive ValueKind
  | null | boolean | number | string | array | object
  deriving DecidableEq, Repr

def ValueKind.text : ValueKind → String
  | .null => "null"
  | .boolean => "a boolean"
  | .number => "a number"
  | .string => "a string"
  | .array => "an array"
  | .object => "an object"

def Json.kind : Json → ValueKind
  | .null => .null
  | .bool _ => .boolean
  | .number _ => .number
  | .string _ => .string
  | .array _ => .array
  | .object _ => .object

inductive PayloadFault
  | notJson (f : Json.Failure)
  | notObject (found : ValueKind)
  | other (reason : String)
  deriving DecidableEq, Repr

inductive FieldFault
  | duplicateField
  | duplicateColumn
  | blankSelector
  | noColumns
  | noRoot
  | notTarget (found : ValueKind)
  | notSelector (found : ValueKind)
  | other (reason : String)
  deriving DecidableEq, Repr

/-- Why a specification is refused; a fault of a field comes with the path of its place. -/
inductive SpecError
  | payload (fault : PayloadFault)
  | field (path : String) (fault : FieldFault)
  deriving DecidableEq, Repr

def PayloadFault.reason : PayloadFault → String
  | .notJson f => "invalid JSON: " ++ f.text
  | .notObject found => "expected an object of fields, got " ++ found.text
  | .other reason => reason

def FieldFault.reason : FieldFault → String
  | .duplicateField => "duplicate field name"
  | .duplicateColumn => "duplicate column name"
  | .blankSelector => "selector must not be empty"
  | .noColumns => "group needs at least one column besides '" ++ rootName ++ "'"
  | .noRoot => "group object is missing the '" ++ rootName ++ "' selector"
  | .notTarget found => "expected a selector string or a group object, got " ++ found.text
  | .notSelector found => "expected a selector string, got " ++ found.text
  | .other reason => reason

def SpecError.message : SpecError → String
  | .payload fault => "malformed specification: " ++ fault.reason
  | .field path fault => "malformed specification for field '" ++ path ++ "': " ++ fault.reason

/-- The path of the refused part, if it is not the specification as a whole. -/
def SpecError.field? : SpecError → Option String
  | .payload _ => none
  | .field path _ => some path

/-! Validity. -/

structure Group.Valid (g : Group) : Prop where
  root : Text.allBlank g.root = false
  some_column : g.columns ≠ []
  distinct : (g.columns.map (·.name)).Nodup
  not_root : ∀ c ∈ g.columns, c.name ≠ rootName
  selectors : ∀ c ∈ g.columns, Text.allBlank c.selector = false

def Target.Valid : Target → Prop
  | .single s => Text.allBlank s = false
  | .group g => g.Valid

/-- Field names are distinct and every field is valid. -/
structure ValidFields (fields : List Field) : Prop where
  distinct : (fields.map (·.name)).Nodup
  targets : ∀ f ∈ fields, f.target.Valid

/-- The first fault among the columns; `seen` holds the names before them. -/
def columnsFault (field : String) (seen : List String) : List Column → Option SpecError
  | [] => none
  | c :: rest =>
      if c.name = rootName ∨ c.name ∈ seen then
        some (.field (partPath field c.name) .duplicateColumn)
      else if Text.allBlank c.selector then
        some (.field (partPath field c.name) .blankSelector)
      else columnsFault field (c.name :: seen) rest

def targetFault (field : String) : Target → Option SpecError
  | .single s => if Text.allBlank s then some (.field field .blankSelector) else none
  | .group g =>
      if Text.allBlank g.root then some (.field (partPath field rootName) .blankSelector)
      else if g.columns = [] then some (.field field .noColumns)
      else columnsFault field [] g.columns

/-- The first fault of a list of fields; `seen` holds the names before them. -/
def fieldsFault (seen : List String) : List Field → Option SpecError
  | [] => none
  | f :: rest =>
      if f.name ∈ seen then some (.field f.name .duplicateField)
      else
        match targetFault f.name f.target with
        | some e => some e
        | none => fieldsFault (f.name :: seen) rest

theorem columnsFault_eq_none {field : String} {seen : List String} {columns : List Column}
    (h : columnsFault field seen columns = none) :
    (columns.map (·.name)).Nodup ∧ (∀ c ∈ columns, c.name ∉ seen) ∧
      (∀ c ∈ columns, c.name ≠ rootName) ∧ ∀ c ∈ columns, Text.allBlank c.selector = false := by
  induction columns generalizing seen with
  | nil => simp
  | cons c rest ih =>
      simp only [columnsFault] at h
      split at h
      · cases h
      · next hn =>
          split at h
          · cases h
          · next hb =>
              obtain ⟨hd, hs, hr, hsel⟩ := ih h
              have hn := not_or.1 hn
              refine ⟨?_, ?_, ?_, ?_⟩
              · refine List.nodup_cons.2 ⟨fun hm => ?_, hd⟩
                obtain ⟨d, hdm, hde⟩ := List.mem_map.1 hm
                exact hs d hdm (by simp [hde])
              · intro d hm
                rcases List.mem_cons.1 hm with rfl | hm
                · exact hn.2
                · exact fun hc => hs d hm (List.mem_cons_of_mem _ hc)
              · intro d hm
                rcases List.mem_cons.1 hm with rfl | hm
                · exact hn.1
                · exact hr d hm
              · intro d hm
                rcases List.mem_cons.1 hm with rfl | hm
                · simpa using hb
                · exact hsel d hm

theorem targetFault_eq_none {field : String} {t : Target} (h : targetFault field t = none) :
    t.Valid := by
  cases t with
  | single s =>
      simp only [targetFault] at h
      split at h
      · cases h
      · next hb => simpa [Target.Valid] using hb
  | group g =>
      simp only [targetFault] at h
      split at h
      · cases h
      · next hb =>
          split at h
          · cases h
          · next hc =>
              obtain ⟨hd, -, hr, hs⟩ := columnsFault_eq_none h
              exact ⟨by simpa using hb, hc, hd, hr, hs⟩

theorem fieldsFault_eq_none {seen : List String} {fields : List Field}
    (h : fieldsFault seen fields = none) :
    ValidFields fields ∧ ∀ f ∈ fields, f.name ∉ seen := by
  induction fields generalizing seen with
  | nil => exact ⟨⟨by simp, by simp⟩, by simp⟩
  | cons f rest ih =>
      simp only [fieldsFault] at h
      split at h
      · cases h
      · next hn =>
          split at h
          · cases h
          · next ht =>
              obtain ⟨⟨hd, hv⟩, hs⟩ := ih h
              refine ⟨⟨?_, ?_⟩, ?_⟩
              · refine List.nodup_cons.2 ⟨fun hm => ?_, hd⟩
                obtain ⟨g, hgm, hge⟩ := List.mem_map.1 hm
                exact hs g hgm (by simp [hge])
              · intro g hm
                rcases List.mem_cons.1 hm with rfl | hm
                · exact targetFault_eq_none ht
                · exact hv g hm
              · intro g hm
                rcases List.mem_cons.1 hm with rfl | hm
                · exact hn
                · exact fun hc => hs g hm (List.mem_cons_of_mem _ hc)

/-- A valid specification. -/
structure Spec where
  fields : List Field
  valid : ValidFields fields

namespace Spec

def size (s : Spec) : Nat := s.fields.length

def isEmpty (s : Spec) : Bool := s.fields.isEmpty

/-- The specification with these fields, or the first fault among them. -/
def ofFields (fields : List Field) : Except SpecError Spec :=
  match h : fieldsFault [] fields with
  | some e => .error e
  | none => .ok ⟨fields, (fieldsFault_eq_none h).1⟩

end Spec

/-- A specification in the making: the fields added so far, in order. -/
structure SpecDraft where
  fields : List Field := []
  deriving DecidableEq, Repr

namespace SpecDraft

def single (d : SpecDraft) (name selector : String) : SpecDraft :=
  ⟨d.fields ++ [⟨name, .single selector⟩]⟩

def group (d : SpecDraft) (name root : String) (columns : List (String × String)) : SpecDraft :=
  ⟨d.fields ++ [⟨name, .group ⟨root, columns.map fun c => ⟨c.1, c.2⟩⟩⟩]⟩

def build (d : SpecDraft) : Except SpecError Spec := Spec.ofFields d.fields

end SpecDraft

end Gleaner
