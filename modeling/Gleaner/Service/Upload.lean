import Gleaner.Extraction.Html
import Gleaner.Http.Form
import Gleaner.Service.Config
import Gleaner.Service.Refusal

/-! Uploads: forms with a document and a specification. -/
namespace Gleaner

/-- The two files that an upload needs, as far as they have been found. -/
structure Upload where
  html : Option (List UInt8 × Option String) := none
  spec : Option (List UInt8) := none
  deriving DecidableEq, Repr

namespace Upload

def htmlName : String := "htmlFile"

def specName : String := "jsonFile"

/-- The name, if a file of that name has been found already. -/
def taken? (u : Upload) (name : Option String) : Option String :=
  if name = some htmlName ∧ u.html.isSome then htmlName
  else if name = some specName ∧ u.spec.isSome then specName
  else none

/-- Takes in a part; those of other names are passed over. -/
def add (u : Upload) (head : Http.PartHead) (data : List UInt8) : Upload :=
  if head.name = some htmlName then { u with html := some (data, head.contentType) }
  else if head.name = some specName then { u with spec := some data }
  else u

/-- A form that cannot be read. -/
def unreadable (f : Http.FormFault) : Refusal := .rejected 400 f.message

/-- The files of a form. A second file of one name is refused before its data are looked at. -/
def ofForm (u : Upload) : Http.Form → Except Refusal Upload
  | .closed => .ok u
  | .broken fault => .error (unreadable fault)
  | .cut head =>
      match u.taken? head.name with
      | some name => .error (.duplicateFile name)
      | none => .error (unreadable (.incompletePart head.name))
  | .part head data rest =>
      match u.taken? head.name with
      | some name => .error (.duplicateFile name)
      | none => ofForm (u.add head data) rest

/-- Extracts from the two files, both of which must be there. -/
def extract [Charset.Detector] (u : Upload) (mode : ExtractionMode) : Except Refusal Extract :=
  match u.html, u.spec with
  | some (html, contentType), some spec =>
      (extractBytes html contentType spec mode).mapError .extraction
  | _, _ => .error .missingFiles

end Upload

end Gleaner
