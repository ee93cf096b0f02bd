import Gleaner.Extraction.Mode
import Gleaner.Extraction.Result

/-! What requests and responses say, with its JSON form. A record may also be written as the list of its
members in order. -/
namespace Gleaner

/-- What one request says about the mode. -/
structure ModeChoice where
  mode : Option ModeKind := none
  requireRecords : Option Bool := none
  deriving DecidableEq, Repr

/-- Both choices; where both say something, the first counts. -/
def ModeChoice.or (a b : ModeChoice) : ModeChoice :=
  ⟨a.mode.or b.mode, a.requireRecords.or b.requireRecords⟩

/-- A request for an extraction from the text `html`. The specification is canonical. -/
structure ExtractRequest where
  html : String
  spec : Json
  choice : ModeChoice := {}
  deriving Repr

/-- The response to a request that succeeds. -/
structure ExtractResponse where
  status : Nat
  message : String
  data : Extract
  deriving DecidableEq, Repr

/-- The response to a request that fails. -/
structure ErrorResponse where
  status : Nat
  message : String
  error : Option String := none
  field : Option String := none
  deriving DecidableEq, Repr

structure HealthResponse where
  status : String
  deriving DecidableEq, Repr

def ExtractResponse.ok (data : Extract) : ExtractResponse := ⟨200, "Files are available.", data⟩

def ModeKind.toJson (k : ModeKind) : Json := .string k.name

def ExtractResponse.toJson (r : ExtractResponse) : Json :=
  .object [("status", .number (.natural r.status)), ("message", .string r.message),
    ("data", r.data.toJson)]

/-- A member that is left out if it is absent. -/
def textMember (name : String) (value : Option String) : List (String × Json) :=
  value.toList.map fun s => (name, .string s)

def ErrorResponse.toJson (r : ErrorResponse) : Json :=
  .object ([("status", .number (.natural r.status)), ("message", .string r.message)] ++
    textMember "error" r.error ++ textMember "field" r.field)

def HealthResponse.toJson (r : HealthResponse) : Json := .object [("status", .string r.status)]

namespace Json.Reader

def modeKind : Reader ModeKind := variant ("lenient", .lenient) ("strict", .strict)

/-! The slots of each record are filled member by member, in any order. -/

structure ChoiceSlots where
  mode : Option (Option ModeKind) := none
  requireRecords : Option (Option Bool) := none

/-- Reads a member of a choice, or hands it on. -/
def choiceMember {σ : Type} (s : ChoiceSlots) (name : String) (set : ChoiceSlots → σ)
    (other : Reader σ) : Reader σ :=
  if name = "mode" then
    fill "mode" s.mode (option modeKind) fun v => set { s with mode := some v }
  else if name = "require_records" then
    fill "require_records" s.requireRecords (option bool) fun v =>
      set { s with requireRecords := some v }
  else other

/-- A member of no interest. -/
def passMember {σ : Type} (name : String) (s : σ) : Reader σ :=
  (fun _ => s) <$> memberValue name skipValue

def ChoiceSlots.choice (s : ChoiceSlots) : ModeChoice :=
  ⟨s.mode.getD none, s.requireRecords.getD none⟩

/-- The members of an object from the beginning, gathered in slots. -/
def slots {σ : Type} (s : σ) (member : σ → String → Reader σ) : Reader σ := do
  membersLoop member s true ((← remaining) + 1)

def modeChoice : Reader ModeChoice :=
  let whole := "struct ModeQuery with 2 elements"
  record "struct ModeQuery" maxDepth
    (fun _ => do
      let s ← slots ({} : ChoiceSlots) fun s name => choiceMember s name id (passMember name s)
      pure s.choice)
    (fun _ => do
      let mode ← itemValue 0 (option modeKind) whole
      let requireRecords ← itemValue 1 (option bool) whole
      pure ⟨mode, requireRecords⟩)

structure RequestSlots where
  html : Option String := none
  spec : Option Json := none
  choice : ChoiceSlots := {}

def requestMember (depth : Nat) (s : RequestSlots) (name : String) : Reader RequestSlots :=
  if name = "html" then fill "html" s.html string fun v => { s with html := some v }
  else if name = "spec" then
    fill "spec" s.spec (value depth) fun v => { s with spec := some v }
  else choiceMember s.choice name (fun c => { s with choice := c }) (passMember name s)

def extractRequest : Reader ExtractRequest :=
  let whole := "struct ExtractRequest with 4 elements"
  record "struct ExtractRequest" maxDepth
    (fun depth => do
      let s ← slots {} (requestMember depth)
      let html ← require "html" s.html
      let spec ← require "spec" s.spec
      pure ⟨html, spec.canonical, s.choice.choice⟩)
    (fun depth => do
      let html ← itemValue 0 string whole
      let spec ← itemValue 1 (value depth) whole
      let mode ← itemValue 2 (option modeKind) whole
      let requireRecords ← itemValue 3 (option bool) whole
      pure ⟨html, spec.canonical, ⟨mode, requireRecords⟩⟩)

structure ResponseSlots where
  status : Option Nat := none
  message : Option String := none
  data : Option Extract := none

def responseMember (depth : Nat) (s : ResponseSlots) (name : String) : Reader ResponseSlots :=
  if name = "status" then fill "status" s.status word16 fun v => { s with status := some v }
  else if name = "message" then fill "message" s.message string fun v => { s with message := some v }
  else if name = "data" then fill "data" s.data (extract depth) fun v => { s with data := some v }
  else passMember name s

def extractResponse : Reader ExtractResponse :=
  let whole := "struct ExtractResponse with 3 elements"
  record "struct ExtractResponse" maxDepth
    (fun depth => do
      let s ← slots {} (responseMember depth)
      let status ← require "status" s.status
      let message ← require "message" s.message
      let data ← require "data" s.data
      pure ⟨status, message, data⟩)
    (fun depth => do
      let status ← itemValue 0 word16 whole
      let message ← itemValue 1 string whole
      let data ← itemValue 2 (extract depth) whole
      pure ⟨status, message, data⟩)

structure ErrorSlots where
  status : Option Nat := none
  message : Option String := none
  error : Option (Option String) := none
  field : Option (Option String) := none

def errorMember (s : ErrorSlots) (name : String) : Reader ErrorSlots :=
  if name = "status" then fill "status" s.status word16 fun v => { s with status := some v }
  else if name = "message" then fill "message" s.message string fun v => { s with message := some v }
  else if name = "error" then
    fill "error" s.error (option string) fun v => { s with error := some v }
  else if name = "field" then
    fill "field" s.field (option string) fun v => { s with field := some v }
  else passMember name s

def errorResponse : Reader ErrorResponse :=
  let whole := "struct ErrorResponse with 4 elements"
  record "struct ErrorResponse" maxDepth
    (fun _ => do
      let s ← slots {} errorMember
      let status ← require "status" s.status
      let message ← require "message" s.message
      pure ⟨status, message, s.error.getD none, s.field.getD none⟩)
    (fun _ => do
      let status ← itemValue 0 word16 whole
      let message ← itemValue 1 string whole
      let error ← itemValue? 2 (option string)
      let field ← if error.isSome then itemValue? 3 (option string) else pure none
      pure ⟨status, message, error.getD none, field.getD none⟩)

def healthResponse : Reader HealthResponse :=
  record "struct HealthResponse" maxDepth
    (fun _ => do
      let s ← slots (none : Option String) fun s name =>
        if name = "status" then fill "status" s string some else passMember name s
      let status ← require "status" s
      pure ⟨status⟩)
    (fun _ => do
      let status ← itemValue 0 string "struct HealthResponse with 1 element"
      pure ⟨status⟩)

end Json.Reader

end Gleaner
