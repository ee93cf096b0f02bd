import Gleaner.Extraction.Error
import Gleaner.Extraction.Mode
import Gleaner.Extraction.Result
import Gleaner.Text.Normal

/-! The extraction: all selectors are compiled first, then the fields are looked up in order. The engine
knows documents only through a backend and works in any monad that the backend needs. -/
namespace Gleaner

/-- The queries that a document answers. With a scope, only nodes inside it are found. -/
structure Backend (m : Type → Type) (Selector Node : Type) [Monad m] where
  compile : String → m (Except QueryError Selector)
  select : Selector → Option Node → m (List Node)
  selectFirst : Selector → Option Node → m (Option Node) := fun s scope =>
    List.head? <$> select s scope
  text : Node → m String

/-- A field with its selectors compiled. -/
inductive Plan (Selector : Type)
  | single (s : Selector)
  | group (root : Selector) (columns : List (String × Selector))

namespace Extraction

variable {m : Type → Type} [Monad m] {Selector Node : Type}

abbrev Step (m : Type → Type) (α : Type) := ExceptT ExtractionError m α

def compile (doc : Backend m Selector Node) (field : String) (column : Option String)
    (selector : String) : Step m Selector := do
  match ← (doc.compile selector : m _) with
  | .ok s => pure s
  | .error e => throw (.selector field column e)

def planColumn (doc : Backend m Selector Node) (field : String) (c : Column) :
    Step m (String × Selector) := do
  let s ← compile doc field (some c.name) c.selector
  pure (c.name, s)

def planField (doc : Backend m Selector Node) (f : Field) : Step m (String × Plan Selector) := do
  match f.target with
  | .single selector =>
      let s ← compile doc f.name none selector
      pure (f.name, .single s)
  | .group g =>
      let root ← compile doc f.name (some rootName) g.root
      let columns ← g.columns.mapM (planColumn doc f.name)
      pure (f.name, .group root columns)

/-- The normal text of the first match; a missing one is empty, or the failure `e` in strict mode. -/
def firstText (doc : Backend m Selector Node) (mode : ExtractionMode) (s : Selector)
    (scope : Option Node) (e : ExtractionError) : Step m String := do
  match ← (doc.selectFirst s scope : m _) with
  | some n => pure (Text.normal (← (doc.text n : m _)))
  | none => if mode.isStrict then throw e else pure ""

/-- The record of row number `index`. -/
def record (doc : Backend m Selector Node) (mode : ExtractionMode) (field : String)
    (columns : List (String × Selector)) (row : Node) (index : Nat) : Step m Record := do
  let entries ← columns.mapM fun c => do
    let s ← firstText doc mode c.2 (some row) (.missing field (some c.1) (some index))
    pure (c.1, s)
  pure (SortedMap.ofList entries)

/-- The first match of the row selector is the header of the table. -/
def headerRows : Nat := 1

def records (doc : Backend m Selector Node) (mode : ExtractionMode) (field : String)
    (root : Selector) (columns : List (String × Selector)) : Step m (List Record) := do
  let rows ← (doc.select root none : m _)
  let out ← (rows.drop headerRows).zipIdx.mapM fun r => record doc mode field columns r.1 r.2
  if out.isEmpty && mode.requiresRecords then throw (.noRecords field) else pure out

def fieldValue (doc : Backend m Selector Node) (mode : ExtractionMode) (field : String) :
    Plan Selector → Step m FieldValue
  | .single s => .text <$> firstText doc mode s none (.missing field none none)
  | .group root columns => .records <$> records doc mode field root columns

end Extraction

open Extraction in
/-- What the specification asks for, as far as the document has it. -/
def extract {m : Type → Type} [Monad m] {Selector Node : Type} (doc : Backend m Selector Node)
    (spec : Spec) (mode : ExtractionMode) : ExceptT ExtractionError m Extract := do
  let plans ← spec.fields.mapM (planField doc)
  let entries ← plans.mapM fun p => do
    let v ← fieldValue doc mode p.1 p.2
    pure (p.1, v)
  pure (SortedMap.ofList entries)

end Gleaner
