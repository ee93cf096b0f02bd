import Gleaner.Charset.Document
import Gleaner.Extraction.Engine
import Gleaner.Markup.Document
import Gleaner.Selector.Match
import Gleaner.Selector.Parse
import Gleaner.Spec.Decode

/-! HTML documents as a backend of the extraction. -/
namespace Gleaner

open Markup (NodeId Tree)

/-- A tree with the encoding that its text was read in. -/
structure HtmlDocument where
  tree : Tree
  encoding : Charset.Encoding := .utf8

namespace HtmlDocument

def ofText (text : String) : HtmlDocument := { tree := .ofText text }

def ofBytes [Charset.Detector] (bytes : List UInt8) (contentType : Option String) :
    Except Charset.DecodeError HtmlDocument := do
  let (text, encoding) ← Charset.decode bytes contentType
  pure { tree := .ofText text, encoding }

def compile (s : String) : Except QueryError (List Selector.Complex) :=
  (Selector.parse s).mapError fun f => ⟨s, f.message⟩

/-- All elements with a parent in order of creation, or the ones below the scope in document order. -/
def candidates (d : HtmlDocument) : Option NodeId → List NodeId
  | none => (List.range d.tree.size).filter fun n =>
      d.tree.isElement n && (d.tree.parent? n).isSome
  | some n => d.tree.descendants n

def matching (d : HtmlDocument) (s : List Selector.Complex) (scope : Option NodeId)
    (n : NodeId) : Bool :=
  Selector.Complex.someHolds d.tree { scope } n s

def select (d : HtmlDocument) (s : List Selector.Complex) (scope : Option NodeId) : List NodeId :=
  (d.candidates scope).filter (d.matching s scope)

def selectFirst (d : HtmlDocument) (s : List Selector.Complex) (scope : Option NodeId) :
    Option NodeId :=
  (d.candidates scope).find? (d.matching s scope)

def text (d : HtmlDocument) (n : NodeId) : String := d.tree.textAt n

def backend (d : HtmlDocument) : Backend Id (List Selector.Complex) NodeId where
  compile := compile
  select := d.select
  selectFirst := d.selectFirst
  text := d.text

/-- What the specification asks for, as far as the document has it. -/
def extract (d : HtmlDocument) (spec : Spec) (mode : ExtractionMode) :
    Except ExtractionError Extract :=
  Gleaner.extract d.backend spec mode

end HtmlDocument

def extractHtml (text : String) (spec : Spec) (mode : ExtractionMode) :
    Except ExtractionError Extract :=
  (HtmlDocument.ofText text).extract spec mode

/-- The specification is read before the document. -/
def extractBytes [Charset.Detector] (bytes : List UInt8) (contentType : Option String)
    (spec : List UInt8) (mode : ExtractionMode) : Except ExtractionError Extract := do
  let spec ← (Spec.decode spec).mapError .spec
  let d ← (HtmlDocument.ofBytes bytes contentType).mapError .document
  d.extract spec mode

end Gleaner
