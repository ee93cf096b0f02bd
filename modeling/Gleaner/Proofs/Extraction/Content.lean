import Gleaner.Extraction.Engine

/-! What a document holds for a specification, said without the order in which it is asked: the places
of the selectors, the nodes that they find, what is missing, and the extract as a whole. Documents
answer here without effects. -/
namespace Gleaner

/-- A selector of a specification and where it stands: as the field itself or as a column. -/
structure Place where
  field : String
  column : Option String
  selector : String
  deriving DecidableEq, Repr

/-- The selectors of a field. That of the rows of a group is in front of its columns. -/
def Field.places (f : Field) : List Place :=
  match f.target with
  | .single s => [⟨f.name, none, s⟩]
  | .group g =>
      ⟨f.name, some rootName, g.root⟩ :: g.columns.map fun c => ⟨f.name, some c.name, c.selector⟩

def Spec.places (s : Spec) : List Place := s.fields.flatMap Field.places

namespace Backend

variable {Selector Node : Type}

/-- The failure for a selector that the backend does not accept. -/
def refusal? (doc : Backend Id Selector Node) (p : Place) : Option ExtractionError :=
  match doc.compile p.selector with
  | .ok _ => none
  | .error e => some (.selector p.field p.column e)

/-- Every selector of the specification is accepted. -/
def Accepts (doc : Backend Id Selector Node) (spec : Spec) : Prop :=
  ∀ p ∈ spec.places, ∃ s, doc.compile p.selector = .ok s

/-- All nodes that a selector finds; none if it is not accepted. -/
def nodes (doc : Backend Id Selector Node) (selector : String) (scope : Option Node) : List Node :=
  match doc.compile selector with
  | .ok s => doc.select s scope
  | .error _ => []

/-- The first node that a selector finds; none if it is not accepted. -/
def first? (doc : Backend Id Selector Node) (selector : String) (scope : Option Node) :
    Option Node :=
  match doc.compile selector with
  | .ok s => doc.selectFirst s scope
  | .error _ => none

/-- The normal text of the first node, empty if there is none. -/
def textOf (doc : Backend Id Selector Node) (selector : String) (scope : Option Node) : String :=
  match doc.first? selector scope with
  | some n => Text.normal (doc.text n)
  | none => ""

/-- The rows of a group without the header. -/
def dataRows (doc : Backend Id Selector Node) (g : Group) : List Node :=
  (doc.nodes g.root none).tail

def recordOf (doc : Backend Id Selector Node) (columns : List Column) (row : Node) : Record :=
  .ofList (columns.map fun c => (c.name, doc.textOf c.selector (some row)))

def valueOf (doc : Backend Id Selector Node) : Target → FieldValue
  | .single s => .text (doc.textOf s none)
  | .group g => .records ((doc.dataRows g).map (doc.recordOf g.columns))

/-- The extract in which nothing that is missing counts as a failure. -/
def contentOf (doc : Backend Id Selector Node) (spec : Spec) : Extract :=
  .ofList (spec.fields.map fun f => (f.name, doc.valueOf f.target))

/-- The failure `e` if the selector finds nothing. -/
def gapAt? (doc : Backend Id Selector Node) (selector : String) (scope : Option Node)
    (e : ExtractionError) : Option ExtractionError :=
  match doc.first? selector scope with
  | some _ => none
  | none => some e

/-- The first column that finds nothing in the row of number `index`. -/
def rowGap? (doc : Backend Id Selector Node) (field : String) (columns : List Column) (row : Node)
    (index : Nat) : Option ExtractionError :=
  columns.findSome? fun c =>
    doc.gapAt? c.selector (some row) (.missing field (some c.name) (some index))

/-- The first look-up of a field that finds nothing, row after row and column after column. -/
def gap? (doc : Backend Id Selector Node) (f : Field) : Option ExtractionError :=
  match f.target with
  | .single s => doc.gapAt? s none (.missing f.name none none)
  | .group g => (doc.dataRows g).zipIdx.findSome? fun r => doc.rowGap? f.name g.columns r.1 r.2

/-- The failure of a group without data rows. -/
def emptiness? (doc : Backend Id Selector Node) (f : Field) : Option ExtractionError :=
  match f.target with
  | .single _ => none
  | .group g => if doc.dataRows g = [] then some (.noRecords f.name) else none

/-- What a mode objects to in a field. -/
def violation? (doc : Backend Id Selector Node) (mode : ExtractionMode) (f : Field) :
    Option ExtractionError :=
  (if mode.isStrict then doc.gap? f else none).or
    (if mode.requiresRecords then doc.emptiness? f else none)

/-! When the options above are empty. -/

variable {doc : Backend Id Selector Node}

theorem refusal?_eq_none_iff {p : Place} :
    doc.refusal? p = none ↔ ∃ s, doc.compile p.selector = .ok s := by
  unfold refusal?
  cases doc.compile p.selector with
  | ok s => exact ⟨fun _ => ⟨s, rfl⟩, fun _ => rfl⟩
  | error q => exact ⟨nofun, nofun⟩

theorem refusal?_eq_some_iff {p : Place} {e : ExtractionError} :
    doc.refusal? p = some e ↔
      ∃ q, doc.compile p.selector = .error q ∧ e = .selector p.field p.column q := by
  unfold refusal?
  cases doc.compile p.selector with
  | ok s => exact ⟨nofun, nofun⟩
  | error q =>
    constructor
    · rintro ⟨⟩
      exact ⟨q, rfl, rfl⟩
    · rintro ⟨_, ⟨⟩, rfl⟩
      rfl

theorem accepts_iff {spec : Spec} :
    doc.Accepts spec ↔ spec.places.findSome? doc.refusal? = none := by
  simp only [Accepts, List.findSome?_eq_none_iff, refusal?_eq_none_iff]

theorem gapAt?_eq_none_iff {selector : String} {scope : Option Node} {e : ExtractionError} :
    doc.gapAt? selector scope e = none ↔ doc.first? selector scope ≠ none := by
  unfold gapAt?
  cases doc.first? selector scope <;> simp

theorem gapAt?_eq_some_iff {selector : String} {scope : Option Node} {e e' : ExtractionError} :
    doc.gapAt? selector scope e = some e' ↔ doc.first? selector scope = none ∧ e' = e := by
  unfold gapAt?
  cases doc.first? selector scope <;> simp [eq_comm]

theorem rowGap?_eq_none_iff {field : String} {columns : List Column} {row : Node} {index : Nat} :
    doc.rowGap? field columns row index = none ↔
      ∀ c ∈ columns, doc.first? c.selector (some row) ≠ none := by
  simp only [rowGap?, List.findSome?_eq_none_iff, gapAt?_eq_none_iff]

end Backend

/-! A small document to look at: a page with a heading, a table and a list. -/

/-- Nodes by number; the cells of a row come behind it. The last row of the table has no price, and the
list has only one item. -/
def priceList : Backend Id String Nat where
  compile s := if s = "td[" then .error ⟨s, "unexpected end"⟩ else .ok s
  select s scope :=
    match s, scope with
    | "h1", none => [1]
    | "tr", none => [10, 20, 30]
    | "li", none => [40]
    | "td", some n => [n + 1, n + 2]
    | "td.price", some 20 => [22]
    | _, _ => []
  text n := if n = 1 then "Prices\n  today" else "cell"

def priceFields : List Field :=
  [⟨"title", .single "h1"⟩,
    ⟨"prices", .group ⟨"tr", [⟨"item", "td"⟩, ⟨"price", "td.price"⟩]⟩⟩,
    ⟨"notes", .group ⟨"li", [⟨"text", "p"⟩]⟩⟩]

def priceSpec : Spec where
  fields := priceFields
  valid := (fieldsFault_eq_none (by decide : fieldsFault [] priceFields = none)).1

theorem priceList_accepts : priceList.Accepts priceSpec := by
  have h : ∀ p ∈ priceSpec.places, p.selector ≠ "td[" := by decide
  exact fun p hp => ⟨p.selector, if_neg (h p hp)⟩

end Gleaner
