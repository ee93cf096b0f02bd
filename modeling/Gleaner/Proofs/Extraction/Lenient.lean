import Gleaner.Proofs.Extraction.Engine
import Gleaner.Proofs.SortedMap

/-! What an extraction gives when nothing that is missing counts as a failure: one value for each field,
one record for each data row, one text for each column. -/
namespace Gleaner

namespace Backend

variable {Selector Node : Type} (doc : Backend Id Selector Node)

/-- The record of a row has the columns as its keys and the text that each of them finds in the row. -/
structure IsRecord (columns : List Column) (row : Node) (r : Record) : Prop where
  keys : r.keys.Perm (columns.map (·.name))
  texts : ∀ c ∈ columns, r.get? c.name = some (doc.textOf c.selector (some row))

/-- The extract has the fields as its keys, for a single selector the text that it finds, and for a group
the records of its rows in order, the first row left out. -/
structure IsContent (spec : Spec) (r : Extract) : Prop where
  size : r.size = spec.size
  keys : r.keys.Perm (spec.fields.map (·.name))
  singles : ∀ name s, ⟨name, .single s⟩ ∈ spec.fields →
    r.get? name = some (.text (doc.textOf s none))
  groups : ∀ name g, ⟨name, .group g⟩ ∈ spec.fields →
    ∃ records, r.get? name = some (.records records) ∧
      records.length = (doc.nodes g.root none).length - 1 ∧
      List.Forall₂ (doc.IsRecord g.columns) (doc.nodes g.root none).tail records

variable {doc}

theorem recordOf_isRecord {columns : List Column} (h : (columns.map (·.name)).Nodup) (row : Node) :
    doc.IsRecord columns row (doc.recordOf columns row) := by
  have hkeys : (columns.map fun c => (c.name, doc.textOf c.selector (some row))).map (·.1) =
      columns.map (·.name) := by
    rw [List.map_map]
    rfl
  rw [← hkeys] at h
  constructor
  · rw [← hkeys]
    exact SortedMap.keys_ofList_perm h
  · intro c hc
    exact SortedMap.get?_ofList_of_mem h (List.mem_map.2 ⟨c, hc, rfl⟩)

theorem names_contentOf (doc : Backend Id Selector Node) (spec : Spec) :
    (spec.fields.map fun f => (f.name, doc.valueOf f.target)).map (·.1) =
      spec.fields.map (·.name) := by
  rw [List.map_map]
  rfl

theorem get?_contentOf {spec : Spec} {f : Field} (hf : f ∈ spec.fields) :
    (doc.contentOf spec).get? f.name = some (doc.valueOf f.target) := by
  have h := spec.valid.distinct
  rw [← names_contentOf doc spec] at h
  exact SortedMap.get?_ofList_of_mem h (List.mem_map.2 ⟨f, hf, rfl⟩)

theorem keys_contentOf (doc : Backend Id Selector Node) (spec : Spec) :
    (doc.contentOf spec).keys.Perm (spec.fields.map (·.name)) := by
  have h := spec.valid.distinct
  rw [← names_contentOf doc spec] at h ⊢
  exact SortedMap.keys_ofList_perm h

theorem records_isRecord {spec : Spec} {name : String} {g : Group}
    (hg : ⟨name, .group g⟩ ∈ spec.fields) :
    List.Forall₂ (doc.IsRecord g.columns) (doc.dataRows g)
      ((doc.dataRows g).map (doc.recordOf g.columns)) := by
  have hvalid : g.Valid := spec.valid.targets _ hg
  rw [List.forall₂_map_right_iff, List.forall₂_same]
  exact fun row _ => recordOf_isRecord hvalid.distinct row

theorem contentOf_isContent (doc : Backend Id Selector Node) (spec : Spec) :
    doc.IsContent spec (doc.contentOf spec) where
  size := by
    rw [← SortedMap.length_keys, (keys_contentOf doc spec).length_eq, List.length_map]
    rfl
  keys := keys_contentOf doc spec
  singles name s hs := get?_contentOf hs
  groups name g hg := by
    refine ⟨_, get?_contentOf hg, ?_, records_isRecord hg⟩
    rw [List.length_map, dataRows, List.length_tail]

end Backend

namespace Extraction

variable {Selector Node : Type}

theorem findSome?_violation?_lenient (doc : Backend Id Selector Node) (fields : List Field) :
    fields.findSome? (doc.violation? .lenient) = none :=
  List.findSome?_eq_none_iff.2 fun _ _ => rfl

theorem lenient_error_iff {doc : Backend Id Selector Node} {spec : Spec} {e : ExtractionError} :
    (extract doc spec .lenient).run = .error e ↔ spec.places.findSome? doc.refusal? = some e := by
  rw [extract_error_iff, findSome?_violation?_lenient, Option.or_none]

theorem lenient_ok_iff {doc : Backend Id Selector Node} {spec : Spec} {r : Extract} :
    (extract doc spec .lenient).run = .ok r ↔ doc.Accepts spec ∧ r = doc.contentOf spec := by
  rw [extract_ok_iff, findSome?_violation?_lenient, Option.or_none, Backend.accepts_iff]

/-- Lenient extractions only fail over selectors. -/
theorem lenient_content (doc : Backend Id Selector Node) (spec : Spec)
    (accepted : doc.Accepts spec) :
    ∃ r, (extract doc spec .lenient).run = .ok r ∧ doc.IsContent spec r := by
  have hrun : (extract doc spec .lenient).run = .ok (doc.contentOf spec) :=
    lenient_ok_iff.2 ⟨accepted, rfl⟩
  exact ⟨doc.contentOf spec, hrun, doc.contentOf_isContent spec⟩

theorem lenient_content_prices :
    priceList.Accepts priceSpec ∧
      ∃ r, (extract priceList priceSpec .lenient).run = .ok r ∧ priceList.IsContent priceSpec r :=
  ⟨priceList_accepts, lenient_content priceList priceSpec priceList_accepts⟩

end Extraction

end Gleaner
