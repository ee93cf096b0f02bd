import Gleaner.Proofs.Extraction.Engine

/-! Which failure a strict extraction reports: fields in the order of the specification, rows in the
order of the document, columns in the order of the group. The first look-up that finds nothing is the one
that counts; that a group has no data rows is noticed after its rows. -/
namespace Gleaner

namespace Backend

variable {Selector Node : Type} (doc : Backend Id Selector Node)

/-- Some look-up for the target finds nothing. -/
def Lacks : Target → Prop
  | .single s => doc.first? s none = none
  | .group g => ∃ row ∈ doc.dataRows g, ∃ c ∈ g.columns, doc.first? c.selector (some row) = none

/-- The target is a group without data rows. -/
def Vacant : Target → Prop
  | .single _ => False
  | .group g => doc.dataRows g = []

/-- The failure of a field in strict mode. The record counts the data rows before it. -/
inductive FieldFailure (requireRecords : Bool) : Field → ExtractionError → Prop
  | single {name s : String} (h : doc.first? s none = none) :
      FieldFailure requireRecords ⟨name, .single s⟩ (.missing name none none)
  | column {name : String} {g : Group} {rows later : List Node} {row : Node}
      {columns others : List Column} {c : Column}
      (hrows : doc.dataRows g = rows ++ row :: later) (hcolumns : g.columns = columns ++ c :: others)
      (above : ∀ r ∈ rows, ∀ d ∈ g.columns, doc.first? d.selector (some r) ≠ none)
      (left : ∀ d ∈ columns, doc.first? d.selector (some row) ≠ none)
      (h : doc.first? c.selector (some row) = none) :
      FieldFailure requireRecords ⟨name, .group g⟩ (.missing name (some c.name) (some rows.length))
  | noRecords {name : String} {g : Group} (hreq : requireRecords = true)
      (h : doc.dataRows g = []) :
      FieldFailure requireRecords ⟨name, .group g⟩ (.noRecords name)

variable {doc}

theorem FieldFailure.lacks_or_vacant {req : Bool} {f : Field} {e : ExtractionError}
    (h : doc.FieldFailure req f e) :
    (doc.Lacks f.target ∧ ∃ column record, e = .missing f.name column record) ∨
      (req = true ∧ doc.Vacant f.target ∧ e = .noRecords f.name) := by
  cases h with
  | single hs => exact .inl ⟨hs, _, _, rfl⟩
  | @column name g rows later row columns others c hrows hcolumns above left hc =>
    have hrow : row ∈ doc.dataRows g := hrows ▸ List.mem_append_cons_self
    have hcolumn : c ∈ g.columns := hcolumns ▸ List.mem_append_cons_self
    exact .inl ⟨⟨row, hrow, c, hcolumn, hc⟩, _, _, rfl⟩
  | noRecords hreq hrows => exact .inr ⟨hreq, hrows, rfl⟩

/-- What is missing does not depend on whether records are required. -/
theorem FieldFailure.of_missing {req req' : Bool} {f : Field} {field : String}
    {column : Option String} {record : Option Nat}
    (h : doc.FieldFailure req f (.missing field column record)) :
    doc.FieldFailure req' f (.missing field column record) := by
  cases h with
  | single hs => exact .single hs
  | column hrows hcolumns above left hc => exact .column hrows hcolumns above left hc

theorem not_lacks_of_vacant {t : Target} (h : doc.Vacant t) : ¬ doc.Lacks t := by
  cases t with
  | single s => exact h.elim
  | group g =>
    have hrows : doc.dataRows g = [] := h
    simp [Lacks, hrows]

theorem exists_group_of_vacant {t : Target} (h : doc.Vacant t) : ∃ g, t = .group g := by
  cases t with
  | single s => exact h.elim
  | group g => exact ⟨g, rfl⟩

theorem forall_mem_zipIdx {α : Type} (p : α → Prop) (l : List α) (k : Nat) :
    (∀ r ∈ l.zipIdx k, p r.1) ↔ ∀ a ∈ l, p a := by
  have h : (∀ a ∈ (l.zipIdx k).map Prod.fst, p a) ↔ ∀ r ∈ l.zipIdx k, p r.1 := List.forall_mem_map
  rw [← h, List.zipIdx_map_fst]

theorem gap?_eq_none_iff {f : Field} : doc.gap? f = none ↔ ¬ doc.Lacks f.target := by
  obtain ⟨name, target⟩ := f
  cases target with
  | single s => exact gapAt?_eq_none_iff
  | group g =>
    simp only [gap?, List.findSome?_eq_none_iff, rowGap?_eq_none_iff, Lacks]
    rw [forall_mem_zipIdx fun r => ∀ c ∈ g.columns, doc.first? c.selector (some r) ≠ none]
    push Not
    rfl

theorem emptiness?_eq_none_iff {f : Field} : doc.emptiness? f = none ↔ ¬ doc.Vacant f.target := by
  obtain ⟨name, target⟩ := f
  cases target with
  | single s => simp [emptiness?, Vacant]
  | group g => simp [emptiness?, Vacant]

theorem emptiness?_eq_some_iff {f : Field} {e : ExtractionError} :
    doc.emptiness? f = some e ↔ doc.Vacant f.target ∧ e = .noRecords f.name := by
  obtain ⟨name, target⟩ := f
  cases target with
  | single s => simp [emptiness?, Vacant]
  | group g =>
    by_cases h : doc.dataRows g = []
    · simp [emptiness?, Vacant, h, eq_comm]
    · simp [emptiness?, Vacant, h]

theorem rowGap?_eq_some_iff {field : String} {columns : List Column} {row : Node} {index : Nat}
    {e : ExtractionError} :
    doc.rowGap? field columns row index = some e ↔
      ∃ before c after, columns = before ++ c :: after ∧
        (∀ d ∈ before, doc.first? d.selector (some row) ≠ none) ∧
        doc.first? c.selector (some row) = none ∧ e = .missing field (some c.name) (some index) := by
  simp only [rowGap?, List.findSome?_eq_some_iff, gapAt?_eq_none_iff, gapAt?_eq_some_iff]
  constructor
  · rintro ⟨before, c, after, hc, ⟨h, rfl⟩, hleft⟩
    exact ⟨before, c, after, hc, hleft, h, rfl⟩
  · rintro ⟨before, c, after, hc, hleft, h, rfl⟩
    exact ⟨before, c, after, hc, ⟨h, rfl⟩, hleft⟩

theorem gap?_group_eq_some_iff {name : String} {g : Group} {e : ExtractionError} :
    doc.gap? ⟨name, .group g⟩ = some e ↔
      ∃ rows row later, doc.dataRows g = rows ++ row :: later ∧
        (∀ r ∈ rows, ∀ c ∈ g.columns, doc.first? c.selector (some r) ≠ none) ∧
        doc.rowGap? name g.columns row rows.length = some e := by
  simp only [gap?, List.findSome?_eq_some_iff, rowGap?_eq_none_iff]
  constructor
  · rintro ⟨above, ⟨row, i⟩, below, hsplit, h, habove⟩
    obtain ⟨rows, rest, hrows, rfl, hrest⟩ := List.zipIdx_eq_append_iff.1 hsplit
    obtain ⟨row', later, rfl, hrow, rfl⟩ := List.zipIdx_eq_cons_iff.1 hrest.symm
    obtain ⟨rfl, rfl⟩ := Prod.mk.inj hrow
    rw [Nat.zero_add] at h
    exact ⟨rows, row, later, hrows, (forall_mem_zipIdx _ rows 0).1 habove, h⟩
  · rintro ⟨rows, row, later, hrows, habove, h⟩
    refine ⟨rows.zipIdx, (row, rows.length), later.zipIdx (rows.length + 1), ?_, h, ?_⟩
    · rw [hrows, List.zipIdx_append, Nat.zero_add, List.zipIdx_cons]
    · exact (forall_mem_zipIdx _ rows 0).2 habove

theorem violation?_strict_eq_none_iff {req : Bool} {f : Field} :
    doc.violation? (.strict req) f = none ↔
      ¬ doc.Lacks f.target ∧ (req = true → ¬ doc.Vacant f.target) := by
  have h : doc.violation? (.strict req) f =
      (doc.gap? f).or (if req then doc.emptiness? f else none) := rfl
  rw [h, Option.or_eq_none_iff, gap?_eq_none_iff]
  cases req <;> simp [emptiness?_eq_none_iff]

theorem gap?_fieldFailure {f : Field} {e : ExtractionError} (req : Bool)
    (h : doc.gap? f = some e) : doc.FieldFailure req f e := by
  obtain ⟨name, target⟩ := f
  cases target with
  | single s =>
    obtain ⟨hs, rfl⟩ := gapAt?_eq_some_iff.1 h
    exact .single hs
  | group g =>
    obtain ⟨rows, row, later, hrows, above, hrow⟩ := gap?_group_eq_some_iff.1 h
    obtain ⟨before, c, after, hcolumns, left, hc, rfl⟩ := rowGap?_eq_some_iff.1 hrow
    exact .column hrows hcolumns above left hc

theorem violation?_strict_eq_some_iff {req : Bool} {f : Field} {e : ExtractionError} :
    doc.violation? (.strict req) f = some e ↔ doc.FieldFailure req f e := by
  have h : doc.violation? (.strict req) f =
      (doc.gap? f).or (if req then doc.emptiness? f else none) := rfl
  rw [h, Option.or_eq_some_iff]
  constructor
  · rintro (hgap | ⟨-, hempty⟩)
    · exact gap?_fieldFailure req hgap
    · obtain ⟨name, target⟩ := f
      obtain ⟨rfl, hempty⟩ := Option.ite_none_right_eq_some.1 hempty
      obtain ⟨hvacant, rfl⟩ := emptiness?_eq_some_iff.1 hempty
      cases target with
      | single s => exact hvacant.elim
      | group g => exact .noRecords rfl hvacant
  · intro hf
    cases hf with
    | single hs => exact .inl (gapAt?_eq_some_iff.2 ⟨hs, rfl⟩)
    | @column name g rows later row columns others c hrows hcolumns above left hc =>
      refine .inl (gap?_group_eq_some_iff.2 ⟨rows, row, later, hrows, above, ?_⟩)
      exact rowGap?_eq_some_iff.2 ⟨columns, c, others, hcolumns, left, hc, rfl⟩
    | @noRecords name g hreq hrows =>
      have hvacant : doc.Vacant (.group g) := hrows
      refine .inr ⟨gap?_eq_none_iff.2 (not_lacks_of_vacant hvacant), ?_⟩
      rw [if_pos hreq]
      exact emptiness?_eq_some_iff.2 ⟨hvacant, rfl⟩

end Backend

namespace Extraction

variable {Selector Node : Type}

theorem strict_error_iff {doc : Backend Id Selector Node} {spec : Spec} (accepted : doc.Accepts spec)
    (req : Bool) (e : ExtractionError) :
    (extract doc spec (.strict req)).run = .error e ↔
      ∃ before f after, spec.fields = before ++ f :: after ∧
        (∀ g ∈ before, ¬ doc.Lacks g.target ∧ (req = true → ¬ doc.Vacant g.target)) ∧
        doc.FieldFailure req f e := by
  rw [extract_error_iff, Backend.accepts_iff.1 accepted, Option.none_or, List.findSome?_eq_some_iff]
  simp only [Backend.violation?_strict_eq_some_iff, Backend.violation?_strict_eq_none_iff]
  constructor
  · rintro ⟨before, f, after, hfields, hf, hbefore⟩
    exact ⟨before, f, after, hfields, hbefore, hf⟩
  · rintro ⟨before, f, after, hfields, hbefore, hf⟩
    exact ⟨before, f, after, hfields, hf, hbefore⟩

theorem strict_ok_iff {doc : Backend Id Selector Node} {spec : Spec} {req : Bool}
    {r : Extract} :
    (extract doc spec (.strict req)).run = .ok r ↔
      doc.Accepts spec ∧
        (∀ f ∈ spec.fields, ¬ doc.Lacks f.target ∧ (req = true → ¬ doc.Vacant f.target)) ∧
        r = doc.contentOf spec := by
  simp only [extract_ok_iff, Option.or_eq_none_iff, Backend.accepts_iff, List.findSome?_eq_none_iff,
    Backend.violation?_strict_eq_none_iff, and_assoc]

theorem strict_succeeds_iff {doc : Backend Id Selector Node} {spec : Spec}
    (accepted : doc.Accepts spec) (req : Bool) :
    (∃ r, (extract doc spec (.strict req)).run = .ok r) ↔
      ∀ f ∈ spec.fields, ¬ doc.Lacks f.target ∧ (req = true → ¬ doc.Vacant f.target) := by
  simp only [strict_ok_iff, accepted, true_and, exists_and_left, exists_eq, and_true]

/-- A strict extraction fails with the failure of the first field that has one, and succeeds if there is
none. A missing column is one of its group, in a data row that exists. -/
theorem strict_failures (doc : Backend Id Selector Node) (spec : Spec) (req : Bool)
    (accepted : doc.Accepts spec) :
    (∀ e, (extract doc spec (.strict req)).run = .error e ↔
      ∃ before f after, spec.fields = before ++ f :: after ∧
        (∀ g ∈ before, ¬ doc.Lacks g.target ∧ (req = true → ¬ doc.Vacant g.target)) ∧
        doc.FieldFailure req f e) ∧
    ((∃ r, (extract doc spec (.strict req)).run = .ok r) ↔
      ∀ f ∈ spec.fields, ¬ doc.Lacks f.target ∧ (req = true → ¬ doc.Vacant f.target)) ∧
    ∀ field column record,
      (extract doc spec (.strict req)).run = .error (.missing field (some column) (some record)) →
        ∃ g, ⟨field, .group g⟩ ∈ spec.fields ∧ (∃ c ∈ g.columns, c.name = column) ∧
          record < (doc.dataRows g).length := by
  refine ⟨strict_error_iff accepted req, strict_succeeds_iff accepted req, ?_⟩
  intro field column record he
  obtain ⟨before, f, after, hfields, -, hf⟩ := (strict_error_iff accepted req _).1 he
  cases hf with
  | @column name g rows later row columns others c hrows hcolumns above left h =>
    have hgroup : ⟨field, .group g⟩ ∈ spec.fields := hfields ▸ List.mem_append_cons_self
    have hcolumn : c ∈ g.columns := hcolumns ▸ List.mem_append_cons_self
    refine ⟨g, hgroup, ⟨c, hcolumn, rfl⟩, ?_⟩
    rw [hrows, List.length_append, List.length_cons]
    omega

/-- The last row of the prices has no price. -/
theorem strict_failures_prices :
    priceList.Accepts priceSpec ∧
      (extract priceList priceSpec (.strict true)).run =
        .error (.missing "prices" (some "price") (some 1)) := by
  refine ⟨priceList_accepts, ?_⟩
  rw [(strict_failures priceList priceSpec true priceList_accepts).1]
  refine ⟨[⟨"title", .single "h1"⟩], _, _, rfl, ?_, ?_⟩
  · intro g hg
    obtain rfl := List.mem_singleton.1 hg
    exact ⟨nofun, fun _ => id⟩
  · have hrows : priceList.dataRows ⟨"tr", [⟨"item", "td"⟩, ⟨"price", "td.price"⟩]⟩ =
        [20] ++ 30 :: [] := rfl
    have hcolumns : [⟨"item", "td"⟩, ⟨"price", "td.price"⟩] =
        [⟨"item", "td"⟩] ++ (⟨"price", "td.price"⟩ : Column) :: [] := rfl
    exact .column hrows hcolumns (by decide) (by decide) rfl

end Extraction

end Gleaner
