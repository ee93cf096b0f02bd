import Gleaner.Proofs.Extraction.Content
import Gleaner.Proofs.Extraction.Ending

/-! What each function of the engine does on a document that answers without effects, from one selector
up to the extract. The main statement names the fault that ends an extraction: the first selector that is
not accepted, and after all selectors the first thing that the mode objects to. -/
namespace Gleaner.Extraction

variable {Selector Node : Type}

/-! Compiling. -/

section Compiling

variable (doc : Backend Id Selector Node)

/-- A column with its compiled selector. -/
def CompiledColumn (c : Column) (b : String × Selector) : Prop :=
  b.1 = c.name ∧ doc.compile c.selector = .ok b.2

/-- A field with its compiled selectors. -/
inductive Compiled : Field → String × Plan Selector → Prop
  | single {name s : String} {c : Selector} (h : doc.compile s = .ok c) :
      Compiled ⟨name, .single s⟩ (name, .single c)
  | group {name : String} {g : Group} {root : Selector} {columns : List (String × Selector)}
      (hr : doc.compile g.root = .ok root)
      (hc : List.Forall₂ (CompiledColumn doc) g.columns columns) :
      Compiled ⟨name, .group g⟩ (name, .group root columns)

theorem compile_ends (p : Place) :
    Ends (fun s => doc.compile p.selector = .ok s) (doc.refusal? p)
      (compile doc p.field p.column p.selector).run := by
  have hrun : (compile doc p.field p.column p.selector).run =
      (doc.compile p.selector).mapError (.selector p.field p.column) := by
    simp only [compile]
    cases doc.compile p.selector <;> rfl
  rw [hrun]
  unfold Backend.refusal?
  cases doc.compile p.selector with
  | ok s => exact .value s rfl
  | error e => exact .fault _

theorem planColumn_ends (field : String) (c : Column) :
    Ends (CompiledColumn doc c) (doc.refusal? ⟨field, some c.name, c.selector⟩)
      (planColumn doc field c).run := by
  refine (compile_ends doc ⟨field, some c.name, c.selector⟩).bind_value fun s hs => ?_
  exact .value (c.name, s) ⟨rfl, hs⟩

theorem planField_ends (f : Field) :
    Ends (Compiled doc f) (f.places.findSome? doc.refusal?) (planField doc f).run := by
  obtain ⟨name, target⟩ := f
  cases target with
  | single s =>
    simp only [Field.places, List.findSome?_singleton]
    refine (compile_ends doc ⟨name, none, s⟩).bind_value fun c hc => ?_
    exact .value _ (.single hc)
  | group g =>
    simp only [Field.places, findSome?_cons_eq_or, List.findSome?_map]
    refine (compile_ends doc ⟨name, some rootName, g.root⟩).bind fun root hroot => ?_
    refine (Ends.mapM g.columns (planColumn_ends doc name)).bind_value fun columns hcolumns => ?_
    exact .value _ (.group hroot hcolumns)

theorem plans_ends (fields : List Field) :
    Ends (List.Forall₂ (Compiled doc) fields) ((fields.flatMap Field.places).findSome? doc.refusal?)
      (fields.mapM (planField doc)).run := by
  rw [findSome?_flatMap]
  exact Ends.mapM fields (planField_ends doc)

end Compiling

/-! Looking up. -/

section LookingUp

variable {doc : Backend Id Selector Node} (mode : ExtractionMode)

theorem firstText_ends {selector : String} {s : Selector} (hs : doc.compile selector = .ok s)
    (scope : Option Node) (e : ExtractionError) :
    Ends (· = doc.textOf selector scope)
      (if mode.isStrict then doc.gapAt? selector scope e else none)
      (firstText doc mode s scope e).run := by
  have hfirst : doc.first? selector scope = doc.selectFirst s scope := by
    simp only [Backend.first?, hs]
  have hrun : (firstText doc mode s scope e).run =
      (match doc.selectFirst s scope with
        | some n => .ok (Text.normal (doc.text n))
        | none => if mode.isStrict then .error e else .ok "" : Except ExtractionError String) := by
    simp only [firstText]
    cases doc.selectFirst s scope with
    | some n => rfl
    | none => cases mode <;> rfl
  rw [hrun, Backend.textOf, Backend.gapAt?, hfirst]
  cases doc.selectFirst s scope with
  | some n =>
    simp only [ite_self]
    exact .value _ rfl
  | none =>
    cases mode with
    | lenient => exact .value _ rfl
    | strict r => exact .fault e

variable {columns : List Column} {compiled : List (String × Selector)}

theorem cells_ends (hc : List.Forall₂ (CompiledColumn doc) columns compiled) (field : String)
    (row : Node) (index : Nat) :
    Ends (· = columns.map fun c => (c.name, doc.textOf c.selector (some row)))
      (if mode.isStrict then doc.rowGap? field columns row index else none)
      (compiled.mapM fun c : String × Selector => do
        let s ← firstText doc mode c.2 (some row) (.missing field (some c.1) (some index))
        pure (c.1, s)).run := by
  rw [Backend.rowGap?, ← findSome?_if]
  refine (Ends.mapM₂ hc ?_).mono fun entries he => eq_map_of_forall₂ he
  rintro c ⟨name, s⟩ ⟨rfl, hs⟩
  refine (firstText_ends mode hs (some row) _).bind_value ?_
  rintro t rfl
  exact .value _ rfl

theorem record_ends (hc : List.Forall₂ (CompiledColumn doc) columns compiled) (field : String)
    (row : Node) (index : Nat) :
    Ends (· = doc.recordOf columns row)
      (if mode.isStrict then doc.rowGap? field columns row index else none)
      (record doc mode field compiled row index).run := by
  refine (cells_ends mode hc field row index).bind_value ?_
  rintro cells rfl
  exact .value _ rfl

theorem rows_ends (hc : List.Forall₂ (CompiledColumn doc) columns compiled) (field : String)
    (rows : List Node) :
    Ends (· = rows.map (doc.recordOf columns))
      (if mode.isStrict then
        rows.zipIdx.findSome? fun r => doc.rowGap? field columns r.1 r.2 else none)
      (rows.zipIdx.mapM fun r => record doc mode field compiled r.1 r.2).run := by
  rw [← findSome?_if]
  refine (Ends.mapM rows.zipIdx fun r => record_ends mode hc field r.1 r.2).mono fun out hout => ?_
  have h : rows.zipIdx.map (doc.recordOf columns ∘ Prod.fst) = rows.map (doc.recordOf columns) := by
    rw [← List.map_map, List.zipIdx_map_fst]
  exact (eq_map_of_forall₂ hout).trans h

theorem records_ends {name : String} {g : Group} {root : Selector}
    (hr : doc.compile g.root = .ok root)
    (hc : List.Forall₂ (CompiledColumn doc) g.columns compiled) :
    Ends (· = (doc.dataRows g).map (doc.recordOf g.columns))
      (doc.violation? mode ⟨name, .group g⟩) (records doc mode name root compiled).run := by
  have hrows : (doc.select root none).drop headerRows = doc.dataRows g := by
    simp only [Backend.dataRows, Backend.nodes, hr, headerRows, List.drop_one]
  have hrun : records doc mode name root compiled = (do
      let out ← (doc.dataRows g).zipIdx.mapM fun r => record doc mode name compiled r.1 r.2
      if out.isEmpty && mode.requiresRecords then throw (.noRecords name) else pure out) := by
    rw [← hrows]
    rfl
  rw [hrun]
  refine (rows_ends mode hc name (doc.dataRows g)).bind ?_
  rintro out rfl
  simp only [Backend.emptiness?, List.isEmpty_map]
  by_cases h : doc.dataRows g = []
  · cases hm : mode.requiresRecords with
    | true =>
      simp only [h, List.isEmpty_nil, Bool.and_self, if_true]
      exact .fault _
    | false =>
      simp only [h, Bool.and_false, Bool.false_eq_true, if_false]
      exact .value _ rfl
  · simp only [h, List.isEmpty_eq_false_iff.2 h, Bool.false_and, Bool.false_eq_true, if_false,
      ite_self]
    exact .value _ rfl

theorem fieldValue_ends {f : Field} {plan : String × Plan Selector} (h : Compiled doc f plan) :
    Ends (· = doc.valueOf f.target) (doc.violation? mode f)
      (fieldValue doc mode plan.1 plan.2).run := by
  cases h with
  | @single name s c hs =>
    simp only [Backend.violation?, Backend.gap?, Backend.emptiness?, ite_self, Option.or_none]
    refine (firstText_ends mode hs none (.missing name none none)).bind_value ?_
    rintro t rfl
    exact .value _ rfl
  | @group name g root compiled hr hc =>
    refine (records_ends mode hr hc).bind_value ?_
    rintro rows rfl
    exact .value _ rfl

theorem entries_ends {fields : List Field} {plans : List (String × Plan Selector)}
    (h : List.Forall₂ (Compiled doc) fields plans) :
    Ends (· = fields.map fun f => (f.name, doc.valueOf f.target))
      (fields.findSome? (doc.violation? mode))
      (plans.mapM fun p : String × Plan Selector => do
        let v ← fieldValue doc mode p.1 p.2
        pure (p.1, v)).run := by
  refine (Ends.mapM₂ h ?_).mono fun entries he => eq_map_of_forall₂ he
  intro f p hp
  refine (fieldValue_ends mode hp).bind_value ?_
  rintro v rfl
  cases hp <;> exact .value _ rfl

end LookingUp

/-- Refused selectors come before everything that the mode objects to. -/
theorem extract_ends (doc : Backend Id Selector Node) (spec : Spec) (mode : ExtractionMode) :
    Ends (· = doc.contentOf spec)
      ((spec.places.findSome? doc.refusal?).or (spec.fields.findSome? (doc.violation? mode)))
      (extract doc spec mode).run := by
  refine (plans_ends doc spec.fields).bind fun plans hplans => ?_
  refine (entries_ends mode hplans).bind_value ?_
  rintro entries rfl
  exact .value _ rfl

theorem extract_error_iff {doc : Backend Id Selector Node} {spec : Spec} {mode : ExtractionMode}
    {e : ExtractionError} :
    (extract doc spec mode).run = .error e ↔
      (spec.places.findSome? doc.refusal?).or (spec.fields.findSome? (doc.violation? mode)) = some e :=
  (extract_ends doc spec mode).error_iff e

theorem extract_ok_iff {doc : Backend Id Selector Node} {spec : Spec} {mode : ExtractionMode}
    {r : Extract} :
    (extract doc spec mode).run = .ok r ↔
      (spec.places.findSome? doc.refusal?).or (spec.fields.findSome? (doc.violation? mode)) = none ∧
        r = doc.contentOf spec :=
  (extract_ends doc spec mode).ok_iff r

end Gleaner.Extraction
