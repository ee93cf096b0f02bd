import Gleaner.Proofs.Extraction.Calls.Recording
import Gleaner.Proofs.Extraction.Strict

/-! What is asked when. All selectors are compiled before the document is looked at, the fields follow in
order, and a failing run ends with the call whose answer is the failure. -/
namespace Gleaner

variable {Selector Node : Type}

/-! The failures of a script are those of the extraction. -/

namespace Backend

variable {doc : Backend Id Selector Node}

theorem failure?_places (doc : Backend Id Selector Node) (places : List Place) :
    Script.failure? (places.flatMap doc.placeScript) = places.findSome? doc.refusal? := by
  rw [Script.failure?_flatMap]
  exact findSome?_congr fun p _ => Script.failure?_singleton _

theorem failure?_lookUpScript {mode : ExtractionMode} {selector : String} {scope : Option Node}
    {e : ExtractionError} (h : ∃ s, doc.compile selector = .ok s) :
    Script.failure? (doc.lookUpScript mode selector scope e) =
      if mode.isStrict then doc.plain.gapAt? selector scope e else none := by
  obtain ⟨s, hs⟩ := h
  have htext : Script.failure? ((doc.select s scope).head?.toList.map fun n =>
      ((.text n, none) : Call Selector Node × Option ExtractionError)) = none := by
    simp [Script.failure?]
  simp only [lookUpScript, hs]
  rw [Script.failure?, findSome?_cons_eq_or, ← Script.failure?, htext, Option.or_none]

theorem failure?_rowsScript {mode : ExtractionMode} {f : Field} {root : String}
    (h : ∃ s, doc.compile root = .ok s) :
    Script.failure? (doc.rowsScript mode f root) =
      if mode.requiresRecords then doc.emptiness? f else none := by
  obtain ⟨s, hs⟩ := h
  simp only [rowsScript, hs, Script.failure?_singleton]

theorem failure?_fieldScript {mode : ExtractionMode} {f : Field}
    (h : ∀ p ∈ f.places, ∃ s, doc.compile p.selector = .ok s) :
    Script.failure? (doc.fieldScript mode f) = doc.plain.violation? mode f := by
  obtain ⟨name, target⟩ := f
  cases target with
  | single s =>
    have hs := h ⟨name, none, s⟩ List.mem_cons_self
    simp only [fieldScript, failure?_lookUpScript hs, violation?, gap?, emptiness?, ite_self,
      Option.or_none]
  | group g =>
    have hroot := h ⟨name, some rootName, g.root⟩ List.mem_cons_self
    have hcolumns : ∀ c ∈ g.columns, ∃ s, doc.compile c.selector = .ok s := fun c hc =>
      h ⟨name, some c.name, c.selector⟩ (List.mem_cons_of_mem _ (List.mem_map_of_mem hc))
    have hrow : ∀ r : Node × Nat, Script.failure? (doc.rowScript mode name g.columns r.1 r.2) =
        if mode.isStrict then doc.plain.rowGap? name g.columns r.1 r.2 else none := by
      intro r
      rw [rowScript, Script.failure?_flatMap, rowGap?, ← findSome?_if]
      exact findSome?_congr fun c hc => failure?_lookUpScript (hcolumns c hc)
    have hrows : Script.failure? ((doc.dataRows g).zipIdx.flatMap fun r =>
        doc.rowScript mode name g.columns r.1 r.2) =
        if mode.isStrict then doc.plain.gap? ⟨name, .group g⟩ else none := by
      rw [Script.failure?_flatMap, findSome?_congr fun r _ => hrow r, findSome?_if]
      rfl
    rw [fieldScript, Script.failure?_append, failure?_rowsScript hroot, hrows, violation?]
    -- A group without data rows has no gaps, so the order of the two checks does not matter.
    by_cases hempty : doc.dataRows g = []
    · have hgap : doc.plain.gap? ⟨name, .group g⟩ = none :=
        gap?_eq_none_iff.2 (not_lacks_of_vacant hempty)
      rw [hgap, ite_self, Option.or_none, Option.none_or]
      rfl
    · have hnone : doc.emptiness? ⟨name, .group g⟩ = none := emptiness?_eq_none_iff.2 hempty
      have hplain : doc.plain.emptiness? ⟨name, .group g⟩ = none := hnone
      rw [hnone, hplain, ite_self, Option.or_none, Option.none_or]

theorem failure?_script (spec : Spec) (mode : ExtractionMode) :
    Script.failure? (doc.script spec mode) =
      (spec.places.findSome? doc.plain.refusal?).or (spec.fields.findSome? (doc.plain.violation? mode)) := by
  rw [script, Script.failure?_append, failure?_places]
  change (spec.places.findSome? doc.refusal?).or _ = (spec.places.findSome? doc.refusal?).or _
  cases h : spec.places.findSome? doc.refusal? with
  | some e => rfl
  | none =>
    have haccepts : doc.Accepts spec := accepts_iff.2 h
    rw [Option.none_or, Option.none_or, Script.failure?_flatMap]
    refine findSome?_congr fun f hf => failure?_fieldScript fun p hp => haccepts p ?_
    exact List.mem_flatMap.2 ⟨f, hf, hp⟩

/-! The call that a failure comes from. -/

/-- The answer to the call is the failure: a refused selector, a look-up without matches, or a list of rows
with nothing behind the header. -/
inductive Causes (doc : Backend Id Selector Node) : Call Selector Node → ExtractionError → Prop
  | refused {s field : String} {column : Option String} {q : QueryError}
      (h : doc.compile s = .error q) : Causes doc (.compile s) (.selector field column q)
  | missing {s : Selector} {scope : Option Node} {field : String} {column : Option String}
      {record : Option Nat} (h : doc.select s scope = []) :
      Causes doc (.select s scope) (.missing field column record)
  | noRecords {s : Selector} {field : String} (h : (doc.select s none).tail = []) :
      Causes doc (.select s none) (.noRecords field)

theorem causes_of_mem_placeScript {p : Place} {c : Call Selector Node} {e : ExtractionError}
    (h : (c, some e) ∈ doc.placeScript p) : doc.Causes c e := by
  obtain ⟨rfl, he⟩ := Prod.mk.inj (List.mem_singleton.1 h)
  obtain ⟨q, hq, rfl⟩ := refusal?_eq_some_iff.1 he.symm
  exact .refused hq

theorem causes_of_mem_lookUpScript {mode : ExtractionMode} {selector field : String}
    {scope : Option Node} {column : Option String} {record : Option Nat} {c : Call Selector Node}
    {e : ExtractionError}
    (h : (c, some e) ∈ doc.lookUpScript mode selector scope (.missing field column record)) :
    doc.Causes c e := by
  unfold lookUpScript at h
  cases hs : doc.compile selector with
  | error q => simp [hs] at h
  | ok s =>
    simp only [hs, List.mem_cons, List.mem_map, Prod.mk.injEq, reduceCtorEq, and_false, exists_false,
      or_false] at h
    obtain ⟨rfl, he⟩ := h
    obtain ⟨-, hgap⟩ := Option.ite_none_right_eq_some.1 he.symm
    obtain ⟨hfirst, rfl⟩ := gapAt?_eq_some_iff.1 hgap
    have hplain : doc.plain.compile selector = .ok s := hs
    simp only [first?, hplain] at hfirst
    exact .missing (List.head?_eq_none_iff.1 hfirst)

theorem causes_of_mem_rowsScript {mode : ExtractionMode} {name : String} {g : Group}
    {c : Call Selector Node} {e : ExtractionError}
    (h : (c, some e) ∈ doc.rowsScript mode ⟨name, .group g⟩ g.root) : doc.Causes c e := by
  unfold rowsScript at h
  cases hs : doc.compile g.root with
  | error q => simp [hs] at h
  | ok s =>
    simp only [hs, List.mem_singleton, Prod.mk.injEq] at h
    obtain ⟨rfl, he⟩ := h
    obtain ⟨-, hempty⟩ := Option.ite_none_right_eq_some.1 he.symm
    obtain ⟨hrows, rfl⟩ := emptiness?_eq_some_iff.1 hempty
    simp only [Vacant, dataRows, nodes, hs] at hrows
    exact .noRecords hrows

theorem causes_of_mem_script {spec : Spec} {mode : ExtractionMode} {c : Call Selector Node}
    {e : ExtractionError} (h : (c, some e) ∈ doc.script spec mode) : doc.Causes c e := by
  rcases List.mem_append.1 h with h | h
  · obtain ⟨p, -, hp⟩ := List.mem_flatMap.1 h
    exact causes_of_mem_placeScript hp
  · obtain ⟨⟨name, target⟩, -, h⟩ := List.mem_flatMap.1 h
    cases target with
    | single s => exact causes_of_mem_lookUpScript h
    | group g =>
      rcases List.mem_append.1 h with h | h
      · exact causes_of_mem_rowsScript h
      · obtain ⟨r, -, h⟩ := List.mem_flatMap.1 h
        obtain ⟨column, -, h⟩ := List.mem_flatMap.1 h
        exact causes_of_mem_lookUpScript h

/-! Only the answers to selectors decide which selectors are compiled. -/

theorem mem_placeCalls {places : List Place} {c : Call Selector Node}
    (h : c ∈ Script.asked (places.flatMap doc.placeScript)) : c.compiled? ≠ none := by
  have hmem := (Script.asked_begins _).subset h
  rw [List.map_flatMap] at hmem
  obtain ⟨p, -, hp⟩ := List.mem_flatMap.1 hmem
  rw [List.mem_singleton.1 hp]
  exact nofun

theorem mem_lookUpCalls {selector : String} {scope : Option Node} {c : Call Selector Node}
    (h : c ∈ doc.lookUpCalls selector scope) :
    (∃ s, doc.compile selector = .ok s ∧ c = .select s scope) ∨ ∃ n, c = .text n := by
  unfold lookUpCalls at h
  cases hs : doc.compile selector with
  | error q => simp [hs] at h
  | ok s =>
    simp only [hs, List.mem_cons, List.mem_map] at h
    rcases h with rfl | ⟨n, -, rfl⟩
    · exact .inl ⟨s, rfl, rfl⟩
    · exact .inr ⟨n, rfl⟩

theorem mem_rowsCalls {root : String} {c : Call Selector Node} (h : c ∈ doc.rowsCalls root) :
    ∃ s, c = .select s none := by
  unfold rowsCalls at h
  cases hs : doc.compile root with
  | error q => simp [hs] at h
  | ok s =>
    simp only [hs, List.mem_singleton] at h
    exact ⟨s, h⟩

/-- A call for a field asks for matches in all of the document or in a data row, or for a text. -/
theorem mem_fieldCalls {f : Field} {c : Call Selector Node} (h : c ∈ doc.fieldCalls f) :
    (∃ s, c = .select s none) ∨ (∃ n, c = .text n) ∨
      ∃ g, f.target = .group g ∧ ∃ row ∈ doc.dataRows g, ∃ column ∈ g.columns, ∃ s,
        doc.compile column.selector = .ok s ∧ c = .select s (some row) := by
  obtain ⟨name, target⟩ := f
  cases target with
  | single s =>
    rcases mem_lookUpCalls h with ⟨s', -, rfl⟩ | ⟨n, rfl⟩
    · exact .inl ⟨s', rfl⟩
    · exact .inr (.inl ⟨n, rfl⟩)
  | group g =>
    rcases List.mem_append.1 h with h | h
    · exact .inl (mem_rowsCalls h)
    · obtain ⟨row, hrow, h⟩ := List.mem_flatMap.1 h
      obtain ⟨column, hcolumn, h⟩ := List.mem_flatMap.1 h
      rcases mem_lookUpCalls h with ⟨s, hs, rfl⟩ | ⟨n, rfl⟩
      · exact .inr (.inr ⟨g, rfl, row, hrow, column, hcolumn, s, hs, rfl⟩)
      · exact .inr (.inl ⟨n, rfl⟩)

theorem compiled?_of_mem_fieldCalls {f : Field} {c : Call Selector Node}
    (h : c ∈ doc.fieldCalls f) : c.compiled? = none := by
  rcases mem_fieldCalls h with ⟨s, rfl⟩ | ⟨n, rfl⟩ | ⟨g, -, row, -, column, -, s, -, rfl⟩ <;> rfl

theorem compiled?_of_mem_asked_fields {fields : List Field} {mode : ExtractionMode}
    {c : Call Selector Node}
    (h : c ∈ Script.asked (fields.flatMap (doc.fieldScript mode))) : c.compiled? = none := by
  have hmem := (Script.asked_begins _).subset h
  rw [List.map_flatMap] at hmem
  obtain ⟨f, -, hf⟩ := List.mem_flatMap.1 hmem
  rw [fieldScript_calls] at hf
  exact compiled?_of_mem_fieldCalls hf

/-- A run stops among the selectors, or all of them are accepted and the fields follow. -/
theorem asked_script_cases (doc : Backend Id Selector Node) (spec : Spec) (mode : ExtractionMode) :
    (∃ e, spec.places.findSome? doc.refusal? = some e ∧
      (doc.script spec mode).asked = Script.asked (spec.places.flatMap doc.placeScript)) ∨
    (doc.Accepts spec ∧ (doc.script spec mode).asked =
      spec.places.map (fun p => .compile p.selector) ++
        Script.asked (spec.fields.flatMap (doc.fieldScript mode))) := by
  have hplaces := failure?_places doc spec.places
  cases h : spec.places.findSome? doc.refusal? with
  | some e =>
    rw [h] at hplaces
    exact .inl ⟨e, rfl, Script.asked_append_of_failure hplaces _⟩
  | none =>
    rw [h] at hplaces
    refine .inr ⟨accepts_iff.2 h, ?_⟩
    rw [script, Script.asked_append hplaces, Script.asked_of_failure?_eq_none hplaces,
      List.map_flatMap]
    exact congrArg (· ++ _) List.map_eq_flatMap.symm

theorem compiled_script (spec : Spec) (mode : ExtractionMode) :
    (doc.script spec mode).asked.filterMap Call.compiled? =
      (Script.asked (spec.places.flatMap doc.placeScript)).filterMap Call.compiled? := by
  have hplaces := failure?_places doc spec.places
  cases h : spec.places.findSome? doc.refusal? with
  | some e => rw [script, Script.asked_append_of_failure (hplaces.trans h)]
  | none =>
    have hfields : (Script.asked (spec.fields.flatMap (doc.fieldScript mode))).filterMap
        Call.compiled? = [] :=
      List.filterMap_eq_nil_iff.2 fun c hc => compiled?_of_mem_asked_fields hc
    rw [script, Script.asked_append (hplaces.trans h), List.filterMap_append, hfields, List.append_nil]

theorem compiled_places_congr {Selector' Node' : Type} {doc' : Backend Id Selector' Node'}
    {places : List Place} (h : ∀ p ∈ places, (∃ q, doc.compile p.selector = .error q) ↔
      ∃ q, doc'.compile p.selector = .error q) :
    (Script.asked (places.flatMap doc.placeScript)).filterMap Call.compiled? =
      (Script.asked (places.flatMap doc'.placeScript)).filterMap Call.compiled? := by
  induction places with
  | nil => rfl
  | cons p rest ih =>
    obtain ⟨hp, hrest⟩ := List.forall_mem_cons.1 h
    have htail := ih hrest
    simp only [List.flatMap_cons, placeScript, List.singleton_append, refusal?] at htail ⊢
    cases hdoc : doc.compile p.selector with
    | error q =>
      obtain ⟨q', hq'⟩ := hp.1 ⟨q, hdoc⟩
      simp only [hq']
      rfl
    | ok s =>
      cases hdoc' : doc'.compile p.selector with
      | error q' =>
        obtain ⟨q, hq⟩ := hp.2 ⟨q', hdoc'⟩
        cases hdoc.symm.trans hq
      | ok s' => exact congrArg (p.selector :: ·) htail

end Backend

namespace Extraction

/-- The outcome of an extraction and the calls that it made. -/
def recordedRun (doc : Backend Id Selector Node) (spec : Spec) (mode : ExtractionMode) :
    Except ExtractionError Extract × List (Call Selector Node) :=
  (extract doc.recording spec mode).run []

/-- The calls `log` of an extraction that ended with `out`. -/
structure CallsInOrder (doc : Backend Id Selector Node) (spec : Spec) (mode : ExtractionMode)
    (out : Except ExtractionError Extract) (log : List (Call Selector Node)) : Prop where
  outcome : out = (extract doc.plain spec mode).run
  success : ∀ r, out = .ok r → log = doc.calls spec
  /-- The last call of a failing run is the one whose answer is the failure. -/
  failure : ∀ e, out = .error e → ∃ before c after,
    doc.script spec mode = before ++ (c, some e) :: after ∧ (∀ a ∈ before, a.2 = none) ∧
      doc.Causes c e ∧ log = before.map Prod.fst ++ [c]
  begins : log <+: doc.calls spec
  /-- All selectors are compiled, and accepted, before anything else is asked. -/
  compiled_first : ∀ before c after, log = before ++ c :: after → c.compiled? = none →
    doc.Accepts spec ∧ spec.places.map (fun p => .compile p.selector) <+: before
  /-- The first row of a group is not looked into at its place in the list of rows. -/
  inside_data_rows : ∀ s n, .select s (some n) ∈ log →
    ∃ name g, ⟨name, .group g⟩ ∈ spec.fields ∧ n ∈ (doc.nodes g.root none).tail ∧
      ∃ c ∈ g.columns, doc.compile c.selector = .ok s

variable {doc : Backend Id Selector Node} {spec : Spec} {mode : ExtractionMode}

theorem recordedRun_calls : (recordedRun doc spec mode).2 = (doc.script spec mode).asked := by
  obtain ⟨out, -, hrun⟩ := extract_follows doc spec mode
  have h : recordedRun doc spec mode = (out, [] ++ (doc.script spec mode).asked) := hrun []
  rw [h, List.nil_append]

theorem recordedRun_ends (doc : Backend Id Selector Node) (spec : Spec) (mode : ExtractionMode) :
    Ends (· = doc.plain.contentOf spec) (doc.script spec mode).failure? (recordedRun doc spec mode).1 := by
  obtain ⟨out, hends, hrun⟩ := extract_follows doc spec mode
  have h : recordedRun doc spec mode = (out, [] ++ (doc.script spec mode).asked) := hrun []
  rw [h]
  exact hends

theorem recordedRun_outcome : (recordedRun doc spec mode).1 = (extract doc.plain spec mode).run := by
  have h := recordedRun_ends doc spec mode
  rw [Backend.failure?_script] at h
  exact h.unique (extract_ends doc.plain spec mode)

theorem compiled_before_other {before after : List (Call Selector Node)} {c : Call Selector Node}
    (h : (doc.script spec mode).asked = before ++ c :: after) (hc : c.compiled? = none) :
    doc.Accepts spec ∧ spec.places.map (fun p => .compile p.selector) <+: before := by
  rcases Backend.asked_script_cases doc spec mode with ⟨e, -, hasked⟩ | ⟨haccepts, hasked⟩
  · have hmem : c ∈ Script.asked (spec.places.flatMap doc.placeScript) :=
      hasked ▸ h ▸ List.mem_append_cons_self
    exact absurd hc (Backend.mem_placeCalls hmem)
  · refine ⟨haccepts, ?_⟩
    rw [hasked] at h
    rcases List.append_eq_append_iff.1 h with ⟨rest, hbefore, -⟩ | ⟨rest, hplaces, hrest⟩
    · exact ⟨rest, hbefore.symm⟩
    · cases rest with
      | nil => exact ⟨[], by rw [List.append_nil, hplaces, List.append_nil]⟩
      | cons c' rest =>
        have hmem : c ∈ spec.places.map (fun p => Call.compile p.selector) := by
          rw [hplaces, (List.cons.inj hrest).1]
          exact List.mem_append_cons_self
        obtain ⟨p, -, rfl⟩ := List.mem_map.1 hmem
        cases hc

theorem select_inside_data_rows {s : Selector} {n : Node}
    (h : .select s (some n) ∈ doc.calls spec) :
    ∃ name g, ⟨name, .group g⟩ ∈ spec.fields ∧ n ∈ (doc.nodes g.root none).tail ∧
      ∃ c ∈ g.columns, doc.compile c.selector = .ok s := by
  rcases List.mem_append.1 h with h | h
  · obtain ⟨p, -, hp⟩ := List.mem_map.1 h
    cases hp
  · obtain ⟨⟨name, target⟩, hf, h⟩ := List.mem_flatMap.1 h
    rcases Backend.mem_fieldCalls h with ⟨_, he⟩ | ⟨_, he⟩ | ⟨g, rfl, row, hrow, c, hc, s', hs', he⟩
    · cases he
    · cases he
    · cases he
      exact ⟨name, g, hf, hrow, c, hc, hs'⟩

/-- An extraction compiles all selectors in order, then looks up field after field, and stops at the first
answer that is a failure. Which selectors it compiles is a matter of the selectors alone. -/
theorem calls_in_order (doc : Backend Id Selector Node) (spec : Spec) (mode : ExtractionMode) :
    CallsInOrder doc spec mode (recordedRun doc spec mode).1 (recordedRun doc spec mode).2 ∧
    ∀ {Selector' Node' : Type} (doc' : Backend Id Selector' Node') (mode' : ExtractionMode),
      (∀ p ∈ spec.places, (∃ q, doc.compile p.selector = .error q) ↔
        ∃ q, doc'.compile p.selector = .error q) →
      (recordedRun doc spec mode).2.filterMap Call.compiled? =
        (recordedRun doc' spec mode').2.filterMap Call.compiled? := by
  have hends := recordedRun_ends doc spec mode
  refine ⟨?_, fun doc' mode' h => ?_⟩
  · rw [recordedRun_calls]
    constructor
    · exact recordedRun_outcome
    · intro r hr
      have hnone := ((hends.ok_iff r).1 hr).1
      rw [Script.asked_of_failure?_eq_none hnone, Backend.script_calls]
    · intro e he
      obtain ⟨before, c, after, hscript, hbefore, hasked⟩ :=
        Script.exists_of_failure?_eq_some ((hends.error_iff e).1 he)
      have hmem : (c, some e) ∈ doc.script spec mode := hscript ▸ List.mem_append_cons_self
      exact ⟨before, c, after, hscript, List.findSome?_eq_none_iff.1 hbefore,
        Backend.causes_of_mem_script hmem, hasked⟩
    · rw [← Backend.script_calls doc spec mode]
      exact Script.asked_begins _
    · exact fun before c after => compiled_before_other
    · intro s n h
      have hmem := (Script.asked_begins _).subset h
      rw [Backend.script_calls] at hmem
      exact select_inside_data_rows hmem
  · rw [recordedRun_calls, recordedRun_calls, Backend.compiled_script, Backend.compiled_script]
    exact Backend.compiled_places_congr h

/-- The price list before anything is written on it. -/
def blankPriceList : Backend Id String Nat where
  compile := priceList.compile
  select _ _ := []
  text _ := ""

theorem calls_in_order_prices :
    (∀ p ∈ priceSpec.places, (∃ q, priceList.compile p.selector = .error q) ↔
      ∃ q, blankPriceList.compile p.selector = .error q) ∧
    (recordedRun priceList priceSpec (.strict true)).2.filterMap Call.compiled? =
      (recordedRun blankPriceList priceSpec .lenient).2.filterMap Call.compiled? ∧
    (recordedRun priceList priceSpec (.strict true)).2 =
      [.compile "h1", .compile "tr", .compile "td", .compile "td.price", .compile "li", .compile "p",
        .select "h1" none, .text 1, .select "tr" none,
        .select "td" (some 20), .text 21, .select "td.price" (some 20), .text 22,
        .select "td" (some 30), .text 31, .select "td.price" (some 30)] :=
  ⟨fun _ _ => Iff.rfl,
    (calls_in_order priceList priceSpec (.strict true)).2 blankPriceList .lenient fun _ _ => Iff.rfl, rfl⟩

end Extraction

end Gleaner
