import Mathlib.Data.List.Nodup
import Gleaner.Spec.Decode

/-! Which specifications can be made. The faults that a draft or a JSON value is refused for are exactly
the ways in which its fields may fail to be valid, so nothing valid is refused either. -/
namespace Gleaner

theorem Text.allBlank_eq_false_iff {s : String} :
    Text.allBlank s = false ↔ ∃ c ∈ s.toList, Text.isBlank c = false := by
  simp [Text.allBlank]

/-! No fault is found among valid fields. -/

/-- Behind an entry with a name of its own, the names stay new. -/
theorem fresh_behind {α : Type} {name : α → String} {seen : List String} {a : α} {rest : List α}
    (new : name a ∉ rest.map name) (fresh : ∀ b ∈ rest, name b ∉ seen) :
    ∀ b ∈ rest, name b ∉ name a :: seen := by
  intro b hb hmem
  rcases List.mem_cons.1 hmem with heq | hmem
  · exact new (List.mem_map.2 ⟨b, hb, heq⟩)
  · exact fresh b hb hmem

theorem columnsFault_of_valid {field : String} {seen : List String} {columns : List Column}
    (distinct : (columns.map (·.name)).Nodup) (fresh : ∀ c ∈ columns, c.name ∉ seen)
    (notRoot : ∀ c ∈ columns, c.name ≠ rootName)
    (selectors : ∀ c ∈ columns, Text.allBlank c.selector = false) :
    columnsFault field seen columns = none := by
  induction columns generalizing seen with
  | nil => rfl
  | cons c rest ih =>
    rw [List.forall_mem_cons] at fresh notRoot selectors
    obtain ⟨hnew, hdistinct⟩ := List.nodup_cons.1 distinct
    have hname : ¬ (c.name = rootName ∨ c.name ∈ seen) := not_or.2 ⟨notRoot.1, fresh.1⟩
    rw [columnsFault, if_neg hname, selectors.1]
    exact ih hdistinct (fresh_behind hnew fresh.2) notRoot.2 selectors.2

theorem targetFault_eq_none_iff {field : String} {t : Target} :
    targetFault field t = none ↔ t.Valid := by
  refine ⟨targetFault_eq_none, fun h => ?_⟩
  cases t with
  | single s =>
    have hs : Text.allBlank s = false := h
    simp [targetFault, hs]
  | group g =>
    have hcolumns : columnsFault field [] g.columns = none :=
      columnsFault_of_valid h.distinct (fun _ _ => List.not_mem_nil) h.not_root h.selectors
    simp [targetFault, h.root, h.some_column, hcolumns]

theorem fieldsFault_of_valid {seen : List String} {fields : List Field} (valid : ValidFields fields)
    (fresh : ∀ f ∈ fields, f.name ∉ seen) : fieldsFault seen fields = none := by
  induction fields generalizing seen with
  | nil => rfl
  | cons f rest ih =>
    obtain ⟨hdistinct, htargets⟩ := valid
    rw [List.forall_mem_cons] at fresh htargets
    obtain ⟨hnew, hrest⟩ := List.nodup_cons.1 hdistinct
    rw [fieldsFault, if_neg fresh.1, targetFault_eq_none_iff.2 htargets.1]
    exact ih ⟨hrest, htargets.2⟩ (fresh_behind hnew fresh.2)

theorem fieldsFault_eq_none_iff {fields : List Field} :
    fieldsFault [] fields = none ↔ ValidFields fields :=
  ⟨fun h => (fieldsFault_eq_none h).1,
    fun h => fieldsFault_of_valid h fun _ _ => List.not_mem_nil⟩

namespace Spec

theorem ext_fields {s t : Spec} (h : s.fields = t.fields) : s = t := by
  cases s
  cases t
  cases h
  rfl

theorem ofFields_eq_ok_iff {fields : List Field} {s : Spec} :
    ofFields fields = .ok s ↔ s.fields = fields := by
  constructor
  · intro h
    unfold ofFields at h
    split at h
    · cases h
    · cases h
      rfl
  · intro h
    have hnone : fieldsFault [] fields = none := fieldsFault_eq_none_iff.2 (h ▸ s.valid)
    unfold ofFields
    split
    · next e he => cases hnone.symm.trans he
    · exact congrArg _ (ext_fields h.symm)

theorem ofFields_succeeds_iff {fields : List Field} :
    (∃ s, ofFields fields = .ok s) ↔ ValidFields fields := by
  constructor
  · rintro ⟨s, hs⟩
    exact ofFields_eq_ok_iff.1 hs ▸ s.valid
  · intro h
    exact ⟨⟨fields, h⟩, ofFields_eq_ok_iff.2 rfl⟩

end Spec

/-! Drafts, made by a sequence of calls. -/

/-- A call that adds a field to a draft. -/
inductive FieldCall
  | single (name selector : String)
  | group (name root : String) (columns : List (String × String))
  deriving DecidableEq, Repr

namespace FieldCall

def name : FieldCall → String
  | .single name _ => name
  | .group name _ _ => name

/-- All selectors of the call. -/
def selectors : FieldCall → List String
  | .single _ selector => [selector]
  | .group _ root columns => root :: columns.map (·.2)

/-- The field that the call adds. -/
def field : FieldCall → Field
  | .single name selector => ⟨name, .single selector⟩
  | .group name root columns => ⟨name, .group ⟨root, columns.map fun c => ⟨c.1, c.2⟩⟩⟩

def addTo (d : SpecDraft) : FieldCall → SpecDraft
  | .single name selector => d.single name selector
  | .group name root columns => d.group name root columns

/-- The calls describe a specification: names do not clash and no selector is blank. -/
structure Describe (calls : List FieldCall) : Prop where
  names : (calls.map name).Nodup
  selectors : ∀ call ∈ calls, ∀ s ∈ call.selectors, ∃ c ∈ s.toList, Text.isBlank c = false
  columns : ∀ name root columns, group name root columns ∈ calls →
    columns ≠ [] ∧ (columns.map (·.1)).Nodup ∧ "root" ∉ columns.map (·.1)

theorem field_name (call : FieldCall) : call.field.name = call.name := by
  cases call <;> rfl

theorem map_field_names (calls : List FieldCall) :
    (calls.map field).map (·.name) = calls.map name := by
  simp [Function.comp_def, field_name]

theorem field_valid_iff (call : FieldCall) :
    call.field.target.Valid ↔
      (∀ s ∈ call.selectors, ∃ c ∈ s.toList, Text.isBlank c = false) ∧
      ∀ name root columns, call = group name root columns →
        columns ≠ [] ∧ (columns.map (·.1)).Nodup ∧ "root" ∉ columns.map (·.1) := by
  simp only [← Text.allBlank_eq_false_iff]
  cases call with
  | single name s => simp [field, Target.Valid, selectors]
  | group name root columns =>
    have hnames : (columns.map fun c => (⟨c.1, c.2⟩ : Column)).map (·.name) = columns.map (·.1) := by
      simp [Function.comp_def]
    constructor
    · intro h
      have hselectors := h.selectors
      have hroot := h.not_root
      simp only [List.forall_mem_map] at hselectors hroot
      refine ⟨?_, ?_⟩
      · simp only [selectors, List.forall_mem_cons, List.forall_mem_map]
        exact ⟨h.root, hselectors⟩
      · rintro _ _ _ ⟨⟩
        refine ⟨fun hnil => h.some_column (by simp [hnil]), hnames ▸ h.distinct, ?_⟩
        rw [List.mem_map]
        rintro ⟨c, hc, heq⟩
        exact hroot c hc heq
    · rintro ⟨hselectors, hcolumns⟩
      simp only [selectors, List.forall_mem_cons, List.forall_mem_map] at hselectors
      obtain ⟨hne, hdistinct, hroot⟩ := hcolumns _ _ _ rfl
      refine ⟨hselectors.1, by simpa using hne, hnames.symm ▸ hdistinct, ?_, ?_⟩
      · simp only [List.forall_mem_map]
        exact fun c hc heq => hroot (List.mem_map.2 ⟨c, hc, heq⟩)
      · simp only [List.forall_mem_map]
        exact hselectors.2

theorem validFields_iff_describe (calls : List FieldCall) :
    ValidFields (calls.map field) ↔ Describe calls := by
  constructor
  · rintro ⟨hdistinct, htargets⟩
    rw [map_field_names] at hdistinct
    simp only [List.forall_mem_map, field_valid_iff] at htargets
    exact ⟨hdistinct, fun call hc => (htargets call hc).1,
      fun name root columns hc => (htargets _ hc).2 _ _ _ rfl⟩
  · rintro ⟨hnames, hselectors, hcolumns⟩
    refine ⟨(map_field_names calls).symm ▸ hnames, ?_⟩
    simp only [List.forall_mem_map, field_valid_iff]
    intro call hc
    refine ⟨hselectors call hc, ?_⟩
    rintro name root columns rfl
    exact hcolumns name root columns hc

/-- Every field is what some call adds. -/
theorem exists_calls (fields : List Field) : ∃ calls : List FieldCall, calls.map field = fields := by
  induction fields with
  | nil => exact ⟨[], rfl⟩
  | cons f rest ih =>
    obtain ⟨calls, rfl⟩ := ih
    obtain ⟨name, target⟩ := f
    cases target with
    | single s => exact ⟨.single name s :: calls, rfl⟩
    | group g =>
      refine ⟨.group name g.root (g.columns.map fun c => (c.name, c.selector)) :: calls, ?_⟩
      simp [field, Function.comp_def]

end FieldCall

namespace SpecDraft

/-- The draft after a sequence of calls. -/
def ofCalls (calls : List FieldCall) : SpecDraft := calls.foldl FieldCall.addTo {}

theorem fields_addTo (d : SpecDraft) (call : FieldCall) :
    (call.addTo d).fields = d.fields ++ [call.field] := by
  cases call <;> rfl

theorem fields_foldl (calls : List FieldCall) (d : SpecDraft) :
    (calls.foldl FieldCall.addTo d).fields = d.fields ++ calls.map FieldCall.field := by
  induction calls generalizing d with
  | nil => simp
  | cons call rest ih => simp [ih, fields_addTo]

theorem fields_ofCalls (calls : List FieldCall) :
    (ofCalls calls).fields = calls.map FieldCall.field :=
  fields_foldl calls {}

theorem build_ofCalls_iff {calls : List FieldCall} {s : Spec} :
    (ofCalls calls).build = .ok s ↔ s.fields = calls.map FieldCall.field := by
  rw [build, Spec.ofFields_eq_ok_iff, fields_ofCalls]

end SpecDraft

/-- A specification is what some sequence of calls describes. -/
theorem Spec.exists_describe (s : Spec) :
    ∃ calls, FieldCall.Describe calls ∧ s.fields = calls.map FieldCall.field := by
  obtain ⟨calls, hcalls⟩ := FieldCall.exists_calls s.fields
  exact ⟨calls, (FieldCall.validFields_iff_describe calls).1 (hcalls ▸ s.valid), hcalls.symm⟩

/-- A draft can be built exactly if the calls describe a specification, and then it has the fields of the
calls in their order. What is read off a value or a text could have been built in the same way. -/
theorem built_or_read :
    (∀ calls, ((∃ s, (SpecDraft.ofCalls calls).build = .ok s) ↔ FieldCall.Describe calls) ∧
      ∀ s, (SpecDraft.ofCalls calls).build = .ok s → s.fields = calls.map FieldCall.field) ∧
    (∀ v s, Spec.ofJson v = .ok s →
      ∃ calls, FieldCall.Describe calls ∧ (SpecDraft.ofCalls calls).build = .ok s) ∧
    ∀ bytes s, Spec.decode bytes = .ok s →
      ∃ calls, FieldCall.Describe calls ∧ (SpecDraft.ofCalls calls).build = .ok s := by
  have hbuilt : ∀ s : Spec,
      ∃ calls, FieldCall.Describe calls ∧ (SpecDraft.ofCalls calls).build = .ok s := by
    intro s
    obtain ⟨calls, hdescribe, hfields⟩ := s.exists_describe
    exact ⟨calls, hdescribe, SpecDraft.build_ofCalls_iff.2 hfields⟩
  refine ⟨fun calls => ⟨?_, fun s hs => SpecDraft.build_ofCalls_iff.1 hs⟩, fun _ s _ => hbuilt s,
    fun _ s _ => hbuilt s⟩
  rw [← FieldCall.validFields_iff_describe, ← Spec.ofFields_succeeds_iff, SpecDraft.build,
    SpecDraft.fields_ofCalls]

/-- A specification with one field, built, read off a value and read off a text. -/
theorem built_or_read_title :
    (∃ s, (SpecDraft.ofCalls [.single "title" "h1"]).build = .ok s ∧
      s.fields = [⟨"title", .single "h1"⟩]) ∧
    (∃ s, Spec.ofJson (.object [("title", .string "h1")]) = .ok s ∧
      ∃ calls, FieldCall.Describe calls ∧ (SpecDraft.ofCalls calls).build = .ok s) ∧
    ∃ s, Spec.decode (Text.Utf8.encode "\x7b\"title\": \"h1\"\x7d".toList) = .ok s ∧
      ∃ calls, FieldCall.Describe calls ∧ (SpecDraft.ofCalls calls).build = .ok s := by
  have hdescribe : FieldCall.Describe [.single "title" "h1"] := by
    refine ⟨by decide, ?_, ?_⟩
    · intro call hcall s hs
      cases List.mem_singleton.1 hcall
      cases List.mem_singleton.1 hs
      exact ⟨'h', by simp, by decide⟩
    · rintro name root columns hcall
      cases List.mem_singleton.1 hcall
  obtain ⟨s, hs⟩ := (built_or_read.1 [.single "title" "h1"]).1.2 hdescribe
  have hread : Spec.ofJson (.object [("title", .string "h1")]) = .ok s := hs
  have hfields : (Spec.decode (Text.Utf8.encode "\x7b\"title\": \"h1\"\x7d".toList)).toOption.map
      (·.fields) = some [⟨"title", .single "h1"⟩] := by
    decide +kernel
  cases hdecode : Spec.decode (Text.Utf8.encode "\x7b\"title\": \"h1\"\x7d".toList) with
  | error e =>
    rw [hdecode] at hfields
    cases hfields
  | ok t =>
    exact ⟨⟨s, hs, (built_or_read.1 _).2 s hs⟩, ⟨s, hread, built_or_read.2.1 _ s hread⟩,
      t, rfl, built_or_read.2.2 _ t hdecode⟩

end Gleaner
