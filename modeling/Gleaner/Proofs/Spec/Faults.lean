import Gleaner.Proofs.Spec.Build

/-! Which of several faults a draft is refused for: the first one, where the calls come in their order, the
checks of a call in theirs, and the columns of a group in theirs. What stands behind it has no say. -/
namespace Gleaner

/-- Nothing but blanks. -/
def BlankText (s : String) : Prop := ∀ c ∈ s.toList, Text.isBlank c = true

theorem allBlank_iff {s : String} : Text.allBlank s = true ↔ BlankText s := List.all_eq_true

theorem not_blankText_iff {s : String} : ¬ BlankText s ↔ Text.allBlank s = false := by
  rw [← allBlank_iff, Bool.not_eq_true]

/-- A scan that meets a fault splits its list there. Before the fault it finds none, and what comes behind
is not looked at. -/
theorem scan_eq_some_iff {α ε : Type} (name : α → String) (scan : List String → List α → Option ε)
    (hnil : ∀ seen, scan seen [] = none)
    (hcons : ∀ seen a rest, scan seen (a :: rest) = (scan seen [a]).or (scan (name a :: seen) rest))
    (seen : List String) {l : List α} {e : ε} :
    scan seen l = some e ↔ ∃ before a after, l = before ++ a :: after ∧ scan seen before = none ∧
      scan ((before.map name).reverse ++ seen) [a] = some e := by
  induction l generalizing seen with
  | nil => simp [hnil]
  | cons b rest ih =>
    rw [hcons]
    cases hb : scan seen [b] with
    | some e' =>
      constructor
      · intro h
        exact ⟨[], b, rest, rfl, hnil seen, hb.trans h⟩
      · rintro ⟨before, a, after, hl, hbefore, ha⟩
        cases before with
        | nil =>
          cases hl
          exact hb.symm.trans ha
        | cons b' before =>
          obtain ⟨rfl, -⟩ := List.cons.inj hl
          rw [hcons, hb] at hbefore
          cases hbefore
    | none =>
      rw [Option.none_or, ih]
      constructor
      · rintro ⟨before, a, after, rfl, hbefore, ha⟩
        refine ⟨b :: before, a, after, rfl, ?_, ?_⟩
        · rw [hcons, hb, hbefore]
          rfl
        · simpa using ha
      · rintro ⟨before, a, after, hl, hbefore, ha⟩
        cases before with
        | nil =>
          cases hl
          cases hb.symm.trans ha
        | cons b' before =>
          obtain ⟨rfl, rfl⟩ := List.cons.inj hl
          rw [hcons, hb, Option.none_or] at hbefore
          exact ⟨before, a, after, rfl, hbefore, by simpa using ha⟩

/-! Columns. -/

/-- Columns without a fault: no name twice, none that of the row selector, no blank selector. -/
structure GoodColumns (columns : List (String × String)) : Prop where
  distinct : (columns.map (·.1)).Nodup
  not_root : "root" ∉ columns.map (·.1)
  selectors : ∀ c ∈ columns, ¬ BlankText c.2

/-- What is wrong with a column behind columns with the names `before`. -/
inductive ColumnFault (field : String) (before : List String) : String × String → SpecError → Prop
  | taken {name selector : String} (h : name = "root" ∨ name ∈ before) :
      ColumnFault field before (name, selector) (.field (field ++ "." ++ name) .duplicateColumn)
  | blank {name selector : String} (hroot : name ≠ "root") (hnew : name ∉ before)
      (h : BlankText selector) :
      ColumnFault field before (name, selector) (.field (field ++ "." ++ name) .blankSelector)

theorem ColumnFault.mono {field : String} {seen seen' : List String} {c : String × String}
    {e : SpecError} (h : ColumnFault field seen c e) (hseen : ∀ n, n ∈ seen ↔ n ∈ seen') :
    ColumnFault field seen' c e := by
  cases h with
  | taken hname => exact .taken (hname.imp_right (hseen _).1)
  | blank hroot hnew hblank => exact .blank hroot (fun h => hnew ((hseen _).2 h)) hblank

/-- The columns of a call. -/
def columnsOf (columns : List (String × String)) : List Column := columns.map fun c => ⟨c.1, c.2⟩

theorem columnsFault_cons (field : String) (seen : List String) (c : Column) (rest : List Column) :
    columnsFault field seen (c :: rest) =
      (columnsFault field seen [c]).or (columnsFault field (c.name :: seen) rest) := by
  simp only [columnsFault]
  split_ifs <;> rfl

theorem columnsFault_eq_none_iff {field : String} {columns : List (String × String)} :
    columnsFault field [] (columnsOf columns) = none ↔ GoodColumns columns := by
  have hnames : (columnsOf columns).map (·.name) = columns.map (·.1) := by
    simp [columnsOf, Function.comp_def]
  constructor
  · intro h
    obtain ⟨hdistinct, -, hroot, hselectors⟩ := columnsFault_eq_none h
    refine ⟨hnames ▸ hdistinct, ?_, ?_⟩
    · rw [← hnames, List.mem_map]
      rintro ⟨c, hc, heq⟩
      exact hroot c hc heq
    · intro c hc
      exact not_blankText_iff.2 (hselectors _ (List.mem_map_of_mem hc))
  · intro h
    refine columnsFault_of_valid (hnames.symm ▸ h.distinct) (fun _ _ => List.not_mem_nil) ?_ ?_
    · intro c hc heq
      exact h.not_root (hnames ▸ List.mem_map.2 ⟨c, hc, heq⟩)
    · simp only [columnsOf, List.forall_mem_map]
      exact fun c hc => not_blankText_iff.1 (h.selectors c hc)

theorem columnsFault_singleton_iff {field : String} {seen : List String} {c : String × String}
    {e : SpecError} :
    columnsFault field seen [⟨c.1, c.2⟩] = some e ↔ ColumnFault field seen c e := by
  obtain ⟨name, selector⟩ := c
  rw [columnsFault]
  constructor
  · intro h
    split_ifs at h with hname hblank
    · cases h
      exact .taken hname
    · cases h
      obtain ⟨hroot, hnew⟩ := not_or.1 hname
      exact .blank hroot hnew (allBlank_iff.1 hblank)
    · cases h
  · intro h
    cases h with
    | taken hname => exact if_pos hname
    | blank hroot hnew hblank =>
      have hname : ¬ (name = rootName ∨ name ∈ seen) := not_or.2 ⟨hroot, hnew⟩
      rw [if_neg hname, if_pos (allBlank_iff.2 hblank)]
      rfl

/-- A fault among columns is that of a column behind columns without one. -/
theorem columnsFault_eq_some_iff {field : String} {columns : List (String × String)}
    {e : SpecError} :
    columnsFault field [] (columnsOf columns) = some e ↔
      ∃ before c after, columns = before ++ c :: after ∧ GoodColumns before ∧
        ColumnFault field (before.map (·.1)) c e := by
  have hscan := scan_eq_some_iff Prod.fst (fun seen cs => columnsFault field seen (columnsOf cs))
    (fun _ => rfl) (fun seen c rest => columnsFault_cons field seen ⟨c.1, c.2⟩ (columnsOf rest))
    [] (l := columns) (e := e)
  rw [hscan]
  refine exists_congr fun before => exists_congr fun c => exists_congr fun after => ?_
  refine and_congr_right fun _ => and_congr columnsFault_eq_none_iff ?_
  rw [List.append_nil]
  refine columnsFault_singleton_iff.trans ⟨fun h => h.mono ?_, fun h => h.mono ?_⟩
  · exact fun n => List.mem_reverse
  · exact fun n => List.mem_reverse.symm

/-! Calls. -/

namespace FieldCall

/-- What is wrong with a call behind calls with the names `before`, its columns left aside. -/
inductive HeadFault (before : List String) : FieldCall → SpecError → Prop
  | taken {call : FieldCall} (h : call.name ∈ before) :
      HeadFault before call (.field call.name .duplicateField)
  | blank {name selector : String} (hnew : name ∉ before) (h : BlankText selector) :
      HeadFault before (.single name selector) (.field name .blankSelector)
  | blankRoot {name root : String} {columns : List (String × String)} (hnew : name ∉ before)
      (h : BlankText root) :
      HeadFault before (.group name root columns) (.field (name ++ "." ++ "root") .blankSelector)
  | noColumns {name root : String} (hnew : name ∉ before) (hroot : ¬ BlankText root) :
      HeadFault before (.group name root []) (.field name .noColumns)

/-- The call is the first one with a fault, and the fault is none of its columns. -/
structure FirstFault (before : List FieldCall) (call : FieldCall) (e : SpecError) : Prop where
  describe : Describe before
  fault : call.HeadFault (before.map name) e

/-- The column behind `columns`, in a group behind `before`, is the first thing at fault. -/
structure FirstColumnFault (before : List FieldCall) (field root : String)
    (columns : List (String × String)) (column : String × String) (e : SpecError) : Prop where
  describe : Describe before
  name_new : field ∉ before.map name
  root_solid : ¬ BlankText root
  good : GoodColumns columns
  fault : ColumnFault field (columns.map (·.1)) column e

theorem HeadFault.mono {seen seen' : List String} {call : FieldCall} {e : SpecError}
    (h : call.HeadFault seen e) (hseen : ∀ n, n ∈ seen ↔ n ∈ seen') : call.HeadFault seen' e := by
  cases h with
  | taken hname => exact .taken ((hseen _).1 hname)
  | blank hnew hblank => exact .blank (fun h => hnew ((hseen _).2 h)) hblank
  | blankRoot hnew hblank => exact .blankRoot (fun h => hnew ((hseen _).2 h)) hblank
  | noColumns hnew hroot => exact .noColumns (fun h => hnew ((hseen _).2 h)) hroot

theorem fieldsFault_cons (seen : List String) (f : Field) (rest : List Field) :
    fieldsFault seen (f :: rest) = (fieldsFault seen [f]).or (fieldsFault (f.name :: seen) rest) := by
  simp only [fieldsFault]
  split_ifs
  · rfl
  · cases targetFault f.name f.target <;> rfl

theorem fieldsFault_of_taken {seen : List String} {call : FieldCall} (h : call.name ∈ seen) :
    fieldsFault seen [call.field] = some (.field call.name .duplicateField) := by
  rw [fieldsFault, field_name, if_pos h]

theorem fieldsFault_of_new {seen : List String} {call : FieldCall} (h : call.name ∉ seen) :
    fieldsFault seen [call.field] = targetFault call.name call.field.target := by
  rw [fieldsFault, field_name, if_neg h]
  cases targetFault call.name call.field.target <;> rfl

theorem fieldsFault_singleton_iff {seen : List String} {call : FieldCall} {e : SpecError} :
    fieldsFault seen [call.field] = some e ↔
      call.HeadFault seen e ∨
      ∃ name root columns c after, call = .group name root (columns ++ c :: after) ∧ name ∉ seen ∧
        ¬ BlankText root ∧ GoodColumns columns ∧ ColumnFault name (columns.map (·.1)) c e := by
  constructor
  · intro h
    by_cases hname : call.name ∈ seen
    · rw [fieldsFault_of_taken hname] at h
      cases h
      exact .inl (.taken hname)
    · rw [fieldsFault_of_new hname] at h
      cases call with
      | single name s =>
        rw [field, targetFault] at h
        split_ifs at h with hblank
        cases h
        exact .inl (.blank hname (allBlank_iff.1 hblank))
      | group name root columns =>
        change targetFault name (.group ⟨root, columnsOf columns⟩) = some e at h
        rw [targetFault] at h
        split_ifs at h with hroot hnone
        · cases h
          exact .inl (.blankRoot hname (allBlank_iff.1 hroot))
        · cases h
          cases List.map_eq_nil_iff.1 hnone
          exact .inl (.noColumns hname (fun hblank => hroot (allBlank_iff.2 hblank)))
        · obtain ⟨before, c, after, rfl, hgood, hfault⟩ := columnsFault_eq_some_iff.1 h
          exact .inr ⟨name, root, before, c, after, rfl, hname,
            fun hblank => hroot (allBlank_iff.2 hblank), hgood, hfault⟩
  · rintro (h | ⟨name, root, columns, c, after, rfl, hname, hroot, hgood, hfault⟩)
    · cases h with
      | taken hname => exact fieldsFault_of_taken hname
      | blank hnew hblank =>
        rw [fieldsFault_of_new hnew]
        exact if_pos (allBlank_iff.2 hblank)
      | blankRoot hnew hblank =>
        rw [fieldsFault_of_new hnew, field, targetFault, allBlank_iff.2 hblank]
        rfl
      | noColumns hnew hroot =>
        rw [fieldsFault_of_new hnew, field, targetFault, not_blankText_iff.1 hroot]
        rfl
    · have hcolumns := columnsFault_eq_some_iff.2 ⟨columns, c, after, rfl, hgood, hfault⟩
      rw [fieldsFault_of_new hname, field, targetFault, not_blankText_iff.1 hroot]
      simpa [columnsOf, FieldCall.name] using hcolumns

theorem firstFault_iff {before : List FieldCall} {call : FieldCall} {e : SpecError} :
    FirstFault before call e ↔ Describe before ∧ call.HeadFault (before.map name).reverse e := by
  constructor
  · intro h
    exact ⟨h.describe, h.fault.mono fun n => List.mem_reverse.symm⟩
  · rintro ⟨hdescribe, hfault⟩
    exact ⟨hdescribe, hfault.mono fun n => List.mem_reverse⟩

/-- The first fault of a list of calls is that of a call or of a column with nothing at fault before it. -/
theorem fieldsFault_eq_some_iff {calls : List FieldCall} {e : SpecError} :
    fieldsFault [] (calls.map field) = some e ↔
      (∃ before call after, calls = before ++ call :: after ∧ FirstFault before call e) ∨
      ∃ before name root columns c columns' after,
        calls = before ++ .group name root (columns ++ c :: columns') :: after ∧
        FirstColumnFault before name root columns c e := by
  have hscan := scan_eq_some_iff name (fun seen cs => fieldsFault seen (cs.map field)) (fun _ => rfl)
    (fun seen call rest => field_name call ▸ fieldsFault_cons seen call.field (rest.map field))
    [] (l := calls) (e := e)
  have hbefore : ∀ before : List FieldCall,
      fieldsFault [] (before.map field) = none ↔ Describe before :=
    fun before => fieldsFault_eq_none_iff.trans (validFields_iff_describe before)
  simp only [hbefore, List.append_nil] at hscan
  rw [hscan]
  constructor
  · rintro ⟨before, call, after, rfl, hdescribe, hfault⟩
    rcases fieldsFault_singleton_iff.1 hfault with
      hhead | ⟨name, root, columns, c, columns', rfl, hnew, hroot, hgood, hcolumn⟩
    · exact .inl ⟨before, call, after, rfl, firstFault_iff.2 ⟨hdescribe, hhead⟩⟩
    · rw [List.mem_reverse] at hnew
      exact .inr ⟨before, name, root, columns, c, columns', after, rfl,
        hdescribe, hnew, hroot, hgood, hcolumn⟩
  · rintro (⟨before, call, after, rfl, h⟩ |
      ⟨before, name, root, columns, c, columns', after, rfl, h⟩)
    · obtain ⟨hdescribe, hhead⟩ := firstFault_iff.1 h
      exact ⟨before, call, after, rfl, hdescribe, fieldsFault_singleton_iff.2 (.inl hhead)⟩
    · refine ⟨before, _, after, rfl, h.describe, fieldsFault_singleton_iff.2 (.inr ?_)⟩
      have hnew : name ∉ (before.map FieldCall.name).reverse := mt List.mem_reverse.1 h.name_new
      exact ⟨name, root, columns, c, columns', rfl, hnew, h.root_solid, h.good, h.fault⟩

end FieldCall

theorem Spec.ofFields_eq_error_iff {fields : List Field} {e : SpecError} :
    ofFields fields = .error e ↔ fieldsFault [] fields = some e := by
  unfold ofFields
  split
  · next e' he => simp [he]
  · next hnone => simp [hnone]

theorem SpecDraft.build_error_iff {calls : List FieldCall} {e : SpecError} :
    (ofCalls calls).build = .error e ↔ fieldsFault [] (calls.map FieldCall.field) = some e := by
  rw [build, Spec.ofFields_eq_error_iff, fields_ofCalls]

open FieldCall in
/-- A draft is refused for the first thing at fault, be it a call or a column of a call, and then it is
refused for it whatever calls follow and whatever columns follow the column. -/
theorem refused_for_first_fault :
    (∀ calls e, (SpecDraft.ofCalls calls).build = .error e ↔
      (∃ before call after, calls = before ++ call :: after ∧ FirstFault before call e) ∨
      ∃ before name root columns c columns' after,
        calls = before ++ .group name root (columns ++ c :: columns') :: after ∧
        FirstColumnFault before name root columns c e) ∧
    (∀ before call e, FirstFault before call e →
      ∀ after, (SpecDraft.ofCalls (before ++ call :: after)).build = .error e) ∧
    ∀ before name root columns c e, FirstColumnFault before name root columns c e →
      ∀ columns' after,
        (SpecDraft.ofCalls (before ++ .group name root (columns ++ c :: columns') :: after)).build =
          .error e := by
  have hiff : ∀ calls e, (SpecDraft.ofCalls calls).build = .error e ↔
      (∃ before call after, calls = before ++ call :: after ∧ FirstFault before call e) ∨
      ∃ before name root columns c columns' after,
        calls = before ++ .group name root (columns ++ c :: columns') :: after ∧
        FirstColumnFault before name root columns c e :=
    fun calls e => SpecDraft.build_error_iff.trans fieldsFault_eq_some_iff
  refine ⟨hiff, fun before call e h after => ?_, fun before name root columns c e h columns' after => ?_⟩
  · exact (hiff _ e).2 (.inl ⟨before, call, after, rfl, h⟩)
  · exact (hiff _ e).2 (.inr ⟨before, name, root, columns, c, columns', after, rfl, h⟩)

/-- A repeated name is reported, and neither the blank selector with it nor what comes behind. -/
theorem refused_for_first_fault_rows :
    FieldCall.FirstFault [.single "title" "h1"] (.single "title" " ")
        (.field "title" .duplicateField) ∧
      (∀ after, (SpecDraft.ofCalls (.single "title" "h1" :: .single "title" " " :: after)).build =
        .error (.field "title" .duplicateField)) ∧
      FieldCall.FirstColumnFault [.single "title" "h1"] "rows" "tr" [("a", "td")] ("a", " ")
        (.field "rows.a" .duplicateColumn) ∧
      ∀ columns after,
        (SpecDraft.ofCalls (.single "title" "h1" ::
          .group "rows" "tr" (("a", "td") :: ("a", " ") :: columns) :: after)).build =
          .error (.field "rows.a" .duplicateColumn) := by
  have hdescribe : FieldCall.Describe [.single "title" "h1"] :=
    (FieldCall.validFields_iff_describe _).1 (fieldsFault_eq_none_iff.1 (by decide))
  have hfirst : FieldCall.FirstFault [.single "title" "h1"] (.single "title" " ")
      (.field "title" .duplicateField) :=
    ⟨hdescribe, .taken List.mem_cons_self⟩
  have hgood : GoodColumns [("a", "td")] :=
    columnsFault_eq_none_iff.1 (by decide : columnsFault "rows" [] _ = none)
  have hfault : ColumnFault "rows" ["a"] ("a", " ") (.field "rows.a" .duplicateColumn) :=
    .taken (.inr List.mem_cons_self)
  have hcolumn : FieldCall.FirstColumnFault [.single "title" "h1"] "rows" "tr" [("a", "td")]
      ("a", " ") (.field "rows.a" .duplicateColumn) :=
    ⟨hdescribe, by decide, not_blankText_iff.2 (by decide), hgood, hfault⟩
  exact ⟨hfirst, refused_for_first_fault.2.1 _ _ _ hfirst,
    hcolumn, refused_for_first_fault.2.2 _ _ _ _ _ _ hcolumn⟩

end Gleaner
