import Gleaner.Proofs.Json.Write
import Gleaner.Proofs.Spec.Faults
import Gleaner.Proofs.Spec.Json

/-! Which of several faults a JSON value is refused for. The shape of all members is looked at before the
content of any, each time in the order of the names, and the names of the members cannot clash. -/
namespace Gleaner

/-! The first one among several. -/

theorem bind_pure_error_iff {α β ε : Type} {x : Except ε α} {g : α → β} {e : ε} :
    (x >>= fun a => pure (g a)) = .error e ↔ x = .error e := by
  cases x <;> simp [bind, Except.bind, pure, Except.pure]

theorem mapM_cons_error_iff {α β ε : Type} {f : α → Except ε β} {a : α} {l : List α} {e : ε} :
    (a :: l).mapM f = .error e ↔ f a = .error e ∨ (∃ b, f a = .ok b) ∧ l.mapM f = .error e := by
  rw [List.mapM_cons]
  cases f a with
  | error e' => simp [bind, Except.bind]
  | ok b =>
    simp only [reduceCtorEq, Except.ok.injEq, exists_eq', true_and, false_or]
    exact bind_pure_error_iff

/-- A traversal fails at the first item that fails. -/
theorem mapM_error_iff {α β ε : Type} {f : α → Except ε β} {l : List α} {e : ε} :
    l.mapM f = .error e ↔
      ∃ before a after, l = before ++ a :: after ∧ (∀ b ∈ before, ∃ r, f b = .ok r) ∧
        f a = .error e := by
  induction l with
  | nil => simp [pure, Except.pure]
  | cons b rest ih =>
    rw [mapM_cons_error_iff, ih]
    constructor
    · rintro (hb | ⟨hb, before, a, after, rfl, hbefore, ha⟩)
      · exact ⟨[], b, rest, rfl, by simp, hb⟩
      · exact ⟨b :: before, a, after, rfl, List.forall_mem_cons.2 ⟨hb, hbefore⟩, ha⟩
    · rintro ⟨before, a, after, hl, hbefore, ha⟩
      cases before with
      | nil =>
        cases hl
        exact .inl ha
      | cons b' before =>
        obtain ⟨rfl, rfl⟩ := List.cons.inj hl
        obtain ⟨hb, hbefore⟩ := List.forall_mem_cons.1 hbefore
        exact .inr ⟨hb, before, a, after, rfl, hbefore, ha⟩

/-- The first one of a kind among the entries that pass a filter, found in the list itself. -/
theorem exists_filter_split_iff {α : Type} {p : α → Bool} {l : List α} {P Q : α → Prop} :
    (∃ before a after, l.filter p = before ++ a :: after ∧ (∀ b ∈ before, P b) ∧ Q a) ↔
      ∃ before a after, l = before ++ a :: after ∧ (∀ b ∈ before, p b = true → P b) ∧
        p a = true ∧ Q a := by
  constructor
  · rintro ⟨before, a, after, hfilter, hbefore, ha⟩
    obtain ⟨l₁, l₂, rfl, rfl, htail⟩ := List.filter_eq_append_iff.1 hfilter
    obtain ⟨l₃, l₄, rfl, hskipped, hpa, -⟩ := List.filter_eq_cons_iff.1 htail
    refine ⟨l₁ ++ l₃, a, l₄, (List.append_assoc _ _ _).symm, ?_, hpa, ha⟩
    intro b hb hpb
    rcases List.mem_append.1 hb with hb | hb
    · exact hbefore b (List.mem_filter.2 ⟨hb, hpb⟩)
    · exact absurd hpb (hskipped b hb)
  · rintro ⟨before, a, after, rfl, hbefore, hpa, ha⟩
    refine ⟨before.filter p, a, after.filter p, ?_, ?_, ha⟩
    · rw [List.filter_append, List.filter_cons_of_pos hpa]
    · intro b hb
      obtain ⟨hb, hpb⟩ := List.mem_filter.1 hb
      exact hbefore b hb hpb

theorem Increasing.nodup {α : Type} {l : List (String × α)} (h : Increasing l) :
    (l.map (·.1)).Nodup :=
  (⟨l, h⟩ : SortedMap α).keys_nodup

theorem lookup_eq_some_iff {α : Type} {l : List (String × α)} (h : Increasing l) {k : String}
    {v : α} : l.lookup k = some v ↔ (k, v) ∈ l :=
  (SortedMap.mem_entries_iff ⟨l, h⟩ (k, v)).symm

/-- In sorted entries a name has one value. -/
theorem Increasing.value_unique {α : Type} {l : List (String × α)} (h : Increasing l) {k : String}
    {v w : α} (hv : (k, v) ∈ l) (hw : (k, w) ∈ l) : v = w := by
  rw [← lookup_eq_some_iff h] at hv hw
  exact Option.some.inj (hv.symm.trans hw)

namespace Spec

/-! Faults of shape. -/

def IsText (v : Json) : Prop := ∃ s, v = .string s

/-- What is wrong with the shape of a member. Of a group the row selector is looked at first. -/
inductive ShapeFault : String × Json → SpecError → Prop
  | target {name : String} {v : Json} (htext : ¬ IsText v) (hobject : ∀ ms, v ≠ .object ms) :
      ShapeFault (name, v) (.field name (.notTarget v.kind))
  | noRoot {name : String} {ms : List (String × Json)} (h : "root" ∉ ms.map (·.1)) :
      ShapeFault (name, .object ms) (.field name .noRoot)
  | root {name : String} {ms : List (String × Json)} {v : Json} (h : ("root", v) ∈ ms)
      (htext : ¬ IsText v) :
      ShapeFault (name, .object ms) (.field (name ++ "." ++ "root") (.notSelector v.kind))
  | column {name column root : String} {before after : List (String × Json)} {v : Json}
      (hroot : ("root", .string root) ∈ before ++ (column, v) :: after)
      (hbefore : ∀ m ∈ before, IsText m.2) (htext : ¬ IsText v) :
      ShapeFault (name, .object (before ++ (column, v) :: after))
        (.field (name ++ "." ++ column) (.notSelector v.kind))

theorem columnOfMember_succeeds_iff {field : String} {m : String × Json} :
    (∃ c, columnOfMember field m = .ok c) ↔ IsText m.2 := by
  obtain ⟨name, v⟩ := m
  cases v <;> simp [columnOfMember, IsText]

theorem columnOfMember_error_iff {field : String} {m : String × Json} {e : SpecError} :
    columnOfMember field m = .error e ↔
      ¬ IsText m.2 ∧ e = .field (field ++ "." ++ m.1) (.notSelector m.2.kind) := by
  obtain ⟨name, v⟩ := m
  cases v <;> simp [columnOfMember, IsText, partPath, eq_comm]

/-- The first column that is no text. The row selector, which is among the members, is passed over. -/
theorem columns_error_iff {field : String} {ms : List (String × Json)} {e : SpecError} :
    (ms.filter (·.1 != rootName)).mapM (columnOfMember field) = .error e ↔
      ∃ before m after, ms = before ++ m :: after ∧
        (∀ b ∈ before, (b.1 != rootName) = true → IsText b.2) ∧ (m.1 != rootName) = true ∧
        ¬ IsText m.2 ∧ e = .field (field ++ "." ++ m.1) (.notSelector m.2.kind) := by
  simp only [mapM_error_iff, columnOfMember_succeeds_iff, columnOfMember_error_iff]
  exact exists_filter_split_iff

theorem groupOfMembers_error_iff {field : String} {ms : List (String × Json)} {e : SpecError}
    (h : Increasing ms) :
    groupOfMembers field ms = .error e ↔ ShapeFault (field, .object ms) e := by
  constructor
  · intro he
    unfold groupOfMembers at he
    split at he
    · next root hroot =>
      have hmem : ("root", .string root) ∈ ms := (lookup_eq_some_iff h).1 hroot
      obtain ⟨before, m, after, rfl, hbefore, hname, htext, rfl⟩ :=
        columns_error_iff.1 (bind_pure_error_iff.1 he)
      refine .column hmem (fun b hb => ?_) htext
      by_cases hb' : (b.1 != rootName) = true
      · exact hbefore b hb hb'
      · obtain ⟨name, v⟩ := b
        obtain rfl : name = rootName := by simpa using hb'
        exact ⟨root, h.value_unique (List.mem_append_left _ hb) hmem⟩
    · next v hnot hroot =>
      cases he
      exact .root ((lookup_eq_some_iff h).1 hroot) fun ⟨s, hs⟩ => hnot s hs
    · next hnone =>
      cases he
      exact .noRoot (lookup_eq_none_iff.1 hnone)
  · intro hfault
    cases hfault with
    | target htext hobject => exact absurd rfl (hobject ms)
    | noRoot hnone =>
      have hlookup : ms.lookup rootName = none := lookup_eq_none_iff.2 hnone
      simp only [groupOfMembers, hlookup]
    | @root _ _ v hmem htext =>
      have hlookup : ms.lookup rootName = some v := (lookup_eq_some_iff h).2 hmem
      simp only [groupOfMembers, hlookup]
      cases v with
      | string s => exact absurd ⟨s, rfl⟩ htext
      | _ => rfl
    | @column _ column root before after v hmem hbefore htext =>
      have hlookup := (lookup_eq_some_iff h (k := rootName)).2 hmem
      have hname : column ≠ rootName := by
        rintro rfl
        have hv := h.value_unique hmem (List.mem_append_right before List.mem_cons_self)
        exact htext ⟨root, hv.symm⟩
      simp only [groupOfMembers, hlookup]
      refine bind_pure_error_iff.2 (columns_error_iff.2 ?_)
      refine ⟨before, (column, v), after, rfl, fun b hb _ => hbefore b hb, ?_, htext, rfl⟩
      simpa using hname

theorem fieldOfMember_error_iff {m : String × Json} {e : SpecError} (h : m.2.Canonical) :
    fieldOfMember m = .error e ↔ ShapeFault m e := by
  obtain ⟨name, v⟩ := m
  have hother : (∀ ms, v ≠ .object ms) → ¬ IsText v →
      (ShapeFault (name, v) e ↔ e = .field name (.notTarget v.kind)) := by
    intro hobject htext
    constructor
    · intro hfault
      cases hfault with
      | target => rfl
      | noRoot => exact absurd rfl (hobject _)
      | root => exact absurd rfl (hobject _)
      | column => exact absurd rfl (hobject _)
    · rintro rfl
      exact .target htext hobject
  cases v with
  | string s =>
    constructor
    · rintro ⟨⟩
    · intro hfault
      cases hfault with
      | target htext => exact absurd ⟨s, rfl⟩ htext
  | object ms =>
    rw [← groupOfMembers_error_iff (Json.canonical_object_iff.1 h).1]
    exact bind_pure_error_iff
  | _ =>
    rw [hother (by rintro ms ⟨⟩) (by rintro ⟨s, ⟨⟩⟩)]
    simp [fieldOfMember, eq_comm]

/-! Faults of content. -/

/-- What is wrong with the content of a member that has the right shape: a blank selector, for a group a
blank row selector, then the lack of columns, then the first blank column. -/
inductive ContentFault : String × Json → SpecError → Prop
  | blank {name s : String} (h : BlankText s) :
      ContentFault (name, .string s) (.field name .blankSelector)
  | blankRoot {name root : String} {ms : List (String × Json)} (hmem : ("root", .string root) ∈ ms)
      (h : BlankText root) :
      ContentFault (name, .object ms) (.field (name ++ "." ++ "root") .blankSelector)
  | noColumns {name root : String} (hroot : ¬ BlankText root) :
      ContentFault (name, .object [("root", .string root)]) (.field name .noColumns)
  | column {name column root s : String} {before after : List (String × Json)}
      (hmem : ("root", .string root) ∈ before ++ (column, .string s) :: after)
      (hroot : ¬ BlankText root)
      (hbefore : ∀ k t, (k, .string t) ∈ before → ¬ BlankText t) (h : BlankText s) :
      ContentFault (name, .object (before ++ (column, .string s) :: after))
        (.field (name ++ "." ++ column) .blankSelector)

/-- The fault of a column whose name is not in question. -/
def blankColumn? (field : String) (c : Column) : Option SpecError :=
  if Text.allBlank c.selector then some (.field (partPath field c.name) .blankSelector) else none

theorem columnsFault_of_names {field : String} {seen : List String} {columns : List Column}
    (distinct : (columns.map (·.name)).Nodup) (fresh : ∀ c ∈ columns, c.name ∉ seen)
    (notRoot : ∀ c ∈ columns, c.name ≠ rootName) :
    columnsFault field seen columns = columns.findSome? (blankColumn? field) := by
  induction columns generalizing seen with
  | nil => rfl
  | cons c rest ih =>
    rw [List.forall_mem_cons] at fresh notRoot
    obtain ⟨hnew, hrest⟩ := List.nodup_cons.1 distinct
    have hname : ¬ (c.name = rootName ∨ c.name ∈ seen) := not_or.2 ⟨notRoot.1, fresh.1⟩
    rw [columnsFault, if_neg hname, ih hrest (fresh_behind hnew fresh.2) notRoot.2,
      List.findSome?_cons, blankColumn?]
    split_ifs <;> rfl

theorem fieldsFault_of_names {seen : List String} {fields : List Field}
    (distinct : (fields.map (·.name)).Nodup) (fresh : ∀ f ∈ fields, f.name ∉ seen) :
    fieldsFault seen fields = fields.findSome? fun f => targetFault f.name f.target := by
  induction fields generalizing seen with
  | nil => rfl
  | cons f rest ih =>
    rw [List.forall_mem_cons] at fresh
    obtain ⟨hnew, hrest⟩ := List.nodup_cons.1 distinct
    rw [fieldsFault, if_neg fresh.1, ih hrest (fresh_behind hnew fresh.2), List.findSome?_cons]
    cases targetFault f.name f.target <;> rfl

theorem blankColumn?_eq_none_iff {field : String} {c : Column} :
    blankColumn? field c = none ↔ ¬ BlankText c.selector := by
  rw [blankColumn?, ← allBlank_iff]
  split_ifs with h <;> simp [h]

theorem blankColumn?_eq_some_iff {field : String} {c : Column} {e : SpecError} :
    blankColumn? field c = some e ↔
      BlankText c.selector ∧ e = .field (field ++ "." ++ c.name) .blankSelector := by
  rw [blankColumn?, ← allBlank_iff]
  split_ifs with h <;> simp [h, partPath, eq_comm]

theorem columnsFault_eq_some_iff_blank {field : String} {columns : List Column} {e : SpecError}
    (distinct : (columns.map (·.name)).Nodup) (notRoot : ∀ c ∈ columns, c.name ≠ rootName) :
    columnsFault field [] columns = some e ↔
      ∃ before c after, columns = before ++ c :: after ∧ (∀ b ∈ before, ¬ BlankText b.selector) ∧
        BlankText c.selector ∧ e = .field (field ++ "." ++ c.name) .blankSelector := by
  rw [columnsFault_of_names distinct (fun _ _ => List.not_mem_nil) notRoot,
    List.findSome?_eq_some_iff]
  refine exists_congr fun before => exists_congr fun c => exists_congr fun after => ?_
  refine and_congr_right fun _ => ?_
  rw [and_comm, blankColumn?_eq_some_iff]
  simp only [blankColumn?_eq_none_iff]

/-- The members of a group of the right shape. -/
structure HoldsGroup (ms : List (String × Json)) (g : Group) : Prop where
  increasing : Increasing ms
  root : (rootName, .string g.root) ∈ ms
  columns : ms.filter (·.1 != rootName) = g.columns.map columnMember

theorem holdsGroup_of_targetJson {ms : List (String × Json)} {g : Group} (keyed : Keyed (.group g))
    (h : Json.object ms = targetJson (.group g)) : HoldsGroup ms g := by
  have hcanonical : (Json.object ms).Canonical := h ▸ canonical_targetJson keyed
  have hms : ms = insertEntry rootName (.string g.root) (g.columns.map columnMember) :=
    Json.object.inj h
  have hnew : rootName ∉ (g.columns.map columnMember).map (·.1) := by
    rw [map_fst_columnMember]
    exact keyed.2
  refine ⟨(Json.canonical_object_iff.1 hcanonical).1, ?_, ?_⟩
  · refine mem_of_lookup_eq_some ?_
    rw [hms, lookup_insertEntry, if_pos rfl]
  · rw [hms, filter_insertEntry hnew]

section Groups

variable {ms : List (String × Json)} {g : Group} {name : String} {e : SpecError}

theorem HoldsGroup.root_unique (h : HoldsGroup ms g) {r : String} (hr : ("root", .string r) ∈ ms) :
    r = g.root :=
  Json.string.inj (h.increasing.value_unique hr h.root)

/-- The first blank column, found among the members. -/
theorem HoldsGroup.blank_column_iff (h : HoldsGroup ms g) (hroot : ¬ BlankText g.root) {c : Column} :
    (∃ before after, g.columns = before ++ c :: after ∧ ∀ b ∈ before, ¬ BlankText b.selector) ↔
      c.name ≠ rootName ∧ ∃ before after, ms = before ++ (c.name, .string c.selector) :: after ∧
        ∀ k t, (k, .string t) ∈ before → ¬ BlankText t := by
  have hsplit := exists_filter_split_iff (p := fun m : String × Json => m.1 != rootName) (l := ms)
    (P := fun m => ∀ t, m.2 = .string t → ¬ BlankText t) (Q := fun m => m = columnMember c)
  constructor
  · rintro ⟨before, after, hcolumns, hbefore⟩
    have hfilter : ms.filter (·.1 != rootName) =
        before.map columnMember ++ columnMember c :: after.map columnMember := by
      rw [h.columns, hcolumns, List.map_append, List.map_cons]
    have hsolid : ∀ m ∈ before.map columnMember, ∀ t, m.2 = .string t → ¬ BlankText t := by
      rw [List.forall_mem_map]
      rintro b hb t ⟨⟩
      exact hbefore b hb
    obtain ⟨before', m, after', hms, hbefore', hname, rfl⟩ :=
      hsplit.1 ⟨_, _, _, hfilter, hsolid, rfl⟩
    refine ⟨by simpa [columnMember] using hname, before', after', hms, fun k t hmem => ?_⟩
    by_cases hk : k = rootName
    · subst hk
      have ht : t = g.root := h.root_unique (hms ▸ List.mem_append_left _ hmem)
      exact ht ▸ hroot
    · exact hbefore' (k, .string t) hmem (by simpa using hk) t rfl
  · rintro ⟨hname, before, after, hms, hbefore⟩
    obtain ⟨before', m, after', hfilter, hbefore', rfl⟩ := hsplit.2
      ⟨before, columnMember c, after, hms, fun b hb _ t ht => hbefore b.1 t (ht ▸ hb),
        by simpa [columnMember] using hname, rfl⟩
    rw [h.columns] at hfilter
    obtain ⟨front, back, hcolumns, rfl, hback⟩ := List.map_eq_append_iff.1 hfilter
    obtain ⟨d, rest, rfl, hd, -⟩ := List.map_eq_cons_iff.1 hback
    obtain rfl : d = c := by
      cases d
      cases c
      simpa [columnMember] using hd
    refine ⟨front, rest, hcolumns, fun b hb => ?_⟩
    exact hbefore' _ (List.mem_map_of_mem hb) b.selector rfl

theorem HoldsGroup.eq_singleton (h : HoldsGroup ms g) (hnone : g.columns = []) :
    ms = [("root", .string g.root)] := by
  have hroot := (lookup_eq_some_iff h.increasing).2 h.root
  have hms := insertEntry_filter h.increasing hroot
  rw [h.columns, hnone] at hms
  exact hms.symm

theorem contentFault_group_iff (h : HoldsGroup ms g) (distinct : (g.columns.map (·.name)).Nodup)
    (notRoot : ∀ c ∈ g.columns, c.name ≠ rootName) :
    ContentFault (name, .object ms) e ↔ targetFault name (.group g) = some e := by
  rw [targetFault]
  constructor
  · intro hfault
    cases hfault with
    | blankRoot hmem hblank =>
      obtain rfl := h.root_unique hmem
      rw [if_pos (allBlank_iff.2 hblank)]
      rfl
    | noColumns hroot =>
      obtain rfl := h.root_unique List.mem_cons_self
      have hnone : g.columns = [] := by
        have hcolumns := h.columns
        simpa [rootName, eq_comm] using hcolumns
      rw [if_neg (mt allBlank_iff.1 hroot), if_pos hnone]
    | @column _ column root s before after hmem hroot hbefore hblank =>
      obtain rfl := h.root_unique hmem
      have hname : column ≠ rootName := by
        rintro rfl
        obtain rfl := h.root_unique (List.mem_append_right before List.mem_cons_self)
        exact hroot hblank
      obtain ⟨front, rest, hcolumns, hfront⟩ := (h.blank_column_iff hroot (c := ⟨column, s⟩)).2
        ⟨hname, before, after, rfl, hbefore⟩
      have hsome : g.columns ≠ [] := by simp [hcolumns]
      rw [if_neg (mt allBlank_iff.1 hroot), if_neg hsome,
        columnsFault_eq_some_iff_blank distinct notRoot]
      exact ⟨front, ⟨column, s⟩, rest, hcolumns, hfront, hblank, rfl⟩
  · intro hfault
    split_ifs at hfault with hroot hnone
    · cases hfault
      exact .blankRoot h.root (allBlank_iff.1 hroot)
    · cases hfault
      rw [h.eq_singleton hnone]
      exact .noColumns (mt allBlank_iff.2 hroot)
    · have hsolid : ¬ BlankText g.root := mt allBlank_iff.2 hroot
      obtain ⟨front, c, rest, hcolumns, hfront, hblank, rfl⟩ :=
        (columnsFault_eq_some_iff_blank distinct notRoot).1 hfault
      obtain ⟨-, before, after, rfl, hbefore⟩ :=
        (h.blank_column_iff hsolid).1 ⟨front, rest, hcolumns, hfront⟩
      exact .column h.root hsolid hbefore hblank

end Groups

theorem contentFault_iff {f : Field} {e : SpecError} (keyed : Keyed f.target) :
    ContentFault (fieldMember f) e ↔ targetFault f.name f.target = some e := by
  obtain ⟨name, target⟩ := f
  cases target with
  | single s =>
    rw [targetFault]
    constructor
    · intro hfault
      cases hfault with
      | blank hblank => exact if_pos (allBlank_iff.2 hblank)
    · intro hfault
      split_ifs at hfault with hblank
      cases hfault
      exact .blank (allBlank_iff.1 hblank)
  | group g =>
    have hincreasing : Increasing (g.columns.map columnMember) := by
      rw [← ascending_iff_increasing, map_fst_columnMember]
      exact keyed.1
    have hdistinct : (g.columns.map (·.name)).Nodup := by
      rw [← map_fst_columnMember]
      exact hincreasing.nodup
    refine contentFault_group_iff (holdsGroup_of_targetJson keyed rfl) hdistinct fun c hc heq => ?_
    exact keyed.2 (List.mem_map.2 ⟨c, hc, heq⟩)

/-! The first member at fault. -/

/-- The first item of the list that is at fault has this fault. -/
def FirstAmong {α : Type} (fault : α → SpecError → Prop) (l : List α) (e : SpecError) : Prop :=
  ∃ before a after, l = before ++ a :: after ∧ (∀ b ∈ before, ∀ e', ¬ fault b e') ∧ fault a e

theorem firstAmong_map_iff {α β : Type} {fault : β → SpecError → Prop} {g : α → β} {l : List α}
    {e : SpecError} : FirstAmong fault (l.map g) e ↔ FirstAmong (fun a => fault (g a)) l e := by
  constructor
  · rintro ⟨before, b, after, hl, hbefore, hb⟩
    obtain ⟨front, back, rfl, rfl, hback⟩ := List.map_eq_append_iff.1 hl
    obtain ⟨a, rest, rfl, rfl, -⟩ := List.map_eq_cons_iff.1 hback
    exact ⟨front, a, rest, rfl, List.forall_mem_map.1 hbefore, hb⟩
  · rintro ⟨before, a, after, rfl, hbefore, ha⟩
    refine ⟨before.map g, g a, after.map g, by simp, ?_, ha⟩
    exact List.forall_mem_map.2 hbefore

theorem firstAmong_iff_findSome? {α : Type} {fault : α → SpecError → Prop}
    {f : α → Option SpecError} {l : List α} {e : SpecError}
    (h : ∀ a ∈ l, ∀ e, fault a e ↔ f a = some e) :
    FirstAmong fault l e ↔ l.findSome? f = some e := by
  rw [List.findSome?_eq_some_iff]
  refine exists_congr fun before => exists_congr fun a => exists_congr fun after => ?_
  refine and_congr_right fun hl => ?_
  subst hl
  rw [List.forall_mem_append, List.forall_mem_cons] at h
  rw [and_comm, h.2.1 e]
  refine and_congr_right fun _ => forall₂_congr fun b hb => ?_
  rw [Option.eq_none_iff_forall_ne_some]
  exact forall_congr' fun e' => not_congr (h.1 b hb e')

theorem no_shapeFault_iff {m : String × Json} (h : m.2.Canonical) :
    (∀ e, ¬ ShapeFault m e) ↔ ∃ f, fieldOfMember m = .ok f := by
  simp only [← fieldOfMember_error_iff h]
  cases fieldOfMember m <;> simp

section Members

variable {members : List (String × Json)} {e : SpecError} (h : ∀ m ∈ members, m.2.Canonical)
include h

theorem firstAmong_shapeFault_iff :
    FirstAmong ShapeFault members e ↔ members.mapM fieldOfMember = .error e := by
  rw [mapM_error_iff]
  refine exists_congr fun before => exists_congr fun m => exists_congr fun after => ?_
  refine and_congr_right fun hmembers => ?_
  subst hmembers
  rw [List.forall_mem_append, List.forall_mem_cons] at h
  rw [fieldOfMember_error_iff h.2.1]
  exact and_congr_left' (forall₂_congr fun b hb => no_shapeFault_iff (h.1 b hb))

theorem mapM_fieldOfMember_iff {fields : List Field} :
    members.mapM fieldOfMember = .ok fields ↔
      (∀ f ∈ fields, Keyed f.target) ∧ members = fields.map fieldMember :=
  mapM_ok_iff_map fun m hm _ => fieldOfMember_ok_iff (h m hm)

theorem no_shapeFault_of_fields {fields : List Field}
    (hfields : members.mapM fieldOfMember = .ok fields) : ∀ m ∈ members, ∀ e, ¬ ShapeFault m e := by
  obtain ⟨hkeyed, rfl⟩ := (mapM_fieldOfMember_iff h).1 hfields
  intro m hm
  obtain ⟨f, hf, rfl⟩ := List.mem_map.1 hm
  exact (no_shapeFault_iff (h _ hm)).2 ⟨f, (fieldOfMember_ok_iff (h _ hm)).2 ⟨hkeyed f hf, rfl⟩⟩

theorem firstAmong_contentFault_iff (hincreasing : Increasing members) {fields : List Field}
    (hfields : members.mapM fieldOfMember = .ok fields) :
    FirstAmong ContentFault members e ↔ fieldsFault [] fields = some e := by
  obtain ⟨hkeyed, rfl⟩ := (mapM_fieldOfMember_iff h).1 hfields
  have hdistinct : (fields.map (·.name)).Nodup := by
    rw [← map_fst_fieldMember]
    exact hincreasing.nodup
  rw [fieldsFault_of_names hdistinct fun _ _ => List.not_mem_nil, firstAmong_map_iff]
  exact firstAmong_iff_findSome? fun f hf e => contentFault_iff (hkeyed f hf)

end Members

/-- An object is refused for its first fault of shape, and without one for its first fault of content. -/
theorem ofJson_object_error_iff {members : List (String × Json)} {e : SpecError}
    (h : (Json.object members).Canonical) :
    ofJson (.object members) = .error e ↔
      FirstAmong ShapeFault members e ∨
        (∀ m ∈ members, ∀ e', ¬ ShapeFault m e') ∧ FirstAmong ContentFault members e := by
  obtain ⟨hincreasing, hmembers⟩ := Json.canonical_object_iff.1 h
  rw [firstAmong_shapeFault_iff hmembers]
  cases hfields : members.mapM fieldOfMember with
  | error e' =>
    have hfirst : FirstAmong ShapeFault members e' := (firstAmong_shapeFault_iff hmembers).2 hfields
    have hshape : ¬ ∀ m ∈ members, ∀ e', ¬ ShapeFault m e' := by
      obtain ⟨before, m, after, rfl, -, hfault⟩ := hfirst
      exact fun hall => hall m (List.mem_append_right before List.mem_cons_self) e' hfault
    have hrefused : ofJson (.object members) = .error e' := by
      simp [ofJson, hfields, bind, Except.bind]
    rw [hrefused, Except.error.injEq, Except.error.injEq]
    exact ⟨.inl, fun hor => hor.resolve_right fun hcontent => hshape hcontent.1⟩
  | ok fields =>
    have hmake : ofJson (.object members) = ofFields fields := by
      simp [ofJson, hfields, bind, Except.bind]
    rw [hmake, ofFields_eq_error_iff, ← firstAmong_contentFault_iff hmembers hincreasing hfields]
    simpa using fun _ => no_shapeFault_of_fields hmembers hfields

/-! Where faults are. -/

/-- The reason given is not that a name is used twice. -/
def NoClash (fault : FieldFault) : Prop :=
  fault.reason ≠ "duplicate field name" ∧ fault.reason ≠ "duplicate column name"

/-- The error does not speak of a name that is used twice. The path that it gives is the name of a member
of the value, or such a name and that of a member of its group. -/
structure OfMember (v : Json) (e : SpecError) : Prop where
  reason : ∀ path fault, e = .field path fault → NoClash fault
  path : ∀ path, e.field? = some path → ∃ members, v = .object members ∧
    ∃ name w, (name, w) ∈ members ∧ (path = name ∨
      ∃ group column x, w = .object group ∧ (column, x) ∈ group ∧ path = name ++ "." ++ column)

/-- No kind of fault speaks of a clash but those for clashes. -/
theorem noClash_of_ne {fault : FieldFault} (hfield : fault ≠ .duplicateField)
    (hcolumn : fault ≠ .duplicateColumn) (hother : ∀ reason, fault ≠ .other reason) :
    NoClash fault := by
  unfold NoClash
  cases fault with
  | duplicateField => exact absurd rfl hfield
  | duplicateColumn => exact absurd rfl hcolumn
  | other reason => exact absurd rfl (hother reason)
  | notTarget found => cases found <;> decide
  | notSelector found => cases found <;> decide
  | blankSelector => decide
  | noColumns => decide
  | noRoot => decide

section Places

variable {members : List (String × Json)} {name : String}

theorem ofMember_field {w : Json} {fault : FieldFault} (hm : (name, w) ∈ members)
    (hreason : NoClash fault) : OfMember (.object members) (.field name fault) where
  reason := by
    rintro _ _ ⟨⟩
    exact hreason
  path := by
    rintro _ ⟨⟩
    exact ⟨members, rfl, name, w, hm, .inl rfl⟩

theorem ofMember_column {group : List (String × Json)} {column : String} {x : Json}
    {fault : FieldFault} (hm : (name, .object group) ∈ members) (hcolumn : (column, x) ∈ group)
    (hreason : NoClash fault) :
    OfMember (.object members) (.field (name ++ "." ++ column) fault) where
  reason := by
    rintro _ _ ⟨⟩
    exact hreason
  path := by
    rintro _ ⟨⟩
    exact ⟨members, rfl, name, _, hm, .inr ⟨group, column, x, rfl, hcolumn, rfl⟩⟩

theorem ofMember_of_shapeFault {m : String × Json} {e : SpecError} (hm : m ∈ members)
    (h : ShapeFault m e) : OfMember (.object members) e := by
  cases h with
  | target htext hobject => exact ofMember_field hm (noClash_of_ne nofun nofun nofun)
  | noRoot hnone => exact ofMember_field hm (noClash_of_ne nofun nofun nofun)
  | root hmem htext => exact ofMember_column hm hmem (noClash_of_ne nofun nofun nofun)
  | column hmem hbefore htext =>
    exact ofMember_column hm (List.mem_append_right _ List.mem_cons_self)
      (noClash_of_ne nofun nofun nofun)

theorem ofMember_of_contentFault {m : String × Json} {e : SpecError} (hm : m ∈ members)
    (h : ContentFault m e) : OfMember (.object members) e := by
  cases h with
  | blank hblank => exact ofMember_field hm (noClash_of_ne nofun nofun nofun)
  | blankRoot hmem hblank => exact ofMember_column hm hmem (noClash_of_ne nofun nofun nofun)
  | noColumns hroot => exact ofMember_field hm (noClash_of_ne nofun nofun nofun)
  | column hmem hroot hbefore hblank =>
    exact ofMember_column hm (List.mem_append_right _ List.mem_cons_self)
      (noClash_of_ne nofun nofun nofun)

end Places

theorem ofMember_of_firstAmong {fault : String × Json → SpecError → Prop}
    {members : List (String × Json)} {e : SpecError}
    (hfault : ∀ m ∈ members, fault m e → OfMember (.object members) e)
    (h : FirstAmong fault members e) : OfMember (.object members) e := by
  obtain ⟨before, m, after, rfl, -, hm⟩ := h
  exact hfault m (List.mem_append_right before List.mem_cons_self) hm

theorem ofMember_of_error {v : Json} {e : SpecError} (hv : v.Canonical) (h : ofJson v = .error e) :
    OfMember v e := by
  cases v with
  | object members =>
    rcases (ofJson_object_error_iff hv).1 h with hshape | ⟨-, hcontent⟩
    · exact ofMember_of_firstAmong (fun m hm => ofMember_of_shapeFault hm) hshape
    · exact ofMember_of_firstAmong (fun m hm => ofMember_of_contentFault hm) hcontent
  | _ =>
    cases h
    exact ⟨nofun, nofun⟩

/-- Why a canonical value is refused: it is no object, or else for the first fault of shape among its
members, and if there is none, for the first fault of content. No error of a value or of a text speaks of a
name that is used twice, and its path is made of the names of members. -/
theorem refused_values :
    (∀ v e, v.Canonical → (ofJson v = .error e ↔
      (∀ members, v ≠ .object members) ∧ e = .payload (.notObject v.kind) ∨
      ∃ members, v = .object members ∧
        (FirstAmong ShapeFault members e ∨
          (∀ m ∈ members, ∀ e', ¬ ShapeFault m e') ∧ FirstAmong ContentFault members e))) ∧
    (∀ v e, v.Canonical → ofJson v = .error e → OfMember v e) ∧
    ∀ bytes e, decode bytes = .error e →
      (∃ f, Json.read bytes = .error f ∧ e = .payload (.notJson f)) ∨
      ∃ v, Json.read bytes = .ok v ∧ ofJson v.canonical = .error e ∧ OfMember v.canonical e := by
  refine ⟨fun v e hv => ?_, fun v e => ofMember_of_error, fun bytes e h => ?_⟩
  · cases v with
    | object members => simp [ofJson_object_error_iff hv]
    | _ => simp [ofJson, eq_comm]
  · rw [decode] at h
    cases hread : Json.read bytes with
    | error f =>
      rw [hread] at h
      cases h
      exact .inl ⟨f, rfl, rfl⟩
    | ok v =>
      rw [hread] at h
      exact .inr ⟨v, rfl, h, ofMember_of_error v.canonical_canonical h⟩

/-- The number behind a blank selector is what the value is refused for. -/
theorem refused_values_number :
    ofJson (.object [("a", .string " "), ("b", .number (.natural 3))]) =
        .error (.field "b" (.notTarget .number)) ∧
      OfMember (.object [("a", .string " "), ("b", .number (.natural 3))])
        (.field "b" (.notTarget .number)) ∧
      ∃ v, Json.read (Json.compact (.number (.natural 3))) = .ok v ∧
        ofJson v.canonical = .error (.payload (.notObject .number)) ∧
        OfMember v.canonical (.payload (.notObject .number)) := by
  have hcanonical : (Json.object [("a", .string " "), ("b", .number (.natural 3))]).Canonical := by
    refine Json.canonical_object_iff.2 ⟨List.pairwise_pair.2 (by decide : "a" < "b"), ?_⟩
    simp only [List.forall_mem_cons, List.not_mem_nil, false_implies, implies_true, and_true]
    exact ⟨.string " ", .number _⟩
  have htext : ∀ e, ¬ ShapeFault ("a", .string " ") e := by
    rintro e ⟨⟩
    next htext hobject => exact htext ⟨" ", rfl⟩
  have hnumber : ShapeFault ("b", .number (.natural 3)) (.field "b" (.notTarget .number)) :=
    .target (fun ⟨s, hs⟩ => by cases hs) nofun
  have hfirst : FirstAmong ShapeFault [("a", .string " "), ("b", .number (.natural 3))]
      (.field "b" (.notTarget .number)) :=
    ⟨[("a", .string " ")], _, [], rfl, by simpa using htext, hnumber⟩
  have hrefused := (refused_values.1 _ _ hcanonical).2 (.inr ⟨_, rfl, .inl hfirst⟩)
  have hread : Json.read (Json.compact (.number (.natural 3))) = .ok (.number (.natural 3)) :=
    Json.read_compact (.natural (by decide)) (by decide)
  have hdecode : decode (Json.compact (.number (.natural 3))) =
      .error (.payload (.notObject .number)) := by
    rw [decode, hread]
    rfl
  refine ⟨hrefused, refused_values.2.1 _ _ hcanonical hrefused, ?_⟩
  rcases refused_values.2.2 _ _ hdecode with ⟨f, hf, -⟩ | hvalue
  · cases hread.symm.trans hf
  · exact hvalue

end Spec

end Gleaner
