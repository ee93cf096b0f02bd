import Gleaner.Proofs.Json.Canonical
import Gleaner.Proofs.Spec.Build
import Gleaner.Proofs.Text.Utf8

/-! Reading a specification off a value and writing one as a value undo each other. A value is accepted
exactly if it is what a valid specification with sorted names is written as. -/
namespace Gleaner

theorem mapM_cons_ok_iff {α β ε : Type} {f : α → Except ε β} {a : α} {l : List α} {r : List β} :
    (a :: l).mapM f = .ok r ↔ ∃ b bs, f a = .ok b ∧ l.mapM f = .ok bs ∧ r = b :: bs := by
  rw [List.mapM_cons]
  cases ha : f a with
  | error e => simp [bind, Except.bind]
  | ok b =>
    cases hl : l.mapM f with
    | error e => simp [bind, Except.bind]
    | ok bs => simp [bind, Except.bind, pure, Except.pure, eq_comm]

/-- A traversal whose steps are undone by a function is undone by it as a whole. -/
theorem mapM_ok_iff_map {α β ε : Type} {f : α → Except ε β} {g : β → α} {p : β → Prop}
    {l : List α} {r : List β} (h : ∀ a ∈ l, ∀ b, f a = .ok b ↔ p b ∧ a = g b) :
    l.mapM f = .ok r ↔ (∀ b ∈ r, p b) ∧ l = r.map g := by
  induction l generalizing r with
  | nil => cases r <;> simp [pure, Except.pure]
  | cons a rest ih =>
    obtain ⟨ha, hrest⟩ := List.forall_mem_cons.1 h
    simp only [mapM_cons_ok_iff, ha, ih hrest]
    constructor
    · rintro ⟨b, bs, ⟨hb, rfl⟩, ⟨hbs, rfl⟩, rfl⟩
      exact ⟨List.forall_mem_cons.2 ⟨hb, hbs⟩, rfl⟩
    · rintro ⟨hall, heq⟩
      cases r with
      | nil => cases heq
      | cons b bs =>
        obtain ⟨hb, hbs⟩ := List.forall_mem_cons.1 hall
        obtain ⟨rfl, rfl⟩ := List.cons.inj heq
        exact ⟨b, bs, ⟨hb, rfl⟩, ⟨hbs, rfl⟩, rfl⟩

/-! Names in the order of their bytes. -/

/-- The names increase, compared as the bytes of their UTF-8 form. -/
def Ascending (names : List String) : Prop :=
  names.Pairwise fun a b => Text.Utf8.encode a.toList < Text.Utf8.encode b.toList

theorem ascending_iff_increasing {α : Type} {l : List (String × α)} :
    Ascending (l.map (·.1)) ↔ Increasing l := by
  simp only [Ascending, Increasing, List.pairwise_map, Text.Utf8.lt_iff_encode_lt]

/-! The row selector among the members of a group. -/

section Entries

variable {α : Type} {k : String} {v : α} {l : List (String × α)}

theorem filter_insertEntry (h : k ∉ l.map (·.1)) :
    (insertEntry k v l).filter (·.1 != k) = l := by
  have hkeep : l.filter (·.1 != k) = l := by
    refine List.filter_eq_self.2 fun e he => ?_
    simpa using fun heq : e.1 = k => h (heq ▸ List.mem_map_of_mem he)
  induction l with
  | nil => simp [insertEntry]
  | cons e rest ih =>
    simp only [List.map_cons, List.mem_cons, not_or] at h
    rw [insertEntry]
    split_ifs with hlt heq
    · simpa using hkeep
    · exact absurd heq h.1
    · have hne : e.1 ≠ k := Ne.symm h.1
      simp only [List.filter_cons, bne_iff_ne, ne_eq, hne, not_false_eq_true, ↓reduceIte,
        List.cons.injEq, true_and] at hkeep ⊢
      exact ih h.2 hkeep

/-- In sorted entries an entry is at the place where it would be put. -/
theorem insertEntry_filter (h : Increasing l) (hv : l.lookup k = some v) :
    insertEntry k v (l.filter (·.1 != k)) = l := by
  induction l with
  | nil => cases hv
  | cons e rest ih =>
    obtain ⟨hlt, hrest⟩ := List.pairwise_cons.1 h
    rw [lookup_cons_if] at hv
    split_ifs at hv with hk
    · cases hv
      subst hk
      have hkeep : rest.filter (·.1 != e.1) = rest := by
        refine List.filter_eq_self.2 fun d hd => ?_
        simpa using fun heq : d.1 = e.1 => String.lt_irrefl _ (heq ▸ hlt d hd)
      simp only [List.filter_cons, bne_self_eq_false, Bool.false_eq_true, ↓reduceIte, hkeep]
      cases rest with
      | nil => rfl
      | cons d rest => simp [insertEntry, hlt d List.mem_cons_self]
    · have hbelow : e.1 < k := hlt (k, v) (mem_of_lookup_eq_some hv)
      have hne : (e.1 != k) = true := by simpa using Ne.symm hk
      rw [List.filter_cons, if_pos hne, insertEntry, if_neg (fun h => String.lt_asymm h hbelow),
        if_neg hk, ih hrest hv]

end Entries

namespace Spec

/-! Columns, groups and fields as members. -/

def columnMember (c : Column) : String × Json := (c.name, .string c.selector)

def fieldMember (f : Field) : String × Json := (f.name, targetJson f.target)

/-- The names of the columns ascend, and none of them is that of the row selector. -/
def Keyed : Target → Prop
  | .single _ => True
  | .group g => Ascending (g.columns.map (·.name)) ∧ rootName ∉ g.columns.map (·.name)

theorem columnOfMember_ok_iff {field : String} {e : String × Json} {c : Column} :
    columnOfMember field e = .ok c ↔ e = columnMember c := by
  obtain ⟨name, v⟩ := e
  obtain ⟨name', selector⟩ := c
  cases v <;> simp [columnOfMember, columnMember]

theorem columnsOfMembers_ok_iff {field : String} {members : List (String × Json)}
    {columns : List Column} :
    members.mapM (columnOfMember field) = .ok columns ↔ members = columns.map columnMember := by
  rw [mapM_ok_iff_map (p := fun _ => True) (g := columnMember)
    fun e _ c => by rw [columnOfMember_ok_iff, true_and]]
  simp

theorem map_fst_columnMember (columns : List Column) :
    (columns.map columnMember).map (·.1) = columns.map (·.name) := by
  simp [columnMember, Function.comp_def]

theorem groupOfMembers_ok_iff {field : String} {members : List (String × Json)} {g : Group}
    (h : Increasing members) :
    groupOfMembers field members = .ok g ↔
      Keyed (.group g) ∧ .object members = targetJson (.group g) := by
  rw [Keyed, ← map_fst_columnMember, ascending_iff_increasing]
  constructor
  · intro hg
    unfold groupOfMembers at hg
    split at hg
    · next root hroot =>
      cases hcolumns : (members.filter (·.1 != rootName)).mapM (columnOfMember field) with
      | error e =>
        rw [hcolumns] at hg
        cases hg
      | ok columns =>
        rw [hcolumns] at hg
        cases hg
        have hmembers := columnsOfMembers_ok_iff.1 hcolumns
        refine ⟨⟨?_, ?_⟩, ?_⟩
        · rw [← hmembers]
          exact h.filter _
        · rw [← hmembers]
          simp
        · change _ = Json.object (insertEntry rootName (.string root) (columns.map columnMember))
          rw [← hmembers, insertEntry_filter h hroot]
    · cases hg
    · cases hg
  · rintro ⟨⟨-, hnew⟩, heq⟩
    have hmembers : members = insertEntry rootName (.string g.root) (g.columns.map columnMember) :=
      Json.object.inj heq
    have hlookup : members.lookup rootName = some (.string g.root) := by
      rw [hmembers, lookup_insertEntry, if_pos rfl]
    have hcolumns : (members.filter (·.1 != rootName)).mapM (columnOfMember field) =
        .ok g.columns := by
      rw [columnsOfMembers_ok_iff, hmembers, filter_insertEntry hnew]
    simp only [groupOfMembers, hlookup, hcolumns]
    rfl

theorem fieldOfMember_ok_iff {e : String × Json} {f : Field} (h : e.2.Canonical) :
    fieldOfMember e = .ok f ↔ Keyed f.target ∧ e = fieldMember f := by
  obtain ⟨name, v⟩ := e
  obtain ⟨name', target⟩ := f
  cases v with
  | string s => cases target <;> simp [fieldOfMember, fieldMember, Keyed, targetJson]
  | object members =>
    have hincreasing : Increasing members := (Json.canonical_object_iff.1 h).1
    cases target with
    | single s =>
      cases hg : groupOfMembers name members <;>
        simp [fieldOfMember, fieldMember, targetJson, hg, bind, Except.bind, pure, Except.pure]
    | group g =>
      have hfield : fieldOfMember (name, .object members) = .ok ⟨name', .group g⟩ ↔
          name = name' ∧ groupOfMembers name members = .ok g := by
        cases hg : groupOfMembers name members <;>
          simp [fieldOfMember, hg, bind, Except.bind, pure, Except.pure]
      rw [hfield, groupOfMembers_ok_iff hincreasing, fieldMember, Prod.mk.injEq]
      exact and_left_comm
  | null => cases target <;> simp [fieldOfMember, fieldMember, targetJson]
  | bool b => cases target <;> simp [fieldOfMember, fieldMember, targetJson]
  | number n => cases target <;> simp [fieldOfMember, fieldMember, targetJson]
  | array items => cases target <;> simp [fieldOfMember, fieldMember, targetJson]

/-- The fields as an object: a selector, or the row selector and the columns, under each name. -/
def fieldsJson (fields : List Field) : Json := .object (fields.map fieldMember)

/-- The names ascend, those of the fields and those of the columns of each group. -/
structure Sorted (fields : List Field) : Prop where
  names : Ascending (fields.map (·.name))
  columns : ∀ name g, ⟨name, .group g⟩ ∈ fields → Ascending (g.columns.map (·.name))

theorem map_fst_fieldMember (fields : List Field) :
    (fields.map fieldMember).map (·.1) = fields.map (·.name) := by
  simp [fieldMember, Function.comp_def]

theorem canonical_targetJson {t : Target} (h : Keyed t) : (targetJson t).Canonical := by
  cases t with
  | single s => exact .string s
  | group g =>
    have hcolumns : Increasing (g.columns.map columnMember) := by
      rw [← ascending_iff_increasing, map_fst_columnMember]
      exact h.1
    refine Json.canonical_object_iff.2 ⟨increasing_insertEntry hcolumns, fun e he => ?_⟩
    rcases mem_insertEntry he with rfl | he
    · exact .string g.root
    · obtain ⟨c, -, rfl⟩ := List.mem_map.1 he
      exact .string c.selector

theorem canonical_fieldsJson_iff {fields : List Field} (h : ∀ f ∈ fields, Keyed f.target) :
    (fieldsJson fields).Canonical ↔ Ascending (fields.map (·.name)) := by
  rw [fieldsJson, Json.canonical_object_iff, ← ascending_iff_increasing, map_fst_fieldMember]
  refine and_iff_left fun e he => ?_
  obtain ⟨f, hf, rfl⟩ := List.mem_map.1 he
  exact canonical_targetJson (h f hf)

/-- In a valid list of fields only the order of the columns is left to ask for. -/
theorem keyed_iff_of_valid {fields : List Field} (valid : ValidFields fields) :
    (∀ f ∈ fields, Keyed f.target) ↔
      ∀ name g, ⟨name, .group g⟩ ∈ fields → Ascending (g.columns.map (·.name)) := by
  constructor
  · intro h name g hg
    exact (h _ hg).1
  · rintro h ⟨name, target⟩ hf
    cases target with
    | single s => trivial
    | group g =>
      refine ⟨h name g hf, ?_⟩
      rw [List.mem_map]
      rintro ⟨c, hc, heq⟩
      exact (valid.targets _ hf).not_root c hc heq

theorem ofJson_object_ok_iff {members : List (String × Json)} {s : Spec}
    (h : ∀ e ∈ members, e.2.Canonical) :
    ofJson (.object members) = .ok s ↔
      (∀ f ∈ s.fields, Keyed f.target) ∧ fieldsJson s.fields = .object members := by
  have hread : ofJson (.object members) = .ok s ↔ members.mapM fieldOfMember = .ok s.fields := by
    cases hfields : members.mapM fieldOfMember with
    | error e => simp [ofJson, hfields, bind, Except.bind]
    | ok fields =>
      have hmake : ofJson (.object members) = ofFields fields := by
        simp [ofJson, hfields, bind, Except.bind]
      rw [hmake, ofFields_eq_ok_iff, Except.ok.injEq, eq_comm]
  rw [hread, mapM_ok_iff_map (g := fieldMember) (p := fun f => Keyed f.target)
    fun e he f => fieldOfMember_ok_iff (h e he), fieldsJson, Json.object.injEq, eq_comm (a := members)]

theorem canonical_fieldsJson {fields : List Field} (valid : ValidFields fields) (sorted : Sorted fields) :
    (fieldsJson fields).Canonical :=
  (canonical_fieldsJson_iff ((keyed_iff_of_valid valid).2 sorted.columns)).2 sorted.names

theorem ofJson_ok_iff {v : Json} {s : Spec} (h : v.Canonical) :
    ofJson v = .ok s ↔ Sorted s.fields ∧ fieldsJson s.fields = v := by
  constructor
  · intro hs
    cases v with
    | object members =>
      obtain ⟨hkeyed, hwritten⟩ := (ofJson_object_ok_iff (Json.canonical_object_iff.1 h).2).1 hs
      refine ⟨⟨?_, (keyed_iff_of_valid s.valid).1 hkeyed⟩, hwritten⟩
      rw [← canonical_fieldsJson_iff hkeyed, hwritten]
      exact h
    | _ => cases hs
  · rintro ⟨hsorted, rfl⟩
    have hkeyed := (keyed_iff_of_valid s.valid).2 hsorted.columns
    exact (ofJson_object_ok_iff (Json.canonical_object_iff.1 h).2).2 ⟨hkeyed, rfl⟩

/-- A text is read as a specification exactly if its value is what the specification is written as, but
for the order of the members and for those that later ones override. -/
theorem decode_ok_iff {bytes : List UInt8} {s : Spec} :
    decode bytes = .ok s ↔
      Sorted s.fields ∧ ∃ v, Json.read bytes = .ok v ∧ fieldsJson s.fields = v.canonical := by
  rw [decode]
  cases hread : Json.read bytes with
  | error f => simp
  | ok v => simp [ofJson_ok_iff v.canonical_canonical]

/-- A canonical value is read as a specification exactly if it is what the fields of the specification
are written as, these being valid and in the order of their names. Nothing is lost on either way. -/
theorem ofJson_iff_fieldsJson (v : Json) (fields : List Field) :
    (v.Canonical ∧ ∃ s, ofJson v = .ok s ∧ s.fields = fields) ↔
      ValidFields fields ∧ Sorted fields ∧ fieldsJson fields = v := by
  constructor
  · rintro ⟨hv, s, hs, rfl⟩
    obtain ⟨hsorted, hwritten⟩ := (ofJson_ok_iff hv).1 hs
    exact ⟨s.valid, hsorted, hwritten⟩
  · rintro ⟨hvalid, hsorted, rfl⟩
    have hcanonical := canonical_fieldsJson hvalid hsorted
    exact ⟨hcanonical, ⟨fields, hvalid⟩, (ofJson_ok_iff hcanonical).2 ⟨hsorted, rfl⟩, rfl⟩

end Spec

end Gleaner
