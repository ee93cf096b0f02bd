import Mathlib.Data.List.Pairwise
import Gleaner.Proofs.Extraction.Strict
import Gleaner.Proofs.Spec.Faults

/-! The paths under which failures are reported. A path is a name, or two names with a dot between them, and
names may have dots of their own. Two places of a specification share a path only where the name of one
field goes on behind the name of another one with a dot. -/
namespace Gleaner

/-- The longer name is the other one with a dot and possibly more behind it. -/
def Extends (name longer : String) : Prop := ∃ more, longer = name ++ "." ++ more

namespace Place

/-- Where a place is reported. -/
def path (p : Place) : String := placePath p.field p.column

/-- The failures over a place: its selector is not accepted or finds nothing, or the rows of a group have no
record. -/
inductive Fails (p : Place) : ExtractionError → Prop
  | refused (q : QueryError) : Fails p (.selector p.field p.column q)
  | missing (record : Option Nat) : Fails p (.missing p.field p.column record)
  | noRecords (h : p.column = some rootName) : Fails p (.noRecords p.field)

/-- The fields `fields'` are `fields` with this text as the selector at the place. -/
inductive Refilled (text : String) : Place → List Field → List Field → Prop
  | single {before after : List Field} {name selector : String} :
      Refilled text ⟨name, none, selector⟩ (before ++ ⟨name, .single selector⟩ :: after)
        (before ++ ⟨name, .single text⟩ :: after)
  | root {before after : List Field} {name selector : String} {columns : List Column} :
      Refilled text ⟨name, some rootName, selector⟩
        (before ++ ⟨name, .group ⟨selector, columns⟩⟩ :: after)
        (before ++ ⟨name, .group ⟨text, columns⟩⟩ :: after)
  | column {before after : List Field} {name root : String} {left right : List Column} {c : Column} :
      Refilled text ⟨name, some c.name, c.selector⟩
        (before ++ ⟨name, .group ⟨root, left ++ c :: right⟩⟩ :: after)
        (before ++ ⟨name, .group ⟨root, left ++ ⟨c.name, text⟩ :: right⟩⟩ :: after)

end Place

/-! Names and paths. -/

theorem toList_partPath (field part : String) :
    (partPath field part).toList = field.toList ++ '.' :: part.toList := by
  simp [partPath]

theorem partPath_ne (field part : String) : partPath field part ≠ field := by
  intro h
  have hlist := congrArg String.toList h
  simp [toList_partPath] at hlist

theorem partPath_inj {field part part' : String} :
    partPath field part = partPath field part' ↔ part = part' := by
  rw [← String.toList_inj, toList_partPath, toList_partPath, List.append_cancel_left_eq,
    List.cons.injEq, String.toList_inj]
  exact and_iff_right rfl

theorem extends_iff {name longer : String} :
    Extends name longer ↔ ∃ more, longer.toList = name.toList ++ '.' :: more := by
  constructor
  · rintro ⟨more, rfl⟩
    exact ⟨more.toList, by simp⟩
  · rintro ⟨more, h⟩
    exact ⟨String.ofList more, by rw [← String.toList_inj, h]; simp⟩

theorem Extends.dot {name longer : String} (h : Extends name longer) : '.' ∈ longer.toList := by
  obtain ⟨more, hmore⟩ := extends_iff.1 h
  simp [hmore]

/-- One of two names that end at different dots of a text goes on behind the other. -/
theorem extends_of_partPath {f g x y : String} (hne : f ≠ g) (h : partPath f x = partPath g y) :
    Extends f g ∨ Extends g f := by
  have hlist := congrArg String.toList h
  rw [toList_partPath, toList_partPath] at hlist
  have hstart {s t : String} {more u v : List Char} (hst : s ≠ t) (ht : t.toList = s.toList ++ more)
      (hmore : '.' :: u = more ++ '.' :: v) : Extends s t := by
    cases more with
    | nil => exact absurd (String.toList_inj.1 (by simpa using ht.symm)) hst
    | cons d more =>
      obtain ⟨rfl, -⟩ := List.cons.inj hmore
      exact extends_iff.2 ⟨more, ht⟩
  obtain ⟨more, hg, hx⟩ | ⟨more, hf, hy⟩ := List.append_eq_append_iff.1 hlist
  · exact .inl (hstart hne hg hx)
  · exact .inr (hstart hne.symm hf hy)

/-! Two places of a specification. -/

namespace Place

theorem Fails.field?_of_column {p : Place} {part : String} {e : ExtractionError} (h : p.Fails e)
    (hp : p.column = some part) (hpart : part ≠ rootName) : e.field? = some (partPath p.field part) := by
  cases h with
  | refused q => simp [ExtractionError.field?, placePath, hp]
  | missing record => simp [ExtractionError.field?, placePath, hp]
  | noRecords hroot => exact absurd (Option.some.inj (hp.symm.trans hroot)) hpart

theorem Fails.field?_cases {p : Place} {e : ExtractionError} (h : p.Fails e) :
    e.field? = some p.field ∨ ∃ part, p.column = some part ∧ e.field? = some (partPath p.field part) := by
  have hpath : placePath p.field p.column = p.field ∨
      ∃ part, p.column = some part ∧ placePath p.field p.column = partPath p.field part := by
    cases p.column with
    | none => exact .inl rfl
    | some part => exact .inr ⟨part, rfl, rfl⟩
  cases h with
  | refused q => simpa [ExtractionError.field?] using hpath
  | missing record => simpa [ExtractionError.field?] using hpath
  | noRecords hroot => exact .inl rfl

/-- Failures over the two places are only reported under one path where the names explain it. -/
def Apart (p q : Place) : Prop :=
  ∀ e e', p.Fails e → q.Fails e' → e.field? = e'.field? →
    p.field ≠ q.field ∧ (Extends p.field q.field ∨ Extends q.field p.field)

instance : Std.Symm Apart where
  symm _ _ h := fun e e' he he' heq => (h e' e he' he heq.symm).imp Ne.symm Or.symm

/-- A path of one field that a path of another one equals ends behind a dot in the other name, or is one. -/
theorem apart_of_fields {p q : Place} (hne : p.field ≠ q.field) : p.Apart q := by
  intro e e' he he' heq
  refine ⟨hne, ?_⟩
  rcases he.field?_cases with hp | ⟨x, -, hp⟩ <;> rcases he'.field?_cases with hq | ⟨y, -, hq⟩ <;>
    rw [hp, hq, Option.some.injEq] at heq
  · exact absurd heq hne
  · exact .inr ⟨y, heq⟩
  · exact .inl ⟨x, heq.symm⟩
  · exact extends_of_partPath hne heq

/-- A column is never reported where another part of its group is. -/
theorem apart_of_column {p q : Place} {x y : String} (hfield : p.field = q.field) (hp : p.column = some x)
    (hq : q.column = some y) (hy : y ≠ rootName) (hne : x ≠ y) : p.Apart q := by
  intro e e' he he' heq
  rw [he'.field?_of_column hq hy, ← hfield] at heq
  exfalso
  rcases he.field?_cases with hp' | ⟨x', hx', hp'⟩
  · rw [hp', Option.some.injEq] at heq
    exact partPath_ne _ _ heq.symm
  · obtain rfl := Option.some.inj (hp.symm.trans hx')
    rw [hp', Option.some.injEq, partPath_inj] at heq
    exact hne heq

end Place

theorem Field.field_of_mem_places {f : Field} {p : Place} (h : p ∈ f.places) : p.field = f.name := by
  obtain ⟨name, s | g⟩ := f
  · rw [List.mem_singleton.1 h]
  · rcases List.mem_cons.1 h with rfl | h
    · rfl
    · obtain ⟨c, -, rfl⟩ := List.mem_map.1 h
      rfl

theorem Field.places_pairwise {f : Field} (h : f.target.Valid) : f.places.Pairwise Place.Apart := by
  obtain ⟨name, s | g⟩ := f
  · exact List.pairwise_singleton ..
  · have hvalid : g.Valid := h
    refine List.pairwise_cons.2 ⟨?_, ?_⟩
    · simp only [List.forall_mem_map]
      intro c hc
      have hroot := hvalid.not_root c hc
      exact Place.apart_of_column rfl rfl rfl hroot hroot.symm
    · have hdistinct := List.pairwise_map.1 hvalid.distinct
      refine List.pairwise_map.2 (hdistinct.imp_of_mem ?_)
      exact fun _ hd hne => Place.apart_of_column rfl rfl rfl (hvalid.not_root _ hd) hne

theorem Spec.places_pairwise (spec : Spec) : spec.places.Pairwise Place.Apart := by
  rw [places, List.pairwise_flatMap]
  refine ⟨fun f hf => Field.places_pairwise (spec.valid.targets f hf), ?_⟩
  refine (List.pairwise_map.1 spec.valid.distinct).imp fun hne p hp q hq => ?_
  rw [← Field.field_of_mem_places hp, ← Field.field_of_mem_places hq] at hne
  exact Place.apart_of_fields hne

theorem Place.Apart.of_same {p q : Place} (h : p.Apart q) (hfield : p.field = q.field) :
    p.path ≠ q.path := fun hpath =>
  (h _ _ (.missing none) (.missing none) (congrArg some hpath)).1 hfield

/-! What an extraction fails over. -/

theorem exists_fails {Selector Node : Type} {doc : Backend Id Selector Node} {spec : Spec}
    {mode : ExtractionMode} {e : ExtractionError} (h : (extract doc spec mode).run = .error e) :
    ∃ p ∈ spec.places, p.Fails e := by
  rw [Extraction.extract_error_iff, Option.or_eq_some_iff] at h
  rcases h with hrefused | ⟨-, hviolation⟩
  · obtain ⟨p, hp, he⟩ := List.exists_of_findSome?_eq_some hrefused
    obtain ⟨q, -, rfl⟩ := Backend.refusal?_eq_some_iff.1 he
    exact ⟨p, hp, .refused q⟩
  · obtain ⟨f, hf, he⟩ := List.exists_of_findSome?_eq_some hviolation
    have hplace {p : Place} (hp : p ∈ f.places) (hfails : p.Fails e) : ∃ p ∈ spec.places, p.Fails e :=
      ⟨p, List.mem_flatMap.2 ⟨f, hf, hp⟩, hfails⟩
    cases mode with
    | lenient => cases he
    | strict req =>
      cases Backend.violation?_strict_eq_some_iff.1 he with
      | single hs => exact hplace List.mem_cons_self (.missing none)
      | @column name g rows later row columns others c hrows hcolumns above left hc =>
        have hmem : c ∈ g.columns := hcolumns ▸ List.mem_append_cons_self
        refine hplace (p := ⟨name, some c.name, c.selector⟩) ?_ (.missing (some rows.length))
        exact List.mem_cons_of_mem _ (List.mem_map_of_mem hmem)
      | noRecords hreq hrows => exact hplace List.mem_cons_self (.noRecords rfl)

/-! A blank selector in an otherwise valid specification. -/

theorem Place.exists_refilled {fields : List Field} {p : Place} (text : String)
    (h : p ∈ fields.flatMap Field.places) : ∃ fields', p.Refilled text fields fields' := by
  obtain ⟨f, hf, hp⟩ := List.mem_flatMap.1 h
  obtain ⟨before, after, rfl⟩ := List.append_of_mem hf
  obtain ⟨name, s | g⟩ := f
  · rw [List.mem_singleton.1 hp]
    exact ⟨_, .single⟩
  · rcases List.mem_cons.1 hp with rfl | hp
    · exact ⟨_, .root⟩
    · obtain ⟨c, hc, rfl⟩ := List.mem_map.1 hp
      obtain ⟨root, columns⟩ := g
      obtain ⟨left, right, rfl⟩ := List.append_of_mem hc
      exact ⟨_, .column⟩

/-- Where no name comes twice, that of an entry is new to a scan that has seen the ones in front of it. -/
theorem names_before {α : Type} {name : α → String} {before after : List α} {a : α}
    (h : ((before ++ a :: after).map name).Nodup) :
    (before.map name).Nodup ∧ name a ∉ (before.map name).reverse ++ [] := by
  rw [List.map_append, List.map_cons, List.nodup_append] at h
  rw [List.append_nil, List.mem_reverse]
  exact ⟨h.1, fun hmem => h.2.2 _ hmem _ List.mem_cons_self rfl⟩

/-- The first fault is that of a field behind valid ones. -/
theorem fieldsFault_behind {before after : List Field} {f f' : Field} {e : SpecError}
    (valid : ValidFields (before ++ f :: after)) (hname : f'.name = f.name)
    (h : targetFault f'.name f'.target = some e) : fieldsFault [] (before ++ f' :: after) = some e := by
  obtain ⟨hdistinct, hnew⟩ := names_before valid.distinct
  have hbefore : ValidFields before :=
    ⟨hdistinct, fun g hg => valid.targets g (List.mem_append_left _ hg)⟩
  refine (scan_eq_some_iff Field.name fieldsFault (fun _ => rfl) FieldCall.fieldsFault_cons []).2
    ⟨before, f', after, rfl, fieldsFault_eq_none_iff.2 hbefore, ?_⟩
  rw [fieldsFault, if_neg (hname ▸ hnew), h]

theorem columnsFault_behind {field text : String} {left right : List Column} {c : Column} {root : String}
    (valid : Group.Valid ⟨root, left ++ c :: right⟩) (htext : BlankText text) :
    columnsFault field [] (left ++ ⟨c.name, text⟩ :: right) =
      some (.field (partPath field c.name) .blankSelector) := by
  obtain ⟨hdistinct, hnew⟩ := names_before valid.distinct
  have hleft : columnsFault field [] left = none :=
    columnsFault_of_valid hdistinct (fun _ _ => List.not_mem_nil)
      (fun d hd => valid.not_root d (List.mem_append_left _ hd))
      (fun d hd => valid.selectors d (List.mem_append_left _ hd))
  have hname : ¬(c.name = rootName ∨ c.name ∈ (left.map Column.name).reverse ++ []) :=
    not_or.2 ⟨valid.not_root c List.mem_append_cons_self, hnew⟩
  refine (scan_eq_some_iff Column.name (columnsFault field) (fun _ => rfl) (columnsFault_cons field)
    []).2 ⟨left, _, right, rfl, hleft, ?_⟩
  rw [columnsFault, if_neg hname, if_pos (allBlank_iff.2 htext)]

/-- Where a selector is blanked in a valid specification, that is the first fault. -/
theorem Place.Refilled.ofFields {text : String} {p : Place} {fields fields' : List Field}
    (h : p.Refilled text fields fields') (valid : ValidFields fields) (htext : BlankText text) :
    Spec.ofFields fields' = .error (.field p.path .blankSelector) := by
  rw [Spec.ofFields_eq_error_iff]
  have hblank := allBlank_iff.2 htext
  cases h with
  | single => exact fieldsFault_behind valid rfl (by rw [targetFault, if_pos hblank]; rfl)
  | root => exact fieldsFault_behind valid rfl (by rw [targetFault, if_pos hblank]; rfl)
  | @column before after name root left right c =>
    have hgroup : Group.Valid ⟨root, left ++ c :: right⟩ :=
      valid.targets _ List.mem_append_cons_self
    have hroot : ¬ Text.allBlank root = true := by simp [hgroup.root]
    refine fieldsFault_behind valid rfl ?_
    rw [targetFault, if_neg hroot, if_neg (by simp), columnsFault_behind hgroup htext]
    rfl

/-- Whatever an extraction fails over is one of the places of the specification, and only dots in the names
of fields make two of them look alike. Without such dots a path stands for one place, and it is the path
under which a blank selector is reported there. -/
theorem paths_identify (spec : Spec) :
    (∀ {Selector Node : Type} (doc : Backend Id Selector Node) mode e,
      (extract doc spec mode).run = .error e → ∃ p ∈ spec.places, p.Fails e) ∧
    spec.places.Nodup ∧
    (∀ p ∈ spec.places, ∀ q ∈ spec.places, p ≠ q → ∀ e e', p.Fails e → q.Fails e' →
      e.field? = e'.field? →
        p.field ≠ q.field ∧ (Extends p.field q.field ∨ Extends q.field p.field)) ∧
    (∀ f ∈ spec.fields, (f.places.map Place.path).Nodup) ∧
    ((∀ f ∈ spec.fields, '.' ∉ f.name.toList) →
      ∀ p ∈ spec.places, ∀ q ∈ spec.places, ∀ e e', p.Fails e → q.Fails e' →
        e.field? = e'.field? → p = q) ∧
    ∀ p ∈ spec.places,
      (∀ e, p.Fails e → (∀ field, e ≠ .noRecords field) → e.field? = some p.path) ∧
      ∀ text, BlankText text → (∃ fields, p.Refilled text spec.fields fields) ∧
        ∀ fields, p.Refilled text spec.fields fields →
          Spec.ofFields fields = .error (.field p.path .blankSelector) := by
  have hpairwise := spec.places_pairwise
  have hapart : ∀ p ∈ spec.places, ∀ q ∈ spec.places, p ≠ q → p.Apart q :=
    fun p hp q hq hne => hpairwise.forall hp hq hne
  refine ⟨fun doc mode e => exists_fails, ?_, hapart, ?_, ?_, fun p hp => ⟨?_, fun text htext => ⟨?_, ?_⟩⟩⟩
  · refine hpairwise.imp fun {p q} h => ?_
    rintro rfl
    exact h.of_same rfl rfl
  · intro f hf
    refine List.pairwise_map.2 ((Field.places_pairwise (spec.valid.targets f hf)).imp_of_mem ?_)
    intro p q hp hq h
    exact h.of_same ((Field.field_of_mem_places hp).trans (Field.field_of_mem_places hq).symm)
  · intro hdots p hp q hq e e' he he' heq
    have hdot : ∀ p ∈ spec.places, '.' ∉ p.field.toList := by
      intro p hp
      obtain ⟨f, hf, hpf⟩ := List.mem_flatMap.1 hp
      rw [Field.field_of_mem_places hpf]
      exact hdots f hf
    by_contra hne
    rcases (hapart p hp q hq hne e e' he he' heq).2 with hext | hext
    · exact hdot q hq hext.dot
    · exact hdot p hp hext.dot
  · intro e he hrecords
    cases he with
    | refused q => rfl
    | missing record => rfl
    | noRecords hroot => exact absurd rfl (hrecords _)
  · exact Place.exists_refilled text hp
  · exact fun fields h => h.ofFields spec.valid htext

/-- A name with a dot, and two names that make the same text. -/
def dottedFields : List Field :=
  [⟨"a.b", .single "h1"⟩, ⟨"a", .group ⟨"tr", [⟨"b", "td"⟩, ⟨"c", "th"⟩]⟩⟩]

def dottedSpec : Spec where
  fields := dottedFields
  valid := (fieldsFault_eq_none (by decide : fieldsFault [] dottedFields = none)).1

def plainFields : List Field := dottedFields.drop 1

def plainSpec : Spec where
  fields := plainFields
  valid := (fieldsFault_eq_none (by decide : fieldsFault [] plainFields = none)).1

/-- The field and the column are reported alike; in the group alone every path stands for one place. -/
theorem paths_identify_dotted :
    (∃ p ∈ dottedSpec.places, p.Fails (.missing "a" (some "c") (some 0))) ∧
      ("a.b" ≠ "a" ∧ (Extends "a.b" "a" ∨ Extends "a" "a.b")) ∧
      ((dottedFields.getLast (by decide)).places.map Place.path).Nodup ∧
      (∀ p ∈ plainSpec.places, ∀ q ∈ plainSpec.places, ∀ e e', p.Fails e → q.Fails e' →
        e.field? = e'.field? → p = q) ∧
      Spec.ofFields [⟨"a.b", .single "h1"⟩, ⟨"a", .group ⟨"tr", [⟨"b", " "⟩, ⟨"c", "th"⟩]⟩⟩] =
        .error (.field "a.b" .blankSelector) := by
  have hfield : (⟨"a.b", none, "h1"⟩ : Place) ∈ dottedSpec.places := by decide
  have hcolumn : (⟨"a", some "b", "td"⟩ : Place) ∈ dottedSpec.places := by decide
  refine ⟨?_, ?_, ?_, ?_, ?_⟩
  · exact (paths_identify dottedSpec).1 priceList (.strict true) _ rfl
  · exact (paths_identify dottedSpec).2.2.1 _ hfield _ hcolumn (by decide) _ _ (.missing none)
      (.missing (some 0)) rfl
  · exact (paths_identify dottedSpec).2.2.2.1 _ (by decide)
  · exact (paths_identify plainSpec).2.2.2.2.1 (by decide)
  · have hblank : BlankText " " := allBlank_iff.1 (by decide)
    exact (((paths_identify dottedSpec).2.2.2.2.2 _ hcolumn).2 " " hblank).2 _
      (@Place.Refilled.column " " [_] [] "a" "tr" [] [_] ⟨"b", "td"⟩)

end Gleaner
