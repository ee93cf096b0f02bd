import Gleaner.Proofs.Extraction.Modes

/-! Fields are extracted independently of each other. A specification gives what its fields give one by
one, and the order of the fields and of the columns of a group is no part of an extract. -/
namespace Gleaner

/-- A failure over a selector. -/
def ExtractionError.IsRefusal (e : ExtractionError) : Prop :=
  ∃ field column q, e = .selector field column q

/-- The specification that asks for one of the fields only. -/
def Spec.only (s : Spec) (f : Field) (hf : f ∈ s.fields) : Spec where
  fields := [f]
  valid := ⟨List.nodup_singleton _, fun g hg => s.valid.targets g (List.mem_singleton.1 hg ▸ hf)⟩

/-- The same field up to the order of its columns. -/
inductive Field.Reordered : Field → Field → Prop
  | single (name s : String) : Reordered ⟨name, .single s⟩ ⟨name, .single s⟩
  | group (name root : String) {columns columns' : List Column} (h : columns.Perm columns') :
      Reordered ⟨name, .group ⟨root, columns⟩⟩ ⟨name, .group ⟨root, columns'⟩⟩

/-- The same fields up to their order and the order of their columns. -/
def Spec.Reordered (s s' : Spec) : Prop :=
  ∃ fields, s.fields.Perm fields ∧ List.Forall₂ Field.Reordered fields s'.fields

theorem Spec.places_only (s : Spec) (f : Field) (hf : f ∈ s.fields) :
    (s.only f hf).places = f.places := List.append_nil _

namespace Backend

variable {Selector Node : Type} {doc : Backend Id Selector Node}

theorem isRefusal_of_refusal? {p : Place} {e : ExtractionError} (h : doc.refusal? p = some e) :
    e.IsRefusal := by
  obtain ⟨q, -, rfl⟩ := refusal?_eq_some_iff.1 h
  exact ⟨_, _, q, rfl⟩

theorem isRefusal_of_findSome? {places : List Place} {e : ExtractionError}
    (h : places.findSome? doc.refusal? = some e) : e.IsRefusal := by
  obtain ⟨p, -, hp⟩ := List.exists_of_findSome?_eq_some h
  exact isRefusal_of_refusal? hp

theorem not_isRefusal_of_violation? {mode : ExtractionMode} {f : Field} {e : ExtractionError}
    (h : doc.violation? mode f = some e) : ¬ e.IsRefusal := by
  rintro ⟨_, _, _, rfl⟩
  cases violation?_isPolicy h

end Backend

namespace Extraction

variable {Selector Node : Type} {doc : Backend Id Selector Node} {spec : Spec}
  {mode : ExtractionMode}

/-! One field at a time. -/

theorem only_error_iff {f : Field} (hf : f ∈ spec.fields) {e : ExtractionError} :
    (extract doc (spec.only f hf) mode).run = .error e ↔
      (f.places.findSome? doc.refusal?).or (doc.violation? mode f) = some e := by
  rw [extract_error_iff, Spec.places_only]
  exact Eq.congr_left (congrArg _ List.findSome?_singleton)

theorem only_ok_iff {f : Field} (hf : f ∈ spec.fields) {r : Extract} :
    (extract doc (spec.only f hf) mode).run = .ok r ↔
      f.places.findSome? doc.refusal? = none ∧ doc.violation? mode f = none ∧
        r = SortedMap.ofList [(f.name, doc.valueOf f.target)] := by
  rw [extract_ok_iff, Spec.places_only, Option.or_eq_none_iff, and_assoc]
  exact and_congr_right' (and_congr_left' (Eq.congr_left List.findSome?_singleton))

theorem only_refused_iff {f : Field} (hf : f ∈ spec.fields) {e : ExtractionError} :
    ((extract doc (spec.only f hf) mode).run = .error e ∧ e.IsRefusal) ↔
      f.places.findSome? doc.refusal? = some e := by
  rw [only_error_iff, Option.or_eq_some_iff]
  constructor
  · rintro ⟨h | ⟨-, h⟩, he⟩
    · exact h
    · exact absurd he (Backend.not_isRefusal_of_violation? h)
  · exact fun h => ⟨.inl h, Backend.isRefusal_of_findSome? h⟩

theorem ok_iff_fields {r : Extract} :
    (extract doc spec mode).run = .ok r ↔
      (∀ f ∈ spec.fields, f.places.findSome? doc.refusal? = none ∧ doc.violation? mode f = none) ∧
        r = doc.contentOf spec := by
  rw [extract_ok_iff, Option.or_eq_none_iff, Spec.places, findSome?_flatMap]
  simp only [List.findSome?_eq_none_iff (p := fun f : Field => f.places.findSome? doc.refusal?),
    List.findSome?_eq_none_iff (p := doc.violation? mode), ← forall₂_and]

/-- What a specification gives, said by the specifications of one field each. -/
structure Fieldwise (doc : Backend Id Selector Node) (spec : Spec) (mode : ExtractionMode) : Prop where
  ok_iff : (∃ r, (extract doc spec mode).run = .ok r) ↔
    ∀ f (hf : f ∈ spec.fields), ∃ r, (extract doc (spec.only f hf) mode).run = .ok r
  /-- The extract is the union of those of the fields. -/
  union : ∀ r, (extract doc spec mode).run = .ok r → ∀ name v, r.get? name = some v ↔
    ∃ f, ∃ hf : f ∈ spec.fields, ∃ rf, (extract doc (spec.only f hf) mode).run = .ok rf ∧
      rf.get? name = some v
  /-- The first field whose selectors are refused counts, also if another one fails before it. -/
  refused : ∀ before f after (hf : f ∈ spec.fields) e, spec.fields = before ++ f :: after →
    (extract doc (spec.only f hf) mode).run = .error e → e.IsRefusal →
    (∀ g ∈ before, ∀ (hg : g ∈ spec.fields) e',
      (extract doc (spec.only g hg) mode).run = .error e' → ¬ e'.IsRefusal) →
    (extract doc spec mode).run = .error e
  /-- If no selector is refused the first field that fails counts. -/
  failed : (∀ f (hf : f ∈ spec.fields) e,
      (extract doc (spec.only f hf) mode).run = .error e → ¬ e.IsRefusal) →
    ∀ before f after (hf : f ∈ spec.fields) e, spec.fields = before ++ f :: after →
      (extract doc (spec.only f hf) mode).run = .error e →
      (∀ g ∈ before, ∀ hg : g ∈ spec.fields, ∃ r, (extract doc (spec.only g hg) mode).run = .ok r) →
      (extract doc spec mode).run = .error e

theorem accepted_of_not_isRefusal {f : Field} (hf : f ∈ spec.fields)
    (h : ∀ e, (extract doc (spec.only f hf) mode).run = .error e → ¬ e.IsRefusal) :
    f.places.findSome? doc.refusal? = none := by
  cases hr : f.places.findSome? doc.refusal? with
  | none => rfl
  | some e =>
    have he : (extract doc (spec.only f hf) mode).run = .error e := by
      rw [only_error_iff, hr, Option.some_or]
    exact absurd (Backend.isRefusal_of_findSome? hr) (h e he)

theorem get?_content_iff {r : Extract} (h : (extract doc spec mode).run = .ok r) {name : String}
    {v : FieldValue} :
    r.get? name = some v ↔ ∃ f ∈ spec.fields, name = f.name ∧ v = doc.valueOf f.target := by
  obtain ⟨-, rfl⟩ := ok_iff_fields.1 h
  have hnodup := spec.valid.distinct
  rw [← Backend.names_contentOf doc spec] at hnodup
  rw [Backend.contentOf, SortedMap.get?_ofList_eq_some_iff hnodup, List.mem_map]
  simp only [Prod.mk.injEq, eq_comm]

theorem get?_only {f : Field} {name : String} {v : FieldValue} :
    (SortedMap.ofList [(f.name, doc.valueOf f.target)]).get? name = some v ↔
      name = f.name ∧ v = doc.valueOf f.target := by
  have hnodup : ([(f.name, doc.valueOf f.target)].map (·.1)).Nodup := List.nodup_singleton _
  rw [SortedMap.get?_ofList_eq_some_iff hnodup, List.mem_singleton, Prod.mk.injEq]

theorem fieldwise (doc : Backend Id Selector Node) (spec : Spec) (mode : ExtractionMode) :
    Fieldwise doc spec mode where
  ok_iff := by
    constructor
    · rintro ⟨r, h⟩ f hf
      obtain ⟨hrefused, hviolation⟩ := (ok_iff_fields.1 h).1 f hf
      exact ⟨_, (only_ok_iff hf).2 ⟨hrefused, hviolation, rfl⟩⟩
    · intro h
      refine ⟨_, ok_iff_fields.2 ⟨fun f hf => ?_, rfl⟩⟩
      obtain ⟨r, hr⟩ := h f hf
      obtain ⟨hrefused, hviolation, -⟩ := (only_ok_iff hf).1 hr
      exact ⟨hrefused, hviolation⟩
  union r h name v := by
    rw [get?_content_iff h]
    have hall := (ok_iff_fields.1 h).1
    constructor
    · rintro ⟨f, hf, hv⟩
      exact ⟨f, hf, _, (only_ok_iff hf).2 ⟨(hall f hf).1, (hall f hf).2, rfl⟩, get?_only.2 hv⟩
    · rintro ⟨f, hf, rf, hrf, hv⟩
      obtain ⟨-, -, rfl⟩ := (only_ok_iff hf).1 hrf
      exact ⟨f, hf, get?_only.1 hv⟩
  refused before f after hf e hfields he href hbefore := by
    have hfirst := (only_refused_iff hf).1 ⟨he, href⟩
    have hearlier : ∀ g ∈ before, g.places.findSome? doc.refusal? = none := by
      intro g hg
      have hmem : g ∈ spec.fields := hfields ▸ List.mem_append_left _ hg
      exact accepted_of_not_isRefusal hmem (hbefore g hg hmem)
    rw [extract_error_iff, Option.or_eq_some_iff]
    refine .inl ?_
    rw [Spec.places, findSome?_flatMap, List.findSome?_eq_some_iff]
    exact ⟨before, f, after, hfields, hfirst, hearlier⟩
  failed hnone before f after hf e hfields he hbefore := by
    have haccepted : ∀ g ∈ spec.fields, g.places.findSome? doc.refusal? = none :=
      fun g hg => accepted_of_not_isRefusal hg (hnone g hg)
    rw [extract_error_iff, Option.or_eq_some_iff]
    refine .inr ⟨?_, ?_⟩
    · rw [Spec.places, findSome?_flatMap, List.findSome?_eq_none_iff]
      exact haccepted
    · rw [only_error_iff, haccepted f hf, Option.none_or] at he
      rw [List.findSome?_eq_some_iff]
      refine ⟨before, f, after, hfields, he, fun g hg => ?_⟩
      have hmem : g ∈ spec.fields := hfields ▸ List.mem_append_left _ hg
      obtain ⟨r, hr⟩ := hbefore g hg hmem
      exact ((only_ok_iff hmem).1 hr).2.1

end Extraction

/-! Another order of fields and columns. -/

namespace Field.Reordered

variable {Selector Node : Type} {doc : Backend Id Selector Node} {f f' : Field}

theorem name_eq (h : Field.Reordered f f') : f.name = f'.name := by
  cases h <;> rfl

theorem places (h : Field.Reordered f f') : f.places.Perm f'.places := by
  cases h with
  | single name s => exact .refl _
  | group name root h => exact (h.map _).cons _

theorem refused_iff (h : Field.Reordered f f') :
    f.places.findSome? doc.refusal? = none ↔ f'.places.findSome? doc.refusal? = none := by
  simp only [List.findSome?_eq_none_iff, h.places.mem_iff]

theorem lacks_iff (h : Field.Reordered f f') : doc.Lacks f.target ↔ doc.Lacks f'.target := by
  cases h with
  | single name s => rfl
  | group name root h =>
    simp only [Backend.Lacks, h.mem_iff]
    rfl

theorem vacant_iff (h : Field.Reordered f f') : doc.Vacant f.target ↔ doc.Vacant f'.target := by
  cases h <;> rfl

theorem violation?_iff (h : Field.Reordered f f') (mode : ExtractionMode) :
    doc.violation? mode f = none ↔ doc.violation? mode f' = none := by
  cases mode with
  | lenient => exact Iff.rfl
  | strict req =>
    rw [Backend.violation?_strict_eq_none_iff, Backend.violation?_strict_eq_none_iff,
      h.lacks_iff, h.vacant_iff]

/-- The columns of a record are sorted by name, so their order in the group is lost. -/
theorem valueOf_eq (h : Field.Reordered f f') (hf : f.target.Valid) :
    doc.valueOf f.target = doc.valueOf f'.target := by
  cases h with
  | single name s => rfl
  | @group name root columns columns' h =>
    have hvalid : Group.Valid ⟨root, columns⟩ := hf
    have hrecord : ∀ row, doc.recordOf columns row = doc.recordOf columns' row := by
      intro row
      refine SortedMap.ofList_perm (h.map _) ?_
      rw [List.map_map]
      exact hvalid.distinct
    simp only [Backend.valueOf, funext hrecord]
    rfl

end Field.Reordered

namespace Extraction

variable {Selector Node : Type} {doc : Backend Id Selector Node} {spec spec' : Spec}
  {mode : ExtractionMode}

theorem forall_fields_reordered {p : Field → Prop} (h : spec.Reordered spec')
    (hp : ∀ f f', Field.Reordered f f' → (p f ↔ p f')) :
    (∀ f ∈ spec.fields, p f) ↔ ∀ f ∈ spec'.fields, p f := by
  obtain ⟨fields, hperm, hfields⟩ := h
  have hmid : (∀ f ∈ spec.fields, p f) ↔ ∀ f ∈ fields, p f := by simp only [hperm.mem_iff]
  rw [hmid]
  clear hmid hperm
  generalize spec'.fields = fields' at hfields
  induction hfields with
  | nil => rfl
  | cons hf _ ih =>
    rw [List.forall_mem_cons, List.forall_mem_cons]
    exact and_congr (hp _ _ hf) ih

theorem contentOf_reordered (h : spec.Reordered spec') :
    doc.contentOf spec = doc.contentOf spec' := by
  obtain ⟨fields, hperm, hfields⟩ := h
  have hnodup := spec.valid.distinct
  rw [← Backend.names_contentOf doc spec] at hnodup
  have hvalid : ∀ f ∈ fields, f.target.Valid :=
    fun f hf => spec.valid.targets f (hperm.mem_iff.2 hf)
  have hentries : fields.map (fun f => (f.name, doc.valueOf f.target)) =
      spec'.fields.map fun f => (f.name, doc.valueOf f.target) := by
    clear hperm
    generalize spec'.fields = fields' at hfields
    induction hfields with
    | nil => rfl
    | cons hf _ ih =>
      obtain ⟨hhead, htail⟩ := List.forall_mem_cons.1 hvalid
      rw [List.map_cons, List.map_cons, ih htail, hf.name_eq, hf.valueOf_eq hhead]
  rw [Backend.contentOf, Backend.contentOf, ← hentries]
  exact SortedMap.ofList_perm (hperm.map _) hnodup

theorem ok_iff_reordered (h : spec.Reordered spec') (r : Extract) :
    (extract doc spec mode).run = .ok r ↔ (extract doc spec' mode).run = .ok r := by
  rw [ok_iff_fields, ok_iff_fields, contentOf_reordered h, forall_fields_reordered h]
  exact fun f f' hf => and_congr hf.refused_iff (hf.violation?_iff mode)

theorem refusal_iff_not_accepted :
    (∃ e, (extract doc spec mode).run = .error e ∧ e.IsRefusal) ↔
      ¬ ∀ f ∈ spec.fields, f.places.findSome? doc.refusal? = none := by
  rw [← List.findSome?_eq_none_iff, ← findSome?_flatMap]
  change _ ↔ ¬ spec.places.findSome? doc.refusal? = none
  simp only [extract_error_iff]
  cases h : spec.places.findSome? doc.refusal? with
  | some e => simp [Backend.isRefusal_of_findSome? h]
  | none =>
    simp only [Option.none_or, not_true, iff_false]
    rintro ⟨e, he, href⟩
    obtain ⟨f, -, hf⟩ := List.exists_of_findSome?_eq_some he
    exact Backend.not_isRefusal_of_violation? hf href

theorem policy_iff :
    (∃ e, (extract doc spec mode).run = .error e ∧ e.isPolicy = true) ↔
      (¬ ∃ r, (extract doc spec mode).run = .ok r) ∧
        ¬ ∃ e, (extract doc spec mode).run = .error e ∧ e.IsRefusal := by
  constructor
  · rintro ⟨e, he, hpolicy⟩
    rw [he]
    refine ⟨nofun, ?_⟩
    rintro ⟨e', he', field, column, q, rfl⟩
    cases he'
    cases hpolicy
  · rintro ⟨hok, hrefused⟩
    cases h : (extract doc spec mode).run with
    | ok r => exact absurd ⟨r, h⟩ hok
    | error e =>
      refine ⟨e, rfl, ?_⟩
      rw [extract_error_iff, Option.or_eq_some_iff] at h
      rcases h with h | ⟨-, h⟩
      · have he : (extract doc spec mode).run = .error e := by
          rw [extract_error_iff, h, Option.some_or]
        exact absurd ⟨e, he, Backend.isRefusal_of_findSome? h⟩ hrefused
      · obtain ⟨f, -, hf⟩ := List.exists_of_findSome?_eq_some h
        exact Backend.violation?_isPolicy hf

theorem refusal_iff_reordered (h : spec.Reordered spec') :
    (∃ e, (extract doc spec mode).run = .error e ∧ e.IsRefusal) ↔
      ∃ e, (extract doc spec' mode).run = .error e ∧ e.IsRefusal := by
  rw [refusal_iff_not_accepted, refusal_iff_not_accepted,
    forall_fields_reordered h fun f f' hf => hf.refused_iff]

/-- An extraction is made of those of its fields. The order of the fields and of their columns matters
only for which failure of a kind is reported. -/
theorem fields_independent (doc : Backend Id Selector Node) (spec : Spec) (mode : ExtractionMode) :
    Fieldwise doc spec mode ∧
    ∀ spec', spec.Reordered spec' →
      (∀ r, (extract doc spec mode).run = .ok r ↔ (extract doc spec' mode).run = .ok r) ∧
      (∀ r r', (extract doc spec mode).run = .ok r → (extract doc spec' mode).run = .ok r' →
        r'.toJson.text = r.toJson.text) ∧
      ((∃ e, (extract doc spec mode).run = .error e ∧ e.IsRefusal) ↔
        ∃ e, (extract doc spec' mode).run = .error e ∧ e.IsRefusal) ∧
      ((∃ e, (extract doc spec mode).run = .error e ∧ e.isPolicy = true) ↔
        ∃ e, (extract doc spec' mode).run = .error e ∧ e.isPolicy = true) := by
  refine ⟨fieldwise doc spec mode, fun spec' h => ?_⟩
  refine ⟨ok_iff_reordered h, fun r r' hr hr' => ?_, refusal_iff_reordered h, ?_⟩
  · rw [ok_iff_reordered h, hr'] at hr
    cases hr
    rfl
  · rw [policy_iff, policy_iff, refusal_iff_reordered h]
    simp only [ok_iff_reordered h]

/-- The list of prices read from the bottom to the top and from right to left. -/
def shuffledFields : List Field :=
  [⟨"notes", .group ⟨"li", [⟨"text", "p"⟩]⟩⟩,
    ⟨"prices", .group ⟨"tr", [⟨"price", "td.price"⟩, ⟨"item", "td"⟩]⟩⟩,
    ⟨"title", .single "h1"⟩]

def shuffledSpec : Spec where
  fields := shuffledFields
  valid := (fieldsFault_eq_none (by decide : fieldsFault [] shuffledFields = none)).1

theorem priceSpec_reordered : priceSpec.Reordered shuffledSpec := by
  refine ⟨priceFields.reverse, (List.reverse_perm _).symm, ?_⟩
  have hcolumns : [(⟨"item", "td"⟩ : Column), ⟨"price", "td.price"⟩].Perm
      [⟨"price", "td.price"⟩, ⟨"item", "td"⟩] := List.Perm.swap _ _ _
  exact .cons (.group _ _ (.refl _)) (.cons (.group _ _ hcolumns) (.cons (.single _ _) .nil))

theorem fields_independent_shuffled :
    priceSpec.Reordered shuffledSpec ∧
      (extract priceList shuffledSpec .lenient).run = .ok (priceList.contentOf priceSpec) ∧
      ∃ e, (extract priceList shuffledSpec (.strict true)).run = .error e ∧ e.isPolicy = true := by
  obtain ⟨hok, -⟩ := (fields_independent priceList priceSpec .lenient).2 _ priceSpec_reordered
  obtain ⟨-, -, -, hpolicy⟩ :=
    (fields_independent priceList priceSpec (.strict true)).2 _ priceSpec_reordered
  have hmissing : (extract priceList priceSpec (.strict true)).run =
      .error (.missing "prices" (some "price") (some 1)) := rfl
  refine ⟨priceSpec_reordered, (hok _).1 (lenient_ok_iff.2 ⟨priceList_accepts, rfl⟩), ?_⟩
  exact hpolicy.1 ⟨_, hmissing, rfl⟩

end Extraction

end Gleaner
