import Gleaner.Proofs.Extraction.Lenient
import Gleaner.Proofs.Extraction.Refused

/-! The modes side by side on one document. A stricter mode gives the same extract or none, refused
selectors are no matter of the mode, and a group without data rows is the only thing that the strictest
mode objects to on its own. -/
namespace Gleaner

namespace Backend

variable {Selector Node : Type} {doc : Backend Id Selector Node} {spec : Spec}

theorem records?_contentOf_eq_nil {f : Field} (hf : f ∈ spec.fields) :
    Extract.records? (doc.contentOf spec) f.name = some [] ↔ doc.Vacant f.target := by
  rw [Extract.records?, get?_contentOf hf]
  cases f.target with
  | single s => simp [valueOf, FieldValue.records?, Vacant]
  | group g => simp [valueOf, FieldValue.records?, Vacant]

end Backend

namespace Extraction

variable {Selector Node : Type} {doc : Backend Id Selector Node} {spec : Spec}

/-- The three modes on one document and one specification. -/
structure ModesOrdered (doc : Backend Id Selector Node) (spec : Spec) : Prop where
  strictest_ok : ∀ r, (extract doc spec (.strict true)).run = .ok r →
    (extract doc spec (.strict false)).run = .ok r
  strict_ok : ∀ r, (extract doc spec (.strict false)).run = .ok r →
    (extract doc spec .lenient).run = .ok r
  /-- Lenient mode only fails over selectors, and then so does every mode. -/
  lenient_error : ∀ e, (extract doc spec .lenient).run = .error e →
    (∃ field column q, e = .selector field column q) ∧
      ∀ mode, (extract doc spec mode).run = .error e
  strict_fails_iff : ∀ r, (extract doc spec .lenient).run = .ok r →
    ((∃ e, (extract doc spec (.strict false)).run = .error e) ↔
      ∃ f ∈ spec.fields, doc.Lacks f.target)
  strict_error : ∀ r e, (extract doc spec .lenient).run = .ok r →
    (extract doc spec (.strict false)).run = .error e →
      ∃ field column record, e = .missing field column record
  /-- Beyond strict mode the strictest one objects to the first group without records. -/
  strictest_of_strict : ∀ r, (extract doc spec (.strict false)).run = .ok r →
    ((extract doc spec (.strict true)).run = .ok r ∧
      ∀ f ∈ spec.fields, Extract.records? r f.name ≠ some []) ∨
      ∃ before f after g, spec.fields = before ++ f :: after ∧ f.target = .group g ∧
        Extract.records? r f.name = some [] ∧
        (∀ h ∈ before, Extract.records? r h.name ≠ some []) ∧
        (extract doc spec (.strict true)).run = .error (.noRecords f.name)
  missing_error : ∀ field column record,
    (extract doc spec (.strict true)).run = .error (.missing field column record) →
      (extract doc spec (.strict false)).run = .error (.missing field column record)
  /-- A group without records can hide something that is missing in a later field. -/
  noRecords_error : ∀ field, (extract doc spec (.strict true)).run = .error (.noRecords field) →
    (∃ r, (extract doc spec (.strict false)).run = .ok r) ∨
      ∃ before f middle later after column record,
        spec.fields = before ++ f :: (middle ++ later :: after) ∧ f.name = field ∧
        (extract doc spec (.strict false)).run = .error (.missing later.name column record)

theorem strict_lacks {e : ExtractionError} (accepted : doc.Accepts spec)
    (h : (extract doc spec (.strict false)).run = .error e) :
    ∃ f ∈ spec.fields, doc.Lacks f.target ∧ ∃ column record, e = .missing f.name column record := by
  obtain ⟨before, f, after, hfields, -, hf⟩ := (strict_error_iff accepted false e).1 h
  have hmem : f ∈ spec.fields := hfields ▸ List.mem_append_cons_self
  rcases hf.lacks_or_vacant with hlacks | ⟨hreq, -⟩
  · exact ⟨f, hmem, hlacks⟩
  · cases hreq

theorem strict_fails_iff_lacks (accepted : doc.Accepts spec) :
    (∃ e, (extract doc spec (.strict false)).run = .error e) ↔
      ∃ f ∈ spec.fields, doc.Lacks f.target := by
  constructor
  · rintro ⟨e, he⟩
    obtain ⟨f, hf, hlacks, -⟩ := strict_lacks accepted he
    exact ⟨f, hf, hlacks⟩
  · rintro ⟨f, hf, hlacks⟩
    cases h : (extract doc spec (.strict false)).run with
    | error e => exact ⟨e, rfl⟩
    | ok r => exact absurd hlacks ((strict_ok_iff.1 h).2.1 f hf).1

theorem strict_of_missing {field : String} {column : Option String} {record : Option Nat}
    (h : (extract doc spec (.strict true)).run = .error (.missing field column record)) :
    (extract doc spec (.strict false)).run = .error (.missing field column record) := by
  have accepted : doc.Accepts spec := accepts_of_policy h rfl
  obtain ⟨before, f, after, hfields, hbefore, hf⟩ := (strict_error_iff accepted true _).1 h
  refine (strict_error_iff accepted false _).2 ⟨before, f, after, hfields, ?_, hf.of_missing⟩
  exact fun g hg => ⟨(hbefore g hg).1, nofun⟩

/-- The reported group is the first one without data rows, and nothing is missing before it. -/
theorem vacant_of_noRecords {field : String}
    (h : (extract doc spec (.strict true)).run = .error (.noRecords field)) :
    ∃ before f after, spec.fields = before ++ f :: after ∧ f.name = field ∧ doc.Vacant f.target ∧
      ∀ g ∈ before, ¬ doc.Lacks g.target ∧ ¬ doc.Vacant g.target := by
  have accepted : doc.Accepts spec := accepts_of_policy h rfl
  obtain ⟨before, f, after, hfields, hbefore, hf⟩ := (strict_error_iff accepted true _).1 h
  rcases hf.lacks_or_vacant with ⟨-, _, _, he⟩ | ⟨-, hvacant, he⟩
  · cases he
  · obtain rfl := ExtractionError.noRecords.inj he
    exact ⟨before, f, after, hfields, rfl, hvacant, fun g hg => (hbefore g hg).imp_right (· rfl)⟩

theorem noRecords_of_strict {r : Extract} {e : ExtractionError}
    (h : (extract doc spec (.strict false)).run = .ok r)
    (he : (extract doc spec (.strict true)).run = .error e) : ∃ field, e = .noRecords field := by
  obtain ⟨accepted, hfound, -⟩ := strict_ok_iff.1 h
  obtain ⟨before, f, after, hfields, -, hf⟩ := (strict_error_iff accepted true e).1 he
  have hmem : f ∈ spec.fields := hfields ▸ List.mem_append_cons_self
  rcases hf.lacks_or_vacant with ⟨hlacks, -⟩ | ⟨-, -, rfl⟩
  · exact absurd hlacks (hfound f hmem).1
  · exact ⟨f.name, rfl⟩

/-- What strict mode misses behind a group without data rows stands in a later field. -/
theorem missing_after_noRecords {field : String} {e : ExtractionError}
    (h : (extract doc spec (.strict true)).run = .error (.noRecords field))
    (he : (extract doc spec (.strict false)).run = .error e) :
    ∃ before f middle later after column record,
      spec.fields = before ++ f :: (middle ++ later :: after) ∧ f.name = field ∧
      e = .missing later.name column record := by
  have accepted : doc.Accepts spec := accepts_of_policy h rfl
  obtain ⟨before, f, rest, hfields, hname, hvacant, hbefore⟩ := vacant_of_noRecords h
  obtain ⟨later, hmem, hlacks, column, record, rfl⟩ := strict_lacks accepted he
  -- The field that lacks something is neither one before the group nor the group itself.
  have hlater : later ∈ rest := by
    rw [hfields] at hmem
    rcases List.mem_append.1 hmem with hm | hm
    · exact absurd hlacks (hbefore later hm).1
    · rcases List.mem_cons.1 hm with rfl | hm
      · exact absurd hlacks (Backend.not_lacks_of_vacant hvacant)
      · exact hm
  obtain ⟨middle, after, rfl⟩ := List.append_of_mem hlater
  exact ⟨before, f, middle, later, after, column, record, hfields, hname, rfl⟩

/-- Being strict only takes extracts away, and the modes that fail on the same document fail in an order. -/
theorem modes_ordered (doc : Backend Id Selector Node) (spec : Spec) : ModesOrdered doc spec where
  strictest_ok r h := by
    obtain ⟨accepted, hfound, hr⟩ := strict_ok_iff.1 h
    exact strict_ok_iff.2 ⟨accepted, fun f hf => ⟨(hfound f hf).1, nofun⟩, hr⟩
  strict_ok r h := by
    obtain ⟨accepted, -, hr⟩ := strict_ok_iff.1 h
    exact lenient_ok_iff.2 ⟨accepted, hr⟩
  lenient_error e h := by
    have hrefused := lenient_error_iff.1 h
    obtain ⟨p, -, hp⟩ := List.exists_of_findSome?_eq_some hrefused
    obtain ⟨q, -, rfl⟩ := Backend.refusal?_eq_some_iff.1 hp
    refine ⟨⟨_, _, _, rfl⟩, fun mode => ?_⟩
    rw [extract_error_iff, hrefused, Option.some_or]
  strict_fails_iff r h := strict_fails_iff_lacks (lenient_ok_iff.1 h).1
  strict_error r e hr he := by
    obtain ⟨f, -, -, column, record, rfl⟩ := strict_lacks (lenient_ok_iff.1 hr).1 he
    exact ⟨_, _, _, rfl⟩
  strictest_of_strict r h := by
    obtain ⟨-, -, rfl⟩ := strict_ok_iff.1 h
    cases hrun : (extract doc spec (.strict true)).run with
    | ok r =>
      obtain ⟨-, hfound, rfl⟩ := strict_ok_iff.1 hrun
      refine .inl ⟨rfl, fun f hf hnil => ?_⟩
      exact (hfound f hf).2 rfl ((Backend.records?_contentOf_eq_nil hf).1 hnil)
    | error e =>
      obtain ⟨field, rfl⟩ := noRecords_of_strict h hrun
      obtain ⟨before, f, after, hfields, rfl, hvacant, hbefore⟩ := vacant_of_noRecords hrun
      have hmem : f ∈ spec.fields := hfields ▸ List.mem_append_cons_self
      obtain ⟨g, hg⟩ := Backend.exists_group_of_vacant hvacant
      refine .inr ⟨before, f, after, g, hfields, hg,
        (Backend.records?_contentOf_eq_nil hmem).2 hvacant, fun h hh hnil => ?_, rfl⟩
      have hmem' : h ∈ spec.fields := hfields ▸ List.mem_append_left _ hh
      exact (hbefore h hh).2 ((Backend.records?_contentOf_eq_nil hmem').1 hnil)
  missing_error field column record h := strict_of_missing h
  noRecords_error field h := by
    cases hrun : (extract doc spec (.strict false)).run with
    | ok r => exact .inl ⟨r, rfl⟩
    | error e =>
      obtain ⟨before, f, middle, later, after, column, record, hfields, hname, rfl⟩ :=
        missing_after_noRecords h hrun
      exact .inr ⟨before, f, middle, later, after, column, record, hfields, hname, rfl⟩

theorem modes_ordered_prices :
    (extract priceList priceSpec (.strict true)).run =
        .error (.missing "prices" (some "price") (some 1)) ∧
      (extract priceList priceSpec (.strict false)).run =
        .error (.missing "prices" (some "price") (some 1)) := by
  have h : (extract priceList priceSpec (.strict true)).run =
      .error (.missing "prices" (some "price") (some 1)) := rfl
  exact ⟨h, (modes_ordered priceList priceSpec).missing_error _ _ _ h⟩

/-- The list without data rows stands before the heading that is not there. -/
def notesFields : List Field :=
  [⟨"notes", .group ⟨"li", [⟨"text", "p"⟩]⟩⟩, ⟨"subtitle", .single "h2"⟩]

def notesSpec : Spec where
  fields := notesFields
  valid := (fieldsFault_eq_none (by decide : fieldsFault [] notesFields = none)).1

example : (extract priceList notesSpec (.strict true)).run = .error (.noRecords "notes") := rfl

example : (extract priceList notesSpec (.strict false)).run =
    .error (.missing "subtitle" none none) := rfl

end Extraction

end Gleaner
