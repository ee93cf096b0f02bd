import Gleaner.Proofs.Extraction.Strict

/-! Selectors that a backend does not accept. All selectors are compiled before the document is looked
at, so the first refused one decides the outcome in every mode and whatever the document holds. -/
namespace Gleaner

namespace Backend

variable {Selector Node Selector' Node' : Type} {doc : Backend Id Selector Node}
  {doc' : Backend Id Selector' Node'}

theorem violation?_isPolicy {mode : ExtractionMode} {f : Field} {e : ExtractionError}
    (h : doc.violation? mode f = some e) : e.isPolicy = true := by
  cases mode with
  | lenient => cases h
  | strict req =>
    have hf := violation?_strict_eq_some_iff.1 h
    cases hf <;> rfl

theorem refusal?_congr {p : Place}
    (h : ∀ q, doc.compile p.selector = .error q ↔ doc'.compile p.selector = .error q) :
    doc.refusal? p = doc'.refusal? p := by
  ext e
  simp only [refusal?_eq_some_iff, h]

/-- The first refused selector, found by the ones before it being accepted. -/
theorem findSome?_refusal?_eq_some_iff {places : List Place} {field : String}
    {column : Option String} {q : QueryError} :
    places.findSome? doc.refusal? = some (.selector field column q) ↔
      ∃ before p after, places = before ++ p :: after ∧
        (∀ p' ∈ before, ∃ s, doc.compile p'.selector = .ok s) ∧
        doc.compile p.selector = .error q ∧ p.field = field ∧ p.column = column := by
  simp only [List.findSome?_eq_some_iff, refusal?_eq_some_iff, refusal?_eq_none_iff]
  constructor
  · rintro ⟨before, p, after, hp, ⟨q', hq, he⟩, hbefore⟩
    obtain ⟨rfl, rfl, rfl⟩ := ExtractionError.selector.inj he
    exact ⟨before, p, after, hp, hbefore, hq, rfl, rfl⟩
  · rintro ⟨before, p, after, hp, hbefore, hq, rfl, rfl⟩
    exact ⟨before, p, after, hp, ⟨q, hq, rfl⟩, hbefore⟩

end Backend

namespace Extraction

variable {Selector Node : Type} {doc : Backend Id Selector Node} {spec : Spec}
  {mode : ExtractionMode}

theorem extract_selector_iff {field : String} {column : Option String} {q : QueryError} :
    (extract doc spec mode).run = .error (.selector field column q) ↔
      spec.places.findSome? doc.refusal? = some (.selector field column q) := by
  rw [extract_error_iff, Option.or_eq_some_iff]
  refine or_iff_left ?_
  rintro ⟨-, h⟩
  obtain ⟨f, -, hf⟩ := List.exists_of_findSome?_eq_some h
  cases Backend.violation?_isPolicy hf

theorem extract_refused_iff :
    (∃ field column q, (extract doc spec mode).run = .error (.selector field column q)) ↔
      ∃ p ∈ spec.places, ∃ q, doc.compile p.selector = .error q := by
  simp only [extract_selector_iff]
  constructor
  · rintro ⟨field, column, q, h⟩
    obtain ⟨p, hp, he⟩ := List.exists_of_findSome?_eq_some h
    obtain ⟨q', hq, -⟩ := Backend.refusal?_eq_some_iff.1 he
    exact ⟨p, hp, q', hq⟩
  · rintro ⟨p, hp, q, hq⟩
    have hsome : (spec.places.findSome? doc.refusal?).isSome = true :=
      List.findSome?_isSome_iff.2 ⟨p, hp, by simp [Backend.refusal?_eq_some_iff.2 ⟨q, hq, rfl⟩]⟩
    obtain ⟨e, he⟩ := Option.isSome_iff_exists.1 hsome
    obtain ⟨p', -, hp'⟩ := List.exists_of_findSome?_eq_some he
    obtain ⟨q', -, rfl⟩ := Backend.refusal?_eq_some_iff.1 hp'
    exact ⟨_, _, _, he⟩

theorem accepts_of_policy {e : ExtractionError} (h : (extract doc spec mode).run = .error e)
    (he : e.isPolicy = true) : doc.Accepts spec := by
  rw [Backend.accepts_iff]
  rw [extract_error_iff, Option.or_eq_some_iff] at h
  rcases h with h | ⟨h, -⟩
  · obtain ⟨p, -, hp⟩ := List.exists_of_findSome?_eq_some h
    obtain ⟨q, -, rfl⟩ := Backend.refusal?_eq_some_iff.1 hp
    cases he
  · exact h

/-- An extraction fails over a selector exactly if the backend refuses one, and then it names the first
refused one. Only the answers to the selectors matter for that, and no failure of a strict mode is ever
reported in its place. -/
theorem refused_selectors {Selector' Node' : Type} (doc : Backend Id Selector Node)
    (doc' : Backend Id Selector' Node') (spec : Spec) (mode mode' : ExtractionMode) :
    ((∃ field column q, (extract doc spec mode).run = .error (.selector field column q)) ↔
      ∃ p ∈ spec.places, ∃ q, doc.compile p.selector = .error q) ∧
    (∀ field column q, (extract doc spec mode).run = .error (.selector field column q) ↔
      ∃ before p after, spec.places = before ++ p :: after ∧
        (∀ p' ∈ before, ∃ s, doc.compile p'.selector = .ok s) ∧
        doc.compile p.selector = .error q ∧ p.field = field ∧ p.column = column) ∧
    ((∀ p ∈ spec.places, ∀ q,
        doc.compile p.selector = .error q ↔ doc'.compile p.selector = .error q) →
      ∀ field column q, (extract doc spec mode).run = .error (.selector field column q) ↔
        (extract doc' spec mode').run = .error (.selector field column q)) ∧
    ((∃ p ∈ spec.places, ∃ q, doc.compile p.selector = .error q) →
      ∀ e, (extract doc spec mode).run = .error e → e.isPolicy = false) := by
  refine ⟨extract_refused_iff, ?_, ?_, ?_⟩
  · intro field column q
    rw [extract_selector_iff, Backend.findSome?_refusal?_eq_some_iff]
  · intro same field column q
    rw [extract_selector_iff, extract_selector_iff,
      findSome?_congr fun p hp => Backend.refusal?_congr (same p hp)]
  · rintro ⟨p, hp, q, hq⟩ e he
    cases hpolicy : e.isPolicy with
    | false => rfl
    | true =>
      obtain ⟨s, hs⟩ := accepts_of_policy he hpolicy p hp
      cases hq.symm.trans hs

/-- The heading that is not there comes first, the refused column last. -/
def brokenFields : List Field :=
  [⟨"subtitle", .single "h2"⟩, ⟨"cells", .group ⟨"tr", [⟨"first", "td["⟩]⟩⟩]

def brokenSpec : Spec where
  fields := brokenFields
  valid := (fieldsFault_eq_none (by decide : fieldsFault [] brokenFields = none)).1

theorem refused_selectors_broken :
    priceList.Lacks (.single "h2") ∧
      (extract priceList brokenSpec (.strict true)).run =
        .error (.selector "cells" (some "first") ⟨"td[", "unexpected end"⟩) := by
  refine ⟨rfl, ?_⟩
  rw [(refused_selectors priceList priceList brokenSpec (.strict true) .lenient).2.1]
  refine ⟨[⟨"subtitle", none, "h2"⟩, ⟨"cells", some rootName, "tr"⟩], _, [], rfl, ?_, rfl, rfl, rfl⟩
  intro p hp
  have h : ∀ p ∈ [(⟨"subtitle", none, "h2"⟩ : Place), ⟨"cells", some rootName, "tr"⟩],
      p.selector ≠ "td[" := by decide
  exact ⟨p.selector, if_neg (h p hp)⟩

end Extraction

end Gleaner
