import Gleaner.Proofs.Service.Files

/-! Strict requests made lenient. What the policy of a strict mode objects to is then extracted from, and
every other request is answered as before. -/
namespace Gleaner

/-- What becomes of an outcome when the mode is made lenient. -/
inductive Cured : Except Refusal Extract → Except Refusal Extract → Prop
  | kept (o : Except Refusal Extract)
      (noPolicy : ∀ e, o = .error (.extraction e) → e.isPolicy = false) : Cured o o
  | cured {e : ExtractionError} (policy : e.isPolicy = true) (data : Extract) :
      Cured (.error (.extraction e)) (.ok data)

namespace Cured

theorem refused {r : Refusal} (h : ∀ e, r = .extraction e → e.isPolicy = false) :
    Cured (.error r) (.error r) :=
  kept _ fun e he => h e (Except.error.inj he)

/-- What comes first is left as it is, as long as it is not the policy that objects. -/
theorem bind {α : Type} {x : Except Refusal α} {f g : α → Except Refusal Extract}
    (hx : ∀ e, x = .error (.extraction e) → e.isPolicy = false) (h : ∀ a, x = .ok a → Cured (f a) (g a)) :
    Cured (x >>= f) (x >>= g) := by
  cases x with
  | ok a => exact h a rfl
  | error r => exact refused fun e he => hx e (congrArg _ he)

end Cured

/-! Extractions. -/

namespace Extraction

variable {Selector Node : Type} (doc : Backend Id Selector Node) (spec : Spec)

theorem extract_cured (mode : ExtractionMode) :
    Cured ((extract doc spec mode).run.mapError .extraction)
      ((extract doc spec .lenient).run.mapError .extraction) := by
  cases h : (extract doc spec mode).run with
  | ok data =>
    obtain ⟨hnone, rfl⟩ := extract_ok_iff.1 h
    have accepted := Backend.accepts_iff.2 (Option.or_eq_none_iff.1 hnone).1
    rw [lenient_ok_iff.2 ⟨accepted, rfl⟩]
    exact .kept _ fun _ he => by cases he
  | error e =>
    cases hpolicy : e.isPolicy with
    | true =>
      rw [lenient_ok_iff.2 ⟨accepts_of_policy h hpolicy, rfl⟩]
      exact .cured hpolicy _
    | false =>
      have hrefused : spec.places.findSome? doc.refusal? = some e := by
        rw [extract_error_iff, Option.or_eq_some_iff] at h
        refine h.resolve_right ?_
        rintro ⟨-, hviolation⟩
        obtain ⟨f, -, hf⟩ := List.exists_of_findSome?_eq_some hviolation
        rw [Backend.violation?_isPolicy hf] at hpolicy
        cases hpolicy
      rw [lenient_error_iff.2 hrefused]
      exact .refused fun _ he => Refusal.extraction.inj he ▸ hpolicy

end Extraction

theorem extractHtml_cured (html : String) (spec : Spec) (mode : ExtractionMode) :
    Cured ((extractHtml html spec mode).mapError .extraction)
      ((extractHtml html spec .lenient).mapError .extraction) :=
  Extraction.extract_cured _ spec mode

theorem extractBytes_cured [Charset.Detector] (bytes : List UInt8) (contentType : Option String)
    (spec : List UInt8) (mode : ExtractionMode) :
    Cured ((extractBytes bytes contentType spec mode).mapError .extraction)
      ((extractBytes bytes contentType spec .lenient).mapError .extraction) := by
  cases hspec : Spec.decode spec with
  | error f =>
    rw [extractBytes_of_spec_error hspec, extractBytes_of_spec_error hspec]
    exact .refused fun _ he => Refusal.extraction.inj he ▸ rfl
  | ok s =>
    cases hdoc : Charset.decode bytes contentType with
    | error f =>
      rw [extractBytes_of_document_error hspec hdoc, extractBytes_of_document_error hspec hdoc]
      exact .refused fun _ he => Refusal.extraction.inj he ▸ rfl
    | ok r =>
      rw [extractBytes_of_decoded hspec hdoc, extractBytes_of_decoded hspec hdoc]
      exact extractHtml_cured _ s mode

theorem Upload.extract_cured [Charset.Detector] (u : Upload) (mode : ExtractionMode) :
    Cured (u.extract mode) (u.extract .lenient) := by
  obtain ⟨html, spec⟩ := u
  cases html with
  | none => exact .refused fun _ he => by cases he
  | some html =>
    cases spec with
    | none => exact .refused fun _ he => by cases he
    | some spec => exact extractBytes_cured html.1 html.2 spec mode

theorem Upload.ofForm_noPolicy {u : Upload} {form : Http.Form} {e : ExtractionError} :
    ofForm u form ≠ .error (.extraction e) := by
  intro h
  rcases refusal_of_ofForm h with ⟨name, hr⟩ | ⟨fault, hr⟩ <;> cases hr

/-! Requests. -/

/-- The response says that the policy of a strict mode was violated. -/
def Http.Response.ReportsPolicy (a : Http.Response) : Prop :=
  ∃ e : ErrorResponse, a.Reports e ∧ e.status = 422 ∧
    (e.error = some "missing_required_field" ∨ e.error = some "no_records_found")

def ModeChoice.soften (c : ModeChoice) : ModeChoice := { c with mode := some .lenient }

def ExtractRequest.soften (q : ExtractRequest) : ExtractRequest := { q with choice := q.choice.soften }

theorem Refusal.isPolicy_iff {r : Refusal} :
    (∃ e, r = .extraction e ∧ e.isPolicy = true) ↔
      r.kind? = some "missing_required_field" ∨ r.kind? = some "no_records_found" := by
  constructor
  · rintro ⟨e, rfl, he⟩
    cases e with
    | missing => exact .inl rfl
    | noRecords => exact .inr rfl
    | spec | document | selector => cases he
  · intro h
    cases r with
    | extraction e => cases e <;> simp_all [kind?, ExtractionError.kind, ExtractionError.isPolicy]
    | _ => simp_all [kind?]

namespace Http.Response

variable {a a' : Http.Response} {o o' : Except Refusal Extract}

/-- Only the objection of a policy is reported as one. -/
theorem Answers.reportsPolicy_iff (h : a.Answers o) :
    a.ReportsPolicy ↔ ∃ e, o = .error (.extraction e) ∧ e.isPolicy = true := by
  constructor
  · rintro ⟨e, he, hstatus, hkind⟩
    cases o with
    | ok data => cases hstatus.symm.trans (he.status.symm.trans h.status)
    | error r =>
      obtain rfl := he.unique h (by rw [hstatus]; decide)
      obtain ⟨e, rfl, hpolicy⟩ := Refusal.isPolicy_iff.2 hkind
      exact ⟨e, rfl, hpolicy⟩
  · rintro ⟨e, rfl, hpolicy⟩
    refine ⟨_, h, ?_, Refusal.isPolicy_iff.1 ⟨e, rfl, hpolicy⟩⟩
    exact if_pos hpolicy

theorem status_of_cured (h : a.Answers o) (h' : a'.Answers o') (hcured : Cured o o')
    (hpolicy : a.ReportsPolicy) : a'.status = 200 := by
  obtain ⟨e, rfl, he⟩ := h.reportsPolicy_iff.1 hpolicy
  cases hcured with
  | kept _ noPolicy => cases he.symm.trans (noPolicy e rfl)
  | cured _ data => exact h'.status

theorem same_of_cured (h : a.Answers o) (h' : a'.Answers o') (hcured : Cured o o')
    (hpolicy : ¬a.ReportsPolicy) : a'.SameAs a := by
  cases hcured with
  | kept => exact h'.same h
  | cured he data => exact absurd (h.reportsPolicy_iff.2 ⟨_, rfl, he⟩) hpolicy

end Http.Response

namespace Service

open Http (Request Response)
open Json Reader

/-- The second request is the first one with the mode set to the lenient one: in the JSON body, which is
still within the limit, or else in the query. -/
inductive Softened (limit : Nat) : Request → Request → Prop
  | inBody {r : Request} {choice : ModeChoice} {request : ExtractRequest} (body : List UInt8)
      (toJson : ToJson r) (query : ModeChoice.ofQuery r.query = .ok choice)
      (read : runAll extractRequest r.body = .ok request)
      (softened : runAll extractRequest body = .ok request.soften)
      (size : r.body.length ≤ limit ↔ body.length ≤ limit) : Softened limit r { r with body }
  | inQuery {r : Request} {choice : ModeChoice} (query : String)
      (toForm : ToForm r) (read : ModeChoice.ofQuery r.query = .ok choice)
      (softened : ModeChoice.ofQuery query = .ok choice.soften) : Softened limit r { r with query }

variable {s : ServiceState} {limit : Nat} {r r' : Request} {choice : ModeChoice}

theorem formOf_noPolicy {e : ExtractionError} : formOf limit r ≠ .error (.extraction e) := by
  intro h
  rw [formOf] at h
  split at h
  · cases h
  · split at h <;> cases h

theorem upload_cured [Charset.Detector] {query : String} (read : ModeChoice.ofQuery r.query = .ok choice)
    (softened : ModeChoice.ofQuery query = .ok choice.soften) :
    Cured (upload s limit r) (upload s limit { r with query }) := by
  rw [upload_of_choice read, upload_of_choice (r := { r with query }) softened]
  refine .bind (fun e he => absurd he formOf_noPolicy) fun form _ => ?_
  refine .bind (fun e he => absurd he Upload.ofForm_noPolicy) fun files _ => ?_
  exact files.extract_cured _

theorem outcomeFor_cured (choice : ModeChoice) (request : ExtractRequest) :
    Cured (outcomeFor s choice request) (outcomeFor s choice request.soften) := by
  refine .bind (fun e he => ?_) fun spec _ => extractHtml_cured _ spec _
  cases hspec : Spec.ofJson request.spec with
  | ok spec => rw [hspec] at he; cases he
  | error f => rw [hspec] at he; cases he; rfl

theorem extract_cured {body : List UInt8} {request : ExtractRequest}
    (query : ModeChoice.ofQuery r.query = .ok choice) (read : runAll extractRequest r.body = .ok request)
    (softened : runAll extractRequest body = .ok request.soften)
    (size : r.body.length ≤ limit ↔ body.length ≤ limit) :
    Cured (extract s limit r) (extract s limit { r with body }) := by
  rw [extract_of_choice query, extract_of_choice (r := { r with body }) query]
  by_cases hjson : SaysJson r
  · have hjson' : SaysJson { r with body } := hjson
    by_cases hsize : r.body.length ≤ limit
    · rw [extractRequestOf_of_size hjson hsize, extractRequestOf_of_size hjson' (size.1 hsize), read,
        softened]
      exact outcomeFor_cured choice request
    · rw [extractRequestOf_of_long hjson (Nat.lt_of_not_le hsize),
        extractRequestOf_of_long hjson' (Nat.lt_of_not_le (mt size.2 hsize))]
      exact .refused fun _ he => by cases he
  · have hjson' : ¬SaysJson { r with body } := hjson
    rw [extractRequestOf_of_not_json hjson, extractRequestOf_of_not_json hjson']
    exact .refused fun _ he => by cases he

theorem Softened.cured [Charset.Detector] (h : Softened limit r r') (s : ServiceState) :
    ∃ o o', (respond s limit r).Answers o ∧ (respond s limit r').Answers o' ∧ Cured o o' := by
  cases h with
  | inBody body toJson query read softened size =>
    have toJson' : ToJson { r with body } := ⟨toJson.method, toJson.path⟩
    exact ⟨_, _, toJson.respond s limit, toJson'.respond s limit,
      extract_cured query read softened size⟩
  | inQuery query toForm read softened =>
    have toForm' : ToForm { r with query } := ⟨toForm.method, toForm.path⟩
    exact ⟨_, _, toForm.respond s limit, toForm'.respond s limit, upload_cured read softened⟩

/-- In lenient mode a request succeeds if it did so before or if it was the policy that objected, and in
every other case it is answered as before. -/
theorem leniency_cures_policy [Charset.Detector] (s : ServiceState) (limit : Nat) (r r' : Request)
    (h : Softened limit r r') :
    ((respond s limit r).status = 200 → (respond s limit r').SameAs (respond s limit r)) ∧
    ((respond s limit r).ReportsPolicy → (respond s limit r').status = 200) ∧
    (¬(respond s limit r).ReportsPolicy → (respond s limit r').SameAs (respond s limit r)) := by
  obtain ⟨o, o', hanswers, hanswers', hcured⟩ := h.cured s
  refine ⟨fun hstatus => ?_, Response.status_of_cured hanswers hanswers' hcured,
    Response.same_of_cured hanswers hanswers' hcured⟩
  refine Response.same_of_cured hanswers hanswers' hcured ?_
  rintro ⟨e, he, hpolicy, -⟩
  cases hstatus.symm.trans (he.status.trans hpolicy)

/-- A form with a document in which the heading is missing. -/
def bareLines : List String :=
  ["--cut", "Content-Disposition: form-data; name=jsonFile", "", "\x7b\"title\":\"h1\"\x7d",
    "--cut", "Content-Disposition: form-data; name=htmlFile", "", "<p>é", "--cut--"]

theorem leniency_cures_policy_bare :
    (respond default 1000 (linesForm bareLines)).ReportsPolicy ∧
      (respond default 1000 { linesForm bareLines with query := "mode=lenient" }).status = 200 := by
  have hread : ModeChoice.ofQuery (linesForm bareLines).query = .ok ⟨some .strict, none⟩ := by
    decide +kernel
  have hsoftened : Softened 1000 (linesForm bareLines) { linesForm bareLines with query := "mode=lenient" } :=
    .inQuery "mode=lenient" ⟨rfl, rfl⟩ hread (by decide +kernel)
  have hpolicy : (respond default 1000 (linesForm bareLines)).ReportsPolicy := by
    refine ⟨(Refusal.extraction (.missing "title" none none)).response, ⟨?_, ?_, ?_⟩, rfl, .inl rfl⟩ <;>
      decide +kernel
  exact ⟨hpolicy, (leniency_cures_policy default 1000 _ _ hsoftened).2.1 hpolicy⟩

end Service

end Gleaner
