import Gleaner.Proofs.Service.Files

/-! The stages of a request for an extraction. The query, the headers, the length of the body, the body, the
specification, the document, the selectors and the policy of the mode are looked at in this order, and the
first of them that is not as it should be decides the response. -/
namespace Gleaner

/-! The stages behind the reading of the request. -/

/-- The outcome for a specification and a document, each of which may be unreadable. -/
def stagedOutcome (spec : Except SpecError Spec) (text : Except Charset.DecodeError String)
    (mode : ExtractionMode) : Except ExtractionError Extract := do
  let s ← spec.mapError .spec
  let t ← text.mapError .document
  extractHtml t s mode

theorem extractBytes_staged [Charset.Detector] (bytes : List UInt8) (contentType : Option String)
    (spec : List UInt8) (mode : ExtractionMode) :
    extractBytes bytes contentType spec mode =
      stagedOutcome (Spec.decode spec) ((Charset.decode bytes contentType).map (·.1)) mode := by
  cases hspec : Spec.decode spec with
  | error f => exact extractBytes_of_spec_error hspec
  | ok s =>
    cases hdoc : Charset.decode bytes contentType with
    | error f => exact extractBytes_of_document_error hspec hdoc
    | ok r => exact extractBytes_of_decoded hspec hdoc

/-- The response to a request that has been read: the specification, the document, the selectors and the
policy of the mode decide in this order. -/
structure ExtractionStages (a : Http.Response) (spec : Except SpecError Spec)
    (text : Except Charset.DecodeError String) (mode : ExtractionMode) : Prop where
  malformed : ∀ f, spec = .error f →
    a.Reports ⟨400, f.message, some "malformed_specification", f.field?⟩
  undecodable : ∀ s f, spec = .ok s → text = .error f →
    a.Reports ⟨400, "unparsable document: " ++ f.message, some "parse_error", none⟩
  /-- The first refused selector is reported. -/
  refused : ∀ s t, spec = .ok s → text = .ok t →
    (∃ p ∈ s.places, ∃ q, HtmlDocument.compile p.selector = .error q) →
    ∃ before p after q, s.places = before ++ p :: after ∧
      (∀ p' ∈ before, ∃ c, HtmlDocument.compile p'.selector = .ok c) ∧
      HtmlDocument.compile p.selector = .error q ∧
      a.Reports ⟨400, (ExtractionError.selector p.field p.column q).message,
        some "selector_engine_failure", some (placePath p.field p.column)⟩
  /-- Only a strict mode objects to what has been found, and then in one of two ways. -/
  policy : ∀ s t, spec = .ok s → text = .ok t →
    (∀ p ∈ s.places, ∃ c, HtmlDocument.compile p.selector = .ok c) →
    (∃ data, extractHtml t s mode = .ok data ∧ a.Delivers data) ∨
      ∃ e kind, extractHtml t s mode = .error e ∧ (∃ req, mode = .strict req) ∧
        (kind = "missing_required_field" ∨ kind = "no_records_found") ∧
        a.Reports ⟨422, e.message, some kind, e.field?⟩

theorem ExtractionError.kind_of_policy {e : ExtractionError} (h : e.isPolicy = true) :
    e.kind = "missing_required_field" ∨ e.kind = "no_records_found" := by
  cases e with
  | missing => exact .inl rfl
  | noRecords => exact .inr rfl
  | spec | document | selector => cases h

theorem Http.Response.Answers.stages {a : Http.Response} {spec : Except SpecError Spec}
    {text : Except Charset.DecodeError String} {mode : ExtractionMode}
    (h : a.Answers ((stagedOutcome spec text mode).mapError .extraction)) :
    ExtractionStages a spec text mode where
  malformed f hspec := by
    subst hspec
    exact h
  undecodable s f hspec htext := by
    subst hspec htext
    exact h
  refused s t hspec htext hrefused := by
    subst hspec htext
    obtain ⟨before, p, after, q, hplaces, hbefore, hq⟩ := exists_first_refused (.ofText t) hrefused
    have hrun : extractHtml t s mode = .error (.selector p.field p.column q) :=
      Extraction.extract_selector_iff.2
        (Backend.findSome?_refusal?_eq_some_iff.2 ⟨before, p, after, hplaces, hbefore, hq, rfl, rfl⟩)
    change a.Answers ((extractHtml t s mode).mapError .extraction) at h
    rw [hrun] at h
    exact ⟨before, p, after, q, hplaces, hbefore, hq, h⟩
  policy s t hspec htext accepted := by
    subst hspec htext
    change a.Answers ((extractHtml t s mode).mapError .extraction) at h
    cases hrun : extractHtml t s mode with
    | ok data =>
      rw [hrun] at h
      exact .inl ⟨data, rfl, h⟩
    | error e =>
      rw [hrun] at h
      have hpolicy : e.isPolicy = true := Extraction.isPolicy_of_accepts hrun accepted
      refine .inr ⟨e, e.kind, rfl, Extraction.strict_of_policy hrun hpolicy,
        ExtractionError.kind_of_policy hpolicy, ?_⟩
      have hstatus : (Refusal.extraction e).status = 422 := if_pos hpolicy
      rw [← hstatus]
      exact h

namespace Service

open Http (Form Part Request Response partsNamed)
open Json Reader
open Upload (FirstRepeated Once fileNames htmlName specName)

/-- The mode of a request: each part of it is the first one that is given by the body, by the query or by
the settings. -/
def effectiveMode (s : ServiceState) (query body : ModeChoice) : ExtractionMode :=
  .of ((body.mode.or query.mode).getD s.mode)
    ((body.requireRecords.or query.requireRecords).getD s.requireRecords)

/-- The response to a request with a JSON body. -/
structure JsonStages [Charset.Detector] (s : ServiceState) (limit : Nat) (r : Request) : Prop where
  query : ∀ f, ModeChoice.ofQuery r.query = .error f →
    (respond s limit r).Reports ⟨400, f.message, some "invalid_request", none⟩
  mediaType : ∀ choice, ModeChoice.ofQuery r.query = .ok choice → ¬SaysJson r →
    (respond s limit r).Reports ⟨415, "Expected request with `Content-Type: application/json`",
      some "invalid_request", none⟩
  size : ∀ choice, ModeChoice.ofQuery r.query = .ok choice → SaysJson r → limit < r.body.length →
    (respond s limit r).Reports ⟨413, "Failed to buffer the request body: length limit exceeded",
      some "invalid_request", none⟩
  within_limit : r.body.length ≤ limit → (respond s limit r).status ≠ 413
  /-- The reading of the body stops at a fault of the text. -/
  text : ∀ choice f fault, ModeChoice.ofQuery r.query = .ok choice → SaysJson r →
    r.body.length ≤ limit → runAll extractRequest r.body = .error f → f.problem = .inSyntax fault →
    (respond s limit r).Reports ⟨400, "Failed to parse the request body as JSON: " ++ f.textWithPath,
      some "invalid_request", none⟩
  /-- The reading of the body stops at a fault of what the text says. -/
  meaning : ∀ choice f fault, ModeChoice.ofQuery r.query = .ok choice → SaysJson r →
    r.body.length ≤ limit → runAll extractRequest r.body = .error f → f.problem = .inData fault →
    (respond s limit r).Reports
      ⟨422, "Failed to deserialize the JSON body into the target type: " ++ f.textWithPath,
        some "invalid_request", none⟩
  extraction : ∀ choice request, ModeChoice.ofQuery r.query = .ok choice → SaysJson r →
    r.body.length ≤ limit → runAll extractRequest r.body = .ok request →
    ExtractionStages (respond s limit r) (Spec.ofJson request.spec) (.ok request.html)
      (effectiveMode s choice request.choice)

/-- The response to a request with a form as its body. -/
structure FormStages [Charset.Detector] (s : ServiceState) (limit : Nat) (r : Request) : Prop where
  query : ∀ f, ModeChoice.ofQuery r.query = .error f →
    (respond s limit r).Reports ⟨400, f.message, some "invalid_request", none⟩
  mediaType : ∀ choice, ModeChoice.ofQuery r.query = .ok choice → (∀ boundary, ¬SaysForm r boundary) →
    (respond s limit r).Reports ⟨400, "no files available.", some "invalid_upload", none⟩
  size : ∀ choice boundary, ModeChoice.ofQuery r.query = .ok choice → SaysForm r boundary →
    limit < r.body.length →
    (respond s limit r).Reports ⟨413, "Request payload is too large", some "invalid_request", none⟩
  within_limit : r.body.length ≤ limit → (respond s limit r).status ≠ 413
  /-- A file comes twice before anything is wrong with the form. -/
  repeated : ∀ choice boundary name, ModeChoice.ofQuery r.query = .ok choice → SaysForm r boundary →
    r.body.length ≤ limit → FirstRepeated (Form.read boundary r.body).names name →
    (respond s limit r).Reports
      ⟨400, "only one '" ++ name ++ "' part is allowed", some "invalid_upload", some name⟩
  broken : ∀ choice boundary fault, ModeChoice.ofQuery r.query = .ok choice → SaysForm r boundary →
    r.body.length ≤ limit → Once {} (Form.read boundary r.body).names →
    (Form.read boundary r.body).fault? = some fault →
    (respond s limit r).Reports ⟨400, fault.message, some "invalid_request", none⟩
  missing : ∀ choice boundary, ModeChoice.ofQuery r.query = .ok choice → SaysForm r boundary →
    r.body.length ≤ limit → Once {} (Form.read boundary r.body).names →
    (Form.read boundary r.body).fault? = none →
    (∃ name ∈ fileNames, partsNamed name (Form.read boundary r.body).parts = []) →
    (respond s limit r).Reports ⟨400, "no files available.", some "invalid_upload", none⟩
  extraction : ∀ choice boundary html spec, ModeChoice.ofQuery r.query = .ok choice →
    SaysForm r boundary → r.body.length ≤ limit → (Form.read boundary r.body).fault? = none →
    partsNamed htmlName (Form.read boundary r.body).parts = [html] →
    partsNamed specName (Form.read boundary r.body).parts = [spec] →
    ExtractionStages (respond s limit r) (Spec.decode spec.2)
      ((Charset.decode html.2 html.1.contentType).map (·.1)) (effectiveMode s choice {})

section Stages

variable {s : ServiceState} {limit : Nat} {r : Request} {choice : ModeChoice}

theorem outcomeFor_staged (s : ServiceState) (choice : ModeChoice) (request : ExtractRequest) :
    outcomeFor s choice request =
      (stagedOutcome (Spec.ofJson request.spec) (.ok request.html)
        (effectiveMode s choice request.choice)).mapError .extraction := by
  rw [outcomeFor]
  cases Spec.ofJson request.spec <;> rfl

theorem unacceptable_inSyntax {f : Failure} {fault : SyntaxFault} (h : f.problem = .inSyntax fault) :
    unacceptable f =
      .rejected 400 ("Failed to parse the request body as JSON: " ++ f.textWithPath) := by
  rw [unacceptable, h]

theorem unacceptable_inData {f : Failure} {fault : DataFault} (h : f.problem = .inData fault) :
    unacceptable f = .rejected 422
      ("Failed to deserialize the JSON body into the target type: " ++ f.textWithPath) := by
  rw [unacceptable, h]

/-- What is extracted from a request that has been read never makes it too long. -/
theorem status_of_staged {a : Response} {o : Except ExtractionError Extract}
    (h : a.Answers (o.mapError .extraction)) : a.status ≠ 413 := by
  cases o with
  | ok data =>
    rw [h.status]
    decide
  | error e =>
    rw [h.status]
    change (if e.isPolicy then 422 else 400) ≠ 413
    split <;> decide

theorem ToJson.within_limit [Charset.Detector] (h : ToJson r) (hsize : r.body.length ≤ limit) :
    (Service.respond s limit r).status ≠ 413 := by
  have hanswers := h.respond s limit
  cases hquery : ModeChoice.ofQuery r.query with
  | error f =>
    rw [extract_of_fault hquery] at hanswers
    exact hanswers.status_ne (by decide : 400 ≠ 413)
  | ok choice =>
    by_cases hjson : SaysJson r
    · cases hread : runAll extractRequest r.body with
      | error f =>
        rw [extract_of_unread hquery hjson hsize hread] at hanswers
        cases hproblem : f.problem with
        | inSyntax fault =>
          rw [unacceptable_inSyntax hproblem] at hanswers
          exact hanswers.status_ne (by decide : 400 ≠ 413)
        | inData fault =>
          rw [unacceptable_inData hproblem] at hanswers
          exact hanswers.status_ne (by decide : 422 ≠ 413)
      | ok request =>
        rw [extract_of_read hquery hjson hsize hread, outcomeFor_staged] at hanswers
        exact status_of_staged hanswers
    · rw [extract_of_choice hquery, extractRequestOf_of_not_json hjson] at hanswers
      exact hanswers.status_ne (by decide : 415 ≠ 413)

theorem ToJson.stages [Charset.Detector] (h : ToJson r) (s : ServiceState) (limit : Nat) :
    JsonStages s limit r where
  query f hquery := by
    have hanswers := h.respond s limit
    rwa [extract_of_fault hquery] at hanswers
  mediaType choice hquery hjson := by
    have hanswers := h.respond s limit
    rwa [extract_of_choice hquery, extractRequestOf_of_not_json hjson] at hanswers
  size choice hquery hjson hlong := by
    have hanswers := h.respond s limit
    rwa [extract_of_choice hquery, extractRequestOf_of_long hjson hlong] at hanswers
  within_limit := h.within_limit
  text choice f fault hquery hjson hsize hread hfault := by
    have hanswers := h.respond s limit
    rwa [extract_of_unread hquery hjson hsize hread, unacceptable_inSyntax hfault] at hanswers
  meaning choice f fault hquery hjson hsize hread hfault := by
    have hanswers := h.respond s limit
    rwa [extract_of_unread hquery hjson hsize hread, unacceptable_inData hfault] at hanswers
  extraction choice request hquery hjson hsize hread := by
    have hanswers := h.respond s limit
    rw [extract_of_read hquery hjson hsize hread, outcomeFor_staged] at hanswers
    exact hanswers.stages

theorem ToForm.within_limit [Charset.Detector] (h : ToForm r) (hsize : r.body.length ≤ limit) :
    (Service.respond s limit r).status ≠ 413 := by
  have hanswers := h.respond s limit
  cases hquery : ModeChoice.ofQuery r.query with
  | error f =>
    rw [upload_of_fault hquery] at hanswers
    exact hanswers.status_ne (by decide : 400 ≠ 413)
  | ok choice =>
    by_cases hform : ∃ boundary, SaysForm r boundary
    · obtain ⟨boundary, hboundary⟩ := hform
      rw [upload_of_form hquery hboundary hsize] at hanswers
      cases hfiles : Upload.ofForm {} (Form.read boundary r.body) with
      | error refusal =>
        rw [hfiles] at hanswers
        rcases Upload.refusal_of_ofForm hfiles with ⟨name, rfl⟩ | ⟨fault, rfl⟩ <;>
          exact hanswers.status_ne (by decide : 400 ≠ 413)
      | ok files =>
        rw [hfiles] at hanswers
        change (Service.respond s limit r).Answers (files.extract (modeOf s choice)) at hanswers
        rw [Upload.extract] at hanswers
        split at hanswers
        · exact status_of_staged hanswers
        · exact hanswers.status_ne (by decide : 400 ≠ 413)
    · rw [upload_of_choice hquery, formOf_of_not_form (not_exists.1 hform)] at hanswers
      exact hanswers.status_ne (by decide : 400 ≠ 413)

theorem ToForm.stages [Charset.Detector] (h : ToForm r) (s : ServiceState) (limit : Nat) :
    FormStages s limit r where
  query f hquery := by
    have hanswers := h.respond s limit
    rwa [upload_of_fault hquery] at hanswers
  mediaType choice hquery hform := by
    have hanswers := h.respond s limit
    rwa [upload_of_choice hquery, formOf_of_not_form hform] at hanswers
  size choice boundary hquery hform hlong := by
    have hanswers := h.respond s limit
    rwa [upload_of_choice hquery, formOf_of_long hform hlong] at hanswers
  within_limit := h.within_limit
  repeated choice boundary name hquery hform hsize hrepeated := by
    have hanswers := h.respond s limit
    rwa [upload_of_form hquery hform hsize, Upload.ofForm_firstRepeated hrepeated] at hanswers
  broken choice boundary fault hquery hform hsize honce hfault := by
    have hanswers := h.respond s limit
    rwa [upload_of_form hquery hform hsize, Upload.ofForm_once honce, hfault] at hanswers
  missing choice boundary hquery hform hsize honce hfault hmissing := by
    have hanswers := h.respond s limit
    rw [upload_of_form hquery hform hsize, Upload.ofForm_once honce, hfault] at hanswers
    change (Service.respond s limit r).Answers ((Upload.withParts {} _).extract _) at hanswers
    rwa [Upload.extract_of_missing hmissing] at hanswers
  extraction choice boundary html spec hquery hform hsize hfault hhtml hspec := by
    have hanswers := h.respond s limit
    rw [upload_of_form hquery hform hsize, Form.eq_ofParts hfault,
      Upload.ofForm_two hhtml hspec] at hanswers
    change (Service.respond s limit r).Answers
      ((extractBytes html.2 html.1.contentType spec.2 _).mapError .extraction) at hanswers
    rw [extractBytes_staged] at hanswers
    exact hanswers.stages

end Stages

/-- The first stage that fails decides the response, and what only later stages look at has no part in it.
Each stage has its status and says what it is that it objects to. -/
theorem first_failure_decides [Charset.Detector] :
    (∀ s limit r, ToJson r → JsonStages s limit r) ∧ ∀ s limit r, ToForm r → FormStages s limit r :=
  ⟨fun s limit _ h => h.stages s limit, fun s limit _ h => h.stages s limit⟩

/-- The query comes before the length of the body, and the length before the files in the body. -/
theorem first_failure_decides_oversized :
    (respond default 0 { linesForm twiceLines with query := "require_records=1" }).status = 400 ∧
      (respond default 0 (linesForm twiceLines)).status = 413 := by
  have hstages := first_failure_decides.2 default 0
  have hfault : ModeChoice.ofQuery "require_records=1" = .error .notBoolean := by decide +kernel
  have hchoice : ModeChoice.ofQuery (linesForm twiceLines).query = .ok ⟨some .strict, none⟩ := by
    decide +kernel
  have hform : SaysForm (linesForm twiceLines) "cut" := Option.bind_eq_some_iff.1 (by decide +kernel)
  have hquery := (hstages { linesForm twiceLines with query := "require_records=1" } ⟨rfl, rfl⟩).query _
    hfault
  have hsize := (hstages (linesForm twiceLines) ⟨rfl, rfl⟩).size _ _ hchoice hform (by decide +kernel)
  exact ⟨hquery.status, hsize.status⟩

/-- The text as the body of a request for an extraction. -/
def jsonRequest (text : String) : Request :=
  { titleRequest with query := "", body := Text.Utf8.encode text.toList }

/-- The mode is a number, which the reading of a mode takes for a fault of the text. -/
def numberedMode : String := "\x7b\"html\":\"\",\"spec\":\x7b\x7d,\"mode\":1\x7d"

/-- The text ends in the middle, after a document that is a number. -/
def numberedHtml : String := "\x7b\"html\":5"

/-- Not every JSON text that is refused is refused for what it says, and not every text that is no JSON is
refused for that. -/
theorem fault_kind_is_not_json_validity :
    ((Json.read (jsonRequest numberedMode).body).isOk = true ∧
      (runAll extractRequest (jsonRequest numberedMode).body).isOk = false ∧
      (respond default 1000 (jsonRequest numberedMode)).status = 400) ∧
    ((Json.read (jsonRequest numberedHtml).body).isOk = false ∧
      (respond default 1000 (jsonRequest numberedHtml)).status = 422) := by
  refine ⟨⟨?_, ?_, ?_⟩, ?_, ?_⟩ <;> decide +kernel

end Service

end Gleaner
