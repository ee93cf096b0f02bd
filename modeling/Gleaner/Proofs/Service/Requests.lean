import Gleaner.Proofs.Service.Response

/-! How requests for extractions are read: the query, the headers, the length of the body and the body,
each of which can be refused before the rest is looked at. -/
namespace Gleaner.Service

open Http (Request)
open Json Reader

/-- A request for an extraction from a form. -/
structure ToForm (r : Request) : Prop where
  method : r.method = "POST"
  path : r.path = "/html-page"

/-- A request for an extraction from a JSON body. -/
structure ToJson (r : Request) : Prop where
  method : r.method = "POST"
  path : r.path = "/v1/extract"

variable {s : ServiceState} {limit : Nat} {r : Request} {choice : ModeChoice}

theorem ToForm.respond [Charset.Detector] (h : ToForm r) (s : ServiceState) (limit : Nat) :
    (respond s limit r).Answers (upload s limit r) := by
  apply respond_of_answerTo
  rw [answerTo, h.path, h.method]
  rfl

theorem ToJson.respond [Charset.Detector] (h : ToJson r) (s : ServiceState) (limit : Nat) :
    (respond s limit r).Answers (extract s limit r) := by
  apply respond_of_answerTo
  rw [answerTo, h.path, h.method]
  rfl

/-- The body is said to be JSON. -/
def SaysJson (r : Request) : Prop := ∃ m, mediaType? r = some m ∧ m.isJson = true

/-- The body is said to be a form with that boundary. -/
def SaysForm (r : Request) (boundary : String) : Prop :=
  ∃ m, mediaType? r = some m ∧ m.boundary? = some boundary

section Bodies

theorem any_isJson_iff : (mediaType? r).any (·.isJson) = true ↔ SaysJson r := Option.any_eq_true _ _

theorem extractRequestOf_of_not_json (h : ¬SaysJson r) : extractRequestOf limit r =
    .error (.rejected 415 "Expected request with `Content-Type: application/json`") := by
  rw [extractRequestOf, Bool.eq_false_iff.2 (mt any_isJson_iff.1 h)]
  rfl

theorem extractRequestOf_of_long (h : SaysJson r) (hlong : limit < r.body.length) :
    extractRequestOf limit r =
      .error (.rejected 413 "Failed to buffer the request body: length limit exceeded") := by
  rw [extractRequestOf, any_isJson_iff.2 h, if_neg (by decide), if_pos hlong]

theorem extractRequestOf_of_size (h : SaysJson r) (hsize : r.body.length ≤ limit) :
    extractRequestOf limit r = (runAll extractRequest r.body).mapError unacceptable := by
  rw [extractRequestOf, any_isJson_iff.2 h, if_neg (by decide), if_neg (Nat.not_lt.2 hsize)]

theorem formOf_of_not_form (h : ∀ boundary, ¬SaysForm r boundary) :
    formOf limit r = .error .missingFiles := by
  rw [formOf]
  split
  · rfl
  · rename_i boundary hboundary
    obtain ⟨m, hm, hb⟩ := Option.bind_eq_some_iff.1 hboundary
    exact absurd ⟨m, hm, hb⟩ (h boundary)

theorem formOf_of_long {boundary : String} (h : SaysForm r boundary) (hlong : limit < r.body.length) :
    formOf limit r = .error (.rejected 413 "Request payload is too large") := by
  rw [formOf, Option.bind_eq_some_iff.2 h]
  exact if_pos hlong

theorem formOf_of_size {boundary : String} (h : SaysForm r boundary) (hsize : r.body.length ≤ limit) :
    formOf limit r = .ok (.read boundary r.body) := by
  rw [formOf, Option.bind_eq_some_iff.2 h]
  exact if_neg (Nat.not_lt.2 hsize)

end Bodies

section Outcomes

/-- The outcome of a request that has been read. -/
def outcomeFor (s : ServiceState) (choice : ModeChoice) (request : ExtractRequest) :
    Except Refusal Extract := do
  let spec ← (Spec.ofJson request.spec).mapError fun e => .extraction (.spec e)
  (extractHtml request.html spec (modeOf s (request.choice.or choice))).mapError .extraction

theorem extract_of_choice (h : ModeChoice.ofQuery r.query = .ok choice) :
    extract s limit r = extractRequestOf limit r >>= outcomeFor s choice := by
  rw [extract, choiceOf, h]
  rfl

theorem extract_of_unread {f : Failure} (hquery : ModeChoice.ofQuery r.query = .ok choice)
    (hjson : SaysJson r) (hsize : r.body.length ≤ limit)
    (hread : runAll extractRequest r.body = .error f) :
    extract s limit r = .error (unacceptable f) := by
  rw [extract_of_choice hquery, extractRequestOf_of_size hjson hsize, hread]
  rfl

theorem extract_of_read {request : ExtractRequest} (hquery : ModeChoice.ofQuery r.query = .ok choice)
    (hjson : SaysJson r) (hsize : r.body.length ≤ limit)
    (hread : runAll extractRequest r.body = .ok request) :
    extract s limit r = outcomeFor s choice request := by
  rw [extract_of_choice hquery, extractRequestOf_of_size hjson hsize, hread]
  rfl

theorem extract_of_fault {f : QueryFault} (h : ModeChoice.ofQuery r.query = .error f) :
    extract s limit r = .error (.rejected 400 f.message) := by
  rw [extract, choiceOf, h]
  rfl

theorem upload_of_choice [Charset.Detector] (h : ModeChoice.ofQuery r.query = .ok choice) :
    upload s limit r = (do
      let form ← formOf limit r
      let files ← Upload.ofForm {} form
      files.extract (modeOf s choice)) := by
  rw [upload, choiceOf, h]
  rfl

theorem upload_of_form [Charset.Detector] {boundary : String}
    (hquery : ModeChoice.ofQuery r.query = .ok choice) (hform : SaysForm r boundary) (hsize : r.body.length ≤ limit) :
    upload s limit r = (do
      let files ← Upload.ofForm {} (.read boundary r.body)
      files.extract (modeOf s choice)) := by
  rw [upload_of_choice hquery, formOf_of_size hform hsize]
  rfl

theorem upload_of_fault [Charset.Detector] {f : QueryFault} (h : ModeChoice.ofQuery r.query = .error f) :
    upload s limit r = .error (.rejected 400 f.message) := by
  rw [upload, choiceOf, h]
  rfl

end Outcomes

end Gleaner.Service
