import Gleaner.Http.Message
import Gleaner.Service.Description
import Gleaner.Service.Query
import Gleaner.Service.Upload

/-! The service: how each request is answered. -/
namespace Gleaner

/-- What the paths of the service lead to. -/
inductive Route
  | greeting | health | upload | extract | description
  deriving DecidableEq, Repr

namespace Route

def ofPath? : String → Option Route
  | "/" => some .greeting
  | "/healthz" => some .health
  | "/html-page" => some .upload
  | "/v1/extract" => some .extract
  | "/api-docs/openapi.json" => some .description
  | _ => none

/-- The methods that a route allows. -/
def methods : Route → List String
  | .upload | .extract => ["POST"]
  | _ => ["GET", "HEAD"]

end Route

namespace Service

open Http (Request Response)

def jsonResponse (status : Nat) (v : Json) : Response :=
  { status, contentType := some "application/json", body := v.text }

/-- The response to an extraction and its outcome. -/
def outcomeResponse : Except Refusal Extract → Response
  | .ok data => jsonResponse 200 (ExtractResponse.ok data).toJson
  | .error r => jsonResponse r.status r.response.toJson

def choiceOf (r : Request) : Except Refusal ModeChoice :=
  (ModeChoice.ofQuery r.query).mapError fun f => .rejected 400 f.message

def mediaType? (r : Request) : Option Http.MediaType :=
  (r.headers.text? "content-type").bind Http.MediaType.ofText?

/-- A body that was read as JSON but is not acceptable. -/
def unacceptable (f : Json.Failure) : Refusal :=
  match f.problem with
  | .inData _ =>
      .rejected 422
        ("Failed to deserialize the JSON body into the target type: " ++ f.textWithPath)
  | .inSyntax _ =>
      .rejected 400 ("Failed to parse the request body as JSON: " ++ f.textWithPath)

/-- The request in a JSON body of at most `limit` bytes. -/
def extractRequestOf (limit : Nat) (r : Request) : Except Refusal ExtractRequest :=
  if !(mediaType? r).any (·.isJson) then
    .error (.rejected 415 "Expected request with `Content-Type: application/json`")
  else if limit < r.body.length then
    .error (.rejected 413 "Failed to buffer the request body: length limit exceeded")
  else
    (Json.Reader.runAll Json.Reader.extractRequest r.body).mapError unacceptable

/-- The form in a body of at most `limit` bytes. -/
def formOf (limit : Nat) (r : Request) : Except Refusal Http.Form :=
  match (mediaType? r).bind (·.boundary?) with
  | none => .error .missingFiles
  | some boundary =>
      if limit < r.body.length then .error (.rejected 413 "Request payload is too large")
      else .ok (.read boundary r.body)

/-- The mode of a request. -/
def modeOf (s : ServiceState) (c : ModeChoice) : ExtractionMode := s.resolve c.mode c.requireRecords

/-- Extracts from the two files of a form. -/
def upload [Charset.Detector] (s : ServiceState) (limit : Nat) (r : Request) : Except Refusal Extract := do
  let choice ← choiceOf r
  let form ← formOf limit r
  let files ← Upload.ofForm {} form
  files.extract (modeOf s choice)

/-- Extracts from a document in a JSON body, whose choice of a mode counts before that of the query. -/
def extract (s : ServiceState) (limit : Nat) (r : Request) : Except Refusal Extract := do
  let choice ← choiceOf r
  let request ← extractRequestOf limit r
  let spec ← (Spec.ofJson request.spec).mapError fun e => .extraction (.spec e)
  (extractHtml request.html spec (modeOf s (request.choice.or choice))).mapError .extraction

def answerAt [Charset.Detector] (s : ServiceState) (limit : Nat) (r : Request) : Route → Response
  | .greeting =>
      { status := 200, contentType := some "text/plain; charset=utf-8", body := "hello!" }
  | .health => jsonResponse 200 (HealthResponse.mk "OK").toJson
  | .upload => outcomeResponse (upload s limit r)
  | .extract => outcomeResponse (extract s limit r)
  | .description => jsonResponse 200 description

/-- The response apart from the number of the request. A request for the head gets no body. -/
def answerTo [Charset.Detector] (s : ServiceState) (limit : Nat) (r : Request) : Response :=
  match Route.ofPath? r.path with
  | none => { status := 404 }
  | some route =>
      if r.method ∉ route.methods then
        { status := 405, allow := some (",".intercalate route.methods) }
      else
        let a := answerAt s limit r route
        if r.method = "HEAD" then { a with body := "" } else a

/-- The response to a request; a body of more than `limit` bytes is not taken in. -/
def respond [Charset.Detector] (s : ServiceState) (limit : Nat) (r : Request) : Response :=
  { answerTo s limit r with
    requestId := match r.headers.first? "x-request-id" with
      | some value => .given value
      | none => .fresh }

end Service

end Gleaner
