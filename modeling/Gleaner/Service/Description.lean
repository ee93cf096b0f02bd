import Gleaner.Json.Value

/-! The description of the service for programs. -/
namespace Gleaner.Service

def textJson (s : String) : Json := .string s

def reference (name : String) : Json :=
  .object [("$ref", textJson ("#/components/schemas/" ++ name))]

def typed (type : String) : Json := .object [("type", textJson type)]

/-- A value of the type or null. -/
def optional (type : String) (more : List (String × Json)) : Json :=
  .object (("type", .array [textJson type, textJson "null"]) :: more)

def optionalReference (name : String) : Json :=
  .object [("oneOf", .array [typed "null", reference name])]

def described (text : String) : String × Json := ("description", textJson text)

/-- A response with a JSON body of that form. -/
def answer (status text body : String) : String × Json :=
  (status, .object [described text, ("content",
    .object [("application/json", .object [("schema", reference body)])])])

def parameter (name text : String) (schema : Json) : Json :=
  .object [("name", textJson name), ("in", textJson "query"), described text,
    ("required", .bool false), ("schema", schema)]

def modeParameters : Json := .array [
  parameter "mode" "Overrides the configured extraction mode." (optionalReference "ModeKind"),
  parameter "require_records" "Strict mode only: fail when a repeated group yields no records."
    (optional "boolean" [])]

def statusSchema : Json :=
  .object [("type", textJson "integer"), ("format", textJson "int32"),
    ("minimum", .number (.natural 0))]

def recordSchema (description : List (String × Json)) (required : List String)
    (properties : List (String × Json)) : Json :=
  .object ([("type", textJson "object")] ++ description ++
    [("required", .array (required.map textJson)), ("properties", .object properties)])

def schemas : Json := .object [
  ("ErrorResponse", recordSchema [] ["status", "message"] [
    ("error", optional "string"
      [described "Machine readable failure kind, e.g. `missing_required_field`."]),
    ("field", optional "string"
      [described "Field the failure belongs to, as `field` or `field.column`."]),
    ("message", typed "string"),
    ("status", statusSchema)]),
  ("ExtractRequest", recordSchema [described "JSON alternative to the multipart upload."]
    ["html", "spec"] [
    ("html", typed "string"),
    ("mode", optionalReference "ModeKind"),
    ("require_records", optional "boolean" []),
    ("spec", typed "object")]),
  ("ExtractResponse", recordSchema [] ["status", "message", "data"] [
    ("data", .object [("type", textJson "object"),
      described "Field name to text, or to an array of records for repeated groups."]),
    ("message", typed "string"),
    ("status", statusSchema)]),
  ("HealthResponse", recordSchema [] ["status"] [("status", typed "string")]),
  ("ModeKind", .object [("type", textJson "string"),
    ("enum", .array [textJson "lenient", textJson "strict"])])]

def healthOperation : Json := .object [
  ("tags", .array [textJson "health"]),
  ("operationId", textJson "health_check"),
  ("responses", .object [answer "200" "Health check successful" "HealthResponse"])]

def uploadOperation : Json := .object [
  ("tags", .array [textJson "extract"]),
  ("summary", textJson "Extract from an uploaded document and specification."),
  described ("Expects a multipart form with an `htmlFile` part (the page) and a\n" ++
    "`jsonFile` part (the selector specification)."),
  ("operationId", textJson "upload_page"),
  ("parameters", modeParameters),
  ("responses", .object [
    answer "200" "Extraction succeeded" "ExtractResponse",
    answer "400" "Missing upload, malformed specification or invalid selector" "ErrorResponse",
    answer "413" "Upload too large" "ErrorResponse",
    answer "422" "Strict mode requirement not met" "ErrorResponse"])]

def extractOperation : Json := .object [
  ("tags", .array [textJson "extract"]),
  ("summary", textJson
    "Extract from a JSON request carrying the markup and the specification."),
  ("operationId", textJson "extract_json"),
  ("parameters", modeParameters),
  ("requestBody", .object [
    ("content", .object [("application/json",
      .object [("schema", reference "ExtractRequest")])]),
    ("required", .bool true)]),
  ("responses", .object [
    answer "200" "Extraction succeeded" "ExtractResponse",
    answer "400" "Malformed specification or invalid selector" "ErrorResponse",
    answer "422" "Strict mode requirement not met" "ErrorResponse"])]

def tag (name text : String) : Json := .object [("name", textJson name), described text]

/-- The description of all operations and of the values that they take and give. -/
def description : Json := .object [
  ("openapi", textJson "3.1.0"),
  ("info", .object [("title", textJson "pagesift"), described "",
    ("license", .object [("name", textJson "")]), ("version", textJson "0.1.0")]),
  ("paths", .object [
    ("/healthz", .object [("get", healthOperation)]),
    ("/html-page", .object [("post", uploadOperation)]),
    ("/v1/extract", .object [("post", extractOperation)])]),
  ("components", .object [("schemas", schemas)]),
  ("tags", .array [
    tag "extract" "Structured extraction from HTML documents",
    tag "health" "Service health"])]

end Gleaner.Service
