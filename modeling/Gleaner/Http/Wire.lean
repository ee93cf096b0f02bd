import Gleaner.Http.Form
import Gleaner.Http.Message

/-! Requests and responses as bytes. -/
namespace Gleaner.Http

/-- How many headers a request may have. -/
def maxRequestHeaders : Nat := 100

/-- The words of the first line of a request: the method, the address and the version. -/
def requestLine? (bytes : List UInt8) : Option (String × String) := do
  let line ← headerText? bytes
  match Text.wordsBy (· == ' ') line.toList with
  | [method, address, _] => some (String.ofList method, String.ofList address)
  | _ => none

/-- How many bytes the body has: none unless the headers say so. -/
def bodyLength (headers : Headers) : Nat :=
  ((headers.text? "content-length").bind String.toNat?).getD 0

/-- The request of a message with the rest of the bytes, of which the body is a part. -/
def Request.ofBytes? (bytes : List UInt8) : Option Request := do
  let (first, rest) ← splitAt? lineEnd bytes
  let (method, address) ← requestLine? first
  let (head, body) ← splitAt? (lineEnd ++ lineEnd) (lineEnd ++ rest)
  let headers ← Headers.read? (head.drop lineEnd.length ++ lineEnd ++ lineEnd) maxRequestHeaders
  let (path, query) := splitAddress address
  pure { method, path, query, headers, body := body.take (bodyLength headers) }

def reason : Nat → String
  | 200 => "OK"
  | 400 => "Bad Request"
  | 404 => "Not Found"
  | 405 => "Method Not Allowed"
  | 413 => "Payload Too Large"
  | 415 => "Unsupported Media Type"
  | 422 => "Unprocessable Entity"
  | _ => "Internal Server Error"

def headerLine (name : String) (value : List UInt8) : List UInt8 :=
  Text.Utf8.encode (name ++ ": ").toList ++ value ++ lineEnd

def textLine (name : String) (value : Option String) : List UInt8 :=
  (value.map fun s => headerLine name (Text.Utf8.encode s.toList)).getD []

/-- The bytes of a response, in which a request without a number of its own gets the number `fresh`. -/
def Response.bytes (fresh : String) (r : Response) : List UInt8 :=
  let body := Text.Utf8.encode r.body.toList
  let id := match r.requestId with
    | .given value => value
    | .fresh => Text.Utf8.encode fresh.toList
  Text.Utf8.encode ("HTTP/1.1 " ++ toString r.status ++ " " ++ reason r.status).toList ++ lineEnd ++
    textLine "content-type" r.contentType ++ textLine "allow" r.allow ++
    headerLine "x-request-id" id ++
    textLine "content-length" (some (toString body.length)) ++
    lineEnd ++ body

end Gleaner.Http
