import Gleaner.Proofs.Extraction.Bytes
import Gleaner.Proofs.Service.Payload
import Gleaner.Proofs.Service.Upload
import Gleaner.Service.Routes

/-! The two ways of asking for an extraction: a JSON body with the document as a text, and a form with the
document as a file. Both lead to one outcome. -/
namespace Gleaner

open Charset (NamedBy)
open Http (Request Response Part partsNamed)
open Json Reader

/-! Requests in JSON. -/

/-- A request that leaves the mode open is read back from its JSON form. -/
theorem ExtractRequest.read_back (html : String) {spec : Json} (hspec : spec.Whole)
    (hdepth : spec.nesting < maxDepth - 1) :
    runAll extractRequest (compact (.object [("html", .string html), ("spec", spec)])) =
      .ok ⟨html, spec.canonical, {}⟩ := by
  have hhtml : TakesIn (requestMember (126 + 1)) {} (Member.written ("html", .string html))
      { html := some html } := by
    have hmember : requestMember (126 + 1) {} "html" =
        fill "html" none string fun v => { html := some v } := by
      rw [requestMember, if_pos rfl]
    have htakes := takesIn_written hmember fun s _ => Takes.string_written html s
    exact htakes
  have hvalue : TakesIn (requestMember (126 + 1)) { html := some html } (Member.written ("spec", spec))
      { html := some html, spec := some spec } := by
    have hmember : requestMember (126 + 1) { html := some html } "spec" =
        fill "spec" none (value (126 + 1)) fun v => { html := some html, spec := some v } := by
      rw [requestMember, if_neg (by decide), if_pos rfl]
    have hnesting : spec.nesting ≤ 126 + 1 - 1 := Nat.le_of_lt_succ hdepth
    have htakes := takesIn_written hmember fun s hs =>
      Takes.value (valueText_write hspec) hnesting .nil hs
    exact htakes
  have hall : TakesAll (requestMember (126 + 1)) {}
      ([("html", Json.string html), ("spec", spec)].map Member.written)
      { html := some html, spec := some spec } :=
    takesAll_written hhtml (takesAll_written hvalue (.nil _))
  exact runAll_of_takes (takes_record_written hall rfl) .nil

/-! Calls. -/

namespace Service

variable {s : ServiceState} {limit : Nat} {r : Request} {html : String} {v : Json}

/-- A call with a JSON body that leaves the mode to the query. -/
structure JsonCall (limit : Nat) (r : Request) (html : String) (v : Json) : Prop where
  method : r.method = "POST"
  path : r.path = "/v1/extract"
  mediaType : (mediaType? r).any (·.isJson) = true
  size : r.body.length ≤ limit
  body : runAll extractRequest r.body = .ok ⟨html, v, {}⟩

/-- A call with a form that has one document and one specification. -/
structure FormCall (limit : Nat) (r : Request) (html : String) (v : Json) : Prop where
  method : r.method = "POST"
  path : r.path = "/html-page"
  size : r.body.length ≤ limit
  form : ∃ boundary parts, (mediaType? r).bind (·.boundary?) = some boundary ∧
    Http.Form.read boundary r.body = .ofParts parts ∧
    (∃ head, partsNamed Upload.htmlName parts = [(head, Text.Utf8.encode html.toList)] ∧
      NamedBy head.contentType .utf8) ∧
    ∃ head text w, partsNamed Upload.specName parts = [(head, text)] ∧ Json.read text = .ok w ∧
      w.canonical = v

/-- The outcome of both calls. -/
def outcomeOf (s : ServiceState) (query html : String) (v : Json) : Except Refusal Extract := do
  let choice ← (ModeChoice.ofQuery query).mapError fun f => .rejected 400 f.message
  let spec ← (Spec.ofJson v).mapError fun e => .extraction (.spec e)
  (extractHtml html spec (modeOf s choice)).mapError .extraction

theorem JsonCall.extract (h : JsonCall limit r html v) :
    extract s limit r = outcomeOf s r.query html v := by
  have hrequest : extractRequestOf limit r = .ok ⟨html, v, {}⟩ := by
    rw [extractRequestOf, h.mediaType, if_neg (by decide), if_neg (Nat.not_lt.2 h.size), h.body]
    rfl
  rw [Service.extract, outcomeOf, hrequest]
  rfl

/-- Files that hold the text and the value in bytes are extracted from as these. -/
theorem extract_files [Charset.Detector] {contentType : Option String} {text : List UInt8} {w : Json}
    (hmark : html.toList.head? ≠ some '\uFEFF') (hnamed : NamedBy contentType .utf8)
    (htext : Json.read text = .ok w) (mode : ExtractionMode) :
    Upload.extract ⟨some (Text.Utf8.encode html.toList, contentType), some text⟩ mode = (do
      let spec ← (Spec.ofJson w.canonical).mapError fun e => Refusal.extraction (.spec e)
      (extractHtml html spec mode).mapError .extraction) := by
  have hdecode := Charset.decode_of_namedBy hmark hnamed
  have hspec : Spec.decode text = Spec.ofJson w.canonical := by rw [Spec.decode, htext]
  simp only [Upload.extract]
  cases hread : Spec.ofJson w.canonical with
  | error f =>
    rw [extractBytes_of_spec_error (hspec.trans hread)]
    rfl
  | ok spec =>
    rw [extractBytes_of_decoded (hspec.trans hread) hdecode]
    rfl

theorem FormCall.upload [Charset.Detector] (h : FormCall limit r html v)
    (hmark : html.toList.head? ≠ some '\uFEFF') :
    upload s limit r = outcomeOf s r.query html v := by
  obtain ⟨boundary, parts, hboundary, hread, ⟨head, hhtml, hnamed⟩, head', text, w, hspec, htext, rfl⟩ :=
    h.form
  have hform : formOf limit r = .ok (.ofParts parts) := by
    rw [formOf, hboundary]
    simp only
    rw [if_neg (Nat.not_lt.2 h.size), hread]
  have hfiles := Upload.ofForm_two hhtml hspec
  rw [Service.upload, outcomeOf, choiceOf, hform]
  cases ModeChoice.ofQuery r.query with
  | error f => rfl
  | ok choice =>
    change (do
      let files ← Upload.ofForm {} (.ofParts parts)
      files.extract (modeOf s choice)) = _
    rw [hfiles]
    exact extract_files hmark hnamed htext (modeOf s choice)

/-- The two ways of asking for the same extraction get the same answer. -/
theorem endpoints_agree [Charset.Detector] (s : ServiceState) (limit : Nat) (html : String) (v : Json)
    (r r' : Request) (hquery : r.query = r'.query) (hmark : html.toList.head? ≠ some '\uFEFF')
    (h : JsonCall limit r html v) (h' : FormCall limit r' html v) :
    (respond s limit r).status = (respond s limit r').status ∧
      (respond s limit r).body = (respond s limit r').body ∧
      (respond s limit r).contentType = (respond s limit r').contentType := by
  have hjson : answerTo s limit r = outcomeResponse (outcomeOf s r.query html v) := by
    rw [answerTo, h.path, h.method, ← h.extract]
    rfl
  have hform : answerTo s limit r' = outcomeResponse (outcomeOf s r.query html v) := by
    rw [answerTo, h'.path, h'.method, hquery, ← h'.upload hmark]
    rfl
  simp only [respond, hjson, hform, and_self]

def titleSpec : Json := .object [("title", .string "h1")]

def titleRequest : Request where
  method := "POST"
  path := "/v1/extract"
  query := "mode=strict"
  headers := [("Content-Type", Text.Utf8.encode "application/json".toList)]
  body := compact (.object [("html", .string "<h1>é</h1>"), ("spec", titleSpec)])

/-- The specification comes before the document, and a part of another name comes between them. -/
def titleFormLines : List String :=
  ["--cut", "Content-Disposition: form-data; name=jsonFile", "", "\x7b\"title\":\"h1\"\x7d",
    "--cut", "Content-Disposition: form-data; name=note", "", "hello",
    "--cut", "Content-Disposition: form-data; name=htmlFile", "Content-Type: text/html; charset=utf-8",
    "", "<h1>é</h1>", "--cut--"]

def titleForm : Request where
  method := "POST"
  path := "/html-page"
  query := "mode=strict"
  headers := [("Content-Type", Text.Utf8.encode "multipart/form-data; boundary=cut".toList)]
  body := titleFormLines.flatMap fun line => Text.Utf8.encode line.toList ++ Http.lineEnd

theorem endpoints_agree_title :
    (respond default 1000 titleForm).status = 200 ∧
      (respond default 1000 titleRequest).body = (respond default 1000 titleForm).body := by
  have hwhole : titleSpec.Whole := by
    refine .object fun e he => ?_
    cases List.mem_singleton.1 he
    exact .string "h1"
  have hrequest : JsonCall 1000 titleRequest "<h1>é</h1>" titleSpec := by
    refine ⟨rfl, rfl, by decide +kernel, by decide +kernel, ?_⟩
    exact ExtractRequest.read_back "<h1>é</h1>" hwhole (by decide)
  have hform : FormCall 1000 titleForm "<h1>é</h1>" titleSpec := by
    refine ⟨rfl, rfl, by decide +kernel, "cut", [(⟨some "jsonFile", none⟩, compact titleSpec),
      (⟨some "note", none⟩, Text.Utf8.encode "hello".toList),
      (⟨some "htmlFile", some "text/html; charset=utf-8"⟩, Text.Utf8.encode "<h1>é</h1>".toList)],
      by decide +kernel, by decide +kernel, ⟨_, rfl, ?_⟩, _, _, titleSpec, rfl, ?_, rfl⟩
    · exact Charset.namedBy_iff.2 (by decide +kernel)
    · exact read_compact hwhole (by decide)
  have hagree := endpoints_agree default 1000 _ _ titleRequest titleForm rfl (by decide +kernel)
    hrequest hform
  have hstatus : (respond default 1000 titleRequest).status = 200 := by decide +kernel
  exact ⟨hagree.1.symm.trans hstatus, hagree.2.1⟩

end Service

end Gleaner
