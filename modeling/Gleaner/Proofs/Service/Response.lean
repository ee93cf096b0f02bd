import Gleaner.Proofs.Service.Payload
import Gleaner.Service.Routes

/-! What responses say: the extract that was asked for, or why there is none. -/
namespace Gleaner

namespace Http.Response

variable {a : Response} {e e' : ErrorResponse}

/-- The response says that the request failed, and how. -/
structure Reports (a : Response) (e : ErrorResponse) : Prop where
  status : a.status = e.status
  contentType : a.contentType = some "application/json"
  body : a.body = e.toJson.text

/-- The response hands over the extract. -/
structure Delivers (a : Response) (data : Extract) : Prop where
  status : a.status = 200
  contentType : a.contentType = some "application/json"
  body : a.body = (ExtractResponse.ok data).toJson.text

def Answers (a : Response) : Except Refusal Extract → Prop
  | .ok data => a.Delivers data
  | .error r => a.Reports r.response

/-- The responses are the same, the numbers of their requests aside. -/
structure SameAs (a b : Response) : Prop where
  status : a.status = b.status
  contentType : a.contentType = b.contentType
  body : a.body = b.body

/-- A response reports one failure only, because its text can be read back. -/
theorem Reports.unique (h : a.Reports e) (h' : a.Reports e') (hstatus : e.status < 0x10000) :
    e = e' := by
  have hread := e.read_back hstatus
  have hsame : Json.compact e.toJson = Json.compact e'.toJson := by
    rw [Json.compact, Json.compact, ← h.body, h'.body]
  rw [hsame, e'.read_back (by rw [← h'.status, h.status]; exact hstatus)] at hread
  exact (Except.ok.inj hread).symm

theorem Reports.status_ne {n : Nat} (h : a.Reports e) (hne : e.status ≠ n) : a.status ≠ n :=
  h.status ▸ hne

theorem Answers.same {b : Response} {o : Except Refusal Extract} (h : a.Answers o)
    (h' : b.Answers o) : a.SameAs b := by
  cases o with
  | ok data =>
    exact ⟨h.status.trans h'.status.symm, h.contentType.trans h'.contentType.symm,
      h.body.trans h'.body.symm⟩
  | error r =>
    exact ⟨h.status.trans h'.status.symm, h.contentType.trans h'.contentType.symm,
      h.body.trans h'.body.symm⟩

end Http.Response

namespace Service

open Http (Request)

variable {r : Request}

theorem outcomeResponse_answers (o : Except Refusal Extract) : (outcomeResponse o).Answers o := by
  cases o with
  | ok data => exact ⟨rfl, rfl, rfl⟩
  | error r => exact ⟨rfl, rfl, rfl⟩

theorem respond_of_answerTo [Charset.Detector] {s : ServiceState} {limit : Nat} {o : Except Refusal Extract}
    (h : answerTo s limit r = outcomeResponse o) : (respond s limit r).Answers o := by
  have hanswers := outcomeResponse_answers o
  rw [← h] at hanswers
  cases o with
  | ok data => exact ⟨hanswers.status, hanswers.contentType, hanswers.body⟩
  | error r => exact ⟨hanswers.status, hanswers.contentType, hanswers.body⟩

end Service

end Gleaner
