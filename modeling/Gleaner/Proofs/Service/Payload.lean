import Gleaner.Proofs.Extraction.Result
import Gleaner.Proofs.Spec.Json
import Gleaner.Service.Payload

/-! Responses as JSON: what is written of a response is read back as the response. -/
namespace Gleaner

open Json Reader

/-! Each member fills its slot. -/

section ExtractResponse

variable {depth : Nat} {x : ResponseSlots}

theorem takesIn_status {n : Nat} (hn : n < 0x10000) (hx : x.status = none) :
    TakesIn (responseMember depth) x (Member.written ("status", .number (.natural n)))
      { x with status := some n } := by
  have hmember : responseMember depth x "status" =
      fill "status" none word16 fun v => { x with status := some v } := by
    rw [responseMember, if_pos rfl, hx]
  have htakes := takesIn_written hmember fun s hs => Takes.word16_written hn hs
  exact htakes

theorem takesIn_message (text : String) (hx : x.message = none) :
    TakesIn (responseMember depth) x (Member.written ("message", .string text))
      { x with message := some text } := by
  have hmember : responseMember depth x "message" =
      fill "message" none string fun v => { x with message := some v } := by
    rw [responseMember, if_neg (by decide), if_pos rfl, hx]
  have htakes := takesIn_written hmember fun s _ => Takes.string_written text s
  exact htakes

theorem takesIn_data (r : Extract) (hx : x.data = none) (hdepth : 3 ≤ depth - 1) :
    TakesIn (responseMember depth) x (Member.written ("data", r.toJson))
      { x with data := some r } := by
  have hmember : responseMember depth x "data" =
      fill "data" none (Reader.extract depth) fun v => { x with data := some v } := by
    rw [responseMember, if_neg (by decide), if_neg (by decide), if_pos rfl, hx]
  have hnesting := r.nesting_toJson.trans hdepth
  have htakes := takesIn_written hmember fun s _ =>
    Takes.extract (valueText_write r.whole_toJson) r.ofJson?_toJson hnesting .nil s
  exact htakes

end ExtractResponse

section ErrorResponse

variable {x : ErrorSlots}

theorem takesIn_errorStatus {n : Nat} (hn : n < 0x10000) (hx : x.status = none) :
    TakesIn errorMember x (Member.written ("status", .number (.natural n)))
      { x with status := some n } := by
  have hmember : errorMember x "status" =
      fill "status" none word16 fun v => { x with status := some v } := by
    rw [errorMember, if_pos rfl, hx]
  have htakes := takesIn_written hmember fun s hs => Takes.word16_written hn hs
  exact htakes

theorem takesIn_errorMessage (text : String) (hx : x.message = none) :
    TakesIn errorMember x (Member.written ("message", .string text))
      { x with message := some text } := by
  have hmember : errorMember x "message" =
      fill "message" none string fun v => { x with message := some v } := by
    rw [errorMember, if_neg (by decide), if_pos rfl, hx]
  have htakes := takesIn_written hmember fun s _ => Takes.string_written text s
  exact htakes

/-- A member that is left out leaves its slot empty. -/
theorem takesAll_textMember {name : String} (set : Option (Option String) → ErrorSlots)
    (value : Option String)
    (hmember : errorMember (set none) name =
      fill name none (option string) fun v => set (some v)) :
    TakesAll errorMember (set none) ((textMember name value).map Member.written)
      (set (value.map some)) := by
  cases value with
  | none => exact .nil _
  | some text =>
    have htakes := takesIn_written hmember fun s _ => Takes.option_string_written text s
    exact takesAll_written htakes (.nil _)

end ErrorResponse

/-! What is written is read back. -/

theorem Extract.read_back (r : Extract) :
    runAll (Reader.extract maxDepth) (compact r.toJson) = .ok r := by
  have hdepth : r.toJson.nesting < maxDepth := r.nesting_toJson.trans_lt (by decide)
  exact runAll_extract_iff.2 ⟨r.toJson, read_compact r.whole_toJson hdepth, r.ofJson?_toJson⟩

theorem ExtractResponse.read_back (r : ExtractResponse) (h : r.status < 0x10000) :
    runAll extractResponse (compact r.toJson) = .ok r := by
  have hall : TakesAll (responseMember (126 + 1)) {}
      ([("status", Json.number (.natural r.status)), ("message", .string r.message),
        ("data", r.data.toJson)].map Member.written)
      ⟨some r.status, some r.message, some r.data⟩ :=
    takesAll_written (takesIn_status h rfl) (takesAll_written (takesIn_message r.message rfl)
      (takesAll_written (takesIn_data r.data rfl (by decide)) (.nil _)))
  exact runAll_of_takes (takes_record_written hall rfl) .nil

theorem ErrorResponse.read_back (r : ErrorResponse) (h : r.status < 0x10000) :
    runAll errorResponse (compact r.toJson) = .ok r := by
  have hknown : TakesAll errorMember {}
      ([("status", Json.number (.natural r.status)), ("message", .string r.message)].map
        Member.written)
      ⟨some r.status, some r.message, none, none⟩ :=
    takesAll_written (takesIn_errorStatus h rfl)
      (takesAll_written (takesIn_errorMessage r.message rfl) (.nil _))
  have herror : TakesAll errorMember ⟨some r.status, some r.message, none, none⟩
      ((textMember "error" r.error).map Member.written)
      ⟨some r.status, some r.message, r.error.map some, none⟩ := by
    refine takesAll_textMember (fun e => ⟨some r.status, some r.message, e, none⟩) r.error ?_
    rw [errorMember, if_neg (by decide), if_neg (by decide), if_pos rfl]
  have hfield : TakesAll errorMember ⟨some r.status, some r.message, r.error.map some, none⟩
      ((textMember "field" r.field).map Member.written)
      ⟨some r.status, some r.message, r.error.map some, r.field.map some⟩ := by
    refine takesAll_textMember (fun f => ⟨some r.status, some r.message, r.error.map some, f⟩)
      r.field ?_
    rw [errorMember, if_neg (by decide), if_neg (by decide), if_neg (by decide), if_pos rfl]
  have hall := (hknown.append herror).append hfield
  rw [← List.map_append, ← List.map_append] at hall
  have hget : ∀ o : Option String, (o.map some).getD none = o := by
    intro o
    cases o <;> rfl
  have hresponse : ErrorResponse.mk r.status r.message ((r.error.map some).getD none)
      ((r.field.map some).getD none) = r := by rw [hget, hget]
  have htakes : Takes errorResponse (compact r.toJson) r [] :=
    takes_record_written hall (congrArg (Pure.pure : _ → Reader ErrorResponse) hresponse)
  exact runAll_of_takes htakes .nil

/-! Names in the texts of results. -/

/-- The names of the fields ascend, and so do those of the columns in each row. -/
structure KeysAscend (v : Json) : Prop where
  isResult : v.IsResult
  fields : ∀ members, v = .object members → Ascending (members.map (·.1))
  columns : ∀ members name rows, v = .object members → (name, .array rows) ∈ members →
    ∀ cells, .object cells ∈ rows → Ascending (cells.map (·.1))

theorem Record.ascending (r : Record) :
    Ascending ((r.entries.map fun e => (e.1, Json.string e.2)).map (·.1)) := by
  rw [ascending_iff_increasing]
  exact List.pairwise_map.2 r.increasing

theorem Extract.keysAscend (r : Extract) : KeysAscend r.toJson := by
  refine ⟨Extract.exists_ofJson?_iff.1 ⟨r, r.ofJson?_toJson⟩, ?_, ?_⟩
  · rintro members hmembers
    cases hmembers
    rw [ascending_iff_increasing]
    exact List.pairwise_map.2 r.increasing
  · rintro members name rows hmembers hrows cells hcells
    cases hmembers
    obtain ⟨f, -, heq⟩ := List.mem_map.1 hrows
    obtain ⟨rfl, hvalue⟩ := Prod.mk.inj heq
    cases hf : f.2 with
    | text s =>
      rw [hf] at hvalue
      cases hvalue
    | records rs =>
      rw [hf] at hvalue
      cases hvalue
      obtain ⟨row, -, hrow⟩ := List.mem_map.1 hcells
      cases hrow
      exact row.ascending

/-- What is written of a result or a response is read back as the same, and in the text of a result the
names ascend. A text is read as a result exactly if it is an object whose values are texts or lists of
objects with texts only. -/
theorem payloads_read_back :
    (∀ r : Extract, runAll (Reader.extract maxDepth) (compact r.toJson) = .ok r ∧
      Json.read (compact r.toJson) = .ok r.toJson ∧ KeysAscend r.toJson) ∧
    (∀ r : ExtractResponse, r.status < 0x10000 → runAll extractResponse (compact r.toJson) = .ok r) ∧
    (∀ r : ErrorResponse, r.status < 0x10000 → runAll errorResponse (compact r.toJson) = .ok r) ∧
    ∀ bytes, (∃ r, runAll (Reader.extract maxDepth) bytes = .ok r) ↔
      ∃ v, Json.read bytes = .ok v ∧ v.IsResult := by
  refine ⟨fun r => ⟨r.read_back, ?_, r.keysAscend⟩, ExtractResponse.read_back,
    ErrorResponse.read_back, fun bytes => ⟨?_, ?_⟩⟩
  · exact read_compact r.whole_toJson (r.nesting_toJson.trans_lt (by decide))
  · rintro ⟨r, hr⟩
    obtain ⟨v, hread, hv⟩ := runAll_extract_iff.1 hr
    exact ⟨v, hread, Extract.exists_ofJson?_iff.1 ⟨r, hv⟩⟩
  · rintro ⟨v, hread, hv⟩
    obtain ⟨r, hr⟩ := Extract.exists_ofJson?_iff.2 hv
    exact ⟨r, runAll_extract_iff.2 ⟨v, hread, hr⟩⟩

/-- A text with quotes, and two rows of which the second has no cells. -/
def quotedRows : Extract :=
  .ofList [("title", .text "\"é\""), ("rows", .records [.ofList [("d", ""), ("c", "\n")], .empty])]

theorem payloads_read_back_rows :
    runAll (Reader.extract maxDepth) (compact quotedRows.toJson) = .ok quotedRows ∧
    KeysAscend quotedRows.toJson ∧
    runAll extractResponse (compact (ExtractResponse.ok quotedRows).toJson) = .ok (.ok quotedRows) ∧
    runAll errorResponse (compact (ErrorResponse.mk 422 "\u0001" (some "kind") none).toJson) =
      .ok ⟨422, "\u0001", some "kind", none⟩ := by
  obtain ⟨hread, -, hkeys⟩ := payloads_read_back.1 quotedRows
  exact ⟨hread, hkeys, payloads_read_back.2.1 _ (by decide), payloads_read_back.2.2.1 _ (by decide)⟩

end Gleaner
