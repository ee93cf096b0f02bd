import Gleaner.Extraction.Html
import Gleaner.Proofs.Charset.Document
import Gleaner.Proofs.Extraction.Lenient
import Gleaner.Proofs.Extraction.Refused
import Gleaner.Proofs.Json.Write
import Gleaner.Proofs.Spec.Json

/-! Extractions from bytes. They go through four stages: the specification is read, the document is read,
the selectors are compiled, and the mode is applied to what they find. After the first two stages the
extraction is the one from the text of the document. -/
namespace Gleaner

open Charset (NamedBy DeclaresAtTop Unmarked)

section Stages

variable [Charset.Detector] {bytes spec : List UInt8} {contentType : Option String} {mode : ExtractionMode}
  {s : Spec} {text : String} {encoding : Charset.Encoding} {e : ExtractionError}

theorem extractBytes_of_spec_error {f : SpecError} (h : Spec.decode spec = .error f) :
    extractBytes bytes contentType spec mode = .error (.spec f) := by
  rw [extractBytes, h]
  rfl

theorem extractBytes_of_document_error {f : Charset.DecodeError} (hspec : Spec.decode spec = .ok s)
    (h : Charset.decode bytes contentType = .error f) :
    extractBytes bytes contentType spec mode = .error (.document f) := by
  rw [extractBytes, hspec, HtmlDocument.ofBytes, h]
  rfl

/-- The encoding of a document has no effect on what is extracted from its text. -/
theorem extractBytes_of_decoded (hspec : Spec.decode spec = .ok s)
    (h : Charset.decode bytes contentType = .ok (text, encoding)) :
    extractBytes bytes contentType spec mode = extractHtml text s mode := by
  rw [extractBytes, hspec, HtmlDocument.ofBytes, h]
  rfl

end Stages

/-! Bytes that are a text. -/

namespace Charset

theorem unmarked_encode {text : List Char} (h : text.head? ≠ some '\uFEFF') :
    Unmarked (Text.Utf8.encode text) := by
  intro m hm body heq
  simp only [marks, List.mem_cons, List.not_mem_nil, or_false] at hm
  rcases hm with rfl | rfl | rfl
  · have hmark : String.utf8EncodeChar '\uFEFF' = [0xEF, 0xBB, 0xBF] := by decide
    exact h (Text.Utf8.head?_of_encode (heq.trans (congrArg (· ++ body) hmark.symm)))
  · exact absurd (Text.Utf8.lead_lt_of_encode heq) (by decide)
  · exact absurd (Text.Utf8.lead_lt_of_encode heq) (by decide)

section Detector

variable [Detector] {text : String} {contentType : Option String}

/-- The detector takes a text for one in UTF-8, unless it is ASCII with escape sequences. -/
def KnowsTexts : Prop :=
  ∀ text : List Char, hasEscapes (Text.Utf8.encode text) = false →
    Detector.guess (Text.Utf8.encode text) = .utf8

/-- Why the bytes of a text are read in UTF-8: the content type or else a tag names it, UTF-16 in a tag being
taken for it, or else nothing is said and the detector, which knows texts, finds no escape sequences. -/
inductive Agreeable (bytes : List UInt8) (contentType : Option String) : Prop
  | named (h : NamedBy contentType .utf8) : Agreeable bytes contentType
  | declared (silent : ∀ e, ¬NamedBy contentType e) {e : Encoding} (h : DeclaresAtTop bytes e)
      (he : e = .utf8 ∨ ∃ order, e = .utf16 order) : Agreeable bytes contentType
  | detected (silent : ∀ e, ¬NamedBy contentType e) (undeclared : ∀ e, ¬DeclaresAtTop bytes e)
      (knows : KnowsTexts) (plain : hasEscapes bytes = false) : Agreeable bytes contentType

theorem decode_of_encodingOf (hmark : text.toList.head? ≠ some '\uFEFF')
    (h : encodingOf (Text.Utf8.encode text.toList) contentType = .utf8) :
    decode (Text.Utf8.encode text.toList) contentType = .ok (text, .utf8) := by
  have hread := (unmarked_encode hmark).readIn contentType
  rw [h] at hread
  refine hread.unique (.inl ⟨text.toList, rfl, ?_⟩)
  rw [String.ofList_toList]

theorem decode_of_namedBy (hmark : text.toList.head? ≠ some '\uFEFF')
    (h : NamedBy contentType .utf8) :
    decode (Text.Utf8.encode text.toList) contentType = .ok (text, .utf8) :=
  decode_of_encodingOf hmark (encodingOf_of_namedBy h _)

theorem encodingOf_of_agreeable {text : List Char}
    (h : Agreeable (Text.Utf8.encode text) contentType) :
    encodingOf (Text.Utf8.encode text) contentType = .utf8 := by
  cases h with
  | named h => exact encodingOf_of_namedBy h _
  | declared silent h he =>
    rw [encodingOf_of_not_namedBy silent, declaredAtTop?_eq_some_iff.2 ⟨_, h, rfl⟩]
    rcases he with rfl | ⟨order, rfl⟩ <;> rfl
  | detected silent undeclared knows plain =>
    exact (encodingOf_of_undeclared silent undeclared).trans (knows text plain)

/-- What the detector finds is what a text about which nothing is said is read in. -/
theorem decode_undeclared_iff (hmark : text.toList.head? ≠ some '\uFEFF')
    (hnone : ∀ e, ¬NamedBy contentType e)
    (htop : ∀ e, ¬DeclaresAtTop (Text.Utf8.encode text.toList) e) :
    decode (Text.Utf8.encode text.toList) contentType = .ok (text, .utf8) ↔
      Detector.guess (Text.Utf8.encode text.toList) = .utf8 := by
  have hencoding := encodingOf_of_undeclared hnone htop
  constructor
  · intro hdecode
    have hread := (unmarked_encode hmark).readIn contentType
    rw [hdecode, hencoding] at hread
    rcases hread with ⟨text', -, hok⟩ | ⟨-, herror⟩
    · exact (Prod.mk.inj (Except.ok.inj hok)).2.symm
    · cases herror
  · exact fun hguess => decode_of_encodingOf hmark (hencoding.trans hguess)

end Detector

end Charset

/-- A text is extracted from its UTF-8 form with the same outcome as by itself, as long as nothing says that
the bytes are in another encoding, be it the escape sequences in them. If nothing is said about a text then
it is the detector that decides. Bytes that are said to be UTF-8 and are not have no outcome but that. -/
theorem bytes_agree_with_text [Charset.Detector] :
    (∀ (text : String) (contentType : Option String), text.toList.head? ≠ some '\uFEFF' →
      Charset.Agreeable (Text.Utf8.encode text.toList) contentType →
      Charset.decode (Text.Utf8.encode text.toList) contentType = .ok (text, .utf8) ∧
      ∀ spec mode, extractBytes (Text.Utf8.encode text.toList) contentType spec mode =
        match Spec.decode spec with
        | .ok s => extractHtml text s mode
        | .error f => .error (.spec f)) ∧
    (∀ (text : String) (contentType : Option String), text.toList.head? ≠ some '\uFEFF' →
      (∀ e, ¬NamedBy contentType e) → (∀ e, ¬DeclaresAtTop (Text.Utf8.encode text.toList) e) →
      (Charset.decode (Text.Utf8.encode text.toList) contentType = .ok (text, .utf8) ↔
        Charset.Detector.guess (Text.Utf8.encode text.toList) = .utf8)) ∧
    ∀ (bytes : List UInt8) (contentType : Option String), Unmarked bytes →
      (∀ text, bytes ≠ Text.Utf8.encode text) → NamedBy contentType .utf8 →
      ∀ spec s, Spec.decode spec = .ok s → ∀ mode, extractBytes bytes contentType spec mode =
        .error (.document ⟨.utf8, "malformed byte sequence"⟩) := by
  refine ⟨?_, fun text contentType => Charset.decode_undeclared_iff, ?_⟩
  · intro text contentType hmark hencoding
    have hdecode := Charset.decode_of_encodingOf hmark (Charset.encodingOf_of_agreeable hencoding)
    refine ⟨hdecode, fun spec mode => ?_⟩
    cases hspec : Spec.decode spec with
    | ok s => exact extractBytes_of_decoded hspec hdecode
    | error f => exact extractBytes_of_spec_error hspec
  · intro bytes contentType hunmarked hnot hnamed spec s hspec mode
    have hread := hunmarked.readIn contentType
    rw [Charset.encodingOf_of_namedBy hnamed] at hread
    refine extractBytes_of_document_error hspec (hread.unique (.inr ⟨?_, rfl⟩))
    rintro ⟨text, htext⟩
    exact hnot text htext

/-- The detector of the program knows texts. -/
theorem Charset.knowsTexts : KnowsTexts := by
  intro text h
  rcases likely_guess h with ⟨-, hguess⟩ | ⟨hnot, -⟩
  · exact hguess
  · exact absurd ⟨text, rfl⟩ hnot

theorem exists_decoded {bytes : List UInt8} {fields : List Field}
    (h : (Spec.decode bytes).toOption.map (·.fields) = some fields) :
    ∃ s, Spec.decode bytes = .ok s ∧ s.fields = fields := by
  obtain ⟨s, hs, rfl⟩ := Option.map_eq_some_iff.1 h
  cases hdecode : Spec.decode bytes with
  | error f => rw [hdecode] at hs; cases hs
  | ok t => rw [hdecode] at hs; cases hs; exact ⟨s, rfl, rfl⟩

/-- A specification with one field. -/
def titleText (selector : String) : List UInt8 :=
  Text.Utf8.encode ("\x7b\"title\": \"" ++ selector ++ "\"\x7d").toList

/-- Two letters in ISO-2022-JP, between its escape sequences. They are ASCII, and so UTF-8, too. -/
def escapedText : String := "\x1B$B$3$s\x1B(B"

theorem not_declaresAtTop_escapedText (e : Charset.Encoding) :
    ¬DeclaresAtTop (Text.Utf8.encode escapedText.toList) e :=
  Charset.declaredAtTop?_eq_none_iff.1 (by decide +kernel) e

theorem decode?_escapedText :
    Charset.Encoding.iso2022Jp.decode? (Text.Utf8.encode escapedText.toList) = some ['こ', 'ん'] := by
  decide +kernel

theorem guess_escapedText :
    Charset.Detector.guess (Text.Utf8.encode escapedText.toList) = .iso2022Jp := by
  have hescapes : Charset.hasEscapes (Text.Utf8.encode escapedText.toList) = true := by decide +kernel
  simp only [Charset.Detector.guess, hescapes, decode?_escapedText]
  rfl

/-- A letter beyond ASCII, whole and cut off after its first byte, and letters in escape sequences. -/
theorem bytes_agree_with_text_letter :
    (Charset.decode [0xC3, 0xA9] none = .ok ("é", .utf8) ∧
      extractBytes [0xC3, 0xA9] none (titleText "h1") .lenient =
        match Spec.decode (titleText "h1") with
        | .ok s => extractHtml "é" s .lenient
        | .error f => .error (.spec f)) ∧
    Charset.decode [0xC3, 0xA9] (some "text/html; charset=utf8") = .ok ("é", .utf8) ∧
    Charset.decode (Text.Utf8.encode escapedText.toList) none ≠ .ok (escapedText, .utf8) ∧
    extractBytes [0xC3] (some "text/html; charset=utf8") (titleText "h1") .lenient =
      .error (.document ⟨.utf8, "malformed byte sequence"⟩) := by
  have hencode : Text.Utf8.encode "é".toList = [0xC3, 0xA9] := by decide +kernel
  have hnamed : NamedBy (some "text/html; charset=utf8") .utf8 :=
    Charset.namedBy_iff.2 (by decide +kernel)
  have htop : ∀ e, ¬DeclaresAtTop [0xC3, 0xA9] e :=
    Charset.declaredAtTop?_eq_none_iff.1 (by decide +kernel)
  have hfields : (Spec.decode (titleText "h1")).toOption.map (·.fields) =
      some [⟨"title", .single "h1"⟩] := by decide +kernel
  obtain ⟨s, hs, -⟩ := exists_decoded hfields
  have hcut : ∀ text, [0xC3] ≠ Text.Utf8.encode text := by
    intro text htext
    have hnone : Text.Utf8.decode? [0xC3] = none := by decide +kernel
    cases hnone.symm.trans (Text.Utf8.decode?_eq_some_iff.2 htext)
  refine ⟨?_, ?_, ?_, ?_⟩
  · have hagree := bytes_agree_with_text.1 "é" none (by decide +kernel)
      (hencode.symm ▸ .detected Charset.not_namedBy_none htop Charset.knowsTexts rfl)
    rw [hencode] at hagree
    exact ⟨hagree.1, hagree.2 _ _⟩
  · have hagree := bytes_agree_with_text.1 "é" _ (by decide +kernel) (.named hnamed)
    rw [hencode] at hagree
    exact hagree.1
  · intro hdecode
    have hguess := (bytes_agree_with_text.2.1 escapedText none (by decide +kernel)
      Charset.not_namedBy_none not_declaresAtTop_escapedText).1 hdecode
    cases guess_escapedText.symm.trans hguess
  · exact bytes_agree_with_text.2.2 [0xC3] _ (Charset.afterMark?_eq_none_iff.1 (by decide +kernel)) hcut
      hnamed _ s hs _

/-- Nothing is said about the text, and it is not read as itself. -/
theorem escapedText_read_as_another :
    escapedText.toList.head? ≠ some '\uFEFF' ∧ (∀ e, ¬NamedBy none e) ∧
      (∀ e, ¬DeclaresAtTop (Text.Utf8.encode escapedText.toList) e) ∧
      Charset.decode (Text.Utf8.encode escapedText.toList) none = .ok ("こん", .iso2022Jp) := by
  have hmark : escapedText.toList.head? ≠ some '\uFEFF' := by decide +kernel
  have hread := (Charset.unmarked_encode hmark).readIn none
  rw [Charset.encodingOf_of_undeclared Charset.not_namedBy_none not_declaresAtTop_escapedText,
    guess_escapedText] at hread
  refine ⟨hmark, Charset.not_namedBy_none, not_declaresAtTop_escapedText, hread.unique (.inl ?_)⟩
  exact ⟨_, Charset.Encoding.decode?_eq_some_iff.1 decode?_escapedText, rfl⟩

/-! The order of the stages. -/

namespace Extraction

variable {Selector Node : Type} {doc : Backend Id Selector Node} {spec : Spec}
  {mode : ExtractionMode} {e : ExtractionError}

/-- Once all selectors are accepted, only the mode can object. -/
theorem isPolicy_of_accepts (h : (extract doc spec mode).run = .error e) (accepted : doc.Accepts spec) :
    e.isPolicy = true := by
  rw [extract_error_iff, Backend.accepts_iff.1 accepted, Option.none_or] at h
  obtain ⟨f, -, hf⟩ := List.exists_of_findSome?_eq_some h
  exact Backend.violation?_isPolicy hf

theorem strict_of_policy (h : (extract doc spec mode).run = .error e) (he : e.isPolicy = true) :
    ∃ req, mode = .strict req := by
  cases mode with
  | strict req => exact ⟨req, rfl⟩
  | lenient =>
    have accepted := accepts_of_policy h he
    rw [lenient_error_iff, Backend.accepts_iff.1 accepted] at h
    cases h

end Extraction

theorem exists_first_refused {s : Spec} (d : HtmlDocument)
    (h : ∃ p ∈ s.places, ∃ q, HtmlDocument.compile p.selector = .error q) :
    ∃ before p after q, s.places = before ++ p :: after ∧
      (∀ p' ∈ before, ∃ c, HtmlDocument.compile p'.selector = .ok c) ∧
      HtmlDocument.compile p.selector = .error q := by
  have hrefused : ∃ field column q,
      (extract d.backend s .lenient).run = .error (.selector field column q) :=
    Extraction.extract_refused_iff.2 h
  obtain ⟨field, column, q, hrun⟩ := hrefused
  obtain ⟨before, p, after, hplaces, hbefore, hq, -⟩ :=
    Backend.findSome?_refusal?_eq_some_iff.1 (Extraction.extract_selector_iff.1 hrun)
  exact ⟨before, p, after, q, hplaces, hbefore, hq⟩

theorem extractBytes_of_refused [Charset.Detector] {spec : List UInt8} {s : Spec}
    (hspec : Spec.decode spec = .ok s)
    {before after : List Place} {p : Place} {q : QueryError} (hplaces : s.places = before ++ p :: after)
    (hbefore : ∀ p' ∈ before, ∃ c, HtmlDocument.compile p'.selector = .ok c)
    (hq : HtmlDocument.compile p.selector = .error q) {bytes : List UInt8} {contentType : Option String}
    {r : String × Charset.Encoding} (h : Charset.decode bytes contentType = .ok r)
    (mode : ExtractionMode) :
    extractBytes bytes contentType spec mode = .error (.selector p.field p.column q) := by
  rw [extractBytes_of_decoded hspec h]
  refine Extraction.extract_selector_iff.2 (Backend.findSome?_refusal?_eq_some_iff.2 ?_)
  exact ⟨before, p, after, hplaces, hbefore, hq, rfl, rfl⟩

/-- A failure of one stage is the same whatever the inputs of the later stages are, and it says which
selector or which text is at fault. Only where all earlier stages succeed can the mode object, and these
failures are the violations of its policy. -/
theorem stages_in_order [Charset.Detector] :
    (∀ spec f, Spec.decode spec = .error f → ∀ bytes contentType mode,
      extractBytes bytes contentType spec mode = .error (.spec f)) ∧
    (∀ bytes contentType f, Charset.decode bytes contentType = .error f →
      ∀ spec s, Spec.decode spec = .ok s → ∀ mode,
        extractBytes bytes contentType spec mode = .error (.document f)) ∧
    (∀ spec s, Spec.decode spec = .ok s →
      (∃ p ∈ s.places, ∃ q, HtmlDocument.compile p.selector = .error q) →
      ∃ before p after q, s.places = before ++ p :: after ∧
        (∀ p' ∈ before, ∃ c, HtmlDocument.compile p'.selector = .ok c) ∧
        HtmlDocument.compile p.selector = .error q ∧
        ∀ bytes contentType r, Charset.decode bytes contentType = .ok r → ∀ mode,
          extractBytes bytes contentType spec mode = .error (.selector p.field p.column q)) ∧
    ∀ bytes contentType spec mode e, extractBytes bytes contentType spec mode = .error e →
      (e.isPolicy = true ↔ ∃ s r, Spec.decode spec = .ok s ∧ Charset.decode bytes contentType = .ok r ∧
        ∀ p ∈ s.places, ∃ c, HtmlDocument.compile p.selector = .ok c) ∧
      (e.isPolicy = true → ∃ req, mode = .strict req) := by
  refine ⟨?_, ?_, ?_, ?_⟩
  · intro spec f hspec bytes contentType mode
    exact extractBytes_of_spec_error hspec
  · intro bytes contentType f h spec s hspec mode
    exact extractBytes_of_document_error hspec h
  · intro spec s hspec hrefused
    obtain ⟨before, p, after, q, hplaces, hbefore, hq⟩ := exists_first_refused (.ofText "") hrefused
    refine ⟨before, p, after, q, hplaces, hbefore, hq, fun bytes contentType r h mode => ?_⟩
    exact extractBytes_of_refused hspec hplaces hbefore hq h mode
  · intro bytes contentType spec mode e he
    cases hspec : Spec.decode spec with
    | error f =>
      rw [extractBytes_of_spec_error hspec] at he
      cases he
      simp [ExtractionError.isPolicy]
    | ok s =>
      cases hdoc : Charset.decode bytes contentType with
      | error f =>
        rw [extractBytes_of_document_error hspec hdoc] at he
        cases he
        simp [ExtractionError.isPolicy]
      | ok r =>
        rw [extractBytes_of_decoded hspec hdoc] at he
        refine ⟨⟨fun hpolicy => ?_, ?_⟩, Extraction.strict_of_policy he⟩
        · exact ⟨s, r, rfl, rfl, Extraction.accepts_of_policy he hpolicy⟩
        · rintro ⟨_, _, ⟨⟩, -, accepted⟩
          exact Extraction.isPolicy_of_accepts he accepted

/-- One failure of each stage, each with a fault for all later stages. -/
theorem stages_in_order_faults :
    (∃ f, extractBytes [0xC3] (some "text/html; charset=utf8") [] (.strict true) = .error (.spec f)) ∧
    extractBytes [0xC3] (some "text/html; charset=utf8") (titleText "[") (.strict true) =
      .error (.document ⟨.utf8, "malformed byte sequence"⟩) ∧
    (∃ q, extractBytes [0xC3, 0xA9] none (titleText "[") (.strict true) =
      .error (.selector "title" none q)) ∧
    ∃ s r, Spec.decode (titleText "h1") = .ok s ∧ Charset.decode [0xC3, 0xA9] none = .ok r ∧
      ∀ p ∈ s.places, ∃ c, HtmlDocument.compile p.selector = .ok c := by
  have hfields : (Spec.decode (titleText "[")).toOption.map (·.fields) =
      some [⟨"title", .single "["⟩] := by decide +kernel
  obtain ⟨s, hs, hsfields⟩ := exists_decoded hfields
  have hplaces : s.places = [⟨"title", none, "["⟩] := by rw [Spec.places, hsfields]; rfl
  have hmissing : extractBytes [0xC3, 0xA9] none (titleText "h1") (.strict true) =
      .error (.missing "title" none none) := by decide +kernel
  have hempty : (Spec.decode []).isOk = false := by decide +kernel
  have hbracket : (HtmlDocument.compile "[").isOk = false := by decide +kernel
  have hrefused : ∃ p ∈ s.places, ∃ q, HtmlDocument.compile p.selector = .error q := by
    cases hq : HtmlDocument.compile "[" with
    | ok c => rw [hq] at hbracket; cases hbracket
    | error q => exact ⟨_, hplaces ▸ List.mem_singleton_self _, q, hq⟩
  refine ⟨?_, ?_, ?_, ?_⟩
  · cases hspec : Spec.decode [] with
    | ok t => rw [hspec] at hempty; cases hempty
    | error f => exact ⟨f, stages_in_order.1 [] f hspec _ _ _⟩
  · exact stages_in_order.2.1 _ _ _ (by decide +kernel) _ s hs _
  · obtain ⟨before, p, after, q, hsplit, -, -, hfirst⟩ := stages_in_order.2.2.1 _ s hs hrefused
    have hmem : p ∈ s.places := by simp [hsplit]
    rw [hplaces] at hmem
    cases List.mem_singleton.1 hmem
    exact ⟨q, hfirst _ _ ("é", .utf8) (by decide +kernel) _⟩
  · exact (stages_in_order.2.2.2 _ _ _ _ _ hmissing).1.1 rfl

end Gleaner
