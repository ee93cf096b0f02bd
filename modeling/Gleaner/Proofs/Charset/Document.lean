import Gleaner.Charset.Document
import Gleaner.Proofs.Charset.Encoding
import Gleaner.Proofs.Charset.Tags

/-! Which encoding a document is read in, and what comes of it. -/
namespace Gleaner.Charset

/-- What reading the bytes in the encoding comes to: their text, or an error that names the encoding. -/
def ReadIn (e : Encoding) (bytes : List UInt8) (r : Except DecodeError (String × Encoding)) : Prop :=
  (∃ text, e.Writes text bytes ∧ r = .ok (String.ofList text, e)) ∨
    (¬∃ text, e.Writes text bytes) ∧ r = .error ⟨e, "malformed byte sequence"⟩

/-- No byte order mark stands at the start. -/
def Unmarked (bytes : List UInt8) : Prop := ∀ m ∈ marks, ∀ body, bytes ≠ m.2 ++ body

/-- The first label of the content type names the encoding. -/
def NamedBy (contentType : Option String) (e : Encoding) : Prop :=
  ∃ t, contentType = some t ∧ Names t.toList e

theorem ReadIn.unique {e : Encoding} {bytes : List UInt8}
    {r r' : Except DecodeError (String × Encoding)} (h : ReadIn e bytes r) (h' : ReadIn e bytes r') :
    r = r' := by
  rcases h with ⟨text, htext, rfl⟩ | ⟨hnone, rfl⟩
  · rcases h' with ⟨text', htext', rfl⟩ | ⟨hnone, -⟩
    · rw [htext.unique htext']
    · exact absurd ⟨text, htext⟩ hnone
  · rcases h' with ⟨text, htext, -⟩ | ⟨-, rfl⟩
    · exact absurd ⟨text, htext⟩ hnone
    · rfl

/-! Byte order marks. -/

theorem afterMark?_append {m : Encoding × List UInt8} (hm : m ∈ marks) (body : List UInt8) :
    afterMark? (m.2 ++ body) = some (m.1, body) := by
  simp only [marks, List.mem_cons, List.not_mem_nil, or_false] at hm
  rcases hm with rfl | rfl | rfl <;> rfl

theorem afterMark?_eq_none_iff {bytes : List UInt8} : afterMark? bytes = none ↔ Unmarked bytes := by
  simp only [afterMark?, List.findSome?_eq_none_iff, Option.map_eq_none_iff, Unmarked]
  simp only [Option.eq_none_iff_forall_ne_some, ne_eq, List.isPrefixOf?_eq_some_iff_append_eq]
  exact forall₃_congr fun m _ body => not_congr eq_comm

/-! The encoding of a document. -/

theorem namedBy_iff {contentType : Option String} {e : Encoding} :
    NamedBy contentType e ↔ (contentType.bind fun t => declaredIn? t.toList) = some e := by
  simp only [NamedBy, Option.bind_eq_some_iff, declaredIn?_eq_some_iff]

theorem not_namedBy_none (e : Encoding) : ¬NamedBy none e := by
  rintro ⟨_, ⟨⟩, -⟩

theorem declaredAtTop?_eq_none_iff {bytes : List UInt8} :
    declaredAtTop? bytes = none ↔ ∀ e, ¬DeclaresAtTop bytes e := by
  constructor
  · intro hnone e he
    cases hnone.symm.trans (declaredAtTop?_eq_some_iff.2 ⟨e, he, rfl⟩)
  · intro h
    rw [Option.eq_none_iff_forall_ne_some]
    intro e he
    obtain ⟨named, hnamed, -⟩ := declaredAtTop?_eq_some_iff.1 he
    exact h named hnamed

/-- The bytes are likely to be in the encoding: UTF-8 if they are well formed in it, else windows-1252. -/
def Likely (bytes : List UInt8) (e : Encoding) : Prop :=
  (∃ text, bytes = Text.Utf8.encode text) ∧ e = .utf8 ∨
    (¬∃ text, bytes = Text.Utf8.encode text) ∧ e = .oneByte .windows1252

section Detector

variable [Detector]

theorem readIn_encoded (bytes : List UInt8) (contentType : Option String) :
    ReadIn (encoded bytes contentType).1 (encoded bytes contentType).2 (decode bytes contentType) := by
  rw [decode]
  generalize encoded bytes contentType = r
  obtain ⟨e, body⟩ := r
  cases h : e.decode? body with
  | some text => exact .inl ⟨text, Encoding.decode?_eq_some_iff.1 h, by simp [h]⟩
  | none => exact .inr ⟨Encoding.decode?_eq_none_iff.1 h, by simp [h]⟩

theorem readIn_of_mark {m : Encoding × List UInt8} (hm : m ∈ marks) (body : List UInt8)
    (contentType : Option String) : ReadIn m.1 body (decode (m.2 ++ body) contentType) := by
  have h := readIn_encoded (m.2 ++ body) contentType
  rwa [encoded, afterMark?_append hm] at h

theorem Unmarked.readIn {bytes : List UInt8} (h : Unmarked bytes) (contentType : Option String) :
    ReadIn (encodingOf bytes contentType) bytes (decode bytes contentType) := by
  have hread := readIn_encoded bytes contentType
  rwa [encoded, afterMark?_eq_none_iff.2 h] at hread

theorem encodingOf_of_namedBy {contentType : Option String} {e : Encoding}
    (h : NamedBy contentType e) (bytes : List UInt8) : encodingOf bytes contentType = e := by
  rw [encodingOf, namedBy_iff.1 h]
  rfl

theorem encodingOf_of_not_namedBy {contentType : Option String} (h : ∀ e, ¬NamedBy contentType e)
    (bytes : List UInt8) :
    encodingOf bytes contentType = (declaredAtTop? bytes).getD (Detector.guess bytes) := by
  simp only [namedBy_iff, ← ne_eq, ← Option.eq_none_iff_forall_ne_some] at h
  rw [encodingOf, h, Option.none_or]

theorem encodingOf_of_undeclared {bytes : List UInt8} {contentType : Option String}
    (hnone : ∀ e, ¬NamedBy contentType e) (htop : ∀ e, ¬DeclaresAtTop bytes e) :
    encodingOf bytes contentType = Detector.guess bytes := by
  rw [encodingOf_of_not_namedBy hnone, declaredAtTop?_eq_none_iff.2 htop, Option.getD_none]

/-- A byte order mark decides before a content type, a content type before a tag, and a tag before the
detector, which is expected to find UTF-8 or windows-1252. Whatever decides, the document is read in that one
encoding, and a failure names it. -/
theorem encoding_precedence (bytes : List UInt8) :
    (∀ m ∈ marks, ∀ body, bytes = m.2 ++ body →
      ∀ contentType, ReadIn m.1 body (decode bytes contentType)) ∧
    (Unmarked bytes →
      (∀ contentType e, NamedBy contentType e → ReadIn e bytes (decode bytes contentType)) ∧
      ∀ contentType, (∀ e, ¬NamedBy contentType e) →
        decode bytes contentType = decode bytes none ∧
        (∀ e, DeclaresAtTop bytes e → ReadIn e.declared bytes (decode bytes contentType)) ∧
        ((∀ e, ¬DeclaresAtTop bytes e) →
          ReadIn (Detector.guess bytes) bytes (decode bytes contentType) ∧
          (Likely bytes (Detector.guess bytes) →
            ((∃ text, bytes = Text.Utf8.encode text) →
              ReadIn .utf8 bytes (decode bytes contentType)) ∧
            ((¬∃ text, bytes = Text.Utf8.encode text) →
              ReadIn (.oneByte .windows1252) bytes (decode bytes contentType))))) ∧
    ∀ e body r r', ReadIn e body r → ReadIn e body r' → r = r' := by
  refine ⟨?_, fun hunmarked => ⟨?_, fun contentType hnone => ?_⟩, fun _ _ _ _ h h' => h.unique h'⟩
  · rintro m hm body rfl contentType
    exact readIn_of_mark hm body contentType
  · intro contentType e he
    have hread := hunmarked.readIn contentType
    rwa [encodingOf_of_namedBy he] at hread
  · have hread := hunmarked.readIn contentType
    rw [encodingOf_of_not_namedBy hnone] at hread
    refine ⟨?_, ?_, fun htop => ?_⟩
    · have hread' := hunmarked.readIn none
      rw [encodingOf_of_not_namedBy not_namedBy_none] at hread'
      exact hread.unique hread'
    · intro e he
      rwa [declaredAtTop?_eq_some_iff.2 ⟨e, he, rfl⟩] at hread
    · rw [declaredAtTop?_eq_none_iff.2 htop, Option.getD_none] at hread
      refine ⟨hread, ?_⟩
      rintro (⟨hwell, hguess⟩ | ⟨hnot, hguess⟩)
      · exact ⟨fun _ => hguess ▸ hread, fun hnot => absurd hwell hnot⟩
      · exact ⟨fun hwell => absurd hwell hnot, fun _ => hguess ▸ hread⟩

end Detector

/-- Where there are no escape sequences the detector of the program finds what is likely. -/
theorem likely_guess {bytes : List UInt8} (h : hasEscapes bytes = false) :
    Likely bytes (Detector.guess bytes) := by
  have hguess : Detector.guess bytes =
      if (Text.Utf8.decode? bytes).isSome then Encoding.utf8 else .oneByte .windows1252 :=
    if_neg (by simp [h])
  by_cases hwell : ∃ text, bytes = Text.Utf8.encode text
  · exact .inl ⟨hwell, hguess.trans (if_pos (Text.Utf8.decode?_isSome_iff.2 hwell))⟩
  · exact .inr ⟨hwell, hguess.trans (if_neg (Text.Utf8.decode?_isSome_iff.not.2 hwell))⟩

/-- The tag names the encoding of the letter after it, whose byte is not ASCII. -/
def taggedDocument : List UInt8 := Text.Utf8.encode "<meta charset=KOI8-R>".toList ++ [0xC1]

theorem encoding_precedence_samples :
    ReadIn (.utf16 .big) [0x00, 0x41]
      (decode [0xFE, 0xFF, 0x00, 0x41] (some "text/html; charset=latin1")) ∧
    ReadIn .utf8 [0x43, 0xE9] (decode [0x43, 0xE9] (some "text/html; CHARSET = 'utf8'")) ∧
    ReadIn (.oneByte .koi8r) taggedDocument
      (decode taggedDocument (some "text/html; charset=nonsense")) ∧
    ReadIn (.oneByte .windows1252) [0x43, 0xE9] (decode [0x43, 0xE9] none) := by
  have htagged : Unmarked taggedDocument := afterMark?_eq_none_iff.1 (by decide +kernel)
  have hplain : Unmarked [0x43, 0xE9] := afterMark?_eq_none_iff.1 (by decide +kernel)
  refine ⟨?_, ?_, ?_, ?_⟩
  · exact (encoding_precedence _).1 (.utf16 .big, [0xFE, 0xFF]) (by decide) _ rfl _
  · exact ((encoding_precedence _).2.1 hplain).1 _ _ (namedBy_iff.2 (by decide +kernel))
  · have hunnamed : ∀ e, ¬NamedBy (some "text/html; charset=nonsense") e := by
      intro e he
      have hnone : ((some "text/html; charset=nonsense").bind fun t : String =>
          declaredIn? t.toList) = none := by decide +kernel
      cases hnone.symm.trans (namedBy_iff.1 he)
    have htop : declaredAtTop? taggedDocument = some (.oneByte .koi8r) := by decide +kernel
    obtain ⟨named, hnamed, heq⟩ := declaredAtTop?_eq_some_iff.1 htop
    exact heq ▸ (((encoding_precedence _).2.1 htagged).2 _ hunnamed).2.1 named hnamed
  · have htop : ∀ e, ¬DeclaresAtTop [0x43, 0xE9] e := declaredAtTop?_eq_none_iff.1 (by decide +kernel)
    have hshape : ¬∃ text, [0x43, 0xE9] = Text.Utf8.encode text :=
      Text.Utf8.decode?_isSome_iff.not.1 (by decide +kernel)
    have hsilent := (((encoding_precedence _).2.1 hplain).2 none not_namedBy_none).2.2 htop
    exact (hsilent.2 (likely_guess rfl)).2 hshape

end Gleaner.Charset
