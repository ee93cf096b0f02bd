import Gleaner.Charset.Decode
import Gleaner.Proofs.Charset.Chinese
import Gleaner.Proofs.Charset.Japanese
import Gleaner.Proofs.Charset.Unicode
import Gleaner.Proofs.Text.Utf8.Decode
import Mathlib.Data.List.Forall2

/-! The texts that bytes stand for in an encoding. -/
namespace Gleaner.Charset

open List (Forall₂)

theorem Decoder.bytewise_decode?_eq_some_iff {char : Nat → Option Char} {bytes : List UInt8}
    {text : List Char} :
    (Decoder.bytewise char).decode? bytes = some text ↔
      Forall₂ (fun c b => char b.toNat = some c) text bytes := by
  have hrun : ∀ t, (Decoder.bytewise char).Run () bytes text t ↔
      Forall₂ (fun c b => char b.toNat = some c) text bytes := by
    intro t
    induction bytes generalizing text with
    | nil =>
      constructor
      · rintro ⟨⟩
        exact .nil
      · rintro ⟨⟩
        exact .nil _
    | cons b bytes ih =>
      constructor
      · rintro ⟨⟩
        next s' w text hfeed hrest =>
          obtain ⟨c, hc, heq⟩ := Option.map_eq_some_iff.1 hfeed
          cases heq
          exact .cons hc (ih.1 hrest)
      · rintro ⟨⟩
        next c text hc hrest =>
          have hfeed : (Decoder.bytewise char).feed () b = some ((), [c]) := by
            simp [Decoder.bytewise, hc]
          exact .cons hfeed (ih.2 hrest)
  rw [Decoder.decode?_eq_some_iff]
  exact ⟨fun ⟨t, h, _⟩ => (hrun t).1 h, fun h => ⟨(), (hrun ()).2 h, rfl⟩⟩

namespace Encoding

/-- The bytes stand for the text in the encoding, without anything malformed. -/
def Writes (e : Encoding) (text : List Char) (bytes : List UInt8) : Prop :=
  match e with
  | .utf8 => bytes = Text.Utf8.encode text
  | .utf16 order => bytes = text.flatMap (OpenUnits.charBytes order)
  | .oneByte e => Forall₂ (fun c b => oneByteChar e.table b.toNat = some c) text bytes
  | .gbk | .gb18030 => (Codes.plain Gb18030.Code).Write () text bytes
  | .big5 => (Codes.plain Pairs.big5.Code).Write () text bytes
  | .eucJp => (Codes.plain EucJp.Code).Write () text bytes
  | .iso2022Jp => Codes.Write Iso2022Jp.Code (.ascii, false) text bytes
  | .shiftJis => (Codes.plain Pairs.shiftJis.Code).Write () text bytes
  | .eucKr => (Codes.plain Pairs.eucKr.Code).Write () text bytes
  | .replacement => text = [] ∧ bytes = []
  | .userDefined => text = bytes.map fun b => kept b.toNat

theorem decode?_eq_some_iff {e : Encoding} {bytes : List UInt8} {text : List Char} :
    e.decode? bytes = some text ↔ e.Writes text bytes := by
  cases e with
  | utf8 => exact Text.Utf8.decode?_eq_some_iff
  | utf16 => exact Decoder.utf16_decode?_eq_some_iff
  | oneByte => exact Decoder.bytewise_decode?_eq_some_iff
  | gbk | gb18030 => exact Gb18030.decoder_follows.decode?_eq_some_iff
  | big5 => exact Pairs.big5.decoder_follows.decode?_eq_some_iff
  | eucJp => exact EucJp.decoder_follows.decode?_eq_some_iff
  | iso2022Jp => exact Iso2022Jp.decoder_follows.decode?_eq_some_iff
  | shiftJis => exact Pairs.shiftJis.decoder_follows.decode?_eq_some_iff
  | eucKr => exact Pairs.eucKr.decoder_follows.decode?_eq_some_iff
  | replacement =>
    refine Decoder.bytewise_decode?_eq_some_iff.trans ⟨?_, ?_⟩
    · rintro ⟨⟩
      · exact ⟨rfl, rfl⟩
      · contradiction
    · rintro ⟨rfl, rfl⟩
      exact .nil
  | userDefined =>
    refine Decoder.bytewise_decode?_eq_some_iff.trans ?_
    rw [Writes, ← congr_fun₂ List.forall₂_eq_eq_eq, List.forall₂_map_right_iff]
    simp only [Option.some.injEq, eq_comm]

/-- Bytes stand for at most one text. -/
theorem Writes.unique {e : Encoding} {bytes : List UInt8} {text text' : List Char}
    (h : e.Writes text bytes) (h' : e.Writes text' bytes) : text = text' :=
  Option.some.inj ((decode?_eq_some_iff.2 h).symm.trans (decode?_eq_some_iff.2 h'))

theorem decode?_eq_none_iff {e : Encoding} {bytes : List UInt8} :
    e.decode? bytes = none ↔ ¬∃ text, e.Writes text bytes := by
  simp only [Option.eq_none_iff_forall_ne_some, ne_eq, decode?_eq_some_iff, not_exists]

end Encoding

end Gleaner.Charset
