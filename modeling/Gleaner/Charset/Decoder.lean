/-! Decoders: machines that take one byte at a time. -/
namespace Gleaner.Charset

/-- A decoder with the states `σ`. -/
structure Decoder (σ : Type) where
  start : σ
  /-- The state after a byte, with the characters that it completes; nothing for a byte out of place. -/
  feed : σ → UInt8 → Option (σ × List Char)
  /-- Whether the bytes may end in that state. -/
  rests : σ → Bool

namespace Decoder

variable {σ : Type}

/-- One step of a run, which collects the characters from the last to the first. -/
def step (d : Decoder σ) (s : σ × List Char) (b : UInt8) : Option (σ × List Char) :=
  (d.feed s.1 b).map fun r => (r.1, r.2.reverse ++ s.2)

/-- The text of the bytes, if they are well formed. -/
def decode? (d : Decoder σ) (bytes : List UInt8) : Option (List Char) :=
  match bytes.foldlM d.step (d.start, []) with
  | some (s, read) => if d.rests s then some read.reverse else none
  | none => none

end Decoder

/-- Encodings in which a character takes one byte or two. -/
structure Pairs where
  isLead : Nat → Bool
  single : Nat → Option Char
  pair : Nat → Nat → Option (List Char)

/-- The state holds the first byte of an unfinished pair. -/
def Pairs.decoder (p : Pairs) : Decoder (Option Nat) where
  start := none
  feed
    | none, byte =>
        let b := byte.toNat
        if p.isLead b then some (some b, []) else (p.single b).map fun c => (none, [c])
    | some lead, byte => (p.pair lead byte.toNat).map fun cs => (none, cs)
  rests := Option.isNone

/-- The character of a byte below 0x80. -/
def ascii? (b : Nat) : Option Char :=
  if b < 0x80 then some (Char.ofNat b) else none

end Gleaner.Charset
