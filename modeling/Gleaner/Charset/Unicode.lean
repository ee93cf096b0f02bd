import Gleaner.Charset.Decoder
import Gleaner.Charset.Encoding

/-! The encoding with units of two bytes. -/
namespace Gleaner.Charset

/-- What is open between two bytes: the first byte of a unit, and the high unit of a pair. -/
structure OpenUnits where
  byte : Option Nat := none
  high : Option Nat := none
  deriving DecidableEq, Repr

/-- The unit `n` after what is open: a character, the first half of a pair or its second half. -/
def OpenUnits.unit (high : Option Nat) (n : Nat) : Option (OpenUnits × List Char) :=
  let isHigh := 0xD800 ≤ n ∧ n < 0xDC00
  let isLow := 0xDC00 ≤ n ∧ n < 0xE000
  match high with
  | none =>
      if isHigh then some (⟨none, some n⟩, [])
      else if isLow then none
      else some (⟨none, none⟩, [Char.ofNat n])
  | some high =>
      if isLow then
        some (⟨none, none⟩, [Char.ofNat (0x10000 + (high - 0xD800) * 0x400 + (n - 0xDC00))])
      else none

def Decoder.utf16 (order : ByteOrder) : Decoder OpenUnits where
  start := {}
  feed s byte :=
    match s.byte, order with
    | none, _ => some ({ s with byte := some byte.toNat }, [])
    | some first, .big => OpenUnits.unit s.high (first * 0x100 + byte.toNat)
    | some first, .little => OpenUnits.unit s.high (byte.toNat * 0x100 + first)
  rests s := s.byte.isNone && s.high.isNone

end Gleaner.Charset
