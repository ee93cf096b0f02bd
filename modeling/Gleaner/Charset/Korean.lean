import Gleaner.Charset.Decoder
import Gleaner.Charset.Index.Korean

/-! The encoding of Korean. -/
namespace Gleaner.Charset

namespace EucKr

def pair (lead b : Nat) : Option (List Char) :=
  if 0x41 ≤ b ∧ b ≤ 0xFE then
    (Index.korean ((lead - 0x81) * 190 + (b - 0x41))).map fun c => [c]
  else none

end EucKr

def Pairs.eucKr : Pairs := ⟨fun b => 0x81 ≤ b && b ≤ 0xFE, ascii?, EucKr.pair⟩

end Gleaner.Charset
