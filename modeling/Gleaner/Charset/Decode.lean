import Gleaner.Charset.Chinese
import Gleaner.Charset.Japanese
import Gleaner.Charset.Korean
import Gleaner.Charset.Unicode
import Gleaner.Text.Utf8

/-! The text of a byte string in a given encoding. -/
namespace Gleaner.Charset

/-- A decoder that has nothing open between two bytes. -/
def Decoder.bytewise (char : Nat → Option Char) : Decoder Unit where
  start := ()
  feed _ byte := (char byte.toNat).map fun c => ((), [c])
  rests _ := true

/-- The character of a byte in an encoding with that upper half. -/
def oneByteChar (table : Index.Table) (b : Nat) : Option Char :=
  (ascii? b).or (table.get? (b - 0x80))

/-- The bytes from 0x80 on, kept apart in an area for private use. -/
def kept (b : Nat) : Char :=
  Char.ofNat (if b < 0x80 then b else 0xF780 + (b - 0x80))

namespace Encoding

/-- The text of the bytes, if they are well formed in the encoding. -/
def decode? (e : Encoding) (bytes : List UInt8) : Option (List Char) :=
  match e with
  | .utf8 => Text.Utf8.decode? bytes
  | .utf16 order => (Decoder.utf16 order).decode? bytes
  | .oneByte e =>
      let table := e.table
      (Decoder.bytewise (oneByteChar table)).decode? bytes
  | .gbk | .gb18030 => Decoder.gb18030.decode? bytes
  | .big5 => Pairs.big5.decoder.decode? bytes
  | .eucJp => Decoder.eucJp.decode? bytes
  | .iso2022Jp => Decoder.iso2022Jp.decode? bytes
  | .shiftJis => Pairs.shiftJis.decoder.decode? bytes
  | .eucKr => Pairs.eucKr.decoder.decode? bytes
  | .replacement => (Decoder.bytewise fun _ => none).decode? bytes
  | .userDefined => (Decoder.bytewise fun b => some (kept b)).decode? bytes

end Encoding

end Gleaner.Charset
