import Gleaner.Charset.Decode

/-! Finding out the encoding of bytes about which nothing is said. How this is done is left open; it is what
everything that reads such bytes has as a parameter. -/
namespace Gleaner.Charset

class Detector where
  guess : List UInt8 → Encoding

/-- Bytes that may be ISO-2022-JP: all are ASCII, and some begin an escape sequence. -/
def hasEscapes (bytes : List UInt8) : Bool := bytes.all (· < 0x80) && bytes.contains 0x1B

/-- A detector for the program to run with. What is neither UTF-8 nor in escape sequences it takes for the
one-byte encoding that is most used. -/
instance likelyEncoding : Detector where
  guess bytes :=
    if hasEscapes bytes && (Encoding.iso2022Jp.decode? bytes).isSome then .iso2022Jp
    else if (Text.Utf8.decode? bytes).isSome then .utf8
    else .oneByte .windows1252

end Gleaner.Charset
