import Gleaner.Charset.Index.SingleByte

/-! The encodings of documents. -/
namespace Gleaner.Charset

inductive ByteOrder
  | big | little
  deriving DecidableEq, Repr

/-- The encodings that a document can have. `replacement` stands for those that are no longer read, and
`userDefined` keeps the bytes from 0x80 on apart in an area for private use. -/
inductive Encoding
  | utf8
  | utf16 (order : ByteOrder)
  | oneByte (e : OneByte)
  | gbk | gb18030 | big5
  | eucJp | iso2022Jp | shiftJis
  | eucKr
  | replacement | userDefined
  deriving DecidableEq, Repr

namespace Encoding

def name : Encoding → String
  | .utf8 => "UTF-8"
  | .utf16 .big => "UTF-16BE"
  | .utf16 .little => "UTF-16LE"
  | .oneByte e => e.name
  | .gbk => "GBK"
  | .gb18030 => "gb18030"
  | .big5 => "Big5"
  | .eucJp => "EUC-JP"
  | .iso2022Jp => "ISO-2022-JP"
  | .shiftJis => "Shift_JIS"
  | .eucKr => "EUC-KR"
  | .replacement => "replacement"
  | .userDefined => "x-user-defined"

/-- Whether a declaration in ASCII can stand in a document of this encoding. -/
def readsAscii : Encoding → Bool
  | .utf16 _ | .replacement => false
  | _ => true

/-- The encoding itself if it can hold a declaration, and UTF-8 otherwise. -/
def declared (e : Encoding) : Encoding :=
  if e.readsAscii then e else .utf8

end Encoding

/-- The bytes of a document are no text in the encoding `encoding`. -/
structure DecodeError where
  encoding : Encoding
  reason : String
  deriving DecidableEq, Repr

def DecodeError.message (e : DecodeError) : String :=
  "document is not valid " ++ e.encoding.name ++ ": " ++ e.reason

end Gleaner.Charset
