import Gleaner.Charset.Declaration
import Gleaner.Charset.Detector

/-! The text of a document whose encoding has to be found out. A byte order mark decides before the content
type, the content type before a tag of the document, and a tag before the detector. -/
namespace Gleaner.Charset

/-- The byte order marks. None is a beginning of another one. -/
def marks : List (Encoding × List UInt8) :=
  [(.utf8, [0xEF, 0xBB, 0xBF]), (.utf16 .big, [0xFE, 0xFF]), (.utf16 .little, [0xFF, 0xFE])]

/-- The encoding of a byte order mark at the start, with the bytes after it. -/
def afterMark? (bytes : List UInt8) : Option (Encoding × List UInt8) :=
  marks.findSome? fun m => (List.isPrefixOf? m.2 bytes).map fun rest => (m.1, rest)

section Detector

variable [Detector]

/-- The encoding that is said or, where nothing is said, the one that the bytes are taken to be in. -/
def encodingOf (bytes : List UInt8) (contentType : Option String) : Encoding :=
  ((contentType.bind fun t => declaredIn? t.toList).or (declaredAtTop? bytes)).getD
    (Detector.guess bytes)

/-- The encoding of a document and the bytes to be read in it. -/
def encoded (bytes : List UInt8) (contentType : Option String) : Encoding × List UInt8 :=
  (afterMark? bytes).getD (encodingOf bytes contentType, bytes)

/-- The text of a document with its encoding. -/
def decode (bytes : List UInt8) (contentType : Option String) :
    Except DecodeError (String × Encoding) :=
  let (encoding, body) := encoded bytes contentType
  match encoding.decode? body with
  | some text => .ok (String.ofList text, encoding)
  | none => .error ⟨encoding, "malformed byte sequence"⟩

end Detector

end Gleaner.Charset
