/-! Blank characters: those with the Unicode property White_Space, which is what a trim removes. -/
namespace Gleaner.Text

/-- The 25 characters with the property White_Space. -/
def isBlank (c : Char) : Bool :=
  let n := c.toNat
  (0x09 ≤ n && n ≤ 0x0D) || n == 0x20 || n == 0x85 || n == 0xA0 || n == 0x1680 ||
  (0x2000 ≤ n && n ≤ 0x200A) || n == 0x2028 || n == 0x2029 || n == 0x202F || n == 0x205F ||
  n == 0x3000

/-- The blanks below U+0080 that separate tokens in markup and in headers. -/
def isSpace (c : Char) : Bool :=
  c == ' ' || c == '\t' || c == '\n' || c == '\x0C' || c == '\r'

def trimEnd (s : List Char) : List Char :=
  (s.reverse.dropWhile isBlank).reverse

/-- The text without the blanks at either end. -/
def trim (s : List Char) : List Char :=
  trimEnd (s.dropWhile isBlank)

/-- True of a text that holds nothing but blanks, the empty one included. -/
def allBlank (s : String) : Bool :=
  s.toList.all isBlank

/-- The maximal runs of characters outside `sep`, in order. -/
def wordsBy (sep : Char → Bool) (s : List Char) : List (List Char) :=
  let (words, last) := s.foldl (fun (words, word) c =>
    if sep c then (if word.isEmpty then words else word.reverse :: words, [])
    else (words, c :: word)) (([] : List (List Char)), ([] : List Char))
  (if last.isEmpty then words else last.reverse :: words).reverse

/-- Lower case in the letters A to Z, every other character unchanged. -/
def asciiLower (s : String) : String :=
  String.ofList (s.toList.map Char.toLower)

/-- Equality up to the case of the letters A to Z. -/
def sameAsciiCaseless (s t : String) : Bool :=
  asciiLower s == asciiLower t

end Gleaner.Text
