/-! UTF-8 over lists of bytes. A scan marks each malformed stretch once; the strict reading refuses
a text with such a mark, the lenient one puts U+FFFD there. -/
namespace Gleaner.Text.Utf8

/-- What the bytes read so far leave open: nothing, or `need` continuation bytes, the next of them
between `low` and `high`, for the code point begun in `point`. -/
inductive Pending
  | idle
  | tail (need low high point : Nat)
  deriving DecidableEq, Repr

/-- The effect of a byte that begins a character. -/
def lead (b : Nat) : Pending × List (Option Char) :=
  if b < 0x80 then (.idle, [some (Char.ofNat b)])
  else if b < 0xC2 then (.idle, [none])
  else if b < 0xE0 then (.tail 1 0x80 0xBF (b - 0xC0), [])
  else if b < 0xF0 then
    (.tail 2 (if b = 0xE0 then 0xA0 else 0x80) (if b = 0xED then 0x9F else 0xBF) (b - 0xE0), [])
  else if b < 0xF5 then
    (.tail 3 (if b = 0xF0 then 0x90 else 0x80) (if b = 0xF4 then 0x8F else 0xBF) (b - 0xF0), [])
  else (.idle, [none])

/-- A byte out of place ends the broken character and begins a new one. -/
def feed (p : Pending) (byte : UInt8) : Pending × List (Option Char) :=
  let b := byte.toNat
  match p with
  | .idle => lead b
  | .tail need low high point =>
      if low ≤ b ∧ b ≤ high then
        let point := point * 64 + (b - 0x80)
        if need ≤ 1 then (.idle, [some (Char.ofNat point)])
        else (.tail (need - 1) 0x80 0xBF point, [])
      else
        let (p, out) := lead b
        (p, none :: out)

/-- The marks left by an unfinished character at the end. -/
def close : Pending → List (Option Char)
  | .idle => []
  | .tail .. => [none]

/-- The characters of a byte string in order, `none` for each malformed stretch. -/
def scan (bytes : List UInt8) : List (Option Char) :=
  let (p, out) := bytes.foldl (fun (p, out) b =>
    let (p, cs) := feed p b
    (p, cs.reverse ++ out)) (Pending.idle, [])
  (close p ++ out).reverse

/-- The text whose UTF-8 form the bytes are, if there is one. -/
def decode? (bytes : List UInt8) : Option (List Char) :=
  let marks := scan bytes
  if marks.all Option.isSome then some (marks.filterMap id) else none

/-- The text with U+FFFD for each malformed stretch. -/
def decodeLenient (bytes : List UInt8) : List Char :=
  (scan bytes).map (·.getD '\uFFFD')

def encode (s : List Char) : List UInt8 :=
  s.flatMap String.utf8EncodeChar

end Gleaner.Text.Utf8
