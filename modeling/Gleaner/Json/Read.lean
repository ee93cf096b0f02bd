import Gleaner.Json.Reader
import Gleaner.Json.Value
import Gleaner.Text.Utf8

/-! Reading the JSON grammar: texts, numbers, and values of any kind. -/
namespace Gleaner.Json.Reader

/-! Texts. -/

/-- A text being read: its characters, the last first, the UTF-8 character that is not complete yet
with the position of its first byte, and where the first malformed one began. -/
structure Quotation where
  chars : List Char := []
  pending : Text.Utf8.Pending := .idle
  begun : Position := {}
  bad : Option Position := none

namespace Quotation

/-- A malformed character that began before the position counts only if none did before it. -/
def markBad (q : Quotation) (p : Position) : Quotation :=
  { q with bad := q.bad.or (some p) }

/-- Ends the incomplete character, if there is one. -/
def settle (q : Quotation) : Quotation :=
  match q.pending with
  | .idle => q
  | .tail .. => { q.markBad q.begun with pending := .idle }

/-- Adds one byte that stands at `p`. -/
def addByte (q : Quotation) (b : UInt8) (p : Position) : Quotation :=
  let begun := match q.pending with
    | .idle => p
    | .tail .. => q.begun
  let (pending, marks) := Text.Utf8.feed q.pending b
  let q := { q with pending := pending, begun := begun }
  match marks with
  | [] => q
  | [some c] => { q with chars := c :: q.chars }
  | none :: some c :: _ => { q.markBad begun with chars := c :: q.chars }
  | none :: _ => { q.markBad begun with begun := p }
  | some c :: _ => { q with chars := c :: q.chars }

def addChar (q : Quotation) (c : Char) : Quotation :=
  let q := q.settle
  { q with chars := c :: q.chars }

end Quotation

def hexValue? (b : UInt8) : Option Nat :=
  let n := b.toNat
  if 0x30 ≤ n ∧ n ≤ 0x39 then some (n - 0x30)
  else if 0x41 ≤ n ∧ n ≤ 0x46 then some (n - 0x37)
  else if 0x61 ≤ n ∧ n ≤ 0x66 then some (n - 0x57)
  else none

/-- Four hexadecimal digits; what is left is taken if there are fewer bytes. -/
def fourHex : Reader Nat := fun c =>
  match c.rest with
  | x :: y :: z :: w :: _ =>
      let c := c.advance.advance.advance.advance
      match hexValue? x, hexValue? y, hexValue? z, hexValue? w with
      | some x, some y, some z, some w => .ok (((x * 16 + y) * 16 + z) * 16 + w) c
      | _, _, _, _ => fail .badEscape c
  | _ => fail .endInString c.advance.advance.advance

/-- The next byte of a text, which must not end here. -/
def nextInString : Reader UInt8 := do
  match ← next with
  | none => fail .endInString
  | some b => pure b

def expectInPair (b : UInt8) : Reader Unit := do
  if (← nextInString) ≠ b then fail .brokenSurrogate

/-- The rest of an escape by number. A character above U+FFFF takes two of them. -/
def unicodeEscape : Reader Char := do
  let n ← fourHex
  if 0xDC00 ≤ n ∧ n ≤ 0xDFFF then fail .loneSurrogate
  else if 0xD800 ≤ n ∧ n ≤ 0xDBFF then do
    expectInPair 0x5C
    expectInPair 0x75
    let m ← fourHex
    if 0xDC00 ≤ m ∧ m ≤ 0xDFFF then
      pure (Char.ofNat (0x10000 + (n - 0xD800) * 0x400 + (m - 0xDC00)))
    else fail .loneSurrogate
  else pure (Char.ofNat n)

/-- The character of an escape whose backslash is taken. -/
def escapeChar : Reader Char := do
  let b ← nextInString
  match b.toNat with
  | 0x22 => pure '"'
  | 0x5C => pure '\\'
  | 0x2F => pure '/'
  | 0x62 => pure '\x08'
  | 0x66 => pure '\x0C'
  | 0x6E => pure '\n'
  | 0x72 => pure '\r'
  | 0x74 => pure '\t'
  | 0x75 => unicodeEscape
  | _ => fail .badEscape

/-- The text of a finished quotation. -/
def quotationEnd (q : Quotation) : Reader String :=
  match q.settle.bad with
  | some p => fun c =>
      .error ⟨.inSyntax .badCodePoint, some ⟨p.line, p.column + 1⟩, []⟩ c
  | none => pure (String.ofList q.chars.reverse)

def stringLoop : Nat → Quotation → Reader String
  | 0, _ => fail .endInString
  | fuel + 1, q => fun c =>
      match c.rest with
      | [] => fail .endInString c
      | b :: _ =>
          if b = 0x22 then quotationEnd q c.advance
          else if b = 0x5C then
            (do
              let x ← escapeChar
              stringLoop fuel (q.addChar x)) c.advance
          else if b < 0x20 then fail .controlCharacter c.advance
          else stringLoop fuel (q.addByte b c.position) c.advance

/-- A text whose first quote is taken. -/
def stringRest : Reader String := do
  let n ← remaining
  stringLoop (n + 1) {}

/-! Numbers. -/

def digit? (b : Option UInt8) : Option Nat :=
  match b with
  | some b => if 0x30 ≤ b ∧ b ≤ 0x39 then some (b.toNat - 0x30) else none
  | none => none

def isExponent (b : Option UInt8) : Bool := b == some 0x65 || b == some 0x45

def skipDigits : Nat → Reader Unit
  | 0 => pure ()
  | fuel + 1 => do
      if (digit? (← peek)).isSome then
        advance
        skipDigits fuel

def signed (positive : Bool) (f : Float) : UInt64 := (if positive then f else -f).toBits

def powerOfTen (n : Nat) : Float := Float.ofScientific 1 false n

/-- The double nearest to the whole number, times or divided by a power of ten; none if that is too large.
Very small powers are applied in steps. -/
def scaleDouble? (positive : Bool) (f : Float) (exponent : Int) : Nat → Option UInt64
  | 0 => some (signed positive 0.0)
  | steps + 1 =>
      if exponent.natAbs ≤ 308 then
        if 0 ≤ exponent then
          let f := f * powerOfTen exponent.natAbs
          if f.isInf then none else some (signed positive f)
        else some (signed positive (f / powerOfTen exponent.natAbs))
      else if f == 0.0 then some (signed positive f)
      else if 0 ≤ exponent then none
      else scaleDouble? positive (f / powerOfTen 308) (exponent + 308) steps

def double? (positive : Bool) (significand : Nat) (exponent : Int) : Option Number :=
  (scaleDouble? positive significand.toUInt64.toFloat exponent 8).map .float

/-- A number that must not be too large. -/
def inRange : Option Number → Reader Number
  | some n => pure n
  | none => fail .numberTooLarge

/-- Exponents are counted up to this bound. -/
def exponentBound : Nat := 2147483647

def exponentDigits (n : Nat) : Nat → Reader (Option Nat)
  | 0 => pure (some n)
  | fuel + 1 => do
      match digit? (← peek) with
      | none => pure (some n)
      | some d =>
          advance
          if exponentBound < n * 10 + d then pure none else exponentDigits (n * 10 + d) fuel

/-- The digits of an exponent, whose sign is taken; `up` says that it is not negative. -/
def exponentValue (positive : Bool) (significand : Nat) (start : Int) (up : Bool) :
    Reader Number := do
  match ← next with
  | none => fail .endInValue
  | some b =>
      match digit? (some b) with
      | none => fail .badNumber
      | some d =>
          match ← exponentDigits d (← remaining) with
          | some n => inRange (double? positive significand (if up then start + n else start - n))
          | none =>
              if up && significand != 0 then fail .numberTooLarge
              else
                skipDigits (← remaining)
                pure (.float (signed positive 0.0))

/-- The exponent of a number, its letter included. -/
def exponentPart (positive : Bool) (significand : Nat) (start : Int) : Reader Number := do
  advance
  let sign ← peek
  if sign == some 0x2B || sign == some 0x2D then
    advance
    exponentValue positive significand start (sign == some 0x2B)
  else exponentValue positive significand start true

/-- What may stand behind the digits after the point. -/
def fractionEnd (positive : Bool) (significand : Nat) (exponent : Int) : Reader Number := do
  if isExponent (← peek) then exponentPart positive significand exponent
  else inRange (double? positive significand exponent)

/-- Digits after the point, as long as the significand fits in 64 bits; the others do not count. -/
def fractionDigits (significand : Nat) (exponent : Int) : Nat → Reader (Nat × Int)
  | 0 => pure (significand, exponent)
  | fuel + 1 => do
      match digit? (← peek) with
      | none => pure (significand, exponent)
      | some d =>
          if 0x10000000000000000 ≤ significand * 10 + d then
            skipDigits fuel
            pure (significand, exponent)
          else
            advance
            fractionDigits (significand * 10 + d) (exponent - 1) fuel

def fractionPart (positive : Bool) (significand : Nat) (start : Int) : Reader Number := do
  advance
  match digit? (← peek) with
  | none => if (← peek).isSome then failNext .badNumber else failNext .endInValue
  | some _ =>
      let (significand, exponent) ← fractionDigits significand start ((← remaining) + 1)
      fractionEnd positive significand exponent

/-- What may stand behind the digits of a whole number; `plain` is the number if nothing does. -/
def wholeEnd (plain : Option Number) (positive : Bool) (significand : Nat) (exponent : Int) :
    Reader Number := do
  let b ← peek
  if b == some 0x2E then fractionPart positive significand exponent
  else if isExponent b then exponentPart positive significand exponent
  else inRange plain

/-- The digits of a whole number that does not fit in 64 bits count as a power of ten. -/
def longInteger (positive : Bool) (significand : Nat) (exponent : Int) : Nat → Reader Number
  | 0 => wholeEnd (double? positive significand exponent) positive significand exponent
  | fuel + 1 => do
      if (digit? (← peek)).isSome then
        advance
        longInteger positive significand (exponent + 1) fuel
      else wholeEnd (double? positive significand exponent) positive significand exponent

def wholeNumber (positive : Bool) (n : Nat) : Number :=
  if positive then .natural n
  else if n = 0 ∨ 0x8000000000000000 < n then .float (-(n.toUInt64.toFloat)).toBits
  else .negative n

def shortInteger (positive : Bool) (n : Nat) : Reader Number :=
  wholeEnd (some (wholeNumber positive n)) positive n 0

def integerDigits (positive : Bool) (n : Nat) : Nat → Reader Number
  | 0 => shortInteger positive n
  | fuel + 1 => do
      match digit? (← peek) with
      | none => shortInteger positive n
      | some d =>
          if 0x10000000000000000 ≤ n * 10 + d then longInteger positive n 0 (fuel + 1)
          else
            advance
            integerDigits positive (n * 10 + d) fuel

/-- A number whose sign is taken. -/
def number (positive : Bool) : Reader Number := do
  match ← next with
  | none => fail .endInValue
  | some b =>
      match digit? (some b) with
      | none => fail .badNumber
      | some 0 =>
          if (digit? (← peek)).isSome then failNext .badNumber else shortInteger positive 0
      | some d => integerDigits positive d (← remaining)

/-! Lists and objects. -/

/-- Whether another item follows; its separator is taken. -/
def hasItem (first : Bool) : Reader Bool := do
  match ← token with
  | none => failNext .endInList
  | some 0x5D => pure false
  | some b =>
      if first then pure true
      else if b = 0x2C then
        advance
        match ← token with
        | some 0x5D => failNext .trailingComma
        | some _ => pure true
        | none => failNext .endInValue
      else failNext .expectedListEnd

/-- The name of the next member, if another one follows; its separator is taken. -/
def nextKey (first : Bool) : Reader (Option String) := do
  match ← token with
  | none => failNext .endInObject
  | some 0x7D => pure none
  | some b =>
      if first then
        if b = 0x22 then key else failNext .keyNotString
      else if b = 0x2C then
        advance
        match ← token with
        | some 0x22 => key
        | some 0x7D => failNext .trailingComma
        | some _ => failNext .keyNotString
        | none => failNext .endInValue
      else failNext .expectedObjectEnd
where
  key : Reader (Option String) := do
    advance
    some <$> stringRest

def colon : Reader Unit := do
  match ← token with
  | some 0x3A => advance
  | some _ => failNext .expectedColon
  | none => failNext .endInObject

def endList : Reader Unit := do
  match ← token with
  | some 0x5D => advance
  | some 0x2C =>
      advance
      match ← token with
      | some 0x5D => failNext .trailingComma
      | _ => failNext .trailingText
  | some _ => failNext .trailingText
  | none => failNext .endInList

def endObject : Reader Unit := do
  match ← token with
  | some 0x7D => advance
  | some 0x2C => failNext .trailingComma
  | some _ => failNext .trailingText
  | none => failNext .endInObject

/-- A null, a boolean, a number or a text, by its first byte. -/
def scalar (b : UInt8) : Reader Json := do
  match b.toNat with
  | 0x6E => advance; wordNull; pure .null
  | 0x74 => advance; wordTrue; pure (.bool true)
  | 0x66 => advance; wordFalse; pure (.bool false)
  | 0x22 => advance; .string <$> stringRest
  | 0x2D => advance; .number <$> number false
  | _ => if (digit? (some b)).isSome then .number <$> number true else failNext .expectedValue

mutual

/-- A value of any kind; `fuel` bounds the number of its parts. -/
def valueWith : Nat → Nat → Reader Json
  | 0, _ => fail .endInValue
  | fuel + 1, depth => do
      match ← token with
      | none => failNext .endInValue
      | some 0x5B =>
          nested depth fun d => closedBy (.array <$> itemsWith fuel d 0) endList
      | some 0x7B =>
          nested depth fun d => closedBy (.object <$> membersWith fuel d true) endObject
      | some b => scalar b

def itemsWith : Nat → Nat → Nat → Reader (List Json)
  | 0, _, _ => fail .endInList
  | fuel + 1, depth, index => do
      if ← under (.item index) (hasItem (index == 0)) then
        let v ← under (.item index) (valueWith fuel depth)
        let rest ← itemsWith fuel depth (index + 1)
        pure (v :: rest)
      else pure []

def membersWith : Nat → Nat → Bool → Reader (List (String × Json))
  | 0, _, _ => fail .endInObject
  | fuel + 1, depth, first => do
      match ← under .unknown (nextKey first) with
      | none => pure []
      | some k =>
          let v ← under (.member k) (do
            colon
            valueWith fuel depth)
          let rest ← membersWith fuel depth false
          pure ((k, v) :: rest)

end

/-- A value of any kind. -/
def value (depth : Nat) : Reader Json := do
  valueWith (2 * (← remaining) + 2) depth

end Gleaner.Json.Reader

namespace Gleaner.Json

/-- Reads a JSON text, with the members of its objects as they stand. -/
def read (bytes : List UInt8) : Except Failure Json :=
  Reader.runAll (Reader.value Reader.maxDepth) bytes

end Gleaner.Json
