import Gleaner.Charset.Decoder
import Gleaner.Charset.Index.Jis

/-! The encodings of Japanese. -/
namespace Gleaner.Charset

/-- The katakana of half width stand in one row; `b` counts from `first`. -/
def halfWidth (first b : Nat) : Char := Char.ofNat (0xFF61 + (b - first))

/-- The character of a row and a column, each counted from zero, in a square set. -/
def square (index : Nat → Option Char) (row column : Nat) : Option Char :=
  index (row * 94 + column)

namespace ShiftJis

def isLead (b : Nat) : Bool := (0x81 ≤ b && b ≤ 0x9F) || (0xE0 ≤ b && b ≤ 0xFC)

def single (b : Nat) : Option Char :=
  if b ≤ 0x80 then some (Char.ofNat b)
  else if 0xA1 ≤ b ∧ b ≤ 0xDF then some (halfWidth 0xA1 b)
  else none

/-- The pointers between the two parts of the main set stand for an area for private use. -/
def pointed (pointer : Nat) : Option Char :=
  if 8836 ≤ pointer ∧ pointer ≤ 10715 then some (Char.ofNat (0xE000 + (pointer - 8836)))
  else Index.jis0208 pointer

def pair (lead b : Nat) : Option (List Char) :=
  if (0x40 ≤ b ∧ b ≤ 0x7E) ∨ (0x80 ≤ b ∧ b ≤ 0xFC) then
    let row := lead - (if lead < 0xA0 then 0x81 else 0xC1)
    let column := b - (if b < 0x7F then 0x40 else 0x41)
    (pointed (row * 188 + column)).map fun c => [c]
  else none

end ShiftJis

def Pairs.shiftJis : Pairs := ⟨ShiftJis.isLead, ShiftJis.single, ShiftJis.pair⟩

/-- What is open between two bytes: the first byte, of one of the two sets. -/
inductive EucJp
  | idle
  | first (lead : Nat)
  | supplement
  | supplementFirst (lead : Nat)
  deriving DecidableEq, Repr

namespace EucJp

def inSquare (b : Nat) : Bool := 0xA1 ≤ b && b ≤ 0xFE

def finish (index : Nat → Option Char) (lead b : Nat) : Option (EucJp × List Char) :=
  if inSquare lead && inSquare b then
    (square index (lead - 0xA1) (b - 0xA1)).map fun c => (.idle, [c])
  else none

def feed (s : EucJp) (byte : UInt8) : Option (EucJp × List Char) :=
  let b := byte.toNat
  match s with
  | .idle =>
      if b = 0x8F then some (.supplement, [])
      else if b = 0x8E ∨ inSquare b then some (.first b, [])
      else (ascii? b).map fun c => (.idle, [c])
  | .first lead =>
      if lead = 0x8E then
        if 0xA1 ≤ b ∧ b ≤ 0xDF then some (.idle, [halfWidth 0xA1 b]) else none
      else finish Index.jis0208 lead b
  | .supplement => if inSquare b then some (.supplementFirst b, []) else none
  | .supplementFirst lead => finish Index.jis0212 lead b

end EucJp

def Decoder.eucJp : Decoder EucJp where
  start := .idle
  feed := EucJp.feed
  rests s := s = .idle

namespace Iso2022Jp

/-- The set that an escape sequence selects. -/
inductive Set
  | ascii | roman | katakana | double
  deriving DecidableEq, Repr

/-- What is open between two bytes: nothing, the first byte of a pair, or a part of an escape sequence. -/
inductive Pending
  | idle
  | trail (lead : Nat)
  | escape
  | escaped (b : Nat)
  deriving DecidableEq, Repr

/-- The current set, with `fresh` true from an escape sequence on until a character follows. -/
structure State where
  set : Set := .ascii
  fresh : Bool := false
  pending : Pending := .idle
  deriving DecidableEq, Repr

def selected (first second : Nat) : Option Set :=
  match first, second with
  | 0x28, 0x42 => some .ascii
  | 0x28, 0x4A => some .roman
  | 0x28, 0x49 => some .katakana
  | 0x24, 0x40 | 0x24, 0x42 => some .double
  | _, _ => none

/-- The bytes below 0x80 that are not controls of the escape mechanism. -/
def plain? (b : Nat) : Option Char :=
  if b = 0x0E ∨ b = 0x0F then none else ascii? b

/-- The effect of a byte that begins a character. -/
def lead (s : State) (b : Nat) : Option (State × List Char) :=
  if b = 0x1B then some ({ s with pending := .escape }, [])
  else
    let one := fun (c : Char) => ({ s with fresh := false, pending := .idle }, [c])
    match s.set with
    | .ascii => (plain? b).map one
    | .roman =>
        if b = 0x5C then some (one '\u00a5')
        else if b = 0x7E then some (one '\u203e')
        else (plain? b).map one
    | .katakana => if 0x21 ≤ b ∧ b ≤ 0x5F then some (one (halfWidth 0x21 b)) else none
    | .double =>
        if 0x21 ≤ b ∧ b ≤ 0x7E then some ({ s with fresh := false, pending := .trail b }, [])
        else none

/-- An escape sequence directly after another one is out of place. -/
def feed (s : State) (byte : UInt8) : Option (State × List Char) :=
  let b := byte.toNat
  match s.pending with
  | .idle => lead s b
  | .trail first =>
      if 0x21 ≤ b ∧ b ≤ 0x7E then
        (square Index.jis0208 (first - 0x21) (b - 0x21)).map fun c =>
          ({ s with pending := .idle }, [c])
      else none
  | .escape =>
      if b = 0x24 ∨ b = 0x28 then some ({ s with pending := .escaped b }, []) else none
  | .escaped first => do
      let set ← selected first b
      if s.fresh then none else some (⟨set, true, .idle⟩, [])

end Iso2022Jp

def Decoder.iso2022Jp : Decoder Iso2022Jp.State where
  start := {}
  feed := Iso2022Jp.feed
  rests s := s.pending = .idle

end Gleaner.Charset
