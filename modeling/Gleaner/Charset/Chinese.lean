import Gleaner.Charset.Decoder
import Gleaner.Charset.Index.Big5
import Gleaner.Charset.Index.Chinese
import Gleaner.Charset.Index.ChineseRuns

/-! The encodings of Chinese. -/
namespace Gleaner.Charset

/-- What is open between two bytes: the leading bytes of a code of two or four. -/
inductive Gb18030
  | idle
  | one (a : Nat)
  | two (a b : Nat)
  | three (a b c : Nat)
  deriving DecidableEq, Repr

namespace Gb18030

def isLead (b : Nat) : Bool := 0x81 ≤ b && b ≤ 0xFE

def isDigit (b : Nat) : Bool := 0x30 ≤ b && b ≤ 0x39

def double (a b : Nat) : Option Char :=
  if (0x40 ≤ b ∧ b ≤ 0x7E) ∨ (0x80 ≤ b ∧ b ≤ 0xFE) then
    Index.chinese ((a - 0x81) * 190 + (b - (if b < 0x7F then 0x40 else 0x41)))
  else none

def quadruple (a b c d : Nat) : Option Char :=
  Index.chineseRun ((((a - 0x81) * 10 + (b - 0x30)) * 126 + (c - 0x81)) * 10 + (d - 0x30))

def feed (s : Gb18030) (byte : UInt8) : Option (Gb18030 × List Char) :=
  let n := byte.toNat
  let done := fun (c : Char) => (Gb18030.idle, [c])
  match s with
  | .idle =>
      if n = 0x80 then some (done '€')
      else if isLead n then some (.one n, [])
      else (ascii? n).map done
  | .one a => if isDigit n then some (.two a n, []) else (double a n).map done
  | .two a b => if isLead n then some (.three a b n, []) else none
  | .three a b c => if isDigit n then (quadruple a b c n).map done else none

end Gb18030

/-- Both Chinese encodings of four bytes are read alike. -/
def Decoder.gb18030 : Decoder Gb18030 where
  start := .idle
  feed := Gb18030.feed
  rests s := s = .idle

namespace Big5

def pair (lead b : Nat) : Option (List Char) :=
  if (0x40 ≤ b ∧ b ≤ 0x7E) ∨ (0xA1 ≤ b ∧ b ≤ 0xFE) then
    Index.big5 ((lead - 0x81) * 157 + (b - (if b < 0x7F then 0x40 else 0x62)))
  else none

end Big5

def Pairs.big5 : Pairs := ⟨fun b => 0x81 ≤ b && b ≤ 0xFE, ascii?, Big5.pair⟩

end Gleaner.Charset
