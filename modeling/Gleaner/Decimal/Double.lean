import Gleaner.Decimal.Shortest

/-! Double-precision numbers by their bits, and how a message shows them. -/
namespace Gleaner.Decimal

/-- A positive number is written without an exponent while its point stands within sixteen digits, or
follows at most five zeros; a whole number keeps one zero after its point. -/
def Scientific.message (s : Scientific) : List Char :=
  let d := s.text
  let point := s.exponent + d.length
  if 0 ≤ s.exponent ∧ point ≤ 16 then s.positional ++ ['.', '0']
  else if -5 < point ∧ point ≤ 16 then s.positional
  else
    let mantissa := match d with
      | [c] => [c]
      | c :: rest => c :: '.' :: rest
      | [] => []
    mantissa ++ 'e' :: (toString (point - 1)).toList

/-- The text of the double with these bits; neither infinite nor undefined ones occur. -/
def doubleText (bits : UInt64) : String :=
  let n := bits.toNat % 0x8000000000000000
  let sign := if 0x8000000000000000 ≤ bits.toNat then ['-'] else []
  if n = 0 then String.ofList (sign ++ ['0', '.', '0'])
  else String.ofList (sign ++ ((Binary.ofBits 52 1023 n).shortest.stripped 20).message)

end Gleaner.Decimal
