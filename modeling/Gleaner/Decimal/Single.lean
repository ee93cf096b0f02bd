import Gleaner.Decimal.Shortest

/-! Texts of single-precision numbers by their bits. -/
namespace Gleaner.Decimal

/-- The largest bits, without the sign, of a number that is not infinite, and one. -/
def singleInfinity : Nat := 0x7F800000

private def signOf (bits : UInt32) : List Char := if 0x80000000 ≤ bits.toNat then ['-'] else []

private def shortestOf (n : Nat) : Scientific := ((Binary.ofBits 23 127 n).shortest).stripped 20

/-- All digits, without an exponent. -/
def singleText (bits : UInt32) : String :=
  let n := bits.toNat % 0x80000000
  let body :=
    if n = 0 then ['0']
    else if singleInfinity ≤ n then ['i', 'n', 'f']
    else (shortestOf n).positional
  String.ofList (signOf bits ++ body)

/-- The form for inspection: at least one digit after the point, and an exponent for numbers from
`10 ^ 16` on and below `10 ^ -4`. -/
def singleInspected (bits : UInt32) : String :=
  let n := bits.toNat % 0x80000000
  let body :=
    if n = 0 then ['0', '.', '0']
    else if singleInfinity ≤ n then ['i', 'n', 'f']
    else
      let s := shortestOf n
      let point := s.exponent + s.text.length
      if -4 < point ∧ point ≤ 16 then
        if 0 ≤ s.exponent then s.positional ++ ['.', '0'] else s.positional
      else
        let mantissa := match s.text with
          | [c] => [c]
          | c :: rest => c :: '.' :: rest
          | [] => []
        mantissa ++ 'e' :: (toString (point - 1)).toList
  String.ofList (signOf bits ++ body)

end Gleaner.Decimal
