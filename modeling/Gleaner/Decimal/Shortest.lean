/-! The shortest decimal number that identifies a binary floating-point number. Such a number is
`m * 2 ^ q`; every real closer to it than to its neighbours, and a real half-way if `m` is even, is
rounded to it. Of the grids of decimals with one, two, ... digits the first that meets this interval
wins, and on it the point nearest to the number. -/
namespace Gleaner.Decimal

/-- A positive binary floating-point number; the gap below it is half of that above if `narrowBelow`. -/
structure Binary where
  m : Nat
  q : Int
  narrowBelow : Bool
  deriving DecidableEq, Repr

/-- The decimal `digits * 10 ^ exponent`. -/
structure Scientific where
  digits : Nat
  exponent : Int
  deriving DecidableEq, Repr

/-- A ratio of natural numbers; the denominator is positive in all uses. -/
structure Ratio where
  num : Nat
  den : Nat

/-- `n * 2 ^ e / 10 ^ t`. -/
def Ratio.scaled (n : Nat) (e t : Int) : Ratio :=
  ⟨n * Nat.pow 2 e.toNat * Nat.pow 10 (-t).toNat, Nat.pow 2 (-e).toNat * Nat.pow 10 t.toNat⟩

namespace Binary

/-- The point `k` of the grid `10 ^ t` lies in the interval of numbers that are rounded to `b`. -/
def accepts (b : Binary) (t : Int) (k : Nat) : Bool :=
  let low := Ratio.scaled (4 * b.m - (if b.narrowBelow then 1 else 2)) (b.q - 2) t
  let high := Ratio.scaled (4 * b.m + 2) (b.q - 2) t
  if b.m % 2 = 0 then low.num ≤ k * low.den && k * high.den ≤ high.num
  else low.num < k * low.den && k * high.den < high.num

/-- The acceptable point of the grid `10 ^ t` that is nearest to the number; the even one of two. -/
def onGrid (b : Binary) (t : Int) : Option Nat :=
  let v := Ratio.scaled b.m b.q t
  let k := v.num / v.den
  let below := b.accepts t k && k != 0
  let above := b.accepts t (k + 1)
  let rest := 2 * (v.num % v.den)
  if below && above then
    some (if rest < v.den ∨ (rest = v.den ∧ k % 2 = 0) then k else k + 1)
  else if below then some k
  else if above then some (k + 1)
  else none

/-- Searches ever finer grids. -/
def search (b : Binary) (t : Int) : Nat → Scientific
  | 0 => ⟨b.m, 0⟩
  | fuel + 1 =>
      match b.onGrid t with
      | some k => ⟨k, t⟩
      | none => b.search (t - 1) fuel

/-- The greatest power of ten, as an exponent, that is not above the number (found from above). -/
def magnitude (b : Binary) (t : Int) : Nat → Int
  | 0 => t
  | fuel + 1 =>
      let v := Ratio.scaled b.m b.q t
      if v.den ≤ v.num then t else b.magnitude (t - 1) fuel

/-- Digits of `2 ^ e`, roughly: never too small. -/
def roughMagnitude (b : Binary) : Int :=
  (b.q + Nat.log2 b.m + 1) * 30103 / 100000 + 1

/-- The shortest decimal of a positive number. -/
def shortest (b : Binary) : Scientific :=
  b.search (b.magnitude b.roughMagnitude 8 + 1) 40

end Binary

/-- The parts of a binary format with `fraction` bits after the leading one and the exponent bias
`bias`, from its bits without the sign. -/
def Binary.ofBits (fraction bias bits : Nat) : Binary :=
  let e := bits / Nat.pow 2 fraction
  let f := bits % Nat.pow 2 fraction
  if e = 0 then ⟨f, 1 - bias - fraction, false⟩
  else ⟨Nat.pow 2 fraction + f, e - bias - fraction, f = 0 && 1 < e⟩

/-- Removes the zeros at the end of the digits. -/
def Scientific.stripped (s : Scientific) : Nat → Scientific
  | 0 => s
  | fuel + 1 =>
      if s.digits ≠ 0 ∧ s.digits % 10 = 0 then
        Scientific.stripped ⟨s.digits / 10, s.exponent + 1⟩ fuel
      else s

/-- The digits as written. -/
def Scientific.text (s : Scientific) : List Char :=
  (toString s.digits).toList

/-- The decimal without an exponent, with a point only if it is needed. -/
def Scientific.positional (s : Scientific) : List Char :=
  let d := s.text
  if 0 ≤ s.exponent then d ++ List.replicate s.exponent.toNat '0'
  else
    let places := (-s.exponent).toNat
    if places < d.length then d.take (d.length - places) ++ '.' :: d.drop (d.length - places)
    else '0' :: '.' :: List.replicate (places - d.length) '0' ++ d

end Gleaner.Decimal
