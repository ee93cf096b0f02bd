import Gleaner.Json.Read

/-! The grammar of numbers, apart from any reader, and what a number without its sign stands for. A whole
number that fits in 64 bits stands for itself, every other one for a double, and one that is too large for a
double stands for nothing. -/
namespace Gleaner.Json

def IsDigit (b : UInt8) : Prop := 0x30 ≤ b ∧ b ≤ 0x39

instance (b : UInt8) : Decidable (IsDigit b) := inferInstanceAs (Decidable (_ ∧ _))

def Digits (ds : List UInt8) : Prop := ∀ b ∈ ds, IsDigit b

@[irreducible]
def digitValue (b : UInt8) : Nat := b.toNat - 0x30

/-- The power of ten behind a number, with its letter and, if it has one, its sign. -/
structure Exponent where
  letter : UInt8
  sign : List UInt8
  digits : List UInt8
  isLetter : letter = 0x65 ∨ letter = 0x45
  isSign : sign = [] ∨ sign = [0x2B] ∨ sign = [0x2D]
  isDigits : Digits digits
  ne_nil : digits ≠ []

/-- A number without its sign. No zero stands in front of other digits, and a point stands between digits;
the fraction is empty if there is no point. -/
structure Numeral where
  whole : List UInt8
  fraction : List UInt8
  exponent : Option Exponent
  isWhole : Digits whole
  ne_nil : whole ≠ []
  zero : whole.head? = some 0x30 → whole = [0x30]
  isFraction : Digits fraction

def fractionText (ds : List UInt8) : List UInt8 := if ds = [] then [] else 0x2E :: ds

def Exponent.text (x : Exponent) : List UInt8 := x.letter :: (x.sign ++ x.digits)

def exponentText : Option Exponent → List UInt8
  | some x => x.text
  | none => []

def Numeral.text (d : Numeral) : List UInt8 :=
  d.whole ++ (fractionText d.fraction ++ exponentText d.exponent)

/-! Values. -/

/-- The number that the digits make behind the number `k`. -/
def digitsValue (k : Nat) : List UInt8 → Nat
  | [] => k
  | b :: ds => digitsValue (k * 10 + digitValue b) ds

/-- Puts digits behind the number `k` as long as it fits in 64 bits; the second number counts those that are
left out, from the first that does not fit. -/
def takeDigits (k : Nat) : List UInt8 → Nat × Nat
  | [] => (k, 0)
  | b :: ds =>
      if 0x10000000000000000 ≤ k * 10 + digitValue b then (k, ds.length + 1)
      else takeDigits (k * 10 + digitValue b) ds

/-- A significand with an exponent and the power of ten that it has by itself. The value of an exponent that
is out of all bounds does not matter. -/
def powered? (positive : Bool) (k : Nat) (start : Int) (up : Bool) (n : Nat) : Option Number :=
  if n ≤ Reader.exponentBound then Reader.double? positive k (if up then start + n else start - n)
  else if up && k != 0 then none
  else some (.float (Reader.signed positive 0.0))

def Exponent.up (x : Exponent) : Bool := x.sign != [0x2D]

def scaled? (positive : Bool) (k : Nat) (start : Int) : Option Exponent → Option Number
  | some x => powered? positive k start x.up (digitsValue 0 x.digits)
  | none => Reader.double? positive k start

/-- The number with a significand, a fraction and an exponent; `plain` is the number without the latter. -/
def ended? (plain : Option Number) (positive : Bool) (k : Nat) (start : Int) (fraction : List UInt8)
    (exponent : Option Exponent) : Option Number :=
  if fraction = [] ∧ exponent = none then plain
  else
    let (k', left) := takeDigits k fraction
    scaled? positive k' (start - fraction.length + left) exponent

/-- A whole number whose last digits may have been left out. -/
def plain? (positive : Bool) (k left : Nat) : Option Number :=
  if left = 0 then some (Reader.wholeNumber positive k) else Reader.double? positive k left

/-- What the number stands for; none if it is out of range. -/
def Numeral.number? (d : Numeral) (positive : Bool) : Option Number :=
  let (k, left) := takeDigits 0 d.whole
  ended? (plain? positive k left) positive k left d.fraction d.exponent

/-- The digits, point and exponent of a number in range, without its sign. -/
def DigitsText (positive : Bool) (t : List UInt8) (n : Number) : Prop :=
  ∃ d : Numeral, t = d.text ∧ d.number? positive = some n

theorem Numeral.exists_whole (d : Numeral) : ∃ b ds, d.whole = b :: ds ∧ IsDigit b ∧ Digits ds := by
  obtain ⟨b, ds, h⟩ := List.exists_cons_of_ne_nil d.ne_nil
  have hdigits := d.isWhole
  rw [h] at hdigits
  exact ⟨b, ds, h, List.forall_mem_cons.1 hdigits⟩

theorem DigitsText.head {positive : Bool} {t : List UInt8} {n : Number}
    (h : DigitsText positive t n) : ∃ b u, t = b :: u ∧ IsDigit b := by
  obtain ⟨d, rfl, -⟩ := h
  obtain ⟨b, ds, hwhole, hb, -⟩ := d.exists_whole
  exact ⟨b, _, by rw [Numeral.text, hwhole, List.cons_append], hb⟩

theorem IsDigit.toNat {b : UInt8} (h : IsDigit b) : 0x30 ≤ b.toNat ∧ b.toNat ≤ 0x39 :=
  ⟨UInt8.le_iff_toNat_le.1 h.1, UInt8.le_iff_toNat_le.1 h.2⟩

theorem digitValue_lt {b : UInt8} (h : IsDigit b) : digitValue b < 10 := by
  have hhigh := h.toNat.2
  unfold digitValue
  omega

theorem digitValue_ne_zero {b : UInt8} (h : IsDigit b) (hb : b ≠ 0x30) : digitValue b ≠ 0 := by
  have hlow := h.toNat.1
  have h₀ : (0x30 : UInt8).toNat = 0x30 := rfl
  have hne : b.toNat ≠ (0x30 : UInt8).toNat := fun heq => hb (UInt8.toNat_inj.1 heq)
  unfold digitValue
  omega

theorem le_digitsValue (k : Nat) (ds : List UInt8) : k ≤ digitsValue k ds := by
  induction ds generalizing k with
  | nil => exact Nat.le_refl k
  | cons b ds ih =>
    rw [digitsValue]
    exact Nat.le_trans (by omega) (ih _)

/-- All digits are taken if they fit. -/
theorem takeDigits_of_lt {k : Nat} {ds : List UInt8} (h : digitsValue k ds < 0x10000000000000000) :
    takeDigits k ds = (digitsValue k ds, 0) := by
  induction ds generalizing k with
  | nil => rfl
  | cons b ds ih =>
    rw [digitsValue] at h ⊢
    have hle := le_digitsValue (k * 10 + digitValue b) ds
    rw [takeDigits, if_neg (by omega), ih h]

theorem digitsValue_zero : digitsValue 0 [0x30] = 0 := by
  unfold digitsValue digitsValue digitValue
  rfl

theorem takeDigits_zero : takeDigits 0 [0x30] = (0, 0) := by
  have hzero := digitsValue_zero
  rw [takeDigits_of_lt (by rw [hzero]; decide), hzero]

end Gleaner.Json
