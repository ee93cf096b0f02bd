import Gleaner.Charset.Unicode
import Gleaner.Proofs.Charset.Decoder

/-! The codes of the encoding with units of two bytes: a character has one unit or, from 0x10000 on, a pair
of surrogates. -/
namespace Gleaner.Charset

namespace OpenUnits

variable {order : ByteOrder} {a b : UInt8} {n : Nat} {c : Char}

def unitOf (order : ByteOrder) (a b : UInt8) : Nat :=
  match order with
  | .big => a.toNat * 0x100 + b.toNat
  | .little => b.toNat * 0x100 + a.toNat

/-- The two bytes of a unit. -/
def unitBytes (order : ByteOrder) (n : Nat) : List UInt8 :=
  match order with
  | .big => [UInt8.ofNat (n / 0x100), UInt8.ofNat n]
  | .little => [UInt8.ofNat n, UInt8.ofNat (n / 0x100)]

/-- The units of a character, the high surrogate before the low one. -/
def units (c : Char) : List Nat :=
  if c.toNat < 0x10000 then [c.toNat]
  else [0xD800 + (c.toNat - 0x10000) / 0x400, 0xDC00 + (c.toNat - 0x10000) % 0x400]

def charBytes (order : ByteOrder) (c : Char) : List UInt8 := (units c).flatMap (unitBytes order)

def Code (order : ByteOrder) (u : List UInt8) (w : List Char) : Prop :=
  ∃ c, u = charBytes order c ∧ w = [c]

inductive Opened (order : ByteOrder) : Unit → List UInt8 → OpenUnits → Prop
  | rest : Opened order () [] {}
  | byte {a : UInt8} : Opened order () [a] ⟨some a.toNat, none⟩
  | high {n : Nat} (h : 0xD800 ≤ n ∧ n < 0xDC00) :
      Opened order () (unitBytes order n) ⟨none, some n⟩
  | highByte {n : Nat} {a : UInt8} (h : 0xD800 ≤ n ∧ n < 0xDC00) :
      Opened order () (unitBytes order n ++ [a]) ⟨some a.toNat, some n⟩

/-! Units and their bytes. -/

theorem unitBytes_unitOf : unitBytes order (unitOf order a b) = [a, b] := by
  have hbyte : ∀ x y : UInt8, UInt8.ofNat ((x.toNat * 0x100 + y.toNat) / 0x100) = x ∧
      UInt8.ofNat (x.toNat * 0x100 + y.toNat) = y := by
    intro x y
    have := x.toNat_lt
    have := y.toNat_lt
    constructor
    · rw [← UInt8.toNat_inj, UInt8.toNat_ofNat']
      omega
    · rw [← UInt8.toNat_inj, UInt8.toNat_ofNat']
      omega
  cases order <;> simp [unitBytes, unitOf, hbyte]

theorem exists_unitOf (order : ByteOrder) (h : n < 0x10000) :
    ∃ a b, unitBytes order n = [a, b] ∧ unitOf order a b = n := by
  cases order with
  | big =>
    refine ⟨_, _, rfl, ?_⟩
    simp only [unitOf, UInt8.toNat_ofNat']
    omega
  | little =>
    refine ⟨_, _, rfl, ?_⟩
    simp only [unitOf, UInt8.toNat_ofNat']
    omega

/-! Units and their characters. -/

theorem toNat_ofNat (h : n < 0xD800 ∨ (0xDFFF < n ∧ n < 0x110000)) : (Char.ofNat n).toNat = n := by
  rw [Char.ofNat, dif_pos h]
  rfl

theorem units_ofNat (h : n < 0x10000) (hhigh : ¬(0xD800 ≤ n ∧ n < 0xDC00))
    (hlow : ¬(0xDC00 ≤ n ∧ n < 0xE000)) : units (Char.ofNat n) = [n] := by
  rw [units, toNat_ofNat (by omega), if_pos h]

theorem units_pair {high low : Nat} (hhigh : 0xD800 ≤ high ∧ high < 0xDC00)
    (hlow : 0xDC00 ≤ low ∧ low < 0xE000) :
    units (Char.ofNat (0x10000 + (high - 0xD800) * 0x400 + (low - 0xDC00))) = [high, low] := by
  rw [units, toNat_ofNat (by omega), if_neg (by omega)]
  simp only [List.cons.injEq, and_true]
  omega

theorem feed_byte {high : Option Nat} :
    (Decoder.utf16 order).feed ⟨some a.toNat, high⟩ b = unit high (unitOf order a b) := by
  cases order <;> rfl

theorem feed_opened {u : List UInt8} {s s' : OpenUnits} {w : List Char} (h : Opened order () u s)
    (hfeed : (Decoder.utf16 order).feed s b = some (s', w)) :
    (w = [] ∧ Opened order () (u ++ [b]) s') ∨ (s' = {} ∧ Code order (u ++ [b]) w) := by
  cases h with
  | rest =>
    cases hfeed
    exact .inl ⟨rfl, .byte⟩
  | high h =>
    cases hfeed
    exact .inl ⟨rfl, .highByte h⟩
  | @byte a =>
    rw [feed_byte, unit] at hfeed
    have hlt : unitOf order a b < 0x10000 := by
      have := a.toNat_lt
      have := b.toNat_lt
      cases order <;> (simp only [unitOf]; omega)
    split at hfeed
    · next hhigh =>
        cases hfeed
        have hopened : Opened order () (unitBytes order (unitOf order a b))
            ⟨none, some (unitOf order a b)⟩ := .high hhigh
        rw [unitBytes_unitOf] at hopened
        exact .inl ⟨rfl, hopened⟩
    split at hfeed
    · cases hfeed
    · next hhigh hlow =>
        cases hfeed
        refine .inr ⟨rfl, _, ?_, rfl⟩
        simp [charBytes, units_ofNat hlt hhigh hlow, unitBytes_unitOf]
  | @highByte high a hhigh =>
    rw [feed_byte, unit] at hfeed
    split at hfeed
    · next hlow =>
        cases hfeed
        refine .inr ⟨rfl, _, ?_, rfl⟩
        simp [charBytes, units_pair hhigh hlow, unitBytes_unitOf]
    · cases hfeed

theorem run_unit {high : Option Nat} {s' : OpenUnits} {w : List Char} (h : n < 0x10000)
    (hunit : unit high n = some (s', w)) :
    (Decoder.utf16 order).Run ⟨none, high⟩ (unitBytes order n) w s' := by
  obtain ⟨a, b, hbytes, rfl⟩ := exists_unitOf order h
  have hfirst : (Decoder.utf16 order).feed ⟨none, high⟩ a = some (⟨some a.toNat, high⟩, []) := rfl
  rw [hbytes]
  exact .cons hfirst (.single (feed_byte.trans hunit))

theorem run_charBytes (c : Char) : (Decoder.utf16 order).Run {} (charBytes order c) [c] {} := by
  have hvalid : c.toNat < 0xD800 ∨ (0xDFFF < c.toNat ∧ c.toNat < 0x110000) := c.valid
  unfold charBytes units
  split
  · next hsmall =>
      have hunit : unit none c.toNat = some ({}, [c]) := by
        simp only [unit]
        rw [if_neg (by omega), if_neg (by omega), Char.ofNat_toNat]
      simpa using run_unit hsmall hunit
  · next hlarge =>
      generalize hhigh : 0xD800 + (c.toNat - 0x10000) / 0x400 = high
      generalize hlow : 0xDC00 + (c.toNat - 0x10000) % 0x400 = low
      have hpoint : 0x10000 + (high - 0xD800) * 0x400 + (low - 0xDC00) = c.toNat := by omega
      have hfirst : unit none high = some (⟨none, some high⟩, []) := by
        simp only [unit]
        rw [if_pos (by omega)]
      have hsecond : unit (some high) low = some ({}, [c]) := by
        simp only [unit]
        rw [if_pos (by omega), hpoint, Char.ofNat_toNat]
      have hrun : (Decoder.utf16 order).Run {} (unitBytes order high ++ unitBytes order low)
          ([] ++ [c]) {} := (run_unit (by omega) hfirst).append (run_unit (by omega) hsecond)
      simpa using hrun

theorem decoder_follows (order : ByteOrder) :
    (Decoder.utf16 order).Follows (.plain (Code order)) () (Opened order) fun _ => {} where
  start := rfl
  opened_rest _ := .rest
  rests_rest _ := rfl
  closed h hrests := by
    cases h with
    | rest => rfl
    | _ => cases hrests
  feed h hfeed := (feed_opened h hfeed).imp_right fun h => ⟨(), h⟩
  run := by
    rintro ⟨⟩ _ _ ⟨⟩ ⟨c, rfl, rfl⟩
    exact run_charBytes c

end OpenUnits

theorem Decoder.utf16_decode?_eq_some_iff {order : ByteOrder} {bytes : List UInt8}
    {text : List Char} :
    (Decoder.utf16 order).decode? bytes = some text ↔
      bytes = text.flatMap (OpenUnits.charBytes order) := by
  rw [(OpenUnits.decoder_follows order).decode?_eq_some_iff]
  constructor
  · intro h
    generalize () = k at h
    induction h with
    | nil k => rfl
    | cons code _ ih =>
      obtain ⟨c, rfl, rfl⟩ := code
      rw [ih, List.singleton_append, List.flatMap_cons]
  · rintro rfl
    induction text with
    | nil => exact .nil ()
    | cons c text ih => exact .cons ⟨c, rfl, rfl⟩ ih

end Gleaner.Charset
