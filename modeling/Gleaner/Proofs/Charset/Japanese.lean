import Gleaner.Charset.Japanese
import Gleaner.Proofs.Charset.Decoder

/-! The codes of the encodings of Japanese that have more than two bytes or that depend on the place. -/
namespace Gleaner.Charset

namespace EucJp

/-- Katakana and the supplement stand behind a byte of their own. -/
inductive Code : List UInt8 → List Char → Prop
  | ascii {b : UInt8} {c : Char} (h : ascii? b.toNat = some c) : Code [b] [c]
  | katakana {b : UInt8} (h : 0xA1 ≤ b.toNat ∧ b.toNat ≤ 0xDF) :
      Code [0x8E, b] [halfWidth 0xA1 b.toNat]
  | main {a b : UInt8} {c : Char} (ha : inSquare a.toNat = true) (hb : inSquare b.toNat = true)
      (h : square Index.jis0208 (a.toNat - 0xA1) (b.toNat - 0xA1) = some c) : Code [a, b] [c]
  | supplement {a b : UInt8} {c : Char} (ha : inSquare a.toNat = true)
      (hb : inSquare b.toNat = true)
      (h : square Index.jis0212 (a.toNat - 0xA1) (b.toNat - 0xA1) = some c) : Code [0x8F, a, b] [c]

inductive Opened : Unit → List UInt8 → EucJp → Prop
  | rest : Opened () [] .idle
  | first {a : UInt8} (h : a.toNat = 0x8E ∨ inSquare a.toNat = true) :
      Opened () [a] (.first a.toNat)
  | supplement : Opened () [0x8F] .supplement
  | supplementFirst {a : UInt8} (ha : inSquare a.toNat = true) :
      Opened () [0x8F, a] (.supplementFirst a.toNat)

theorem finish_eq_some_iff {index : Nat → Option Char} {lead b : Nat} {s : EucJp} {w : List Char} :
    finish index lead b = some (s, w) ↔ s = .idle ∧ inSquare lead = true ∧ inSquare b = true ∧
      ∃ c, square index (lead - 0xA1) (b - 0xA1) = some c ∧ w = [c] := by
  simp only [finish, Option.ite_none_right_eq_some, Bool.and_eq_true, Option.map_eq_some_iff]
  constructor
  · rintro ⟨⟨hlead, hb⟩, c, hc, ⟨⟩⟩
    exact ⟨rfl, hlead, hb, c, hc, rfl⟩
  · rintro ⟨rfl, hlead, hb, c, hc, rfl⟩
    exact ⟨⟨hlead, hb⟩, c, hc, rfl⟩

theorem feed_opened {u : List UInt8} {s s' : EucJp} {b : UInt8} {w : List Char}
    (h : Opened () u s) (hfeed : feed s b = some (s', w)) :
    (w = [] ∧ Opened () (u ++ [b]) s') ∨ (s' = .idle ∧ Code (u ++ [b]) w) := by
  cases h with
  | rest =>
    simp only [feed] at hfeed
    split at hfeed
    · next hsupplement =>
        obtain rfl : b = 0x8F := UInt8.toNat_inj.1 hsupplement
        cases hfeed
        exact .inl ⟨rfl, .supplement⟩
    split at hfeed
    · next hfirst =>
        cases hfeed
        exact .inl ⟨rfl, .first hfirst⟩
    · obtain ⟨c, hc, ⟨⟩⟩ := Option.map_eq_some_iff.1 hfeed
      exact .inr ⟨rfl, .ascii hc⟩
  | @first a ha =>
    simp only [feed] at hfeed
    split at hfeed
    · next hkatakana =>
        obtain rfl : a = 0x8E := UInt8.toNat_inj.1 hkatakana
        split at hfeed
        · next hb =>
            cases hfeed
            exact .inr ⟨rfl, .katakana hb⟩
        · cases hfeed
    · obtain ⟨rfl, ha, hb, c, hc, rfl⟩ := finish_eq_some_iff.1 hfeed
      exact .inr ⟨rfl, .main ha hb hc⟩
  | supplement =>
    simp only [feed] at hfeed
    split at hfeed
    · next hb =>
        cases hfeed
        exact .inl ⟨rfl, .supplementFirst hb⟩
    · cases hfeed
  | supplementFirst _ =>
    obtain ⟨rfl, ha, hb, c, hc, rfl⟩ := finish_eq_some_iff.1 hfeed
    exact .inr ⟨rfl, .supplement ha hb hc⟩

theorem ne_of_inSquare {b : Nat} (h : inSquare b = true) : b ≠ 0x8F ∧ b ≠ 0x8E := by
  constructor <;> (rintro rfl; cases h)

theorem run_code {u : List UInt8} {w : List Char} (h : Code u w) :
    Decoder.eucJp.Run .idle u w .idle := by
  cases h with
  | @ascii b c hc =>
    have hsmall := lt_of_ascii hc
    have hsquare : inSquare b.toNat = false := by
      simp only [inSquare, Bool.and_eq_false_iff, decide_eq_false_iff_not]
      omega
    refine .single ?_
    simp [Decoder.eucJp, feed, hsquare, hc, show b.toNat ≠ 0x8F by omega,
      show b.toNat ≠ 0x8E by omega]
  | katakana hb =>
    have hfirst : Decoder.eucJp.feed .idle 0x8E = some (.first 0x8E, []) := rfl
    refine .cons hfirst (.single ?_)
    simp [Decoder.eucJp, feed, hb]
  | @main a b c ha hb hc =>
    have hfirst : Decoder.eucJp.feed .idle a = some (.first a.toNat, []) := by
      simp [Decoder.eucJp, feed, ne_of_inSquare ha, ha]
    refine .cons hfirst (.single ?_)
    simp [Decoder.eucJp, feed, ne_of_inSquare ha, finish_eq_some_iff, ha, hb, hc]
  | @supplement a b c ha hb hc =>
    have hfirst : Decoder.eucJp.feed .idle 0x8F = some (.supplement, []) := rfl
    have hsecond : Decoder.eucJp.feed .supplement a = some (.supplementFirst a.toNat, []) := by
      simp [Decoder.eucJp, feed, ha]
    refine .cons hfirst (.cons hsecond (.single ?_))
    simp [Decoder.eucJp, feed, finish_eq_some_iff, ha, hb, hc]

theorem decoder_follows : Decoder.eucJp.Follows (.plain Code) () Opened fun _ => .idle where
  start := rfl
  opened_rest _ := .rest
  rests_rest _ := rfl
  closed h hrests := by
    cases h with
    | rest => rfl
    | _ => cases hrests
  feed h hfeed := (feed_opened h hfeed).imp_right fun h => ⟨(), h⟩
  run h := run_code h

end EucJp

namespace Iso2022Jp

/-- The set in force, and whether the escape sequence that selected it stands directly before. -/
abbrev Shift := Set × Bool

/-- The characters of one byte in a set. -/
def single? (set : Set) (b : Nat) : Option Char :=
  match set with
  | .ascii => plain? b
  | .roman =>
      if b = 0x5C then some '\u00a5' else if b = 0x7E then some '\u203e' else plain? b
  | .katakana => if 0x21 ≤ b ∧ b ≤ 0x5F then some (halfWidth 0x21 b) else none
  | .double => none

/-- A code is an escape sequence, a byte, or two bytes of the double set. -/
inductive Code : Codes Shift
  | escape {set set' : Set} {a b : UInt8} (ha : a.toNat = 0x24 ∨ a.toNat = 0x28)
      (h : selected a.toNat b.toNat = some set') : Code (set, false) [0x1B, a, b] [] (set', true)
  | single {set : Set} {fresh : Bool} {b : UInt8} {c : Char} (hb : b.toNat ≠ 0x1B)
      (h : single? set b.toNat = some c) : Code (set, fresh) [b] [c] (set, false)
  | pair {fresh : Bool} {a b : UInt8} {c : Char} (ha : 0x21 ≤ a.toNat ∧ a.toNat ≤ 0x7E)
      (hb : 0x21 ≤ b.toNat ∧ b.toNat ≤ 0x7E)
      (h : square Index.jis0208 (a.toNat - 0x21) (b.toNat - 0x21) = some c) :
      Code (.double, fresh) [a, b] [c] (.double, false)

def atRest (k : Shift) : State := ⟨k.1, k.2, .idle⟩

inductive Opened : Shift → List UInt8 → State → Prop
  | rest (k : Shift) : Opened k [] (atRest k)
  | escape {set : Set} {fresh : Bool} : Opened (set, fresh) [0x1B] ⟨set, fresh, .escape⟩
  | escaped {set : Set} {fresh : Bool} {a : UInt8} (ha : a.toNat = 0x24 ∨ a.toNat = 0x28) :
      Opened (set, fresh) [0x1B, a] ⟨set, fresh, .escaped a.toNat⟩
  | trail {fresh : Bool} {a : UInt8} (ha : 0x21 ≤ a.toNat ∧ a.toNat ≤ 0x7E) :
      Opened (.double, fresh) [a] ⟨.double, false, .trail a.toNat⟩

theorem lead_eq {set : Set} {fresh : Bool} {b : Nat} (hb : b ≠ 0x1B) :
    lead ⟨set, fresh, .idle⟩ b =
      match single? set b with
      | some c => some (atRest (set, false), [c])
      | none =>
          if set = .double ∧ 0x21 ≤ b ∧ b ≤ 0x7E then some (⟨.double, false, .trail b⟩, [])
          else none := by
  simp only [lead, hb, ↓reduceIte]
  cases set with
  | ascii =>
    simp only [single?]
    cases plain? b <;> simp [atRest]
  | roman =>
    simp only [single?]
    split
    · rfl
    split
    · rfl
    · cases plain? b <;> simp [atRest]
  | katakana =>
    simp only [single?]
    split <;> simp [atRest]
  | double => simp [single?]

theorem feed_opened {k : Shift} {u : List UInt8} {s s' : State} {b : UInt8} {w : List Char}
    (h : Opened k u s) (hfeed : feed s b = some (s', w)) :
    (w = [] ∧ Opened k (u ++ [b]) s') ∨ ∃ k', s' = atRest k' ∧ Code k (u ++ [b]) w k' := by
  cases h with
  | rest k =>
    obtain ⟨set, fresh⟩ := k
    simp only [feed, atRest] at hfeed
    by_cases hescape : b.toNat = 0x1B
    · obtain rfl : b = 0x1B := UInt8.toNat_inj.1 hescape
      cases hfeed
      exact .inl ⟨rfl, .escape⟩
    rw [lead_eq hescape] at hfeed
    split at hfeed
    · next c hc =>
        cases hfeed
        exact .inr ⟨_, rfl, .single hescape hc⟩
    · obtain ⟨⟨rfl, hb⟩, ⟨⟩⟩ := Option.ite_none_right_eq_some.1 hfeed
      exact .inl ⟨rfl, .trail hb⟩
  | escape =>
    obtain ⟨hb, ⟨⟩⟩ := Option.ite_none_right_eq_some.1 hfeed
    exact .inl ⟨rfl, .escaped hb⟩
  | @escaped set fresh a ha =>
    simp only [feed, Option.bind_eq_bind, Option.bind_eq_some_iff] at hfeed
    obtain ⟨set', hset, hfeed⟩ := hfeed
    obtain ⟨hfresh, ⟨⟩⟩ := Option.ite_none_left_eq_some.1 hfeed
    obtain rfl : fresh = false := Bool.eq_false_iff.2 hfresh
    exact .inr ⟨(set', true), rfl, .escape ha hset⟩
  | trail ha =>
    obtain ⟨hb, hfeed⟩ := Option.ite_none_right_eq_some.1 hfeed
    obtain ⟨c, hc, ⟨⟩⟩ := Option.map_eq_some_iff.1 hfeed
    exact .inr ⟨(.double, false), rfl, .pair ha hb hc⟩

theorem run_code {k k' : Shift} {u : List UInt8} {w : List Char} (h : Code k u w k') :
    Decoder.iso2022Jp.Run (atRest k) u w (atRest k') := by
  cases h with
  | @escape set set' a b ha hset =>
    have hfirst : Decoder.iso2022Jp.feed (atRest (set, false)) 0x1B =
        some (⟨set, false, .escape⟩, []) := rfl
    have hsecond : Decoder.iso2022Jp.feed ⟨set, false, .escape⟩ a =
        some (⟨set, false, .escaped a.toNat⟩, []) := by simp [Decoder.iso2022Jp, feed, ha]
    refine .cons hfirst (.cons hsecond (.single ?_))
    simp [Decoder.iso2022Jp, feed, hset, atRest]
  | single hb hc =>
    refine .single ?_
    simp [Decoder.iso2022Jp, feed, atRest, lead_eq hb, hc]
  | @pair fresh a b c ha hb hc =>
    have hfirst : Decoder.iso2022Jp.feed (atRest (.double, fresh)) a =
        some (⟨.double, false, .trail a.toNat⟩, []) := by
      simp [Decoder.iso2022Jp, feed, atRest, lead_eq (show a.toNat ≠ 0x1B by omega), single?, ha]
    refine .cons hfirst (.single ?_)
    simp [Decoder.iso2022Jp, feed, hb, hc, atRest]

theorem decoder_follows :
    Decoder.iso2022Jp.Follows Code (.ascii, false) Opened atRest where
  start := rfl
  opened_rest := .rest
  rests_rest _ := rfl
  closed h hrests := by
    cases h with
    | rest => rfl
    | _ => cases hrests
  feed h hfeed := feed_opened h hfeed
  run h := run_code h

end Iso2022Jp

end Gleaner.Charset
