import Gleaner.Charset.Chinese
import Gleaner.Proofs.Charset.Decoder

/-! The codes of the encodings of Chinese that have up to four bytes. -/
namespace Gleaner.Charset.Gb18030

inductive Code : List UInt8 → List Char → Prop
  | euro : Code [0x80] ['€']
  | ascii {b : UInt8} {c : Char} (h : ascii? b.toNat = some c) : Code [b] [c]
  | double {a b : UInt8} {c : Char} (ha : isLead a.toNat = true)
      (h : Gb18030.double a.toNat b.toNat = some c) : Code [a, b] [c]
  | quadruple {a b a' b' : UInt8} {c : Char} (ha : isLead a.toNat = true)
      (hb : isDigit b.toNat = true) (ha' : isLead a'.toNat = true) (hb' : isDigit b'.toNat = true)
      (h : Gb18030.quadruple a.toNat b.toNat a'.toNat b'.toNat = some c) : Code [a, b, a', b'] [c]

/-- What a state holds of an unfinished code. -/
inductive Opened : Unit → List UInt8 → Gb18030 → Prop
  | rest : Opened () [] .idle
  | one {a : UInt8} (ha : isLead a.toNat = true) : Opened () [a] (.one a.toNat)
  | two {a b : UInt8} (ha : isLead a.toNat = true) (hb : isDigit b.toNat = true) :
      Opened () [a, b] (.two a.toNat b.toNat)
  | three {a b a' : UInt8} (ha : isLead a.toNat = true) (hb : isDigit b.toNat = true)
      (ha' : isLead a'.toNat = true) : Opened () [a, b, a'] (.three a.toNat b.toNat a'.toNat)

/-! The bytes that begin a code are of three kinds, and only digits go on with one of four bytes. -/

theorem ne_of_isLead {b : Nat} (h : isLead b = true) : b ≠ 0x80 := by
  rintro rfl
  cases h

theorem isLead_of_ascii {b : Nat} {c : Char} (h : ascii? b = some c) : isLead b = false := by
  have hb := lt_of_ascii h
  simp only [isLead, Bool.and_eq_false_iff, decide_eq_false_iff_not]
  omega

theorem isDigit_of_double {a b : Nat} {c : Char} (h : Gb18030.double a b = some c) :
    isDigit b = false := by
  unfold Gb18030.double at h
  split at h
  · simp only [isDigit, Bool.and_eq_false_iff, decide_eq_false_iff_not]
    omega
  · cases h

theorem feed_opened {u : List UInt8} {s s' : Gb18030} {b : UInt8} {w : List Char}
    (h : Opened () u s) (hfeed : feed s b = some (s', w)) :
    (w = [] ∧ Opened () (u ++ [b]) s') ∨ (s' = .idle ∧ Code (u ++ [b]) w) := by
  cases h with
  | rest =>
    simp only [feed] at hfeed
    split at hfeed
    · next heuro =>
        obtain rfl : b = 0x80 := UInt8.toNat_inj.1 heuro
        cases hfeed
        exact .inr ⟨rfl, .euro⟩
    split at hfeed
    · next ha =>
        cases hfeed
        exact .inl ⟨rfl, .one ha⟩
    · obtain ⟨c, hc, ⟨⟩⟩ := Option.map_eq_some_iff.1 hfeed
      exact .inr ⟨rfl, .ascii hc⟩
  | one ha =>
    simp only [feed] at hfeed
    split at hfeed
    · next hb =>
        cases hfeed
        exact .inl ⟨rfl, .two ha hb⟩
    · obtain ⟨c, hc, ⟨⟩⟩ := Option.map_eq_some_iff.1 hfeed
      exact .inr ⟨rfl, .double ha hc⟩
  | two ha hb =>
    simp only [feed] at hfeed
    split at hfeed
    · next ha' =>
        cases hfeed
        exact .inl ⟨rfl, .three ha hb ha'⟩
    · cases hfeed
  | three ha hb ha' =>
    simp only [feed] at hfeed
    split at hfeed
    · next hb' =>
        obtain ⟨c, hc, ⟨⟩⟩ := Option.map_eq_some_iff.1 hfeed
        exact .inr ⟨rfl, .quadruple ha hb ha' hb' hc⟩
    · cases hfeed

theorem run_code {u : List UInt8} {w : List Char} (h : Code u w) :
    Decoder.gb18030.Run .idle u w .idle := by
  have hlead : ∀ {a : UInt8}, isLead a.toNat = true →
      Decoder.gb18030.feed .idle a = some (.one a.toNat, []) := by
    intro a ha
    simp [Decoder.gb18030, feed, ne_of_isLead ha, ha]
  cases h with
  | euro => exact .single rfl
  | ascii hc =>
    refine .single ?_
    simp [Decoder.gb18030, feed, Nat.ne_of_lt (lt_of_ascii hc), isLead_of_ascii hc, hc]
  | double ha hc =>
    refine .cons (hlead ha) (.single ?_)
    simp [Decoder.gb18030, feed, isDigit_of_double hc, hc]
  | @quadruple a b a' b' c ha hb ha' hb' hc =>
    have htwo : Decoder.gb18030.feed (.one a.toNat) b = some (.two a.toNat b.toNat, []) := by
      simp [Decoder.gb18030, feed, hb]
    have hthree : Decoder.gb18030.feed (.two a.toNat b.toNat) a' =
        some (.three a.toNat b.toNat a'.toNat, []) := by
      simp [Decoder.gb18030, feed, ha']
    refine .cons (hlead ha) (.cons htwo (.cons hthree (.single ?_)))
    simp [Decoder.gb18030, feed, hb', hc]

theorem decoder_follows : Decoder.gb18030.Follows (.plain Code) () Opened fun _ => .idle where
  start := rfl
  opened_rest _ := .rest
  rests_rest _ := rfl
  closed h hrests := by
    cases h with
    | rest => rfl
    | _ => cases hrests
  feed h hfeed := (feed_opened h hfeed).imp_right fun h => ⟨(), h⟩
  run h := run_code h

end Gleaner.Charset.Gb18030
