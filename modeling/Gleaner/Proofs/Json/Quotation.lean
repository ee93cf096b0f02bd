import Gleaner.Json.Read
import Gleaner.Proofs.Json.Reader
import Gleaner.Proofs.Text.Utf8

/-! Quoted texts: the reader takes exactly those between two quotes that are made of UTF-8 characters and
escapes, and gives the characters that these stand for. -/
namespace Gleaner.Json

open Text.Utf8 Reader

/-! The grammar. -/

/-- A byte that stands for itself. -/
structure IsPlain (b : UInt8) : Prop where
  notQuote : b ≠ 0x22
  notBackslash : b ≠ 0x5C
  notControl : ¬ b < 0x20

inductive HexText : List UInt8 → Nat → Prop
  | digits {x y z w : UInt8} {a b c d : Nat} (hx : hexValue? x = some a) (hy : hexValue? y = some b)
      (hz : hexValue? z = some c) (hw : hexValue? w = some d) :
      HexText [x, y, z, w] (((a * 16 + b) * 16 + c) * 16 + d)

/-- What follows the backslash of an escape, and the character that the escape is. -/
inductive EscapeText : List UInt8 → Char → Prop
  | quote : EscapeText [0x22] '"'
  | backslash : EscapeText [0x5C] '\\'
  | slash : EscapeText [0x2F] '/'
  | backspace : EscapeText [0x62] '\x08'
  | formFeed : EscapeText [0x66] '\x0C'
  | newline : EscapeText [0x6E] '\n'
  | carriageReturn : EscapeText [0x72] '\r'
  | tab : EscapeText [0x74] '\t'
  | point {u : List UInt8} {n : Nat} (hu : HexText u n) (hn : ¬ (0xD800 ≤ n ∧ n ≤ 0xDFFF)) :
      EscapeText (0x75 :: u) (Char.ofNat n)
  | pair {u w : List UInt8} {n m : Nat} (hu : HexText u n) (hw : HexText w m)
      (hn : 0xD800 ≤ n ∧ n ≤ 0xDBFF) (hm : 0xDC00 ≤ m ∧ m ≤ 0xDFFF) :
      EscapeText (0x75 :: (u ++ 0x5C :: 0x75 :: w))
        (Char.ofNat (0x10000 + (n - 0xD800) * 0x400 + (m - 0xDC00)))

inductive CharsText : List UInt8 → List Char → Prop
  | nil : CharsText [] []
  | plain {c : Char} {t : List UInt8} {s : List Char}
      (hc : ∀ b ∈ String.utf8EncodeChar c, IsPlain b) (h : CharsText t s) :
      CharsText (String.utf8EncodeChar c ++ t) (c :: s)
  | escape {u t : List UInt8} {c : Char} {s : List Char} (hu : EscapeText u c) (h : CharsText t s) :
      CharsText (0x5C :: (u ++ t)) (c :: s)

/-- The inside of a quoted text and its second quote. -/
def QuotedText (t : List UInt8) (s : String) : Prop := ∃ u, t = u ++ [0x22] ∧ CharsText u s.toList

namespace Reader

/-! Escapes. -/

theorem Gives.nextInString {s m : List UInt8} {b : UInt8} (h : Gives Reader.nextInString s b m) :
    s = b :: m := by
  obtain ⟨o, n, ho, h⟩ := h.bind
  obtain ⟨rfl, rfl⟩ := ho.next
  cases s with
  | nil => exact h.fail.elim
  | cons a s =>
    obtain ⟨rfl, rfl⟩ := h.pure
    rfl

theorem Takes.nextInString (b : UInt8) (s : List UInt8) : Takes Reader.nextInString (b :: s) b s :=
  (Takes.next b s).bind (.pure b s)

theorem Gives.expectInPair {s m : List UInt8} {b : UInt8} {u : Unit}
    (h : Gives (Reader.expectInPair b) s u m) : s = b :: m := by
  obtain ⟨a, n, ha, hrest⟩ := h.bind
  cases ha.nextInString
  split_ifs at hrest with hb
  · exact hrest.fail.elim
  · obtain ⟨-, rfl⟩ := hrest.pure
    rw [not_not.1 hb]

theorem Takes.expectInPair (b : UInt8) (s : List UInt8) :
    Takes (Reader.expectInPair b) (b :: s) () s := by
  refine (Takes.nextInString b s).bind ?_
  rw [if_neg (by simp)]
  exact .pure () s

theorem Gives.fourHex {s m : List UInt8} {n : Nat} (h : Gives Reader.fourHex s n m) :
    ∃ u, s = u ++ m ∧ HexText u n := by
  obtain ⟨p, p', h⟩ := h
  unfold Reader.fourHex at h
  split at h
  · next x y z w s hs =>
    dsimp only at hs
    subst hs
    split at h
    · next a b c d ha hb hc hd =>
      cases h
      exact ⟨[x, y, z, w], rfl, .digits ha hb hc hd⟩
    · cases h
  · cases h

theorem Takes.fourHex {u : List UInt8} {n : Nat} (h : HexText u n) (s : List UInt8) :
    Takes Reader.fourHex (u ++ s) n s := by
  cases h with
  | digits hx hy hz hw =>
    intro p
    exact ⟨_, by simp only [Reader.fourHex, List.cons_append, List.nil_append, hx, hy, hz, hw]; rfl⟩

theorem Gives.unicodeEscape {s m : List UInt8} {c : Char} (h : Gives Reader.unicodeEscape s c m) :
    ∃ u, s = u ++ m ∧ EscapeText (0x75 :: u) c := by
  obtain ⟨n, s₁, hn, h₁⟩ := h.bind
  obtain ⟨u, rfl, hu⟩ := hn.fourHex
  split_ifs at h₁ with hlow hhigh
  · exact h₁.fail.elim
  · obtain ⟨_, s₂, hback, h₂⟩ := h₁.bind
    obtain ⟨_, s₃, hletter, h₃⟩ := h₂.bind
    obtain ⟨k, s₄, hk, h₄⟩ := h₃.bind
    obtain ⟨w, rfl, hw⟩ := hk.fourHex
    cases hback.expectInPair
    cases hletter.expectInPair
    split_ifs at h₄ with hk
    · obtain ⟨hc, hm⟩ := h₄.pure
      rw [hc, hm]
      exact ⟨u ++ 0x5C :: 0x75 :: w, by simp, .pair hu hw hhigh hk⟩
    · exact h₄.fail.elim
  · obtain ⟨rfl, rfl⟩ := h₁.pure
    exact ⟨u, rfl, .point hu (by omega)⟩

theorem Gives.escapeChar {s m : List UInt8} {c : Char} (h : Gives Reader.escapeChar s c m) :
    ∃ u, s = u ++ m ∧ EscapeText u c := by
  obtain ⟨b, n, hb, hrest⟩ := h.bind
  cases hb.nextInString
  have hbyte : UInt8.ofNat b.toNat = b := UInt8.ofNat_toNat
  split at hrest
  case h_10 => exact hrest.fail.elim
  case h_9 hcode =>
    rw [hcode] at hbyte
    obtain ⟨u, rfl, hu⟩ := hrest.unicodeEscape
    exact ⟨b :: u, rfl, hbyte ▸ hu⟩
  all_goals
    next hcode =>
    rw [hcode] at hbyte
    obtain ⟨rfl, rfl⟩ := hrest.pure
    refine ⟨[b], rfl, ?_⟩
    rw [← hbyte]
    constructor

theorem Takes.escapeChar {u : List UInt8} {c : Char} (h : EscapeText u c) (s : List UInt8) :
    Takes Reader.escapeChar (u ++ s) c s := by
  cases h with
  | point hu hn =>
    refine (Takes.nextInString _ _).bind ((Takes.fourHex hu s).bind ?_)
    rw [if_neg (by omega), if_neg (by omega)]
    exact .pure _ _
  | @pair u w n m hu hw hn hm =>
    rw [List.cons_append, List.append_assoc]
    refine (Takes.nextInString _ _).bind ((Takes.fourHex hu _).bind ?_)
    rw [if_neg (by omega), if_pos hn]
    refine (Takes.expectInPair _ _).bind ((Takes.expectInPair _ _).bind
      ((Takes.fourHex hw s).bind ?_))
    rw [if_pos hm]
    exact .pure _ _
  | _ => exact (Takes.nextInString _ _).bind (.pure _ _)

/-! The text read so far. -/

namespace Quotation

/-- No malformed character occurred so far. -/
structure Holds (q : Quotation) (chars : List Char) (p : Pending) : Prop where
  chars_eq : q.chars = chars
  pending_eq : q.pending = p
  sound : q.bad = none

variable {q : Quotation} {chars : List Char} {p p' : Pending} {b : UInt8}

theorem Holds.addByte_more (h : Holds q chars p) (hb : feed p b = (p', [])) (pos : Position) :
    Holds (q.addByte b pos) chars p' := by
  obtain ⟨rfl, rfl, hbad⟩ := h
  simp only [addByte, hb]
  exact ⟨rfl, rfl, hbad⟩

theorem Holds.addByte_full {c : Char} (h : Holds q chars p) (hb : feed p b = (.idle, [some c]))
    (pos : Position) : Holds (q.addByte b pos) (c :: chars) .idle := by
  obtain ⟨rfl, rfl, hbad⟩ := h
  simp only [addByte, hb]
  exact ⟨rfl, rfl, hbad⟩

theorem Holds.addChar (h : Holds q chars .idle) (c : Char) :
    Holds (q.addChar c) (c :: chars) .idle := by
  obtain ⟨rfl, hidle, hbad⟩ := h
  simp only [Quotation.addChar, settle, hidle]
  exact ⟨rfl, rfl, hbad⟩

/-! A malformed character is never forgotten. -/

theorem bad_markBad (q : Quotation) (pos : Position) : (q.markBad pos).bad ≠ none := by
  simp [markBad]

theorem bad_settle (h : q.bad ≠ none) : q.settle.bad ≠ none := by
  unfold settle
  split
  · exact h
  · exact bad_markBad q _

theorem bad_settle_of_pending (h : q.pending ≠ .idle) : q.settle.bad ≠ none := by
  unfold settle
  split
  · next hidle => exact absurd hidle h
  · exact bad_markBad q _

theorem bad_addChar (c : Char) (h : q.settle.bad ≠ none) : (q.addChar c).bad ≠ none := h

theorem bad_addByte_broken {marks : List (Option Char)} (hb : feed q.pending b = (p', none :: marks))
    (pos : Position) : (q.addByte b pos).bad ≠ none := by
  simp only [addByte, hb]
  split
  · next h => cases h
  · next h => cases h
  · exact bad_markBad _ _
  · exact bad_markBad _ _
  · next h => cases h

theorem bad_addByte (b : UInt8) (pos : Position) (h : q.bad ≠ none) : (q.addByte b pos).bad ≠ none := by
  simp only [addByte]
  split
  · exact h
  · exact h
  · exact bad_markBad _ _
  · exact bad_markBad _ _
  · exact h

end Quotation

/-! The loop over the inside of a quoted text. -/

theorem Gives.quotationEnd {q : Quotation} {s m : List UInt8} {a : String}
    (h : Gives (Reader.quotationEnd q) s a m) :
    q.settle.bad = none ∧ a = String.ofList q.chars.reverse ∧ m = s := by
  unfold Reader.quotationEnd at h
  split at h
  · obtain ⟨_, _, h⟩ := h
    cases h
  · next hbad =>
    obtain ⟨ha, hm⟩ := h.pure
    exact ⟨hbad, ha, hm⟩

/-- The three ways in which the loop goes on. -/
theorem Gives.stringLoop {fuel : Nat} {q : Quotation} {s m : List UInt8} {a : String}
    (h : Gives (Reader.stringLoop (fuel + 1) q) s a m) :
    (s = 0x22 :: m ∧ q.settle.bad = none ∧ a = String.ofList q.chars.reverse) ∨
    (∃ u c t, s = 0x5C :: (u ++ t) ∧ EscapeText u c ∧
      Gives (Reader.stringLoop fuel (q.addChar c)) t a m) ∨
    (∃ b t pos, s = b :: t ∧ IsPlain b ∧ Gives (Reader.stringLoop fuel (q.addByte b pos)) t a m) := by
  obtain ⟨p, p', h⟩ := h
  cases s with
  | nil => cases h
  | cons b s =>
    simp only [Reader.stringLoop] at h
    split_ifs at h with hquote hback hcontrol
    · have hend : Gives (Reader.quotationEnd q) s a m := ⟨_, _, h⟩
      obtain ⟨hbad, ha, rfl⟩ := hend.quotationEnd
      exact .inl ⟨by rw [hquote], hbad, ha⟩
    · have hrest : Gives (do
          let x ← Reader.escapeChar
          Reader.stringLoop fuel (q.addChar x)) s a m := ⟨_, _, h⟩
      obtain ⟨c, t, hc, hloop⟩ := hrest.bind
      obtain ⟨u, rfl, hu⟩ := hc.escapeChar
      exact .inr (.inl ⟨u, c, t, by rw [hback], hu, hloop⟩)
    · cases h
    · exact .inr (.inr ⟨b, s, p, rfl, ⟨hquote, hback, hcontrol⟩, _, _, h⟩)

theorem Takes.stringLoop_end {fuel : Nat} {q : Quotation} {chars : List Char}
    (h : q.Holds chars .idle) (s : List UInt8) :
    Takes (Reader.stringLoop (fuel + 1) q) (0x22 :: s) (String.ofList chars.reverse) s := by
  obtain ⟨rfl, hidle, hbad⟩ := h
  have hend : Reader.quotationEnd q = Pure.pure (String.ofList q.chars.reverse) := by
    simp only [Reader.quotationEnd, Quotation.settle, hidle, hbad]
  intro p
  exact ⟨p.after 0x22, by simp only [Reader.stringLoop, hend]; rfl⟩

theorem Takes.stringLoop_escape {fuel : Nat} {q : Quotation} {u t s : List UInt8} {c : Char}
    {a : String} (hu : EscapeText u c) (h : Takes (Reader.stringLoop fuel (q.addChar c)) t a s) :
    Takes (Reader.stringLoop (fuel + 1) q) (0x5C :: (u ++ t)) a s := by
  intro p
  exact ((Takes.escapeChar hu t).bind h) (p.after 0x5C)

theorem Takes.stringLoop_plain {fuel : Nat} {q : Quotation} {t s : List UInt8} {b : UInt8}
    {a : String} (hb : IsPlain b)
    (h : ∀ pos, Takes (Reader.stringLoop fuel (q.addByte b pos)) t a s) :
    Takes (Reader.stringLoop (fuel + 1) q) (b :: t) a s := by
  intro p
  obtain ⟨p', hp⟩ := h p (p.after b)
  refine ⟨p', ?_⟩
  simp only [Reader.stringLoop, if_neg hb.notQuote, if_neg hb.notBackslash, if_neg hb.notControl]
  exact hp

theorem not_gives_of_bad {fuel : Nat} {q : Quotation} {s m : List UInt8} {a : String}
    (hbad : q.bad ≠ none) : ¬ Gives (Reader.stringLoop fuel q) s a m := by
  induction fuel generalizing q s with
  | zero => exact fun h => h.fail
  | succ fuel ih =>
    intro h
    rcases h.stringLoop with ⟨-, hend, -⟩ | ⟨u, c, t, -, -, hloop⟩ | ⟨b, t, pos, -, -, hloop⟩
    · exact Quotation.bad_settle hbad hend
    · exact ih (Quotation.bad_addChar c (Quotation.bad_settle hbad)) hloop
    · exact ih (Quotation.bad_addByte b pos hbad) hloop

/-- The induction behind the reading of quoted texts; `v` holds the bytes of a character that is not
complete yet. -/
theorem Gives.stringLoop_chars {fuel : Nat} {q : Quotation} {chars : List Char} {p : Pending}
    {v s m : List UInt8} {a : String} (hq : q.Holds chars p) (hv : Opening v p)
    (hplain : ∀ b ∈ v, IsPlain b) (h : Gives (Reader.stringLoop fuel q) s a m) :
    ∃ u more, s = u ++ 0x22 :: m ∧ CharsText (v ++ u) more ∧
      a = String.ofList (chars.reverse ++ more) := by
  induction fuel generalizing q chars p v s with
  | zero => exact h.fail.elim
  | succ fuel ih =>
    have hidle : q.settle.bad = none → p = .idle := by
      intro hend
      by_contra hne
      exact Quotation.bad_settle_of_pending (hq.pending_eq ▸ hne) hend
    rcases h.stringLoop with ⟨rfl, hend, rfl⟩ | ⟨u, c, t, rfl, hu, hloop⟩ | ⟨b, t, pos, rfl, hb, hloop⟩
    · cases hidle hend
      cases hv
      exact ⟨[], [], rfl, .nil, by rw [hq.chars_eq, List.append_nil]⟩
    · have hend : q.settle.bad = none := by
        by_contra hbad
        exact not_gives_of_bad (Quotation.bad_addChar c hbad) hloop
      cases hidle hend
      cases hv
      obtain ⟨w, more, rfl, hmore, rfl⟩ := ih (hq.addChar c) .none hplain hloop
      exact ⟨0x5C :: (u ++ w), c :: more, by simp, .escape hu hmore, by simp⟩
    · have hall : ∀ d ∈ v ++ [b], IsPlain d := by
        intro d hd
        rcases List.mem_append.1 hd with hd | hd
        · exact hplain d hd
        · rwa [List.mem_singleton.1 hd]
      have hfed := feed_fed hv b
      cases hf : feed p b with
      | mk p' marks =>
        rw [hf] at hfed
        cases hfed with
        | more hopen =>
          obtain ⟨w, more, rfl, hmore, rfl⟩ := ih (hq.addByte_more hf pos) hopen hall hloop
          exact ⟨b :: w, more, rfl, by simpa using hmore, rfl⟩
        | @full c hc =>
          obtain ⟨w, more, rfl, hmore, rfl⟩ :=
            ih (hq.addByte_full hf pos) .none (fun _ h => by cases h) hloop
          refine ⟨b :: w, c :: more, rfl, ?_, by simp⟩
          have hchars := CharsText.plain (hc ▸ hall) hmore
          rw [hc] at hchars
          simpa using hchars
        | broken =>
          rw [← hq.pending_eq] at hf
          exact absurd hloop (not_gives_of_bad (Quotation.bad_addByte_broken hf pos))

theorem Gives.stringRest {s m : List UInt8} {a : String} (h : Gives Reader.stringRest s a m) :
    ∃ t, s = t ++ m ∧ QuotedText t a := by
  obtain ⟨n, s', hn, hloop⟩ := h.bind
  obtain ⟨rfl, rfl⟩ := hn.remaining
  obtain ⟨u, chars, rfl, hu, rfl⟩ :=
    Gives.stringLoop_chars ⟨rfl, rfl, rfl⟩ .none (fun _ h => by cases h) hloop
  exact ⟨u ++ [0x22], by simp, u, rfl, by simpa using hu⟩

/-- Bytes that complete no character only change what is pending. -/
theorem Takes.stringLoop_pends {fuel : Nat} {chars : List Char} {p p' : Pending}
    {u t s : List UInt8} {a : String} (hu : Pends p u p') (hplain : ∀ b ∈ u, IsPlain b)
    (h : ∀ q : Quotation, q.Holds chars p' → Takes (Reader.stringLoop fuel q) t a s)
    {q : Quotation} (hq : q.Holds chars p) :
    Takes (Reader.stringLoop (u.length + fuel) q) (u ++ t) a s := by
  induction hu generalizing q with
  | nil p => simpa using h q hq
  | @cons p p₁ p' b u hb hu ih =>
    obtain ⟨hbplain, hrest⟩ := List.forall_mem_cons.1 hplain
    rw [List.length_cons, Nat.add_right_comm]
    exact stringLoop_plain hbplain fun pos => ih hrest h (hq.addByte_more hb pos)

theorem Takes.stringLoop_chars {u : List UInt8} {more : List Char} (hu : CharsText u more)
    {fuel : Nat} (hfuel : u.length < fuel) {q : Quotation} {chars : List Char}
    (hq : q.Holds chars .idle) (s : List UInt8) :
    Takes (Reader.stringLoop fuel q) (u ++ 0x22 :: s) (String.ofList (chars.reverse ++ more)) s := by
  induction hu generalizing fuel q chars with
  | nil =>
    obtain ⟨fuel, rfl⟩ := Nat.exists_eq_succ_of_ne_zero (Nat.ne_zero_of_lt hfuel)
    rw [List.append_nil]
    exact stringLoop_end hq s
  | @plain c t more hc ht ih =>
    obtain ⟨u, b, p, heq, hpends, hlast⟩ := encodeChar_pends c
    rw [heq] at hc hfuel ⊢
    simp only [List.length_append, List.length_singleton] at hfuel
    obtain ⟨k, rfl⟩ : ∃ k, fuel = u.length + (k + 1) := ⟨fuel - u.length - 1, by omega⟩
    rw [List.append_assoc, List.append_assoc, List.singleton_append]
    refine stringLoop_pends hpends (fun d hd => hc d (List.mem_append_left _ hd)) ?_ hq
    intro q' hq'
    refine stringLoop_plain (hc b (by simp)) fun pos => ?_
    have hk : t.length < k := by omega
    simpa using ih hk (hq'.addByte_full hlast pos)
  | @escape u t c more hu ht ih =>
    obtain ⟨fuel, rfl⟩ := Nat.exists_eq_succ_of_ne_zero (Nat.ne_zero_of_lt hfuel)
    simp only [List.length_cons, List.length_append] at hfuel
    rw [List.cons_append, List.append_assoc]
    refine stringLoop_escape hu ?_
    have hrest : t.length < fuel := by omega
    simpa using ih hrest (hq.addChar c)

theorem Takes.stringRest {t : List UInt8} {a : String} (h : QuotedText t a) (s : List UInt8) :
    Takes Reader.stringRest (t ++ s) a s := by
  obtain ⟨u, rfl, hu⟩ := h
  rw [List.append_assoc, List.singleton_append]
  refine (Takes.remaining _).bind ?_
  have hfuel : u.length < (u ++ 0x22 :: s).length + 1 := by
    rw [List.length_append]
    omega
  have hnone : ({} : Quotation).Holds [] .idle := ⟨rfl, rfl, rfl⟩
  simpa using stringLoop_chars hu hfuel hnone s

end Reader

end Gleaner.Json
