import Gleaner.Charset.Decoder

/-! What a decoder reads, said without its states. Bytes are cut into codes, each of which stands for some
characters; a decoder follows a set of codes if it gives the characters of each and keeps no others open. It
then accepts exactly the bytes that are codes one after the other, with the characters of the codes as text. -/
namespace Gleaner.Charset

/-- Which bytes stand for which characters. What they stand for may depend on the shift that the codes
before them have left, and they may leave another one. -/
abbrev Codes (κ : Type) := κ → List UInt8 → List Char → κ → Prop

/-- Codes that do not depend on what stands before them. -/
def Codes.plain (code : List UInt8 → List Char → Prop) : Codes Unit := fun _ u w _ => code u w

/-- From the shift `k` on, the bytes are codes one after the other and stand for the text. -/
inductive Codes.Write {κ : Type} (codes : Codes κ) : κ → List Char → List UInt8 → Prop
  | nil (k : κ) : Write codes k [] []
  | cons {k k' : κ} {u bytes : List UInt8} {w text : List Char} (code : codes k u w k')
      (rest : Write codes k' text bytes) : Write codes k (w ++ text) (u ++ bytes)

namespace Decoder

variable {σ κ : Type} {d : Decoder σ} {s s' t : σ} {b : UInt8} {bytes u v : List UInt8}
  {text w : List Char}

/-- The bytes lead from one state to another and give the text on the way. -/
inductive Run (d : Decoder σ) : σ → List UInt8 → List Char → σ → Prop
  | nil (s : σ) : Run d s [] [] s
  | cons {s s' t : σ} {b : UInt8} {bytes : List UInt8} {w text : List Char}
      (feed : d.feed s b = some (s', w)) (rest : Run d s' bytes text t) :
      Run d s (b :: bytes) (w ++ text) t

theorem Run.append (h : d.Run s u w s') (h' : d.Run s' v text t) :
    d.Run s (u ++ v) (w ++ text) t := by
  induction h with
  | nil s => exact h'
  | cons feed _ ih =>
    rw [List.append_assoc]
    exact .cons feed (ih h')

theorem Run.single (h : d.feed s b = some (s', w)) : d.Run s [b] w s' := by
  simpa using Run.cons h (.nil s')

theorem foldlM_step_iff {read read' : List Char} :
    bytes.foldlM d.step (s, read) = some (t, read') ↔
      ∃ text, d.Run s bytes text t ∧ read' = text.reverse ++ read := by
  induction bytes generalizing s read with
  | nil =>
    constructor
    · rintro ⟨⟩
      exact ⟨[], .nil _, rfl⟩
    · rintro ⟨text, ⟨⟩, rfl⟩
      rfl
  | cons b bytes ih =>
    rw [List.foldlM_cons, Option.bind_eq_bind, Option.bind_eq_some_iff]
    simp only [step, Option.map_eq_some_iff]
    constructor
    · rintro ⟨_, ⟨⟨s', w⟩, hfeed, rfl⟩, hrest⟩
      obtain ⟨text, hrun, rfl⟩ := ih.1 hrest
      exact ⟨w ++ text, .cons hfeed hrun, by simp⟩
    · rintro ⟨_, ⟨⟩, rfl⟩
      next s' w text hfeed hrun =>
        exact ⟨_, ⟨_, hfeed, rfl⟩, ih.2 ⟨text, hrun, by simp⟩⟩

theorem decode?_eq_some_iff :
    d.decode? bytes = some text ↔ ∃ t, d.Run d.start bytes text t ∧ d.rests t = true := by
  unfold decode?
  constructor
  · intro h
    split at h
    · next t read hfold =>
        split at h
        · next hrests =>
            obtain ⟨text', hrun, rfl⟩ := foldlM_step_iff.1 hfold
            obtain rfl : text' = text := by simpa using h
            exact ⟨t, hrun, hrests⟩
        · cases h
    · cases h
  · rintro ⟨t, hrun, hrests⟩
    simp [foldlM_step_iff.2 ⟨text, hrun, rfl⟩, hrests]

/-- The decoder follows the codes from the shift `start` on. `opened k u s` says that `s` is the state after
the bytes `u` of an unfinished code that begins in the shift `k`. -/
structure Follows (d : Decoder σ) (codes : Codes κ) (start : κ) (opened : κ → List UInt8 → σ → Prop)
    (rest : κ → σ) : Prop where
  start : d.start = rest start
  opened_rest : ∀ k, opened k [] (rest k)
  rests_rest : ∀ k, d.rests (rest k) = true
  closed : ∀ {k u s}, opened k u s → d.rests s = true → u = []
  /-- A byte is one more of the code, or it completes the code. -/
  feed : ∀ {k u s b s' w}, opened k u s → d.feed s b = some (s', w) →
    (w = [] ∧ opened k (u ++ [b]) s') ∨ ∃ k', s' = rest k' ∧ codes k (u ++ [b]) w k'
  run : ∀ {k u w k'}, codes k u w k' → d.Run (rest k) u w (rest k')

variable {codes : Codes κ} {start k : κ} {opened : κ → List UInt8 → σ → Prop} {rest : κ → σ}

theorem Follows.write_of_run (h : d.Follows codes start opened rest) (hrun : d.Run s bytes text t)
    (hrests : d.rests t = true) (hopened : opened k u s) : codes.Write k text (u ++ bytes) := by
  induction hrun generalizing k u with
  | nil s =>
    rw [h.closed hopened hrests]
    exact .nil k
  | @cons s s' t b bytes w text hfeed _ ih =>
    have hbytes : u ++ b :: bytes = u ++ [b] ++ bytes := by simp
    rw [hbytes]
    rcases h.feed hopened hfeed with ⟨rfl, hmore⟩ | ⟨k', rfl, hcode⟩
    · exact ih hrests hmore
    · exact .cons hcode (ih hrests (h.opened_rest k'))

theorem Follows.run_of_write (h : d.Follows codes start opened rest)
    (hwrite : codes.Write k text bytes) : ∃ k', d.Run (rest k) bytes text (rest k') := by
  induction hwrite with
  | nil k => exact ⟨k, .nil _⟩
  | cons hcode _ ih =>
    obtain ⟨k', hrun⟩ := ih
    exact ⟨k', (h.run hcode).append hrun⟩

theorem Follows.decode?_eq_some_iff (h : d.Follows codes start opened rest) :
    d.decode? bytes = some text ↔ codes.Write start text bytes := by
  rw [Decoder.decode?_eq_some_iff]
  constructor
  · rintro ⟨t, hrun, hrests⟩
    rw [h.start] at hrun
    exact h.write_of_run hrun hrests (h.opened_rest start)
  · intro hwrite
    obtain ⟨k, hrun⟩ := h.run_of_write hwrite
    exact ⟨rest k, h.start ▸ hrun, h.rests_rest k⟩

end Decoder

/-! Bytes of ASCII. -/

theorem lt_of_ascii {b : Nat} {c : Char} (h : ascii? b = some c) : b < 0x80 :=
  (Option.ite_none_right_eq_some.1 h).1

/-! Encodings of one byte or two. -/

namespace Pairs

inductive Code (p : Pairs) : List UInt8 → List Char → Prop
  | single {b : UInt8} {c : Char} (hlead : p.isLead b.toNat = false)
      (h : p.single b.toNat = some c) : Code p [b] [c]
  | pair {a b : UInt8} {w : List Char} (hlead : p.isLead a.toNat = true)
      (h : p.pair a.toNat b.toNat = some w) : Code p [a, b] w

inductive Opened (p : Pairs) : Unit → List UInt8 → Option Nat → Prop
  | rest : Opened p () [] none
  | lead {a : UInt8} (h : p.isLead a.toNat = true) : Opened p () [a] (some a.toNat)

theorem decoder_follows (p : Pairs) :
    p.decoder.Follows (.plain p.Code) () p.Opened (fun _ => none) where
  start := rfl
  opened_rest _ := .rest
  rests_rest _ := rfl
  closed h hrests := by
    cases h with
    | rest => rfl
    | lead => cases hrests
  feed {k u s b s' w} h hfeed := by
    cases h with
    | rest =>
      simp only [decoder] at hfeed
      split at hfeed
      · next hlead =>
          cases hfeed
          exact .inl ⟨rfl, .lead hlead⟩
      · next hlead =>
          obtain ⟨c, hc, heq⟩ := Option.map_eq_some_iff.1 hfeed
          cases heq
          exact .inr ⟨(), rfl, .single (Bool.eq_false_iff.2 hlead) hc⟩
    | lead hlead =>
      obtain ⟨_, hw, heq⟩ := Option.map_eq_some_iff.1 hfeed
      cases heq
      exact .inr ⟨(), rfl, .pair hlead hw⟩
  run h := by
    cases h with
    | single hlead hc =>
      refine .single ?_
      simp [decoder, hlead, hc]
    | @pair a _ _ hlead hw =>
      have hfirst : p.decoder.feed none a = some (some a.toNat, []) := by simp [decoder, hlead]
      refine .cons hfirst (.single ?_)
      simp [decoder, hw]

end Pairs

end Gleaner.Charset
