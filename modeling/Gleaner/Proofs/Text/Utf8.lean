import Mathlib.Data.String.Basic
import Gleaner.Text.Utf8

/-! UTF-8 as a code. The bytes of a character are the ones that the scan takes for it, and no others; and
texts are ordered as their bytes are. -/
namespace Gleaner.Text.Utf8

/-! The bytes of one character, with the code point that they spell. -/

def IsTail (b : UInt8) : Prop := 0x80 ≤ b.toNat ∧ b.toNat ≤ 0xBF

/-- The bytes spell the code point in their shortest form, surrogates left out. -/
inductive Spells (n : Nat) : List UInt8 → Prop
  | one {a : UInt8} (ha : a.toNat < 0x80) (hn : n = a.toNat) : Spells n [a]
  | two {a b : UInt8} (ha : 0xC2 ≤ a.toNat ∧ a.toNat < 0xE0) (hb : IsTail b)
      (hn : n = (a.toNat - 0xC0) * 64 + (b.toNat - 0x80)) : Spells n [a, b]
  | three {a b c : UInt8} (ha : 0xE0 ≤ a.toNat ∧ a.toNat < 0xF0) (hb : IsTail b)
      (hlow : a.toNat = 0xE0 → 0xA0 ≤ b.toNat) (hhigh : a.toNat = 0xED → b.toNat ≤ 0x9F)
      (hc : IsTail c)
      (hn : n = ((a.toNat - 0xE0) * 64 + (b.toNat - 0x80)) * 64 + (c.toNat - 0x80)) :
      Spells n [a, b, c]
  | four {a b c d : UInt8} (ha : 0xF0 ≤ a.toNat ∧ a.toNat < 0xF5) (hb : IsTail b)
      (hlow : a.toNat = 0xF0 → 0x90 ≤ b.toNat) (hhigh : a.toNat = 0xF4 → b.toNat ≤ 0x8F)
      (hc : IsTail c) (hd : IsTail d)
      (hn : n = (((a.toNat - 0xF0) * 64 + (b.toNat - 0x80)) * 64 + (c.toNat - 0x80)) * 64 +
        (d.toNat - 0x80)) :
      Spells n [a, b, c, d]

theorem isValidChar_toNat (c : Char) : c.toNat < 0xD800 ∨ 0xDFFF < c.toNat ∧ c.toNat < 0x110000 :=
  c.valid

theorem toNat_ofNat_mod_add {n m k : Nat} (h : m + k ≤ 0x100) (hm : 0 < m) :
    (UInt8.ofNat (n % m + k)).toNat = n % m + k := by
  have := Nat.mod_lt n hm
  exact UInt8.toNat_ofNat_of_lt' (by simp only [UInt8.size]; omega)

theorem spells_encodeChar (c : Char) : Spells c.toNat (String.utf8EncodeChar c) := by
  have hvalid := isValidChar_toNat c
  have hval : c.val.toNat = c.toNat := rfl
  simp only [String.utf8EncodeChar, hval]
  generalize c.toNat = n at hvalid
  have h64 : ∀ k, (UInt8.ofNat (k % 64 + 128)).toNat = k % 64 + 128 :=
    fun k => toNat_ofNat_mod_add (by decide) (by decide)
  have hTail : ∀ k, IsTail (UInt8.ofNat (k % 64 + 128)) := by
    intro k
    rw [IsTail, h64]
    omega
  split_ifs with h₁ h₂ h₃
  · have h : (UInt8.ofNat n).toNat = n := UInt8.toNat_ofNat_of_lt' (by simp only [UInt8.size]; omega)
    exact .one (by omega) h.symm
  · have ha : (UInt8.ofNat (n / 64 % 32 + 192)).toNat = n / 64 % 32 + 192 :=
      toNat_ofNat_mod_add (by decide) (by decide)
    refine .two ?_ (hTail _) ?_ <;> rw [ha]
    · omega
    · rw [h64]
      omega
  · have ha : (UInt8.ofNat (n / 4096 % 16 + 224)).toNat = n / 4096 % 16 + 224 :=
      toNat_ofNat_mod_add (by decide) (by decide)
    refine .three ?_ (hTail _) ?_ ?_ (hTail _) ?_ <;> simp only [ha, h64] <;> omega
  · have ha : (UInt8.ofNat (n / 262144 % 8 + 240)).toNat = n / 262144 % 8 + 240 :=
      toNat_ofNat_mod_add (by decide) (by decide)
    refine .four ?_ (hTail _) ?_ ?_ (hTail _) (hTail _) ?_ <;> simp only [ha, h64] <;> omega

/-! The bytes as digits of the code point: comparing one is comparing the other. -/

theorem tail_lt_iff {x y : Nat} {b c : UInt8} (hb : IsTail b) (hc : IsTail c) :
    x * 64 + (b.toNat - 0x80) < y * 64 + (c.toNat - 0x80) ↔ x < y ∨ x = y ∧ b < c := by
  simp only [IsTail, UInt8.lt_iff_toNat_lt] at *
  omega

theorem tail_eq_iff {x y : Nat} {b c : UInt8} (hb : IsTail b) (hc : IsTail c) :
    x * 64 + (b.toNat - 0x80) = y * 64 + (c.toNat - 0x80) ↔ x = y ∧ b = c := by
  simp only [IsTail, ← UInt8.toNat_inj] at *
  omega

theorem lead_lt_iff {k : Nat} {a b : UInt8} (ha : k ≤ a.toNat) (hb : k ≤ b.toNat) :
    a.toNat - k < b.toNat - k ↔ a < b := by
  rw [UInt8.lt_iff_toNat_lt]
  omega

theorem lead_eq_iff {k : Nat} {a b : UInt8} (ha : k ≤ a.toNat) (hb : k ≤ b.toNat) :
    a.toNat - k = b.toNat - k ↔ a = b := by
  rw [← UInt8.toNat_inj]
  omega

/-- A code point has one spelling. -/
theorem Spells.unique {n : Nat} {u w : List UInt8} (hu : Spells n u) (hw : Spells n w) : u = w := by
  cases hu with
  | one ha hn =>
    cases hw with
    | one hb hm => rw [UInt8.toNat_inj.1 (hn.symm.trans hm)]
    | _ => simp only [IsTail] at *; omega
  | two ha hb hn =>
    cases hw with
    | two ha' hb' hm =>
      rw [hn, tail_eq_iff hb hb', lead_eq_iff (by omega) (by omega)] at hm
      rw [hm.1, hm.2]
    | _ => simp only [IsTail] at *; omega
  | three ha hb hlow hhigh hc hn =>
    cases hw with
    | three ha' hb' _ _ hc' hm =>
      rw [hn, tail_eq_iff hc hc', tail_eq_iff hb hb', lead_eq_iff ha.1 ha'.1] at hm
      rw [hm.1.1, hm.1.2, hm.2]
    | _ => simp only [IsTail] at *; omega
  | four ha hb hlow hhigh hc hd hn =>
    cases hw with
    | four ha' hb' _ _ hc' hd' hm =>
      rw [hn, tail_eq_iff hd hd', tail_eq_iff hc hc', tail_eq_iff hb hb',
        lead_eq_iff ha.1 ha'.1] at hm
      rw [hm.1.1.1, hm.1.1.2, hm.1.2, hm.2]
    | _ => simp only [IsTail] at *; omega

theorem Spells.isValidChar {n : Nat} {u : List UInt8} (h : Spells n u) : n.isValidChar := by
  change n < 0xD800 ∨ 0xDFFF < n ∧ n < 0x110000
  cases h with
  | one ha hn => omega
  | _ => simp only [IsTail] at *; omega

theorem Spells.encodeChar {n : Nat} {u : List UInt8} (h : Spells n u) :
    String.utf8EncodeChar (Char.ofNat n) = u := by
  have hn : (Char.ofNat n).toNat = n := by
    rw [Char.ofNat, dif_pos h.isValidChar]
    rfl
  have hspells := spells_encodeChar (Char.ofNat n)
  rw [hn] at hspells
  exact hspells.unique h

/-! What the scan makes of the bytes of a character. -/

theorem lead_one {b : Nat} (h : b < 0x80) : lead b = (.idle, [some (Char.ofNat b)]) := by
  rw [lead, if_pos h]

theorem lead_two {b : Nat} (h : 0xC2 ≤ b ∧ b < 0xE0) :
    lead b = (.tail 1 0x80 0xBF (b - 0xC0), []) := by
  rw [lead, if_neg (by omega), if_neg (by omega), if_pos h.2]

/-- The second byte of three, bounded so that the code point is neither small nor a surrogate. -/
def low₃ (a : Nat) : Nat := if a = 0xE0 then 0xA0 else 0x80
def high₃ (a : Nat) : Nat := if a = 0xED then 0x9F else 0xBF

theorem lead_three {b : Nat} (h : 0xE0 ≤ b ∧ b < 0xF0) :
    lead b = (.tail 2 (low₃ b) (high₃ b) (b - 0xE0), []) := by
  rw [lead, if_neg (by omega), if_neg (by omega), if_neg (by omega), if_pos h.2]
  rfl

/-- The second byte of four, bounded so that the code point is neither small nor too great. -/
def low₄ (a : Nat) : Nat := if a = 0xF0 then 0x90 else 0x80
def high₄ (a : Nat) : Nat := if a = 0xF4 then 0x8F else 0xBF

theorem lead_four {b : Nat} (h : 0xF0 ≤ b ∧ b < 0xF5) :
    lead b = (.tail 3 (low₄ b) (high₄ b) (b - 0xF0), []) := by
  rw [lead, if_neg (by omega), if_neg (by omega), if_neg (by omega), if_neg (by omega), if_pos h.2]
  rfl

theorem within₃_iff {a b : Nat} :
    low₃ a ≤ b ∧ b ≤ high₃ a ↔
      (0x80 ≤ b ∧ b ≤ 0xBF) ∧ (a = 0xE0 → 0xA0 ≤ b) ∧ (a = 0xED → b ≤ 0x9F) := by
  unfold low₃ high₃
  split_ifs <;> omega

theorem within₄_iff {a b : Nat} :
    low₄ a ≤ b ∧ b ≤ high₄ a ↔
      (0x80 ≤ b ∧ b ≤ 0xBF) ∧ (a = 0xF0 → 0x90 ≤ b) ∧ (a = 0xF4 → b ≤ 0x8F) := by
  unfold low₄ high₄
  split_ifs <;> omega

theorem feed_tail {need low high point : Nat} {b : UInt8} (h : low ≤ b.toNat ∧ b.toNat ≤ high)
    (hneed : 1 < need) :
    feed (.tail need low high point) b =
      (.tail (need - 1) 0x80 0xBF (point * 64 + (b.toNat - 0x80)), []) := by
  simp only [feed, if_pos h, if_neg (Nat.not_le.2 hneed)]

theorem feed_last {low high point : Nat} {b : UInt8} (h : low ≤ b.toNat ∧ b.toNat ≤ high) :
    feed (.tail 1 low high point) b =
      (.idle, [some (Char.ofNat (point * 64 + (b.toNat - 0x80)))]) := by
  simp only [feed, if_pos h, le_refl, ↓reduceIte]

theorem feed_out {need low high point : Nat} {b : UInt8} (h : ¬ (low ≤ b.toNat ∧ b.toNat ≤ high)) :
    feed (.tail need low high point) b = ((lead b.toNat).1, none :: (lead b.toNat).2) := by
  simp only [feed, if_neg h]

/-- The bytes are the beginning of a character and leave the rest of it open. -/
inductive Opening : List UInt8 → Pending → Prop
  | none : Opening [] .idle
  | two {a : UInt8} (ha : 0xC2 ≤ a.toNat ∧ a.toNat < 0xE0) :
      Opening [a] (.tail 1 0x80 0xBF (a.toNat - 0xC0))
  | three {a : UInt8} (ha : 0xE0 ≤ a.toNat ∧ a.toNat < 0xF0) :
      Opening [a] (.tail 2 (low₃ a.toNat) (high₃ a.toNat) (a.toNat - 0xE0))
  | three₂ {a b : UInt8} (ha : 0xE0 ≤ a.toNat ∧ a.toNat < 0xF0)
      (hb : low₃ a.toNat ≤ b.toNat ∧ b.toNat ≤ high₃ a.toNat) :
      Opening [a, b] (.tail 1 0x80 0xBF ((a.toNat - 0xE0) * 64 + (b.toNat - 0x80)))
  | four {a : UInt8} (ha : 0xF0 ≤ a.toNat ∧ a.toNat < 0xF5) :
      Opening [a] (.tail 3 (low₄ a.toNat) (high₄ a.toNat) (a.toNat - 0xF0))
  | four₂ {a b : UInt8} (ha : 0xF0 ≤ a.toNat ∧ a.toNat < 0xF5)
      (hb : low₄ a.toNat ≤ b.toNat ∧ b.toNat ≤ high₄ a.toNat) :
      Opening [a, b] (.tail 2 0x80 0xBF ((a.toNat - 0xF0) * 64 + (b.toNat - 0x80)))
  | four₃ {a b c : UInt8} (ha : 0xF0 ≤ a.toNat ∧ a.toNat < 0xF5)
      (hb : low₄ a.toNat ≤ b.toNat ∧ b.toNat ≤ high₄ a.toNat) (hc : IsTail c) :
      Opening [a, b, c] (.tail 1 0x80 0xBF
        (((a.toNat - 0xF0) * 64 + (b.toNat - 0x80)) * 64 + (c.toNat - 0x80)))

/-- What one more byte does behind the beginning of a character. -/
inductive Fed (u : List UInt8) (b : UInt8) : Pending × List (Option Char) → Prop
  | more {p : Pending} (h : Opening (u ++ [b]) p) : Fed u b (p, [])
  | full {c : Char} (h : String.utf8EncodeChar c = u ++ [b]) : Fed u b (.idle, [some c])
  | broken {p : Pending} {marks : List (Option Char)} : Fed u b (p, none :: marks)

theorem Spells.fed {n : Nat} {u : List UInt8} {b : UInt8} (h : Spells n (u ++ [b])) :
    Fed u b (.idle, [some (Char.ofNat n)]) :=
  .full h.encodeChar

/-- A byte that begins a character opens it, is all of it, or is out of place. -/
theorem lead_cases (b : UInt8) :
    (∃ q, Opening [b] q ∧ lead b.toNat = (q, [])) ∨
      (b.toNat < 0x80 ∧ lead b.toNat = (.idle, [some (Char.ofNat b.toNat)])) ∨
      lead b.toNat = (.idle, [none]) := by
  by_cases h₁ : b.toNat < 0x80
  · exact .inr (.inl ⟨h₁, lead_one h₁⟩)
  by_cases h₂ : 0xC2 ≤ b.toNat ∧ b.toNat < 0xE0
  · exact .inl ⟨_, .two h₂, lead_two h₂⟩
  by_cases h₃ : 0xE0 ≤ b.toNat ∧ b.toNat < 0xF0
  · exact .inl ⟨_, .three h₃, lead_three h₃⟩
  by_cases h₄ : 0xF0 ≤ b.toNat ∧ b.toNat < 0xF5
  · exact .inl ⟨_, .four h₄, lead_four h₄⟩
  refine .inr (.inr ?_)
  unfold lead
  split_ifs <;> first | omega | rfl

theorem lead_fed (b : UInt8) : Fed [] b (lead b.toNat) := by
  rcases lead_cases b with ⟨q, hq, h⟩ | ⟨hb, h⟩ | h <;> rw [h]
  · exact .more hq
  · exact Spells.fed (.one hb rfl)
  · exact .broken

/-- The cases follow the beginning; a byte out of bounds breaks each of them. -/
theorem feed_fed {u : List UInt8} {p : Pending} (h : Opening u p) (b : UInt8) :
    Fed u b (feed p b) := by
  cases h with
  | none => exact lead_fed b
  | two ha =>
    by_cases hb : 0x80 ≤ b.toNat ∧ b.toNat ≤ 0xBF
    · rw [feed_last hb]
      exact Spells.fed (.two ha hb rfl)
    · rw [feed_out hb]
      exact .broken
  | @three a ha =>
    by_cases hb : low₃ a.toNat ≤ b.toNat ∧ b.toNat ≤ high₃ a.toNat
    · rw [feed_tail hb (by decide)]
      exact .more (.three₂ ha hb)
    · rw [feed_out hb]
      exact .broken
  | three₂ ha hb =>
    obtain ⟨htail, hlow, hhigh⟩ := within₃_iff.1 hb
    by_cases hc : 0x80 ≤ b.toNat ∧ b.toNat ≤ 0xBF
    · rw [feed_last hc]
      exact Spells.fed (.three ha htail hlow hhigh hc rfl)
    · rw [feed_out hc]
      exact .broken
  | @four a ha =>
    by_cases hb : low₄ a.toNat ≤ b.toNat ∧ b.toNat ≤ high₄ a.toNat
    · rw [feed_tail hb (by decide)]
      exact .more (.four₂ ha hb)
    · rw [feed_out hb]
      exact .broken
  | four₂ ha hb =>
    by_cases hc : 0x80 ≤ b.toNat ∧ b.toNat ≤ 0xBF
    · rw [feed_tail hc (by decide)]
      exact .more (.four₃ ha hb hc)
    · rw [feed_out hc]
      exact .broken
  | four₃ ha hb hc =>
    obtain ⟨htail, hlow, hhigh⟩ := within₄_iff.1 hb
    by_cases hd : 0x80 ≤ b.toNat ∧ b.toNat ≤ 0xBF
    · rw [feed_last hd]
      exact Spells.fed (.four ha htail hlow hhigh hc hd rfl)
    · rw [feed_out hd]
      exact .broken

/-- The bytes between the two states complete no character and mark nothing. -/
inductive Pends : Pending → List UInt8 → Pending → Prop
  | nil (p : Pending) : Pends p [] p
  | cons {p p' q : Pending} {b : UInt8} {u : List UInt8} (hb : feed p b = (p', []))
      (hu : Pends p' u q) : Pends p (b :: u) q

/-- The bytes of a character complete it, and none of them does so before the last. -/
theorem encodeChar_pends (c : Char) : ∃ u b p, String.utf8EncodeChar c = u ++ [b] ∧
    Pends .idle u p ∧ feed p b = (.idle, [some c]) := by
  have hspells := spells_encodeChar c
  have hc : Char.ofNat c.toNat = c := Char.ofNat_toNat c
  generalize String.utf8EncodeChar c = u at hspells
  cases hspells with
  | @one a ha hn =>
    refine ⟨[], a, _, rfl, .nil _, ?_⟩
    rw [feed, lead_one ha, ← hn, hc]
  | @two a b ha hb hn =>
    refine ⟨[a], b, _, rfl, .cons (lead_two ha) (.nil _), ?_⟩
    rw [feed_last hb, ← hn, hc]
  | @three a b d ha hb hlow hhigh hd hn =>
    have hb' := within₃_iff.2 ⟨hb, hlow, hhigh⟩
    refine ⟨[a, b], d, _, rfl,
      .cons (lead_three ha) (.cons (feed_tail hb' (by decide)) (.nil _)), ?_⟩
    rw [feed_last hd, ← hn, hc]
  | @four a b d e ha hb hlow hhigh hd he hn =>
    have hb' := within₄_iff.2 ⟨hb, hlow, hhigh⟩
    refine ⟨[a, b, d], e, _, rfl,
      .cons (lead_four ha) (.cons (feed_tail hb' (by decide))
        (.cons (feed_tail hd (by decide)) (.nil _))), ?_⟩
    rw [feed_last he, ← hn, hc]

/-! Texts, and their order. -/

theorem encode_append (s t : List Char) : encode (s ++ t) = encode s ++ encode t :=
  List.flatMap_append

theorem encode_cons (c : Char) (s : List Char) : encode (c :: s) = String.utf8EncodeChar c ++ encode s :=
  List.flatMap_cons

theorem Spells.append_lt {m n : Nat} {u w : List UInt8} (hu : Spells m u) (hw : Spells n w)
    (h : m < n) (s t : List UInt8) : u ++ s < w ++ t := by
  cases hu with
  | one ha hm =>
    cases hw with
    | one hb hn =>
      have hlt := UInt8.lt_iff_toNat_lt.2 (hm ▸ hn ▸ h)
      simp [List.cons_lt_cons_iff, hlt]
    | _ =>
      apply List.cons_lt_cons_iff.2
      rw [UInt8.lt_iff_toNat_lt]
      omega
  | two ha hb hm =>
    cases hw with
    | two ha' hb' hn =>
      rw [hm, hn, tail_lt_iff hb hb', lead_lt_iff (by omega) (by omega),
        lead_eq_iff (by omega) (by omega)] at h
      simp only [List.cons_append, List.nil_append, List.cons_lt_cons_iff]
      rcases h with h | ⟨rfl, h⟩ <;> simp [h]
    | one => simp only [IsTail] at *; omega
    | _ =>
      apply List.cons_lt_cons_iff.2
      rw [UInt8.lt_iff_toNat_lt]
      omega
  | three ha hb hlow hhigh hc hm =>
    cases hw with
    | three ha' hb' _ _ hc' hn =>
      rw [hm, hn, tail_lt_iff hc hc', tail_lt_iff hb hb', tail_eq_iff hb hb',
        lead_lt_iff ha.1 ha'.1, lead_eq_iff ha.1 ha'.1] at h
      simp only [List.cons_append, List.nil_append, List.cons_lt_cons_iff]
      rcases h with (h | ⟨rfl, h⟩) | ⟨⟨rfl, rfl⟩, h⟩ <;> simp [h]
    | four =>
      apply List.cons_lt_cons_iff.2
      rw [UInt8.lt_iff_toNat_lt]
      omega
    | _ => simp only [IsTail] at *; omega
  | four ha hb hlow hhigh hc hd hm =>
    cases hw with
    | four ha' hb' _ _ hc' hd' hn =>
      rw [hm, hn, tail_lt_iff hd hd', tail_lt_iff hc hc', tail_lt_iff hb hb', tail_eq_iff hc hc',
        tail_eq_iff hb hb', lead_lt_iff ha.1 ha'.1, lead_eq_iff ha.1 ha'.1] at h
      simp only [List.cons_append, List.nil_append, List.cons_lt_cons_iff]
      rcases h with ((h | ⟨rfl, h⟩) | ⟨⟨rfl, rfl⟩, h⟩) | ⟨⟨⟨rfl, rfl⟩, rfl⟩, h⟩ <;> simp [h]
    | _ => simp only [IsTail] at *; omega

theorem append_lt_append_left_iff (u : List UInt8) {s t : List UInt8} :
    u ++ s < u ++ t ↔ s < t := by
  induction u with
  | nil => rfl
  | cons b u ih => simp [ih]

theorem encode_lt_of_lt {s t : List Char} (h : s < t) : encode s < encode t := by
  induction s generalizing t with
  | nil =>
    cases t with
    | nil => exact absurd h (List.lt_irrefl _)
    | cons d t =>
      cases hd : String.utf8EncodeChar d with
      | nil => exact absurd hd String.utf8EncodeChar_ne_nil
      | cons b bs => simp [encode, hd]
  | cons c s ih =>
    cases t with
    | nil => exact absurd h (List.not_lt_nil _)
    | cons d t =>
      simp only [encode, List.flatMap_cons]
      rcases List.cons_lt_cons_iff.1 h with hlt | ⟨rfl, hlt⟩
      · exact (spells_encodeChar c).append_lt (spells_encodeChar d) hlt _ _
      · exact (append_lt_append_left_iff _).2 (ih hlt)

theorem lt_iff_encode_lt {s t : String} : s < t ↔ encode s.toList < encode t.toList := by
  rw [String.lt_iff_toList_lt]
  refine ⟨encode_lt_of_lt, fun h => ?_⟩
  rcases lt_trichotomy s.toList t.toList with hlt | heq | hgt
  · exact hlt
  · rw [heq] at h
    exact absurd h (List.lt_irrefl _)
  · exact absurd (encode_lt_of_lt hgt) (List.lt_asymm h)

end Gleaner.Text.Utf8
