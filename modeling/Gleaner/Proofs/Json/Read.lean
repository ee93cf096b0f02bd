import Gleaner.Proofs.Json.Grammar

/-! The reader takes exactly the texts of the grammar and gives the values that they mean, up to the allowed
nesting. The grammar has no value for a number out of range, and such a number is refused. -/
namespace Gleaner.Json

namespace Reader

variable {s m w : List UInt8}

theorem eq_cons_of_head {b : UInt8} (h : s.head? = some b) : s = b :: s.tail := by
  cases s with
  | nil => cases h
  | cons a s =>
    cases h
    rfl

/-! Separators, names and ends. -/

theorem Gives.hasItem_some {first : Bool} (h : Gives (Reader.hasItem first) s true m) :
    ∃ w w', s = w ++ (comma first ++ (w' ++ m)) ∧ Blanks w ∧ Blanks w' := by
  obtain ⟨o, n, ho, h₁⟩ := h.bind
  obtain ⟨w, hw, rfl, hn, rfl⟩ := ho.token
  split at h₁
  · exact h₁.failNext.elim
  · exact absurd h₁.pure.1 (by decide)
  · next b hb hhead =>
    split_ifs at h₁ with hfirst hcomma
    · rw [hfirst, h₁.pure.2]
      exact ⟨w, [], rfl, hw, .nil⟩
    · obtain ⟨_, n₂, hadvance, h₂⟩ := h₁.bind
      obtain ⟨o, n₃, ho, h₃⟩ := h₂.bind
      obtain ⟨w', hw', hn₂, -, rfl⟩ := ho.token
      split at h₃
      · exact h₃.failNext.elim
      · obtain ⟨-, rfl⟩ := h₃.pure
        rw [eq_cons_of_head hhead, hcomma, ← hadvance.advance, hn₂, comma, if_neg hfirst]
        exact ⟨w, w', rfl, hw, hw'⟩
      · exact h₃.failNext.elim
    · exact h₁.failNext.elim

theorem Gives.hasItem_end {first : Bool} (h : Gives (Reader.hasItem first) s false m) :
    ∃ w t, Blanks w ∧ s = w ++ m ∧ m = 0x5D :: t := by
  obtain ⟨o, n, ho, h₁⟩ := h.bind
  obtain ⟨w, hw, rfl, -, rfl⟩ := ho.token
  split at h₁
  · exact h₁.failNext.elim
  · next hhead =>
    obtain ⟨-, rfl⟩ := h₁.pure
    exact ⟨w, m.tail, hw, rfl, eq_cons_of_head hhead⟩
  · split_ifs at h₁
    · exact absurd h₁.pure.1 (by decide)
    · obtain ⟨_, n₂, -, h₂⟩ := h₁.bind
      obtain ⟨o, n₃, -, h₃⟩ := h₂.bind
      split at h₃
      · exact h₃.failNext.elim
      · exact absurd h₃.pure.1 (by decide)
      · exact h₃.failNext.elim
    · exact h₁.failNext.elim

theorem Takes.hasItem_end (first : Bool) (hw : Blanks w) (s : List UInt8) :
    Takes (Reader.hasItem first) (w ++ 0x5D :: s) false (0x5D :: s) :=
  (Takes.token hw (solid_cons rfl)).bind (.pure _ _)

theorem Takes.hasItem_some {first : Bool} {w' t : List UInt8} (hw : Blanks w) (hw' : Blanks w')
    (ht : Begins t) (s : List UInt8) :
    Takes (Reader.hasItem first) (w ++ (comma first ++ (w' ++ (t ++ s)))) true (t ++ s) := by
  have hsolid := ht.solid s
  obtain ⟨b, u, rfl, hb, hne⟩ := ht
  cases first with
  | true =>
    have hskip := Takes.token (hw.append hw') hsolid
    rw [List.append_assoc] at hskip
    refine hskip.bind ?_
    dsimp only [List.cons_append, List.head?_cons]
    split
    · next h => cases h
    · next h => exact absurd (Option.some.inj h) hne
    · exact .pure _ _
  | false =>
    refine (Takes.token hw (solid_cons rfl)).bind ((Takes.advance _ _).bind ?_)
    refine (Takes.token hw' hsolid).bind ?_
    dsimp only [List.cons_append, List.head?_cons]
    split
    · next h => exact absurd (Option.some.inj h) hne
    · exact .pure _ _
    · next h => cases h

theorem Gives.nextKey_key {k : Option String} (h : Gives Reader.nextKey.key s k m)
    (hhead : s.head? = some 0x22) :
    ∃ t name, k = some name ∧ s = 0x22 :: (t ++ m) ∧ QuotedText t name := by
  obtain ⟨_, n, hadvance, h₁⟩ := h.bind
  obtain ⟨name, hname, rfl⟩ := h₁.map
  obtain ⟨t, hn, ht⟩ := hname.stringRest
  refine ⟨t, name, rfl, ?_, ht⟩
  rw [eq_cons_of_head hhead, ← hadvance.advance, hn]

theorem Takes.nextKey_key {t : List UInt8} {name : String} (ht : QuotedText t name)
    (s : List UInt8) : Takes Reader.nextKey.key (0x22 :: (t ++ s)) (some name) s :=
  (Takes.advance _ _).bind ((Takes.stringRest ht s).map some)

theorem Gives.nextKey_some {first : Bool} {name : String}
    (h : Gives (Reader.nextKey first) s (some name) m) :
    ∃ w w' t, s = w ++ (comma first ++ (w' ++ 0x22 :: (t ++ m))) ∧ Blanks w ∧ Blanks w' ∧
      QuotedText t name := by
  obtain ⟨o, n, ho, h₁⟩ := h.bind
  obtain ⟨w, hw, rfl, -, rfl⟩ := ho.token
  split at h₁
  · exact h₁.failNext.elim
  · exact absurd h₁.pure.1 (by simp)
  · next b hb hhead =>
    split_ifs at h₁ with hfirst hquote hcomma
    · obtain ⟨t, _, hname, hn, ht⟩ := h₁.nextKey_key (hquote ▸ hhead)
      cases hname
      rw [hfirst, hn]
      exact ⟨w, [], t, rfl, hw, .nil, ht⟩
    · exact h₁.failNext.elim
    · obtain ⟨_, n₂, hadvance, h₂⟩ := h₁.bind
      obtain ⟨o, n₃, ho, h₃⟩ := h₂.bind
      obtain ⟨w', hw', hn₂, -, rfl⟩ := ho.token
      split at h₃
      · next hhead' =>
        obtain ⟨t, _, hname, hn₃, ht⟩ := h₃.nextKey_key hhead'
        cases hname
        rw [eq_cons_of_head hhead, hcomma, ← hadvance.advance, hn₂, hn₃, comma, if_neg hfirst]
        exact ⟨w, w', t, rfl, hw, hw', ht⟩
      · exact h₃.failNext.elim
      · exact h₃.failNext.elim
      · exact h₃.failNext.elim
    · exact h₁.failNext.elim

theorem Gives.nextKey_none {first : Bool} (h : Gives (Reader.nextKey first) s none m) :
    ∃ w t, Blanks w ∧ s = w ++ m ∧ m = 0x7D :: t := by
  have hkey : ∀ {s m}, s.head? = some 0x22 → ¬ Gives Reader.nextKey.key s none m := by
    intro s m hhead hgives
    obtain ⟨_, _, hname, -⟩ := hgives.nextKey_key hhead
    cases hname
  obtain ⟨o, n, ho, h₁⟩ := h.bind
  obtain ⟨w, hw, rfl, -, rfl⟩ := ho.token
  split at h₁
  · exact h₁.failNext.elim
  · next hhead =>
    obtain ⟨-, rfl⟩ := h₁.pure
    exact ⟨w, m.tail, hw, rfl, eq_cons_of_head hhead⟩
  · next b hb hhead =>
    split_ifs at h₁ with hfirst hquote hcomma
    · exact absurd h₁ (hkey (hquote ▸ hhead))
    · exact h₁.failNext.elim
    · obtain ⟨_, n₂, -, h₂⟩ := h₁.bind
      obtain ⟨o, n₃, ho, h₃⟩ := h₂.bind
      obtain ⟨w', hw', -, -, rfl⟩ := ho.token
      split at h₃
      · next hhead' => exact absurd h₃ (hkey hhead')
      · exact h₃.failNext.elim
      · exact h₃.failNext.elim
      · exact h₃.failNext.elim
    · exact h₁.failNext.elim

theorem Takes.nextKey_end (first : Bool) (hw : Blanks w) (s : List UInt8) :
    Takes (Reader.nextKey first) (w ++ 0x7D :: s) none (0x7D :: s) :=
  (Takes.token hw (solid_cons rfl)).bind (.pure _ _)

theorem Takes.nextKey_some {first : Bool} {w' t : List UInt8} {name : String} (hw : Blanks w)
    (hw' : Blanks w') (ht : QuotedText t name) (s : List UInt8) :
    Takes (Reader.nextKey first) (w ++ (comma first ++ (w' ++ 0x22 :: (t ++ s)))) (some name) s := by
  cases first with
  | true =>
    have hskip := Takes.token (hw.append hw') (s := 0x22 :: (t ++ s)) (solid_cons rfl)
    rw [List.append_assoc] at hskip
    exact hskip.bind (nextKey_key ht s)
  | false =>
    exact (Takes.token hw (solid_cons rfl)).bind ((Takes.advance _ _).bind
      ((Takes.token hw' (solid_cons rfl)).bind (nextKey_key ht s)))

theorem Gives.colon {u : Unit} (h : Gives Reader.colon s u m) :
    ∃ w, Blanks w ∧ s = w ++ 0x3A :: m := by
  obtain ⟨o, n, ho, h₁⟩ := h.bind
  obtain ⟨w, hw, rfl, -, rfl⟩ := ho.token
  split at h₁
  · next hhead =>
    rw [eq_cons_of_head hhead, ← h₁.advance]
    exact ⟨w, hw, rfl⟩
  · exact h₁.failNext.elim
  · exact h₁.failNext.elim

theorem Takes.colon (hw : Blanks w) (s : List UInt8) : Takes Reader.colon (w ++ 0x3A :: s) () s :=
  (Takes.token hw (solid_cons rfl)).bind (.advance _ _)

theorem Takes.endList (s : List UInt8) : Takes Reader.endList (0x5D :: s) () s :=
  (Takes.token .nil (solid_cons rfl)).bind (.advance _ _)

theorem Takes.endObject (s : List UInt8) : Takes Reader.endObject (0x7D :: s) () s :=
  (Takes.token .nil (solid_cons rfl)).bind (.advance _ _)

/-! Values without parts. -/

theorem Gives.word {u : List UInt8} {r : Unit} (h : Gives (Reader.word u) s r m) : s = u ++ m := by
  induction u generalizing s with
  | nil => exact h.pure.2.symm
  | cons b u ih =>
    obtain ⟨o, n, ho, h₁⟩ := h.bind
    obtain ⟨rfl, rfl⟩ := ho.next
    cases s with
    | nil => exact h₁.fail.elim
    | cons a s =>
      dsimp only [List.head?_cons, List.tail_cons] at h₁
      split_ifs at h₁ with hab
      · rw [hab, ih h₁, List.cons_append]
      · exact h₁.fail.elim

theorem Takes.word (u s : List UInt8) : Takes (Reader.word u) (u ++ s) () s := by
  induction u with
  | nil => exact .pure () s
  | cons b u ih =>
    refine (Takes.next b (u ++ s)).bind ?_
    dsimp only
    rw [if_pos rfl]
    exact ih

/-- A byte by its number. -/
theorem eq_of_toNat {b : UInt8} {n : Nat} (h : b.toNat = n) : b = UInt8.ofNat n := by
  rw [← h, UInt8.ofNat_toNat]

theorem Gives.scalar_word {b : UInt8} {u : List UInt8} {v v' : Json}
    (h : Gives (do Reader.advance; Reader.word u; Pure.pure v') s v m) (hb : s.head? = some b) :
    v = v' ∧ s = b :: (u ++ m) := by
  obtain ⟨_, n, hadvance, h₁⟩ := h.bind
  obtain ⟨_, k, hword, h₂⟩ := h₁.bind
  obtain ⟨rfl, rfl⟩ := h₂.pure
  exact ⟨rfl, by rw [eq_cons_of_head hb, ← hadvance.advance, hword.word]⟩

theorem Gives.scalar {b : UInt8} {v : Json} (h : Gives (Reader.scalar b) s v m)
    (hb : s.head? = some b) :
    v.nesting = 0 ∧ ∃ t, s = t ++ m ∧ ValueText t v := by
  unfold Reader.scalar at h
  split at h
  · next hcode =>
    obtain ⟨rfl, rfl⟩ := Gives.scalar_word h (eq_of_toNat hcode ▸ hb)
    exact ⟨rfl, _, rfl, .null⟩
  · next hcode =>
    obtain ⟨rfl, rfl⟩ := Gives.scalar_word h (eq_of_toNat hcode ▸ hb)
    exact ⟨rfl, _, rfl, .true⟩
  · next hcode =>
    obtain ⟨rfl, rfl⟩ := Gives.scalar_word h (eq_of_toNat hcode ▸ hb)
    exact ⟨rfl, _, rfl, .false⟩
  · next hcode =>
    obtain ⟨_, n, hadvance, h₁⟩ := h.bind
    obtain ⟨a, hstring, rfl⟩ := h₁.map
    obtain ⟨t, hn, ht⟩ := hstring.stringRest
    refine ⟨rfl, _, ?_, .string ht⟩
    rw [eq_cons_of_head hb, ← hadvance.advance, hn, eq_of_toNat hcode]
    rfl
  · next hcode =>
    obtain ⟨_, n, hadvance, h₁⟩ := h.bind
    obtain ⟨a, hnumber, rfl⟩ := h₁.map
    obtain ⟨t, hn, ht⟩ := hnumber.number
    refine ⟨rfl, _, ?_, .number (.negative ht)⟩
    rw [eq_cons_of_head hb, ← hadvance.advance, hn, eq_of_toNat hcode]
    rfl
  · split_ifs at h
    · obtain ⟨a, hnumber, rfl⟩ := h.map
      obtain ⟨t, hn, ht⟩ := hnumber.number
      exact ⟨rfl, t, hn, .number (.positive ht)⟩
    · exact h.failNext.elim

theorem Takes.scalar_word (b : UInt8) (u : List UInt8) (v : Json) (s : List UInt8) :
    Takes (do Reader.advance; Reader.word u; Pure.pure v) (b :: (u ++ s)) v s :=
  (Takes.advance _ _).bind ((Takes.word u s).bind (.pure v s))

theorem scalar_of_isDigit {b : UInt8} (h : IsDigit b) :
    Reader.scalar b = Json.number <$> Reader.number true := by
  obtain ⟨hlow, hhigh⟩ := h.toNat
  unfold Reader.scalar
  split
  case h_6 => rw [digit?_eq_some h, if_pos Option.isSome_some]
  all_goals omega

/-- What a number begins with. -/
structure StartsNumber (b : UInt8) : Prop where
  notBlank : isBlankByte b = false
  notList : b ≠ 0x5B
  notObject : b ≠ 0x7B

theorem startsNumber_of_isDigit {b : UInt8} (h : IsDigit b) : StartsNumber b := by
  obtain ⟨_, _, hcons, hblank, -⟩ := begins_of_isDigit (u := []) h
  obtain ⟨rfl, -⟩ := List.cons.inj hcons
  refine ⟨hblank, ?_, ?_⟩
  · rintro rfl
    exact absurd h.2 (by decide)
  · rintro rfl
    exact absurd h.2 (by decide)

theorem Takes.scalar_number {t : List UInt8} {n : Number} (h : NumberText t n) (hs : Delimited s) :
    ∃ b, (t ++ s).head? = some b ∧ StartsNumber b ∧
      Takes (Reader.scalar b) (t ++ s) (.number n) s := by
  cases h with
  | @negative t n h =>
    refine ⟨0x2D, rfl, ⟨by decide, by decide, by decide⟩, ?_⟩
    exact (Takes.advance _ _).bind ((Takes.number h hs).map Json.number)
  | positive h =>
    obtain ⟨b, u, rfl, hb⟩ := h.head
    refine ⟨b, rfl, startsNumber_of_isDigit hb, ?_⟩
    rw [scalar_of_isDigit hb]
    exact (Takes.number h hs).map Json.number

theorem refuses_scalar_number {t : List UInt8} (h : LargeText t) (hs : Delimited s) :
    ∃ b, (t ++ s).head? = some b ∧ StartsNumber b ∧
      Refuses (Reader.scalar b) (t ++ s) .numberTooLarge := by
  cases h with
  | negative d h =>
    refine ⟨0x2D, rfl, ⟨by decide, by decide, by decide⟩, ?_⟩
    exact ((Takes.advance _ _).leads _).refuses ((refuses_number d h hs).map Json.number)
  | positive d h =>
    obtain ⟨b, ds, hwhole, hb, -⟩ := d.exists_whole
    refine ⟨b, by rw [Numeral.text, hwhole]; rfl, startsNumber_of_isDigit hb, ?_⟩
    rw [scalar_of_isDigit hb]
    exact (refuses_number d h hs).map Json.number

/-! Lists, objects and values. -/

/-- Behind a value of a list or an object stands something that ends numbers. -/
theorem delimited_of_blanks {b : UInt8} (hw : Blanks w) (hb : endsNumber b = true) (s : List UInt8) :
    Delimited (w ++ b :: s) := by
  cases w with
  | nil => exact .cons hb
  | cons a w =>
    refine .cons ?_
    simp [endsNumber, hw a List.mem_cons_self]

theorem delimited_separated {b : UInt8} (hw : Blanks w) (hb : endsNumber b = true)
    (ts : List (List UInt8)) (s : List UInt8) : Delimited (w ++ (separated false ts ++ b :: s)) := by
  cases ts with
  | nil => exact delimited_of_blanks hw hb s
  | cons t ts => exact delimited_of_blanks hw rfl _

/-! From the grammar to the reader. -/

/-- The text is taken for the value, wherever it stands. -/
def Taken (depth : Nat) (t : List UInt8) (v : Json) : Prop :=
  ∀ fuel w s, t.length ≤ fuel → Blanks w → Delimited s →
    Takes (Reader.valueWith fuel depth) (w ++ (t ++ s)) v s

theorem Takes.itemsWith {fuel depth index : Nat} {items : List Item}
    (hpad : ∀ i ∈ items, i.Padded) (hbegins : ∀ i ∈ items, Begins i.text)
    (htaken : ∀ i ∈ items, Taken depth i.text i.value) (hw : Blanks w)
    (hfuel : (separated (index == 0) (items.map Item.bytes)).length < fuel) (s : List UInt8) :
    Takes (Reader.itemsWith fuel depth index)
      (w ++ (separated (index == 0) (items.map Item.bytes) ++ 0x5D :: s)) (items.map Item.value)
      (0x5D :: s) := by
  induction items generalizing w fuel index with
  | nil =>
    obtain ⟨fuel, rfl⟩ := Nat.exists_eq_succ_of_ne_zero (Nat.ne_zero_of_lt hfuel)
    rw [Reader.itemsWith]
    exact ((hasItem_end _ hw s).under _).bind (.pure _ _)
  | cons i rest ih =>
    obtain ⟨fuel, rfl⟩ := Nat.exists_eq_succ_of_ne_zero (Nat.ne_zero_of_lt hfuel)
    obtain ⟨hpadi, hpadrest⟩ := List.forall_mem_cons.1 hpad
    obtain ⟨hbeginsi, hbeginsrest⟩ := List.forall_mem_cons.1 hbegins
    obtain ⟨htakeni, htakenrest⟩ := List.forall_mem_cons.1 htaken
    have hpos := hbeginsi.length_pos
    simp only [List.map_cons, separated, Item.bytes, List.length_append] at hfuel
    have hlength : i.text.length ≤ fuel := by omega
    have hbound : (separated false (rest.map Item.bytes)).length < fuel := by omega
    have hrest : Takes (Reader.itemsWith fuel depth (index + 1))
        (i.after ++ (separated false (rest.map Item.bytes) ++ 0x5D :: s)) (rest.map Item.value)
        (0x5D :: s) := ih hpadrest hbeginsrest htakenrest hpadi.after hbound
    have hmore : Delimited (i.after ++ (separated false (rest.map Item.bytes) ++ 0x5D :: s)) :=
      delimited_separated hpadi.after rfl _ s
    have hvalue := htakeni fuel [] _ hlength .nil hmore
    simp only [List.map_cons, separated, Item.bytes, List.append_assoc]
    rw [Reader.itemsWith]
    exact ((hasItem_some hw hpadi.before hbeginsi _).under _).bind
      ((hvalue.under _).bind (hrest.bind (.pure _ _)))

theorem Takes.membersWith {fuel depth : Nat} {first : Bool} {members : List Member}
    (hkey : ∀ e ∈ members, KeyText e.key e.name) (hpad : ∀ e ∈ members, e.item.Padded)
    (htaken : ∀ e ∈ members, Taken depth e.item.text e.item.value) (hw : Blanks w)
    (hfuel : (separated first (members.map Member.bytes)).length < fuel) (s : List UInt8) :
    Takes (Reader.membersWith fuel depth first)
      (w ++ (separated first (members.map Member.bytes) ++ 0x7D :: s)) (members.map Member.entry)
      (0x7D :: s) := by
  induction members generalizing w fuel first with
  | nil =>
    obtain ⟨fuel, rfl⟩ := Nat.exists_eq_succ_of_ne_zero (Nat.ne_zero_of_lt hfuel)
    rw [Reader.membersWith]
    exact ((nextKey_end _ hw s).under _).bind (.pure _ _)
  | cons e rest ih =>
    obtain ⟨fuel, rfl⟩ := Nat.exists_eq_succ_of_ne_zero (Nat.ne_zero_of_lt hfuel)
    obtain ⟨⟨w₁, u, w₂, hu, hw₁, hname, hw₂⟩, hkeyrest⟩ := List.forall_mem_cons.1 hkey
    obtain ⟨hpade, hpadrest⟩ := List.forall_mem_cons.1 hpad
    obtain ⟨htakene, htakenrest⟩ := List.forall_mem_cons.1 htaken
    simp only [List.map_cons, separated, Member.bytes, Item.bytes, List.length_cons,
      List.length_append] at hfuel
    have hlength : e.item.text.length ≤ fuel := by omega
    have hbound : (separated false (rest.map Member.bytes)).length < fuel := by omega
    have hrest := ih hkeyrest hpadrest htakenrest hpade.after hbound
    have hmore : Delimited (e.item.after ++ (separated false (rest.map Member.bytes) ++ 0x7D :: s)) :=
      delimited_separated hpade.after rfl _ s
    have hvalue := htakene fuel _ _ hlength hpade.before hmore
    simp only [List.map_cons, separated, Member.bytes, Item.bytes, hu, List.cons_append,
      List.append_assoc]
    rw [Reader.membersWith]
    exact ((nextKey_some hw hw₁ hname _).under _).bind
      ((((colon hw₂ _).bind hvalue).under _).bind (hrest.bind (.pure _ _)))

theorem valueWith_leads_scalar {fuel depth : Nat} {b : UInt8} (hw : Blanks w) (hs : Solid s)
    (hb : s.head? = some b) (hlist : b ≠ 0x5B) (hobject : b ≠ 0x7B) :
    Leads (Reader.valueWith (fuel + 1) depth) (Reader.scalar b) (w ++ s) s := by
  rw [Reader.valueWith]
  refine ((Takes.token hw hs).leads _).trans ?_
  rw [hb]
  split
  · next h => cases h
  · next h => exact absurd (Option.some.inj h) hlist
  · next h => exact absurd (Option.some.inj h) hobject
  · next h =>
    cases h
    exact .refl _ s

theorem Takes.valueWith_scalar {fuel depth : Nat} {b : UInt8} {v : Json} (hw : Blanks w)
    (hs : Solid s) (hb : s.head? = some b) (hlist : b ≠ 0x5B) (hobject : b ≠ 0x7B)
    (hscalar : Takes (Reader.scalar b) s v m) :
    Takes (Reader.valueWith (fuel + 1) depth) (w ++ s) v m :=
  (valueWith_leads_scalar hw hs hb hlist hobject).takes hscalar

theorem Takes.valueWith_list {fuel depth : Nat} {vs : List Json} (hw : Blanks w)
    (h : Takes (Reader.itemsWith fuel (depth + 1) 0) s vs (0x5D :: m)) :
    Takes (Reader.valueWith (fuel + 1) (depth + 2)) (w ++ 0x5B :: s) (.array vs) m := by
  rw [Reader.valueWith]
  refine (Takes.token hw (solid_cons rfl)).bind ?_
  exact (closedBy (h.map Json.array) (endList m)).nested 0x5B

theorem Takes.valueWith_object {fuel depth : Nat} {es : List (String × Json)} (hw : Blanks w)
    (h : Takes (Reader.membersWith fuel (depth + 1) true) s es (0x7D :: m)) :
    Takes (Reader.valueWith (fuel + 1) (depth + 2)) (w ++ 0x7B :: s) (.object es) m := by
  rw [Reader.valueWith]
  refine (Takes.token hw (solid_cons rfl)).bind ?_
  exact (closedBy (h.map Json.object) (endObject m)).nested 0x7B

/-- By induction on the grammar: a text that is not nested too deep is taken. -/
theorem taken_of_valueText {t : List UInt8} {v : Json} (h : ValueText t v) {depth : Nat}
    (hdepth : v.nesting ≤ depth - 1) : Taken depth t v := by
  induction h generalizing depth with
  | null =>
    intro fuel w s hfuel hw hs
    obtain ⟨fuel, rfl⟩ := Nat.exists_eq_succ_of_ne_zero (Nat.ne_zero_of_lt hfuel)
    exact .valueWith_scalar hw (solid_cons rfl) rfl (by decide) (by decide) (.scalar_word _ _ _ s)
  | true =>
    intro fuel w s hfuel hw hs
    obtain ⟨fuel, rfl⟩ := Nat.exists_eq_succ_of_ne_zero (Nat.ne_zero_of_lt hfuel)
    exact .valueWith_scalar hw (solid_cons rfl) rfl (by decide) (by decide) (.scalar_word _ _ _ s)
  | false =>
    intro fuel w s hfuel hw hs
    obtain ⟨fuel, rfl⟩ := Nat.exists_eq_succ_of_ne_zero (Nat.ne_zero_of_lt hfuel)
    exact .valueWith_scalar hw (solid_cons rfl) rfl (by decide) (by decide) (.scalar_word _ _ _ s)
  | number hn =>
    intro fuel w s hfuel hw hs
    have hbegins := (ValueText.number hn).begins
    have hpos := hbegins.length_pos
    obtain ⟨fuel, rfl⟩ : ∃ k, fuel = k + 1 := ⟨fuel - 1, by omega⟩
    obtain ⟨b, hb, hstarts, htake⟩ := Takes.scalar_number hn hs
    exact .valueWith_scalar hw (hbegins.solid s) hb hstarts.notList hstarts.notObject htake
  | string hstring =>
    intro fuel w s hfuel hw hs
    obtain ⟨fuel, rfl⟩ := Nat.exists_eq_succ_of_ne_zero (Nat.ne_zero_of_lt hfuel)
    refine .valueWith_scalar hw (solid_cons rfl) rfl (by decide) (by decide) ?_
    exact (Takes.advance _ _).bind ((Takes.stringRest hstring s).map Json.string)
  | @array w' items hw' hpad htext ih =>
    intro fuel w s hfuel hw hs
    obtain ⟨depth, rfl⟩ : ∃ k, depth = k + 2 := ⟨depth - 2, by rw [nesting] at hdepth; omega⟩
    simp only [listText, List.length_cons, List.length_append] at hfuel
    obtain ⟨fuel, rfl⟩ : ∃ k, fuel = k + 1 := ⟨fuel - 1, by omega⟩
    have hbound : (separated true (items.map Item.bytes)).length < fuel := by omega
    have htaken : ∀ i ∈ items, Taken (depth + 1) i.text i.value :=
      fun i hi => ih i hi (nesting_array_le_iff.1 hdepth i hi)
    simp only [listText, List.cons_append, List.append_assoc, List.nil_append]
    exact .valueWith_list hw (.itemsWith hpad (fun i hi => (htext i hi).begins) htaken hw' hbound s)
  | @object w' members hw' hkey hpad htext ih =>
    intro fuel w s hfuel hw hs
    obtain ⟨depth, rfl⟩ : ∃ k, depth = k + 2 := ⟨depth - 2, by rw [nesting] at hdepth; omega⟩
    simp only [objectText, List.length_cons, List.length_append] at hfuel
    obtain ⟨fuel, rfl⟩ : ∃ k, fuel = k + 1 := ⟨fuel - 1, by omega⟩
    have hbound : (separated true (members.map Member.bytes)).length < fuel := by omega
    have htaken : ∀ e ∈ members, Taken (depth + 1) e.item.text e.item.value :=
      fun e he => ih e he (nesting_object_le_iff.1 hdepth e he)
    simp only [objectText, List.cons_append, List.append_assoc, List.nil_append]
    exact .valueWith_object hw (.membersWith hkey hpad htaken hw' hbound s)

/-! From the reader to the grammar. -/

theorem Gives.itemsWith {fuel depth index : Nat} {vs : List Json}
    (h : Gives (Reader.itemsWith (fuel + 1) depth index) s vs m) :
    (vs = [] ∧ Gives (Reader.hasItem (index == 0)) s false m) ∨
    ∃ v vs' n k, vs = v :: vs' ∧ Gives (Reader.hasItem (index == 0)) s true n ∧
      Gives (Reader.valueWith fuel depth) n v k ∧
      Gives (Reader.itemsWith fuel depth (index + 1)) k vs' m := by
  rw [Reader.itemsWith] at h
  obtain ⟨found, n, hitem, h₁⟩ := h.bind
  cases found with
  | true =>
    obtain ⟨v, k, hvalue, h₂⟩ := h₁.bind
    obtain ⟨vs', l, hrest, h₃⟩ := h₂.bind
    obtain ⟨rfl, rfl⟩ := h₃.pure
    exact .inr ⟨v, vs', n, k, rfl, hitem.under, hvalue.under, hrest⟩
  | false =>
    obtain ⟨rfl, rfl⟩ := h₁.pure
    exact .inl ⟨rfl, hitem.under⟩

theorem Gives.membersWith {fuel depth : Nat} {first : Bool} {es : List (String × Json)}
    (h : Gives (Reader.membersWith (fuel + 1) depth first) s es m) :
    (es = [] ∧ Gives (Reader.nextKey first) s none m) ∨
    ∃ name v es' n k l, es = (name, v) :: es' ∧ Gives (Reader.nextKey first) s (some name) n ∧
      Gives Reader.colon n () k ∧ Gives (Reader.valueWith fuel depth) k v l ∧
      Gives (Reader.membersWith fuel depth false) l es' m := by
  rw [Reader.membersWith] at h
  obtain ⟨key, n, hkey, h₁⟩ := h.bind
  cases key with
  | some name =>
    obtain ⟨v, l, hvalue, h₂⟩ := h₁.bind
    obtain ⟨_, k, hcolon, hvalue⟩ := hvalue.under.bind
    obtain ⟨es', _, hrest, h₃⟩ := h₂.bind
    obtain ⟨rfl, rfl⟩ := h₃.pure
    exact .inr ⟨name, v, es', n, k, l, rfl, hkey.under, hcolon, hvalue, hrest⟩
  | none =>
    obtain ⟨rfl, rfl⟩ := h₁.pure
    exact .inl ⟨rfl, hkey.under⟩

/-- What a value is read from is a text of the grammar, with blanks in front. -/
def Sound (fuel depth : Nat) : Prop :=
  ∀ s v m, Gives (Reader.valueWith fuel depth) s v m →
    ∃ w t, s = w ++ (t ++ m) ∧ Blanks w ∧ ValueText t v ∧ v.nesting ≤ depth - 1

theorem Gives.itemsWith_all {fuel depth index : Nat} {vs : List Json}
    (hsound : ∀ k < fuel, Sound k depth) (h : Gives (Reader.itemsWith fuel depth index) s vs m) :
    ∃ (w : List UInt8) (items : List Item) (u : List UInt8),
      s = w ++ (separated (index == 0) (items.map Item.bytes) ++ m) ∧ Blanks w ∧ m = 0x5D :: u ∧
      (∀ i ∈ items, i.Stands ∧ i.value.nesting ≤ depth - 1) ∧ vs = items.map Item.value := by
  induction fuel generalizing index s vs with
  | zero =>
    rw [Reader.itemsWith] at h
    exact h.fail.elim
  | succ fuel ih =>
    rcases h.itemsWith with ⟨rfl, hend⟩ | ⟨v, vs', n, k, rfl, hitem, hvalue, hrest⟩
    · obtain ⟨w, u, hw, rfl, rfl⟩ := hend.hasItem_end
      exact ⟨w, [], u, rfl, hw, rfl, by simp, rfl⟩
    · obtain ⟨w', rest, u, rfl, hw', rfl, hall, rfl⟩ :=
        ih (fun k hk => hsound k (Nat.lt_succ_of_lt hk)) hrest
      obtain ⟨w₂, t, rfl, hw₂, ht, hnesting⟩ :=
        hsound fuel (Nat.lt_succ_self fuel) _ _ _ hvalue
      obtain ⟨w, w₁, rfl, hw, hw₁⟩ := hitem.hasItem_some
      refine ⟨w, ⟨w₁ ++ w₂, t, w', v⟩ :: rest, u, ?_, hw, rfl, ?_, rfl⟩
      · simp [separated, Item.bytes]
      · exact List.forall_mem_cons.2 ⟨⟨⟨⟨hw₁.append hw₂, hw'⟩, ht⟩, hnesting⟩, hall⟩

theorem Gives.membersWith_all {fuel depth : Nat} {first : Bool} {es : List (String × Json)}
    (hsound : ∀ k < fuel, Sound k depth) (h : Gives (Reader.membersWith fuel depth first) s es m) :
    ∃ (w : List UInt8) (members : List Member) (u : List UInt8),
      s = w ++ (separated first (members.map Member.bytes) ++ m) ∧ Blanks w ∧ m = 0x7D :: u ∧
      (∀ e ∈ members, e.Stands ∧ e.item.value.nesting ≤ depth - 1) ∧
      es = members.map Member.entry := by
  induction fuel generalizing first s es with
  | zero =>
    rw [Reader.membersWith] at h
    exact h.fail.elim
  | succ fuel ih =>
    rcases h.membersWith with
      ⟨rfl, hend⟩ | ⟨name, v, es', n, k, l, rfl, hkey, hcolon, hvalue, hrest⟩
    · obtain ⟨w, u, hw, rfl, rfl⟩ := hend.nextKey_none
      exact ⟨w, [], u, rfl, hw, rfl, by simp, rfl⟩
    · obtain ⟨w', rest, u, rfl, hw', rfl, hall, rfl⟩ :=
        ih (fun k hk => hsound k (Nat.lt_succ_of_lt hk)) hrest
      obtain ⟨w₃, t, rfl, hw₃, ht, hnesting⟩ :=
        hsound fuel (Nat.lt_succ_self fuel) _ _ _ hvalue
      obtain ⟨w₂, hw₂, rfl⟩ := hcolon.colon
      obtain ⟨w, w₁, q, rfl, hw, hw₁, hq⟩ := hkey.nextKey_some
      have hkeytext : KeyText (w₁ ++ 0x22 :: (q ++ w₂)) name := ⟨w₁, q, w₂, rfl, hw₁, hq, hw₂⟩
      refine ⟨w, ⟨w₁ ++ 0x22 :: (q ++ w₂), name, w₃, t, w', v⟩ :: rest, u, ?_, hw, rfl, ?_, rfl⟩
      · simp [separated, Member.bytes, Item.bytes]
      · exact List.forall_mem_cons.2 ⟨⟨⟨hkeytext, ⟨hw₃, hw'⟩, ht⟩, hnesting⟩, hall⟩

theorem sound_list {fuel depth : Nat} {v : Json} (hsound : ∀ k < fuel, ∀ d, Sound k d)
    (hhead : s.head? = some 0x5B)
    (h : Gives (nested depth fun d => closedBy (.array <$> Reader.itemsWith fuel d 0) Reader.endList)
      s v m) :
    ∃ t, s = t ++ m ∧ ValueText t v ∧ v.nesting ≤ depth - 1 := by
  obtain ⟨d, rfl, h₁⟩ := h.nested
  obtain ⟨k, hcontents, hend⟩ := h₁.closedBy
  obtain ⟨vs, hitems, rfl⟩ := hcontents.map
  obtain ⟨w, items, u, hs, hw, rfl, hall, rfl⟩ := hitems.itemsWith_all fun k hk => hsound k hk _
  obtain ⟨-, rfl⟩ := (Takes.endList u).unique hend
  refine ⟨listText w items, ?_, .of_items hw fun i hi => (hall i hi).1,
    nesting_array_le_iff.2 fun i hi => (hall i hi).2⟩
  rw [eq_cons_of_head hhead, hs]
  simp [listText]

theorem sound_object {fuel depth : Nat} {v : Json} (hsound : ∀ k < fuel, ∀ d, Sound k d)
    (hhead : s.head? = some 0x7B)
    (h : Gives (nested depth fun d =>
      closedBy (.object <$> Reader.membersWith fuel d true) Reader.endObject) s v m) :
    ∃ t, s = t ++ m ∧ ValueText t v ∧ v.nesting ≤ depth - 1 := by
  obtain ⟨d, rfl, h₁⟩ := h.nested
  obtain ⟨k, hcontents, hend⟩ := h₁.closedBy
  obtain ⟨es, hmembers, rfl⟩ := hcontents.map
  obtain ⟨w, members, u, hs, hw, rfl, hall, rfl⟩ :=
    hmembers.membersWith_all fun k hk => hsound k hk _
  obtain ⟨-, rfl⟩ := (Takes.endObject u).unique hend
  refine ⟨objectText w members, ?_, .of_members hw fun e he => (hall e he).1,
    nesting_object_le_iff.2 fun e he => (hall e he).2⟩
  rw [eq_cons_of_head hhead, hs]
  simp [objectText]

/-- By induction on the bound, which is smaller for the parts of a value. -/
theorem sound (fuel depth : Nat) : Sound fuel depth := by
  induction fuel using Nat.strong_induction_on generalizing depth with
  | _ fuel ih =>
    intro s v m h
    cases fuel with
    | zero =>
      rw [Reader.valueWith] at h
      exact h.fail.elim
    | succ fuel =>
      have hsound : ∀ k < fuel, ∀ d, Sound k d := fun k hk d => ih k (Nat.lt_succ_of_lt hk) d
      rw [Reader.valueWith] at h
      obtain ⟨o, n, ho, h₁⟩ := h.bind
      obtain ⟨w, hw, rfl, -, rfl⟩ := ho.token
      split at h₁
      · exact h₁.failNext.elim
      · next hhead =>
        obtain ⟨t, rfl, ht, hnesting⟩ := sound_list hsound hhead h₁
        exact ⟨w, t, rfl, hw, ht, hnesting⟩
      · next hhead =>
        obtain ⟨t, rfl, ht, hnesting⟩ := sound_object hsound hhead h₁
        exact ⟨w, t, rfl, hw, ht, hnesting⟩
      · next hhead =>
        obtain ⟨hnesting, t, rfl, ht⟩ := h₁.scalar hhead
        exact ⟨w, t, rfl, hw, ht, by omega⟩

theorem Gives.value {depth : Nat} {v : Json} (h : Gives (Reader.value depth) s v m) :
    ∃ w t, s = w ++ (t ++ m) ∧ Blanks w ∧ ValueText t v ∧ v.nesting ≤ depth - 1 := by
  obtain ⟨n, k, hn, hvalue⟩ := h.bind
  obtain ⟨rfl, rfl⟩ := hn.remaining
  exact sound _ _ _ _ _ hvalue

theorem Takes.value {depth : Nat} {t : List UInt8} {v : Json} (ht : ValueText t v)
    (hdepth : v.nesting ≤ depth - 1) (hw : Blanks w) (hs : Delimited s) :
    Takes (Reader.value depth) (w ++ (t ++ s)) v s := by
  refine (Takes.remaining _).bind (taken_of_valueText ht hdepth _ w s ?_ hw hs)
  simp only [List.length_append]
  omega

/-! Whole texts. -/

variable {α : Type} {r : Reader α} {a : α}

theorem Gives.finish {u : Unit} (h : Gives Reader.finish s u m) : Blanks s := by
  obtain ⟨o, n, ho, h₁⟩ := h.bind
  obtain ⟨w, hw, rfl, -, rfl⟩ := ho.token
  cases n with
  | nil => rwa [List.append_nil]
  | cons b n => exact h₁.failNext.elim

theorem Takes.finish (hw : Blanks w) : Takes Reader.finish w () [] := by
  rw [← List.append_nil w]
  exact (Takes.token hw fun _ h => by cases h).bind (.pure _ _)

theorem gives_of_runAll {bytes : List UInt8} (h : runAll r bytes = .ok a) :
    ∃ m, Gives r bytes a m ∧ Blanks m := by
  unfold runAll run at h
  split at h
  · next a' c hr =>
    cases h
    have hgives : Gives (do
        let a ← r
        Reader.finish
        Pure.pure a) bytes a c.rest := ⟨{}, c.position, hr⟩
    obtain ⟨b, m, hb, h₁⟩ := hgives.bind
    obtain ⟨_, k, hfinish, h₂⟩ := h₁.bind
    obtain ⟨rfl, -⟩ := h₂.pure
    exact ⟨m, hb, hfinish.finish⟩
  · cases h

theorem runAll_of_takes (h : Takes r s a w) (hw : Blanks w) : runAll r s = .ok a := by
  have hall : Takes (do
      let a ← r
      Reader.finish
      Pure.pure a) s a [] := h.bind ((Takes.finish hw).bind (.pure a []))
  obtain ⟨p, hp⟩ := hall {}
  simp only [runAll, run, hp]

end Reader

theorem Blanks.delimited {w : List UInt8} (h : Blanks w) : Delimited w := by
  intro b hb
  simp [endsNumber, h b (List.mem_of_head? hb)]

/-- A text is read as a value exactly if the grammar says that it means the value, and lists and objects
are not nested too deep in it. -/
theorem read_iff {t : List UInt8} {v : Json} :
    read t = .ok v ↔ JsonText t v ∧ v.nesting < Reader.maxDepth := by
  constructor
  · intro h
    obtain ⟨w', hgives, hw'⟩ := Reader.gives_of_runAll h
    obtain ⟨w, u, rfl, hw, hu, hnesting⟩ := hgives.value
    exact ⟨⟨w, u, w', rfl, hw, hu, hw'⟩, Nat.lt_succ_of_le hnesting⟩
  · rintro ⟨⟨w, u, w', rfl, hw, hu, hw'⟩, hnesting⟩
    exact Reader.runAll_of_takes (.value hu (Nat.le_of_lt_succ hnesting) hw hw'.delimited) hw'

/-- A number that is out of range is refused as such. -/
theorem read_largeText {w t w' : List UInt8} (hw : Blanks w) (ht : LargeText t) (hw' : Blanks w') :
    ∃ f, read (w ++ (t ++ w')) = .error f ∧ f.problem = .inSyntax .numberTooLarge := by
  obtain ⟨b, hb, hstarts, hrefuses⟩ := Reader.refuses_scalar_number ht hw'.delimited
  have hsolid : Solid (t ++ w') := by
    intro a ha
    rw [hb] at ha
    exact Option.some.inj ha ▸ hstarts.notBlank
  have hvalue : Reader.Refuses (Reader.value Reader.maxDepth) (w ++ (t ++ w')) .numberTooLarge :=
    ((Reader.Takes.remaining _).leads _).refuses
      ((Reader.valueWith_leads_scalar hw hsolid hb hstarts.notList hstarts.notObject).refuses hrefuses)
  obtain ⟨e, c, he, hproblem⟩ := (hvalue.bind fun v => do
    Reader.finish
    pure v) {}
  exact ⟨e, by simp only [read, Reader.runAll, Reader.run, he], hproblem⟩

/-- The grammar is not ambiguous, because a text is taken in one way only. -/
theorem JsonText.unique {t : List UInt8} {u v : Json} (hu : JsonText t u) (hv : JsonText t v) :
    u = v := by
  obtain ⟨w₁, t₁, w₁', rfl, hw₁, ht₁, hw₁'⟩ := hu
  obtain ⟨w₂, t₂, w₂', heq, hw₂, ht₂, hw₂'⟩ := hv
  have htakes : Reader.Takes (Reader.value (max u.nesting v.nesting + 1)) _ u w₁' :=
    .value ht₁ (by simp) hw₁ hw₁'.delimited
  have htakes' : Reader.Takes (Reader.value (max u.nesting v.nesting + 1)) _ v w₂' :=
    .value ht₂ (by simp) hw₂ hw₂'.delimited
  rw [← heq] at htakes'
  exact (htakes'.unique htakes.gives).1

end Gleaner.Json
