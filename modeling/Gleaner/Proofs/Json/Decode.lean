import Gleaner.Json.Decode
import Gleaner.Proofs.Json.Write

/-! Reading values of a known shape: when each of the building blocks gives a value, and what it leaves of
the text. -/
namespace Gleaner.Json

open Text.Utf8 (encode)

namespace Reader

variable {α σ : Type} {s m w : List UInt8} {a : α}

/-! The beginning of a value. -/

theorem Gives.valueStart {b : UInt8} (h : Gives Reader.valueStart s b m) :
    ∃ w, Blanks w ∧ s = w ++ m ∧ m.head? = some b := by
  obtain ⟨o, n, ho, h₁⟩ := h.bind
  obtain ⟨w, hw, rfl, -, rfl⟩ := ho.token
  split at h₁
  · exact h₁.failNext.elim
  · next hhead =>
    obtain ⟨rfl, rfl⟩ := h₁.pure
    exact ⟨w, hw, rfl, hhead⟩

theorem Takes.valueStart {b : UInt8} (hw : Blanks w) (hb : isBlankByte b = false) (s : List UInt8) :
    Takes Reader.valueStart (w ++ b :: s) b (b :: s) :=
  (Takes.token hw (solid_cons hb)).bind (.pure _ _)

theorem not_gives_bind {β : Type} {b : β} {r : Reader α} {f : α → Reader β}
    (h : ∀ a n, ¬ Gives (f a) n b m) : ¬ Gives (r >>= f) s b m := by
  intro hgives
  obtain ⟨a, n, -, hrest⟩ := hgives.bind
  exact h a n hrest

/-- Whatever stands there instead of the expected value, nothing is given for it. -/
theorem not_gives_refuseValue {expected : String} : ¬ Gives (Reader.refuseValue expected) s a m := by
  refine not_gives_bind fun o n => ?_
  split
  · exact Gives.failNext
  · split
    case h_6 => exact Gives.refuse
    case h_7 => exact Gives.refuse
    case h_8 =>
      split_ifs
      · exact not_gives_bind fun _ _ => Gives.refuse
      · exact Gives.failNext
    all_goals exact not_gives_bind fun _ _ => not_gives_bind fun _ _ => Gives.refuse

/-! Members taken in one by one. -/

theorem Gives.memberValue {name : String} {r : Reader α} (h : Gives (Reader.memberValue name r) s a m) :
    ∃ n, Gives Reader.colon s () n ∧ Gives r n a m := by
  obtain ⟨_, n, hcolon, hr⟩ := h.under.bind
  exact ⟨n, hcolon, hr⟩

theorem Takes.memberValue {r : Reader α} (name : String) (hw : Blanks w) (h : Takes r s a m) :
    Takes (Reader.memberValue name r) (w ++ 0x3A :: s) a m :=
  ((Takes.colon hw s).bind h).under _

theorem Gives.membersLoop {member : σ → String → Reader σ} {x y : σ} {first : Bool} {fuel : Nat}
    (h : Gives (Reader.membersLoop member x first (fuel + 1)) s y m) :
    (y = x ∧ Gives (Reader.nextKey first) s none m) ∨
    ∃ name n z k, Gives (Reader.nextKey first) s (some name) n ∧ Gives (member x name) n z k ∧
      Gives (Reader.membersLoop member z false fuel) k y m := by
  rw [Reader.membersLoop] at h
  obtain ⟨key, n, hkey, h₁⟩ := h.bind
  cases key with
  | none =>
    obtain ⟨rfl, rfl⟩ := h₁.pure
    exact .inl ⟨rfl, hkey.under⟩
  | some name =>
    obtain ⟨z, k, hmember, hrest⟩ := h₁.bind
    exact .inr ⟨name, n, z, k, hkey.under, hmember, hrest⟩

theorem Takes.membersLoop_end {member : σ → String → Reader σ} {x : σ} {first : Bool} {fuel : Nat}
    (hw : Blanks w) (s : List UInt8) :
    Takes (Reader.membersLoop member x first (fuel + 1)) (w ++ 0x7D :: s) x (0x7D :: s) :=
  ((Takes.nextKey_end _ hw s).under _).bind (.pure _ _)

theorem Takes.membersLoop_cons {member : σ → String → Reader σ} {x y z : σ} {first : Bool}
    {fuel : Nat} {name : String} {n k : List UInt8}
    (hkey : Takes (Reader.nextKey first) s (some name) n) (hmember : Takes (member x name) n z k)
    (hrest : Takes (Reader.membersLoop member z false fuel) k y m) :
    Takes (Reader.membersLoop member x first (fuel + 1)) s y m :=
  (hkey.under _).bind (hmember.bind hrest)

/-- Taking in the member, wherever it stands, leads from the one state to the other. -/
def TakesIn (member : σ → String → Reader σ) (x : σ) (e : Member) (y : σ) : Prop :=
  ∀ w s, Blanks w → Delimited s →
    Takes (member x e.name) (w ++ 0x3A :: (e.item.before ++ (e.item.text ++ s))) y s

/-- Taking in the members one by one leads from the one state to the other. -/
inductive TakesAll (member : σ → String → Reader σ) : σ → List Member → σ → Prop
  | nil (x : σ) : TakesAll member x [] x
  | cons {x y z : σ} {e : Member} {es : List Member} (hkey : KeyText e.key e.name)
      (hpad : e.item.Padded) (h : TakesIn member x e y) (hrest : TakesAll member y es z) :
      TakesAll member x (e :: es) z

theorem TakesAll.append {member : σ → String → Reader σ} {x y z : σ} {es fs : List Member}
    (h : TakesAll member x es y) (hrest : TakesAll member y fs z) :
    TakesAll member x (es ++ fs) z := by
  induction h with
  | nil x => exact hrest
  | cons hkey hpad h _ ih => exact .cons hkey hpad h (ih hrest)

/-- The run of the loop over members that are taken in one by one. -/
theorem Takes.membersLoop {member : σ → String → Reader σ} {x y : σ} {es : List Member}
    (h : TakesAll member x es y) (hw : Blanks w) {first : Bool} {fuel : Nat}
    (hfuel : (separated first (es.map Member.bytes)).length < fuel) (s : List UInt8) :
    Takes (Reader.membersLoop member x first fuel)
      (w ++ (separated first (es.map Member.bytes) ++ 0x7D :: s)) y (0x7D :: s) := by
  induction h generalizing w first fuel with
  | nil x =>
    obtain ⟨fuel, rfl⟩ := Nat.exists_eq_succ_of_ne_zero (Nat.ne_zero_of_lt hfuel)
    exact membersLoop_end hw s
  | @cons x y z e es hkey hpad h hrest ih =>
    obtain ⟨fuel, rfl⟩ := Nat.exists_eq_succ_of_ne_zero (Nat.ne_zero_of_lt hfuel)
    obtain ⟨w₁, u, w₂, hu, hw₁, hname, hw₂⟩ := hkey
    simp only [List.map_cons, separated, Member.bytes, List.length_cons, List.length_append] at hfuel
    have hbound : (separated false (es.map Member.bytes)).length < fuel := by omega
    have hmore : Delimited (e.item.after ++ (separated false (es.map Member.bytes) ++ 0x7D :: s)) :=
      delimited_separated hpad.after rfl _ s
    simp only [List.map_cons, separated, Member.bytes, Item.bytes, hu, List.cons_append,
      List.append_assoc]
    exact membersLoop_cons (nextKey_some hw hw₁ hname _) (h w₂ _ hw₂ hmore) (ih hpad.after hbound)

/-! Objects with members of one kind. -/

/-- What an object with members of one kind does with a member. -/
def insertMember (r : Reader α) (x : SortedMap α) (name : String) : Reader (SortedMap α) :=
  x.insert name <$> memberValue name r

theorem Gives.mapOf {depth : Nat} {r : Nat → Reader α} {x : SortedMap α}
    (h : Gives (Reader.mapOf depth r) s x m) :
    ∃ w t d k, s = w ++ 0x7B :: t ∧ Blanks w ∧ depth = d + 2 ∧
      Gives (Reader.membersLoop (insertMember (r (d + 1))) .empty true (t.length + 1)) t x k ∧
      Gives Reader.endObject k () m := by
  obtain ⟨b, n, hstart, h₁⟩ := h.placed.bind
  obtain ⟨w, hw, rfl, hhead⟩ := hstart.valueStart
  split_ifs at h₁ with hb
  · obtain ⟨d, rfl, h₂⟩ := h₁.nested
    obtain ⟨k, hcontents, hend⟩ := h₂.closedBy
    obtain ⟨l, _, hl, hloop⟩ := hcontents.bind
    obtain ⟨rfl, rfl⟩ := hl.remaining
    have hn : n = 0x7B :: n.tail := eq_cons_of_head (hb ▸ hhead)
    exact ⟨w, n.tail, d, k, congrArg (w ++ ·) hn, hw, rfl, hloop, hend⟩
  · exact absurd h₁ not_gives_refuseValue

theorem Takes.mapOf {depth : Nat} {r : Nat → Reader α} {x : SortedMap α} {t : List UInt8}
    (hw : Blanks w)
    (h : Takes (Reader.membersLoop (insertMember (r (depth + 1))) .empty true (t.length + 1)) t x
      (0x7D :: m)) :
    Takes (Reader.mapOf (depth + 2) r) (w ++ 0x7B :: t) x m := by
  refine .placed ((Takes.valueStart hw rfl t).bind ?_)
  rw [if_pos rfl]
  exact (closedBy ((Takes.remaining t).bind h) (endObject m)).nested 0x7B

/-! Values of one kind. -/

theorem Takes.string {t : List UInt8} {x : String} (hw : Blanks w) (ht : QuotedText t x)
    (s : List UInt8) : Takes Reader.string (w ++ 0x22 :: (t ++ s)) x s := by
  refine .placed ((Takes.valueStart hw rfl _).bind ?_)
  rw [if_pos rfl]
  exact (Takes.advance _ _).bind (.stringRest ht s)

theorem Takes.word16 {n : Nat} (hn : n < 0x10000) (hw : Blanks w) (hs : Delimited s) :
    Takes Reader.word16 (w ++ (encode (toString n).toList ++ s)) n s := by
  have hdigits : DigitsText Bool.true (encode (toString n).toList) (.natural n) :=
    digitsText_toString (hn.trans (by decide))
  obtain ⟨b, u, hu, hb⟩ := hdigits.head
  have hnumber := Takes.number hdigits hs
  obtain ⟨_, _, hcons, hblank, -⟩ := begins_of_isDigit (u := u) hb
  obtain ⟨rfl, rfl⟩ := List.cons.inj hcons
  rw [hu] at hnumber ⊢
  have hne : b ≠ 0x2D := by
    rintro rfl
    exact absurd hb.1 (by decide)
  refine .placed ((Takes.valueStart hw hblank _).bind ?_)
  rw [if_neg hne, digit?_eq_some hb, if_pos Option.isSome_some]
  refine hnumber.bind ?_
  dsimp only
  rw [if_pos hn]
  exact .pure n s

theorem Takes.option_some {r : Reader α} {b : UInt8} (hw : Blanks w) (hblank : isBlankByte b = false)
    (hb : b ≠ 0x6E) (h : Takes r (b :: s) a m) :
    Takes (Reader.option r) (w ++ b :: s) (some a) m := by
  refine (Takes.token hw (solid_cons hblank)).bind ?_
  dsimp only [List.head?_cons]
  split
  · next hnull => exact absurd (Option.some.inj hnull) hb
  · exact h.map some

theorem Takes.fill {name : String} {r : Reader α} (set : α → σ) (hw : Blanks w) (h : Takes r s a m) :
    Takes (Reader.fill name none r set) (w ++ 0x3A :: s) (set a) m :=
  (Takes.memberValue name hw h).map set

/-- A record that stands as an object. -/
theorem Takes.record {expected : String} {depth : Nat} {members items : Nat → Reader α}
    {t : List UInt8} (hw : Blanks w) (h : Takes (members (depth + 1)) t a (0x7D :: m)) :
    Takes (Reader.record expected (depth + 2) members items) (w ++ 0x7B :: t) a m := by
  refine .placed ((Takes.valueStart hw rfl t).bind ?_)
  exact (closedBy h (endObject m)).nested 0x7B

/-! Members that are written without blanks. -/

theorem takesIn_written {member : σ → String → Reader σ} {x : σ} {name : String} {v : Json}
    {r : Reader α} {set : α → σ} (hmember : member x name = Reader.fill name none r set)
    (hr : ∀ s, Delimited s → Takes r (encode v.write ++ s) a s) :
    TakesIn member x (Member.written (name, v)) (set a) := by
  intro w s hw hs
  change Takes (member x name) (w ++ 0x3A :: (encode v.write ++ s)) _ s
  rw [hmember]
  exact .fill set hw (hr s hs)

theorem takesAll_written {member : σ → String → Reader σ} {x y z : σ} {e : String × Json}
    {es : List (String × Json)} (h : TakesIn member x (Member.written e) y)
    (hrest : TakesAll member y (es.map Member.written) z) :
    TakesAll member x ((e :: es).map Member.written) z :=
  .cons (keyText_written e.1) ⟨.nil, .nil⟩ h hrest

theorem Takes.word16_written {n : Nat} (hn : n < 0x10000) (hs : Delimited s) :
    Takes Reader.word16 (encode (Json.number (.natural n)).write ++ s) n s := by
  rw [write, writeNumber]
  exact word16 hn (w := []) .nil hs

theorem Takes.string_written (x : String) (s : List UInt8) :
    Takes Reader.string (encode (Json.string x).write ++ s) x s := by
  rw [write, encode_writeString, List.cons_append]
  exact string (w := []) .nil (quotedText_write x) s

theorem Takes.option_string_written (x : String) (s : List UInt8) :
    Takes (Reader.option Reader.string) (encode (Json.string x).write ++ s) (some x) s := by
  have hstring := string_written x s
  rw [write, encode_writeString, List.cons_append] at hstring ⊢
  exact option_some (w := []) .nil rfl (by decide) hstring

/-- A record whose members are written without blanks and fill its slots. -/
theorem takes_record_written {expected : String} {depth : Nat} {items : Nat → Reader α}
    {member : Nat → σ → String → Reader σ} {x y : σ} {done : σ → Reader α}
    {es : List (String × Json)} (h : TakesAll (member (depth + 1)) x (es.map Member.written) y)
    (hdone : done y = Pure.pure a) :
    Takes (Reader.record expected (depth + 2) (fun d => do
        let n ← Reader.remaining
        let y ← Reader.membersLoop (member d) x true (n + 1)
        done y) items)
      (compact (.object es)) a [] := by
  rw [compact_eq, encode_write_object, objectText]
  refine Takes.record (w := []) .nil ((Takes.remaining _).bind ?_)
  refine (Takes.membersLoop (w := []) h .nil ?_ []).bind ?_
  · simp only [List.length_append]
    omega
  · rw [hdone]
    exact .pure a _

end Reader

end Gleaner.Json
