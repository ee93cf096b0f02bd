import Gleaner.Proofs.Json.Decode
import Gleaner.Proofs.Json.Skip

/-! Refusing a text for what it says. A reader of values of a known shape that meets a text of the grammar
takes it or refuses it for what it says, and finds no fault in the text itself. -/
namespace Gleaner.Json.Reader

variable {α β σ : Type} {r : Reader α} {s m n t w : List UInt8} {v : Json}

/-- The reader gives a value and leaves the rest, or it refuses what the text says. -/
def Understands (r : Reader α) (s m : List UInt8) : Prop :=
  ∀ p, (∃ a p', r ⟨s, p⟩ = .ok a ⟨m, p'⟩) ∨ ∃ e c f, r ⟨s, p⟩ = .error e c ∧ e.problem = .inData f

theorem Takes.understands {a : α} (h : Takes r s a m) : Understands r s m := by
  intro p
  obtain ⟨p', hp⟩ := h p
  exact .inl ⟨a, p', hp⟩

theorem understands_refuse (f : DataFault) : Understands (refuse f : Reader α) s m :=
  fun _ => .inr ⟨_, _, f, rfl, rfl⟩

theorem Leads.understands {r' : Reader α} (h : Leads r r' s n) (hr : Understands r' n m) :
    Understands r s m := by
  intro p
  obtain ⟨q, hq⟩ := h p
  rw [hq]
  exact hr q

namespace Understands

theorem bind {f : α → Reader β} (hr : Understands r s n)
    (hf : ∀ a, Gives r s a n → Understands (f a) n m) : Understands (r >>= f) s m := by
  intro p
  change (∃ b p', EStateM.bind r f ⟨s, p⟩ = .ok b ⟨m, p'⟩) ∨
    ∃ e c g, EStateM.bind r f ⟨s, p⟩ = .error e c ∧ e.problem = .inData g
  unfold EStateM.bind
  rcases hr p with ⟨a, q, hq⟩ | ⟨e, c, g, he, hg⟩
  · rw [hq]
    exact hf a ⟨p, q, hq⟩ q
  · rw [he]
    exact .inr ⟨e, c, g, rfl, hg⟩

theorem map (hr : Understands r s m) (f : α → β) : Understands (f <$> r) s m := by
  rw [map_eq_pure_bind]
  exact hr.bind fun a _ => (Takes.pure (f a) m).understands

theorem placed (hr : Understands r s m) : Understands (Reader.placed r) s m := by
  intro p
  unfold Reader.placed
  rcases hr p with ⟨a, q, hq⟩ | ⟨⟨problem, position, path⟩, c, g, he, hg⟩
  · exact .inl ⟨a, q, by simp only [hq]⟩
  · cases position with
    | none => exact .inr ⟨⟨problem, some c.position, path⟩, c, g, by simp only [he], hg⟩
    | some place => exact .inr ⟨⟨problem, some place, path⟩, c, g, by simp only [he], hg⟩

theorem under (hr : Understands r s m) (g : Segment) : Understands (Reader.under g r) s m := by
  intro p
  unfold Reader.under
  rcases hr p with ⟨a, q, hq⟩ | ⟨e, c, f, he, hf⟩
  · exact .inl ⟨a, q, by simp only [hq]⟩
  · exact .inr ⟨{ e with path := g :: e.path }, c, f, by simp only [he], hf⟩

theorem closedBy {close : Reader Unit} (hr : Understands r s n) (hclose : Takes close n () m) :
    Understands (Reader.closedBy r close) s m := by
  intro p
  unfold Reader.closedBy
  rcases hr p with ⟨a, q, hq⟩ | ⟨e, c, f, he, hf⟩
  · obtain ⟨p', hp'⟩ := hclose q
    exact .inl ⟨a, p', by simp only [hq, hp']⟩
  · cases hend : close c with
    | ok _ c' => exact .inr ⟨e, c', f, by simp only [he, hend], hf⟩
    | error _ c' => exact .inr ⟨e, c', f, by simp only [he, hend], hf⟩

theorem nested {d : Nat} {r : Nat → Reader α} (b : UInt8) (h : Understands (r (d + 1)) s m) :
    Understands (Reader.nested (d + 2) r) (b :: s) m :=
  ((Takes.advance b s).leads _).understands h

end Understands

theorem understands_runAll (h : Understands r s w) (hw : Blanks w) {f : Failure}
    (hrun : runAll r s = .error f) : ∃ fault, f.problem = .inData fault := by
  have hall : Understands (do
      let a ← r
      Reader.finish
      pure a) s [] := h.bind fun a _ => ((Takes.finish hw).bind (.pure a [])).understands
  rcases hall {} with ⟨a, p', hp'⟩ | ⟨e, c, fault, he, hfault⟩
  · simp only [runAll, run, hp', reduceCtorEq] at hrun
  · simp only [runAll, run, he, Except.error.injEq] at hrun
    exact ⟨fault, hrun ▸ hfault⟩

/-! Values of one kind. -/

/-- Another value than the expected one is read, as far as it has no parts, and refused. -/
theorem understands_refuseValue (h : ValueText t v) (hs : Delimited s) (expected : String) :
    Understands (refuseValue expected : Reader α) (t ++ s) m := by
  refine ((Takes.peek _).leads _).understands ?_
  cases h with
  | null =>
    exact ((Takes.advance _ _).leads _).understands
      (((Takes.word _ s).leads _).understands (understands_refuse _))
  | true =>
    exact ((Takes.advance _ _).leads _).understands
      (((Takes.word _ s).leads _).understands (understands_refuse _))
  | false =>
    exact ((Takes.advance _ _).leads _).understands
      (((Takes.word _ s).leads _).understands (understands_refuse _))
  | string hstring =>
    exact ((Takes.advance _ _).leads _).understands
      (((Takes.stringRest hstring s).leads _).understands (understands_refuse _))
  | array => exact understands_refuse _
  | object => exact understands_refuse _
  | number hn =>
    cases hn with
    | negative hd =>
      exact ((Takes.advance _ _).leads _).understands
        (((Takes.number hd hs).leads _).understands (understands_refuse _))
    | positive hd =>
      have hnumber := Takes.number hd hs
      obtain ⟨b, u, rfl, hb⟩ := hd.head
      obtain ⟨hlow, hhigh⟩ := hb.toNat
      dsimp only [List.cons_append, List.head?_cons] at hnumber ⊢
      split
      case h_8 =>
        rw [digit?_eq_some hb, if_pos Option.isSome_some]
        exact (hnumber.leads _).understands (understands_refuse _)
      all_goals omega

theorem Takes.valueStart_value (h : ValueText t v) (hw : Blanks w) (s : List UInt8) :
    ∃ b u, t = b :: u ∧ Takes Reader.valueStart (w ++ (t ++ s)) b (t ++ s) := by
  obtain ⟨b, u, rfl, hb, -⟩ := h.begins
  exact ⟨b, u, rfl, .valueStart hw hb _⟩

/-- A value that begins with a quote is a text, and one that begins with its first letter is null. -/
theorem valueText_of_head {b : UInt8} (h : ValueText (b :: t) v) :
    (b = 0x22 → ∃ x, QuotedText t x ∧ v = .string x) ∧
      (b = 0x6E → t = [0x75, 0x6C, 0x6C] ∧ v = .null) := by
  cases h with
  | null => exact ⟨fun h => absurd h (by decide), fun _ => ⟨rfl, rfl⟩⟩
  | @string _ x hstring => exact ⟨fun _ => ⟨x, hstring, rfl⟩, fun h => absurd h (by decide)⟩
  | number hn =>
    cases hn with
    | negative => exact ⟨fun h => absurd h (by decide), fun h => absurd h (by decide)⟩
    | positive hd =>
      obtain ⟨_, _, hcons, hb⟩ := hd.head
      obtain ⟨rfl, rfl⟩ := List.cons.inj hcons
      refine ⟨?_, ?_⟩ <;>
        · rintro rfl
          exact absurd hb (by decide)
  | true | false | array | object =>
    exact ⟨fun h => absurd h (by decide), fun h => absurd h (by decide)⟩

theorem understands_stringAs (h : ValueText t v) (hw : Blanks w) (hs : Delimited s) (expected : String) :
    Understands (stringAs expected) (w ++ (t ++ s)) s := by
  obtain ⟨b, u, rfl, hstart⟩ := Takes.valueStart_value h hw s
  refine .placed ((hstart.leads _).understands ?_)
  by_cases hb : b = 0x22
  · obtain ⟨x, hstring, rfl⟩ := (valueText_of_head h).1 hb
    rw [if_pos hb]
    exact ((Takes.advance _ _).bind (.stringRest hstring s)).understands
  · rw [if_neg hb]
    exact understands_refuseValue h hs expected

theorem understands_unit (h : ValueText t v) (hw : Blanks w) (hs : Delimited s) :
    Understands Reader.unit (w ++ (t ++ s)) s := by
  obtain ⟨b, u, rfl, hstart⟩ := Takes.valueStart_value h hw s
  refine .placed ((hstart.leads _).understands ?_)
  by_cases hb : b = 0x6E
  · obtain ⟨rfl, -⟩ := (valueText_of_head h).2 hb
    rw [if_pos hb]
    exact ((Takes.advance _ _).bind (.word _ s)).understands
  · rw [if_neg hb]
    exact understands_refuseValue h hs "unit"

theorem understands_bool (h : ValueText t v) (hw : Blanks w) (hs : Delimited s) :
    Understands Reader.bool (w ++ (t ++ s)) s := by
  obtain ⟨b, u, hu, hstart⟩ := Takes.valueStart_value h hw s
  refine .placed ((hstart.leads _).understands ?_)
  have hrefused : Understands (refuseValue "a boolean" : Reader Bool) (t ++ s) s :=
    understands_refuseValue h hs _
  cases h with
  | true =>
    obtain ⟨rfl, rfl⟩ := List.cons.inj hu
    exact ((Takes.advance _ _).bind ((Takes.word _ s).bind (.pure Bool.true s))).understands
  | false =>
    obtain ⟨rfl, rfl⟩ := List.cons.inj hu
    exact ((Takes.advance _ _).bind ((Takes.word _ s).bind (.pure Bool.false s))).understands
  | number hn =>
    have hlt := (hu ▸ hn).head_lt
    split
    case h_3 => exact hrefused
    all_goals omega
  | null | string | array | object =>
    obtain ⟨rfl, rfl⟩ := List.cons.inj hu
    exact hrefused

/-- Null is taken for nothing. -/
theorem understands_option (h : ValueText t v) (hw : Blanks w)
    (hr : v ≠ .null → Understands r (t ++ s) s) : Understands (Reader.option r) (w ++ (t ++ s)) s := by
  refine ((Takes.token hw (h.begins.solid s)).leads _).understands ?_
  obtain ⟨b, u, rfl, -⟩ := h.begins
  by_cases hb : b = 0x6E
  · obtain ⟨rfl, rfl⟩ := (valueText_of_head h).2 hb
    subst hb
    exact ((Takes.advance _ _).bind ((Takes.word _ s).bind (.pure none s))).understands
  · have hnull : v ≠ .null := by
      rintro rfl
      cases h
      exact hb rfl
    dsimp only [List.cons_append, List.head?_cons]
    split
    · next h => exact absurd (Option.some.inj h) hb
    · exact (hr hnull).map some

/-- How one of two words is written: as a text or as the name of the only member of an object. -/
inductive IsChoice : Json → Prop
  | text (x : String) : IsChoice (.string x)
  | member (name : String) (v : Json) : IsChoice (.object [(name, v)])

/-- A name is one of two words or refused as neither. -/
theorem understands_choose (text : Reader String) {first second : String × α}
    (h : Understands text s m) :
    Understands (Reader.placed do
      let name ← text
      if name = first.1 then pure first
      else if name = second.1 then pure second
      else refuse (.unknownVariant name first.1 second.1)) s m := by
  refine .placed (h.bind fun name _ => ?_)
  split_ifs
  · exact (Takes.pure _ _).understands
  · exact (Takes.pure _ _).understands
  · exact understands_refuse _

theorem understands_stringAs_text {x : String} (hw : Blanks w) (h : QuotedText t x) (expected : String)
    (s : List UInt8) : Understands (stringAs expected) (w ++ 0x22 :: (t ++ s)) s := by
  refine .placed (((Takes.valueStart hw rfl _).leads _).understands ?_)
  rw [if_pos rfl]
  exact ((Takes.advance _ _).bind (.stringRest h s)).understands

theorem understands_variant {first second : String × α} (h : ValueText t v) (hv : IsChoice v) :
    Understands (variant first second) (t ++ s) s := by
  refine ((Takes.token .nil (h.begins.solid s)).leads _).understands ?_
  cases h with
  | string hstring =>
    refine (understands_choose Reader.string ?_).map Prod.snd
    exact (Takes.string (w := []) .nil hstring s).understands
  | @object w members hw hkey hpad htext =>
    obtain ⟨e, rfl⟩ : ∃ e, members = [e] := by
      cases members with
      | nil => cases hv
      | cons e rest =>
        cases rest with
        | nil => exact ⟨e, rfl⟩
        | cons => cases hv
    obtain ⟨w₁, u, w₂, hu, hw₁, hname, hw₂⟩ := hkey e (List.mem_singleton_self e)
    have hpade := hpad e (List.mem_singleton_self e)
    have hvalue := htext e (List.mem_singleton_self e)
    simp only [objectText, List.map_cons, List.map_nil, separated, comma, if_true, Member.bytes, Item.bytes,
      hu, List.nil_append, List.append_nil, List.cons_append, List.append_assoc]
    refine .nested 0x7B (d := 126) ?_
    have hkeyText : Understands (stringAs "variant identifier")
        (w ++ (w₁ ++ 0x22 :: (u ++ (w₂ ++ 0x3A :: (e.item.before ++ (e.item.text ++
          (e.item.after ++ 0x7D :: s)))))))
        (w₂ ++ 0x3A :: (e.item.before ++ (e.item.text ++ (e.item.after ++ 0x7D :: s)))) := by
      rw [← List.append_assoc]
      exact understands_stringAs_text (hw.append hw₁) hname _ _
    refine (understands_choose _ hkeyText).bind fun choice _ => ?_
    refine ((Takes.colon hw₂ _).leads _).understands ?_
    have hmore : Delimited (e.item.after ++ 0x7D :: s) := delimited_of_blanks hpade.after rfl s
    refine ((understands_unit hvalue hpade.before hmore).under _).bind fun _ _ => ?_
    exact ((Takes.token hpade.after (solid_cons rfl)).bind
      ((Takes.advance _ s).bind (.pure choice.2 s))).understands
  | _ => cases hv

/-! Members. -/

theorem understands_fill {name : String} {slot : Option α} {set : α → σ} (hw : Blanks w)
    (h : Understands r s m) : Understands (fill name slot r set) (w ++ 0x3A :: s) m := by
  unfold fill
  cases slot with
  | none => exact ((((Takes.colon hw s).leads _).understands h).under _).map set
  | some _ => exact understands_refuse _

/-- The member is taken in, wherever it stands, or refused for what it says. -/
def UnderstandsIn (member : σ → String → Reader σ) (e : Member) : Prop :=
  ∀ x w s, Blanks w → Delimited s →
    Understands (member x e.name) (w ++ 0x3A :: (e.item.before ++ (e.item.text ++ s))) s

theorem understands_membersLoop {member : σ → String → Reader σ} {es : List Member}
    (hkey : ∀ e ∈ es, KeyText e.key e.name) (hpad : ∀ e ∈ es, e.item.Padded)
    (h : ∀ e ∈ es, UnderstandsIn member e) (x : σ) (hw : Blanks w) {first : Bool} {fuel : Nat}
    (hfuel : (separated first (es.map Member.bytes)).length < fuel) (s : List UInt8) :
    Understands (membersLoop member x first fuel)
      (w ++ (separated first (es.map Member.bytes) ++ 0x7D :: s)) (0x7D :: s) := by
  induction es generalizing x w first fuel with
  | nil =>
    obtain ⟨fuel, rfl⟩ := Nat.exists_eq_succ_of_ne_zero (Nat.ne_zero_of_lt hfuel)
    exact (Takes.membersLoop_end hw s).understands
  | cons e es ih =>
    obtain ⟨fuel, rfl⟩ := Nat.exists_eq_succ_of_ne_zero (Nat.ne_zero_of_lt hfuel)
    obtain ⟨⟨w₁, u, w₂, hu, hw₁, hname, hw₂⟩, hkeyrest⟩ := List.forall_mem_cons.1 hkey
    obtain ⟨hpade, hpadrest⟩ := List.forall_mem_cons.1 hpad
    obtain ⟨he, hrest⟩ := List.forall_mem_cons.1 h
    simp only [List.map_cons, separated, Member.bytes, List.length_cons, List.length_append] at hfuel
    have hbound : (separated false (es.map Member.bytes)).length < fuel := by omega
    have hmore : Delimited (e.item.after ++ (separated false (es.map Member.bytes) ++ 0x7D :: s)) :=
      delimited_separated hpade.after rfl _ s
    simp only [List.map_cons, separated, Member.bytes, Item.bytes, hu, List.cons_append,
      List.append_assoc]
    refine (((Takes.nextKey_some hw hw₁ hname _).under _).leads _).understands ?_
    exact (he x w₂ _ hw₂ hmore).bind fun y _ => ih hkeyrest hpadrest hrest y hpade.after hbound

/-! Records. -/

theorem Takes.endList_blanks (hw : Blanks w) (s : List UInt8) :
    Takes Reader.endList (w ++ 0x5D :: s) () s :=
  (Takes.token hw (solid_cons rfl)).bind (.advance _ _)

theorem understands_record_object {expected : String} {depth : Nat} {members items : Nat → Reader α}
    (hw : Blanks w) (h : Understands (members (depth + 1)) t (0x7D :: s)) :
    Understands (record expected (depth + 2) members items) (w ++ 0x7B :: t) s := by
  refine .placed (((Takes.valueStart hw rfl t).leads _).understands ?_)
  exact (h.closedBy (.endObject s)).nested 0x7B

theorem understands_record_list {expected : String} {depth : Nat} {members items : Nat → Reader α}
    {w' : List UInt8} (hw : Blanks w) (hw' : Blanks w')
    (h : Understands (items (depth + 1)) t (w' ++ 0x5D :: s)) :
    Understands (record expected (depth + 2) members items) (w ++ 0x5B :: t) s := by
  refine .placed (((Takes.valueStart hw rfl t).leads _).understands ?_)
  exact (h.closedBy (.endList_blanks hw' s)).nested 0x5B

/-- A record cannot stand as a value without parts. -/
theorem understands_record_scalar {expected : String} {depth : Nat} {members items : Nat → Reader α}
    (h : ValueText t v) (hlist : ∀ vs, v ≠ .array vs) (hobject : ∀ es, v ≠ .object es) (hw : Blanks w)
    (hs : Delimited s) : Understands (record expected depth members items) (w ++ (t ++ s)) s := by
  obtain ⟨b, u, hu, hstart⟩ := Takes.valueStart_value h hw s
  refine .placed ((hstart.leads _).understands ?_)
  have hrefused : Understands (refuseValue expected : Reader α) (t ++ s) s :=
    understands_refuseValue h hs _
  cases h with
  | array => exact absurd rfl (hlist _)
  | object => exact absurd rfl (hobject _)
  | number hn =>
    have hlt := (hu ▸ hn).head_lt
    split
    case h_3 => exact hrefused
    all_goals omega
  | null | true | false | string =>
    obtain ⟨rfl, rfl⟩ := List.cons.inj hu
    exact hrefused

/-! Items. -/

/-- The item of a record that stands as a list, with the rest of the reading; there may be no such item. -/
theorem understands_itemValue (index : Nat) {expected : String} {f : α → Reader β} {items : List Item}
    (hpad : ∀ i ∈ items, i.Padded) (htext : ∀ i ∈ items, ValueText i.text i.value)
    (hr : ∀ i, items.head? = some i → ∀ s, Delimited s → Understands r (i.text ++ s) s)
    (hf : ∀ i rest, items = i :: rest → ∀ a,
      Understands (f a) (i.after ++ (separated false (rest.map Item.bytes) ++ 0x5D :: s)) m)
    (hw : Blanks w) :
    Understands (itemValue index r expected >>= f)
      (w ++ (separated (index == 0) (items.map Item.bytes) ++ 0x5D :: s)) m := by
  cases items with
  | nil =>
    have hend : Takes (itemValue? index r) (w ++ 0x5D :: s) none (0x5D :: s) :=
      ((Takes.hasItem_end _ hw s).under _).bind (.pure none _)
    have hmissing : Leads (itemValue index r expected) (refuse (.wrongLength index expected))
        (w ++ 0x5D :: s) (0x5D :: s) := hend.leads _
    refine (hmissing.understands (understands_refuse (m := m) _)).bind fun a ha => ?_
    exact (hmissing.gives ha).refuse.elim
  | cons i rest =>
    obtain ⟨hpadi, -⟩ := List.forall_mem_cons.1 hpad
    obtain ⟨htexti, -⟩ := List.forall_mem_cons.1 htext
    have hmore : Delimited (i.after ++ (separated false (rest.map Item.bytes) ++ 0x5D :: s)) :=
      delimited_separated hpadi.after rfl _ s
    have hitem := ((hr i rfl _ hmore).under (.item index)).map some
    simp only [List.map_cons, separated, Item.bytes, List.append_assoc]
    have hfound : Understands (itemValue? index r) _ _ :=
      (((Takes.hasItem_some hw hpadi.before htexti.begins _).under _).leads _).understands hitem
    refine (hfound.bind fun o _ => ?_).bind fun a _ => hf i rest rfl a
    cases o with
    | some a => exact (Takes.pure a _).understands
    | none => exact understands_refuse _

end Gleaner.Json.Reader
