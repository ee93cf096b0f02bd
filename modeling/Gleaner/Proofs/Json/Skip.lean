import Gleaner.Json.Decode
import Gleaner.Proofs.Json.Read

/-! Passing over a value: whatever is a value by the grammar is passed over as a whole, however deep it is
nested. The loop goes from value to value and keeps the lists and objects that are open on a stack; where it
goes on behind a value depends on the stack alone. -/
namespace Gleaner.Json.Reader

variable {s m w t u : List UInt8} {b : UInt8} {ds : List UInt8} {frame : Frame} {frames : List Frame}

/-! Texts. -/

theorem Takes.skipEscape_short (hb : b ∈ [0x22, 0x5C, 0x2F, 0x62, 0x66, 0x6E, 0x72, 0x74])
    (s : List UInt8) : Takes Reader.skipEscape (b :: s) () s := by
  refine (Takes.nextInString b s).bind ?_
  simp only [List.mem_cons, List.not_mem_nil, or_false] at hb
  rcases hb with rfl | rfl | rfl | rfl | rfl | rfl | rfl | rfl <;> exact .pure () s

theorem Takes.skipEscape_number {n : Nat} (h : HexText u n) (s : List UInt8) :
    Takes Reader.skipEscape (0x75 :: (u ++ s)) () s :=
  (Takes.nextInString _ _).bind ((Takes.fourHex h s).map fun _ => ())

/-- The loop takes the text to its end as long as its bound is larger than the text. -/
def SkipsText (t s : List UInt8) : Prop :=
  ∀ fuel, t.length < fuel → Takes (skipStringLoop fuel) t () s

theorem skipsText_quote (s : List UInt8) : SkipsText (0x22 :: s) s := by
  intro fuel hfuel
  obtain ⟨fuel, rfl⟩ := Nat.exists_eq_succ_of_ne_zero (Nat.ne_zero_of_lt hfuel)
  exact (Takes.peek _).bind (.advance _ s)

theorem SkipsText.plain (hb : IsPlain b) (h : SkipsText t s) : SkipsText (b :: t) s := by
  intro fuel hfuel
  obtain ⟨fuel, rfl⟩ := Nat.exists_eq_succ_of_ne_zero (Nat.ne_zero_of_lt hfuel)
  refine (Takes.peek _).bind ?_
  simp only [List.head?_cons]
  rw [if_neg hb.notQuote, if_neg hb.notBackslash, if_neg hb.notControl]
  exact (Takes.advance b t).bind (h fuel (Nat.lt_of_succ_lt_succ hfuel))

theorem SkipsText.plains (hu : ∀ b ∈ u, IsPlain b) (h : SkipsText t s) : SkipsText (u ++ t) s := by
  induction u with
  | nil => exact h
  | cons b u ih =>
    obtain ⟨hb, hu⟩ := List.forall_mem_cons.1 hu
    exact (ih hu).plain hb

theorem SkipsText.escape (hu : Takes Reader.skipEscape (u ++ t) () t) (h : SkipsText t s) :
    SkipsText (0x5C :: (u ++ t)) s := by
  intro fuel hfuel
  obtain ⟨fuel, rfl⟩ := Nat.exists_eq_succ_of_ne_zero (Nat.ne_zero_of_lt hfuel)
  have hlength : t.length < fuel := by
    simp only [List.length_cons, List.length_append] at hfuel
    omega
  exact (Takes.peek _).bind ((Takes.advance _ _).bind (hu.bind (h fuel hlength)))

/-- The second half of a character above U+FFFF is one more escape to the loop. -/
theorem SkipsText.escapeText {c : Char} (hu : EscapeText u c) (h : SkipsText t s) :
    SkipsText (0x5C :: (u ++ t)) s := by
  cases hu with
  | point hu hn => exact .escape (.skipEscape_number hu t) h
  | pair hu hw hn hm =>
    rw [List.cons_append, List.append_assoc, ← List.cons_append]
    exact .escape (.skipEscape_number hu _) (.escape (u := 0x75 :: _) (.skipEscape_number hw t) h)
  | _ => exact .escape (u := [_]) (.skipEscape_short (by decide) t) h

theorem skipsText_charsText {chars : List Char} (hu : CharsText u chars) (s : List UInt8) :
    SkipsText (u ++ 0x22 :: s) s := by
  induction hu with
  | nil => exact skipsText_quote s
  | plain hc _ ih =>
    rw [List.append_assoc]
    exact ih.plains hc
  | escape hu _ ih =>
    rw [List.cons_append, List.append_assoc]
    exact ih.escapeText hu

theorem Takes.skipString {a : String} (h : QuotedText t a) (s : List UInt8) :
    Takes Reader.skipString (t ++ s) () s := by
  obtain ⟨u, rfl, hu⟩ := h
  rw [List.append_assoc, List.singleton_append]
  exact (Takes.remaining _).bind (skipsText_charsText hu s _ (Nat.lt_succ_self _))

/-! Numbers. -/

theorem Takes.skipDigits_all (hds : Digits ds) (hs : digit? s.head? = none) :
    Takes (do Reader.skipDigits (← Reader.remaining)) (ds ++ s) () s := by
  refine (Takes.remaining _).bind (.skipDigits hds hs ?_)
  rw [List.length_append]
  exact Nat.le_add_right _ _

theorem Takes.skipExponent (x : Exponent) (hs : digit? s.head? = none) :
    Takes Reader.skipExponent (x.text ++ s) () s := by
  obtain ⟨letter, sign, digits, -, hsign, hdigits, hne⟩ := x
  obtain ⟨b, ds, rfl⟩ := List.exists_cons_of_ne_nil hne
  obtain ⟨hb, hds⟩ := List.forall_mem_cons.1 hdigits
  have hrest : Takes (do
      if (digit? (← Reader.next)).isSome then Reader.skipDigits (← Reader.remaining)
      else Reader.fail .badNumber) (b :: ds ++ s) () s := by
    refine (Takes.next b (ds ++ s)).bind ?_
    rw [digit?_eq_some hb, if_pos Option.isSome_some]
    exact .skipDigits_all hds hs
  rw [Exponent.text, List.cons_append, List.append_assoc]
  refine (Takes.advance letter _).bind ((Takes.peek _).bind ?_)
  rcases hsign with rfl | rfl | rfl
  · rw [List.nil_append, List.cons_append, List.head?_cons,
      if_neg (Bool.eq_false_iff.1 (not_sign_of_isDigit hb))]
    exact hrest
  · exact (Takes.advance _ _).bind hrest
  · exact (Takes.advance _ _).bind hrest

theorem Takes.skipFraction (x : Option Exponent) (hds : Digits (b :: ds)) (hs : Stop s.head?) :
    Takes Reader.skipFraction (0x2E :: (b :: ds ++ (exponentText x ++ s))) () s := by
  have hb := (List.forall_mem_cons.1 hds).1
  refine (Takes.advance _ _).bind ((Takes.peek _).bind ?_)
  rw [List.cons_append, List.head?_cons, if_neg (by simp [digit?_eq_some hb])]
  refine (Takes.remaining _).bind ((Takes.skipDigits hds (digit?_exponentText x hs.notDigit) ?_).bind
    ((Takes.peek _).bind ?_))
  · simp only [List.length_cons, List.length_append]
    omega
  · cases x with
    | none =>
      rw [exponentText, List.nil_append, if_neg (by simp [hs.notExponent])]
      exact .pure () s
    | some x =>
      rw [head?_exponentText, if_pos (isExponent_letter x)]
      exact .skipExponent x hs.notDigit

/-- What may stand behind the digits of a whole number. -/
def skipWholeEnd : Reader Unit := do
  let b ← peek
  if b == some 0x2E then Reader.skipFraction
  else if isExponent b then Reader.skipExponent

theorem Takes.skipWholeEnd (x : Option Exponent) (hds : Digits ds) (hs : Stop s.head?) :
    Takes Reader.skipWholeEnd (fractionText ds ++ (exponentText x ++ s)) () s := by
  refine (Takes.peek _).bind ?_
  cases ds with
  | nil =>
    cases x with
    | none =>
      rw [fractionText, if_pos rfl, exponentText, List.nil_append, List.nil_append,
        if_neg (by simp [hs.notPoint]), if_neg (by simp [hs.notExponent])]
      exact .pure () s
    | some x =>
      rw [fractionText, if_pos rfl, List.nil_append, head?_exponentText,
        if_neg (Bool.eq_false_iff.1 (letter_beq_point x)), if_pos (isExponent_letter x)]
      exact .skipExponent x hs.notDigit
  | cons b ds =>
    rw [fractionText, if_neg (List.cons_ne_nil b ds), List.cons_append, List.head?_cons,
      if_pos (beq_self_eq_true _)]
    exact .skipFraction x hds hs

theorem Takes.skipNumber (d : Numeral) (hs : Stop s.head?) :
    Takes Reader.skipNumber (d.text ++ s) () s := by
  obtain ⟨b, ds, hwhole, hb, hds⟩ := d.exists_whole
  have hnotDigit := digit?_fractionText d.fraction d.exponent hs.notDigit
  have hend := Takes.skipWholeEnd d.exponent d.isFraction hs
  rw [Numeral.text, hwhole, List.append_assoc, List.append_assoc, List.cons_append]
  refine (Takes.next b _).bind ?_
  by_cases hb₀ : b = 0x30
  · have hall := d.zero (by rw [hwhole, hb₀]; rfl)
    obtain rfl : ds = [] := (List.cons.inj (hwhole.symm.trans hall)).2
    subst hb₀
    refine (Takes.peek _).bind ?_
    rw [List.nil_append, hnotDigit, if_neg (by simp)]
    exact hend
  · obtain ⟨k, hk⟩ := Nat.exists_eq_succ_of_ne_zero (digitValue_ne_zero hb hb₀)
    rw [digit?_eq_some hb, hk]
    refine (Takes.remaining _).bind ((Takes.skipDigits hds hnotDigit ?_).bind hend)
    simp only [List.length_append]
    omega

/-! The loop. -/

/-- What comes next if the frames are open and none of them ends here. -/
def onward (fuel : Nat) (frames : List Frame) : Reader Unit :=
  match frames with
  | [] => pure ()
  | .object :: _ => do
      skipKey
      skipValues frames fuel
  | .list :: _ => skipValues frames fuel

/-- Behind a value in the open frames the loop takes the rest of the text, as long as its bounds are larger
than that. -/
def Continues (frames : List Frame) (s m : List UInt8) : Prop :=
  ∀ k fuel, s.length < k → s.length < fuel → Takes (skipEnds true frames k >>= onward fuel) s () m

/-- The text is passed over, wherever it stands. -/
def Passes (t : List UInt8) : Prop :=
  ∀ frames w s m, Blanks w → Delimited s → Continues frames s m →
    ∀ fuel, (w ++ (t ++ s)).length < fuel → Takes (skipValues frames fuel) (w ++ (t ++ s)) () m

def Frame.opener : Frame → UInt8
  | .list => 0x5B
  | .object => 0x7B

def Frame.closer : Frame → UInt8
  | .list => 0x5D
  | .object => 0x7D

theorem continues_nil (s : List UInt8) : Continues [] s s := by
  intro k fuel _ _
  rw [skipEnds]
  exact (Takes.pure [] s).bind (.pure () s)

theorem skipEnds_leads_closer {after : Bool} {k : Nat} (hw : Blanks w) (s : List UInt8) :
    Leads (skipEnds after (frame :: frames) (k + 1)) (skipEnds true frames k)
      (w ++ frame.closer :: s) s := by
  rw [skipEnds]
  cases frame with
  | list => exact ((Takes.token hw (solid_cons rfl)).leads _).trans ((Takes.advance _ s).leads _)
  | object => exact ((Takes.token hw (solid_cons rfl)).leads _).trans ((Takes.advance _ s).leads _)

theorem Takes.skipEnds_comma {k : Nat} (hw : Blanks w) (s : List UInt8) :
    Takes (skipEnds true (frame :: frames) (k + 1)) (w ++ 0x2C :: s) (frame :: frames) s := by
  rw [skipEnds]
  refine (Takes.token hw (solid_cons rfl)).bind ?_
  cases frame with
  | list => exact (Takes.advance _ s).bind (.pure _ s)
  | object => exact (Takes.advance _ s).bind (.pure _ s)

/-- A first value or name follows the beginning of a frame. -/
theorem Takes.skipEnds_begins {k : Nat} (hw : Blanks w) (hb : isBlankByte b = false)
    (hne : b ≠ frame.closer) (s : List UInt8) :
    Takes (skipEnds false (frame :: frames) (k + 1)) (w ++ b :: s) (frame :: frames) (b :: s) := by
  rw [skipEnds]
  refine (Takes.token hw (solid_cons hb)).bind ?_
  cases frame with
  | list =>
    dsimp only [List.head?_cons]
    rw [if_neg (by simpa [Frame.closer] using hne)]
    exact .pure _ _
  | object =>
    dsimp only [List.head?_cons]
    rw [if_neg (by simpa [Frame.closer] using hne)]
    exact .pure _ _

theorem skipValues_leads_scalar {fuel : Nat} (hw : Blanks w) (hs : Solid s) (hb : s.head? = some b)
    (h : Takes (skipScalar b) s none m) :
    Leads (skipValues frames (fuel + 1)) (skipEnds true frames (fuel + 1) >>= onward fuel) (w ++ s) m := by
  rw [skipValues]
  refine ((Takes.token hw hs).leads _).trans ?_
  rw [hb]
  exact h.leads _

theorem skipValues_leads_frame {fuel : Nat} (hw : Blanks w) (s : List UInt8) :
    Leads (skipValues frames (fuel + 1)) (skipEnds false (frame :: frames) (fuel + 1) >>= onward fuel)
      (w ++ frame.opener :: s) s := by
  rw [skipValues]
  cases frame with
  | list =>
    refine ((Takes.token hw (solid_cons rfl)).leads _).trans ?_
    have h : Takes (skipScalar 0x5B) (0x5B :: s) (some .list) s := (Takes.advance _ s).bind (.pure _ s)
    exact h.leads _
  | object =>
    refine ((Takes.token hw (solid_cons rfl)).leads _).trans ?_
    have h : Takes (skipScalar 0x7B) (0x7B :: s) (some .object) s := (Takes.advance _ s).bind (.pure _ s)
    exact h.leads _

/-! Values in lists and objects. -/

/-- A value of a list, or a member of an object, with the blanks around it. -/
inductive Part (frame : Frame) : List UInt8 → Prop
  | mk {before after t : List UInt8} {b : UInt8} (hbefore : Blanks before) (hafter : Blanks after)
      (hb : isBlankByte b = false) (hne : b ≠ frame.closer)
      (h : ∀ frames w s m, Blanks w → Delimited s → Continues (frame :: frames) s m →
        ∀ fuel, (w ++ (b :: t ++ s)).length < fuel →
          Takes (onward fuel (frame :: frames)) (w ++ (b :: t ++ s)) () m) :
      Part frame (before ++ (b :: t ++ after))

theorem endsNumber_closer (frame : Frame) : endsNumber frame.closer = true := by
  cases frame <;> rfl

/-- By induction on the parts that are left of a list or an object. -/
theorem continues_separated {ts : List (List UInt8)} (hts : ∀ t ∈ ts, Part frame t) (hw : Blanks w)
    (h : Continues frames s m) :
    Continues (frame :: frames) (w ++ (separated false ts ++ frame.closer :: s)) m := by
  induction ts generalizing w with
  | nil =>
    intro k fuel hk hfuel
    obtain ⟨k, rfl⟩ := Nat.exists_eq_succ_of_ne_zero (Nat.ne_zero_of_lt hk)
    simp only [separated, List.nil_append, List.length_append, List.length_cons] at hk hfuel
    exact ((skipEnds_leads_closer hw s).bind _).takes (h k fuel (by omega) (by omega))
  | cons t ts ih =>
    intro k fuel hk hfuel
    obtain ⟨k, rfl⟩ := Nat.exists_eq_succ_of_ne_zero (Nat.ne_zero_of_lt hk)
    obtain ⟨⟨hbefore, hafter, -, -, ht⟩, hrest⟩ := List.forall_mem_cons.1 hts
    simp only [separated, comma, Bool.false_eq_true, if_false, List.append_assoc, List.cons_append,
      List.nil_append] at hfuel ⊢
    refine (Takes.skipEnds_comma hw _).bind ?_
    have hmore := delimited_separated hafter (endsNumber_closer frame) ts s
    refine ht frames _ _ m hbefore hmore (ih hrest hafter) fuel ?_
    simp only [List.length_append, List.length_cons] at hfuel ⊢
    omega

/-- The inside of a list or an object from its first part on. -/
theorem takes_separated {ts : List (List UInt8)} {k fuel : Nat} (hts : ∀ t ∈ ts, Part frame t)
    (hw : Blanks w) (h : Continues frames s m)
    (hk : (w ++ (separated true ts ++ frame.closer :: s)).length ≤ k)
    (hfuel : (w ++ (separated true ts ++ frame.closer :: s)).length < fuel) :
    Takes (skipEnds false (frame :: frames) (k + 1) >>= onward fuel)
      (w ++ (separated true ts ++ frame.closer :: s)) () m := by
  cases ts with
  | nil =>
    simp only [separated, List.nil_append, List.length_append, List.length_cons] at hk hfuel
    exact ((skipEnds_leads_closer hw s).bind _).takes (h k fuel (by omega) (by omega))
  | cons t ts =>
    obtain ⟨⟨hbefore, hafter, hb, hne, ht⟩, hrest⟩ := List.forall_mem_cons.1 hts
    have hmore := delimited_separated hafter (endsNumber_closer frame) ts s
    have htext := ht frames [] _ m .nil hmore (continues_separated hrest hafter h) fuel
    simp only [separated, comma, if_true, List.nil_append, List.append_assoc, List.cons_append]
      at hfuel htext ⊢
    rw [← List.append_assoc]
    refine (Takes.skipEnds_begins (hw.append hbefore) hb hne _).bind (htext ?_)
    simp only [List.length_append, List.length_cons] at hfuel ⊢
    omega

theorem passes_frame (frame : Frame) {ts : List (List UInt8)} (hts : ∀ t ∈ ts, Part frame t) (hw : Blanks w) :
    Passes (frame.opener :: (w ++ (separated true ts ++ [frame.closer]))) := by
  intro frames w' s m hw' hs h fuel hfuel
  obtain ⟨fuel, rfl⟩ := Nat.exists_eq_succ_of_ne_zero (Nat.ne_zero_of_lt hfuel)
  simp only [List.cons_append, List.append_assoc, List.nil_append, List.length_append,
    List.length_cons] at hfuel ⊢
  refine (skipValues_leads_frame hw' _).takes (takes_separated hts hw h ?_ ?_) <;>
    · simp only [List.length_append, List.length_cons]
      omega

theorem passes_scalar (ht : 0 < t.length) (h : ∀ s, Delimited s → ∃ b, (t ++ s).head? = some b ∧
    isBlankByte b = false ∧ Takes (skipScalar b) (t ++ s) none s) : Passes t := by
  intro frames w s m hw hs hcontinues fuel hfuel
  obtain ⟨fuel, rfl⟩ := Nat.exists_eq_succ_of_ne_zero (Nat.ne_zero_of_lt hfuel)
  obtain ⟨b, hb, hblank, htakes⟩ := h s hs
  have hsolid : Solid (t ++ s) := by
    intro a ha
    rw [hb] at ha
    exact Option.some.inj ha ▸ hblank
  simp only [List.length_append] at hfuel
  exact (skipValues_leads_scalar hw hsolid hb htakes).takes (hcontinues _ _ (by omega) (by omega))

theorem skipScalar_of_isDigit (h : IsDigit b) : skipScalar b = (do
    Reader.skipNumber
    pure none) := by
  obtain ⟨hlow, hhigh⟩ := h.toNat
  unfold skipScalar
  split
  case h_8 => rw [digit?_eq_some h, if_pos Option.isSome_some]
  all_goals omega

theorem passes_number {n : Number} (h : NumberText t n) : Passes t := by
  refine passes_scalar (ValueText.number h).begins.length_pos fun s hs => ?_
  cases h with
  | negative h =>
    obtain ⟨d, rfl, -⟩ := h
    refine ⟨0x2D, rfl, rfl, ?_⟩
    exact (Takes.advance _ _).bind ((Takes.skipNumber d (stop_head hs)).bind (.pure none s))
  | positive h =>
    obtain ⟨b, u, hu, hb⟩ := h.head
    obtain ⟨d, rfl, -⟩ := h
    refine ⟨b, by rw [hu]; rfl, (startsNumber_of_isDigit hb).notBlank, ?_⟩
    rw [skipScalar_of_isDigit hb]
    exact (Takes.skipNumber d (stop_head hs)).bind (.pure none s)

theorem Takes.skipKey {name : String} {key : List UInt8} (hw : Blanks w) (hkey : QuotedText key name)
    (hw' : Blanks m) (s : List UInt8) :
    Takes Reader.skipKey (w ++ 0x22 :: (key ++ (m ++ 0x3A :: s))) () s := by
  refine (Takes.token hw (solid_cons rfl)).bind ?_
  exact (Takes.advance _ _).bind ((Takes.skipString hkey _).bind (.colon hw' s))

theorem part_item {i : Item} (hpad : i.Padded) (hbegins : Begins i.text) (h : Passes i.text) :
    Part .list i.bytes := by
  obtain ⟨before, text, after, v⟩ := i
  obtain ⟨b, t, rfl, hb, hne⟩ := hbegins
  exact .mk hpad.before hpad.after hb hne fun frames w s m hw hs hcontinues fuel hfuel =>
    h _ w s m hw hs hcontinues fuel hfuel

theorem part_member {e : Member} (hkey : KeyText e.key e.name) (hpad : e.item.Padded)
    (h : Passes e.item.text) : Part .object e.bytes := by
  obtain ⟨key, name, before, text, after, v⟩ := e
  obtain ⟨w₁, u, w₂, rfl, hw₁, hu, hw₂⟩ := hkey
  have hpart : Part .object (w₁ ++ (0x22 :: (u ++ (w₂ ++ 0x3A :: (before ++ text))) ++ after)) := by
    refine .mk hw₁ hpad.after rfl (by decide) fun frames w s m hw hs hcontinues fuel hfuel => ?_
    simp only [List.cons_append, List.append_assoc] at hfuel ⊢
    refine (Takes.skipKey hw hu hw₂ _).bind (h _ before s m hpad.before hs hcontinues fuel ?_)
    simp only [List.length_append, List.length_cons] at hfuel ⊢
    omega
  simpa [Member.bytes, Item.bytes] using hpart

/-- By induction on the grammar: every value is passed over. -/
theorem passes_of_valueText {v : Json} (h : ValueText t v) : Passes t := by
  induction h with
  | null =>
    refine passes_scalar (by decide) fun s _ => ⟨0x6E, rfl, rfl, ?_⟩
    exact (Takes.advance _ _).bind ((Takes.word _ s).bind (.pure none s))
  | true =>
    refine passes_scalar (by decide) fun s _ => ⟨0x74, rfl, rfl, ?_⟩
    exact (Takes.advance _ _).bind ((Takes.word _ s).bind (.pure none s))
  | false =>
    refine passes_scalar (by decide) fun s _ => ⟨0x66, rfl, rfl, ?_⟩
    exact (Takes.advance _ _).bind ((Takes.word _ s).bind (.pure none s))
  | number hn => exact passes_number hn
  | string hstring =>
    refine passes_scalar (Nat.succ_pos _) fun s _ => ⟨0x22, rfl, rfl, ?_⟩
    exact (Takes.advance _ _).bind ((Takes.skipString hstring s).bind (.pure none s))
  | @array w' items hw' hpad htext ih =>
    refine passes_frame .list (fun t ht => ?_) hw'
    obtain ⟨i, hi, rfl⟩ := List.mem_map.1 ht
    exact part_item (hpad i hi) (htext i hi).begins (ih i hi)
  | @object w' members hw' hkey hpad htext ih =>
    refine passes_frame .object (fun t ht => ?_) hw'
    obtain ⟨e, he, rfl⟩ := List.mem_map.1 ht
    exact part_member (hkey e he) (hpad e he) (ih e he)

/-- A value of the grammar is passed over, and nothing else. -/
theorem Takes.skipValue {v : Json} (h : ValueText t v) (hw : Blanks w) (hs : Delimited s) :
    Takes Reader.skipValue (w ++ (t ++ s)) () s :=
  (Takes.remaining _).bind
    (passes_of_valueText h [] w s s hw hs (continues_nil s) _ (Nat.lt_succ_self _))

end Gleaner.Json.Reader
