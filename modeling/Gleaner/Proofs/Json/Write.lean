import Gleaner.Json.Write
import Gleaner.Proofs.Json.Read

/-! The compact text of a value is a text of the grammar and means the value. Doubles are left out: their
shortest texts are only used in messages. -/
namespace Gleaner.Json

open Text.Utf8 (encode encode_append encode_cons)

/-! Quoted texts. -/

theorem isPlain_of_ge {b : UInt8} (h : 0x80 ≤ b.toNat) : IsPlain b := by
  refine ⟨?_, ?_, ?_⟩
  · rintro rfl
    exact absurd h (by decide)
  · rintro rfl
    exact absurd h (by decide)
  · rw [UInt8.lt_iff_toNat_lt]
    exact fun hlt => absurd (h.trans hlt.le) (by decide)

/-- A character that needs no escape is written with bytes that stand for themselves. -/
theorem isPlain_encodeChar {c : Char} (hquote : c ≠ '"') (hbackslash : c ≠ '\\')
    (hcontrol : ¬ c.toNat < 0x20) : ∀ b ∈ String.utf8EncodeChar c, IsPlain b := by
  have hspells := Text.Utf8.spells_encodeChar c
  generalize String.utf8EncodeChar c = u at hspells
  cases hspells with
  | @one a ha hn =>
    intro b hb
    cases List.mem_singleton.1 hb
    refine ⟨?_, ?_, ?_⟩
    · rintro rfl
      exact hquote (Char.toNat_inj.1 hn)
    · rintro rfl
      exact hbackslash (Char.toNat_inj.1 hn)
    · rw [UInt8.lt_iff_toNat_lt, ← hn]
      exact hcontrol
  | two ha hb hn =>
    simpa using ⟨isPlain_of_ge (by omega), isPlain_of_ge hb.1⟩
  | three ha hb _ _ hc hn =>
    simpa using ⟨isPlain_of_ge (by omega), isPlain_of_ge hb.1, isPlain_of_ge hc.1⟩
  | four ha hb _ _ hc hd hn =>
    simpa using ⟨isPlain_of_ge (by omega), isPlain_of_ge hb.1, isPlain_of_ge hc.1, isPlain_of_ge hd.1⟩

theorem hexValue_hexDigit : ∀ k < 0x10, ∃ b, encode [hexDigit k] = [b] ∧ Reader.hexValue? b = some k := by
  intro k hk
  refine ⟨UInt8.ofNat (hexDigit k).toNat, ?_⟩
  revert k
  decide

theorem escapeText_control {n : Nat} (h : n < 0x20) :
    EscapeText (encode ['u', '0', '0', hexDigit (n / 16), hexDigit (n % 16)]) (Char.ofNat n) := by
  obtain ⟨a, ha, hhigh⟩ := hexValue_hexDigit (n / 16) (by omega)
  obtain ⟨b, hb, hlow⟩ := hexValue_hexDigit (n % 16) (by omega)
  have hencode : encode ['u', '0', '0', hexDigit (n / 16), hexDigit (n % 16)] =
      0x75 :: 0x30 :: 0x30 :: (encode [hexDigit (n / 16)] ++ encode [hexDigit (n % 16)]) := by
    rw [← encode_append]
    rfl
  have hzero : Reader.hexValue? 0x30 = some 0 := rfl
  have hhex : HexText [0x30, 0x30, a, b] n := by
    have hcode : ((0 * 16 + 0) * 16 + n / 16) * 16 + n % 16 = n := by omega
    exact hcode ▸ .digits hzero hzero hhigh hlow
  rw [hencode, ha, hb]
  exact .point hhex (by omega)

/-- The cases follow the characters that have an escape of their own. -/
theorem charsText_writeChar (c : Char) {t : List UInt8} {s : List Char} (h : CharsText t s) :
    CharsText (encode (writeChar c) ++ t) (c :: s) := by
  unfold writeChar
  split_ifs with h₁ h₂ h₃ h₄ h₅ h₆ h₇ h₈
  · subst h₁
    exact .escape .quote h
  · subst h₂
    exact .escape .backslash h
  · subst h₃
    exact .escape .backspace h
  · subst h₄
    exact .escape .formFeed h
  · subst h₅
    exact .escape .newline h
  · subst h₆
    exact .escape .carriageReturn h
  · subst h₇
    exact .escape .tab h
  · have hescape := escapeText_control h₈
    rw [Char.ofNat_toNat] at hescape
    exact .escape hescape h
  · have hencode : encode [c] = String.utf8EncodeChar c := by
      rw [encode_cons]
      exact List.append_nil _
    rw [hencode]
    exact .plain (isPlain_encodeChar h₁ h₂ h₈) h

theorem charsText_write (s : List Char) : CharsText (encode (s.flatMap writeChar)) s := by
  induction s with
  | nil => exact .nil
  | cons c s ih =>
    rw [List.flatMap_cons, encode_append]
    exact charsText_writeChar c ih

theorem encode_writeString (s : String) :
    encode (writeString s) = 0x22 :: (encode (s.toList.flatMap writeChar) ++ [0x22]) := by
  rw [writeString, List.cons_append, encode_cons, encode_append]
  rfl

theorem quotedText_write (s : String) : QuotedText (encode (s.toList.flatMap writeChar) ++ [0x22]) s :=
  ⟨_, rfl, charsText_write s.toList⟩

/-! Whole numbers. -/

theorem digitsValue_concat (k : Nat) (ds : List UInt8) (b : UInt8) :
    digitsValue k (ds ++ [b]) = digitsValue k ds * 10 + digitValue b := by
  induction ds generalizing k with
  | nil => rfl
  | cons a ds ih => exact ih _

theorem digit_digitChar : ∀ d < 10, ∃ b, encode [Nat.digitChar d] = [b] ∧ IsDigit b ∧
    digitValue b = d := by
  intro d hd
  refine ⟨UInt8.ofNat (Nat.digitChar d).toNat, ?_⟩
  unfold digitValue IsDigit
  revert d
  decide

/-- The first digit is not zero. -/
theorem exists_digits {n : Nat} (h : 0 < n) : ∃ b ds, encode (Nat.toDigits 10 n) = b :: ds ∧
    Digits (b :: ds) ∧ b ≠ 0x30 ∧ digitsValue 0 (b :: ds) = n := by
  induction n using Nat.strong_induction_on with
  | _ n ih =>
    by_cases hn : n < 10
    · obtain ⟨b, hb, hdigit, hvalue⟩ := digit_digitChar n hn
      rw [Nat.toDigits_of_lt_base hn]
      refine ⟨b, [], hb, List.forall_mem_singleton.2 hdigit, ?_, ?_⟩
      · rintro rfl
        unfold digitValue at hvalue
        exact h.ne hvalue
      · rw [digitsValue, digitsValue, hvalue, Nat.zero_mul, Nat.zero_add]
    · obtain ⟨b, ds, hds, hdigits, hne, hvalue⟩ := ih (n / 10) (by omega) (by omega)
      obtain ⟨a, ha, hlast, hlastvalue⟩ := digit_digitChar (n % 10) (Nat.mod_lt n (by decide))
      rw [Nat.toDigits_of_base_le (by decide) (Nat.not_lt.1 hn), encode_append, hds, ha]
      refine ⟨b, ds ++ [a], rfl, ?_, hne, ?_⟩
      · exact List.forall_mem_append.2 ⟨hdigits, List.forall_mem_singleton.2 hlast⟩
      · rw [← List.cons_append, digitsValue_concat, hvalue, hlastvalue, Nat.div_add_mod']

/-- Digits without a fraction and an exponent. -/
theorem digitsText_of_digits {positive : Bool} {ds : List UInt8} (hds : Digits ds) (hne : ds ≠ [])
    (hzero : ds.head? = some 0x30 → ds = [0x30]) (hlt : digitsValue 0 ds < 0x10000000000000000) :
    DigitsText positive ds (Reader.wholeNumber positive (digitsValue 0 ds)) := by
  refine ⟨⟨ds, [], none, hds, hne, hzero, by simp [Digits]⟩, ?_, ?_⟩
  · simp [Numeral.text, fractionText, exponentText]
  · simp [Numeral.number?, takeDigits_of_lt hlt, ended?, plain?]

theorem digitsText_toString {positive : Bool} {n : Nat} (hn : n < 0x10000000000000000) :
    DigitsText positive (encode (toString n).toList) (Reader.wholeNumber positive n) := by
  rw [Nat.toString_eq_ofList_toDigits, String.toList_ofList]
  rcases Nat.eq_zero_or_pos n with rfl | hpos
  · have hzero : DigitsText positive [0x30] (Reader.wholeNumber positive (digitsValue 0 [0x30])) :=
      digitsText_of_digits (by simp [Digits, IsDigit]) (List.cons_ne_nil _ _) (fun _ => rfl)
        (by rw [digitsValue_zero]; decide)
    rw [digitsValue_zero] at hzero
    exact hzero
  · obtain ⟨b, ds, hds, hdigits, hne, rfl⟩ := exists_digits hpos
    rw [hds]
    exact digitsText_of_digits hdigits (List.cons_ne_nil b ds)
      (fun hhead => absurd (Option.some.inj hhead) hne) hn

/-! Values. -/

/-- The value holds no double. Numbers are those that fit in 64 bits. -/
inductive Whole : Json → Prop
  | null : Whole .null
  | bool (b : Bool) : Whole (.bool b)
  | natural {n : Nat} (h : n < 0x10000000000000000) : Whole (.number (.natural n))
  | negative {n : Nat} (h : 0 < n ∧ n ≤ 0x8000000000000000) : Whole (.number (.negative n))
  | string (s : String) : Whole (.string s)
  | array {items : List Json} (h : ∀ v ∈ items, Whole v) : Whole (.array items)
  | object {members : List (String × Json)} (h : ∀ e ∈ members, Whole e.2) : Whole (.object members)

/-- An item that is written without blanks. -/
def Item.written (v : Json) : Item := ⟨[], encode v.write, [], v⟩

def Member.written (e : String × Json) : Member :=
  ⟨encode (writeString e.1), e.1, .written e.2⟩

theorem bytes_itemWritten (v : Json) : (Item.written v).bytes = encode v.write := by
  simp [Item.written, Item.bytes]

theorem bytes_memberWritten (e : String × Json) :
    (Member.written e).bytes = encode (writeString e.1) ++ 0x3A :: encode e.2.write := by
  simp [Member.bytes, Member.written, bytes_itemWritten]

theorem encode_comma (s t : List Char) : encode (s ++ ',' :: t) = encode s ++ 0x2C :: encode t := by
  rw [encode_append, encode_cons]
  rfl

theorem encode_writeItems (items : List Json) :
    encode (writeItems items) = separated true ((items.map Item.written).map Item.bytes) := by
  induction items with
  | nil => rfl
  | cons v rest ih =>
    cases rest with
    | nil => simp [writeItems, separated, comma, bytes_itemWritten]
    | cons u rest =>
      have hwrite : writeItems (v :: u :: rest) = v.write ++ ',' :: writeItems (u :: rest) := rfl
      rw [hwrite, encode_comma, ih]
      simp [separated, comma, bytes_itemWritten]

theorem encode_writeMembers (members : List (String × Json)) :
    encode (writeMembers members) =
      separated true ((members.map Member.written).map Member.bytes) := by
  have hmember : ∀ e : String × Json, encode (writeString e.1 ++ ':' :: e.2.write) =
      (Member.written e).bytes := by
    intro e
    rw [bytes_memberWritten, encode_append, encode_cons]
    rfl
  induction members with
  | nil => rfl
  | cons e rest ih =>
    cases rest with
    | nil =>
      rw [writeMembers, hmember]
      simp [separated, comma]
    | cons d rest =>
      have hwrite : writeMembers (e :: d :: rest) =
          writeString e.1 ++ ':' :: e.2.write ++ ',' :: writeMembers (d :: rest) := rfl
      rw [hwrite, encode_comma, hmember, ih]
      simp [separated, comma]

theorem encode_write_array (items : List Json) :
    encode (Json.array items).write = listText [] (items.map Item.written) := by
  rw [write, List.cons_append, encode_cons, encode_append, encode_writeItems, listText]
  rfl

theorem encode_write_object (members : List (String × Json)) :
    encode (Json.object members).write = objectText [] (members.map Member.written) := by
  rw [write, List.cons_append, encode_cons, encode_append, encode_writeMembers, objectText]
  rfl

theorem keyText_written (name : String) : KeyText (encode (writeString name)) name := by
  refine ⟨[], _, [], ?_, .nil, quotedText_write name, .nil⟩
  rw [encode_writeString, List.append_nil]
  rfl

theorem valueText_write {v : Json} (h : Whole v) : ValueText (encode v.write) v := by
  induction h with
  | null => exact .null
  | bool b => cases b <;> constructor
  | @natural n hn => exact .number (.positive (digitsText_toString hn))
  | @negative n hn =>
    have hdigits : DigitsText false (encode (toString n).toList) (Reader.wholeNumber false n) :=
      digitsText_toString (by omega)
    rw [Reader.wholeNumber, if_neg (by simp), if_neg (by omega)] at hdigits
    exact .number (.negative hdigits)
  | string s =>
    rw [write, encode_writeString]
    exact .string (quotedText_write s)
  | @array items _ ih =>
    rw [encode_write_array]
    have hitems : ∀ i ∈ items.map Item.written, i.Stands := by
      intro i hi
      obtain ⟨v, hv, rfl⟩ := List.mem_map.1 hi
      exact ⟨⟨.nil, .nil⟩, ih v hv⟩
    have hvalues : (items.map Item.written).map Item.value = items := by
      simp [Item.written, Function.comp_def]
    have htext := ValueText.of_items .nil hitems
    rwa [hvalues] at htext
  | @object members _ ih =>
    rw [encode_write_object]
    have hmembers : ∀ m ∈ members.map Member.written, m.Stands := by
      intro m hm
      obtain ⟨e, he, rfl⟩ := List.mem_map.1 hm
      exact ⟨keyText_written e.1, ⟨.nil, .nil⟩, ih e he⟩
    have hentries : (members.map Member.written).map Member.entry = members := by
      simp [Member.written, Member.entry, Item.written, Function.comp_def]
    have htext := ValueText.of_members .nil hmembers
    rwa [hentries] at htext

/-- The bytes of the compact text. -/
def compact (v : Json) : List UInt8 := encode v.text.toList

theorem compact_eq (v : Json) : compact v = encode v.write := by
  rw [compact, text, String.toList_ofList]

theorem jsonText_compact {v : Json} (h : Whole v) : JsonText (compact v) v :=
  ⟨[], compact v, [], by simp, .nil, by rw [compact_eq]; exact valueText_write h, .nil⟩

/-- The compact text of a value is read back as the value. -/
theorem read_compact {v : Json} (h : Whole v) (hnesting : v.nesting < Reader.maxDepth) :
    read (compact v) = .ok v :=
  read_iff.2 ⟨jsonText_compact h, hnesting⟩

end Gleaner.Json
