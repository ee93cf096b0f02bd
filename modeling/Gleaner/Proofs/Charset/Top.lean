import Gleaner.Proofs.Charset.Document
import Gleaner.Proofs.Text.Utf8.Lenient

/-! What the top of a document declares. Only complete tags within reach count, and the first of them that
names an encoding decides; the bytes around a tag, malformed or not, neither hide it nor make one. -/
namespace Gleaner.Charset

open Text (isWord)
open Text.Utf8 (decodeLenient split_behind)

/-! Tags without an end. -/

theorem afterMeta?_append {s : List Char} (hs : '>' ∈ s) (t : List Char) :
    afterMeta? (s ++ t) = (afterMeta? s).map (· ++ t) := by
  refine Option.ext fun r => ?_
  simp only [Option.map_eq_some_iff, afterMeta?_eq_some_iff]
  constructor
  · rintro ⟨word, c, r', hword, hc, rfl, hsplit⟩
    obtain ⟨s₁, s₂, rfl⟩ := List.append_of_mem hs
    rw [List.append_assoc, List.cons_append] at hsplit
    obtain ⟨s', rfl, hrest⟩ := split_behind (not_mem_of_spells hword) hsplit.symm
    refine ⟨s' ++ '>' :: s₂, ⟨word, ?_⟩, by simp [hrest]⟩
    cases s' with
    | nil => exact ⟨'>', s₂, hword, rfl, rfl, by simp⟩
    | cons d s' =>
      obtain ⟨rfl, -⟩ := List.cons.inj hrest
      exact ⟨c, s' ++ '>' :: s₂, hword, hc, rfl, by simp⟩
  · rintro ⟨_, ⟨word, c, r', hword, hc, rfl, rfl⟩, rfl⟩
    exact ⟨word, c, r' ++ t, hword, hc, rfl, by simp⟩

/-- Behind the last end of a tag the search finds nothing. -/
theorem tagsFrom_append_of_not_mem {t : List Char} (ht : '>' ∉ t) (inside : Bool) (s : List Char) :
    tagsFrom inside (s ++ t) = tagsFrom inside s := by
  induction s generalizing inside with
  | nil => exact tagsFrom_eq_nil ht
  | cons c s ih =>
    by_cases hend : '>' ∈ c :: s
    · cases inside with
      | true => simp [tagsFrom, ih]
      | false =>
        rw [List.cons_append, tagsFrom, tagsFrom, if_neg Bool.false_ne_true,
          if_neg Bool.false_ne_true, ← List.cons_append, afterMeta?_append hend]
        cases hmeta : afterMeta? (c :: s) with
        | none => simp [ih]
        | some rest =>
          obtain ⟨word, -, -, hword, -, -, hsplit⟩ := afterMeta?_eq_some_iff.1 hmeta
          have hrest : '>' ∈ rest := by
            rw [hsplit, List.mem_append] at hend
            exact hend.resolve_left (not_mem_of_spells hword)
          obtain ⟨inner, after, rfl, hinner⟩ := List.eq_append_cons_of_mem hrest
          simp only [Option.map_some, List.append_assoc, List.cons_append,
            takeWhile_append_end hinner, ih]
          rw [if_pos (by simp), if_pos (by simp)]
    · have hboth : '>' ∉ (c :: s) ++ t := by
        rw [List.mem_append, not_or]
        exact ⟨hend, ht⟩
      rw [tagsFrom_eq_nil hend, tagsFrom_eq_nil hboth]

theorem tagsFrom_decodeLenient_append {closed opened : List UInt8} (h : 0x3E ∉ opened) :
    tagsFrom false (decodeLenient (closed ++ opened)) = tagsFrom false (decodeLenient closed) := by
  have hlast : ∀ s u : List UInt8, 0x3E ∉ u →
      tagsFrom false (decodeLenient (s ++ 0x3E :: u)) =
        tagsFrom false (decodeLenient s ++ ['>']) := by
    intro s u hu
    have hend : '>' ∉ decodeLenient u := Text.Utf8.not_mem_decodeLenient (by decide) rfl hu
    have hcut : decodeLenient (s ++ 0x3E :: u) = decodeLenient s ++ ['>'] ++ decodeLenient u := by
      rw [Text.Utf8.decodeLenient_append_cons s u (by decide)]
      simp
    rw [hcut, tagsFrom_append_of_not_mem hend]
  by_cases hclosed : 0x3E ∈ closed
  · obtain ⟨after, before, hsplit, hafter⟩ := List.eq_append_cons_of_mem (List.mem_reverse.2 hclosed)
    obtain rfl : closed = before.reverse ++ 0x3E :: after.reverse := by
      rw [← List.reverse_reverse closed, hsplit]
      simp
    have hrest : 0x3E ∉ after.reverse ++ opened := by simp [hafter, h]
    rw [List.append_assoc, List.cons_append, hlast _ _ hrest, hlast _ _ (by simpa using hafter)]
  · have hnone : ∀ u : List UInt8, 0x3E ∉ u → tagsFrom false (decodeLenient u) = [] :=
      fun u hu => tagsFrom_eq_nil (Text.Utf8.not_mem_decodeLenient (by decide) rfl hu)
    rw [hnone closed hclosed, hnone _ (by simp [hclosed, h])]

/-! Tags between other bytes. -/

theorem eq_of_toLower_eq_lt {c : Char} (h : c.toLower = '<') : c = '<' := by
  unfold Char.toLower at h
  split at h
  · next hupper =>
    have hval := congrArg (fun c : Char => c.val - ('a'.val - 'A'.val)) h
    rw [UInt32.add_sub_cancel] at hval
    rw [hval] at hupper
    exact absurd hupper (by decide)
  · exact h

theorem exists_of_isTag {tag inner : List Char} (h : IsTag tag inner) :
    ∃ s, tag = '<' :: s ++ ['>'] := by
  obtain ⟨word, hword, -, -, rfl⟩ := h
  obtain ⟨a, b, c, d, e, ha, -, -, -, -, rfl⟩ := spells_meta_iff.1 hword
  obtain rfl : a = '<' := eq_of_toLower_eq_lt ha
  exact ⟨b :: c :: d :: e :: inner, by simp⟩

/-- A tag begins and ends with an ASCII character, so it is read as it is wherever it stands. -/
theorem decodeLenient_tag {tag : List UInt8} {inner : List Char} (h : IsTag (decodeLenient tag) inner)
    (u w : List UInt8) :
    decodeLenient (u ++ (tag ++ w)) = decodeLenient u ++ (decodeLenient tag ++ decodeLenient w) := by
  obtain ⟨s, hs⟩ := exists_of_isTag h
  have hfirst : decodeLenient tag = [] ++ '<' :: (s ++ ['>']) := hs
  obtain ⟨v, b, t, rfl, hb, hv, ht⟩ := Text.Utf8.exists_of_decodeLenient_eq (by decide) hfirst
  obtain ⟨v', b', t', rfl, hb', rfl, ht'⟩ := Text.Utf8.exists_of_decodeLenient_eq (by decide) ht
  obtain rfl := Text.Utf8.eq_nil_of_decodeLenient hv
  obtain rfl := Text.Utf8.eq_nil_of_decodeLenient ht'
  have hlt : b.toNat < 0x80 := hb ▸ by decide
  have hlt' : b'.toNat < 0x80 := hb' ▸ by decide
  calc decodeLenient (u ++ ([] ++ b :: (v' ++ [b']) ++ w))
      = decodeLenient (u ++ b :: (v' ++ b' :: w)) := by simp
    _ = decodeLenient u ++ '<' :: (decodeLenient v' ++ '>' :: decodeLenient w) := by
      rw [Text.Utf8.decodeLenient_append_cons u _ hlt, hb,
        Text.Utf8.decodeLenient_append_cons v' w hlt', hb', Char.ofNat_toNat, Char.ofNat_toNat]
    _ = decodeLenient u ++ (decodeLenient ([] ++ b :: (v' ++ [b'])) ++ decodeLenient w) := by
      rw [hs]
      simp

/-- The search passes by bytes without a `<` and takes the tag behind them. -/
theorem findSome?_tagsFrom_tag {gap tag : List UInt8} {inner : List Char} (hgap : 0x3C ∉ gap)
    (htag : IsTag (decodeLenient tag) inner) (w : List UInt8) :
    (tagsFrom false (decodeLenient (gap ++ (tag ++ w)))).findSome? declaredIn? =
      (declaredIn? (decodeLenient tag)).or
        ((tagsFrom false (decodeLenient w)).findSome? declaredIn?) := by
  have hgap' : '<' ∉ decodeLenient gap := Text.Utf8.not_mem_decodeLenient (by decide) rfl hgap
  have hsearch : tagsFrom false (decodeLenient gap ++ (decodeLenient tag ++ decodeLenient w)) =
      inner :: tagsFrom false (decodeLenient w) := by
    rw [tagsFrom_append, tagsFrom_tag htag]
    intro pre tag' rest inner' heq htag'
    obtain ⟨s, rfl⟩ := exists_of_isTag htag'
    simp only [List.cons_append, List.append_assoc] at heq
    obtain ⟨s', rfl, -⟩ := split_behind hgap' heq
    simp
  rw [decodeLenient_tag htag, hsearch, List.findSome?_cons, declaredIn?_tag htag]
  cases declaredIn? (decodeLenient tag) <;> rfl

/-- Bytes without a `<`, and behind them a complete meta tag that names no encoding. -/
def NamesNothing (piece : List UInt8) : Prop :=
  ∃ gap tag inner, piece = gap ++ tag ∧ 0x3C ∉ gap ∧ IsTag (decodeLenient tag) inner ∧
    ∀ e, ¬Names (decodeLenient tag) e

theorem findSome?_tagsFrom_skip {pieces : List (List UInt8)} (h : ∀ piece ∈ pieces, NamesNothing piece)
    (w : List UInt8) :
    (tagsFrom false (decodeLenient (pieces.flatten ++ w))).findSome? declaredIn? =
      (tagsFrom false (decodeLenient w)).findSome? declaredIn? := by
  induction pieces with
  | nil => rfl
  | cons piece pieces ih =>
    obtain ⟨⟨gap, tag, inner, rfl, hgap, htag, hnone⟩, hpieces⟩ := List.forall_mem_cons.1 h
    simp only [← declaredIn?_eq_some_iff, ← ne_eq, ← Option.eq_none_iff_forall_ne_some] at hnone
    rw [List.flatten_cons, List.append_assoc, List.append_assoc,
      findSome?_tagsFrom_tag hgap htag, hnone, Option.none_or, ih hpieces]

/-! A tag with a declaration. -/

/-- The characters that a label has in ASCII. -/
def IsAsciiLabel (label : List Char) : Prop :=
  ∀ c ∈ label, c.isAlphanum = true ∨ c ∈ ['_', '.', ':', '-']

/-- The tag that declares the label. -/
def metaTag (label : List Char) : List Char :=
  "<meta charset=\"".toList ++ (label ++ "\">".toList)

theorem toNat_lt_of_isAlphanum {c : Char} (h : c.isAlphanum = true) : c.toNat < 0x80 := by
  unfold Char.isAlphanum Char.isAlpha Char.isUpper Char.isLower Char.isDigit at h
  simp only [Bool.or_eq_true, Bool.and_eq_true, decide_eq_true_eq, UInt32.le_iff_toNat_le,
    ge_iff_le] at h
  have hval : c.toNat = c.val.toNat := rfl
  have hnine : '9'.val.toNat = 57 := rfl
  have hz : 'z'.val.toNat = 122 := rfl
  have hZ : 'Z'.val.toNat = 90 := rfl
  omega

theorem IsAsciiLabel.isLabelChar {label : List Char} (h : IsAsciiLabel label) :
    ∀ c ∈ label, isLabelChar c = true := by
  intro c hc
  rcases h c hc with halpha | hmark
  · simp [Charset.isLabelChar, isWord, toNat_lt_of_isAlphanum halpha, halpha]
  · simp only [List.mem_cons, List.not_mem_nil, or_false] at hmark
    rcases hmark with rfl | rfl | rfl | rfl <;> rfl

theorem labelHere?_charset {label : List Char} (hlabel : ∀ c ∈ label, isLabelChar c = true)
    (hne : label ≠ []) : labelHere? ("charset=\"".toList ++ (label ++ ['"'])) = some label := by
  have hword : Spells "charset".toList "charset".toList := by unfold Spells IsLetter; decide
  have hquote : isLabelChar '"' = false := rfl
  refine labelHere?_eq_some_iff.2 ⟨_, [], [], ['"'], ['"'], hword, by simp, by simp, by simp, hne,
    hlabel, ?_, rfl⟩
  rintro _ ⟨⟩
  exact hquote

theorem isTag_metaTag {label : List Char} (hlabel : ∀ c ∈ label, isLabelChar c = true) :
    IsTag (metaTag label) (' ' :: ("charset=\"".toList ++ (label ++ ['"']))) := by
  have hword : Spells "<meta".toList "<meta".toList := by unfold Spells IsLetter; decide
  have hend : '>' ∉ label := by
    intro hmem
    have hfalse : isLabelChar '>' = false := rfl
    rw [hlabel _ hmem] at hfalse
    cases hfalse
  have hsplit : "<meta charset=\"".toList = "<meta".toList ++ ' ' :: "charset=\"".toList := by decide
  have hclose : "\">".toList = ['"', '>'] := by decide
  -- Stated for any two texts, since the literals are slow to compare.
  have hcut : ∀ a b : List Char, a ++ ' ' :: b ++ (label ++ ['"', '>']) =
      a ++ (' ' :: (b ++ (label ++ ['"'])) ++ ['>']) := by simp
  have htag := (congrArg₂ (fun a b => a ++ (label ++ b)) hsplit hclose).trans (hcut _ _)
  refine ⟨_, hword, ?_, ?_, htag⟩
  · simp [hend]
  · rintro _ ⟨⟩
    rfl

theorem declaredIn?_metaTag {label : List Char} {e : Encoding}
    (hlabel : ∀ c ∈ label, isLabelChar c = true) (he : Encoding.ofLabel? label = some e) :
    declaredIn? (metaTag label) = some e := by
  have hne : label ≠ [] := by
    rintro rfl
    have hnone : Encoding.ofLabel? [] = none := rfl
    cases hnone.symm.trans he
  have hhere := labelHere?_charset hlabel hne
  have hblank : isWord ' ' = false := rfl
  have hfrom : labelFrom? false (' ' :: ("charset=\"".toList ++ (label ++ ['"']))) = some label := by
    have hletters : "charset=\"".toList = 'c' :: "harset=\"".toList := by decide
    rw [hletters, List.cons_append] at hhere ⊢
    rw [labelFrom?_cons (by decide), hblank, labelFrom?, if_neg Bool.false_ne_true, hhere]
  rw [← declaredIn?_tag (isTag_metaTag hlabel), declaredIn?, hfrom]
  exact he

/-! The declaration of a document. -/

theorem declaredAtTop?_of_unclosed {bytes closed opened : List UInt8}
    (htop : bytes.take 4096 = closed ++ opened) (hopened : 0x3E ∉ opened) :
    declaredAtTop? bytes = declaredAtTop? closed := by
  have hlength : closed.length ≤ 4096 := by
    have := congrArg List.length htop
    rw [List.length_take, List.length_append] at this
    omega
  rw [declaredAtTop?, declaredAtTop?, declarationReach, htop, List.take_of_length_le hlength]
  simp only [tagsFrom_decodeLenient_append hopened]

theorem declaredAtTop?_of_take {bytes bytes' : List UInt8} (h : bytes.take 4096 = bytes'.take 4096) :
    declaredAtTop? bytes = declaredAtTop? bytes' := by
  rw [declaredAtTop?, declaredAtTop?, declarationReach, h]

theorem declaredAtTop?_isSome {bytes : List UInt8} {tags : List (List Char)} {tag : List Char}
    {e : Encoding} (htags : Tags (decodeLenient (bytes.take 4096)) tags) (htag : tag ∈ tags)
    (he : Names tag e) : (declaredAtTop? bytes).isSome = true := by
  rw [declaredAtTop?, declarationReach, Option.isSome_map, htags.findSome?_insides,
    List.findSome?_isSome_iff]
  exact ⟨tag, htag, by rw [declaredIn?_eq_some_iff.2 he]; rfl⟩

theorem declaredAtTop?_metaTag {skipped : List (List UInt8)} {p : List UInt8} {label : List Char}
    {e : Encoding} (hskipped : ∀ piece ∈ skipped, NamesNothing piece) (hp : 0x3C ∉ p)
    (hlabel : IsAsciiLabel label) (he : Encoding.ofLabel? label = some e)
    (hlength : (skipped.flatten ++ (p ++ Text.Utf8.encode (metaTag label))).length ≤ 4096)
    (rest : List UInt8) :
    declaredAtTop? (skipped.flatten ++ (p ++ Text.Utf8.encode (metaTag label)) ++ rest) =
      some e.declared := by
  have hread := Text.Utf8.decodeLenient_encode (metaTag label)
  have htag := isTag_metaTag hlabel.isLabelChar
  rw [← hread] at htag
  rw [declaredAtTop?, declarationReach, List.take_append, List.take_of_length_le hlength,
    List.append_assoc, List.append_assoc]
  simp only [findSome?_tagsFrom_skip hskipped, findSome?_tagsFrom_tag hp htag, hread,
    declaredIn?_metaTag hlabel.isLabelChar he, Option.some_or, Option.map_some]

/-! The encoding in which a document is read. -/

/-- The content type names no encoding. -/
def Silent (contentType : Option String) : Prop := ∀ e, ¬NamedBy contentType e

/-- Neither UTF-16 in one of its orders nor the encoding that stands for those no longer read. -/
def Declarable (e : Encoding) : Prop := (∀ order, e ≠ .utf16 order) ∧ e ≠ .replacement

theorem declarable_declared (e : Encoding) : Declarable e.declared := by
  cases e <;> exact ⟨nofun, nofun⟩

theorem Likely.declarable {bytes : List UInt8} {e : Encoding} (h : Likely bytes e) : Declarable e := by
  rcases h with ⟨-, rfl⟩ | ⟨-, rfl⟩ <;> exact ⟨nofun, nofun⟩

section Detector

variable [Detector]

theorem readIn_of_silent {bytes : List UInt8} {contentType : Option String}
    (hunmarked : Unmarked bytes) (hsilent : Silent contentType) :
    ReadIn ((declaredAtTop? bytes).getD (Detector.guess bytes)) bytes (decode bytes contentType) := by
  rw [← encodingOf_of_not_namedBy hsilent]
  exact hunmarked.readIn contentType

/-- Where neither a byte order mark nor the content type says which encoding it is, the first complete tag at
the top that names one does: no other tag, nothing behind the top, and no bytes before the tag change that.
A document is never read in an encoding that its own top could not name, as long as the detector finds none
but UTF-8 and windows-1252. -/
theorem top_decides :
    (∀ bytes contentType, Unmarked bytes → Silent contentType → Likely bytes (Detector.guess bytes) →
      ∃ e, Declarable e ∧ ReadIn e bytes (decode bytes contentType)) ∧
    (∀ top tags, Tags (decodeLenient top) tags → (∃ tag ∈ tags, ∃ named, Names tag named) →
      ∃ e, ∀ bytes contentType, bytes.take 4096 = top → Unmarked bytes → Silent contentType →
        ReadIn e bytes (decode bytes contentType)) ∧
    (∀ bytes contentType closed opened, Unmarked bytes → Silent contentType →
      bytes.take 4096 = closed ++ opened → 0x3E ∉ opened →
        (∀ e, DeclaresAtTop closed e → ReadIn e.declared bytes (decode bytes contentType)) ∧
        ((∀ e, ¬DeclaresAtTop closed e) →
          ReadIn (Detector.guess bytes) bytes (decode bytes contentType))) ∧
    ∀ (skipped : List (List UInt8)) p label e rest contentType,
      (∀ piece ∈ skipped, NamesNothing piece) → 0x3C ∉ p →
      IsAsciiLabel label → Encoding.ofLabel? label = some e →
      ∀ top, top = skipped.flatten ++ (p ++ Text.Utf8.encode (metaTag label)) → top.length ≤ 4096 →
        Unmarked (top ++ rest) → Silent contentType →
        ReadIn e.declared (top ++ rest) (decode (top ++ rest) contentType) := by
  refine ⟨?_, ?_, ?_, ?_⟩
  · intro bytes contentType hunmarked hsilent hlikely
    refine ⟨_, ?_, readIn_of_silent hunmarked hsilent⟩
    cases htop : declaredAtTop? bytes with
    | none => exact hlikely.declarable
    | some e =>
      obtain ⟨named, -, rfl⟩ := declaredAtTop?_eq_some_iff.1 htop
      exact declarable_declared named
  · rintro top tags htags ⟨tag, htag, named, hnamed⟩
    refine ⟨(declaredAtTop? top).getD .utf8, ?_⟩
    rintro bytes contentType rfl hunmarked hsilent
    have hread := readIn_of_silent hunmarked hsilent
    obtain ⟨e, he⟩ := Option.isSome_iff_exists.1 (declaredAtTop?_isSome htags htag hnamed)
    have htake : (bytes.take 4096).take 4096 = bytes.take 4096 := by rw [List.take_take, Nat.min_self]
    rw [declaredAtTop?_of_take htake, he, Option.getD_some]
    rwa [he, Option.getD_some] at hread
  · intro bytes contentType closed opened hunmarked hsilent htop hopened
    have hread := readIn_of_silent hunmarked hsilent
    rw [declaredAtTop?_of_unclosed htop hopened] at hread
    refine ⟨fun e he => ?_, fun hnone => ?_⟩
    · rwa [declaredAtTop?_eq_some_iff.2 ⟨e, he, rfl⟩] at hread
    · rwa [declaredAtTop?_eq_none_iff.2 hnone, Option.getD_none] at hread
  · rintro skipped p label e rest contentType hskipped hp hlabel he _ rfl hlength hunmarked hsilent
    have hread := readIn_of_silent hunmarked hsilent
    rwa [declaredAtTop?_metaTag hskipped hp hlabel he hlength] at hread

end Detector

/-- Bytes of a broken character, and a tag that names no encoding. -/
def skippedPiece : List UInt8 := [0xE3, 0x81] ++ Text.Utf8.encode "<META charset=none>".toList

theorem namesNothing_skippedPiece : NamesNothing skippedPiece := by
  refine ⟨[0xE3, 0x81], _, " charset=none".toList, rfl, by decide, ?_, ?_⟩
  · rw [Text.Utf8.decodeLenient_encode]
    refine ⟨"<META".toList, by unfold Spells IsLetter; decide, by decide, ?_, rfl⟩
    rintro _ ⟨⟩
    rfl
  · intro e he
    rw [Text.Utf8.decodeLenient_encode, ← declaredIn?_eq_some_iff] at he
    have hnone : declaredIn? "<META charset=none>".toList = none := by decide +kernel
    cases hnone.symm.trans he

/-- The last tag has no end. -/
def cutTop : List UInt8 := Text.Utf8.encode "<meta charset=KOI8-R><meta charset=latin1".toList

/-- A complete tag decides before one that is cut off, and behind one that names nothing and broken bytes. -/
theorem top_decides_broken :
    (∃ e, Declarable e ∧ ReadIn e [0xE9] (decode [0xE9] none)) ∧
      (∃ e, ∀ bytes contentType, bytes.take 4096 = cutTop → Unmarked bytes → Silent contentType →
        ReadIn e bytes (decode bytes contentType)) ∧
      ReadIn (.oneByte .koi8r) cutTop (decode cutTop none) ∧
      ReadIn .shiftJis
        ([skippedPiece].flatten ++ ([0xE3] ++ Text.Utf8.encode (metaTag "Shift_JIS".toList)) ++
          [0x82, 0xA0])
        (decode ([skippedPiece].flatten ++ ([0xE3] ++ Text.Utf8.encode (metaTag "Shift_JIS".toList)) ++
          [0x82, 0xA0]) none) := by
  have hsilent : Silent none := not_namedBy_none
  have hcut : cutTop.take 4096 = Text.Utf8.encode "<meta charset=KOI8-R>".toList ++
      Text.Utf8.encode "<meta charset=latin1".toList := by decide +kernel
  have htop : declaredAtTop? cutTop = some (.oneByte .koi8r) := by decide +kernel
  refine ⟨?_, ?_, ?_, ?_⟩
  · exact top_decides.1 [0xE9] none (afterMark?_eq_none_iff.1 (by decide +kernel)) hsilent
      (likely_guess rfl)
  · obtain ⟨named, ⟨before, tag, after, htags, hnamed, -⟩, -⟩ := declaredAtTop?_eq_some_iff.1 htop
    have htake : cutTop.take declarationReach = cutTop := by decide +kernel
    rw [htake] at htags
    exact top_decides.2.1 _ _ htags ⟨tag, by simp, named, hnamed⟩
  · have hclosed := htop
    rw [declaredAtTop?_of_unclosed hcut (by decide +kernel)] at hclosed
    obtain ⟨named, hnamed, heq⟩ := declaredAtTop?_eq_some_iff.1 hclosed
    have hunmarked : Unmarked cutTop := afterMark?_eq_none_iff.1 (by decide +kernel)
    rw [← heq]
    exact (top_decides.2.2.1 _ _ _ _ hunmarked hsilent hcut (by decide +kernel)).1 named hnamed
  · refine top_decides.2.2.2 [skippedPiece] [0xE3] "Shift_JIS".toList .shiftJis _ none ?_ (by decide)
      (by simp [IsAsciiLabel]) (by decide +kernel) _ rfl (by decide +kernel)
      (afterMark?_eq_none_iff.1 (by decide +kernel)) hsilent
    rintro _ hpiece
    rw [List.mem_singleton.1 hpiece]
    exact namesNothing_skippedPiece

end Gleaner.Charset
