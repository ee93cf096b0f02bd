import Gleaner.Charset.Declaration
import Mathlib.Data.List.Forall2
import Mathlib.Data.List.TakeWhile

/-! Where a text declares an encoding. The searches of a content type and of the tags of a document are
described by the places in the text at which they find something. -/
namespace Gleaner.Charset

open List (Forall₂)
open Text (isBlank isWord)

/-! Characters. -/

/-- The blanks by their numbers. -/
def blankPoints : List Nat :=
  [0x09, 0x0A, 0x0B, 0x0C, 0x0D, 0x20, 0x85, 0xA0, 0x1680, 0x2000, 0x2001, 0x2002, 0x2003, 0x2004,
    0x2005, 0x2006, 0x2007, 0x2008, 0x2009, 0x200A, 0x2028, 0x2029, 0x202F, 0x205F, 0x3000]

theorem mem_blankPoints {c : Char} (h : isBlank c = true) : c.toNat ∈ blankPoints := by
  simp only [isBlank, Bool.or_eq_true, Bool.and_eq_true, decide_eq_true_eq, beq_iff_eq] at h
  simp only [blankPoints, List.mem_cons, List.not_mem_nil, or_false]
  omega

theorem isWord_of_isBlank {c : Char} (h : isBlank c = true) : isWord c = false := by
  have hall : blankPoints.all (fun n => !isWord (Char.ofNat n)) = true := by decide +kernel
  have := List.all_eq_true.1 hall _ (mem_blankPoints h)
  rwa [Char.ofNat_toNat, Bool.not_eq_true'] at this

theorem isLabelChar_of_isBlank {c : Char} (h : isBlank c = true) : isLabelChar c = false := by
  have hne : c ≠ '.' ∧ c ≠ ':' ∧ c ≠ '-' := by
    refine ⟨?_, ?_, ?_⟩ <;> (rintro rfl; cases h)
  simp [isLabelChar, isWord_of_isBlank h, hne]

/-! Words in any case. -/

/-- The character is the letter `w` in one of its cases. -/
def IsLetter (w c : Char) : Prop := c.toLower = w ∨ (w = 's' ∧ c = 'ſ')

def Spells (word s : List Char) : Prop := Forall₂ IsLetter word s

theorem afterWord?_eq_some_iff {word s rest : List Char} :
    afterWord? word s = some rest ↔ ∃ u, Spells word u ∧ s = u ++ rest := by
  induction word generalizing s with
  | nil =>
    constructor
    · rintro ⟨⟩
      exact ⟨[], .nil, rfl⟩
    · rintro ⟨_, ⟨⟩, rfl⟩
      rfl
  | cons w word ih =>
    cases s with
    | nil =>
      constructor
      · rintro ⟨⟩
      · rintro ⟨_, ⟨⟩, h⟩
        cases h
    | cons c s =>
      rw [afterWord?, Option.ite_none_right_eq_some, ih]
      constructor
      · rintro ⟨hc, u, hu, rfl⟩
        exact ⟨c :: u, .cons hc hu, rfl⟩
      · rintro ⟨_, ⟨⟩, h⟩
        next hc hu =>
          obtain ⟨rfl, rfl⟩ := List.cons.inj h
          exact ⟨hc, _, hu, rfl⟩

/-! One declaration. -/

/-- The text begins with a declaration of the label, which ends where its last character does. -/
def Declares (s label : List Char) : Prop :=
  ∃ word before after quote rest, Spells "charset".toList word ∧ (∀ c ∈ before, isBlank c = true) ∧
    (∀ c ∈ after, isBlank c = true) ∧ quote ∈ [[], ['"'], ['\'']] ∧
    label ≠ [] ∧ (∀ c ∈ label, isLabelChar c = true) ∧ (∀ c ∈ rest.head?, isLabelChar c = false) ∧
    s = word ++ (before ++ '=' :: (after ++ (quote ++ (label ++ rest))))

/-- A text is cut where a run of characters ends. -/
theorem cut_iff {p : Char → Bool} {s u rest : List Char} :
    s.takeWhile p = u ∧ s.dropWhile p = rest ↔
      s = u ++ rest ∧ (∀ c ∈ u, p c = true) ∧ ∀ c ∈ rest.head?, p c = false := by
  constructor
  · rintro ⟨rfl, rfl⟩
    refine ⟨List.takeWhile_append_dropWhile.symm, fun c hc => List.mem_takeWhile_imp hc, ?_⟩
    intro c hc
    have hnot := List.head?_dropWhile_not p s
    rwa [Option.mem_def.1 hc] at hnot
  · rintro ⟨rfl, hu, hrest⟩
    rw [List.takeWhile_append_of_pos hu, List.dropWhile_append_of_pos hu]
    cases rest with
    | nil => simp
    | cons c rest => simp [hrest c rfl]

theorem dropWhile_append {p : Char → Bool} {u rest : List Char} (hu : ∀ c ∈ u, p c = true)
    (hrest : ∀ c ∈ rest.head?, p c = false) : (u ++ rest).dropWhile p = rest :=
  (cut_iff.2 ⟨rfl, hu, hrest⟩).2

/-- The text after an opening quotation mark, if it begins with one. -/
def unquoted (s : List Char) : List Char :=
  match s with
  | '"' :: s | '\'' :: s => s
  | s => s

theorem exists_quote (s : List Char) : ∃ quote ∈ [[], ['"'], ['\'']], s = quote ++ unquoted s := by
  unfold unquoted
  split
  · exact ⟨['"'], by simp, rfl⟩
  · exact ⟨['\''], by simp, rfl⟩
  · exact ⟨[], by simp, rfl⟩

theorem unquoted_append {quote label rest : List Char} (hquote : quote ∈ [[], ['"'], ['\'']])
    (hne : label ≠ []) (hlabel : ∀ c ∈ label, isLabelChar c = true) :
    unquoted (quote ++ (label ++ rest)) = label ++ rest := by
  simp only [List.mem_cons, List.not_mem_nil, or_false] at hquote
  rcases hquote with rfl | rfl | rfl
  · obtain ⟨c, label, rfl⟩ := List.exists_cons_of_ne_nil hne
    have hc := hlabel c List.mem_cons_self
    have hdouble : c ≠ '"' := by
      rintro rfl
      cases hc
    have hsingle : c ≠ '\'' := by
      rintro rfl
      cases hc
    simp [unquoted, hdouble, hsingle]
  · rfl
  · rfl

theorem head?_of_mem_quotes {quote label rest : List Char} (hquote : quote ∈ [[], ['"'], ['\'']])
    (hne : label ≠ []) (hlabel : ∀ c ∈ label, isLabelChar c = true) :
    ∀ c ∈ (quote ++ (label ++ rest)).head?, isBlank c = false := by
  simp only [List.mem_cons, List.not_mem_nil, or_false] at hquote
  rcases hquote with rfl | rfl | rfl
  · obtain ⟨c, label, rfl⟩ := List.exists_cons_of_ne_nil hne
    have hc := hlabel c List.mem_cons_self
    simp only [List.nil_append, List.cons_append, List.head?_cons, Option.mem_some_iff,
      forall_eq']
    cases hblank : isBlank c with
    | false => rfl
    | true => rw [isLabelChar_of_isBlank hblank] at hc; cases hc
  · rintro _ ⟨⟩
    rfl
  · rintro _ ⟨⟩
    rfl

theorem labelHere?_eq (s : List Char) :
    labelHere? s = (afterWord? "charset".toList s).bind fun s =>
      match s.dropWhile isBlank with
      | '=' :: s =>
          let label := (unquoted (s.dropWhile isBlank)).takeWhile isLabelChar
          if label.isEmpty then none else some label
      | _ => none :=
  rfl

theorem labelHere?_eq_some_iff {s label : List Char} :
    labelHere? s = some label ↔ Declares s label := by
  simp only [labelHere?_eq, Option.bind_eq_some_iff, afterWord?_eq_some_iff]
  constructor
  · rintro ⟨s₁, ⟨word, hword, rfl⟩, h⟩
    split at h
    · next s₂ hs₂ =>
        obtain ⟨hne, h⟩ := Option.ite_none_left_eq_some.1 h
        obtain ⟨hs₁, hbefore, -⟩ := cut_iff.1 ⟨rfl, hs₂⟩
        obtain ⟨hs₂, hafter, -⟩ := cut_iff.1 ⟨rfl, (rfl : s₂.dropWhile isBlank = _)⟩
        obtain ⟨quote, hquote, hs₃⟩ := exists_quote (s₂.dropWhile isBlank)
        obtain ⟨hs₄, hlabel, hrest⟩ := cut_iff.1 ⟨Option.some.inj h, rfl⟩
        refine ⟨word, _, _, quote, _, hword, hbefore, hafter, hquote, ?_, hlabel, hrest, ?_⟩
        · rintro rfl
          exact hne (by rw [Option.some.inj h]; rfl)
        · rw [← hs₄, ← hs₃, ← hs₂, ← hs₁]
    · cases h
  · rintro ⟨word, before, after, quote, rest, hword, hbefore, hafter, hquote, hne, hlabel, hrest, rfl⟩
    refine ⟨_, ⟨word, hword, rfl⟩, ?_⟩
    have hequals : isBlank '=' = false := rfl
    rw [dropWhile_append hbefore (by simp [hequals])]
    simp only [dropWhile_append hafter (head?_of_mem_quotes hquote hne hlabel),
      unquoted_append hquote hne hlabel, (cut_iff.2 ⟨rfl, hlabel, hrest⟩).1]
    simp [hne]

/-! The first declaration of a text. -/

/-- A word can begin after `pre`. `inWord` says whether one is open before. -/
def AtBreak (inWord : Bool) (pre : List Char) : Prop :=
  (pre.getLast?.map isWord).getD inWord = false

/-- After `pre`, where a word can begin, the text goes on with a declaration of the label. -/
def DeclaredAfter (inWord : Bool) (s pre label : List Char) : Prop :=
  ∃ rest, s = pre ++ rest ∧ AtBreak inWord pre ∧ Declares rest label

def FirstLabel (inWord : Bool) (s label : List Char) : Prop :=
  ∃ pre, DeclaredAfter inWord s pre label ∧
    ∀ pre' label', DeclaredAfter inWord s pre' label' → pre.length ≤ pre'.length

theorem not_declares_nil {label : List Char} : ¬Declares [] label := by
  rw [← labelHere?_eq_some_iff]
  rintro ⟨⟩

theorem declaredAfter_nil_iff {inWord : Bool} {s label : List Char} :
    DeclaredAfter inWord s [] label ↔ (if inWord then none else labelHere? s) = some label := by
  rw [Option.ite_none_left_eq_some, labelHere?_eq_some_iff]
  simp [DeclaredAfter, AtBreak]

theorem declaredAfter_cons_iff {inWord : Bool} {c d : Char} {s pre label : List Char} :
    DeclaredAfter inWord (c :: s) (d :: pre) label ↔
      c = d ∧ DeclaredAfter (isWord c) s pre label := by
  have hbreak : AtBreak inWord (d :: pre) ↔ AtBreak (isWord d) pre := by
    unfold AtBreak
    cases pre <;> simp [List.getLast?_cons]
  simp only [DeclaredAfter, hbreak, List.cons_append, List.cons.injEq]
  constructor
  · rintro ⟨rest, ⟨rfl, rfl⟩, hpre, hrest⟩
    exact ⟨rfl, rest, rfl, hpre, hrest⟩
  · rintro ⟨rfl, rest, rfl, hpre, hrest⟩
    exact ⟨rest, ⟨rfl, rfl⟩, hpre, hrest⟩

theorem labelFrom?_eq_some_iff {inWord : Bool} {s label : List Char} :
    labelFrom? inWord s = some label ↔ FirstLabel inWord s label := by
  induction s generalizing inWord with
  | nil =>
    constructor
    · rintro ⟨⟩
    · rintro ⟨pre, ⟨rest, h, -, hrest⟩, -⟩
      rw [(List.append_eq_nil_iff.1 h.symm).2] at hrest
      exact absurd hrest not_declares_nil
  | cons c s ih =>
    rw [labelFrom?]
    split
    · next label' hhere =>
        have hfirst : DeclaredAfter inWord (c :: s) [] label' := declaredAfter_nil_iff.2 hhere
        constructor
        · rintro ⟨⟩
          exact ⟨[], hfirst, fun _ _ _ => Nat.zero_le _⟩
        · rintro ⟨pre, hpre, hleast⟩
          obtain rfl : pre = [] := List.eq_nil_of_length_eq_zero (Nat.le_zero.1 (hleast _ _ hfirst))
          exact (declaredAfter_nil_iff.1 hpre).symm.trans hhere |>.symm
    · next hhere =>
        have hnone : ∀ label', ¬DeclaredAfter inWord (c :: s) [] label' := by
          simp [declaredAfter_nil_iff, hhere]
        rw [ih]
        constructor
        · rintro ⟨pre, hpre, hleast⟩
          refine ⟨c :: pre, declaredAfter_cons_iff.2 ⟨rfl, hpre⟩, ?_⟩
          rintro (_ | ⟨d, pre'⟩) label' hpre'
          · exact absurd hpre' (hnone label')
          · exact Nat.succ_le_succ (hleast _ _ (declaredAfter_cons_iff.1 hpre').2)
        · rintro ⟨_ | ⟨d, pre⟩, hpre, hleast⟩
          · exact absurd hpre (hnone label)
          · obtain ⟨rfl, hshort⟩ := declaredAfter_cons_iff.1 hpre
            refine ⟨pre, hshort, fun pre' label' hpre' => ?_⟩
            exact Nat.le_of_succ_le_succ
              (hleast (c :: pre') label' (declaredAfter_cons_iff.2 ⟨rfl, hpre'⟩))

/-- The first declaration of the text names the encoding. -/
def Names (s : List Char) (e : Encoding) : Prop :=
  ∃ label, FirstLabel false s label ∧ Encoding.ofLabel? label = some e

theorem declaredIn?_eq_some_iff {s : List Char} {e : Encoding} :
    declaredIn? s = some e ↔ Names s e := by
  simp only [declaredIn?, Option.bind_eq_some_iff, labelFrom?_eq_some_iff, Names]

end Gleaner.Charset
