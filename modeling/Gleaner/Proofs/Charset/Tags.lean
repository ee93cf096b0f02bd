import Gleaner.Proofs.Charset.Declaration
import Mathlib.Data.Nat.Find

/-! The meta tags of a text and the encoding that a document declares in them. -/
namespace Gleaner.Charset

open List (Forall₂)
open Text (isWord)

/-- A complete meta tag and what stands in it between the letters and the end. -/
def IsTag (tag inner : List Char) : Prop :=
  ∃ word, Spells "<meta".toList word ∧ '>' ∉ inner ∧ (∀ c ∈ inner.head?, isWord c = false) ∧
    tag = word ++ (inner ++ ['>'])

/-- The complete meta tags of a text, each to the right of the one before. -/
inductive Tags : List Char → List (List Char) → Prop
  | none {s : List Char} (h : ∀ pre tag rest inner, s = pre ++ (tag ++ rest) → ¬IsTag tag inner) :
      Tags s []
  | cons {pre tag rest inner : List Char} {tags : List (List Char)} (isTag : IsTag tag inner)
      (first : ∀ pre' tag' rest' inner', pre ++ (tag ++ rest) = pre' ++ (tag' ++ rest') →
        IsTag tag' inner' → pre.length ≤ pre'.length)
      (others : Tags rest tags) : Tags (pre ++ (tag ++ rest)) (tag :: tags)

theorem exists_tags (s : List Char) : ∃ tags, Tags s tags := by
  induction hn : s.length using Nat.strong_induction_on generalizing s with
  | _ n ih =>
    by_cases hsome :
        ∃ k pre tag rest inner, pre.length = k ∧ s = pre ++ (tag ++ rest) ∧ IsTag tag inner
    · classical
      obtain ⟨pre, tag, rest, inner, hpre, rfl, htag⟩ := Nat.find_spec hsome
      have hpos : 0 < tag.length := by
        obtain ⟨word, -, -, -, rfl⟩ := htag
        simp only [List.length_append, List.length_singleton]
        omega
      obtain ⟨tags, htags⟩ := ih rest.length (by simp only [List.length_append] at hn; omega) rest rfl
      refine ⟨tag :: tags, .cons htag ?_ htags⟩
      intro pre' tag' rest' inner' heq htag'
      rw [hpre]
      exact Nat.find_min' hsome ⟨pre', tag', rest', inner', rfl, heq, htag'⟩
    · refine ⟨[], .none ?_⟩
      intro pre tag rest inner heq htag
      exact hsome ⟨_, pre, tag, rest, inner, rfl, heq, htag⟩

/-! The search for tags. -/

theorem isLetter_iff {w c : Char} (h : w ≠ 's') : IsLetter w c ↔ c.toLower = w :=
  or_iff_left fun hs => h hs.1

theorem spells_meta_iff {word : List Char} :
    Spells "<meta".toList word ↔ ∃ a b c d e, a.toLower = '<' ∧ b.toLower = 'm' ∧
      c.toLower = 'e' ∧ d.toLower = 't' ∧ e.toLower = 'a' ∧ word = [a, b, c, d, e] := by
  have hletters : "<meta".toList = ['<', 'm', 'e', 't', 'a'] := rfl
  rw [hletters, Spells]
  constructor
  · rintro (_ | ⟨ha, _ | ⟨hb, _ | ⟨hc, _ | ⟨hd, _ | ⟨he, _ | _⟩⟩⟩⟩⟩)
    rw [isLetter_iff (by decide)] at ha hb hc hd he
    exact ⟨_, _, _, _, _, ha, hb, hc, hd, he, rfl⟩
  · rintro ⟨a, b, c, d, e, ha, hb, hc, hd, he, rfl⟩
    exact .cons (.inl ha) (.cons (.inl hb) (.cons (.inl hc) (.cons (.inl hd) (.cons (.inl he) .nil))))

theorem not_mem_of_spells {word : List Char} (h : Spells "<meta".toList word) : '>' ∉ word := by
  obtain ⟨a, b, c, d, e, ha, hb, hc, hd, he, rfl⟩ := spells_meta_iff.1 h
  intro hmem
  simp only [List.mem_cons, List.not_mem_nil, or_false] at hmem
  rcases hmem with rfl | rfl | rfl | rfl | rfl
  · cases ha
  · cases hb
  · cases hc
  · cases hd
  · cases he

theorem afterMeta?_eq_some_iff {s rest : List Char} :
    afterMeta? s = some rest ↔ ∃ word c t, Spells "<meta".toList word ∧ isWord c = false ∧
      rest = c :: t ∧ s = word ++ rest := by
  simp only [afterMeta?, Option.bind_eq_bind, Option.bind_eq_some_iff, afterWord?_eq_some_iff]
  constructor
  · rintro ⟨rest', ⟨word, hword, rfl⟩, h⟩
    split at h
    · cases h
    · obtain ⟨hc, ⟨⟩⟩ := Option.ite_none_left_eq_some.1 h
      exact ⟨word, _, _, hword, Bool.eq_false_iff.2 hc, rfl, rfl⟩
  · rintro ⟨word, c, t, hword, hc, rfl, rfl⟩
    exact ⟨_, ⟨word, hword, rfl⟩, by simp [hc]⟩

theorem tagsFrom_inside {u rest : List Char} (hu : '>' ∉ u) :
    tagsFrom true (u ++ '>' :: rest) = tagsFrom false rest := by
  induction u with
  | nil => simp [tagsFrom]
  | cons c u ih =>
    rw [List.mem_cons, not_or] at hu
    simp [tagsFrom, ne_comm.1 hu.1, ih hu.2]

/-- Without an end there is no tag. -/
theorem tagsFrom_eq_nil {inside : Bool} {s : List Char} (hs : '>' ∉ s) : tagsFrom inside s = [] := by
  induction s generalizing inside with
  | nil => rfl
  | cons c s ih =>
    have hrest : '>' ∉ s := fun h => hs (List.mem_cons_of_mem _ h)
    cases inside with
    | true => simp [tagsFrom, ih hrest]
    | false =>
      rw [tagsFrom, if_neg Bool.false_ne_true]
      split
      · next rest hmeta =>
          obtain ⟨word, -, -, -, -, -, hsplit⟩ := afterMeta?_eq_some_iff.1 hmeta
          have hend : '>' ∉ rest := fun h => hs (hsplit ▸ List.mem_append_right _ h)
          simp [hend]
      · exact ih hrest

/-- Where no tag begins, the search goes on. -/
theorem tagsFrom_cons {c : Char} {s : List Char}
    (h : ∀ tag rest inner, c :: s = tag ++ rest → ¬IsTag tag inner) :
    tagsFrom false (c :: s) = tagsFrom false s := by
  rw [tagsFrom, if_neg Bool.false_ne_true]
  split
  · next rest hmeta =>
      obtain ⟨word, d, t, hword, hd, rfl, hsplit⟩ := afterMeta?_eq_some_iff.1 hmeta
      have hend : '>' ∉ d :: t := by
        intro hmem
        obtain ⟨inner, rest, hrest, hinner⟩ := List.eq_append_cons_of_mem hmem
        refine h (word ++ (inner ++ ['>'])) rest inner ?_ ⟨word, hword, hinner, ?_, rfl⟩
        · simp [hsplit, hrest]
        · intro c hc
          cases inner with
          | nil => cases hc
          | cons b inner =>
            cases hc
            obtain ⟨rfl, -⟩ := List.cons.inj hrest
            exact hd
      have hs : '>' ∉ s := by
        have hall : '>' ∉ c :: s := by
          rw [hsplit, List.mem_append, not_or]
          exact ⟨not_mem_of_spells hword, hend⟩
        exact fun h => hall (List.mem_cons_of_mem _ h)
      simp [hend, tagsFrom_eq_nil hs]
  · rfl

theorem tagsFrom_append {pre s : List Char}
    (h : ∀ pre' tag rest inner, pre ++ s = pre' ++ (tag ++ rest) → IsTag tag inner →
      pre.length ≤ pre'.length) : tagsFrom false (pre ++ s) = tagsFrom false s := by
  induction pre with
  | nil => rfl
  | cons c pre ih =>
    rw [List.cons_append, tagsFrom_cons, ih]
    · intro pre' tag rest inner heq htag
      have := h (c :: pre') tag rest inner (by simp [heq]) htag
      simpa using this
    · intro tag rest inner heq htag
      have := h [] tag rest inner (by simpa using heq) htag
      simp at this

theorem takeWhile_append_end {inner rest : List Char} (hend : '>' ∉ inner) :
    (inner ++ '>' :: rest).takeWhile (· ≠ '>') = inner := by
  refine (cut_iff.2 ⟨rfl, ?_, ?_⟩).1
  · intro c hc
    simp only [decide_eq_true_eq]
    rintro rfl
    exact hend hc
  · simp

theorem tagsFrom_tag {tag inner rest : List Char} (h : IsTag tag inner) :
    tagsFrom false (tag ++ rest) = inner :: tagsFrom false rest := by
  obtain ⟨word, hword, hend, hinner, rfl⟩ := h
  have hcut : (inner ++ '>' :: rest).takeWhile (· ≠ '>') = inner := takeWhile_append_end hend
  have hmeta : afterMeta? (word ++ (inner ++ '>' :: rest)) = some (inner ++ '>' :: rest) := by
    rw [afterMeta?_eq_some_iff]
    cases inner with
    | nil => exact ⟨word, '>', rest, hword, rfl, rfl, rfl⟩
    | cons c inner => exact ⟨word, c, inner ++ '>' :: rest, hword, hinner c rfl, rfl, rfl⟩
  have hletters := not_mem_of_spells hword
  obtain ⟨a, b, c, d, e, -, -, -, -, -, rfl⟩ := spells_meta_iff.1 hword
  have hinside : '>' ∉ [b, c, d, e] ++ inner := by
    rw [List.mem_append, not_or]
    exact ⟨fun hmem => hletters (List.mem_cons_of_mem a hmem), hend⟩
  have hskip : tagsFrom true (b :: c :: d :: e :: (inner ++ '>' :: rest)) = tagsFrom false rest :=
    tagsFrom_inside hinside
  simp only [List.cons_append, List.nil_append, List.append_assoc] at hmeta ⊢
  rw [tagsFrom, if_neg Bool.false_ne_true, hmeta]
  simp only [hcut, hskip]
  rw [if_pos (by simp)]

/-- The search gives the insides of the tags. -/
theorem Tags.insides {s : List Char} {tags : List (List Char)} (h : Tags s tags) :
    Forall₂ IsTag tags (tagsFrom false s) := by
  induction h with
  | @none s h =>
    have hnil : tagsFrom false (s ++ []) = tagsFrom false [] := by
      refine tagsFrom_append fun pre tag rest inner heq htag => ?_
      exact absurd htag (h pre tag rest inner (by simpa using heq))
    rw [List.append_nil] at hnil
    rw [hnil]
    exact .nil
  | cons htag first _ ih =>
    rw [tagsFrom_append first, tagsFrom_tag htag]
    exact .cons htag ih

/-! Labels in tags. The letters and the end of a tag are no part of a declaration. -/

theorem eq_of_toLower {c : Char} (h : c.toLower = 'c') : c = 'c' ∨ c = 'C' := by
  unfold Char.toLower at h
  split at h
  · right
    have hval := congrArg (fun c : Char => c.val - ('a'.val - 'A'.val)) h
    rw [UInt32.add_sub_cancel] at hval
    exact Char.ext hval
  · exact .inl h

theorem isWord_of_toLower {c : Char} (h : c.toLower = 'c') : isWord c = true := by
  rcases eq_of_toLower h with rfl | rfl <;> rfl

/-- No declaration begins with another character than its first letter. -/
theorem labelFrom?_cons {inWord : Bool} {c : Char} {s : List Char} (h : c.toLower ≠ 'c') :
    labelFrom? inWord (c :: s) = labelFrom? (isWord c) s := by
  have hhere : labelHere? (c :: s) = none := by
    have hword : "charset".toList = 'c' :: "harset".toList := rfl
    simp [labelHere?, hword, afterWord?, h]
  simp [labelFrom?, hhere]

theorem labelHere?_append_end (s : List Char) : labelHere? (s ++ ['>']) = labelHere? s := by
  refine Option.ext fun label => ?_
  simp only [labelHere?_eq_some_iff]
  have hend : isLabelChar '>' = false := rfl
  constructor
  · rintro ⟨word, before, after, quote, rest, hword, hbefore, hafter, hquote, hne, hlabel, hrest, h⟩
    rcases List.eq_nil_or_concat' rest with rfl | ⟨rest, c, rfl⟩
    · -- The label cannot end the text, since `>` is none of its characters.
      obtain ⟨label, c, rfl⟩ := (List.eq_nil_or_concat' label).resolve_left hne
      have hlast : s ++ ['>'] = word ++ (before ++ '=' :: (after ++ (quote ++ label))) ++ [c] := by
        simpa using h
      obtain ⟨-, ⟨⟩⟩ := List.append_inj' hlast rfl
      rw [hlabel '>' (by simp)] at hend
      cases hend
    · have hlast : s ++ ['>'] =
          word ++ (before ++ '=' :: (after ++ (quote ++ (label ++ rest)))) ++ [c] := by simpa using h
      obtain ⟨rfl, -⟩ := List.append_inj' hlast rfl
      refine ⟨word, before, after, quote, rest, hword, hbefore, hafter, hquote, hne, hlabel, ?_, rfl⟩
      intro d hd
      exact hrest d (by simp [Option.mem_def.1 hd])
  · rintro ⟨word, before, after, quote, rest, hword, hbefore, hafter, hquote, hne, hlabel, hrest, rfl⟩
    refine ⟨word, before, after, quote, rest ++ ['>'], hword, hbefore, hafter, hquote, hne, hlabel,
      ?_, by simp⟩
    cases rest with
    | nil =>
      rintro _ ⟨⟩
      exact hend
    | cons c rest => exact hrest

theorem labelFrom?_append_end (inWord : Bool) (s : List Char) :
    labelFrom? inWord (s ++ ['>']) = labelFrom? inWord s := by
  induction s generalizing inWord with
  | nil => exact labelFrom?_cons (by decide)
  | cons c s ih =>
    have hhere := labelHere?_append_end (c :: s)
    rw [List.cons_append] at hhere ⊢
    rw [labelFrom?, labelFrom?, hhere, ih]

theorem labelFrom?_tag {tag inner : List Char} (h : IsTag tag inner) :
    labelFrom? false tag = labelFrom? false inner := by
  obtain ⟨word, hword, -, hinner, rfl⟩ := h
  obtain ⟨a, b, c, d, e, ha, hb, hc, hd, he, rfl⟩ := spells_meta_iff.1 hword
  rw [← List.append_assoc, labelFrom?_append_end]
  simp only [List.cons_append, List.nil_append]
  rw [labelFrom?_cons (by simp [ha]), labelFrom?_cons (by simp [hb]), labelFrom?_cons (by simp [hc]),
    labelFrom?_cons (by simp [hd]), labelFrom?_cons (by simp [he])]
  cases inner with
  | nil => rfl
  | cons f inner =>
    have hf : f.toLower ≠ 'c' := by
      intro hf
      have hword := hinner f rfl
      rw [isWord_of_toLower hf] at hword
      cases hword
    rw [labelFrom?_cons hf, labelFrom?_cons hf]

theorem declaredIn?_tag {tag inner : List Char} (h : IsTag tag inner) :
    declaredIn? inner = declaredIn? tag := by
  rw [declaredIn?, declaredIn?, labelFrom?_tag h]

theorem Tags.findSome?_insides {s : List Char} {tags : List (List Char)} (h : Tags s tags) :
    (tagsFrom false s).findSome? declaredIn? = tags.findSome? declaredIn? := by
  have hinsides := h.insides
  generalize tagsFrom false s = insides at hinsides
  clear h
  induction hinsides with
  | nil => rfl
  | cons htag _ ih => rw [List.findSome?_cons, List.findSome?_cons, declaredIn?_tag htag, ih]

theorem Tags.findSome?_eq_some_iff {s : List Char} {tags : List (List Char)} {e : Encoding}
    (h : Tags s tags) :
    (tagsFrom false s).findSome? declaredIn? = some e ↔ ∃ before tag after,
      tags = before ++ tag :: after ∧ Names tag e ∧ ∀ t ∈ before, ∀ e', ¬Names t e' := by
  simp only [h.findSome?_insides, List.findSome?_eq_some_iff, declaredIn?_eq_some_iff,
    Option.eq_none_iff_forall_ne_some, ne_eq]

/-- The first tag at the top of the document that names an encoding names `e`. -/
def DeclaresAtTop (bytes : List UInt8) (e : Encoding) : Prop :=
  ∃ before tag after, Tags (Text.Utf8.decodeLenient (bytes.take declarationReach))
      (before ++ tag :: after) ∧ Names tag e ∧ ∀ t ∈ before, ∀ e', ¬Names t e'

theorem declaredAtTop?_eq_some_iff {bytes : List UInt8} {e : Encoding} :
    declaredAtTop? bytes = some e ↔ ∃ named, DeclaresAtTop bytes named ∧ named.declared = e := by
  simp only [declaredAtTop?, Option.map_eq_some_iff]
  refine exists_congr fun named => and_congr_left fun _ => ?_
  constructor
  · intro h
    obtain ⟨tags, htags⟩ := exists_tags (Text.Utf8.decodeLenient (bytes.take declarationReach))
    obtain ⟨before, tag, after, rfl, hnamed, hbefore⟩ := htags.findSome?_eq_some_iff.1 h
    exact ⟨before, tag, after, htags, hnamed, hbefore⟩
  · rintro ⟨before, tag, after, htags, hnamed, hbefore⟩
    exact htags.findSome?_eq_some_iff.2 ⟨before, tag, after, rfl, hnamed, hbefore⟩

end Gleaner.Charset
