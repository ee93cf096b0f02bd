import Gleaner.Markup.Document

/-! Texts that the lexer reads between two tokens: tags without attributes and characters that begin no
markup. What they do to the tree construction does not depend on what the lexer has read before. -/
namespace Gleaner.Markup

/-- A tag without attributes, as it is written. -/
def tagText (closing : Bool) (name : List Char) : List Char :=
  (if closing then ['<', '/'] else ['<']) ++ name ++ ['>']

/-- A tag without attributes. -/
def plainTag (closing : Bool) (name : String) : Token :=
  if closing then .endTag { name } else .startTag { name }

theorem toLower_of_isLower {c : Char} (hc : c.isLower) : c.toLower = c := by
  unfold Char.isLower at hc
  rw [Bool.and_eq_true, decide_eq_true_eq, decide_eq_true_eq] at hc
  unfold Char.toLower
  rw [dif_neg]
  rintro ⟨-, hle⟩
  exact absurd (UInt32.le_trans hc.1 hle) (by decide)

theorem ne_of_isLower {c d : Char} (hc : c.isLower) (hd : d.isLower = false) : c ≠ d := by
  rintro rfl
  rw [hc] at hd
  cases hd

namespace Lexer

/-- Between two tokens. -/
def ready (last : String) : Lexer := { lastStart := last }

/-- Before the name of a tag. -/
def opening (last : String) (closing : Bool) : Lexer :=
  { state := if closing then .closeTagOpen else .tagOpen, lastStart := last }

/-- In the name of a tag. -/
def naming (last : String) (closing : Bool) (name : String) : Lexer :=
  { state := .tagName, draft := { closing, name }, lastStart := last }

variable {last name : String} {closing foreign : Bool} {c : Char}

theorem step_opening (hc : c.isLower) :
    (opening last closing).step foreign c = (naming last closing (String.ofList [c]), []) := by
  have hne : ∀ d : Char, d.isLower = false → c ≠ d := fun d => ne_of_isLower hc
  have halpha : c.isAlpha = true := Bool.or_eq_true_iff.2 (.inr hc)
  have hlower : c.toLower = c := toLower_of_isLower hc
  cases closing with
  | false => simp [opening, step, onTagOpen, hne, halpha, beginTag, goto, naming, hlower, Char.toString]
  | true => simp [opening, step, onCloseTagOpen, halpha, beginTag, goto, naming, hlower, Char.toString]

theorem step_naming (hc : c.isLower) :
    (naming last closing name).step foreign c = (naming last closing (name.push c), []) := by
  have hne : ∀ d : Char, d.isLower = false → c ≠ d := fun d => ne_of_isLower hc
  simp [naming, step, onTagName, isGap, hne, goto, shown, toLower_of_isLower hc]

theorem step_close :
    (naming last closing name).step foreign '>' =
      (ready (if closing then last else name), [plainTag closing name]) := by
  cases closing <;> rfl

theorem step_text (hless : c ≠ '<') (hamp : c ≠ '&') :
    (ready last).step foreign c = (ready last, [.char c]) := by
  simp [ready, step, onData, hless, hamp, say]

end Lexer

namespace Reading

variable {b : Builder} {l l' : Lexer} {c : Char} {last : String} {closing : Bool} {rest : List Char}

theorem feed_of_silent (h : ∀ foreign, l.step foreign c = (l', [])) :
    (⟨l, b⟩ : Reading).feed c = ⟨l', b⟩ := by
  rw [feed, h]

theorem feed_of_token {t : Token} (h : ∀ foreign, l.step foreign c = (l', [t])) :
    (⟨l, b⟩ : Reading).feed c = takeAll l' b [t] := by
  rw [feed, h]

theorem foldl_feed_name {name : List Char} (hrest : ∀ d ∈ rest, d.isLower) :
    rest.foldl feed ⟨.naming last closing (String.ofList name), b⟩ =
      ⟨.naming last closing (String.ofList (name ++ rest)), b⟩ := by
  induction rest generalizing name with
  | nil => rw [List.append_nil]; rfl
  | cons d rest ih =>
    rw [List.forall_mem_cons] at hrest
    have hpush : (String.ofList name).push d = String.ofList (name ++ [d]) := by simp
    rw [List.foldl_cons, feed_of_silent fun _ => Lexer.step_naming hrest.1, hpush, ih hrest.2,
      List.append_assoc]
    rfl

/-- A tag is taken in when it ends. -/
theorem foldl_feed_tag (hc : c.isLower) (hrest : ∀ d ∈ rest, d.isLower) :
    (tagText closing (c :: rest)).foldl feed ⟨.ready last, b⟩ =
      takeAll (.ready (if closing then last else String.ofList (c :: rest))) b
        [plainTag closing (String.ofList (c :: rest))] := by
  have hopening : (if closing then ['<', '/'] else ['<']).foldl feed ⟨.ready last, b⟩ =
      ⟨.opening last closing, b⟩ := by
    cases closing <;> rfl
  rw [tagText, List.foldl_append, List.foldl_append, hopening, List.foldl_cons,
    List.foldl_nil, List.foldl_cons, feed_of_silent fun _ => Lexer.step_opening hc,
    foldl_feed_name hrest, feed_of_token fun _ => Lexer.step_close]
  rfl

/-- The construction comes from the one state to the other while the text is read, between two tokens. -/
def Reads (text : List Char) (b b' : Builder) : Prop :=
  ∀ last, ∃ last', text.foldl feed ⟨.ready last, b⟩ = ⟨.ready last', b'⟩

namespace Reads

variable {b' b'' : Builder} {s t : List Char}

theorem nil : Reads [] b b := fun last => ⟨last, rfl⟩

theorem append (h : Reads s b b') (h' : Reads t b' b'') : Reads (s ++ t) b b'' := by
  intro last
  obtain ⟨last', hs⟩ := h last
  obtain ⟨last'', ht⟩ := h' last'
  exact ⟨last'', by rw [List.foldl_append, hs, ht]⟩

theorem takeAll_singleton {t : Token} (h : b.take t = b') (hrequest : b'.lexerRequest = none) :
    takeAll l b [t] = ⟨l, b'⟩ := by
  rw [takeAll, List.foldl_cons, List.foldl_nil, h]
  simp only [hrequest]

theorem tag {name : String} (hname : name ≠ "") (hletters : name.toList.all Char.isLower)
    (h : b.take (plainTag closing name) = b') (hrequest : b'.lexerRequest = none) :
    Reads (tagText closing name.toList) b b' := by
  intro last
  obtain ⟨c, rest, hcons⟩ := List.exists_cons_of_ne_nil (mt String.toList_eq_nil_iff.1 hname)
  have hofList : String.ofList (c :: rest) = name := by rw [← hcons, String.ofList_toList]
  rw [List.all_eq_true, hcons, List.forall_mem_cons] at hletters
  refine ⟨if closing then last else name, ?_⟩
  rw [hcons, foldl_feed_tag hletters.1 hletters.2, hofList, takeAll_singleton h hrequest]

theorem char (hless : c ≠ '<') (hamp : c ≠ '&') (h : b.take (.char c) = b')
    (hrequest : b'.lexerRequest = none) : Reads [c] b b' := by
  intro last
  refine ⟨last, ?_⟩
  rw [List.foldl_cons, List.foldl_nil, feed_of_token fun _ => Lexer.step_text hless hamp,
    takeAll_singleton h hrequest]

end Reads

end Reading

end Gleaner.Markup
