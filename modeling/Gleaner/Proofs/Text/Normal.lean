import Mathlib.Data.List.Chain
import Mathlib.Data.List.DropRight
import Gleaner.Text.Normal

/-! Normal forms of texts. A text is in normal form exactly if no blank stands at either end and none
behind a line break. The passes that make a normal form only drop blanks, and they do so on each side of a
place where a character that is no blank stands as if there were no other side. -/
namespace Gleaner.Text

/-- The first character, if there is one, is no blank. -/
def StartsSolid (s : List Char) : Prop := ∀ c ∈ s.head?, isBlank c = false

/-- The last character, if there is one, is no blank. -/
def EndsSolid (s : List Char) : Prop := ∀ c ∈ s.getLast?, isBlank c = false

/-- The text neither starts nor ends with a blank, and no line break has a blank directly behind it. -/
structure Tidy (s : List Char) : Prop where
  starts : StartsSolid s
  ends : EndsSolid s
  breaks : s.IsChain fun a b => a = '\n' → isBlank b = false

theorem startsSolid_cons {c : Char} {s : List Char} : StartsSolid (c :: s) ↔ isBlank c = false := by
  simp [StartsSolid]

theorem endsSolid_concat {c : Char} {s : List Char} : EndsSolid (s ++ [c]) ↔ isBlank c = false := by
  simp [EndsSolid]

/-! Breaks. -/

theorem breaksLine_iff {c : Char} {rest : List Char} :
    breaksLine c rest = true ↔
      ∃ b t, isBlank b = true ∧ (c = '\n' ∧ rest = b :: t ∨ c = '\r' ∧ rest = '\n' :: b :: t) := by
  constructor
  · intro h
    unfold breaksLine at h
    split at h
    · next b t => exact ⟨b, t, h, .inl ⟨rfl, rfl⟩⟩
    · next b t => exact ⟨b, t, h, .inr ⟨rfl, rfl⟩⟩
    · cases h
  · rintro ⟨b, t, hb, ⟨rfl, rfl⟩ | ⟨rfl, rfl⟩⟩
    · exact hb
    · exact hb

theorem isBlank_of_breaksLine {c : Char} {rest : List Char} (h : breaksLine c rest = true) :
    isBlank c = true := by
  obtain ⟨b, t, -, ⟨rfl, -⟩ | ⟨rfl, -⟩⟩ := breaksLine_iff.1 h
  · rfl
  · rfl

theorem breaksLine_of_solid {c : Char} (rest : List Char) (hc : isBlank c = false) :
    breaksLine c rest = false := by
  cases h : breaksLine c rest with
  | false => rfl
  | true =>
    rw [isBlank_of_breaksLine h] at hc
    cases hc

theorem breaksLine_feed {rest : List Char} : breaksLine '\n' rest = false ↔ StartsSolid rest := by
  cases rest with
  | nil => simp [breaksLine, StartsSolid]
  | cons b t => simp [breaksLine, StartsSolid]

/-- A blank in front of a text that ends before a solid character belongs to the text. -/
theorem eq_cons_of_append {x y t : List Char} {b : Char} (hy : StartsSolid y) (hb : isBlank b = true)
    (h : x ++ y = b :: t) : ∃ u, x = b :: u := by
  cases x with
  | nil =>
    rw [List.nil_append] at h
    have hsolid : isBlank b = false := startsSolid_cons.1 (h ▸ hy)
    rw [hsolid] at hb
    cases hb
  | cons d u =>
    obtain ⟨rfl, -⟩ := List.cons.inj h
    exact ⟨u, rfl⟩

/-- Whether a line is broken does not depend on what stands from a solid character on. -/
theorem breaksLine_append {y : List Char} (hy : StartsSolid y) (c : Char) (rest : List Char) :
    breaksLine c (rest ++ y) = breaksLine c rest := by
  rw [Bool.eq_iff_iff, breaksLine_iff, breaksLine_iff]
  constructor
  · rintro ⟨b, t, hb, ⟨rfl, h⟩ | ⟨rfl, h⟩⟩
    · obtain ⟨u, rfl⟩ := eq_cons_of_append hy hb h
      exact ⟨b, u, hb, .inl ⟨rfl, rfl⟩⟩
    · obtain ⟨u, rfl⟩ := eq_cons_of_append hy rfl h
      obtain ⟨v, rfl⟩ := eq_cons_of_append hy hb (List.cons.inj h).2
      exact ⟨b, v, hb, .inr ⟨rfl, rfl⟩⟩
  · rintro ⟨b, t, hb, ⟨rfl, rfl⟩ | ⟨rfl, rfl⟩⟩
    · exact ⟨b, t ++ y, hb, .inl ⟨rfl, rfl⟩⟩
    · exact ⟨b, t ++ y, hb, .inr ⟨rfl, rfl⟩⟩

/-! The pass that joins the lines. -/

theorem joinLinesFrom_cons_of_solid {c : Char} (hc : isBlank c = false) (skip : Bool)
    (rest : List Char) : joinLinesFrom skip (c :: rest) = c :: joinLinesFrom false rest := by
  simp [joinLinesFrom, hc, breaksLine_of_solid]

theorem joinLinesFrom_of_starts {s : List Char} (hs : StartsSolid s) (skip : Bool) :
    joinLinesFrom skip s = joinLines s := by
  cases s with
  | nil => rfl
  | cons c rest =>
    have hc : isBlank c = false := startsSolid_cons.1 hs
    rw [joinLines, joinLinesFrom_cons_of_solid hc, joinLinesFrom_cons_of_solid hc]

theorem joinLinesFrom_append {y : List Char} (hy : StartsSolid y) (skip : Bool) (x : List Char) :
    joinLinesFrom skip (x ++ y) = joinLinesFrom skip x ++ joinLines y := by
  induction x generalizing skip with
  | nil => simp [joinLinesFrom, joinLinesFrom_of_starts hy]
  | cons c rest ih =>
    simp only [List.cons_append, joinLinesFrom, breaksLine_append hy, ih]
    split_ifs <;> rfl

/-- Lines are joined on both sides of a place apart if the next character behind it is solid. -/
theorem joinLines_append {y : List Char} (hy : StartsSolid y) (x : List Char) :
    joinLines (x ++ y) = joinLines x ++ joinLines y :=
  joinLinesFrom_append hy false x

theorem joinLines_cons_of_solid {c : Char} (hc : isBlank c = false) (rest : List Char) :
    joinLines (c :: rest) = c :: joinLines rest :=
  joinLinesFrom_cons_of_solid hc false rest

/-- The same if the character in front of the place is solid. -/
theorem joinLines_append_of_ends {x : List Char} (hx : EndsSolid x) (y : List Char) :
    joinLines (x ++ y) = joinLines x ++ joinLines y := by
  induction x using List.reverseRecOn with
  | nil => rfl
  | append_singleton x c _ =>
    have hc : isBlank c = false := endsSolid_concat.1 hx
    have hsolid : ∀ t, StartsSolid (c :: t) := fun t => startsSolid_cons.2 hc
    rw [List.append_assoc, List.singleton_append, joinLines_append (hsolid y),
      joinLines_append (hsolid []), joinLines_cons_of_solid hc, joinLines_cons_of_solid hc]
    simp [joinLines, joinLinesFrom]

theorem joinLinesFrom_sublist (skip : Bool) (s : List Char) : (joinLinesFrom skip s).Sublist s := by
  induction s generalizing skip with
  | nil => simp [joinLinesFrom]
  | cons c rest ih =>
    rw [joinLinesFrom]
    split_ifs
    · exact (ih true).cons c
    · exact (ih true).cons c
    · exact (ih false).cons_cons c

theorem filter_joinLinesFrom (skip : Bool) (s : List Char) :
    (joinLinesFrom skip s).filter (!isBlank ·) = s.filter (!isBlank ·) := by
  induction s generalizing skip with
  | nil => simp [joinLinesFrom]
  | cons c rest ih =>
    rw [joinLinesFrom]
    split_ifs with hskip hbreak
    · have hc : isBlank c = true := (Bool.and_eq_true_iff.1 hskip).2
      simp [ih, hc]
    · have hc : isBlank c = true := isBlank_of_breaksLine hbreak
      simp [ih, hc]
    · simp only [List.filter_cons, ih]

theorem startsSolid_joinLines {s : List Char} (hs : StartsSolid s) : StartsSolid (joinLines s) := by
  cases s with
  | nil => exact hs
  | cons c rest =>
    have hc : isBlank c = false := startsSolid_cons.1 hs
    rw [joinLines_cons_of_solid hc]
    exact startsSolid_cons.2 hc

theorem endsSolid_joinLines {s : List Char} (hs : EndsSolid s) : EndsSolid (joinLines s) := by
  induction s using List.reverseRecOn with
  | nil => exact hs
  | append_singleton x c _ =>
    have hc : isBlank c = false := endsSolid_concat.1 hs
    have hone : joinLines [c] = [c] := joinLines_cons_of_solid hc []
    rw [joinLines_append (startsSolid_cons.2 hc), hone]
    exact endsSolid_concat.2 hc

/-- A line break that is kept has no blank behind it, for the next character is kept as well. -/
theorem joinLinesFrom_breaks (skip : Bool) (s : List Char) :
    (joinLinesFrom skip s).IsChain fun a b => a = '\n' → isBlank b = false := by
  induction s generalizing skip with
  | nil => simp [joinLinesFrom]
  | cons c rest ih =>
    rw [joinLinesFrom]
    split_ifs with hskip hbreak
    · exact ih true
    · exact ih true
    · refine List.isChain_cons.2 ⟨?_, ih false⟩
      rintro b hb rfl
      have hrest : StartsSolid rest := breaksLine_feed.1 (by simpa using hbreak)
      exact startsSolid_joinLines hrest b hb

theorem joinLines_of_breaks {s : List Char}
    (hs : s.IsChain fun a b => a = '\n' → isBlank b = false) : joinLines s = s := by
  induction s with
  | nil => rfl
  | cons c rest ih =>
    have hkeep : ¬ breaksLine c rest = true := by
      intro h
      obtain ⟨b, t, hb, ⟨rfl, rfl⟩ | ⟨rfl, rfl⟩⟩ := breaksLine_iff.1 h
      · simp [(List.isChain_cons_cons.1 hs).1 rfl] at hb
      · simp [(List.isChain_cons_cons.1 hs.tail).1 rfl] at hb
    have hrest : joinLinesFrom false rest = rest := ih hs.tail
    simp [joinLines, joinLinesFrom, hkeep, hrest]

/-! Trimming. -/

theorem trimEnd_eq_rdropWhile (s : List Char) : trimEnd s = s.rdropWhile isBlank := rfl

theorem trimEnd_of_ends {s : List Char} (hs : EndsSolid s) : trimEnd s = s := by
  rw [trimEnd_eq_rdropWhile, List.rdropWhile_eq_self_iff]
  intro hne
  simp [hs _ (List.getLast_mem_getLast? hne)]

theorem dropWhile_of_starts {s : List Char} (hs : StartsSolid s) : s.dropWhile isBlank = s := by
  cases s with
  | nil => rfl
  | cons c rest =>
    have hc : isBlank c = false := startsSolid_cons.1 hs
    rw [List.dropWhile_cons_of_neg (by simp [hc])]

theorem trim_of_solid {s : List Char} (starts : StartsSolid s) (ends : EndsSolid s) : trim s = s := by
  rw [trim, dropWhile_of_starts starts, trimEnd_of_ends ends]

theorem startsSolid_dropWhile (s : List Char) : StartsSolid (s.dropWhile isBlank) := by
  intro c hc
  have h := List.head?_dropWhile_not isBlank s
  rw [Option.mem_def.1 hc] at h
  simpa using h

theorem endsSolid_trimEnd (s : List Char) : EndsSolid (trimEnd s) := by
  intro c hc
  obtain ⟨hne, rfl⟩ := List.mem_getLast?_eq_getLast hc
  exact Bool.eq_false_iff.2 (List.rdropWhile_last_not isBlank s hne)

theorem dropWhile_append_of_starts {y : List Char} (hy : StartsSolid y) (x : List Char) :
    (x ++ y).dropWhile isBlank = x.dropWhile isBlank ++ y := by
  rw [List.dropWhile_append]
  split_ifs with h
  · rw [List.isEmpty_iff.1 h, dropWhile_of_starts hy, List.nil_append]
  · rfl

theorem trimEnd_append_of_ends {x : List Char} (hx : EndsSolid x) (y : List Char) :
    trimEnd (x ++ y) = x ++ trimEnd y := by
  have hreverse : StartsSolid x.reverse := by
    simpa [StartsSolid, EndsSolid] using hx
  simp [trimEnd, dropWhile_append_of_starts hreverse]

theorem endsSolid_dropWhile {s : List Char} (hs : EndsSolid s) : EndsSolid (s.dropWhile isBlank) := by
  obtain ⟨t, ht⟩ := List.dropWhile_suffix (l := s) isBlank
  intro c hc
  refine hs c ?_
  rw [← ht, List.getLast?_append, Option.mem_def.1 hc]
  rfl

/-- A trim does not see a place with solid characters on both sides. -/
theorem trim_append {x y : List Char} (hx : EndsSolid x) (hy : StartsSolid y) :
    trim (x ++ y) = trim x ++ trim y := by
  have hends : EndsSolid (x.dropWhile isBlank) := endsSolid_dropWhile hx
  calc trim (x ++ y) = trimEnd (x.dropWhile isBlank ++ y) := by
        rw [trim, dropWhile_append_of_starts hy]
    _ = x.dropWhile isBlank ++ trimEnd y := trimEnd_append_of_ends hends y
    _ = trim x ++ trim y := by
        rw [trim, trim, trimEnd_of_ends hends, dropWhile_of_starts hy]

/-! Normal forms. -/

theorem toList_normal (s : String) : (normal s).toList = trim (joinLines s.toList) :=
  String.toList_ofList

theorem normal_eq_iff {s t : String} : normal s = t ↔ trim (joinLines s.toList) = t.toList := by
  rw [← toList_normal, String.toList_inj]

theorem trim_isPrefix (s : List Char) : trim s <+: s.dropWhile isBlank :=
  List.rdropWhile_prefix isBlank _

theorem trim_isInfix (s : List Char) : trim s <:+: s :=
  (trim_isPrefix s).isInfix.trans (List.dropWhile_suffix isBlank).isInfix

theorem filter_dropWhile (s : List Char) :
    (s.dropWhile isBlank).filter (!isBlank ·) = s.filter (!isBlank ·) := by
  induction s with
  | nil => rfl
  | cons c rest ih =>
    rw [List.dropWhile_cons]
    split_ifs with hc
    · simp [ih, hc]
    · rfl

theorem filter_trim (s : List Char) : (trim s).filter (!isBlank ·) = s.filter (!isBlank ·) := by
  rw [trim, trimEnd, List.filter_reverse, filter_dropWhile, List.filter_reverse, List.reverse_reverse,
    filter_dropWhile]

/-- What a trim leaves starts with a solid character, also after the blanks at its end are gone. -/
theorem startsSolid_trim (s : List Char) : StartsSolid (trim s) := by
  obtain ⟨t, ht⟩ := trim_isPrefix s
  intro c hc
  refine startsSolid_dropWhile s c ?_
  rw [← ht, List.head?_append, Option.mem_def.1 hc]
  rfl

theorem tidy_normal (s : String) : Tidy (normal s).toList := by
  rw [toList_normal]
  exact ⟨startsSolid_trim _, endsSolid_trimEnd _,
    List.IsChain.infix (joinLinesFrom_breaks false s.toList) (trim_isInfix _)⟩

/-- The texts in normal form are those that are left as they are. -/
theorem normal_eq_self_iff {s : String} : normal s = s ↔ Tidy s.toList := by
  constructor
  · intro h
    exact h ▸ tidy_normal s
  · intro h
    rw [normal_eq_iff, joinLines_of_breaks h.breaks, trim_of_solid h.starts h.ends]

theorem normal_normal (s : String) : normal (normal s) = normal s :=
  normal_eq_self_iff.2 (tidy_normal s)

theorem normal_sublist (s : String) : (normal s).toList.Sublist s.toList := by
  rw [toList_normal]
  exact (trim_isInfix _).sublist.trans (joinLinesFrom_sublist false _)

theorem filter_normal (s : String) :
    (normal s).toList.filter (!isBlank ·) = s.toList.filter (!isBlank ·) := by
  rw [toList_normal, filter_trim]
  exact filter_joinLinesFrom false _

theorem normal_append {x y : String} (hx : EndsSolid x.toList) (hy : StartsSolid y.toList) :
    normal (x ++ y) = normal x ++ normal y := by
  rw [normal_eq_iff, String.toList_append, String.toList_append, toList_normal, toList_normal,
    joinLines_append hy, trim_append (endsSolid_joinLines hx) (startsSolid_joinLines hy)]

end Gleaner.Text
