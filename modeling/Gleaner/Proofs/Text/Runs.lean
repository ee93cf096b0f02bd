import Mathlib.Data.List.SplitBy
import Gleaner.Proofs.Text.Normal

/-! The normal form of a text, told run by run: a text is cut into its maximal runs of blanks and of other
characters, the blanks at either end go, and of the blanks in between only what stands before an indented
line break stays. -/
namespace Gleaner.Text

/-- Both characters are blank or neither is. -/
def sameKind (a b : Char) : Bool := isBlank a == isBlank b

/-- The text cut into maximal runs of characters of one kind. -/
def runs (s : List Char) : List (List Char) := s.splitBy sameKind

/-- A run of blanks. -/
def isGap (r : List Char) : Bool := r.all isBlank

/-- The runs without a gap at the start and without one at the end. -/
def innerRuns (rs : List (List Char)) : List (List Char) := (rs.dropWhile isGap).rdropWhile isGap

def withoutReturn (w : List Char) : List Char :=
  if w.getLast? = some '\r' then w.dropLast else w

/-- A gap with a line break in front of its last character is cut off at its first line break, and the
carriage return directly before the break goes as well. Other gaps stay. -/
def shortened (w : List Char) : List Char :=
  if '\n' ∈ w.dropLast then withoutReturn (w.takeWhile (· ≠ '\n')) else w

/-- What stays of a run between other runs. -/
def keptOf (r : List Char) : List Char := if isGap r then shortened r else r

/-- The normal form, run by run. -/
def normalByRuns (s : String) : String :=
  String.ofList ((innerRuns (runs s.toList)).flatMap keptOf)

/-! The runs of a text. -/

/-- A run is not empty, and all of its characters are blank or none is. -/
def IsRun (r : List Char) : Prop :=
  r ≠ [] ∧ ((∀ c ∈ r, isBlank c = true) ∨ ∀ c ∈ r, isBlank c = false)

theorem isGap_iff {r : List Char} : isGap r = true ↔ ∀ c ∈ r, isBlank c = true := List.all_eq_true

theorem all_of_isChain {r : List Char} {c : Char}
    (h : (c :: r).IsChain fun a b => sameKind a b = true) :
    ∀ d ∈ r, isBlank d = isBlank c := by
  induction r generalizing c with
  | nil => simp
  | cons d r ih =>
    obtain ⟨hcd, hrest⟩ := List.isChain_cons_cons.1 h
    have hd : isBlank d = isBlank c := (beq_iff_eq.1 hcd).symm
    refine List.forall_mem_cons.2 ⟨hd, fun e he => ?_⟩
    rw [ih hrest e he, hd]

theorem isRun_of_mem_runs {s r : List Char} (h : r ∈ runs s) : IsRun r := by
  have hne : r ≠ [] := List.ne_nil_of_mem_splitBy h
  have hchain := List.isChain_of_mem_splitBy h
  refine ⟨hne, ?_⟩
  cases r with
  | nil => exact absurd rfl hne
  | cons c r =>
    have hall := all_of_isChain hchain
    cases hc : isBlank c with
    | true => exact .inl (List.forall_mem_cons.2 ⟨hc, fun d hd => (hall d hd).trans hc⟩)
    | false => exact .inr (List.forall_mem_cons.2 ⟨hc, fun d hd => (hall d hd).trans hc⟩)

theorem IsRun.solid {r : List Char} (h : IsRun r) (hgap : isGap r = false) :
    ∀ c ∈ r, isBlank c = false := by
  obtain ⟨-, hall | hall⟩ := h
  · rw [isGap_iff.2 hall] at hgap
    cases hgap
  · exact hall

/-! Joining lines. -/

/-- At each border between runs one of the two characters is solid, so that lines are joined run by run. -/
theorem joinLines_flatten {rs : List (List Char)} (hne : [] ∉ rs)
    (hborder : rs.IsChain fun a b => ∃ ha hb, sameKind (a.getLast ha) (b.head hb) = false) :
    joinLines rs.flatten = rs.flatMap joinLines := by
  induction rs with
  | nil => rfl
  | cons r rest ih =>
    rw [List.mem_cons, not_or] at hne
    have hrest := ih hne.2 hborder.tail
    rw [List.flatten_cons, List.flatMap_cons, ← hrest]
    cases rest with
    | nil => simp [joinLines, joinLinesFrom]
    | cons r' rest =>
      obtain ⟨⟨ha, hb, hdiffer⟩, -⟩ := List.isChain_cons_cons.1 hborder
      cases hlast : isBlank (r.getLast ha) with
      | false =>
        have hends : EndsSolid r := by
          intro c hc
          obtain ⟨_, rfl⟩ := List.mem_getLast?_eq_getLast hc
          exact hlast
        exact joinLines_append_of_ends hends _
      | true =>
        have hhead : isBlank (r'.head hb) = false := by simpa [sameKind, hlast] using hdiffer
        have hstarts : StartsSolid (r' :: rest).flatten := by
          intro c hc
          rw [List.flatten_cons, List.head?_append_of_ne_nil _ hb, List.head?_eq_some_head hb] at hc
          cases hc
          exact hhead
        exact joinLines_append hstarts _

theorem joinLines_of_solid {r : List Char} (h : ∀ c ∈ r, isBlank c = false) : joinLines r = r := by
  induction r with
  | nil => rfl
  | cons c r ih =>
    rw [List.forall_mem_cons] at h
    rw [joinLines_cons_of_solid h.1, ih h.2]

theorem joinLinesFrom_true_of_gap {w : List Char} (hw : ∀ c ∈ w, isBlank c = true) :
    joinLinesFrom true w = [] := by
  induction w with
  | nil => rfl
  | cons c w ih =>
    rw [List.forall_mem_cons] at hw
    simp [joinLinesFrom, hw.1, ih hw.2]

theorem withoutReturn_cons {c : Char} {u : List Char} (h : u = [] → c ≠ '\r') :
    withoutReturn (c :: u) = c :: withoutReturn u := by
  cases u with
  | nil => simp [withoutReturn, h rfl]
  | cons d u =>
    simp only [withoutReturn, List.getLast?_cons_cons, List.dropLast_cons_cons]
    split_ifs <;> rfl

/-- A break at the start of a gap takes the whole gap with it. -/
theorem shortened_of_break {c : Char} {w : List Char} (h : breaksLine c w = true) :
    shortened (c :: w) = [] := by
  obtain ⟨b, t, -, ⟨rfl, rfl⟩ | ⟨rfl, rfl⟩⟩ := breaksLine_iff.1 h
  · simp [shortened, withoutReturn]
  · simp [shortened, withoutReturn]

/-- Without a break at its start a gap keeps its first character. -/
theorem shortened_cons {c : Char} {w : List Char} (hw : ∀ d ∈ w, isBlank d = true)
    (h : ¬ breaksLine c w = true) : shortened (c :: w) = c :: shortened w := by
  cases w with
  | nil => simp [shortened]
  | cons d w =>
    rw [List.forall_mem_cons] at hw
    have hfeed : c ≠ '\n' := by
      rintro rfl
      exact h (breaksLine_iff.2 ⟨d, w, hw.1, .inl ⟨rfl, rfl⟩⟩)
    by_cases hbreak : '\n' ∈ (d :: w).dropLast
    · have hreturn : (d :: w).takeWhile (· ≠ '\n') = [] → c ≠ '\r' := by
        rintro hnil rfl
        cases w with
        | nil => simp at hbreak
        | cons e w =>
          have hd : d = '\n' := by simpa using hnil
          rw [List.forall_mem_cons] at hw
          exact h (breaksLine_iff.2 ⟨e, w, hw.2.1, .inr ⟨rfl, by rw [hd]⟩⟩)
      have htake : (c :: d :: w).takeWhile (· ≠ '\n') = c :: (d :: w).takeWhile (· ≠ '\n') :=
        List.takeWhile_cons_of_pos (by simpa using hfeed)
      have hmem : '\n' ∈ (c :: d :: w).dropLast := List.mem_cons_of_mem c hbreak
      rw [shortened, shortened, if_pos hmem, if_pos hbreak, htake, withoutReturn_cons hreturn]
    · have hnone : '\n' ∉ (c :: d :: w).dropLast := by
        rw [List.dropLast_cons_cons, List.mem_cons, not_or]
        exact ⟨hfeed.symm, hbreak⟩
      rw [shortened, shortened, if_neg hnone, if_neg hbreak]

theorem joinLines_of_gap {w : List Char} (hw : ∀ c ∈ w, isBlank c = true) :
    joinLines w = shortened w := by
  induction w with
  | nil => rfl
  | cons c w ih =>
    rw [List.forall_mem_cons] at hw
    cases h : breaksLine c w with
    | true =>
      rw [shortened_of_break h, joinLines]
      simp [joinLinesFrom, h, joinLinesFrom_true_of_gap hw.2]
    | false =>
      rw [shortened_cons hw.2 (by simp [h]), ← ih hw.2, joinLines]
      simp [joinLinesFrom, h, joinLines]

theorem joinLines_of_isRun {r : List Char} (h : IsRun r) : joinLines r = keptOf r := by
  rw [keptOf]
  split_ifs with hgap
  · exact joinLines_of_gap (isGap_iff.1 hgap)
  · exact joinLines_of_solid (h.solid (by simpa using hgap))

/-- The lines of a text are joined in each of its runs by itself. -/
theorem joinLines_runs (s : List Char) : joinLines s = (runs s).flatMap keptOf := by
  have hflatten : (runs s).flatten = s := List.flatten_splitBy _ s
  calc joinLines s = joinLines (runs s).flatten := by rw [hflatten]
    _ = (runs s).flatMap joinLines :=
        joinLines_flatten (List.nil_notMem_splitBy _ s) (List.isChain_getLast_head_splitBy _ s)
    _ = (runs s).flatMap keptOf :=
        List.flatMap_congr fun r hr => joinLines_of_isRun (isRun_of_mem_runs hr)

/-! Trimming. -/

theorem isBlank_of_mem_keptOf {r : List Char} (h : IsRun r) (hgap : isGap r = true) :
    ∀ c ∈ keptOf r, isBlank c = true := by
  intro c hc
  rw [← joinLines_of_isRun h] at hc
  exact isGap_iff.1 hgap c ((joinLinesFrom_sublist false r).subset hc)

theorem keptOf_of_solid {r : List Char} (hgap : isGap r = false) : keptOf r = r := by
  rw [keptOf, if_neg (by simp [hgap])]

theorem dropWhile_flatMap_keptOf {rs : List (List Char)} (h : ∀ r ∈ rs, IsRun r) :
    (rs.flatMap keptOf).dropWhile isBlank = (rs.dropWhile isGap).flatMap keptOf := by
  induction rs with
  | nil => rfl
  | cons r rest ih =>
    rw [List.forall_mem_cons] at h
    rw [List.flatMap_cons]
    cases hgap : isGap r with
    | true =>
      rw [List.dropWhile_append_of_pos (isBlank_of_mem_keptOf h.1 hgap), ih h.2,
        List.dropWhile_cons_of_pos hgap]
    | false =>
      obtain ⟨c, r, rfl⟩ := List.exists_cons_of_ne_nil h.1.1
      have hc : isBlank c = false := h.1.solid hgap c List.mem_cons_self
      rw [List.dropWhile_cons_of_neg (by simp [hgap]), List.flatMap_cons, keptOf_of_solid hgap]
      exact dropWhile_of_starts (startsSolid_cons.2 hc)

theorem trimEnd_append_of_blank {w : List Char} (hw : ∀ c ∈ w, isBlank c = true) (s : List Char) :
    trimEnd (s ++ w) = trimEnd s := by
  have hreverse : ∀ c ∈ w.reverse, isBlank c = true := fun c hc => hw c (List.mem_reverse.1 hc)
  rw [trimEnd, List.reverse_append, List.dropWhile_append_of_pos hreverse, trimEnd]

theorem trimEnd_flatMap_keptOf {rs : List (List Char)} (h : ∀ r ∈ rs, IsRun r) :
    trimEnd (rs.flatMap keptOf) = (rs.rdropWhile isGap).flatMap keptOf := by
  induction rs using List.reverseRecOn with
  | nil => rfl
  | append_singleton rest r ih =>
    rw [List.forall_mem_append, List.forall_mem_singleton] at h
    rw [List.flatMap_append, List.flatMap_singleton]
    cases hgap : isGap r with
    | true =>
      rw [trimEnd_append_of_blank (isBlank_of_mem_keptOf h.2 hgap), ih h.1,
        List.rdropWhile_concat_pos _ _ _ hgap]
    | false =>
      -- The trim from the end stops at a run that is no gap, whatever stands before it.
      have hends : EndsSolid (rest.flatMap keptOf ++ r) := by
        intro c hc
        rw [List.getLast?_append_of_ne_nil _ h.2.1] at hc
        exact h.2.solid hgap c (List.mem_of_mem_getLast? hc)
      rw [List.rdropWhile_concat_neg _ _ _ (by simp [hgap]), List.flatMap_append,
        List.flatMap_singleton, keptOf_of_solid hgap, trimEnd_of_ends hends]

/-- Trimming takes away the outer gaps, whatever the joining of the lines has left of them. -/
theorem trim_flatMap_keptOf {rs : List (List Char)} (h : ∀ r ∈ rs, IsRun r) :
    trim (rs.flatMap keptOf) = (innerRuns rs).flatMap keptOf := by
  have hrest : ∀ r ∈ rs.dropWhile isGap, IsRun r :=
    fun r hr => h r ((List.dropWhile_sublist isGap).subset hr)
  rw [trim, dropWhile_flatMap_keptOf h, trimEnd_flatMap_keptOf hrest, innerRuns]

/-- The normal form is that of the runs: of the runs between the outer gaps those of other characters are
kept as they are, and the gaps up to an indented line break. -/
theorem normal_eq_normalByRuns (s : String) : normal s = normalByRuns s := by
  rw [normal, normalByRuns, joinLines_runs, trim_flatMap_keptOf fun r hr => isRun_of_mem_runs hr]

/-- The return before the break goes, the blank before the return stays. -/
example : normalByRuns "\tNet \r\n\n  42 EUR\n" = "Net 42 EUR" := by decide

end Gleaner.Text
