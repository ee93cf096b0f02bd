import Mathlib.Data.List.Nodup

/-! Lists seen from one of their entries, which occurs once, and the order of two entries. -/
namespace Gleaner.Markup

variable {α : Type} {a b : α} {l : List α}

theorem nodup_middle_iff {pre post : List α} :
    (pre ++ a :: post).Nodup ↔ a ∉ pre ∧ a ∉ post ∧ (pre ++ post).Nodup := by
  rw [List.nodup_middle, List.nodup_cons, List.mem_append, not_or, and_assoc]

section Entry

variable [DecidableEq α] {pre post : List α}

theorem dropWhile_middle (ha : a ∉ pre) : (pre ++ a :: post).dropWhile (· != a) = a :: post := by
  rw [List.dropWhile_append_of_pos fun x hx => bne_iff_ne.2 (ne_of_mem_of_not_mem hx ha),
    List.dropWhile_cons_of_neg (by simp)]

theorem takeWhile_middle (ha : a ∉ pre) : (pre ++ a :: post).takeWhile (· != a) = pre := by
  rw [List.takeWhile_append_of_pos fun x hx => bne_iff_ne.2 (ne_of_mem_of_not_mem hx ha),
    List.takeWhile_cons_of_neg (by simp), List.append_nil]

theorem erase_middle (ha : a ∉ pre) : (pre ++ a :: post).erase a = pre ++ post := by
  rw [List.erase_append_right _ ha, List.erase_cons_head]

/-- An entry is replaced by another one. -/
theorem map_middle (hpre : a ∉ pre) (hpost : a ∉ post) :
    (pre ++ a :: post).map (fun x => if x = a then b else x) = pre ++ b :: post := by
  have hself : ∀ {l : List α}, a ∉ l → l.map (fun x => if x = a then b else x) = l := by
    intro l hl
    refine (List.map_congr_left fun x hx => ?_).trans (List.map_id l)
    exact if_neg (ne_of_mem_of_not_mem hx hl)
  rw [List.map_append, List.map_cons, if_pos rfl, hself hpre, hself hpost]

/-- Another entry is put before an entry. -/
theorem flatMap_middle (hpre : a ∉ pre) (hpost : a ∉ post) :
    (pre ++ a :: post).flatMap (fun x => if x = a then [b, x] else [x]) = pre ++ b :: a :: post := by
  have hself : ∀ {l : List α}, a ∉ l → l.flatMap (fun x => if x = a then [b, x] else [x]) = l := by
    intro l hl
    induction l with
    | nil => rfl
    | cons x l ih =>
      rw [List.mem_cons, not_or] at hl
      rw [List.flatMap_cons, ih hl.2, if_neg (Ne.symm hl.1)]
      rfl
  rw [List.flatMap_append, List.flatMap_cons, hself hpre, hself hpost, if_pos rfl]
  rfl

theorem perm_flatMap_middle (hl : l.Nodup) (ha : a ∈ l) :
    (l.flatMap fun x => if x = a then [b, x] else [x]).Perm (b :: l) := by
  obtain ⟨pre, post, rfl⟩ := List.append_of_mem ha
  obtain ⟨hpre, hpost, -⟩ := nodup_middle_iff.1 hl
  rw [flatMap_middle hpre hpost]
  exact List.perm_middle

end Entry

/-- In a list without repetition two entries stand in one order only. -/
theorem not_sublist_swap (hl : l.Nodup) (hab : [a, b].Sublist l) : ¬ [b, a].Sublist l := by
  induction l with
  | nil => exact fun _ => by cases hab
  | cons e l ih =>
    intro hba
    obtain ⟨he, hl⟩ := List.nodup_cons.1 hl
    cases hab with
    | cons _ hab =>
      cases hba with
      | cons _ hba => exact ih hl hab hba
      | cons_cons _ hba => exact he (hab.subset (by simp))
    | cons_cons _ hab =>
      cases hba with
      | cons _ hba => exact he (hba.subset (by simp))
      | cons_cons _ hba => exact he (hab.subset (by simp))

theorem sublist_or_swap (ha : a ∈ l) (hb : b ∈ l) :
    a = b ∨ [a, b].Sublist l ∨ [b, a].Sublist l := by
  obtain ⟨pre, post, rfl⟩ := List.append_of_mem ha
  rcases List.mem_append.1 hb with hb | hb
  · refine .inr (.inr ?_)
    exact (List.singleton_sublist.2 hb).append (List.singleton_sublist.2 List.mem_cons_self)
  · rcases List.mem_cons.1 hb with rfl | hb
    · exact .inl rfl
    · refine .inr (.inl (List.Sublist.trans ?_ (List.sublist_append_right pre _)))
      exact (List.singleton_sublist.2 hb).cons_cons a

end Gleaner.Markup
