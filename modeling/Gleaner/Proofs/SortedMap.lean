import Mathlib.Data.List.Nodup
import Gleaner.SortedMap

/-! Look-up in sorted maps. In a map made of a list of entries the last entry of a key counts, so a
list without repeated keys loses nothing. -/
namespace Gleaner

variable {α : Type}

theorem lookup_cons_if (e : String × α) (l : List (String × α)) (j : String) :
    (e :: l).lookup j = if j = e.1 then some e.2 else l.lookup j := by
  obtain ⟨i, w⟩ := e
  by_cases h : j = i
  · simp [h]
  · simp [List.lookup_cons, beq_eq_false_iff_ne.mpr h, h]

theorem lookup_insertEntry (k j : String) (v : α) (l : List (String × α)) :
    (insertEntry k v l).lookup j = if j = k then some v else l.lookup j := by
  induction l with
  | nil => simp [insertEntry, lookup_cons_if]
  | cons e rest ih =>
    simp only [insertEntry]
    by_cases hlt : k < e.1
    · rw [if_pos hlt, lookup_cons_if]
    · rw [if_neg hlt]
      by_cases heq : k = e.1
      · simp only [if_pos heq, lookup_cons_if]
        split_ifs with hk he
        · rfl
        · exact absurd (he.trans heq.symm) hk
        · rfl
      · simp only [if_neg heq, lookup_cons_if, ih]
        split_ifs with he hk
        · exact absurd (hk.symm.trans he) heq
        · rfl
        · rfl
        · rfl

theorem mem_keys_insertEntry (k j : String) (v : α) (l : List (String × α)) :
    j ∈ (insertEntry k v l).map (·.1) ↔ j = k ∨ j ∈ l.map (·.1) := by
  induction l with
  | nil => simp [insertEntry]
  | cons e rest ih =>
    simp only [insertEntry]
    split_ifs with hlt heq
    · simp
    · subst heq
      simp
    · simp only [List.map_cons, List.mem_cons, ih]
      exact or_left_comm

theorem lookup_eq_none_iff {l : List (String × α)} {j : String} :
    l.lookup j = none ↔ j ∉ l.map (·.1) := by
  induction l with
  | nil => simp
  | cons e rest ih =>
    rw [lookup_cons_if]
    split_ifs with h
    · simp [h]
    · simp [ih, h]

theorem mem_of_lookup_eq_some {l : List (String × α)} {j : String} {v : α}
    (h : l.lookup j = some v) : (j, v) ∈ l := by
  induction l with
  | nil => cases h
  | cons e rest ih =>
    rw [lookup_cons_if] at h
    split_ifs at h with hj
    · cases h
      rw [hj]
      exact List.mem_cons_self
    · exact List.mem_cons_of_mem _ (ih h)

namespace SortedMap

@[simp] theorem get?_insert (m : SortedMap α) (k j : String) (v : α) :
    (m.insert k v).get? j = if j = k then some v else m.get? j :=
  lookup_insertEntry k j v m.entries

@[simp] theorem mem_keys_insert (m : SortedMap α) (k j : String) (v : α) :
    j ∈ (m.insert k v).keys ↔ j = k ∨ j ∈ m.keys :=
  mem_keys_insertEntry k j v m.entries

theorem keys_nodup (m : SortedMap α) : m.keys.Nodup := by
  refine List.pairwise_map.2 (m.increasing.imp ?_)
  intro a b h he
  rw [he] at h
  exact String.lt_irrefl _ h

theorem length_keys (m : SortedMap α) : m.keys.length = m.size := List.length_map _

/-! Maps made of lists of entries. -/

/-- The induction behind `ofList`: the entries go into a map that holds others already. -/
theorem get?_foldl_insert (l : List (String × α)) (m : SortedMap α) (j : String) :
    (l.foldl (fun m e => m.insert e.1 e.2) m).get? j = (l.reverse.lookup j).or (m.get? j) := by
  induction l generalizing m with
  | nil => simp
  | cons e rest ih =>
    simp only [List.foldl_cons, ih, List.reverse_cons, List.lookup_append, get?_insert,
      Option.or_assoc]
    congr 1
    simp only [lookup_cons_if, List.lookup_nil]
    split_ifs <;> rfl

theorem mem_keys_foldl_insert (l : List (String × α)) (m : SortedMap α) (j : String) :
    j ∈ (l.foldl (fun m e => m.insert e.1 e.2) m).keys ↔ j ∈ l.map (·.1) ∨ j ∈ m.keys := by
  induction l generalizing m with
  | nil => simp
  | cons e rest ih =>
    simp only [List.foldl_cons, ih, mem_keys_insert, List.map_cons, List.mem_cons]
    rw [or_left_comm, or_assoc]

theorem get?_ofList (l : List (String × α)) (j : String) :
    (ofList l).get? j = l.reverse.lookup j := by
  rw [ofList, get?_foldl_insert]
  exact Option.or_none

theorem mem_keys_ofList (l : List (String × α)) (j : String) :
    j ∈ (ofList l).keys ↔ j ∈ l.map (·.1) := by
  rw [ofList, mem_keys_foldl_insert]
  exact or_iff_left List.not_mem_nil

/-- Without repeated keys there is one key for each entry. -/
theorem keys_ofList_perm {l : List (String × α)} (h : (l.map (·.1)).Nodup) :
    (ofList l).keys.Perm (l.map (·.1)) :=
  (List.perm_ext_iff_of_nodup (keys_nodup _) h).2 (mem_keys_ofList l)

theorem lookup_eq_some_of_mem {l : List (String × α)} (h : (l.map (·.1)).Nodup)
    {e : String × α} (he : e ∈ l) : l.lookup e.1 = some e.2 := by
  induction l with
  | nil => cases he
  | cons a rest ih =>
    obtain ⟨hna, hn⟩ := List.nodup_cons.1 h
    rw [lookup_cons_if]
    rcases List.mem_cons.1 he with rfl | he
    · exact if_pos rfl
    · have hne : e.1 ≠ a.1 := fun hea => hna (List.mem_map.2 ⟨e, he, hea⟩)
      rw [if_neg hne, ih hn he]

/-- Without repeated keys every entry is found again. -/
theorem get?_ofList_of_mem {l : List (String × α)} (h : (l.map (·.1)).Nodup)
    {e : String × α} (he : e ∈ l) : (ofList l).get? e.1 = some e.2 := by
  rw [get?_ofList]
  refine lookup_eq_some_of_mem ?_ (List.mem_reverse.2 he)
  rw [List.map_reverse]
  exact List.nodup_reverse.2 h

/-- What is found was among the entries, also if a key stands there several times. -/
theorem mem_of_get?_ofList {l : List (String × α)} {j : String} {v : α}
    (h : (ofList l).get? j = some v) : (j, v) ∈ l := by
  rw [get?_ofList] at h
  exact List.mem_reverse.1 (mem_of_lookup_eq_some h)

theorem get?_ofList_eq_some_iff {l : List (String × α)} (h : (l.map (·.1)).Nodup) {j : String}
    {v : α} : (ofList l).get? j = some v ↔ (j, v) ∈ l :=
  ⟨mem_of_get?_ofList, fun hv => get?_ofList_of_mem h hv⟩

/-! A map is known by what is found in it. -/

theorem mem_entries_iff (m : SortedMap α) (e : String × α) :
    e ∈ m.entries ↔ m.get? e.1 = some e.2 :=
  ⟨fun he => lookup_eq_some_of_mem m.keys_nodup he, mem_of_lookup_eq_some⟩

theorem nodup_entries (m : SortedMap α) : m.entries.Nodup := List.Nodup.of_map _ m.keys_nodup

theorem ext_get? {m m' : SortedMap α} (h : ∀ j, m.get? j = m'.get? j) : m = m' := by
  have hperm : m.entries.Perm m'.entries := by
    refine (List.perm_ext_iff_of_nodup m.nodup_entries m'.nodup_entries).2 fun e => ?_
    rw [mem_entries_iff, mem_entries_iff, h]
  have hentries : m.entries = m'.entries := by
    refine hperm.eq_of_pairwise ?_ m.increasing m'.increasing
    intro a b _ _ hab hba
    exact absurd (String.lt_trans hab hba) (String.lt_irrefl _)
  cases m
  cases m'
  cases hentries
  rfl

/-- Without repeated keys the order of the entries does not matter. -/
theorem ofList_perm {l l' : List (String × α)} (hl : l.Perm l') (h : (l.map (·.1)).Nodup) :
    ofList l = ofList l' := by
  have h' : (l'.map (·.1)).Nodup := (hl.map _).nodup_iff.1 h
  refine ext_get? fun j => ?_
  ext v
  rw [get?_ofList_eq_some_iff h, get?_ofList_eq_some_iff h', hl.mem_iff]

end SortedMap

end Gleaner
