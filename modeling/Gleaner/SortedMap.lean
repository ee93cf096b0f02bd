/-! Maps from texts to values, kept as lists of entries with strictly increasing keys. The order of
texts is that of their code points, which is also the order of their UTF-8 bytes. -/
namespace Gleaner

/-- The entries with `v` under `k`, in place of an older value if there is one. -/
def insertEntry {α : Type} (k : String) (v : α) : List (String × α) → List (String × α)
  | [] => [(k, v)]
  | (k', v') :: rest =>
      if k < k' then (k, v) :: (k', v') :: rest
      else if k = k' then (k, v) :: rest
      else (k', v') :: insertEntry k v rest

def Increasing {α : Type} (l : List (String × α)) : Prop :=
  l.Pairwise (·.1 < ·.1)

theorem mem_insertEntry {α : Type} {k : String} {v : α} {l : List (String × α)} {e : String × α}
    (h : e ∈ insertEntry k v l) : e = (k, v) ∨ e ∈ l := by
  induction l with
  | nil => simpa [insertEntry] using h
  | cons a rest ih =>
      obtain ⟨k', v'⟩ := a
      simp only [insertEntry] at h
      split at h
      · simpa using h
      · split at h
        · rcases List.mem_cons.1 h with h | h
          · exact .inl h
          · exact .inr (List.mem_cons_of_mem _ h)
        · rcases List.mem_cons.1 h with h | h
          · exact .inr (h ▸ List.mem_cons_self)
          · exact (ih h).imp_right (List.mem_cons_of_mem _)

theorem increasing_insertEntry {α : Type} {k : String} {v : α} {l : List (String × α)}
    (h : Increasing l) : Increasing (insertEntry k v l) := by
  induction l with
  | nil => exact List.pairwise_singleton _ _
  | cons a rest ih =>
      obtain ⟨k', v'⟩ := a
      obtain ⟨hlt, hrest⟩ := List.pairwise_cons.1 h
      simp only [insertEntry]
      split
      · next hk =>
          refine List.pairwise_cons.2 ⟨fun e he => ?_, h⟩
          rcases List.mem_cons.1 he with rfl | he
          · exact hk
          · exact String.lt_trans hk (hlt e he)
      · next hk =>
          split
          · next he => exact List.pairwise_cons.2 ⟨fun e h' => he ▸ hlt e h', hrest⟩
          · next he =>
              refine List.pairwise_cons.2 ⟨fun e h' => ?_, ih hrest⟩
              rcases mem_insertEntry h' with rfl | h'
              · exact Std.lt_of_le_of_ne (Std.not_lt.1 hk) (Ne.symm he)
              · exact hlt e h'

/-- A map from texts to values of type `α`. -/
structure SortedMap (α : Type) where
  entries : List (String × α) := []
  increasing : Increasing entries := by exact List.Pairwise.nil

namespace SortedMap

variable {α : Type}

instance [DecidableEq α] : DecidableEq (SortedMap α) := fun a b =>
  if h : a.entries = b.entries then
    .isTrue (by cases a; cases b; cases h; rfl)
  else .isFalse fun e => h (e ▸ rfl)

instance [Repr α] : Repr (SortedMap α) := ⟨fun m n => reprPrec m.entries n⟩

def empty : SortedMap α := {}

instance : Inhabited (SortedMap α) := ⟨empty⟩

def insert (m : SortedMap α) (k : String) (v : α) : SortedMap α :=
  ⟨insertEntry k v m.entries, increasing_insertEntry m.increasing⟩

/-- A later entry takes the place of an earlier one of the same key. -/
def ofList (l : List (String × α)) : SortedMap α :=
  l.foldl (fun m e => m.insert e.1 e.2) empty

def get? (m : SortedMap α) (k : String) : Option α := m.entries.lookup k

def keys (m : SortedMap α) : List String := m.entries.map (·.1)

def size (m : SortedMap α) : Nat := m.entries.length

def isEmpty (m : SortedMap α) : Bool := m.entries.isEmpty

end SortedMap

end Gleaner
