import Gleaner.Json.Value
import Gleaner.Proofs.SortedMap

/-! Canonical forms of JSON values. The members of an object become the map of what counts among them, so
their order and the members that a later one of the same name hides leave no trace. -/
namespace Gleaner

namespace Json

theorem canonicalItems_eq_map (items : List Json) :
    canonicalItems items = items.map canonical := by
  induction items with
  | nil => rfl
  | cons v rest ih => rw [canonicalItems, ih, List.map_cons]

/-- The members in their canonical form, still in the order of the text. -/
def canonicalValues (members : List (String × Json)) : List (String × Json) :=
  members.map fun e => (e.1, e.2.canonical)

theorem increasing_canonicalMembers (members : List (String × Json)) :
    Increasing (canonicalMembers members) := by
  induction members with
  | nil => exact List.Pairwise.nil
  | cons e rest ih =>
    rw [canonicalMembers]
    split_ifs
    · exact ih
    · exact increasing_insertEntry ih

theorem mem_canonicalMembers {members : List (String × Json)} {e : String × Json}
    (h : e ∈ canonicalMembers members) : e ∈ canonicalValues members := by
  induction members with
  | nil => exact h
  | cons d rest ih =>
    rw [canonicalMembers] at h
    rw [canonicalValues, List.map_cons]
    split_ifs at h
    · exact List.mem_cons_of_mem _ (ih h)
    · rcases mem_insertEntry h with rfl | h
      · exact List.mem_cons_self
      · exact List.mem_cons_of_mem _ (ih h)

theorem canonicalItems_iff {items : List Json} :
    CanonicalItems items ↔ ∀ v ∈ items, v.Canonical := by
  constructor
  · intro h
    induction items with
    | nil => simp
    | cons v rest ih =>
      cases h with
      | cons hv hrest => exact List.forall_mem_cons.2 ⟨hv, ih hrest⟩
  · intro h
    induction items with
    | nil => exact .nil
    | cons v rest ih =>
      obtain ⟨hv, hrest⟩ := List.forall_mem_cons.1 h
      exact .cons hv (ih hrest)

theorem canonicalMembers_iff {members : List (String × Json)} :
    CanonicalMembers members ↔ ∀ e ∈ members, e.2.Canonical := by
  constructor
  · intro h
    induction members with
    | nil => simp
    | cons e rest ih =>
      cases h with
      | cons hv hrest => exact List.forall_mem_cons.2 ⟨hv, ih hrest⟩
  · intro h
    induction members with
    | nil => exact .nil
    | cons e rest ih =>
      obtain ⟨hv, hrest⟩ := List.forall_mem_cons.1 h
      exact .cons hv (ih hrest)

theorem canonical_object_iff {members : List (String × Json)} :
    (Json.object members).Canonical ↔ Increasing members ∧ ∀ e ∈ members, e.2.Canonical := by
  rw [← canonicalMembers_iff]
  exact ⟨fun h => by cases h with | object hi hm => exact ⟨hi, hm⟩, fun h => .object h.1 h.2⟩

theorem canonical_canonical (v : Json) : v.canonical.Canonical := by
  match v with
  | .null => exact .null
  | .bool b => exact .bool b
  | .number n => exact .number n
  | .string s => exact .string s
  | .array items =>
    rw [canonical, canonicalItems_eq_map]
    refine .array (canonicalItems_iff.2 fun u hu => ?_)
    obtain ⟨w, hw, rfl⟩ := List.mem_map.1 hu
    exact canonical_canonical w
  | .object members =>
    rw [canonical]
    refine canonical_object_iff.2 ⟨increasing_canonicalMembers members, fun e he => ?_⟩
    obtain ⟨⟨k, w⟩, hw, rfl⟩ := List.mem_map.1 (mem_canonicalMembers he)
    have hsize : sizeOf (k, w) < sizeOf members := List.sizeOf_lt_of_mem hw
    have hsmaller : sizeOf w < sizeOf members := by
      rw [Prod.mk.sizeOf_spec] at hsize
      omega
    exact canonical_canonical w

end Json

end Gleaner
