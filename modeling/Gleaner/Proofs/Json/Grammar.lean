import Gleaner.Proofs.Json.Number
import Gleaner.Proofs.Json.Quotation

/-! The grammar of JSON texts, with the value that each text means. Blanks stand around values, names and
brackets. A text with a number out of range means nothing. -/
namespace Gleaner.Json

/-- A comma, unless something comes first in a list or an object. -/
def comma (first : Bool) : List UInt8 := if first then [] else [0x2C]

/-- The texts with commas between them, and one in front of them unless they come first. -/
def separated (first : Bool) : List (List UInt8) → List UInt8
  | [] => []
  | t :: rest => comma first ++ (t ++ separated false rest)

/-- A number with its sign, if it has one. -/
inductive NumberText : List UInt8 → Number → Prop
  | positive {t : List UInt8} {n : Number} (h : DigitsText true t n) : NumberText t n
  | negative {t : List UInt8} {n : Number} (h : DigitsText false t n) : NumberText (0x2D :: t) n

/-- A number out of range, with its sign, if it has one. -/
inductive LargeText : List UInt8 → Prop
  | positive (d : Numeral) (h : d.number? true = none) : LargeText d.text
  | negative (d : Numeral) (h : d.number? false = none) : LargeText (0x2D :: d.text)

/-- The name of a member in its quotes, with the blanks around it. -/
def KeyText (t : List UInt8) (name : String) : Prop :=
  ∃ w u w', t = w ++ 0x22 :: (u ++ w') ∧ Blanks w ∧ QuotedText u name ∧ Blanks w'

/-- A value in a list or an object, with the blanks around it. -/
structure Item where
  before : List UInt8
  text : List UInt8
  after : List UInt8
  value : Json

/-- The part of the text that the item takes. -/
def Item.bytes (i : Item) : List UInt8 := i.before ++ (i.text ++ i.after)

structure Item.Padded (i : Item) : Prop where
  before : Blanks i.before
  after : Blanks i.after

/-- A member of an object; the key is the name as it is written, with its quotes and blanks. -/
structure Member where
  key : List UInt8
  name : String
  item : Item

def Member.bytes (m : Member) : List UInt8 := m.key ++ 0x3A :: m.item.bytes

def Member.entry (m : Member) : String × Json := (m.name, m.item.value)

/-- A list; blanks may stand behind its bracket, also if it is empty. -/
def listText (w : List UInt8) (items : List Item) : List UInt8 :=
  0x5B :: (w ++ (separated true (items.map Item.bytes) ++ [0x5D]))

def objectText (w : List UInt8) (members : List Member) : List UInt8 :=
  0x7B :: (w ++ (separated true (members.map Member.bytes) ++ [0x7D]))

/-- The texts of the grammar, each with the value that it means. -/
inductive ValueText : List UInt8 → Json → Prop
  | null : ValueText [0x6E, 0x75, 0x6C, 0x6C] .null
  | true : ValueText [0x74, 0x72, 0x75, 0x65] (.bool true)
  | false : ValueText [0x66, 0x61, 0x6C, 0x73, 0x65] (.bool false)
  | number {t : List UInt8} {n : Number} (h : NumberText t n) : ValueText t (.number n)
  | string {t : List UInt8} {s : String} (h : QuotedText t s) : ValueText (0x22 :: t) (.string s)
  | array {w : List UInt8} {items : List Item} (hw : Blanks w) (hpad : ∀ i ∈ items, i.Padded)
      (h : ∀ i ∈ items, ValueText i.text i.value) :
      ValueText (listText w items) (.array (items.map Item.value))
  | object {w : List UInt8} {members : List Member} (hw : Blanks w)
      (hkey : ∀ m ∈ members, KeyText m.key m.name) (hpad : ∀ m ∈ members, m.item.Padded)
      (h : ∀ m ∈ members, ValueText m.item.text m.item.value) :
      ValueText (objectText w members) (.object (members.map Member.entry))

/-- A whole text: a value with blanks around it. -/
def JsonText (t : List UInt8) (v : Json) : Prop :=
  ∃ w u w', t = w ++ (u ++ w') ∧ Blanks w ∧ ValueText u v ∧ Blanks w'

/-! Texts by their first byte. -/

/-- The text begins with a byte that cannot end a list. -/
def Begins (t : List UInt8) : Prop := ∃ b u, t = b :: u ∧ isBlankByte b = false ∧ b ≠ 0x5D

theorem begins_of_isDigit {b : UInt8} {u : List UInt8} (h : IsDigit b) : Begins (b :: u) := by
  obtain ⟨hlow, hhigh⟩ := h
  refine ⟨b, u, rfl, ?_, ?_⟩
  · rw [UInt8.le_iff_toNat_le] at hlow hhigh
    simp only [isBlankByte, Bool.or_eq_false_iff, beq_eq_false_iff_ne, ne_eq]
    refine ⟨⟨⟨?_, ?_⟩, ?_⟩, ?_⟩ <;> rintro rfl <;> simp at hlow
  · rintro rfl
    exact absurd hhigh (by decide)

theorem ValueText.begins {t : List UInt8} {v : Json} (h : ValueText t v) : Begins t := by
  cases h with
  | number hn =>
    cases hn with
    | positive hd =>
      obtain ⟨b, u, rfl, hb⟩ := hd.head
      exact begins_of_isDigit hb
    | negative hd => exact ⟨0x2D, _, rfl, rfl, by decide⟩
  | _ => exact ⟨_, _, rfl, rfl, by decide⟩

theorem NumberText.head_lt {b : UInt8} {t : List UInt8} {n : Number} (h : NumberText (b :: t) n) :
    b.toNat < 0x3A := by
  cases h with
  | negative => decide
  | positive hd =>
    obtain ⟨_, _, hcons, hb⟩ := hd.head
    obtain ⟨rfl, rfl⟩ := List.cons.inj hcons
    exact Nat.lt_succ_of_le hb.toNat.2

theorem Begins.length_pos {t : List UInt8} (h : Begins t) : 0 < t.length := by
  obtain ⟨b, u, rfl, -⟩ := h
  exact Nat.succ_pos _

theorem Begins.solid {t : List UInt8} (h : Begins t) (s : List UInt8) : Solid (t ++ s) := by
  obtain ⟨b, u, rfl, hb, -⟩ := h
  exact solid_cons hb

/-! How deep lists and objects are nested in a value. -/

mutual

def nesting : Json → Nat
  | .array items => nestingItems items + 1
  | .object members => nestingMembers members + 1
  | _ => 0

def nestingItems : List Json → Nat
  | [] => 0
  | v :: rest => max v.nesting (nestingItems rest)

def nestingMembers : List (String × Json) → Nat
  | [] => 0
  | (_, v) :: rest => max v.nesting (nestingMembers rest)

end

theorem nestingItems_le_iff {items : List Json} {n : Nat} :
    nestingItems items ≤ n ↔ ∀ v ∈ items, v.nesting ≤ n := by
  induction items with
  | nil => simp [nestingItems]
  | cons v rest ih => rw [nestingItems, max_le_iff, ih, List.forall_mem_cons]

theorem nestingMembers_le_iff {members : List (String × Json)} {n : Nat} :
    nestingMembers members ≤ n ↔ ∀ e ∈ members, e.2.nesting ≤ n := by
  induction members with
  | nil => simp [nestingMembers]
  | cons e rest ih => rw [nestingMembers, max_le_iff, ih, List.forall_mem_cons]

/-! Items and members that are written as the grammar says. -/

structure Item.Stands (i : Item) : Prop where
  padded : i.Padded
  text : ValueText i.text i.value

structure Member.Stands (m : Member) : Prop where
  key : KeyText m.key m.name
  item : m.item.Stands

theorem ValueText.of_items {w : List UInt8} {items : List Item} (hw : Blanks w)
    (h : ∀ i ∈ items, i.Stands) : ValueText (listText w items) (.array (items.map Item.value)) :=
  .array hw (fun i hi => (h i hi).padded) fun i hi => (h i hi).text

theorem ValueText.of_members {w : List UInt8} {members : List Member} (hw : Blanks w)
    (h : ∀ m ∈ members, m.Stands) :
    ValueText (objectText w members) (.object (members.map Member.entry)) :=
  .object hw (fun m hm => (h m hm).key) (fun m hm => (h m hm).item.padded)
    fun m hm => (h m hm).item.text

theorem nesting_array_le_iff {items : List Item} {n : Nat} :
    (Json.array (items.map Item.value)).nesting ≤ n + 1 ↔ ∀ i ∈ items, i.value.nesting ≤ n := by
  rw [nesting, Nat.succ_le_succ_iff, nestingItems_le_iff, List.forall_mem_map]

theorem nesting_object_le_iff {members : List Member} {n : Nat} :
    (Json.object (members.map Member.entry)).nesting ≤ n + 1 ↔
      ∀ m ∈ members, m.item.value.nesting ≤ n := by
  rw [nesting, Nat.succ_le_succ_iff, nestingMembers_le_iff, List.forall_mem_map]
  rfl

end Gleaner.Json
