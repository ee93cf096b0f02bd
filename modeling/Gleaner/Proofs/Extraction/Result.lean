import Gleaner.Extraction.Result
import Gleaner.Proofs.Json.Decode
import Gleaner.Proofs.SortedMap

/-! Results as JSON. A result is read from an object whose values are texts or lists of records, and from
nothing else; what is written of a result is read back as the result. -/
namespace Gleaner

section Traversal

variable {α β : Type} {f : α → Option β} {g : β → α}

theorem mapM_some_iff {a : α} {l : List α} {r : List β} :
    (a :: l).mapM f = some r ↔ ∃ b bs, f a = some b ∧ l.mapM f = some bs ∧ r = b :: bs := by
  rw [List.mapM_cons]
  cases f a <;> cases l.mapM f <;> simp [eq_comm]

theorem exists_mapM_iff {l : List α} :
    (∃ r, l.mapM f = some r) ↔ ∀ a ∈ l, ∃ b, f a = some b := by
  induction l with
  | nil => simp
  | cons a l ih =>
    rw [List.forall_mem_cons, ← ih]
    constructor
    · rintro ⟨r, hr⟩
      obtain ⟨b, bs, hb, hbs, -⟩ := mapM_some_iff.1 hr
      exact ⟨⟨b, hb⟩, bs, hbs⟩
    · rintro ⟨⟨b, hb⟩, bs, hbs⟩
      exact ⟨b :: bs, mapM_some_iff.2 ⟨b, bs, hb, hbs, rfl⟩⟩

theorem mapM_map_of_inverse {l : List β} (h : ∀ b, f (g b) = some b) :
    (l.map g).mapM f = some l := by
  induction l with
  | nil => rfl
  | cons b l ih => exact mapM_some_iff.2 ⟨b, l, h b, ih, rfl⟩

end Traversal

theorem SortedMap.ofList_entries {α : Type} (m : SortedMap α) : SortedMap.ofList m.entries = m := by
  refine SortedMap.ext_get? fun j => ?_
  ext v
  rw [SortedMap.get?_ofList_eq_some_iff m.keys_nodup]
  exact m.mem_entries_iff (j, v)

/-! Results as values. -/

def FieldValue.ofMember? (e : String × Json) : Option (String × FieldValue) :=
  (FieldValue.ofJson? e.2).map (Prod.mk e.1)

/-- The result that an object says, the last member of each name counting. -/
def Extract.ofJson? : Json → Option Extract
  | .object members => (members.mapM FieldValue.ofMember?).map SortedMap.ofList
  | _ => none

theorem Record.ofJson?_toJson (r : Record) : Record.ofJson? r.toJson = some r := by
  have hentries : (r.entries.map fun e => (e.1, Json.string e.2)).mapM
      (fun e => (textOfJson? e.2).map (Prod.mk e.1)) = some r.entries :=
    mapM_map_of_inverse fun _ => rfl
  rw [Record.toJson, Record.ofJson?, hentries]
  exact congrArg some r.ofList_entries

theorem FieldValue.ofJson?_toJson (v : FieldValue) : FieldValue.ofJson? v.toJson = some v := by
  cases v with
  | text s => rfl
  | records rows =>
    rw [FieldValue.toJson, FieldValue.ofJson?, mapM_map_of_inverse Record.ofJson?_toJson]
    rfl

theorem Extract.ofJson?_toJson (r : Extract) : Extract.ofJson? r.toJson = some r := by
  have hentries : (r.entries.map fun e => (e.1, e.2.toJson)).mapM FieldValue.ofMember? =
      some r.entries := by
    refine mapM_map_of_inverse fun e => ?_
    rw [FieldValue.ofMember?, FieldValue.ofJson?_toJson]
    rfl
  rw [Extract.toJson, Extract.ofJson?, hentries]
  exact congrArg some r.ofList_entries

namespace Json

def IsText (v : Json) : Prop := ∃ s, v = .string s

/-- An object with texts only. -/
def IsRow (v : Json) : Prop := ∃ cells, v = .object cells ∧ ∀ e ∈ cells, e.2.IsText

def IsField (v : Json) : Prop := v.IsText ∨ ∃ rows, v = .array rows ∧ ∀ row ∈ rows, row.IsRow

/-- An object whose values are texts or lists of objects with texts only. -/
def IsResult (v : Json) : Prop := ∃ members, v = .object members ∧ ∀ e ∈ members, e.2.IsField

end Json

theorem exists_textOfJson?_iff {v : Json} : (∃ s, textOfJson? v = some s) ↔ v.IsText := by
  cases v <;> simp [textOfJson?, Json.IsText]

theorem Record.exists_ofJson?_iff {v : Json} : (∃ r, Record.ofJson? v = some r) ↔ v.IsRow := by
  cases v with
  | object cells =>
    have hread : (∃ r, Record.ofJson? (.object cells) = some r) ↔
        ∃ r, cells.mapM (fun e => (textOfJson? e.2).map (Prod.mk e.1)) = some r := by
      cases h : cells.mapM (fun e => (textOfJson? e.2).map (Prod.mk e.1)) <;> simp [Record.ofJson?, h]
    rw [hread, exists_mapM_iff]
    simp [Json.IsRow, ← exists_textOfJson?_iff]
  | _ => simp [Record.ofJson?, Json.IsRow]

theorem FieldValue.exists_ofJson?_iff {v : Json} :
    (∃ f, FieldValue.ofJson? v = some f) ↔ v.IsField := by
  cases v with
  | array rows =>
    have hread : (∃ f, FieldValue.ofJson? (.array rows) = some f) ↔
        ∃ r, rows.mapM Record.ofJson? = some r := by
      cases h : rows.mapM Record.ofJson? <;> simp [FieldValue.ofJson?, h]
    rw [hread, exists_mapM_iff]
    simp [Json.IsField, Json.IsText, Record.exists_ofJson?_iff]
  | _ => simp [FieldValue.ofJson?, Json.IsField, Json.IsText]

theorem Extract.exists_ofJson?_iff {v : Json} : (∃ r, Extract.ofJson? v = some r) ↔ v.IsResult := by
  cases v with
  | object members =>
    have hread : (∃ r, Extract.ofJson? (.object members) = some r) ↔
        ∃ r, members.mapM FieldValue.ofMember? = some r := by
      cases h : members.mapM FieldValue.ofMember? <;> simp [Extract.ofJson?, h]
    rw [hread, exists_mapM_iff]
    simp [Json.IsResult, FieldValue.ofMember?, FieldValue.exists_ofJson?_iff]
  | _ => simp [Extract.ofJson?, Json.IsResult]

/-! Results read from texts. -/

namespace Json.Reader

variable {s m w : List UInt8}

theorem Gives.fieldValue {depth : Nat} {f : FieldValue} (h : Gives (Reader.fieldValue depth) s f m) :
    ∃ v, Gives (Reader.value depth) s v m ∧ FieldValue.ofJson? v = some f := by
  obtain ⟨v, n, hv, h₁⟩ := h.bind
  split at h₁
  · next f' hf =>
    obtain ⟨rfl, rfl⟩ := h₁.pure
    exact ⟨v, hv, hf⟩
  · exact h₁.refuse.elim

theorem Takes.fieldValue {depth : Nat} {v : Json} {f : FieldValue}
    (h : Takes (Reader.value depth) s v m) (hf : FieldValue.ofJson? v = some f) :
    Takes (Reader.fieldValue depth) s f m := by
  refine h.bind ?_
  rw [hf]
  exact .pure f m

/-- The map with the fields put in one after the other. -/
def insertAll (x : Extract) (fields : List (String × FieldValue)) : Extract :=
  fields.foldl (fun m e => m.insert e.1 e.2) x

/-- What a member of a result is read from. -/
theorem Gives.field {depth : Nat} {x y : Extract} {name : String}
    (h : Gives (insertMember (Reader.fieldValue depth) x name) s y m) :
    ∃ w w' t v f, s = w ++ 0x3A :: (w' ++ (t ++ m)) ∧ Blanks w ∧ Blanks w' ∧ ValueText t v ∧
      v.nesting ≤ depth - 1 ∧ FieldValue.ofJson? v = some f ∧ y = x.insert name f := by
  obtain ⟨f, hfield, rfl⟩ := h.map
  obtain ⟨n, hcolon, hvalue⟩ := hfield.memberValue
  obtain ⟨w, hw, rfl⟩ := hcolon.colon
  obtain ⟨v, hv, hf⟩ := hvalue.fieldValue
  obtain ⟨w', t, rfl, hw', ht, hnesting⟩ := hv.value
  exact ⟨w, w', t, v, f, rfl, hw, hw', ht, hnesting, hf, rfl⟩

theorem Gives.fields {depth fuel : Nat} {x y : Extract} {first : Bool}
    (h : Gives (Reader.membersLoop (insertMember (Reader.fieldValue depth)) x first fuel) s y m) :
    ∃ (w : List UInt8) (es : List Member) (u : List UInt8) (fields : List (String × FieldValue)),
      s = w ++ (separated first (es.map Member.bytes) ++ m) ∧ Blanks w ∧ m = 0x7D :: u ∧
      (∀ e ∈ es, e.Stands ∧ e.item.value.nesting ≤ depth - 1) ∧
      (es.map Member.entry).mapM FieldValue.ofMember? = some fields ∧ y = insertAll x fields := by
  induction fuel generalizing s x first with
  | zero => exact h.fail.elim
  | succ fuel ih =>
    rcases h.membersLoop with ⟨rfl, hend⟩ | ⟨name, n, z, k, hkey, hmember, hrest⟩
    · obtain ⟨w, u, hw, rfl, rfl⟩ := hend.nextKey_none
      exact ⟨w, [], u, [], rfl, hw, rfl, by simp, rfl, rfl⟩
    · obtain ⟨w', es, u, fields, rfl, hw', rfl, hes, hfields, rfl⟩ := ih hrest
      obtain ⟨w₂, w₃, t, v, f, rfl, hw₂, hw₃, ht, hnesting, hf, rfl⟩ := hmember.field
      obtain ⟨w, w₁, q, rfl, hw, hw₁, hq⟩ := hkey.nextKey_some
      have hkeytext : KeyText (w₁ ++ 0x22 :: (q ++ w₂)) name := ⟨w₁, q, w₂, rfl, hw₁, hq, hw₂⟩
      refine ⟨w, ⟨w₁ ++ 0x22 :: (q ++ w₂), name, w₃, t, w', v⟩ :: es, u, (name, f) :: fields, ?_,
        hw, rfl, ?_, ?_, rfl⟩
      · simp [separated, Member.bytes, Item.bytes]
      · exact List.forall_mem_cons.2 ⟨⟨⟨hkeytext, ⟨hw₃, hw'⟩, ht⟩, hnesting⟩, hes⟩
      · refine mapM_some_iff.2 ⟨(name, f), fields, ?_, hfields, rfl⟩
        rw [FieldValue.ofMember?, Member.entry, hf]
        rfl

theorem Gives.extract {depth : Nat} {r : Extract} (h : Gives (Reader.extract depth) s r m) :
    ∃ w t v, s = w ++ (t ++ m) ∧ Blanks w ∧ ValueText t v ∧ v.nesting ≤ depth - 1 ∧
      Extract.ofJson? v = some r := by
  obtain ⟨w, t, d, k, rfl, hw, rfl, hloop, hend⟩ := h.mapOf
  obtain ⟨w', es, u, fields, rfl, hw', rfl, hes, hfields, rfl⟩ := hloop.fields
  obtain ⟨-, rfl⟩ := (Takes.endObject u).unique hend
  refine ⟨w, objectText w' es, .object (es.map Member.entry), by simp [objectText], hw,
    .of_members hw' fun e he => (hes e he).1, nesting_object_le_iff.2 fun e he => (hes e he).2, ?_⟩
  rw [Extract.ofJson?, hfields]
  rfl

theorem takesAll_fields {depth : Nat} {x : Extract} {es : List Member}
    {fields : List (String × FieldValue)} (hes : ∀ e ∈ es, e.Stands)
    (hnesting : ∀ e ∈ es, e.item.value.nesting ≤ depth - 1)
    (hfields : (es.map Member.entry).mapM FieldValue.ofMember? = some fields) :
    TakesAll (insertMember (Reader.fieldValue depth)) x es (insertAll x fields) := by
  induction es generalizing x fields with
  | nil =>
    cases hfields
    exact .nil x
  | cons e es ih =>
    obtain ⟨he, hrest⟩ := List.forall_mem_cons.1 hes
    obtain ⟨hdepth, hnestingrest⟩ := List.forall_mem_cons.1 hnesting
    obtain ⟨b, fs, hb, hfs, rfl⟩ := mapM_some_iff.1 hfields
    obtain ⟨f, hf, rfl⟩ := Option.map_eq_some_iff.1 hb
    refine .cons (y := x.insert e.name f) he.key he.item.padded ?_ (ih hrest hnestingrest hfs)
    intro w s hw hs
    have hread := Takes.value he.item.text hdepth he.item.padded.before hs
    exact (Takes.memberValue _ hw (hread.fieldValue hf)).map _

theorem Takes.extract {depth : Nat} {t : List UInt8} {v : Json} {r : Extract} (ht : ValueText t v)
    (hr : Extract.ofJson? v = some r) (hdepth : v.nesting ≤ depth - 1) (hw : Blanks w)
    (s : List UInt8) : Takes (Reader.extract depth) (w ++ (t ++ s)) r s := by
  cases ht with
  | @object w' es hw' hkey hpad htext =>
    obtain ⟨depth, rfl⟩ : ∃ k, depth = k + 2 := ⟨depth - 2, by rw [nesting] at hdepth; omega⟩
    obtain ⟨fields, hfields, rfl⟩ := Option.map_eq_some_iff.1 hr
    have hall : TakesAll (insertMember (Reader.fieldValue (depth + 1))) .empty es
        (insertAll .empty fields) :=
      takesAll_fields (fun e he => ⟨hkey e he, hpad e he, htext e he⟩)
        (nesting_object_le_iff.1 hdepth) hfields
    simp only [objectText, List.cons_append, List.append_assoc, List.nil_append]
    refine .mapOf hw (.membersLoop hall hw' ?_ s)
    simp only [List.length_append]
    omega
  | _ => cases hr

end Json.Reader

/-! Results written as texts. -/

namespace Extract

open Json (Whole)

theorem whole_record (r : Record) : Whole r.toJson := by
  refine .object fun e he => ?_
  obtain ⟨c, -, rfl⟩ := List.mem_map.1 he
  exact .string c.2

theorem whole_fieldValue (v : FieldValue) : Whole v.toJson := by
  cases v with
  | text s => exact .string s
  | records rows =>
    refine .array fun v hv => ?_
    obtain ⟨r, -, rfl⟩ := List.mem_map.1 hv
    exact whole_record r

theorem whole_toJson (r : Extract) : Whole r.toJson := by
  refine .object fun e he => ?_
  obtain ⟨f, -, rfl⟩ := List.mem_map.1 he
  exact whole_fieldValue f.2

theorem nesting_record (r : Record) : r.toJson.nesting ≤ 1 := by
  refine Nat.succ_le_succ (Json.nestingMembers_le_iff.2 fun e he => ?_)
  obtain ⟨c, -, rfl⟩ := List.mem_map.1 he
  exact le_rfl

theorem nesting_fieldValue (v : FieldValue) : v.toJson.nesting ≤ 2 := by
  cases v with
  | text s => exact Nat.zero_le 2
  | records rows =>
    refine Nat.succ_le_succ (Json.nestingItems_le_iff.2 fun v hv => ?_)
    obtain ⟨r, -, rfl⟩ := List.mem_map.1 hv
    exact nesting_record r

theorem nesting_toJson (r : Extract) : r.toJson.nesting ≤ 3 := by
  refine Nat.succ_le_succ (Json.nestingMembers_le_iff.2 fun e he => ?_)
  obtain ⟨f, -, rfl⟩ := List.mem_map.1 he
  exact nesting_fieldValue f.2

end Extract

open Json Reader in
/-- A result is read from a text exactly if its value says the result. -/
theorem runAll_extract_iff {bytes : List UInt8} {r : Extract} :
    runAll (Reader.extract maxDepth) bytes = .ok r ↔
      ∃ v, Json.read bytes = .ok v ∧ Extract.ofJson? v = some r := by
  constructor
  · intro h
    obtain ⟨m, hgives, hm⟩ := gives_of_runAll h
    obtain ⟨w, t, v, rfl, hw, ht, hnesting, hr⟩ := hgives.extract
    exact ⟨v, read_iff.2 ⟨⟨w, t, m, rfl, hw, ht, hm⟩, Nat.lt_succ_of_le hnesting⟩, hr⟩
  · rintro ⟨v, hread, hr⟩
    obtain ⟨⟨w, t, m, rfl, hw, ht, hm⟩, hnesting⟩ := read_iff.1 hread
    have hdepth : v.nesting ≤ maxDepth - 1 := Nat.le_of_lt_succ hnesting
    exact runAll_of_takes (.extract ht hr hdepth hw m) hm

end Gleaner
