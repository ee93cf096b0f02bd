import Gleaner.Proofs.Json.Understand
import Gleaner.Proofs.Service.Stages

/-! JSON bodies that are refused. A body that is JSON is refused for what it says, unless it is nested too
deep, has a mode that is not written as one, or goes on as a list behind the last part of a request: these
the reading takes for faults of the text. -/
namespace Gleaner

open Json Reader

/-- How a mode is written: as null, as a text or as the name of the only member of an object. -/
def Json.IsMode (v : Json) : Prop := v = .null ∨ IsChoice v

/-- The value has no part that the reading of a request takes for a fault of the text. -/
inductive Json.AsksPlainly : Json → Prop
  | object {es : List (String × Json)} (h : ∀ v, ("mode", v) ∈ es → v.IsMode) : AsksPlainly (.object es)
  | array {vs : List Json} (hlength : vs.length ≤ 4) (h : ∀ v, vs[2]? = some v → v.IsMode) :
      AsksPlainly (.array vs)
  | other {v : Json} (hlist : ∀ vs, v ≠ .array vs) (hobject : ∀ es, v ≠ .object es) : AsksPlainly v

namespace Json.Reader

variable {α : Type} {s m t w : List UInt8} {v : Json}

theorem understands_modeKind (h : ValueText t v) (hv : v.IsMode) (hw : Blanks w) (s : List UInt8) :
    Understands (option modeKind) (w ++ (t ++ s)) s :=
  understands_option h hw fun hne => understands_variant h (hv.resolve_left hne)

theorem understands_flag (h : ValueText t v) (hw : Blanks w) (hs : Delimited s) :
    Understands (option bool) (w ++ (t ++ s)) s :=
  understands_option h hw fun _ => understands_bool (w := []) h .nil hs

theorem understands_require {name : String} {slot : Option α} : Understands (require name slot) s s := by
  cases slot with
  | some a => exact (Takes.pure a s).understands
  | none => exact understands_refuse _

theorem understandsIn_requestMember {depth : Nat} {e : Member} (htext : ValueText e.item.text e.item.value)
    (hpad : e.item.Padded) (hnesting : e.item.value.nesting ≤ depth - 1)
    (hmode : e.name = "mode" → e.item.value.IsMode) : UnderstandsIn (requestMember depth) e := by
  intro x w s hw hs
  unfold requestMember choiceMember
  split_ifs with hhtml hspec hname hflag
  · exact understands_fill hw (understands_stringAs htext hpad.before hs _)
  · exact understands_fill hw (Takes.value htext hnesting hpad.before hs).understands
  · exact understands_fill hw (understands_modeKind htext (hmode hname) hpad.before s)
  · exact understands_fill hw (understands_flag htext hpad.before hs)
  · exact ((Takes.memberValue e.name hw (.skipValue htext hpad.before hs)).map _).understands

/-- The members fill the slots in any order; then the required ones must be there. -/
theorem understands_extractRequest_object {w' : List UInt8} {members : List Member} (hw : Blanks w)
    (hw' : Blanks w') (hkey : ∀ e ∈ members, KeyText e.key e.name) (hpad : ∀ e ∈ members, e.item.Padded)
    (htext : ∀ e ∈ members, ValueText e.item.text e.item.value)
    (hnesting : ∀ e ∈ members, e.item.value.nesting ≤ maxDepth - 2)
    (hmode : ∀ e ∈ members, e.name = "mode" → e.item.value.IsMode) (s : List UInt8) :
    Understands extractRequest (w ++ (objectText w' members ++ s)) s := by
  have hmembers : ∀ e ∈ members, UnderstandsIn (requestMember (maxDepth - 1)) e := fun e he =>
    understandsIn_requestMember (htext e he) (hpad e he) (hnesting e he) (hmode e he)
  simp only [objectText, List.cons_append, List.append_assoc, List.nil_append]
  refine understands_record_object hw ?_
  have hslots : Understands (slots {} (requestMember (maxDepth - 1)))
      (w' ++ (separated true (members.map Member.bytes) ++ 0x7D :: s)) (0x7D :: s) := by
    refine ((Takes.remaining _).leads _).understands ?_
    refine understands_membersLoop hkey hpad hmembers {} hw' ?_ s
    simp only [List.length_append]
    omega
  refine hslots.bind fun x _ => ?_
  refine understands_require.bind fun html _ => ?_
  exact understands_require.bind fun spec _ => (Takes.pure _ _).understands

/-- The items stand for the parts of the request in their order, and none may be left over. -/
theorem understands_extractRequest_list {w' : List UInt8} {items : List Item} (hw : Blanks w)
    (hw' : Blanks w') (hpad : ∀ i ∈ items, i.Padded) (htext : ∀ i ∈ items, ValueText i.text i.value)
    (hnesting : ∀ i ∈ items, i.value.nesting ≤ maxDepth - 2) (hlength : items.length ≤ 4)
    (hmode : ∀ i, items[2]? = some i → i.value.IsMode) (s : List UInt8) :
    Understands extractRequest (w ++ (listText w' items ++ s)) s := by
  simp only [listText, List.cons_append, List.append_assoc, List.nil_append]
  have hlast : Blanks ((items[3]?.map Item.after).getD []) := by
    cases hi : items[3]? with
    | none => exact .nil
    | some i => exact (hpad i (List.mem_of_getElem? hi)).after
  refine understands_record_list hw hlast ?_
  refine understands_itemValue 0 hpad htext (fun i hi s hs => ?_) (fun i₀ rest₀ h₀ html => ?_) hw'
  · exact understands_stringAs (w := []) (htext i (List.mem_of_head? hi)) .nil hs _
  subst h₀
  obtain ⟨hpad₀, hpad⟩ := List.forall_mem_cons.1 hpad
  obtain ⟨-, htext⟩ := List.forall_mem_cons.1 htext
  obtain ⟨-, hnesting⟩ := List.forall_mem_cons.1 hnesting
  refine understands_itemValue 1 hpad htext (fun i hi s hs => ?_) (fun i₁ rest₁ h₁ spec => ?_)
    hpad₀.after
  · have hi := List.mem_of_head? hi
    exact (Takes.value (w := []) (htext i hi) (hnesting i hi) .nil hs).understands
  subst h₁
  obtain ⟨hpad₁, hpad⟩ := List.forall_mem_cons.1 hpad
  obtain ⟨-, htext⟩ := List.forall_mem_cons.1 htext
  refine understands_itemValue 2 hpad htext (fun i hi s _ => ?_) (fun i₂ rest₂ h₂ mode => ?_)
    hpad₁.after
  · refine understands_modeKind (w := []) (htext i (List.mem_of_head? hi)) (hmode i ?_) .nil s
    rwa [List.getElem?_cons_succ, List.getElem?_cons_succ, ← List.head?_eq_getElem?]
  subst h₂
  obtain ⟨hpad₂, hpad⟩ := List.forall_mem_cons.1 hpad
  obtain ⟨-, htext⟩ := List.forall_mem_cons.1 htext
  refine understands_itemValue 3 hpad htext (fun i hi s hs => ?_) (fun i₃ rest₃ h₃ flag => ?_)
    hpad₂.after
  · exact understands_flag (w := []) (htext i (List.mem_of_head? hi)) .nil hs
  subst h₃
  obtain rfl : rest₃ = [] := by
    simp only [List.length_cons] at hlength
    exact List.eq_nil_of_length_eq_zero (by omega)
  exact (Takes.pure _ _).understands

/-- A request that asks plainly is understood. -/
theorem understands_extractRequest (h : ValueText t v) (hnesting : v.nesting < maxDepth)
    (hv : v.AsksPlainly) (hw : Blanks w) (hs : Delimited s) :
    Understands extractRequest (w ++ (t ++ s)) s := by
  cases hv with
  | other hlist hobject => exact understands_record_scalar h hlist hobject hw hs
  | object hmode =>
    cases h with
    | object hw' hkey hpad htext =>
      refine understands_extractRequest_object hw hw' hkey hpad htext ?_ (fun e he hname => ?_) s
      · exact nesting_object_le_iff.1 (Nat.le_of_lt_succ hnesting)
      · exact hmode _ (hname ▸ List.mem_map_of_mem he)
  | array hlength hmode =>
    cases h with
    | array hw' hpad htext =>
      refine understands_extractRequest_list hw hw' hpad htext ?_ (by simpa using hlength) (fun i hi => ?_) s
      · exact nesting_array_le_iff.1 (Nat.le_of_lt_succ hnesting)
      · exact hmode _ (by rw [List.getElem?_map, hi]; rfl)

end Json.Reader

namespace Service

open Http (Request)

variable {s : ServiceState} {limit : Nat} {r : Request} {v : Json} {choice : ModeChoice}

/-- A body that is JSON and asks plainly is read, or it is refused for what it says. -/
theorem inData_of_asksPlainly {body : List UInt8} (hbody : JsonText body v)
    (hnesting : v.nesting < maxDepth) (hv : v.AsksPlainly) {f : Failure}
    (hread : runAll extractRequest body = .error f) : ∃ fault, f.problem = .inData fault := by
  obtain ⟨w, t, w', rfl, hw, ht, hw'⟩ := hbody
  exact understands_runAll (understands_extractRequest ht hnesting hv hw hw'.delimited) hw' hread

/-- A body that is JSON gets the status of a fault in the text only if it does not ask plainly. -/
theorem JsonStages.unread [Charset.Detector] (h : JsonStages s limit r)
    (hquery : ModeChoice.ofQuery r.query = .ok choice) (hjson : SaysJson r) (hsize : r.body.length ≤ limit)
    (hbody : JsonText r.body v) (hnesting : v.nesting < maxDepth) (hv : v.AsksPlainly) {f : Failure}
    (hread : runAll extractRequest r.body = .error f) :
    (respond s limit r).Reports
      ⟨422, "Failed to deserialize the JSON body into the target type: " ++ f.textWithPath,
        some "invalid_request", none⟩ := by
  obtain ⟨fault, hfault⟩ := inData_of_asksPlainly hbody hnesting hv hread
  exact h.meaning choice f fault hquery hjson hsize hread hfault

end Service

end Gleaner
