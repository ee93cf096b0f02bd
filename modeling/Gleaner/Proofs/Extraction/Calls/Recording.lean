import Gleaner.Proofs.Extraction.Calls.Script

/-! The engine on a backend that records its calls: each of its functions follows a script, from one
selector up to the extract. -/
namespace Gleaner

/-! Computations that follow a script. -/

variable {Selector Node : Type}

/-- A computation that records calls, and may fail. -/
abbrev Recorded (Selector Node α : Type) :=
  ExceptT ExtractionError (StateM (List (Call Selector Node))) α

/-- The computation makes the calls of the script up to the first failure. It ends with that failure, or
with a value that has the property. -/
def Follows {α : Type} (p : α → Prop) (s : Script Selector Node) (x : Recorded Selector Node α) :
    Prop :=
  ∃ out, Ends p s.failure? out ∧ ∀ log, x.run log = (out, log ++ s.asked)

namespace Follows

variable {α β γ : Type} {p : α → Prop} {q : β → Prop} {s t : Script Selector Node}

theorem mono {p' : α → Prop} {x : Recorded Selector Node α} (h : Follows p s x)
    (hp : ∀ a, p a → p' a) : Follows p' s x := by
  obtain ⟨out, hends, hrun⟩ := h
  exact ⟨out, hends.mono hp, hrun⟩

theorem pure {a : α} (h : p a) : Follows p ([] : Script Selector Node) (Pure.pure a) :=
  ⟨.ok a, .value a h, fun log => by rw [Script.asked, List.append_nil]; rfl⟩

theorem run_bind_ok {x : Recorded Selector Node α} {f : α → Recorded Selector Node β} {a : α}
    {log log' : List (Call Selector Node)} (h : x.run log = (.ok a, log')) :
    (x >>= f).run log = (f a).run log' := by
  change (let r := x.run log; ExceptT.bindCont f r.1 r.2) = _
  rw [h]
  rfl

theorem run_bind_error {x : Recorded Selector Node α} {f : α → Recorded Selector Node β}
    {e : ExtractionError} {log log' : List (Call Selector Node)} (h : x.run log = (.error e, log')) :
    (x >>= f).run log = (.error e, log') := by
  change (let r := x.run log; ExceptT.bindCont f r.1 r.2) = _
  rw [h]
  rfl

theorem bind {x : Recorded Selector Node α} {f : α → Recorded Selector Node β} (hx : Follows p s x)
    (hf : ∀ a, p a → Follows q t (f a)) : Follows q (s ++ t) (x >>= f) := by
  obtain ⟨out, hends, hrun⟩ := hx
  generalize hs : s.failure? = failure at hends
  cases hends with
  | fault e =>
    refine ⟨.error e, ?_, fun log => ?_⟩
    · rw [Script.failure?_append, hs]
      exact .fault e
    · rw [run_bind_error (hrun log), Script.asked_append_of_failure hs]
  | value a ha =>
    obtain ⟨out', hends', hrun'⟩ := hf a ha
    refine ⟨out', ?_, fun log => ?_⟩
    · rwa [Script.failure?_append, hs, Option.none_or]
    · rw [run_bind_ok (hrun log), hrun', Script.asked_append hs, List.append_assoc]

/-- A second part without calls. -/
theorem bind_pure {x : Recorded Selector Node α} {f : α → β} (hx : Follows p s x)
    (hf : ∀ a, p a → q (f a)) : Follows q s (x >>= fun a => Pure.pure (f a)) := by
  have h : Follows q (s ++ []) (x >>= fun a => Pure.pure (f a)) :=
    hx.bind fun a ha => Follows.pure (hf a ha)
  rwa [List.append_nil] at h

/-- A call in front whose answer is no failure. -/
theorem cons {c : Call Selector Node} {x y : Recorded Selector Node α} (hy : Follows p s y)
    (h : ∀ log, x.run log = y.run (log ++ [c])) : Follows p ((c, none) :: s) x := by
  obtain ⟨out, hends, hrun⟩ := hy
  refine ⟨out, hends, fun log => ?_⟩
  rw [h, hrun, List.append_assoc]
  rfl

/-- A traversal follows the scripts of its items one after the other. -/
theorem mapM₂ {r : γ → α → Prop} {v : γ → β → Prop} {o : γ → Script Selector Node}
    {f : α → Recorded Selector Node β} {cs : List γ} {l : List α} (hl : List.Forall₂ r cs l)
    (h : ∀ c a, r c a → Follows (v c) (o c) (f a)) :
    Follows (List.Forall₂ v cs) (cs.flatMap o) (l.mapM f) := by
  induction hl with
  | nil => exact Follows.pure .nil
  | @cons c a cs l hca _ ih =>
    rw [List.mapM_cons, List.flatMap_cons]
    refine bind (h c a hca) fun b hb => ?_
    exact ih.bind_pure fun bs hbs => .cons hb hbs

theorem mapM {v : α → β → Prop} {o : α → Script Selector Node} {f : α → Recorded Selector Node β}
    (l : List α) (h : ∀ a, Follows (v a) (o a) (f a)) :
    Follows (List.Forall₂ v l) (l.flatMap o) (l.mapM f) := by
  refine mapM₂ (List.forall₂_same.2 fun a _ => rfl) ?_
  rintro a _ rfl
  exact h a

end Follows

namespace Extraction

/-! Compiling. -/

section Compiling

variable (doc : Backend Id Selector Node)

theorem compile_follows (p : Place) :
    Follows (fun s => doc.compile p.selector = .ok s) (doc.placeScript p)
      (compile doc.recording p.field p.column p.selector) := by
  have hrun : ∀ log, (compile doc.recording p.field p.column p.selector).run log =
      ((compile doc p.field p.column p.selector).run, log ++ [.compile p.selector]) := by
    intro log
    simp only [compile, Backend.recording]
    generalize doc.compile p.selector = answer
    cases answer <;> rfl
  refine ⟨(compile doc p.field p.column p.selector).run, ?_, fun log => ?_⟩
  · rw [Backend.placeScript, Script.failure?_singleton]
    exact compile_ends doc p
  · rw [Backend.placeScript, Script.asked_singleton]
    exact hrun log

theorem planColumn_follows (field : String) (c : Column) :
    Follows (CompiledColumn doc c) (doc.placeScript ⟨field, some c.name, c.selector⟩)
      (planColumn doc.recording field c) :=
  (compile_follows doc ⟨field, some c.name, c.selector⟩).bind_pure fun _ hs => ⟨rfl, hs⟩

theorem planField_follows (f : Field) :
    Follows (Compiled doc f) (f.places.flatMap doc.placeScript) (planField doc.recording f) := by
  obtain ⟨name, target⟩ := f
  cases target with
  | single s =>
    simp only [Field.places, List.flatMap_singleton]
    exact (compile_follows doc ⟨name, none, s⟩).bind_pure fun c hc => .single hc
  | group g =>
    simp only [Field.places, List.flatMap_cons, List.flatMap_map]
    refine (compile_follows doc ⟨name, some rootName, g.root⟩).bind fun root hroot => ?_
    refine (Follows.mapM g.columns (planColumn_follows doc name)).bind_pure fun columns hcolumns => ?_
    exact .group hroot hcolumns

theorem plans_follow (fields : List Field) :
    Follows (List.Forall₂ (Compiled doc) fields)
      ((fields.flatMap Field.places).flatMap doc.placeScript)
      (fields.mapM (planField doc.recording)) := by
  rw [List.flatMap_assoc]
  exact Follows.mapM fields (planField_follows doc)

end Compiling

/-! Looking up. -/

section LookingUp

variable (doc : Backend Id Selector Node) (mode : ExtractionMode)

/-- The recording backend looks up a first match by asking for all matches. -/
theorem firstText_run (s : Selector) (scope : Option Node) (e : ExtractionError)
    (log : List (Call Selector Node)) :
    (firstText doc.recording mode s scope e).run log =
      match (doc.select s scope).head? with
      | some n => (.ok (Text.normal (doc.text n)), log ++ [.select s scope, .text n])
      | none => (if mode.isStrict then .error e else .ok "", log ++ [.select s scope]) := by
  have hrun : (firstText doc.recording mode s scope e).run log =
      (match (doc.select s scope).head? with
        | some n => do Pure.pure (Text.normal (← (doc.recording.text n : StateM _ _)))
        | none => if mode.isStrict then throw e else Pure.pure "" :
        Recorded Selector Node String).run (log ++ [.select s scope]) := rfl
  rw [hrun]
  cases (doc.select s scope).head? with
  | some n =>
    have hlog : log ++ [.select s scope, .text n] = log ++ [.select s scope] ++ [Call.text n] :=
      List.append_cons _ _ _
    simp only [hlog]
    rfl
  | none => cases mode <;> rfl

variable {doc}

theorem firstText_follows {selector : String} {s : Selector} (hs : doc.compile selector = .ok s)
    (scope : Option Node) (e : ExtractionError) :
    Follows (· = doc.plain.textOf selector scope) (doc.lookUpScript mode selector scope e)
      (firstText doc.recording mode s scope e) := by
  have hfirst : doc.plain.first? selector scope = (doc.select s scope).head? := by
    have hplain : doc.plain.compile selector = .ok s := hs
    simp only [Backend.first?, hplain]
    rfl
  simp only [Backend.lookUpScript, hs, Backend.gapAt?, Backend.textOf, hfirst]
  have hrun := firstText_run doc mode s scope e
  cases hhead : (doc.select s scope).head? with
  | some n =>
    simp only [hhead] at hrun
    simp only [ite_self]
    exact ⟨.ok _, .value _ rfl, hrun⟩
  | none =>
    simp only [hhead] at hrun
    cases mode with
    | lenient => exact ⟨.ok "", .value _ rfl, hrun⟩
    | strict r => exact ⟨.error e, .fault e, hrun⟩

variable {columns : List Column} {compiled : List (String × Selector)}

theorem record_follows (hc : List.Forall₂ (CompiledColumn doc) columns compiled) (field : String)
    (row : Node) (index : Nat) :
    Follows (· = doc.plain.recordOf columns row) (doc.rowScript mode field columns row index)
      (record doc.recording mode field compiled row index) := by
  have hcells : Follows
      (List.Forall₂ (fun c (cell : String × String) =>
        cell = (c.name, doc.plain.textOf c.selector (some row))) columns)
      (doc.rowScript mode field columns row index)
      (compiled.mapM fun c : String × Selector => do
        let s ← firstText doc.recording mode c.2 (some row) (.missing field (some c.1) (some index))
        Pure.pure (c.1, s)) := by
    refine Follows.mapM₂ hc ?_
    rintro c ⟨name, s⟩ ⟨rfl, hs⟩
    exact (firstText_follows mode hs (some row) _).bind_pure fun t ht => by rw [ht]
  refine hcells.bind_pure fun cells h => ?_
  rw [eq_map_of_forall₂ h]
  rfl

theorem rows_follow (hc : List.Forall₂ (CompiledColumn doc) columns compiled) (field : String)
    (rows : List Node) :
    Follows (· = rows.map (doc.plain.recordOf columns))
      (rows.zipIdx.flatMap fun r => doc.rowScript mode field columns r.1 r.2)
      (rows.zipIdx.mapM fun r => record doc.recording mode field compiled r.1 r.2) := by
  have h := Follows.mapM rows.zipIdx fun r : Node × Nat => record_follows mode hc field r.1 r.2
  refine h.mono fun out hout => ?_
  have hmap : rows.zipIdx.map (doc.plain.recordOf columns ∘ Prod.fst) =
      rows.map (doc.plain.recordOf columns) := by
    rw [← List.map_map, List.zipIdx_map_fst]
  exact (eq_map_of_forall₂ hout).trans hmap

theorem records_run {g : Group} {root : Selector} (hr : doc.compile g.root = .ok root) (name : String)
    (compiled : List (String × Selector)) (log : List (Call Selector Node)) :
    (records doc.recording mode name root compiled).run log =
      (do
        let out ← (doc.dataRows g).zipIdx.mapM fun r => record doc.recording mode name compiled r.1 r.2
        if out.isEmpty && mode.requiresRecords then throw (.noRecords name) else Pure.pure out :
        Recorded Selector Node (List Record)).run (log ++ [.select root none]) := by
  have hrows : (doc.select root none).drop headerRows = doc.dataRows g := by
    simp only [Backend.dataRows, Backend.nodes, hr, headerRows, List.drop_one]
  rw [← hrows]
  rfl

theorem records_follow {name : String} {g : Group} {root : Selector}
    (hr : doc.compile g.root = .ok root)
    (hc : List.Forall₂ (CompiledColumn doc) g.columns compiled) :
    Follows (· = (doc.dataRows g).map (doc.plain.recordOf g.columns))
      (doc.fieldScript mode ⟨name, .group g⟩) (records doc.recording mode name root compiled) := by
  have hrun := records_run mode hr name compiled
  simp only [Backend.fieldScript, Backend.rowsScript, hr, Backend.emptiness?]
  by_cases h : doc.dataRows g = []
  · simp only [h] at hrun ⊢
    cases hm : mode.requiresRecords with
    | true =>
      simp only [hm] at hrun
      exact ⟨.error (.noRecords name), .fault _, hrun⟩
    | false =>
      simp only [hm] at hrun
      exact ⟨.ok [], .value _ rfl, hrun⟩
  · simp only [h, if_false, ite_self, List.singleton_append]
    refine Follows.cons ?_ hrun
    have hrows := (rows_follow mode hc name (doc.dataRows g)).bind (t := [])
      (q := (· = (doc.dataRows g).map (doc.plain.recordOf g.columns)))
      (f := fun out => if out.isEmpty && mode.requiresRecords then throw (.noRecords name)
        else Pure.pure out) ?_
    · rwa [List.append_nil] at hrows
    · rintro out rfl
      have hout : ((doc.dataRows g).map (doc.plain.recordOf g.columns)).isEmpty = false := by
        rw [List.isEmpty_map, List.isEmpty_eq_false_iff]
        exact h
      simp only [hout, Bool.false_and, Bool.false_eq_true, if_false]
      exact Follows.pure rfl

theorem fieldValue_follows {f : Field} {plan : String × Plan Selector} (h : Compiled doc f plan) :
    Follows (· = doc.plain.valueOf f.target) (doc.fieldScript mode f)
      (fieldValue doc.recording mode plan.1 plan.2) := by
  cases h with
  | @single name s c hs =>
    exact (firstText_follows mode hs none (.missing name none none)).bind_pure fun t ht => by
      rw [ht]
      rfl
  | @group name g root compiled hr hc =>
    exact (records_follow mode hr hc).bind_pure fun rows hrows => by
      rw [hrows]
      rfl

theorem entries_follow {fields : List Field} {plans : List (String × Plan Selector)}
    (h : List.Forall₂ (Compiled doc) fields plans) :
    Follows (· = fields.map fun f => (f.name, doc.plain.valueOf f.target))
      (fields.flatMap (doc.fieldScript mode))
      (plans.mapM fun p : String × Plan Selector => do
        let v ← fieldValue doc.recording mode p.1 p.2
        Pure.pure (p.1, v)) := by
  refine (Follows.mapM₂ h ?_).mono fun entries he => eq_map_of_forall₂ he
  intro f p hp
  refine (fieldValue_follows mode hp).bind_pure fun v hv => ?_
  rw [hv]
  cases hp <;> rfl

end LookingUp

theorem extract_follows (doc : Backend Id Selector Node) (spec : Spec) (mode : ExtractionMode) :
    Follows (· = doc.plain.contentOf spec) (doc.script spec mode) (extract doc.recording spec mode) := by
  refine (plans_follow doc spec.fields).bind fun plans hplans => ?_
  refine (entries_follow mode hplans).bind_pure fun entries he => ?_
  rw [he]
  rfl

end Extraction

end Gleaner
