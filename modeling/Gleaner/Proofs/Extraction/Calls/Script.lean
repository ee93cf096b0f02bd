import Gleaner.Proofs.Extraction.Alike

/-! The calls that an extraction makes to its backend, in order. A script holds the calls of a whole run,
each with the failure that its answer causes; the run goes through the script up to the first failure. -/
namespace Gleaner

/-- A question that the engine asks a backend. -/
inductive Call (Selector Node : Type)
  | compile (selector : String)
  | select (s : Selector) (scope : Option Node)
  | text (n : Node)
  deriving DecidableEq, Repr

/-- The text that is compiled. -/
def Call.compiled? {Selector Node : Type} : Call Selector Node → Option String
  | .compile s => some s
  | _ => none

/-- Calls in order, each with the failure that its answer causes if it causes one. -/
abbrev Script (Selector Node : Type) := List (Call Selector Node × Option ExtractionError)

namespace Script

variable {Selector Node : Type}

/-- The first failure. -/
def failure? (s : Script Selector Node) : Option ExtractionError := s.findSome? Prod.snd

/-- The calls up to and including the one that causes the first failure. -/
def asked : Script Selector Node → List (Call Selector Node)
  | [] => []
  | (c, none) :: rest => c :: asked rest
  | (c, some _) :: _ => [c]

theorem failure?_append (s t : Script Selector Node) :
    failure? (s ++ t) = (failure? s).or (failure? t) := List.findSome?_append

theorem failure?_flatMap {α : Type} (f : α → Script Selector Node) (l : List α) :
    failure? (l.flatMap f) = l.findSome? fun a => failure? (f a) := findSome?_flatMap _ _ _

theorem failure?_singleton (a : Call Selector Node × Option ExtractionError) :
    failure? [a] = a.2 := List.findSome?_singleton

theorem asked_singleton (a : Call Selector Node × Option ExtractionError) : asked [a] = [a.1] := by
  obtain ⟨c, _ | e⟩ := a <;> rfl

/-- After a failure nothing is asked. -/
theorem asked_append_of_failure {s : Script Selector Node} {e : ExtractionError}
    (h : failure? s = some e) (t : Script Selector Node) : asked (s ++ t) = asked s := by
  induction s with
  | nil => cases h
  | cons a rest ih =>
    obtain ⟨c, _ | e'⟩ := a
    · exact congrArg (c :: ·) (ih h)
    · rfl

theorem asked_append {s : Script Selector Node} (h : failure? s = none) (t : Script Selector Node) :
    asked (s ++ t) = asked s ++ asked t := by
  induction s with
  | nil => rfl
  | cons a rest ih =>
    obtain ⟨c, _ | e'⟩ := a
    · exact congrArg (c :: ·) (ih h)
    · cases h

theorem asked_of_failure?_eq_none {s : Script Selector Node} (h : failure? s = none) :
    asked s = s.map Prod.fst := by
  induction s with
  | nil => rfl
  | cons a rest ih =>
    obtain ⟨c, _ | e'⟩ := a
    · exact congrArg (c :: ·) (ih h)
    · cases h

/-- The last call of a failing run is the one whose answer is the failure. -/
theorem exists_of_failure?_eq_some {s : Script Selector Node} {e : ExtractionError}
    (h : failure? s = some e) :
    ∃ before c after, s = before ++ (c, some e) :: after ∧ failure? before = none ∧
      asked s = before.map Prod.fst ++ [c] := by
  obtain ⟨before, ⟨c, e'⟩, after, rfl, he, hbefore⟩ := List.findSome?_eq_some_iff.1 h
  cases he
  have hnone : failure? before = none := List.findSome?_eq_none_iff.2 hbefore
  refine ⟨before, c, after, rfl, hnone, ?_⟩
  rw [asked_append hnone, asked_of_failure?_eq_none hnone]
  rfl

theorem asked_begins (s : Script Selector Node) : asked s <+: s.map Prod.fst := by
  cases h : failure? s with
  | none => exact (asked_of_failure?_eq_none h).symm ▸ List.prefix_rfl
  | some e =>
    obtain ⟨before, c, after, rfl, -, hasked⟩ := exists_of_failure?_eq_some h
    exact ⟨after.map Prod.fst, by rw [hasked]; simp⟩

end Script

namespace Backend

variable {Selector Node : Type}

/-- The backend that keeps a list of the calls made to it. -/
def recording (doc : Backend Id Selector Node) :
    Backend (StateM (List (Call Selector Node))) Selector Node where
  compile s := fun log => (doc.compile s, log ++ [.compile s])
  select s scope := fun log => (doc.select s scope, log ++ [.select s scope])
  text n := fun log => (doc.text n, log ++ [.text n])

variable (doc : Backend Id Selector Node)

/-- The calls of one look-up: the matches of the selector, and the text of the first one. -/
def lookUpCalls (selector : String) (scope : Option Node) : List (Call Selector Node) :=
  match doc.compile selector with
  | .ok s => .select s scope :: (doc.select s scope).head?.toList.map .text
  | .error _ => []

def rowsCalls (root : String) : List (Call Selector Node) :=
  match doc.compile root with
  | .ok s => [.select s none]
  | .error _ => []

/-- The calls for a field: row after row, and in each row column after column. -/
def fieldCalls (f : Field) : List (Call Selector Node) :=
  match f.target with
  | .single s => doc.lookUpCalls s none
  | .group g => doc.rowsCalls g.root ++ (doc.dataRows g).flatMap fun row =>
      g.columns.flatMap fun c => doc.lookUpCalls c.selector (some row)

/-- The calls of a run in which nothing fails: all selectors are compiled before the first field is
looked up. -/
def calls (spec : Spec) : List (Call Selector Node) :=
  spec.places.map (fun p => .compile p.selector) ++ spec.fields.flatMap doc.fieldCalls

/-- The calls of one look-up. Finding nothing is the failure `e` in strict mode. -/
def lookUpScript (mode : ExtractionMode) (selector : String) (scope : Option Node)
    (e : ExtractionError) : Script Selector Node :=
  match doc.compile selector with
  | .ok s =>
      (.select s scope, if mode.isStrict then doc.plain.gapAt? selector scope e else none) ::
        (doc.select s scope).head?.toList.map fun n => (.text n, none)
  | .error _ => []

def rowsScript (mode : ExtractionMode) (f : Field) (root : String) : Script Selector Node :=
  match doc.compile root with
  | .ok s => [(.select s none, if mode.requiresRecords then doc.emptiness? f else none)]
  | .error _ => []

def rowScript (mode : ExtractionMode) (field : String) (columns : List Column) (row : Node)
    (index : Nat) : Script Selector Node :=
  columns.flatMap fun c =>
    doc.lookUpScript mode c.selector (some row) (.missing field (some c.name) (some index))

def fieldScript (mode : ExtractionMode) (f : Field) : Script Selector Node :=
  match f.target with
  | .single s => doc.lookUpScript mode s none (.missing f.name none none)
  | .group g => doc.rowsScript mode f g.root ++ (doc.dataRows g).zipIdx.flatMap fun r =>
      doc.rowScript mode f.name g.columns r.1 r.2

def placeScript (p : Place) : Script Selector Node := [(.compile p.selector, doc.refusal? p)]

def script (spec : Spec) (mode : ExtractionMode) : Script Selector Node :=
  spec.places.flatMap doc.placeScript ++ spec.fields.flatMap (doc.fieldScript mode)

/-! The calls of a script do not depend on the mode. -/

theorem lookUpScript_calls (mode : ExtractionMode) (selector : String) (scope : Option Node)
    (e : ExtractionError) :
    (doc.lookUpScript mode selector scope e).map Prod.fst = doc.lookUpCalls selector scope := by
  unfold lookUpScript lookUpCalls
  cases doc.compile selector with
  | ok s => simp [List.map_map, Function.comp_def]
  | error q => rfl

theorem rowsScript_calls (mode : ExtractionMode) (f : Field) (root : String) :
    (doc.rowsScript mode f root).map Prod.fst = doc.rowsCalls root := by
  unfold rowsScript rowsCalls
  cases doc.compile root <;> rfl

theorem fieldScript_calls (mode : ExtractionMode) (f : Field) :
    (doc.fieldScript mode f).map Prod.fst = doc.fieldCalls f := by
  obtain ⟨name, target⟩ := f
  cases target with
  | single s => exact doc.lookUpScript_calls mode s none _
  | group g =>
    have hrows : ∀ rows : List Node, ∀ k,
        ((rows.zipIdx k).flatMap fun r => doc.rowScript mode name g.columns r.1 r.2).map Prod.fst =
          rows.flatMap fun row => g.columns.flatMap fun c => doc.lookUpCalls c.selector (some row) := by
      intro rows
      induction rows with
      | nil => exact fun _ => rfl
      | cons row rest ih =>
        intro k
        rw [List.zipIdx_cons, List.flatMap_cons, List.flatMap_cons, List.map_append, ih, rowScript,
          List.map_flatMap]
        simp only [lookUpScript_calls]
    simp only [fieldScript, fieldCalls, List.map_append, rowsScript_calls, hrows]

theorem script_calls (spec : Spec) (mode : ExtractionMode) :
    (doc.script spec mode).map Prod.fst = doc.calls spec := by
  have hplaces : (spec.places.flatMap doc.placeScript).map Prod.fst =
      spec.places.map fun p => .compile p.selector := by
    rw [List.map_flatMap]
    exact List.map_eq_flatMap.symm
  rw [script, calls, List.map_append, hplaces, List.map_flatMap]
  simp only [fieldScript_calls]

end Backend

end Gleaner
