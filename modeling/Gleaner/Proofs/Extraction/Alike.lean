import Gleaner.Proofs.Extraction.Engine

/-! Documents of different kinds that answer alike. The engine sees a document only through its answers,
so two documents whose answers correspond give the same extract or the same failure, whatever their
selectors and nodes are made of. -/
namespace Gleaner

namespace Ends

variable {ε α : Type}

/-- How a computation ends is a matter of its faults and of its value. -/
theorem unique {a : α} {o : Option ε} {x y : Except ε α} (hx : Ends (· = a) o x)
    (hy : Ends (· = a) o y) : x = y := by
  cases hx with
  | fault e =>
    cases hy
    rfl
  | value b hb =>
    cases hy with
    | value c hc => rw [hb, hc]

end Ends

namespace Backend

variable {Selector Node Selector' Node' : Type}

/-- The same document, with the first match taken from the list of all matches. -/
def plain {m : Type → Type} [Monad m] (doc : Backend m Selector Node) : Backend m Selector Node where
  compile := doc.compile
  select := doc.select
  text := doc.text

/-- Two documents whose nodes are related by `R` accept the same selectors, refuse the others for the same
reason, and then find related nodes in related places. -/
structure Alike (doc : Backend Id Selector Node) (doc' : Backend Id Selector' Node')
    (R : Node → Node' → Prop) : Prop where
  refused : ∀ s q, doc.compile s = .error q ↔ doc'.compile s = .error q
  select : ∀ s c c', doc.compile s = .ok c → doc'.compile s = .ok c' →
    ∀ scope scope', Option.Rel R scope scope' →
      List.Forall₂ R (doc.select c scope) (doc'.select c' scope')
  selectFirst : ∀ s c c', doc.compile s = .ok c → doc'.compile s = .ok c' →
    ∀ scope scope', Option.Rel R scope scope' →
      Option.Rel R (doc.selectFirst c scope) (doc'.selectFirst c' scope')
  text : ∀ n n', R n n' → doc.text n = doc'.text n'

namespace Alike

variable {doc : Backend Id Selector Node} {doc' : Backend Id Selector' Node'}
  {R : Node → Node' → Prop} (h : doc.Alike doc' R)

include h

/-- A selector is refused on both sides or accepted on both sides. -/
theorem compile_cases (s : String) :
    (∃ q, doc.compile s = .error q ∧ doc'.compile s = .error q) ∨
      ∃ c c', doc.compile s = .ok c ∧ doc'.compile s = .ok c' := by
  cases hs : doc.compile s with
  | error q => exact .inl ⟨q, rfl, (h.refused s q).1 hs⟩
  | ok c =>
    cases hs' : doc'.compile s with
    | error q =>
      have hq := (h.refused s q).2 hs'
      rw [hs] at hq
      cases hq
    | ok c' => exact .inr ⟨c, c', rfl, rfl⟩

theorem refusal? (p : Place) : doc.refusal? p = doc'.refusal? p := by
  ext e
  simp only [refusal?_eq_some_iff, h.refused]

theorem nodes (s : String) {scope : Option Node} {scope' : Option Node'}
    (hscope : Option.Rel R scope scope') :
    List.Forall₂ R (doc.nodes s scope) (doc'.nodes s scope') := by
  rcases h.compile_cases s with ⟨q, hq, hq'⟩ | ⟨c, c', hc, hc'⟩
  · simp only [Backend.nodes, hq, hq']
    exact .nil
  · simp only [Backend.nodes, hc, hc']
    exact h.select s c c' hc hc' scope scope' hscope

theorem first? (s : String) {scope : Option Node} {scope' : Option Node'}
    (hscope : Option.Rel R scope scope') :
    Option.Rel R (doc.first? s scope) (doc'.first? s scope') := by
  rcases h.compile_cases s with ⟨q, hq, hq'⟩ | ⟨c, c', hc, hc'⟩
  · simp only [Backend.first?, hq, hq']
    exact .none
  · simp only [Backend.first?, hc, hc']
    exact h.selectFirst s c c' hc hc' scope scope' hscope

theorem textOf (s : String) {scope : Option Node} {scope' : Option Node'}
    (hscope : Option.Rel R scope scope') : doc.textOf s scope = doc'.textOf s scope' := by
  have hfirst := h.first? s hscope
  rw [Backend.textOf, Backend.textOf]
  generalize doc.first? s scope = n, doc'.first? s scope' = n' at hfirst
  cases hfirst with
  | none => rfl
  | some hn => simp only [h.text _ _ hn]

theorem gapAt? (s : String) {scope : Option Node} {scope' : Option Node'}
    (hscope : Option.Rel R scope scope') (e : ExtractionError) :
    doc.gapAt? s scope e = doc'.gapAt? s scope' e := by
  have hfirst := h.first? s hscope
  rw [Backend.gapAt?, Backend.gapAt?]
  generalize doc.first? s scope = n, doc'.first? s scope' = n' at hfirst
  cases hfirst with
  | none => rfl
  | some hn => rfl

theorem dataRows (g : Group) : List.Forall₂ R (doc.dataRows g) (doc'.dataRows g) := by
  simp only [Backend.dataRows, ← List.drop_one]
  exact List.forall₂_drop 1 (h.nodes g.root .none)

theorem rowGap? (field : String) (columns : List Column) {row : Node} {row' : Node'}
    (hrow : R row row') (index : Nat) :
    doc.rowGap? field columns row index = doc'.rowGap? field columns row' index := by
  simp only [Backend.rowGap?, h.gapAt? _ (.some hrow)]

/-- The row numbers go along with the rows. -/
theorem rowGaps (field : String) (columns : List Column) {rows : List Node} {rows' : List Node'}
    (hrows : List.Forall₂ R rows rows') (k : Nat) :
    (rows.zipIdx k).findSome? (fun r => doc.rowGap? field columns r.1 r.2) =
      (rows'.zipIdx k).findSome? fun r => doc'.rowGap? field columns r.1 r.2 := by
  induction hrows generalizing k with
  | nil => rfl
  | cons hrow _ ih =>
    rw [List.zipIdx_cons, List.zipIdx_cons, findSome?_cons_eq_or, findSome?_cons_eq_or, ih,
      h.rowGap? field columns hrow]

theorem recordOf (columns : List Column) {row : Node} {row' : Node'} (hrow : R row row') :
    doc.recordOf columns row = doc'.recordOf columns row' := by
  simp only [Backend.recordOf, h.textOf _ (.some hrow)]

theorem valueOf (t : Target) : doc.valueOf t = doc'.valueOf t := by
  cases t with
  | single s => simp only [Backend.valueOf, h.textOf s .none]
  | group g =>
    have hrecords : ∀ rows rows', List.Forall₂ R rows rows' →
        rows.map (doc.recordOf g.columns) = rows'.map (doc'.recordOf g.columns) := by
      intro rows rows' hrows
      induction hrows with
      | nil => rfl
      | cons hrow _ ih => rw [List.map_cons, List.map_cons, ih, h.recordOf g.columns hrow]
    simp only [Backend.valueOf, hrecords _ _ (h.dataRows g)]

theorem violation? (mode : ExtractionMode) (f : Field) :
    doc.violation? mode f = doc'.violation? mode f := by
  obtain ⟨name, target⟩ := f
  cases target with
  | single s => simp only [Backend.violation?, Backend.gap?, Backend.emptiness?, h.gapAt? s .none]
  | group g =>
    have hrows := h.dataRows g
    have hempty : doc.dataRows g = [] ↔ doc'.dataRows g = [] := by
      rw [← List.length_eq_zero_iff, ← List.length_eq_zero_iff, hrows.length_eq]
    simp only [Backend.violation?, Backend.gap?, Backend.emptiness?, h.rowGaps name g.columns hrows,
      hempty]

theorem contentOf (spec : Spec) : doc.contentOf spec = doc'.contentOf spec := by
  simp only [Backend.contentOf, h.valueOf]

theorem extract (spec : Spec) (mode : ExtractionMode) :
    (Gleaner.extract doc spec mode).run = (Gleaner.extract doc' spec mode).run := by
  have hfaults : (spec.places.findSome? doc.refusal?).or (spec.fields.findSome? (doc.violation? mode)) =
      (spec.places.findSome? doc'.refusal?).or (spec.fields.findSome? (doc'.violation? mode)) := by
    rw [findSome?_congr fun p _ => h.refusal? p, findSome?_congr fun f _ => h.violation? mode f]
  have hdoc := Extraction.extract_ends doc spec mode
  rw [hfaults, h.contentOf] at hdoc
  exact hdoc.unique (Extraction.extract_ends doc' spec mode)

end Alike

/-- A look-up of its own makes no difference if it gives the first of all matches. -/
theorem alike_plain {doc : Backend Id Selector Node}
    (h : ∀ c scope, doc.selectFirst c scope = (doc.select c scope).head?) :
    doc.Alike doc.plain Eq where
  refused _ _ := Iff.rfl
  select s c c' hc hc' scope scope' hscope := by
    cases hc.symm.trans hc'
    have hscopes : scope = scope' := by cases hscope <;> simp_all
    rw [hscopes, List.forall₂_eq_eq_eq]
    rfl
  selectFirst s c c' hc hc' scope scope' hscope := by
    cases hc.symm.trans hc'
    have hscopes : scope = scope' := by cases hscope <;> simp_all
    rw [hscopes, h]
    change Option.Rel Eq _ (doc.select c scope').head?
    cases (doc.select c scope').head? with
    | none => exact .none
    | some n => exact .some rfl
  text n n' hn := by rw [hn]; rfl

end Backend

namespace Extraction

variable {Selector Node Selector' Node' : Type}

/-- Documents that answer alike give the same extract or the same failure. One that looks up first matches
in a way of its own is like one that takes the first of all matches. -/
theorem interchangeable (doc : Backend Id Selector Node) (doc' : Backend Id Selector' Node') :
    (∀ R, doc.Alike doc' R →
      ∀ spec mode, (extract doc spec mode).run = (extract doc' spec mode).run) ∧
    ((∀ c scope, doc.selectFirst c scope = (doc.select c scope).head?) →
      ∀ spec mode, (extract doc spec mode).run = (extract doc.plain spec mode).run) :=
  ⟨fun _ h spec mode => h.extract spec mode, fun h spec mode => (Backend.alike_plain h).extract spec mode⟩

def mirror (n : Nat) : Int := -(n : Int)

/-- The price list with its nodes counted downwards and its selectors taken apart. -/
def mirroredPriceList : Backend Id (List Char) Int where
  compile s := (priceList.compile s).map String.toList
  select s scope := (priceList.select (String.ofList s) (scope.map Int.natAbs)).map mirror
  text n := priceList.text n.natAbs

/-- The two sides of the mirror. -/
def Mirrored (n : Nat) (n' : Int) : Prop := n' = mirror n

theorem mirrored_natAbs {n : Nat} {n' : Int} (h : Mirrored n n') : n'.natAbs = n := by
  rw [h, mirror, Int.natAbs_neg, Int.natAbs_natCast]

theorem mirrored_scope {scope : Option Nat} {scope' : Option Int}
    (h : Option.Rel Mirrored scope scope') : scope'.map Int.natAbs = scope := by
  cases h with
  | none => rfl
  | some hn => rw [Option.map_some, mirrored_natAbs hn]

theorem mirrored_rows (rows : List Nat) :
    List.Forall₂ Mirrored rows (rows.map mirror) := by
  rw [List.forall₂_map_right_iff, List.forall₂_same]
  exact fun _ _ => rfl

theorem mirrored_head {rows : List Nat} {rows' : List Int} (h : List.Forall₂ Mirrored rows rows') :
    Option.Rel Mirrored rows.head? rows'.head? := by
  cases h with
  | nil => exact .none
  | cons hn _ => exact .some hn

theorem mirrored_compile {s c : String} {c' : List Char} (hc : priceList.compile s = .ok c)
    (hc' : mirroredPriceList.compile s = .ok c') : c' = c.toList := by
  have h : (priceList.compile s).map String.toList = .ok c' := hc'
  rw [hc] at h
  cases h
  rfl

theorem priceList_alike_mirrored : priceList.Alike mirroredPriceList Mirrored where
  refused s q := by
    change _ ↔ (priceList.compile s).map String.toList = .error q
    cases priceList.compile s with
    | ok c => exact ⟨nofun, nofun⟩
    | error q' => exact ⟨fun h => by cases h; rfl, fun h => by cases h; rfl⟩
  select s c c' hc hc' scope scope' hscope := by
    change List.Forall₂ Mirrored (priceList.select c scope)
      ((priceList.select (String.ofList c') (scope'.map Int.natAbs)).map _)
    rw [mirrored_compile hc hc', String.ofList_toList, mirrored_scope hscope]
    exact mirrored_rows _
  selectFirst s c c' hc hc' scope scope' hscope := by
    change Option.Rel Mirrored (priceList.select c scope).head?
      ((priceList.select (String.ofList c') (scope'.map Int.natAbs)).map _).head?
    rw [mirrored_compile hc hc', String.ofList_toList, mirrored_scope hscope]
    exact mirrored_head (mirrored_rows _)
  text n n' h := by
    change priceList.text n = priceList.text n'.natAbs
    rw [mirrored_natAbs h]

theorem interchangeable_mirrored :
    priceList.Alike mirroredPriceList Mirrored ∧
      (extract mirroredPriceList priceSpec (.strict true)).run =
        .error (.missing "prices" (some "price") (some 1)) := by
  refine ⟨priceList_alike_mirrored, ?_⟩
  rw [← (interchangeable priceList mirroredPriceList).1 Mirrored priceList_alike_mirrored]
  rfl

end Extraction

end Gleaner
