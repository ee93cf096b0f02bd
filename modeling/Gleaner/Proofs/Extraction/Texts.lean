import Gleaner.Proofs.Extraction.Lenient
import Gleaner.Proofs.Text.Normal

/-! The texts of extractions are in normal form: whatever a backend answers and whatever its answers depend
on, a value of an extract has gone through the normal form or is empty. -/
namespace Gleaner

open Text (normal)

/-! Values with all of their texts in normal form. -/

def Record.InNormalForm (r : Record) : Prop :=
  ∀ column s, r.get? column = some s → normal s = s

def FieldValue.InNormalForm : FieldValue → Prop
  | .text s => normal s = s
  | .records rows => ∀ r ∈ rows, Record.InNormalForm r

def Extract.InNormalForm (r : Extract) : Prop :=
  ∀ name v, r.get? name = some v → v.InNormalForm

namespace Extraction

open MonadAttach (CanReturn)
open LawfulMonadAttach (canReturn_bind_imp' canReturn_map_imp' eq_of_canReturn_pure)

variable {m : Type → Type} [Monad m] [LawfulMonad m] [MonadAttach m] [LawfulMonadAttach m]

/-! What computations can return. -/

section Returning

variable {ε α β : Type}

theorem not_canReturn_throw {e : ε} {a : α} : ¬ CanReturn (throw e : ExceptT ε m α) a := by
  intro h
  have hrun : CanReturn (pure (.error e) : m (Except ε α)) (.ok a) := h
  cases eq_of_canReturn_pure hrun

theorem canReturn_mapM {f : α → m β} {l : List α} {bs : List β} (h : CanReturn (l.mapM f) bs) :
    ∀ b ∈ bs, ∃ a ∈ l, CanReturn (f a) b := by
  induction l generalizing bs with
  | nil =>
    rw [List.mapM_nil] at h
    simp [← eq_of_canReturn_pure h]
  | cons a l ih =>
    rw [List.mapM_cons] at h
    obtain ⟨b, hb, h⟩ := canReturn_bind_imp' h
    obtain ⟨bs', hbs, h⟩ := canReturn_bind_imp' h
    cases eq_of_canReturn_pure h
    refine List.forall_mem_cons.2 ⟨⟨a, List.mem_cons_self, hb⟩, fun c hc => ?_⟩
    obtain ⟨d, hd, hdc⟩ := ih hbs c hc
    exact ⟨d, List.mem_cons_of_mem a hd, hdc⟩

end Returning

/-! The functions of the engine. -/

section Engine

variable {Selector Node : Type} {doc : Backend m Selector Node} {mode : ExtractionMode}

theorem normal_of_firstText {s : Selector} {scope : Option Node} {e : ExtractionError} {t : String}
    (h : CanReturn (firstText doc mode s scope e) t) : normal t = t := by
  obtain ⟨first, -, h⟩ := canReturn_bind_imp' h
  cases first with
  | some n =>
    obtain ⟨u, -, h⟩ := canReturn_bind_imp' h
    cases eq_of_canReturn_pure h
    exact Text.normal_normal u
  | none =>
    dsimp only at h
    split_ifs at h
    · exact absurd h not_canReturn_throw
    · cases eq_of_canReturn_pure h
      rfl

theorem inNormalForm_of_record {field : String} {columns : List (String × Selector)} {row : Node}
    {index : Nat} {r : Record} (h : CanReturn (record doc mode field columns row index) r) :
    Record.InNormalForm r := by
  obtain ⟨entries, hentries, h⟩ := canReturn_bind_imp' h
  cases eq_of_canReturn_pure h
  intro column s hs
  obtain ⟨c, -, hc⟩ := canReturn_mapM hentries _ (SortedMap.mem_of_get?_ofList hs)
  obtain ⟨t, ht, hc⟩ := canReturn_bind_imp' hc
  cases eq_of_canReturn_pure hc
  exact normal_of_firstText ht

theorem inNormalForm_of_records {field : String} {root : Selector}
    {columns : List (String × Selector)} {rows : List Record}
    (h : CanReturn (records doc mode field root columns) rows) :
    ∀ r ∈ rows, Record.InNormalForm r := by
  obtain ⟨nodes, -, h⟩ := canReturn_bind_imp' h
  obtain ⟨out, hout, h⟩ := canReturn_bind_imp' h
  split_ifs at h
  · exact absurd h not_canReturn_throw
  · cases eq_of_canReturn_pure h
    intro r hr
    obtain ⟨row, -, hrow⟩ := canReturn_mapM hout r hr
    exact inNormalForm_of_record hrow

theorem inNormalForm_of_fieldValue {field : String} {plan : Plan Selector} {v : FieldValue}
    (h : CanReturn (fieldValue doc mode field plan) v) : v.InNormalForm := by
  cases plan with
  | single s =>
    obtain ⟨t, ht, rfl⟩ := canReturn_map_imp' h
    exact normal_of_firstText ht
  | group root columns =>
    obtain ⟨rows, hrows, rfl⟩ := canReturn_map_imp' h
    exact inNormalForm_of_records hrows

theorem inNormalForm_of_extract {spec : Spec} {r : Extract} (h : CanReturn (extract doc spec mode) r) :
    r.InNormalForm := by
  obtain ⟨plans, -, h⟩ := canReturn_bind_imp' h
  obtain ⟨entries, hentries, h⟩ := canReturn_bind_imp' h
  cases eq_of_canReturn_pure h
  intro name v hv
  obtain ⟨p, -, hp⟩ := canReturn_mapM hentries _ (SortedMap.mem_of_get?_ofList hv)
  obtain ⟨w, hw, hp⟩ := canReturn_bind_imp' hp
  cases eq_of_canReturn_pure hp
  exact inNormalForm_of_fieldValue hw

end Engine

/-- A text in normal form stays as it is, and only tidy texts do. The normal form is a part of the text with
all of its characters that are no blanks, and it is made on each side of a place between two such characters
by itself. All texts that an extraction can return are in normal form, for backends of every kind. -/
theorem normal_texts :
    (∀ s, normal (normal s) = normal s) ∧
    (∀ s, ((∃ t, normal t = s) ↔ normal s = s) ∧ (normal s = s ↔ Text.Tidy s.toList)) ∧
    (∀ s, (normal s).toList.Sublist s.toList ∧
      (normal s).toList.filter (!Text.isBlank ·) = s.toList.filter (!Text.isBlank ·)) ∧
    (∀ x y : String, Text.EndsSolid x.toList → Text.StartsSolid y.toList →
      normal (x ++ y) = normal x ++ normal y) ∧
    ∀ (m : Type → Type) [Monad m] [LawfulMonad m] [MonadAttach m] [LawfulMonadAttach m]
      (Selector Node : Type) (doc : Backend m Selector Node) (spec : Spec) (mode : ExtractionMode)
      (r : Extract), CanReturn (extract doc spec mode) r → r.InNormalForm := by
  refine ⟨Text.normal_normal, fun s => ⟨⟨?_, fun h => ⟨s, h⟩⟩, Text.normal_eq_self_iff⟩,
    fun s => ⟨Text.normal_sublist s, Text.filter_normal s⟩, fun x y => Text.normal_append,
    fun m _ _ _ _ Selector Node doc spec mode r => inNormalForm_of_extract⟩
  rintro ⟨t, rfl⟩
  exact Text.normal_normal t

theorem normal_texts_prices :
    normal ("Prices:\n  bread" ++ "and \r\n\tmilk ") = normal "Prices:\n  bread" ++ normal "and \r\n\tmilk " ∧
      ∃ r, (extract priceList priceSpec .lenient).run = .ok r ∧ r.InNormalForm := by
  have hends : Text.EndsSolid "Prices:\n  bread".toList := by
    rintro c ⟨⟩
    rfl
  have hstarts : Text.StartsSolid "and \r\n\tmilk ".toList := by
    rintro c ⟨⟩
    rfl
  have hrun : (extract priceList priceSpec .lenient).run = .ok (priceList.contentOf priceSpec) :=
    lenient_ok_iff.2 ⟨priceList_accepts, rfl⟩
  exact ⟨normal_texts.2.2.2.1 _ _ hends hstarts, _, hrun,
    normal_texts.2.2.2.2 Id String Nat priceList priceSpec .lenient _ hrun⟩

end Extraction

end Gleaner
