import Gleaner.Markup.Document
import Gleaner.Proofs.Markup.Construct.Rules

/-! The tree of a document is sound, whatever its text. -/
namespace Gleaner.Markup

theorem Tree.node?_empty (n : NodeId) :
    ({} : Tree).node? n = none ∨ ({} : Tree).node? n = some { content := .document } := by
  cases hn : ({} : Tree).node? n with
  | none => exact .inl rfl
  | some node =>
    have hmem : node ∈ ({} : Tree).nodes := Array.mem_of_getElem? hn
    exact .inr (congrArg some (by simpa using hmem))

theorem Tree.sound_empty : ({} : Tree).Sound := by
  have hparent : ∀ n, ({} : Tree).parent? n = none := fun n => by
    rw [Tree.parent?]
    rcases node?_empty n with hn | hn <;> rw [hn] <;> rfl
  have hchildren : ∀ n, ({} : Tree).children n = #[] := fun n => by
    rw [Tree.children]
    rcases node?_empty n with hn | hn <;> rw [hn] <;> rfl
  have hname : ∀ n, ({} : Tree).name? n = none := fun n => by
    rw [Tree.name?]
    rcases node?_empty n with hn | hn <;> rw [hn] <;> rfl
  refine ⟨Nat.zero_lt_one, fun p c => ?_, fun p => ?_, acyclic_of_parent? fun a b hab => ?_,
    fun n hn => ?_⟩
  · simp [hparent, hchildren]
  · simp [hchildren]
  · rw [hparent] at hab
    cases hab
  · rw [hname] at hn
    cases hn

theorem Builder.coherent_initial : ({} : Builder).Coherent where
  sound := Tree.sound_empty
  isElement _ hn := by cases hn
  nested := .nil
  reopenable _ he := by cases he
  head_lt _ hn := by cases hn

namespace Reading

variable {r : Reading} {l : Lexer} {b : Builder}

theorem coherent_takeAll (h : b.Coherent) (tokens : List Token) :
    (takeAll l b tokens).builder.Coherent := by
  have hall : (tokens.foldl Builder.take b).Coherent := h.foldl (fun hb => hb.take) tokens
  unfold takeAll
  dsimp only
  split
  · exact hall
  · exact hall

theorem coherent_feed (h : r.builder.Coherent) (c : Char) : (r.feed c).builder.Coherent := by
  unfold feed
  dsimp only
  split
  · exact h
  · exact coherent_takeAll h _

/-- The invariant holds however much of the text has been read. -/
theorem coherent_read (h : r.builder.Coherent) (text : List Char) :
    (text.foldl feed r).builder.Coherent := by
  induction text generalizing r with
  | nil => exact h
  | cons c text ih => exact ih (coherent_feed h c)

theorem coherent_close (h : r.builder.Coherent) : r.close.Coherent :=
  h.foldl (fun hb => hb.take) _

end Reading

theorem Tree.sound_ofText (text : String) : (Tree.ofText text).Sound :=
  (Reading.coherent_close (Reading.coherent_read Builder.coherent_initial _)).sound

end Gleaner.Markup
