import Gleaner.Extraction.Html
import Gleaner.Proofs.Markup.Document

/-! What the queries of an HTML document give. Inside a scope the elements come in document order; in the
whole document they come in the order in which the parser made them, which is another one where it put an
element before others that it had made already. -/
namespace Gleaner.HtmlDocument

open Markup (NodeId)

variable {d : HtmlDocument} {s : List Selector.Complex} {scope : Option NodeId} {n x : NodeId}

theorem selectFirst_eq_head? : d.selectFirst s scope = (d.select s scope).head? :=
  List.head?_filter.symm

theorem mem_select_some_iff (h : d.tree.Sound) :
    x ∈ d.select s (some n) ↔
      d.tree.Below x n ∧ d.tree.isElement x ∧ d.matching s (some n) x := by
  rw [select, List.mem_filter, candidates, h.mem_descendants_iff, and_assoc]

theorem pairwise_select_some (h : d.tree.Sound) :
    (d.select s (some n)).Pairwise d.tree.Precedes :=
  h.pairwise_descendants.filter _

theorem mem_select_none_iff :
    x ∈ d.select s none ↔
      (d.tree.parent? x).isSome ∧ d.tree.isElement x ∧ d.matching s none x := by
  rw [select, List.mem_filter, candidates, List.mem_filter, List.mem_range, Bool.and_eq_true]
  constructor
  · rintro ⟨⟨-, he, hp⟩, hm⟩
    exact ⟨hp, he, hm⟩
  · rintro ⟨hp, he, hm⟩
    exact ⟨⟨Markup.Tree.lt_size_of_isElement he, he, hp⟩, hm⟩

theorem pairwise_select_none : (d.select s none).Pairwise (· < ·) :=
  (List.pairwise_lt_range.filter _).filter _

theorem pairwise_select_none_of_inPlace (h : d.tree.Sound) (hplace : d.tree.InPlace) :
    (d.select s none).Pairwise d.tree.Precedes := by
  refine pairwise_select_none.imp_of_mem fun {x y} _ hy hlt => ?_
  have hlive : d.tree.isElement y := (mem_select_none_iff.1 hy).2.1
  exact h.inPlace_iff.1 hplace x y hlt (Markup.Tree.lt_size_of_isElement hlive)

/-- Whatever the text, the selectors and the scope: no element is given twice, the first match is the
first of all matches, and the elements are those that the selectors match. With a scope they are below it
and come in document order. Without one they are those with a parent, the oldest first, and they come in
document order if the parser left every node where it stood when it was made, behind all others. -/
theorem select_in_order (text : String) (encoding : Charset.Encoding) (s : List Selector.Complex)
    (scope : Option NodeId) :
    let d : HtmlDocument := { tree := .ofText text, encoding }
    let found := d.select s scope
    d.selectFirst s scope = found.head? ∧ found.Nodup ∧
      match scope with
      | some n =>
          found.Pairwise d.tree.Precedes ∧ n ∉ found ∧
            ∀ x, x ∈ found ↔ d.tree.Below x n ∧ d.tree.isElement x ∧ d.matching s scope x
      | none =>
          found.Pairwise (· < ·) ∧
            (∀ x, x ∈ found ↔
              (d.tree.parent? x).isSome ∧ d.tree.isElement x ∧ d.matching s scope x) ∧
            (d.tree.InPlace → found.Pairwise d.tree.Precedes) := by
  intro d found
  have h : d.tree.Sound := Markup.Tree.sound_ofText text
  cases scope with
  | some n =>
    have hordered : found.Pairwise d.tree.Precedes := pairwise_select_some h
    refine ⟨selectFirst_eq_head?, hordered.imp fun hxy heq => ?_, hordered, fun hn => ?_,
      fun x => mem_select_some_iff h⟩
    · exact h.precedes_irrefl (heq ▸ hxy)
    · exact h.acyclic n ((mem_select_some_iff h).1 hn).1
  | none =>
    have hcreated : found.Pairwise (· < ·) := pairwise_select_none
    exact ⟨selectFirst_eq_head?, hcreated.imp Nat.ne_of_lt, hcreated,
      fun x => mem_select_none_iff, pairwise_select_none_of_inPlace h⟩

/-- A paragraph, its text and the parts of the document around them are made in document order. -/
example : (Markup.Tree.ofText "<p>x").InPlace := by
  have hsize : (Markup.Tree.ofText "<p>x").size = 6 := by decide +kernel
  have hparent : ∀ n < 5, (Markup.Tree.ofText "<p>x").parent? (n + 1) = some n ∨
      ∃ p < 6, (Markup.Tree.ofText "<p>x").parent? (n + 1) = some p ∧
        (Markup.Tree.ofText "<p>x").parent? n = some p := by decide +kernel
  have hchildren : ∀ p < 6, ((Markup.Tree.ofText "<p>x").children p).toList.Pairwise (· < ·) := by
    decide +kernel
  refine ⟨by decide +kernel, fun n hn => ?_, fun p => ?_⟩
  · rw [hsize] at hn
    rcases hparent n (Nat.lt_of_succ_lt_succ hn) with hc | ⟨p, -, hc, hp⟩
    · exact ⟨n, hc, .refl⟩
    · exact ⟨p, hc, .single hp⟩
  · rcases Nat.lt_or_ge p 6 with hp | hp
    · exact hchildren p hp
    · rw [Markup.Tree.children_eq_empty (hsize ▸ hp)]
      exact List.Pairwise.nil

/-- A paragraph in a table is put before the table, which is older. -/
theorem select_in_order_of_creation :
    let d := HtmlDocument.ofText "<table><p>x</table>"
    ∃ s, HtmlDocument.compile "table, p" = .ok s ∧ d.select s none = [4, 5] ∧
      d.tree.Precedes 5 4 ∧ ¬ (d.select s none).Pairwise d.tree.Precedes := by
  intro d
  have hordered : d.tree.Precedes 5 4 :=
    .inr ⟨3, 5, 4, by decide +kernel, .refl, .refl⟩
  have hfound : (compile "table, p").toOption.map (d.select · none) = some [4, 5] := by
    decide +kernel
  obtain ⟨s, hs, hselect⟩ := Option.map_eq_some_iff.1 hfound
  refine ⟨s, ?_, hselect, hordered, fun hpairwise => ?_⟩
  · generalize compile "table, p" = result at hs ⊢
    cases result with
    | error q => cases hs
    | ok s' => rw [Option.some.inj hs]
  · rw [hselect, List.pairwise_pair] at hpairwise
    exact (Markup.Tree.sound_ofText _).precedes_asymm hordered hpairwise

end Gleaner.HtmlDocument
