import Mathlib.Data.List.Forall2

/-! How a computation that may fail ends. The fault that it meets first is known as an option, so that
faults in order are a list of options of which the first one counts. -/
namespace Gleaner

variable {ε α β γ : Type}

/-- The computation fails with the fault if there is one, else it gives a value with the property. -/
inductive Ends (p : α → Prop) : Option ε → Except ε α → Prop
  | fault (e : ε) : Ends p (some e) (.error e)
  | value (a : α) (h : p a) : Ends p none (.ok a)

theorem findSome?_cons_eq_or (f : α → Option ε) (a : α) (l : List α) :
    (a :: l).findSome? f = (f a).or (l.findSome? f) := by
  cases h : f a <;> simp [h]

theorem findSome?_flatMap (f : β → Option ε) (g : α → List β) (l : List α) :
    (l.flatMap g).findSome? f = l.findSome? fun a => (g a).findSome? f := by
  induction l with
  | nil => rfl
  | cons a rest ih => rw [List.flatMap_cons, List.findSome?_append, ih, findSome?_cons_eq_or]

theorem findSome?_if (b : Bool) (f : α → Option ε) (l : List α) :
    (l.findSome? fun a => if b then f a else none) = if b then l.findSome? f else none := by
  cases b <;> simp

theorem findSome?_congr {f g : α → Option ε} {l : List α} (h : ∀ a ∈ l, f a = g a) :
    l.findSome? f = l.findSome? g := by
  induction l with
  | nil => rfl
  | cons a rest ih =>
    rw [findSome?_cons_eq_or, findSome?_cons_eq_or, h a List.mem_cons_self,
      ih fun b hb => h b (List.mem_cons_of_mem _ hb)]

theorem eq_map_of_forall₂ {f : α → β} {l : List α} {r : List β}
    (h : List.Forall₂ (fun a b => b = f a) l r) : r = l.map f := by
  induction h with
  | nil => rfl
  | cons hb _ ih => rw [hb, ih, List.map_cons]

namespace Ends

variable {p : α → Prop} {q : β → Prop} {o o' : Option ε}

theorem mono {p' : α → Prop} {x : Except ε α} (h : Ends p o x) (hp : ∀ a, p a → p' a) :
    Ends p' o x := by
  cases h with
  | fault e => exact .fault e
  | value a ha => exact .value a (hp a ha)

theorem error_iff {x : Except ε α} (h : Ends p o x) (e : ε) : x = .error e ↔ o = some e := by
  cases h with
  | fault e' => simp
  | value a ha => simp

theorem ok_iff {a : α} {x : Except ε α} (h : Ends (· = a) o x) (b : α) :
    x = .ok b ↔ o = none ∧ b = a := by
  cases h with
  | fault e => simp
  | value c hc => simp [hc, eq_comm]

/-- Faults of the first part hide those of the second. -/
theorem bind {x : ExceptT ε Id α} {f : α → ExceptT ε Id β} (hx : Ends p o x.run)
    (hf : ∀ a, p a → Ends q o' (f a).run) : Ends q (o.or o') (x >>= f).run := by
  change Ends p o x at hx
  cases hx with
  | fault e => exact .fault e
  | value a ha => exact hf a ha

/-- A second part without faults. -/
theorem bind_value {x : ExceptT ε Id α} {f : α → ExceptT ε Id β} (hx : Ends p o x.run)
    (hf : ∀ a, p a → Ends q none (f a).run) : Ends q o (x >>= f).run := by
  have h := hx.bind hf
  rwa [Option.or_none] at h

/-- A traversal ends with the first fault of its items, or with a list of values one for each. The
items may stand for others, in terms of which the faults are known. -/
theorem mapM₂ {r : γ → α → Prop} {s : γ → β → Prop} {o : γ → Option ε} {f : α → ExceptT ε Id β}
    {cs : List γ} {l : List α} (hl : List.Forall₂ r cs l)
    (h : ∀ c a, r c a → Ends (s c) (o c) (f a).run) :
    Ends (List.Forall₂ s cs) (cs.findSome? o) (l.mapM f).run := by
  induction hl with
  | nil => exact .value [] .nil
  | @cons c a cs l hca _ ih =>
    rw [List.mapM_cons, findSome?_cons_eq_or]
    refine bind (h c a hca) fun b hb => ?_
    exact ih.bind_value fun bs hbs => .value _ (.cons hb hbs)

theorem mapM {s : α → β → Prop} {o : α → Option ε} {f : α → ExceptT ε Id β} (l : List α)
    (h : ∀ a, Ends (s a) (o a) (f a).run) :
    Ends (List.Forall₂ s l) (l.findSome? o) (l.mapM f).run := by
  refine mapM₂ (List.forall₂_same.2 fun a _ => rfl) ?_
  rintro a _ rfl
  exact h a

end Ends

end Gleaner
