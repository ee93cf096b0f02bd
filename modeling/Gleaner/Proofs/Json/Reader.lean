import Mathlib.Data.List.TakeWhile
import Gleaner.Json.Decode

/-! How reading succeeds. For each building block of a reader: when it returns a value and what it leaves
of the text. Positions only matter for the messages of failures, so they are left open. -/
namespace Gleaner.Json

def Blanks (w : List UInt8) : Prop := ∀ b ∈ w, isBlankByte b = true

/-- The text does not begin with a blank. -/
def Solid (s : List UInt8) : Prop := ∀ b, s.head? = some b → isBlankByte b = false

theorem Blanks.nil : Blanks [] := fun _ h => absurd h List.not_mem_nil

theorem Blanks.append {w x : List UInt8} (hw : Blanks w) (hx : Blanks x) : Blanks (w ++ x) := by
  intro b hb
  rcases List.mem_append.1 hb with hb | hb
  · exact hw b hb
  · exact hx b hb

theorem Blanks.dropWhile_append {w s : List UInt8} (hw : Blanks w) (hs : Solid s) :
    (w ++ s).dropWhile isBlankByte = s := by
  rw [List.dropWhile_append_of_pos hw]
  cases s with
  | nil => rfl
  | cons b s => rw [List.dropWhile_cons_of_neg (by simp [hs b rfl])]

theorem blanks_takeWhile (s : List UInt8) : Blanks (s.takeWhile isBlankByte) :=
  fun _ hb => List.mem_takeWhile_imp hb

theorem solid_dropWhile (s : List UInt8) : Solid (s.dropWhile isBlankByte) := by
  intro b hb
  have h := List.head?_dropWhile_not isBlankByte s
  rw [hb] at h
  simpa using h

theorem solid_cons {b : UInt8} {s : List UInt8} (h : isBlankByte b = false) : Solid (b :: s) := by
  intro d hd
  cases hd
  exact h

namespace Cursor

theorem rest_skipBlanksFrom (s : List UInt8) (p : Position) :
    (skipBlanksFrom s p).rest = s.dropWhile isBlankByte := by
  induction s generalizing p with
  | nil => rfl
  | cons b s ih =>
    cases hb : isBlankByte b with
    | true => simp [skipBlanksFrom, hb, ih]
    | false => simp [skipBlanksFrom, hb]

theorem rest_advance (c : Cursor) : c.advance.rest = c.rest.tail := by
  obtain ⟨s, p⟩ := c
  cases s <;> rfl

end Cursor

namespace Reader

variable {α β : Type}

/-- The reader gives the value for a text at some position and leaves the rest. -/
def Gives (r : Reader α) (s : List UInt8) (a : α) (s' : List UInt8) : Prop :=
  ∃ p p', r ⟨s, p⟩ = .ok a ⟨s', p'⟩

/-- The reader gives the value for a text at every position and leaves the rest. -/
def Takes (r : Reader α) (s : List UInt8) (a : α) (s' : List UInt8) : Prop :=
  ∀ p, ∃ p', r ⟨s, p⟩ = .ok a ⟨s', p'⟩

theorem Takes.gives {r : Reader α} {s s' : List UInt8} {a : α} (h : Takes r s a s') :
    Gives r s a s' := by
  obtain ⟨p', hp⟩ := h {}
  exact ⟨{}, p', hp⟩

/-- A reader that takes a text does nothing else with it. -/
theorem Takes.unique {r : Reader α} {s m m' : List UInt8} {a a' : α} (h : Takes r s a m)
    (h' : Gives r s a' m') : a' = a ∧ m' = m := by
  obtain ⟨p, p', h'⟩ := h'
  obtain ⟨q, hq⟩ := h p
  rw [hq] at h'
  cases h'
  exact ⟨rfl, rfl⟩

/-- The reader fails at the text for this reason, at every position. -/
def Refuses (r : Reader α) (s : List UInt8) (f : SyntaxFault) : Prop :=
  ∀ p, ∃ e c, r ⟨s, p⟩ = .error e c ∧ e.problem = .inSyntax f

theorem Refuses.not_gives {r : Reader α} {s s' : List UInt8} {a : α} {f : SyntaxFault}
    (h : Refuses r s f) : ¬ Gives r s a s' := by
  rintro ⟨p, p', hr⟩
  obtain ⟨e, c, he, -⟩ := h p
  cases he.symm.trans hr

theorem Refuses.bind {r : Reader α} {s : List UInt8} {f : SyntaxFault} (h : Refuses r s f)
    (g : α → Reader β) : Refuses (r >>= g) s f := by
  intro p
  obtain ⟨e, c, he, hf⟩ := h p
  refine ⟨e, c, ?_, hf⟩
  change EStateM.bind r g ⟨s, p⟩ = _
  unfold EStateM.bind
  rw [he]

theorem Refuses.map {r : Reader α} {s : List UInt8} {f : SyntaxFault} (h : Refuses r s f)
    (g : α → β) : Refuses (g <$> r) s f := by
  rw [map_eq_pure_bind]
  exact h.bind _

theorem refuses_fail (s : List UInt8) (f : SyntaxFault) : Refuses (fail f : Reader α) s f :=
  fun _ => ⟨_, _, rfl, rfl⟩

/-- Reading the text comes to reading the rest in the other way. -/
def Leads (r r' : Reader α) (s s' : List UInt8) : Prop := ∀ p, ∃ p', r ⟨s, p⟩ = r' ⟨s', p'⟩

namespace Leads

variable {r r' : Reader α} {s s' m : List UInt8} {a : α}

theorem refl (r : Reader α) (s : List UInt8) : Leads r r s s := fun p => ⟨p, rfl⟩

theorem trans {r'' : Reader α} {s'' : List UInt8} (h : Leads r r' s s') (h' : Leads r' r'' s' s'') :
    Leads r r'' s s'' := by
  intro p
  obtain ⟨q, hq⟩ := h p
  obtain ⟨p', hp'⟩ := h' q
  exact ⟨p', hq.trans hp'⟩

theorem gives (h : Leads r r' s s') (hr : Gives r s a m) : Gives r' s' a m := by
  obtain ⟨p, p', hr⟩ := hr
  obtain ⟨q, hq⟩ := h p
  exact ⟨q, p', hq.symm.trans hr⟩

theorem takes (h : Leads r r' s s') (hr : Takes r' s' a m) : Takes r s a m := by
  intro p
  obtain ⟨q, hq⟩ := h p
  obtain ⟨p', hp'⟩ := hr q
  exact ⟨p', hq.trans hp'⟩

theorem bind (h : Leads r r' s s') (f : α → Reader β) : Leads (r >>= f) (r' >>= f) s s' := by
  intro p
  obtain ⟨q, hq⟩ := h p
  refine ⟨q, ?_⟩
  change EStateM.bind r f ⟨s, p⟩ = EStateM.bind r' f ⟨s', q⟩
  unfold EStateM.bind
  rw [hq]

theorem refuses {f : SyntaxFault} (h : Leads r r' s s') (hr : Refuses r' s' f) : Refuses r s f := by
  intro p
  obtain ⟨q, hq⟩ := h p
  obtain ⟨e, c, he, hf⟩ := hr q
  exact ⟨e, c, hq.trans he, hf⟩

end Leads

/-! Readers that gave a value, taken apart. -/

namespace Gives

variable {s s' : List UInt8} {a : α} {b : β}

theorem bind {r : Reader α} {f : α → Reader β} (h : Gives (r >>= f) s b s') :
    ∃ a m, Gives r s a m ∧ Gives (f a) m b s' := by
  obtain ⟨p, p', h⟩ := h
  change EStateM.bind r f ⟨s, p⟩ = _ at h
  unfold EStateM.bind at h
  cases hr : r ⟨s, p⟩ with
  | ok a c =>
    rw [hr] at h
    exact ⟨a, c.rest, ⟨p, c.position, hr⟩, ⟨c.position, p', h⟩⟩
  | error e c =>
    rw [hr] at h
    cases h

theorem pure {a' : α} (h : Gives (Pure.pure a : Reader α) s a' s') : a' = a ∧ s' = s := by
  obtain ⟨p, p', h⟩ := h
  cases h
  exact ⟨rfl, rfl⟩

theorem map {f : α → β} {r : Reader α} (h : Gives (f <$> r) s b s') :
    ∃ a, Gives r s a s' ∧ b = f a := by
  rw [map_eq_pure_bind] at h
  obtain ⟨a, m, hr, h⟩ := h.bind
  obtain ⟨rfl, rfl⟩ := h.pure
  exact ⟨a, hr, rfl⟩

theorem fail {f : SyntaxFault} (h : Gives (Reader.fail f) s a s') : False := by
  obtain ⟨p, p', h⟩ := h
  cases h

theorem failNext {f : SyntaxFault} (h : Gives (Reader.failNext f) s a s') : False := by
  obtain ⟨p, p', h⟩ := h
  cases h

theorem refuse {f : DataFault} (h : Gives (Reader.refuse f) s a s') : False := by
  obtain ⟨p, p', h⟩ := h
  cases h

theorem peek {o : Option UInt8} (h : Gives Reader.peek s o s') : o = s.head? ∧ s' = s := by
  obtain ⟨p, p', h⟩ := h
  cases h
  exact ⟨rfl, rfl⟩

theorem advance {u : Unit} (h : Gives Reader.advance s u s') : s' = s.tail := by
  obtain ⟨p, p', h⟩ := h
  have hrest := Cursor.rest_advance ⟨s, p⟩
  rw [(EStateM.Result.ok.inj h).2] at hrest
  exact hrest

theorem next {o : Option UInt8} (h : Gives Reader.next s o s') : o = s.head? ∧ s' = s.tail := by
  obtain ⟨p, p', h⟩ := h
  obtain ⟨ho, hc⟩ := EStateM.Result.ok.inj h
  have hrest := Cursor.rest_advance ⟨s, p⟩
  rw [hc] at hrest
  exact ⟨ho.symm, hrest⟩

theorem token {o : Option UInt8} (h : Gives Reader.token s o s') :
    ∃ w, Blanks w ∧ s = w ++ s' ∧ Solid s' ∧ o = s'.head? := by
  obtain ⟨p, p', h⟩ := h
  obtain ⟨ho, hc⟩ := EStateM.Result.ok.inj h
  have hrest := Cursor.rest_skipBlanksFrom s p
  have hskip : Cursor.skipBlanksFrom s p = ⟨s', p'⟩ := hc
  rw [hskip] at hrest
  change s' = s.dropWhile isBlankByte at hrest
  refine ⟨s.takeWhile isBlankByte, blanks_takeWhile s, ?_, hrest ▸ solid_dropWhile s, ?_⟩
  · rw [hrest, List.takeWhile_append_dropWhile]
  · rw [← ho, hc]

theorem remaining {n : Nat} (h : Gives Reader.remaining s n s') : n = s.length ∧ s' = s := by
  obtain ⟨p, p', h⟩ := h
  cases h
  exact ⟨rfl, rfl⟩

theorem placed {r : Reader α} (h : Gives (Reader.placed r) s a s') : Gives r s a s' := by
  obtain ⟨p, p', h⟩ := h
  refine ⟨p, p', ?_⟩
  unfold Reader.placed at h
  split at h
  · cases h
  · exact h

theorem under {g : Segment} {r : Reader α} (h : Gives (Reader.under g r) s a s') :
    Gives r s a s' := by
  obtain ⟨p, p', h⟩ := h
  refine ⟨p, p', ?_⟩
  unfold Reader.under at h
  split at h
  · cases h
  · exact h

theorem closedBy {contents : Reader α} {close : Reader Unit}
    (h : Gives (Reader.closedBy contents close) s a s') :
    ∃ m, Gives contents s a m ∧ Gives close m () s' := by
  obtain ⟨p, p', h⟩ := h
  unfold Reader.closedBy at h
  cases hcontents : contents ⟨s, p⟩ with
  | ok a' c =>
    cases hclose : close c with
    | ok u c' =>
      simp only [hcontents, hclose] at h
      cases h
      exact ⟨c.rest, ⟨p, c.position, hcontents⟩, ⟨c.position, p', hclose⟩⟩
    | error e c' => simp only [hcontents, hclose, reduceCtorEq] at h
  | error e c =>
    cases hclose : close c <;> simp only [hcontents, hclose, reduceCtorEq] at h

theorem nested {depth : Nat} {r : Nat → Reader α} (h : Gives (Reader.nested depth r) s a s') :
    ∃ d, depth = d + 2 ∧ Gives (r (d + 1)) s.tail a s' := by
  unfold Reader.nested at h
  split at h
  · exact h.failNext.elim
  · exact h.failNext.elim
  · next d hd =>
    obtain ⟨_, m, hadvance, h⟩ := h.bind
    cases hadvance.advance
    cases d with
    | zero => exact absurd rfl hd
    | succ d => exact ⟨d, rfl, h⟩

end Gives

/-! Readers that will give a value, put together. -/

namespace Takes

variable {s m s' : List UInt8} {a : α} {b : β}

theorem leads {r : Reader α} (f : α → Reader β) (hr : Takes r s a m) : Leads (r >>= f) (f a) s m := by
  intro p
  obtain ⟨q, hq⟩ := hr p
  refine ⟨q, ?_⟩
  change EStateM.bind r f ⟨s, p⟩ = _
  unfold EStateM.bind
  rw [hq]

theorem bind {r : Reader α} {f : α → Reader β} (hr : Takes r s a m) (hf : Takes (f a) m b s') :
    Takes (r >>= f) s b s' :=
  (hr.leads f).takes hf

theorem pure (a : α) (s : List UInt8) : Takes (Pure.pure a : Reader α) s a s :=
  fun p => ⟨p, rfl⟩

theorem map {r : Reader α} (f : α → β) (hr : Takes r s a s') : Takes (f <$> r) s (f a) s' := by
  rw [map_eq_pure_bind]
  exact hr.bind (.pure _ _)

theorem peek (s : List UInt8) : Takes Reader.peek s s.head? s := fun p => ⟨p, rfl⟩

theorem advance (b : UInt8) (s : List UInt8) : Takes Reader.advance (b :: s) () s :=
  fun p => ⟨p.after b, rfl⟩

theorem next (b : UInt8) (s : List UInt8) : Takes Reader.next (b :: s) (some b) s :=
  fun p => ⟨p.after b, rfl⟩

theorem remaining (s : List UInt8) : Takes Reader.remaining s s.length s := fun p => ⟨p, rfl⟩

theorem token {w : List UInt8} (hw : Blanks w) (hs : Solid s) :
    Takes Reader.token (w ++ s) s.head? s := by
  intro p
  have hrest := Cursor.rest_skipBlanksFrom (w ++ s) p
  rw [hw.dropWhile_append hs] at hrest
  cases hc : Cursor.skipBlanksFrom (w ++ s) p with
  | mk m p' =>
    rw [hc] at hrest
    cases hrest
    refine ⟨p', ?_⟩
    simp only [Reader.token, Cursor.skipBlanks, hc]

theorem placed {r : Reader α} (h : Takes r s a s') : Takes (Reader.placed r) s a s' := by
  intro p
  obtain ⟨p', hp⟩ := h p
  exact ⟨p', by simp only [Reader.placed, hp]⟩

theorem under {r : Reader α} (g : Segment) (h : Takes r s a s') :
    Takes (Reader.under g r) s a s' := by
  intro p
  obtain ⟨p', hp⟩ := h p
  exact ⟨p', by simp only [Reader.under, hp]⟩

theorem closedBy {contents : Reader α} {close : Reader Unit} (hcontents : Takes contents s a m)
    (hclose : Takes close m () s') : Takes (Reader.closedBy contents close) s a s' := by
  intro p
  obtain ⟨q, hq⟩ := hcontents p
  obtain ⟨p', hp⟩ := hclose q
  exact ⟨p', by simp only [Reader.closedBy, hq, hp]⟩

theorem nested {d : Nat} {r : Nat → Reader α} (b : UInt8) (h : Takes (r (d + 1)) s a s') :
    Takes (Reader.nested (d + 2) r) (b :: s) a s' :=
  (advance b s).bind h

end Takes

end Reader

end Gleaner.Json
