import Gleaner.Markup.Construct.Insert
import Gleaner.Proofs.Markup.Tree.Order

/-! Moving a node keeps a tree sound as long as the node is not moved into itself, and leaves everything
that is not in the node where it stands. -/
namespace Gleaner.Markup

namespace Tree

variable {t t' : Tree} {n p q c d s x y : NodeId}

/-- The second tree is the first one with `c` moved to some place among the children of `q`. -/
structure Moved (t t' : Tree) (c q : NodeId) : Prop where
  size : t'.size = t.size
  name? : ∀ m, t'.name? m = t.name? m
  parent? : ∀ m, t'.parent? m = if m = c then some q else t.parent? m
  children : ∀ m, (t'.children m).toList.Perm
    (if m = q then c :: (t.children m).toList.filter (· != c)
      else (t.children m).toList.filter (· != c))
  first : ∀ m f, (t.children m)[0]? = some f → f ≠ c → t.name? f = none →
    (t'.children m)[0]? = some f

/-- A way up after the move goes up as before, or goes up to `c` and then from `q`. -/
theorem Moved.within_cases (hm : Moved t t' c q) (hx : t'.Within x y) :
    t.Within x y ∨ t.Within x c ∧ t.Within q y := by
  induction hx with
  | refl => exact .inl .refl
  | tail _ hb ih =>
    rw [hm.parent?] at hb
    split at hb
    · next hbc =>
      obtain rfl := Option.some.inj hb
      subst hbc
      rcases ih with ih | ⟨ih, -⟩
      · exact .inr ⟨ih, .refl⟩
      · exact .inr ⟨ih, .refl⟩
    · rcases ih with ih | ⟨ih, ih'⟩
      · exact .inl (ih.step hb)
      · exact .inr ⟨ih, ih'.step hb⟩

theorem SameShape.within_iff (hs : SameShape t t') : t'.Within x y ↔ t.Within x y := by
  unfold Within
  simp only [hs.parent?]

theorem parent?_of_detach (h : (t.detach n).parent? c = some p) : t.parent? c = some p := by
  rw [parent?_detach] at h
  split at h
  · cases h
  · exact h

theorem within_of_detach (h : (t.detach n).Within x y) : t.Within x y :=
  Relation.ReflTransGen.mono (fun _ _ => parent?_of_detach) _ _ h

/-- No template begins with `n`. -/
def NotFirst (t : Tree) (n : NodeId) : Prop :=
  ∀ z, t.name? z = some (.html, "template") → (t.children z)[0]? ≠ some n

theorem acyclic_of_parent? (h : ∀ a b, t.parent? a = some b → ¬ t.Within b a) (n : NodeId) :
    ¬ t.Below n n := by
  intro hn
  obtain ⟨c, hc, hnc⟩ := below_iff.1 hn
  exact h c n hc hnc

namespace Sound

variable (h : t.Sound)

include h

theorem notFirst_of_isElement (hc : t.isElement c) : t.NotFirst c := by
  intro z hz hfirst
  obtain ⟨f, hf, hname⟩ := h.template z hz
  rw [hf] at hfirst
  obtain rfl := Option.some.inj hfirst
  rw [isElement_eq, hname] at hc
  cases hc

theorem parent?_of_first (hf : (t.children n)[0]? = some c) : t.parent? c = some n :=
  (h.mem_children n c).1 (Array.mem_of_getElem? hf)

theorem notFirst_of_parent? (hc : ∀ z, t.parent? c = some z → t.name? z ≠ some (.html, "template")) :
    t.NotFirst c :=
  fun z hz hfirst => hc z (h.parent?_of_first hfirst) hz

theorem notFirst_of_loose (hc : t.parent? c = none) : t.NotFirst c :=
  h.notFirst_of_parent? fun z hz => by
    rw [hc] at hz
    cases hz

theorem moved (hm : Moved t t' c q) (hq : ¬ t.Within q c) (hfirst : t.NotFirst c) : t'.Sound where
  size_pos := hm.size ▸ h.size_pos
  mem_children p a := by
    have hmem : a ∈ (t.children p).toList.filter (· != c) ↔ a ≠ c ∧ t.parent? a = some p := by
      rw [List.mem_filter, Array.mem_toList_iff, h.mem_children, bne_iff_ne, and_comm]
    rw [← Array.mem_toList_iff, (hm.children p).mem_iff, hm.parent?]
    by_cases hac : a = c
    · subst hac
      by_cases hpq : p = q
      · simp [hpq]
      · simp [hpq, Ne.symm hpq]
    · split <;> simp [hmem, hac]
  nodup p := by
    rw [(hm.children p).nodup_iff]
    have hnodup := (h.nodup p).filter (· != c)
    split
    · exact List.nodup_cons.2 ⟨by simp, hnodup⟩
    · exact hnodup
  acyclic := by
    refine acyclic_of_parent? fun a b hab hba => ?_
    rw [hm.parent?] at hab
    split at hab
    · next hac =>
      subst hac
      obtain rfl := Option.some.inj hab
      rcases hm.within_cases hba with hba | ⟨hba, -⟩ <;> exact hq hba
    · rcases hm.within_cases hba with hba | ⟨hbc, hqa⟩
      · exact h.not_within (.single hab) hba
      · exact hq ((hqa.step hab).trans hbc)
  template n hn := by
    rw [hm.name?] at hn
    obtain ⟨f, hf, hname⟩ := h.template n hn
    refine ⟨f, hm.first n f hf ?_ hname, by rw [hm.name?, hname]⟩
    rintro rfl
    exact hfirst n hn hf

theorem children_detach_of_sound (m : NodeId) :
    ((t.detach n).children m).toList = (t.children m).toList.filter (· != n) :=
  children_detach fun p => h.mem_children p n

/-- The first child stays the first one when another one is taken out. -/
theorem first_detach (hf : (t.children n)[0]? = some c) (hne : c ≠ d) :
    ∃ l, ((t.detach d).children n).toList = c :: l := by
  rw [h.children_detach_of_sound]
  rw [← Array.getElem?_toList] at hf
  cases hl : (t.children n).toList with
  | nil => rw [hl] at hf; cases hf
  | cons a l =>
    rw [hl] at hf
    obtain rfl := Option.some.inj hf
    exact ⟨l.filter (· != d), List.filter_cons_of_pos (bne_iff_ne.2 hne)⟩

theorem moved_append (hc : c < t.size) (hq : q < t.size) : Moved t (t.append q c) c q where
  size := size_append
  name? _ := name?_append
  parent? _ := parent?_append hc
  children m := by
    rw [children_append hq]
    split
    · next hm =>
      rw [Array.toList_push, h.children_detach_of_sound, hm]
      exact List.perm_append_singleton ..
    · rw [h.children_detach_of_sound]
  first m f hf hne hname := by
    obtain ⟨l, hl⟩ := h.first_detach hf hne
    rw [children_append hq, ← Array.getElem?_toList]
    split
    · next hm => rw [Array.toList_push, ← hm, hl]; rfl
    · rw [hl]; rfl

theorem moved_insertBefore (hc : c < t.size) (hs : t.isElement s) (hsc : s ≠ c)
    (hq : t.parent? s = some q) : Moved t (t.insertBefore s c) c q := by
  have hlt : q < t.size := h.lt_size_of_child hq
  refine ⟨size_insertBefore hsc hq, fun _ => name?_insertBefore hsc hq,
    fun _ => parent?_insertBefore hsc hq hc, fun m => ?_, fun m f hf hne hname => ?_⟩
  · rw [children_insertBefore hsc hq hlt]
    split
    · next hm =>
      have hmem : s ∈ (t.children q).toList.filter (· != c) := by
        rw [List.mem_filter, Array.mem_toList_iff, h.mem_children]
        exact ⟨hq, bne_iff_ne.2 hsc⟩
      rw [toList_withBefore, h.children_detach_of_sound, hm]
      exact perm_flatMap_middle ((h.nodup q).filter _) hmem
    · rw [h.children_detach_of_sound]
  · obtain ⟨l, hl⟩ := h.first_detach hf hne
    rw [children_insertBefore hsc hq hlt, ← Array.getElem?_toList]
    split
    · next hm =>
      have hfs : f ≠ s := by
        rintro rfl
        rw [isElement_eq, hname] at hs
        cases hs
      rw [toList_withBefore, ← hm, hl, List.flatMap_cons, if_neg hfs]
      rfl
    · rw [hl]; rfl

theorem sameShape (hs : SameShape t t') : t'.Sound where
  size_pos := hs.size ▸ h.size_pos
  mem_children p c := by rw [hs.children, hs.parent?, h.mem_children]
  nodup p := by rw [hs.children]; exact h.nodup p
  acyclic := by
    refine acyclic_of_parent? fun a b hab hba => ?_
    rw [hs.parent?] at hab
    exact h.not_within (.single hab) ((hs.within_iff).1 hba)
  template n hn := by
    simp only [hs.name?, hs.children] at hn ⊢
    exact h.template n hn

theorem detach (hfirst : t.NotFirst c) : (t.detach c).Sound where
  size_pos := by rw [size_detach]; exact h.size_pos
  mem_children p a := by
    rw [← Array.mem_toList_iff, h.children_detach_of_sound, List.mem_filter, Array.mem_toList_iff,
      h.mem_children, parent?_detach, bne_iff_ne]
    split
    · next hac => simp [hac]
    · next hac => simp [hac]
  nodup p := by
    rw [h.children_detach_of_sound]
    exact (h.nodup p).filter _
  acyclic := by
    refine acyclic_of_parent? fun a b hab hba => ?_
    exact h.not_within (.single (parent?_of_detach hab)) (within_of_detach hba)
  template n hn := by
    rw [name?_detach] at hn
    obtain ⟨f, hf, hname⟩ := h.template n hn
    have hne : f ≠ c := by
      rintro rfl
      exact hfirst n hn hf
    obtain ⟨l, hl⟩ := h.first_detach hf hne
    refine ⟨f, ?_, by rw [name?_detach, hname]⟩
    rw [← Array.getElem?_toList, hl]
    rfl

end Sound

/-! New nodes stand apart from the old ones until they are put somewhere. -/

/-- No parent link joins a node that is older than `n` to one that is not. -/
def Apart (t : Tree) (n : NodeId) : Prop :=
  ∀ a b, t.parent? a = some b → (a < n ↔ b < n)

/-- The node `n` stands nowhere, and neither it nor a newer one has to do with an older one. -/
structure Fresh (t : Tree) (n : NodeId) : Prop where
  lt_size : n < t.size
  parent? : t.parent? n = none
  apart : t.Apart n

/-- The second tree has a new node, numbered next, and the old nodes are as they were. -/
structure Grown (t t' : Tree) : Prop where
  name? : ∀ m < t.size, t'.name? m = t.name? m
  parent? : ∀ m < t.size, t'.parent? m = t.parent? m
  fresh : t'.Fresh t.size

theorem Fresh.lt_of_within (hn : t.Fresh n) (h : t.Within x y) (hx : x < n) : y < n := by
  induction h with
  | refl => exact hx
  | tail _ hb ih => exact (hn.apart _ _ hb).1 ih

theorem Fresh.not_within (hn : t.Fresh n) (hx : x < n) : ¬ t.Within x n :=
  fun h => Nat.lt_irrefl n (hn.lt_of_within h hx)

theorem not_below_of_parent? (hn : t.parent? n = none) : ¬ t.Below n y := by
  intro h
  obtain ⟨q, hq, -⟩ := Relation.TransGen.head'_iff.1 h
  rw [hn] at hq
  cases hq

theorem eq_of_within_of_parent? (hn : t.parent? n = none) (h : t.Within n y) : n = y :=
  (within_iff.1 h).resolve_right (not_below_of_parent? hn)

namespace Grown

theorem size_lt (hg : Grown t t') : t.size < t'.size := hg.fresh.lt_size

theorem within (hg : Grown t t') (hx : x < t.size) (h : t'.Within x y) : t.Within x y := by
  induction h with
  | refl => exact .refl
  | @tail b c hb hc ih =>
    have hb' : b < t.size := hg.fresh.lt_of_within hb hx
    rw [hg.parent? b hb'] at hc
    exact ih.step hc

end Grown

namespace Sound

variable (h : t.Sound)

include h

theorem apart_size : t.Apart t.size := fun _ _ hab =>
  iff_of_true (lt_size_of_parent? hab) (h.lt_size_of_child hab)

theorem grown_create (content : Content) : Grown t (t.create content).1 where
  name? m hm := by rw [name?_create, if_neg (Nat.ne_of_lt hm)]
  parent? _ _ := parent?_create
  fresh :=
    { lt_size := by simp
      parent? := by
        rw [parent?_create, parent?_eq_none (Nat.le_refl _)]
      apart := fun a b hab => by
        rw [parent?_create] at hab
        exact h.apart_size a b hab }

theorem create {content : Content} (hc : ({ content : Node }).name? ≠ some (.html, "template")) :
    (t.create content).1.Sound where
  size_pos := by simp
  mem_children p c := by rw [children_create, parent?_create, h.mem_children]
  nodup p := by rw [children_create]; exact h.nodup p
  acyclic := by
    refine acyclic_of_parent? fun a b hab hba => ?_
    rw [parent?_create] at hab
    exact h.not_within (.single hab)
      ((h.grown_create content).within (h.lt_size_of_child hab) hba)
  template n hn := by
    rw [name?_create] at hn
    split at hn
    · exact (hc hn).elim
    · obtain ⟨f, hf, hname⟩ := h.template n hn
      have hlt : f ≠ t.size := Nat.ne_of_lt (lt_size_of_parent? (h.parent?_of_first hf))
      exact ⟨f, by rw [children_create, hf], by rw [name?_create, if_neg hlt, hname]⟩

variable {e : Element}

theorem grown_createElement : Grown t (t.createElement e).1 := by
  by_cases he : e.space = .html ∧ e.name = "template"
  · have hne : ∀ m < t.size, m ≠ t.size + 1 := fun m hm => Nat.ne_of_lt (Nat.lt_succ_of_lt hm)
    refine ⟨fun m hm => ?_, fun m hm => ?_, ?_, ?_, fun a b hab => ?_⟩
    · rw [name?_createTemplate he, if_neg (hne m hm), if_neg (Nat.ne_of_lt hm)]
    · rw [parent?_createTemplate he, if_neg (hne m hm)]
    · rw [size_createTemplate he]
      exact Nat.lt_add_of_pos_right (by decide)
    · rw [parent?_createTemplate he, if_neg (Nat.ne_of_lt (Nat.lt_succ_self _)),
        parent?_eq_none (Nat.le_refl _)]
    · rw [parent?_createTemplate he] at hab
      split at hab
      · next ha =>
        obtain rfl := Option.some.inj hab
        rw [ha]
        exact iff_of_false (Nat.not_lt.2 (Nat.le_succ _)) (Nat.lt_irrefl _)
      · exact h.apart_size a b hab
  · rw [createElement_of_ne he]
    exact h.grown_create _

theorem createTemplate (he : e.space = .html ∧ e.name = "template") :
    (t.createElement e).1.Sound := by
  have hnone : ∀ p, t.parent? (t.size + 1) ≠ some p := fun p hp =>
    absurd (lt_size_of_parent? hp) (Nat.not_lt.2 (Nat.le_succ _))
  have hchildless : ∀ c, t.parent? c ≠ some t.size := fun c hc =>
    Nat.lt_irrefl _ (h.lt_size_of_child hc)
  refine ⟨?_, fun p c => ?_, fun p => ?_, acyclic_of_parent? fun a b hab hba => ?_, fun n hn => ?_⟩
  · rw [size_createTemplate he]
    exact Nat.succ_pos _
  · rw [children_createTemplate he, parent?_createTemplate he]
    by_cases hp : p = t.size <;> by_cases hc : c = t.size + 1
    · simp [hp, hc]
    · simp [hp, hc, hchildless]
    · simp [hp, hc, Ne.symm hp, h.mem_children, hnone]
    · simp [hp, hc, h.mem_children]
  · rw [children_createTemplate he]
    split
    · exact List.nodup_singleton _
    · exact h.nodup p
  · rw [parent?_createTemplate he] at hab
    split at hab
    · -- The fragment stands in the new element, which stands nowhere.
      obtain rfl := Option.some.inj hab
      have heq := eq_of_within_of_parent? h.grown_createElement.fresh.parent? hba
      exact absurd (heq.trans ‹_›) (Nat.ne_of_lt (Nat.lt_succ_self _))
    · exact h.not_within (.single hab) (h.grown_createElement.within (h.lt_size_of_child hab) hba)
  · rw [name?_createTemplate he] at hn
    split at hn
    · cases hn
    · next hne =>
      rw [children_createTemplate he]
      split at hn
      · next heq =>
        refine ⟨t.size + 1, by rw [if_pos heq]; rfl, ?_⟩
        rw [name?_createTemplate he, if_pos rfl]
      · next hold =>
        obtain ⟨f, hf, hname⟩ := h.template n hn
        have hlt : f < t.size := lt_size_of_parent? (h.parent?_of_first hf)
        refine ⟨f, by rw [if_neg hold, hf], ?_⟩
        rw [h.grown_createElement.name? f hlt, hname]

theorem createPlain (he : ¬ (e.space = .html ∧ e.name = "template")) :
    (t.create (.element e)).1.Sound := by
  refine h.create fun hname => he ?_
  simp only [Node.name?, Option.some.injEq, Prod.mk.injEq] at hname
  exact hname

theorem createElement : (t.createElement e).1.Sound := by
  by_cases he : e.space = .html ∧ e.name = "template"
  · exact h.createTemplate he
  · rw [createElement_of_ne he]
    exact h.createPlain he

end Sound

/-! Moving all children of a node at once. -/

/-- The second tree is the first one with the nodes of `l` put into `target`. -/
structure Gathered (t t' : Tree) (l : List NodeId) (target : NodeId) : Prop where
  sound : t'.Sound
  size : t'.size = t.size
  name? : ∀ m, t'.name? m = t.name? m
  parent? : ∀ m, t'.parent? m = if m ∈ l then some target else t.parent? m

variable {source target : NodeId}

theorem Sound.gathered {l : List NodeId} (hl : l.Nodup) (h : t.Sound) (htarget : target < t.size)
    (hloose : t.parent? target = none) (hsource : t.name? source ≠ some (.html, "template"))
    (hparent : ∀ c ∈ l, t.parent? c = some source) :
    Gathered t (l.foldl (fun t c => t.append target c) t) l target := by
  induction l generalizing t with
  | nil => exact ⟨h, rfl, fun _ => rfl, fun _ => rfl⟩
  | cons c l ih =>
    obtain ⟨hcl, hl⟩ := List.nodup_cons.1 hl
    obtain ⟨hc, hrest⟩ := List.forall_mem_cons.1 hparent
    have hne : target ≠ c := by
      rintro rfl
      rw [hc] at hloose
      cases hloose
    have hm := h.moved_append (lt_size_of_parent? hc) htarget
    have hsound : (t.append target c).Sound := by
      refine h.moved hm (fun hw => hne (eq_of_within_of_parent? hloose hw))
        (h.notFirst_of_parent? fun z hz => ?_)
      rw [hc] at hz
      obtain rfl := Option.some.inj hz
      exact hsource
    have hg := ih hl hsound (by rwa [hm.size]) (by rw [hm.parent?, if_neg hne, hloose])
      (by rwa [hm.name?]) fun d hd => by
        rw [hm.parent?, if_neg (ne_of_mem_of_not_mem hd hcl), hrest d hd]
    refine ⟨hg.sound, hg.size.trans hm.size, fun m => (hg.name? m).trans (hm.name? m), fun m => ?_⟩
    rw [List.foldl_cons, hg.parent?, hm.parent?]
    by_cases hmc : m = c <;> simp [hmc]

/-- A node that stands nowhere takes in the children of another one. -/
theorem Sound.moveChildren (h : t.Sound) (source : NodeId) (htarget : target < t.size)
    (hloose : t.parent? target = none) (hsource : t.name? source ≠ some (.html, "template")) :
    Gathered t (t.moveChildren source target) (t.children source).toList target := by
  rw [Tree.moveChildren, ← Array.foldl_toList]
  refine h.gathered (h.nodup source) htarget hloose hsource fun c hc => ?_
  exact (h.mem_children source c).1 (Array.mem_toList_iff.1 hc)

end Tree

end Gleaner.Markup
