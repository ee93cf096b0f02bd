import Gleaner.Proofs.Markup.Construct.Coherent

/-! Closing a formatting element that holds an open block. The nodes that are moved go outwards past
elements that stay open, so what has to be seen is that they never go into themselves. -/
namespace Gleaner.Markup

variable {t t' : Tree} {n block copy last q : NodeId} {pre post : List NodeId}
  {formatting : List Formatting} {head : Option NodeId} {e : Element}

theorem Tag.reopenable_of_contains {t : Tag} {names : List String}
    (ht : names.contains t.name) (htable : names.contains "table" = false)
    (htemplate : names.contains "template" = false) : t.Reopenable := by
  constructor
  · intro hname
    rw [hname, htable] at ht
    cases ht
  · intro hname
    rw [hname, htemplate] at ht
    cases ht

/-- The element of a tag that can open an element again comes without content of its own. -/
theorem Tag.Reopenable.createElement {tag : Tag} (h : tag.Reopenable) :
    t.createElement tag.element = t.create (.element tag.element) :=
  Tree.createElement_of_ne fun he => h.2 he.2

namespace Tree

/-- What is around a node when the next new node stands between the block and what was in it. -/
def wrappedParent? (t : Tree) (block n : NodeId) : Option NodeId :=
  if n = t.size then some block
  else if t.parent? n = some block then some t.size
  else t.parent? n

structure Wrapped (t t' : Tree) (block : NodeId) : Prop where
  sound : t'.Sound
  size_lt : t.size < t'.size
  name? : ∀ m < t.size, t'.name? m = t.name? m
  isElement : t'.isElement t.size
  parent? : ∀ m, t'.parent? m = t.wrappedParent? block m

/-- The way up from a node, with the new element read as the block. -/
theorem within_of_wrapped (h : t.Sound) (hparent : ∀ m, t'.parent? m = t.wrappedParent? block m)
    {x y : NodeId} (hw : t'.Within x y) :
    t.Within (if x = t.size then block else x) (if y = t.size then block else y) := by
  induction hw with
  | refl => exact Within.refl
  | @tail y z _ hz ih =>
    rw [hparent, wrappedParent?] at hz
    split at hz
    · next hy =>
      obtain rfl := Option.some.inj hz
      rw [if_pos hy] at ih
      rwa [ite_self]
    · next hy =>
      rw [if_neg hy] at ih
      split at hz
      · next hyb =>
        obtain rfl := Option.some.inj hz
        rw [if_pos rfl]
        exact ih.step hyb
      · rw [if_neg (Nat.ne_of_lt (h.lt_size_of_child hz))]
        exact ih.step hz

theorem Wrapped.within (h : t.Sound) (hw : Wrapped t t' block) {x y : NodeId} (hx : x < t.size)
    (hy : y < t.size) (hxy : t'.Within x y) : t.Within x y := by
  have hback := within_of_wrapped h hw.parent? hxy
  rwa [if_neg (Nat.ne_of_lt hx), if_neg (Nat.ne_of_lt hy)] at hback

theorem Sound.wrapped (h : t.Sound) (he : ¬ (e.space = .html ∧ e.name = "template"))
    (hlt : block < t.size) (hblock : t.name? block ≠ some (.html, "template")) :
    Wrapped t (((t.create (.element e)).1.moveChildren block t.size).append block t.size) block := by
  have hg := h.grown_create (.element e)
  have hsound := h.createPlain he
  have hgathered := hsound.moveChildren block hg.size_lt hg.fresh.parent?
    (by rwa [hg.name? block hlt])
  set t₁ := (t.create (.element e)).1.moveChildren block t.size
  have hparent₁ : ∀ m, t₁.parent? m =
      if t.parent? m = some block then some t.size else t.parent? m := fun m => by
    simp only [hgathered.parent?, Array.mem_toList_iff, hsound.mem_children, parent?_create]
  have hm := hgathered.sound.moved_append (c := t.size) (q := block)
    (hgathered.size ▸ hg.size_lt) (hgathered.size ▸ Nat.lt_trans hlt hg.size_lt)
  have hparent : ∀ m, (t₁.append block t.size).parent? m = t.wrappedParent? block m := fun m => by
    rw [hm.parent?, hparent₁, wrappedParent?]
  have hloose : t₁.parent? t.size = none := by
    simp [hparent₁, parent?_eq_none (Nat.le_refl t.size)]
  -- What is in the new element was in the block, and the block is not in itself.
  have hout : ¬ t₁.Within block t.size := by
    intro hw
    rcases Relation.ReflTransGen.cases_tail hw with heq | ⟨c, hw, hc⟩
    · exact Nat.ne_of_lt hlt heq.symm
    · have hw' : (t₁.append block t.size).Within block c := by
        refine Relation.ReflTransGen.mono (fun a b hab => ?_) _ _ hw
        rw [hm.parent?, if_neg]
        · exact hab
        · rintro rfl
          rw [hloose] at hab
          cases hab
      rw [hparent₁] at hc
      split at hc
      · next hcb =>
        have hback := within_of_wrapped h hparent hw'
        rw [if_neg (Nat.ne_of_lt hlt), if_neg (Nat.ne_of_lt (lt_size_of_parent? hcb))] at hback
        exact h.not_within (.single hcb) hback
      · exact Nat.lt_irrefl _ (h.lt_size_of_child hc)
  refine ⟨hgathered.sound.moved hm hout (hgathered.sound.notFirst_of_loose hloose), ?_, fun m hlt => ?_, ?_, hparent⟩
  · rw [hm.size, hgathered.size]
    exact hg.size_lt
  · rw [hm.name?, hgathered.name?, hg.name? m hlt]
  · rw [isElement_eq, hm.name?, hgathered.name?, ← isElement_eq, isElement_create]

end Tree

namespace Nesting

/-- An open element is replaced by a copy that takes in a node opened later. -/
theorem copy_over {m : NodeId} (h : Nesting t (pre ++ m :: post) formatting head)
    (he : ¬ (e.space = .html ∧ e.name = "template")) (hlast : last ∈ pre) :
    Nesting ((t.create (.element e)).1.append t.size last) (pre ++ t.size :: post) formatting
      head := by
  have hg := h.sound.grown_create (.element e)
  have hlastlt : last < t.size := h.lt_size last (by simp [hlast])
  have hpost : (pre ++ post).Sublist (pre ++ m :: post) :=
    (List.Sublist.refl pre).append (List.sublist_cons_self m post)
  have hcreated := (h.grown hg (h.sound.createPlain he)).sublist hpost
  have hold : ∀ x ∈ pre ++ post, x < t.size := fun x hx => h.lt_size x (hpost.subset hx)
  -- The copy stands nowhere, so no open element is around it.
  have halone : ∀ x < t.size, ¬ (t.create (.element e)).1.Within t.size x := fun x hx hw =>
    Nat.lt_irrefl x (Tree.eq_of_within_of_parent? hg.fresh.parent? hw ▸ hx)
  have hm := hcreated.sound.moved_append (c := last) (q := t.size)
    (Nat.lt_trans hlastlt hg.size_lt) hg.size_lt
  have hmoved := hcreated.moved hm (halone last hlastlt)
    (hcreated.sound.notFirst_of_isElement (hcreated.isElement last (by simp [hlast])))
    (List.pairwise_iff_forall_sublist.2 fun {newer _} hs hw =>
      halone newer (hold newer (hs.subset (by simp))) hw.2)
  refine hmoved.insert ?_ (fun x hx hw => ?_) fun x hx hw => ?_
  · rw [Tree.isElement_eq, hm.name?, ← Tree.isElement_eq, Tree.isElement_create]
  · have hlt : x < t.size := hold x (by simp [hx])
    rcases hm.within_cases hw with hw | ⟨hw, -⟩
    · exact halone x hlt hw
    · exact halone last hlastlt hw
  · have hlt : x < t.size := hold x (by simp [hx])
    rcases hm.within_cases hw with hw | ⟨hw, -⟩
    · exact hg.fresh.not_within hlt hw
    · have hnested := (List.pairwise_append.1 hcreated.nested).2.2 last hlast x hx
      exact hnested hw

/-- A copy comes between a block and what is in it, and is opened after the block. -/
theorem wrap (h : Nesting t (pre ++ block :: post) formatting head)
    (hw : Tree.Wrapped t t' block) :
    Nesting t' (pre ++ t.size :: block :: post) formatting head := by
  obtain ⟨-, hblock, hcross⟩ := List.pairwise_append.1 h.nested
  have hblocklt : block < t.size := h.lt_size block (by simp)
  have hwrapped : Nesting t' (pre ++ block :: post) formatting head :=
    { sound := hw.sound
      isElement := fun n hn => by
        rw [Tree.isElement_eq, hw.name? n (h.lt_size n hn), ← Tree.isElement_eq]
        exact h.isElement n hn
      nested := h.nested.imp_of_mem fun hy hx hxy hw' =>
        hxy (hw.within h.sound (h.lt_size _ hx) (h.lt_size _ hy) hw')
      reopenable := h.reopenable
      head_lt := fun n hn => Nat.lt_trans (h.head_lt n hn) hw.size_lt }
  refine hwrapped.insert hw.isElement (fun y hy hwy => ?_) fun x hx hxw => ?_
  · have hback := Tree.within_of_wrapped h.sound hw.parent? hwy
    rw [if_pos rfl, if_neg (Nat.ne_of_lt (h.lt_size y (by simp [hy])))] at hback
    exact hcross y hy block List.mem_cons_self hback
  · rcases List.mem_cons.1 hx with rfl | hx
    · have hparent : t'.parent? t.size = some x := (hw.parent? t.size).trans (if_pos rfl)
      exact hw.sound.not_within (.single hparent) hxw
    · have hback := Tree.within_of_wrapped h.sound hw.parent? hxw
      rw [if_pos rfl, if_neg (Nat.ne_of_lt (h.lt_size x (by simp [hx])))] at hback
      exact (List.pairwise_cons.1 hblock).1 x hx hback

/-- An open element goes into or beside one that was opened before it. -/
theorem move_out {rest : List NodeId} {z : NodeId} (h : Nesting t (pre ++ rest) formatting head)
    (hlast : last ∈ pre) (hz : z ∈ rest) (hnear : t.Near z q) (hm : Tree.Moved t t' last q) :
    Nesting t' (pre ++ rest) formatting head := by
  obtain ⟨hpre, hrest, hcross⟩ := List.pairwise_append.1 h.nested
  have hlastelem : t.isElement last := h.isElement last (by simp [hlast])
  have hout : ∀ y ∈ pre, ¬ t.Within q y := fun y hy =>
    Tree.not_within_of_near (h.isElement y (by simp [hy])) (hcross y hy z hz) hnear
  refine h.moved hm (hout last hlast) (h.sound.notFirst_of_isElement hlastelem) ?_
  refine List.pairwise_append.2 ⟨?_, ?_, fun y hy x _ hw => hout y hy hw.2⟩
  · exact hpre.imp_of_mem fun hy _ _ hw => hout _ hy hw.2
  · exact hrest.imp_of_mem fun _ hx _ hw => hcross last hlast _ hx hw.1

end Nesting

namespace Builder

variable {b : Builder} {tag : Tag} {below todo : List NodeId} {m : NodeId} {a : Adoption}

/-- The state of the walk: it has come as far as `todo`, and everything above the formatting element is
an ordinary element, the block and the node moved last among what the walk has passed. -/
structure Adopting (block n : NodeId) (below todo : List NodeId) (a : Adoption) : Prop where
  coherent : a.builder.Coherent
  split : ∃ pre, a.builder.stack = pre ++ (todo ++ n :: below) ∧ a.last ∈ pre ∧ block ∈ pre ∧
    ∀ m ∈ pre ++ todo, a.builder.tree.Ordinary m

@[simp]
theorem Coherent.forget (h : b.Coherent) : (b.forget m).Coherent :=
  h.withFormatting fun e he => h.reopenable e (List.eraseP_sublist.subset he)

theorem Adopting.step (h : Adopting block n below (m :: todo) a) (i : Nat) :
    Adopting block n below todo (adoptStep block a i m) := by
  obtain ⟨hb, pre, hstack, hlast, hblock, hord⟩ := h
  have hnodup := Nesting.nodup hb
  rw [hstack, List.cons_append] at hnodup
  obtain ⟨hpre, hpost, -⟩ := nodup_middle_iff.1 hnodup
  have hdrop : (a.builder.removeFromStack m).stack = pre ++ (todo ++ n :: below) := by
    rw [removeFromStack, hstack]
    exact erase_middle hpre
  have hord' : ∀ x ∈ pre ++ todo, a.builder.tree.Ordinary x := fun x hx =>
    hord x (by rcases List.mem_append.1 hx with hx | hx <;> simp [hx])
  unfold adoptStep
  dsimp only
  split
  · exact ⟨hb.forget.removeFromStack, pre, hdrop, hlast, hblock, hord'⟩
  · split
    · next k tag hfind =>
      have htag : tag.Reopenable := hb.reopenable _ (List.mem_of_find?_eq_some hfind)
      have hopen : Nesting a.builder.tree (pre ++ m :: (todo ++ n :: below)) a.builder.formatting
          a.builder.head := by
        rw [← List.cons_append, ← hstack]
        exact hb
      have hcopy := hopen.copy_over (e := tag.element) (fun he => htag.2 he.2) hlast
      have hmap := map_middle (b := a.builder.tree.size) hpre hpost
      rw [← List.cons_append, ← hstack] at hmap
      simp only [createElement, htag.createElement, Tree.create_snd, hmap]
      refine ⟨hcopy.withFormatting fun e he => ?_, pre ++ [a.builder.tree.size], by simp, by simp,
        by simp [hblock], fun x hx => ?_⟩
      · obtain ⟨f, hf, rfl⟩ := List.mem_map.1 he
        split
        · exact htag
        · exact hb.reopenable f hf
      · rw [Tree.Ordinary, Tree.name?_append, Tree.name?_create]
        split
        · simpa [Node.name?, Tag.element, Tag.Reopenable] using htag
        · next hne =>
          refine hord' x ?_
          simpa [hne] using hx
    · exact ⟨hb.removeFromStack, pre, hdrop, hlast, hblock, hord'⟩

theorem Adopting.walk (h : Adopting block n below todo a) (i : Nat) :
    Adopting block n below [] (adoptWalk block a i todo) := by
  induction todo generalizing a i with
  | nil => exact h
  | cons m todo ih => exact ih (h.step i) (i + 1)

/-- The node moved last leaves its place for one near an element that is open around the formatting
element. -/
theorem Adopting.moveOut (h : Adopting block n below [] a) {ancestor : NodeId}
    (hanc : ancestor ∈ n :: below) :
    let b' := { a.builder with tree := a.builder.tree.detach a.last }.insertNode a.last ancestor
    ∃ pre, b'.stack = pre ++ n :: below ∧ block ∈ pre ∧ b'.tree.Ordinary block ∧ b'.Coherent := by
  obtain ⟨hb, pre, hstack, hlast, hblock, hord⟩ := h
  rw [List.append_nil] at hord
  rw [List.nil_append] at hstack
  let b' : Builder := { a.builder with tree := a.builder.tree.detach a.last }
  have hopen : Nesting b'.tree (pre ++ n :: below) b'.formatting b'.head := by
    rw [← hstack]
    exact Nesting.detach hb (hb.isElement a.last (by simp [hstack, hlast]))
  have hord' : ∀ m ∈ pre, b'.tree.Ordinary m := fun m hm => by
    rw [Tree.Ordinary, Tree.name?_detach]
    exact hord m hm
  obtain ⟨z, hz, hnear⟩ := placeFor_near hopen.sound ancestor hstack hord'
  have hmem : z ∈ n :: below := by
    rcases hz with hz | rfl | rfl
    · exact hz
    · exact hanc
    · exact htmlElement_mem (List.cons_ne_nil n below) hstack
  have hout : a.last ∉ n :: below := fun hl =>
    (List.nodup_append.1 hopen.nodup).2.2 a.last hlast a.last hl rfl
  have hzlt : z < b'.tree.size := hopen.lt_size z (List.mem_append_right pre hmem)
  have hm := hopen.sound.moved_place (hopen.lt_size a.last (by simp [hlast]))
    (hopen.sound.apart_size.near_lt hzlt hnear) (placeFor_admits hstack hout hord')
  refine ⟨pre, hstack, hblock, ?_, ?_⟩
  · have hname : (b'.insertNode a.last ancestor).tree.name? block = b'.tree.name? block :=
      hm.name? block
    rw [Tree.Ordinary, hname]
    exact hord' block hblock
  · have hnesting := hopen.move_out hlast hmem hnear hm
    rw [← hstack] at hnesting
    exact hnesting

/-- The formatting element is closed, and a copy of it is opened inside the block. -/
theorem Coherent.wrapBlock (h : b.Coherent) (hstack : b.stack = pre ++ n :: below)
    (hblock : block ∈ pre) (hord : b.tree.Ordinary block) (htag : tag.Reopenable) :
    Nesting (((b.tree.createElement tag.element).1.moveChildren block b.tree.size).append block
        b.tree.size)
      ((b.stack.erase n).flatMap fun m => if m = block then [b.tree.size, m] else [m])
      b.formatting b.head := by
  have hnodup := Nesting.nodup h
  rw [hstack] at hnodup
  obtain ⟨hn, -, hrest⟩ := nodup_middle_iff.1 hnodup
  obtain ⟨outer, inner, rfl⟩ := List.append_of_mem hblock
  rw [List.append_assoc, List.cons_append] at hrest
  obtain ⟨houter, hinner, -⟩ := nodup_middle_iff.1 hrest
  have herase : b.stack.erase n = outer ++ block :: (inner ++ below) := by
    rw [hstack, erase_middle hn, List.append_assoc, List.cons_append]
  have hclosed : Nesting b.tree (outer ++ block :: (inner ++ below)) b.formatting b.head :=
    Nesting.sublist h (herase ▸ List.erase_sublist)
  rw [herase, flatMap_middle houter hinner, htag.createElement]
  exact hclosed.wrap (hclosed.sound.wrapped (fun he => htag.2 he.2)
    (hclosed.lt_size block (by simp)) hord.2)

theorem Coherent.adopt {above : List NodeId} (hb : b.Coherent) (hstack : b.stack = above ++ n :: below)
    (hord : ∀ m ∈ above, b.tree.Ordinary m) (hblock : block ∈ above) (htag : tag.Reopenable) :
    (b.adopt n tag block).Coherent := by
  have hnodup := Nesting.nodup hb
  rw [hstack] at hnodup
  have hn : n ∉ above := (nodup_middle_iff.1 hnodup).1
  obtain ⟨inner, between, rfl⟩ := List.append_of_mem hblock
  have hbelow : (b.stack.dropWhile (· != n)).tail = below := by
    rw [hstack, dropWhile_middle hn]
    rfl
  have hbetween : ((b.stack.dropWhile (· != block)).tail).takeWhile (· != n) = between := by
    rw [List.append_assoc, List.cons_append] at hnodup
    have hinner : block ∉ inner := (nodup_middle_iff.1 hnodup).1
    rw [hstack, List.append_assoc, List.cons_append, dropWhile_middle hinner, List.tail_cons,
      takeWhile_middle fun hmem => hn (by simp [hmem])]
  have hanc : below.head?.getD b.htmlElement ∈ n :: below := by
    rcases head?_getD_htmlElement (b := b) below with h | h
    · exact List.mem_cons_of_mem n h
    · rw [h]
      exact htmlElement_mem (List.cons_ne_nil n below) hstack
  have hstart : Adopting block n below between ⟨b, block, none⟩ :=
    ⟨hb, inner ++ [block], by simp [hstack], by simp, by simp, by simpa using hord⟩
  obtain ⟨pre, hpre, hmem, hordinary, hmoved⟩ := (hstart.walk 0).moveOut hanc
  have hwrap := hmoved.wrapBlock hpre hmem hordinary htag
  simp only [Builder.adopt, hbelow, hbetween, createElement, Tree.createElement_snd]
  refine hwrap.withFormatting fun e he => ?_
  have hold := hmoved.reopenable
  split at he
  · obtain ⟨f, hf, rfl⟩ := List.mem_map.1 he
    split
    · exact htag
    · exact hold f hf
  · obtain ⟨f, hf, he⟩ := List.mem_flatMap.1 (List.eraseP_sublist.subset he)
    split at he
    · rcases List.mem_cons.1 he with rfl | he
      · exact htag
      · exact List.mem_singleton.1 he ▸ hold f hf
    · exact List.mem_singleton.1 he ▸ hold f hf

/-! The rules for formatting elements. -/

theorem belowNearest_sublist {name : String} {l rest : List NodeId}
    (h : b.belowNearest name l = some rest) : rest.Sublist l := by
  induction l with
  | nil => cases h
  | cons m l ih =>
    rw [belowNearest] at h
    split at h
    · obtain rfl := Option.some.inj h
      exact List.sublist_cons_self m l
    · split at h
      · cases h
      · exact (ih h).trans (List.sublist_cons_self m l)

@[simp]
theorem Coherent.closeGeneric (h : b.Coherent) (name : String) : (b.closeGeneric name).Coherent := by
  unfold Builder.closeGeneric
  split
  · next rest hrest => exact h.withStack (belowNearest_sublist hrest)
  · exact h

/-- No table and no template is open inside an element that is in scope. -/
theorem split_of_searchScope {wanted : NodeId → Bool} {l : List NodeId}
    (h : b.searchScope .default wanted l) : ∃ above m below, l = above ++ m :: below ∧ wanted m ∧
      ∀ x ∈ above, wanted x = false ∧ b.tree.Ordinary x := by
  induction l with
  | nil => cases h
  | cons m l ih =>
    rw [searchScope] at h
    split at h
    · next hm => exact ⟨[], m, l, rfl, hm, by simp⟩
    · next hm =>
      dsimp only at h
      split at h
      · cases h
      · next hstop =>
        obtain ⟨above, k, below, rfl, hk, habove⟩ := ih h
        refine ⟨m :: above, k, below, rfl, hk, List.forall_mem_cons.2 ⟨⟨by simpa using hm, ?_, ?_⟩, habove⟩⟩
        · intro hname
          rw [nameOf_eq, hname] at hstop
          exact hstop rfl
        · intro hname
          rw [nameOf_eq, hname] at hstop
          exact hstop rfl

theorem Coherent.reopenable_of_recent (h : b.Coherent) {name : String} {found : NodeId × Tag}
    (hfound : b.recentFormatting.findSome? (fun
      | .element n t => if t.name = name then some (n, t) else none
      | .marker => none) = some found) : found.2.Reopenable := by
  obtain ⟨e, he, hsome⟩ := List.exists_of_findSome?_eq_some hfound
  have hreopen := h.reopenable e ((List.takeWhile_sublist _).subset he)
  cases e with
  | marker => cases hsome
  | element n t =>
    obtain ⟨-, heq⟩ := Option.ite_none_right_eq_some.1 hsome
    obtain rfl := Option.some.inj heq
    exact hreopen

theorem Coherent.adoptionRound (h : b.Coherent) (name : String) :
    (b.adoptionRound name).1.Coherent := by
  unfold Builder.adoptionRound
  dsimp only
  split
  · exact h.closeGeneric name
  · next n t hfound =>
    have htag : t.Reopenable := h.reopenable_of_recent hfound
    split
    · exact h.forget
    · split
      · exact h
      · next hscope =>
        split
        · exact h.forget.withStack ((List.tail_sublist _).trans (List.dropWhile_sublist _))
        · next block hblock =>
          rw [Bool.not_eq_true', Bool.not_eq_false] at hscope
          obtain ⟨above, m, below, hstack, hm, habove⟩ := split_of_searchScope hscope
          obtain rfl : m = n := by simpa using hm
          have hn : m ∉ above := fun hmem => by simpa using (habove m hmem).1
          have hmem := List.mem_of_find?_eq_some hblock
          rw [List.mem_reverse, hstack, takeWhile_middle hn] at hmem
          exact h.adopt hstack (fun x hx => (habove x hx).2) hmem htag

theorem Coherent.adoptionRounds (h : b.Coherent) (name : String) (rounds : Nat) :
    (adoptionRounds name rounds b).Coherent := by
  induction rounds generalizing b with
  | zero => exact h
  | succ rounds ih =>
    have hround := h.adoptionRound name
    rw [Builder.adoptionRounds]
    split
    · next b' heq =>
      rw [heq] at hround
      exact ih hround
    · next b' heq =>
      rw [heq] at hround
      exact hround

@[simp]
theorem Coherent.closeFormatting (h : b.Coherent) (name : String) :
    (b.closeFormatting name).Coherent := by
  unfold Builder.closeFormatting
  split
  · exact h.pop
  · exact h.adoptionRounds name 8

@[simp]
theorem Coherent.closeOuterLink (h : b.Coherent) : b.closeOuterLink.Coherent := by
  unfold Builder.closeOuterLink
  dsimp only
  split
  · exact h
  · exact (h.closeFormatting "a").forget.removeFromStack

theorem Coherent.reopen (h : b.Coherent) {f : Formatting} (hf : f.Reopenable) :
    (b.reopen f).Coherent := by
  cases f with
  | marker => exact h
  | element n t =>
    have hopen := h.openElement t.element
    exact hopen.withFormatting (List.forall_mem_cons.2 ⟨hf, hopen.reopenable⟩)

theorem Coherent.reopen_all {l : List Formatting} (h : b.Coherent) (hl : ∀ f ∈ l, f.Reopenable) :
    (l.foldl Builder.reopen b).Coherent := by
  induction l generalizing b with
  | nil => exact h
  | cons f l ih =>
    obtain ⟨hf, hl⟩ := List.forall_mem_cons.1 hl
    exact ih (h.reopen hf) hl

@[simp]
theorem Coherent.reconstruct (h : b.Coherent) : b.reconstruct.Coherent := by
  have hmem := h.reopenable
  simp only [Builder.reconstruct, List.span_eq_takeWhile_dropWhile]
  refine Coherent.reopen_all (h.withFormatting fun e he => ?_) fun e he => ?_
  · exact hmem e ((List.dropWhile_sublist _).subset he)
  · exact hmem e ((List.takeWhile_sublist _).subset (List.mem_reverse.1 he))

@[simp]
theorem Coherent.startFormatting (h : b.Coherent) (htag : tag.Reopenable) :
    (b.startFormatting tag).Coherent := by
  have hmem := h.reopenable
  have hopen := h.openElement tag.element
  simp only [Builder.startFormatting, List.span_eq_takeWhile_dropWhile]
  refine hopen.withFormatting (List.forall_mem_cons.2 ⟨htag, fun e he => ?_⟩)
  rcases List.mem_append.1 he with he | he
  · refine hmem e ((List.takeWhile_sublist (· != .marker)).subset ?_)
    split at he
    · exact List.mem_reverse.1 (List.eraseP_sublist.subset (List.mem_reverse.1 he))
    · exact he
  · exact hmem e ((List.dropWhile_sublist _).subset he)

end Builder

end Gleaner.Markup
