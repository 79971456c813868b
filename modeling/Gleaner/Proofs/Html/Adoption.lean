import Gleaner.Proofs.Html.Insert

/-!
# Splitting formatting elements

The end tag of a formatting element takes a block out of it. The block is moved to where the
formatting element is, elements that are made anew in between go around it, and what was in the
block goes into another new element. That none of them comes to be below itself is seen from their
ranks: an element that is made anew takes the rank of the one that it stands for.

## Main definitions

* `Construction.Lifting.Sound`: what holds while a block is taken out.

## Main results

* `Construction.Lifting.Sound.step`, `Construction.Lifting.Sound.run`: going outwards.
* `Construction.Fits.insert`: elements opened in the midst of others.
* `Construction.Sound.split`: the whole.
-/

namespace Gleaner.Html.Construction

open Gleaner.Html.Tree (Extends Grows topped topped_of_lt topped_lt_topped)

/-- An element made around another one, as a node of any rank below the rank of that one. -/
theorem extends_enclose {s : Construction} {rank rank' : ℕ → ℕ} {top : ℕ}
    (ht : s.tree.Sound rank) (htop : (s.tree.element? top).isSome)
    (hrank : ∀ k < s.tree.size, rank' k = rank k)
    (hlt : rank' s.tree.size < rank' (s.tree.size + 1)) (hlt_top : rank' s.tree.size < rank' top)
    (e : Element) :
    Extends s.tree rank (((s.makeElement e).tree.detach top).append s.tree.size top) rank' ∧
      ((((s.makeElement e).tree.detach top).append s.tree.size top).element? s.tree.size).isSome ∧
      rank' ((((s.makeElement e).tree.detach top).append s.tree.size top).holder s.tree.size) ≤
        rank' (s.tree.size + 1) := by
  have hmade : Extends s.tree rank (s.makeElement e).tree rank' :=
    extends_makeElement ht hrank hlt e
  have helement : ((s.makeElement e).tree.element? s.tree.size).isSome :=
    isSome_element?_makeElement e
  have hsize := Tree.lt_size_of_holds (Tree.holds_of_isSome_element? helement)
  have htop_lt := Tree.lt_size_of_holds (Tree.holds_of_isSome_element? htop)
  have htop' : ((s.makeElement e).tree.element? top).isSome := by
    rwa [Tree.isSome_element?_congr (hmade.shape?_eq htop_lt)]
  have hshape := Tree.shape?_ne_fragment_of_isSome_element? htop'
  have hdetached := hmade.sound.extends_detach hshape
  have hmoved : Extends (s.makeElement e).tree rank'
      (((s.makeElement e).tree.detach top).append s.tree.size top) rank' := by
    refine hdetached.trans (hdetached.sound.extends_append ?_ ?_ ?_ hlt_top)
    · rw [Tree.holds_congr Tree.shape?_detach]
      exact Tree.holds_of_isSome_element? helement
    · rw [Tree.size_detach]
      exact htop_lt.trans_le hmade.size_le
    · rwa [Tree.shape?_detach]
  refine ⟨hmade.trans hmoved, ?_, ?_⟩
  · rwa [Tree.isSome_element?_congr (hmoved.shape?_eq hsize)]
  · rw [hmade.sound.holder_eq_of_grows hmoved.sound hmoved.toGrows hsize]
    exact rank_holder_makeElement_le ht hrank hlt e

/-- A block is being taken out, up to the element that was last. What moves has at least its rank,
and the elements that stay open are between it and the block. -/
structure Lifting.Sound (s : Construction) (rank : ℕ → ℕ) (block last : ℕ) (lift : Lifting)
    (rank' : ℕ → ℕ) : Prop where
  grown : Extends s.tree (3 * rank ·) lift.base.tree rank'
  opened_eq : lift.base.opened = s.opened
  head_eq : lift.base.head = s.head
  isSome_top : (lift.base.tree.element? lift.top).isSome
  top_ge : 3 * rank last ≤ rank' lift.top
  isSome_between {m : ℕ} (hm : m ∈ lift.between) : (lift.base.tree.element? m).isSome
  between_ge {m : ℕ} (hm : m ∈ lift.between) : 3 * rank last ≤ rank' m
  between_lt {m : ℕ} (hm : m ∈ lift.between) :
    rank' (lift.base.tree.holder m) < 3 * rank block
  stacked : lift.between.Pairwise fun inner outer =>
    rank' (lift.base.tree.holder outer) < rank' inner

namespace Lifting.Sound

variable {s : Construction} {rank rank' : ℕ → ℕ} {block last n : ℕ} {lift : Lifting}

/-- At the start only the block moves. -/
theorem start (ht : s.tree.Sound rank) (hblock : (s.tree.element? block).isSome) :
    Lifting.Sound s rank block block { base := s, top := block } (3 * rank ·) where
  grown := { Grows.refl s.tree with
    sound := ht.spread
    rank_eq := fun _ => rfl }
  opened_eq := rfl
  head_eq := rfl
  isSome_top := hblock
  top_ge := le_rfl
  isSome_between hm := by cases hm
  between_ge hm := by cases hm
  between_lt hm := by cases hm
  stacked := .nil

/-- An element further out may be passed without being made anew. -/
theorem pass (h : lift.Sound s rank block last rank') (hn : rank n < rank last) :
    lift.Sound s rank block n rank' :=
  { h with
    top_ge := (Nat.mul_le_mul_left 3 hn.le).trans h.top_ge
    between_ge := fun hm => (Nat.mul_le_mul_left 3 hn.le).trans (h.between_ge hm) }

/-- An element made anew around what moves takes the rank of the one that it stands for. -/
theorem renew (h : lift.Sound s rank block last rank') (hn : rank n < rank last)
    (hblock : rank n < rank block) (e : Element) (formatting : List Formatting)
    (behind : Option NodeId) :
    ∃ rank'', Lifting.Sound s rank block n
      { base := { lift.base.makeElement e with
          formatting
          tree := ((lift.base.makeElement e).tree.detach lift.top).append lift.base.tree.size
            lift.top }
        top := lift.base.tree.size
        behind
        between := lift.between ++ [lift.base.tree.size] } rank'' := by
  let m := lift.base.tree.size
  -- the new element takes the rank of the one that it stands for, its contents the next one
  let rank'' (k : ℕ) : ℕ := if k < m then rank' k else 3 * rank n + (k - m)
  have hold {k : ℕ} (hk : k < m) : rank'' k = rank' k := if_pos hk
  have hrank_m : rank'' m = 3 * rank n := by simp [rank'']
  have hrank_succ : rank'' (m + 1) = 3 * rank n + 1 := by simp [rank'']
  have htop_lt : lift.top < m :=
    Tree.lt_size_of_holds (Tree.holds_of_isSome_element? h.isSome_top)
  have hlt : rank'' m < rank'' (m + 1) := by
    rw [hrank_m, hrank_succ]
    exact Nat.lt_succ_self _
  have hlt_top : rank'' m < rank'' lift.top := by
    rw [hrank_m, hold htop_lt]
    exact (Nat.mul_lt_mul_of_pos_left hn (by omega)).trans_le h.top_ge
  obtain ⟨hall, helement, hholder⟩ := extends_enclose h.grown.sound h.isSome_top
    (fun k hk => hold hk) hlt hlt_top e
  rw [hrank_succ] at hholder
  have hbetween {k : ℕ} (hk : k ∈ lift.between) : k < m :=
    Tree.lt_size_of_holds (Tree.holds_of_isSome_element? (h.isSome_between hk))
  have hbetween_holder {k : ℕ} (hk : k ∈ lift.between) :=
    hall.rank_holder h.grown.sound (Tree.holds_of_isSome_element? (h.isSome_between hk))
  refine ⟨rank'', h.grown.trans hall, ?_, ?_, helement, hrank_m.ge, ?_, ?_, ?_, ?_⟩
  · show (lift.base.makeElement e).opened = s.opened
    rw [opened_makeElement, h.opened_eq]
  · show (lift.base.makeElement e).head = s.head
    rw [head_makeElement, h.head_eq]
  · intro k hk
    rcases List.mem_append.1 hk with hk | hk
    · rw [Tree.isSome_element?_congr (hall.shape?_eq (hbetween hk))]
      exact h.isSome_between hk
    · rw [List.mem_singleton.1 hk]
      exact helement
  · intro k hk
    rcases List.mem_append.1 hk with hk | hk
    · rw [hall.rank_eq (hbetween hk)]
      exact (Nat.mul_le_mul_left 3 hn.le).trans (h.between_ge hk)
    · rw [List.mem_singleton.1 hk, hrank_m]
  · intro k hk
    rcases List.mem_append.1 hk with hk | hk
    · rw [hbetween_holder hk]
      exact h.between_lt hk
    · rw [List.mem_singleton.1 hk]
      exact hholder.trans_lt (by omega)
  · refine List.pairwise_append.2
      ⟨?_, List.pairwise_singleton _ _, fun inner hinner outer houter => ?_⟩
    · refine h.stacked.imp_of_mem fun {inner outer} hinner houter hlt => ?_
      rwa [hbetween_holder houter, hall.rank_eq (hbetween hinner)]
    · have hge := h.between_ge hinner
      rw [List.mem_singleton.1 houter, hall.rank_eq (hbetween hinner)]
      exact hholder.trans_lt ((by omega : 3 * rank n + 1 < 3 * rank last).trans_le hge)

/-- The next element on the way is passed, or made anew. -/
theorem step (h : lift.Sound s rank block last rank') (hn : rank n < rank last)
    (hblock : rank n < rank block) (count : ℕ) :
    ∃ rank'', (lift.step block n count).Sound s rank block n rank'' := by
  unfold Lifting.step
  split
  next =>
    have hpass := h.pass hn
    exact ⟨rank', hpass.grown, hpass.opened_eq, hpass.head_eq, hpass.isSome_top, hpass.top_ge,
      hpass.isSome_between, hpass.between_ge, hpass.between_lt, hpass.stacked⟩
  next =>
    split
    next => exact h.renew hn hblock _ _ _
    next => exact ⟨rank', h.pass hn⟩

/-- All elements on the way, one inside of the other. -/
theorem run {ns : List NodeId} (h : lift.Sound s rank block last rank')
    (hstacked : (last :: ns).Pairwise fun inner outer => rank outer < rank inner)
    (hns : ∀ n ∈ ns, rank n < rank block) (count : ℕ) :
    ∃ last' ∈ last :: ns, ∃ rank'', (lift.run block count ns).Sound s rank block last' rank'' := by
  -- by induction on the elements on the way outwards, with what moves after each of them
  induction ns generalizing lift last rank' count with
  | nil => exact ⟨last, List.mem_singleton_self last, rank', h⟩
  | cons n rest ih =>
    obtain ⟨hlast, hrest⟩ := List.pairwise_cons.1 hstacked
    obtain ⟨hn, hns⟩ := List.forall_mem_cons.1 hns
    obtain ⟨rank₁, hstep⟩ := h.step (hlast n List.mem_cons_self) hn count
    obtain ⟨last', hlast', rank₂, hrun⟩ := ih hstep hrest hns (count + 1)
    exact ⟨last', List.mem_cons_of_mem last hlast', rank₂, hrun⟩

end Lifting.Sound

/-- Elements opened in the midst of others, around one of them. -/
theorem Fits.insert {t : Tree} {rank : ℕ → ℕ} {inner outer between : List NodeId} {block m : ℕ}
    (h : Fits t rank (inner ++ block :: outer)) (hm : (t.element? m).isSome)
    (hbetween : ∀ b ∈ between, (t.element? b).isSome)
    (hm_inner : ∀ n ∈ inner, rank (t.holder m) < rank n)
    (hblock_m : rank (t.holder block) < rank m)
    (hbetween_block : ∀ b ∈ between, rank (t.holder b) < rank block)
    (hbetween_stacked : between.Pairwise fun inner outer => rank (t.holder outer) < rank inner)
    (houter_between : ∀ b ∈ between, ∀ n ∈ outer ++ [0], rank (t.holder n) < rank b) :
    Fits t rank (inner ++ m :: block :: between ++ outer) where
  sound := h.sound
  isSome_element? {n} hn := by
    simp only [List.append_assoc, List.cons_append, List.mem_append, List.mem_cons] at hn
    rcases hn with hn | rfl | rfl | hn | hn
    · exact h.isSome_element? (List.mem_append_left _ hn)
    · exact hm
    · exact h.isSome_element? (List.mem_append_right _ List.mem_cons_self)
    · exact hbetween n hn
    · exact h.isSome_element? (List.mem_append_right _ (List.mem_cons_of_mem _ hn))
  stacked := by
    have hstacked := h.stacked
    rw [List.append_assoc, List.cons_append, List.pairwise_append, List.pairwise_cons] at hstacked
    obtain ⟨hinner, ⟨hblock, houter⟩, hcross⟩ := hstacked
    have hblock_le := h.sound.rank_le_holder block
    simp only [List.append_assoc, List.cons_append]
    refine List.pairwise_append.2 ⟨hinner, List.pairwise_cons.2 ⟨fun n hn => ?_,
      List.pairwise_cons.2 ⟨fun n hn => ?_, List.pairwise_append.2
        ⟨hbetween_stacked, houter, houter_between⟩⟩⟩, fun x hx n hn => ?_⟩
    · rcases List.mem_cons.1 hn with rfl | hn
      · exact hblock_m
      · rcases List.mem_append.1 hn with hn | hn
        · exact (hbetween_block n hn).trans (hblock_le.trans_lt hblock_m)
        · exact (hblock n hn).trans (hblock_le.trans_lt hblock_m)
    · rcases List.mem_append.1 hn with hn | hn
      · exact hbetween_block n hn
      · exact hblock n hn
    · have hx_block := hcross x hx block List.mem_cons_self
      rcases List.mem_cons.1 hn with rfl | hn
      · exact hm_inner x hx
      · rcases List.mem_cons.1 hn with rfl | hn
        · exact hx_block
        · rcases List.mem_append.1 hn with hn | hn
          · exact (hbetween_block n hn).trans (hblock_le.trans_lt hx_block)
          · exact hcross x hx n (List.mem_cons_of_mem _ hn)

section Split

variable {s : Construction} {rank : ℕ → ℕ} {node block : ℕ} {inner between outer : List NodeId}

/-- The contents of an element put into a new element inside of it. -/
theorem extends_embrace (ht : s.tree.Sound rank) (hblock : (s.tree.element? block).isSome)
    (htemplate : s.tree.isNamed block "template" = false) (e : Element) :
    ∃ rank', Extends s.tree (3 * rank ·)
        (((s.makeElement e).tree.moveChildren block s.tree.size).append block s.tree.size) rank' ∧
      ((((s.makeElement e).tree.moveChildren block s.tree.size).append block
        s.tree.size).element? s.tree.size).isSome ∧
      3 * rank block < rank' s.tree.size ∧
      rank' ((((s.makeElement e).tree.moveChildren block s.tree.size).append block
        s.tree.size).holder s.tree.size) < 3 * rank block + 3 := by
  generalize hm : s.tree.size = m
  -- the new element is right above the block, and below what was right above it
  let rank' (k : ℕ) : ℕ := if k < m then 3 * rank k else 3 * rank block + 1 + (k - m)
  have hold {k : ℕ} (hk : k < m) : rank' k = 3 * rank k := if_pos hk
  have hrank_m : rank' m = 3 * rank block + 1 := by simp [rank']
  have hrank_succ : rank' (m + 1) = 3 * rank block + 2 := by simp [rank']
  have hlt : rank' s.tree.size < rank' (s.tree.size + 1) := by
    rw [hm, hrank_m, hrank_succ]
    exact Nat.lt_succ_self _
  have hblock_lt : block < m := by
    rw [← hm]
    exact Tree.lt_size_of_holds (Tree.holds_of_isSome_element? hblock)
  have hmade : Extends s.tree (3 * rank ·) (s.makeElement e).tree rank' :=
    extends_makeElement ht.spread (fun k hk => hold (hm ▸ hk)) hlt e
  have helement : ((s.makeElement e).tree.element? m).isSome := by
    rw [← hm]
    exact isSome_element?_makeElement e
  have hholder : rank' ((s.makeElement e).tree.holder m) ≤ rank' (m + 1) := by
    rw [← hm]
    exact rank_holder_makeElement_le ht.spread (fun k hk => hold (hm ▸ hk)) hlt e
  have hm_holds := Tree.holds_of_isSome_element? helement
  have hblock_shape := hmade.shape?_eq (hm ▸ hblock_lt)
  have hmoved : Extends (s.makeElement e).tree rank'
      ((s.makeElement e).tree.moveChildren block m) rank' := by
    refine hmade.sound.extends_moveChildren ?_ hm_holds fun c hc => ?_
    · rwa [Tree.isNamed_congr hblock_shape]
    · -- what is below the block was there before, and has room above it for one more
      rcases parent?_makeElement_cases e (hmade.sound.linked hc) with hparent | ⟨-, hsize⟩
      · have hc_lt := Tree.lt_size_of_parent? hparent
        have hrank := ht.rank_lt hparent
        rw [hrank_m, hold (hm ▸ hc_lt)]
        omega
      · omega
  have happended : Extends ((s.makeElement e).tree.moveChildren block m) rank'
      (((s.makeElement e).tree.moveChildren block m).append block m) rank' := by
    refine hmoved.sound.extends_append ?_ ?_ ?_ ?_
    · rw [Tree.holds_congr (hmoved.shape?_eq
        ((hm ▸ hblock_lt).trans_le hmade.size_le)), Tree.holds_congr hblock_shape]
      exact Tree.holds_of_isSome_element? hblock
    · exact (Tree.lt_size_of_holds hm_holds).trans_le hmoved.size_le
    · rw [hmoved.shape?_eq (Tree.lt_size_of_holds hm_holds)]
      exact Tree.shape?_ne_fragment_of_isSome_element? helement
    · rw [hold hblock_lt, hrank_m]
      exact Nat.lt_succ_self _
  have hall := hmoved.trans happended
  refine ⟨rank', hmade.trans hall, ?_, ?_, ?_⟩
  · rwa [Tree.isSome_element?_congr (hall.shape?_eq (Tree.lt_size_of_holds hm_holds))]
  · rw [hrank_m]
    exact Nat.lt_succ_self _
  · rw [hall.rank_holder hmade.sound hm_holds]
    omega

/-- The block and what goes around it is put to where the formatting element is. -/
theorem exists_lifted (hfits : Fits s.tree rank s.opened)
    (hopened : s.opened = inner ++ block :: between ++ node :: outer)
    (hinside : ∀ n ∈ inner ++ block :: between, s.tree.isNamed n "template" = false ∧
      s.tree.isNamed n "table" = false) :
    let lift := Lifting.run block { base := s, top := block } 1 between
    let s' := { lift.base with tree := lift.base.tree.detach lift.top }
    ∃ last ∈ block :: between, ∃ rank', lift.Sound s rank block last rank' ∧
      Extends lift.base.tree rank' (s'.put (s'.placeIn (outer.headD 0)) lift.top).tree rank' := by
  intro lift s'
  have hmem {n : ℕ} (hn : n ∈ inner ++ block :: between) : n ∈ s.opened := by
    rw [hopened]
    exact List.mem_append_left _ hn
  have hmem_block {n : ℕ} (hn : n ∈ block :: between) : n ∈ s.opened :=
    hmem (List.mem_append_right _ hn)
  -- the elements between the block and the formatting element are below it, and above what is
  -- put into the others
  have hstacked := hfits.stacked
  rw [hopened, List.append_assoc, List.pairwise_append] at hstacked
  obtain ⟨hinside_stacked, -, hcross⟩ := hstacked
  have hchain : (block :: between).Pairwise fun inner outer => rank outer < rank inner :=
    (List.pairwise_append.1 hinside_stacked).2.1.imp fun {_ outer} hlt =>
      (hfits.sound.rank_le_holder outer).trans_lt hlt
  obtain ⟨last, hlast, rank', hlift⟩ :=
    (Lifting.Sound.start hfits.sound (hfits.isSome_element? (hmem_block List.mem_cons_self))).run
      hchain (List.pairwise_cons.1 hchain).1 1
  refine ⟨last, hlast, rank', hlift, ?_⟩
  have htop_shape := Tree.shape?_ne_fragment_of_isSome_element? hlift.isSome_top
  have hdetached : Extends lift.base.tree rank' s'.tree rank' :=
    hlift.grown.sound.extends_detach htop_shape
  have hall := hlift.grown.trans hdetached
  have hbounds {n : ℕ} (hn : n ∈ node :: outer ++ [0]) :
      Bounds s'.tree rank' (rank' lift.top) n := by
    have hn_holds : s.tree.holds n = true := by
      refine hfits.holds_of_mem ?_
      rw [hopened, List.append_assoc]
      exact List.mem_append_right _ hn
    refine ⟨?_, ?_⟩
    · rwa [Tree.holds_congr (hall.shape?_eq (Tree.lt_size_of_holds hn_holds))]
    · rw [hall.rank_holder hfits.sound.spread hn_holds]
      have hlt := hcross last (List.mem_append_right _ hlast) n hn
      exact (Nat.mul_lt_mul_of_pos_left hlt (by omega)).trans_le hlift.top_ge
  have hfoster : (s'.fosterPlace s'.opened).Below s'.tree rank' (rank' lift.top) := by
    have hopened' : s'.opened = (inner ++ block :: between) ++ node :: outer :=
      hlift.opened_eq.trans hopened
    have hroot : s'.root ∈ node :: outer := root_mem_of_opened_eq hopened'
    rw [hopened', fosterPlace_append fun n hn => ?_]
    · refine fosterPlace_below hdetached.sound (hbounds (List.mem_append_left _ hroot)).1 ?_
        fun n hn => hbounds (List.mem_append_left _ hn)
      exact (hbounds (List.mem_append_left _ hroot)).rank_lt hdetached.sound
    · have hshape := hall.shape?_eq (Tree.lt_size_of_holds (hfits.holds (hmem hn)))
      rw [Tree.isNamed_congr hshape, Tree.isNamed_congr hshape]
      exact hinside n hn
  have htarget : outer.headD 0 ∈ node :: outer ++ [0] := by
    cases outer with
    | nil => simp
    | cons n rest => simp
  refine hdetached.trans (extends_put hdetached.sound
    (placeIn_below_of_fosterPlace hdetached.sound hfoster (hbounds htarget)) ?_ ?_)
  · exact (Tree.lt_size_of_holds (Tree.holds_of_isSome_element? hlift.isSome_top)).trans_le
      hdetached.size_le
  · rwa [hdetached.shape?_eq
      (Tree.lt_size_of_holds (Tree.holds_of_isSome_element? hlift.isSome_top))]

/-- The elements that are open after a split fit to the tree. Its ranks are nine times those before
for the nodes that were there, so that there is room for the elements that were made. -/
theorem fits_split {lift : Lifting} {t : Tree} {rank' rank'' : ℕ → ℕ} {last m : ℕ}
    (hfits : Fits s.tree rank s.opened)
    (hopened : s.opened = inner ++ block :: between ++ node :: outer)
    (htemplate : s.tree.isNamed block "template" = false) (hlast : last ∈ block :: between)
    (hlift : lift.Sound s rank block last rank')
    (hgrown : Extends lift.base.tree (3 * rank' ·) t rank'') (hm : (t.element? m).isSome)
    (hblock_m : 9 * rank block < rank'' m) (hm_inner : rank'' (t.holder m) < 9 * rank block + 9) :
    Fits t rank'' (inner ++ m :: block :: lift.between ++ outer) := by
  have hall := hlift.grown.spread.trans hgrown
  have hrank {n : ℕ} (hn : n ∈ s.opened) : rank'' n = 9 * rank n := by
    have hspread : rank'' n = 3 * (3 * rank n) :=
      hall.rank_eq (Tree.lt_size_of_holds (hfits.holds hn))
    omega
  have hholder {n : ℕ} (hn : n ∈ s.opened ++ [0]) :
      rank'' (t.holder n) = 9 * rank (s.tree.holder n) := by
    have hspread : rank'' (t.holder n) = 3 * (3 * rank (s.tree.holder n)) :=
      hall.rank_holder hfits.sound.spread.spread (hfits.holds_of_mem hn)
    omega
  have hbetween_holds {b : ℕ} (hb : b ∈ lift.between) : lift.base.tree.holds b = true :=
    Tree.holds_of_isSome_element? (hlift.isSome_between hb)
  have hbetween_rank {b : ℕ} (hb : b ∈ lift.between) : rank'' b = 3 * rank' b :=
    hgrown.rank_eq (Tree.lt_size_of_holds (hbetween_holds hb))
  have hbetween_holder {b : ℕ} (hb : b ∈ lift.between) :
      rank'' (t.holder b) = 3 * rank' (lift.base.tree.holder b) :=
    hgrown.rank_holder hlift.grown.sound.spread (hbetween_holds hb)
  -- what was open before, without what is between the block and the formatting element
  have hsub : (inner ++ block :: outer).Sublist s.opened := by
    rw [hopened, List.append_assoc]
    exact (((List.sublist_cons_self node outer).trans
      (List.sublist_append_right between _)).cons_cons block).append_left inner
  have hblock : block ∈ s.opened :=
    hsub.subset (List.mem_append_right _ List.mem_cons_self)
  have hstacked := hfits.stacked
  rw [hopened, List.append_assoc, List.pairwise_append] at hstacked
  obtain ⟨hinside, -, hcross⟩ := hstacked
  refine ((hfits.spread.spread.extend hall).sublist hsub).insert hm (fun b hb => ?_)
    (fun n hn => ?_) ?_ (fun b hb => ?_) ?_ (fun b hb n hn => ?_)
  · rw [Tree.isSome_element?_congr
      (hgrown.shape?_eq (Tree.lt_size_of_holds (hbetween_holds hb)))]
    exact hlift.isSome_between hb
  · have hlt := (List.pairwise_append.1 hinside).2.2 n hn block List.mem_cons_self
    have hle := hfits.sound.rank_le_holder block
    rw [hrank (hsub.subset (List.mem_append_left _ hn))]
    omega
  · rw [hholder (List.mem_append_left _ hblock), Tree.holder, htemplate,
      if_neg Bool.false_ne_true]
    exact hblock_m
  · have hlt := hlift.between_lt hb
    rw [hbetween_holder hb, hrank hblock]
    omega
  · refine hlift.stacked.imp_of_mem fun {inner outer} hinner houter hlt => ?_
    rw [hbetween_holder houter, hbetween_rank hinner]
    omega
  · have hn' : n ∈ node :: outer ++ [0] := List.mem_cons_of_mem node hn
    have hge := hlift.between_ge hb
    have hlt := hcross last (List.mem_append_right _ hlast) n hn'
    have hmem : n ∈ s.opened ++ [0] := by
      rw [hopened, List.append_assoc]
      exact List.mem_append_right _ hn'
    rw [hbetween_rank hb, hholder hmem]
    omega

/-- A formatting element may be split at a block inside of it, when neither a table nor a template
is in between. -/
theorem Sound.split (h : s.Sound) (tag : Tag)
    (hopened : s.opened = inner ++ block :: between ++ node :: outer)
    (hinside : ∀ n ∈ inner ++ block :: between, s.tree.isNamed n "template" = false ∧
      s.tree.isNamed n "table" = false) :
    (s.split node tag inner block between outer).Sound := by
  obtain ⟨rank, hfits⟩ := h.fits
  have hblock : block ∈ s.opened := by
    rw [hopened]
    exact List.mem_append_left _ (List.mem_append_right _ List.mem_cons_self)
  have hblock_lt := Tree.lt_size_of_holds (hfits.holds hblock)
  have htemplate := (hinside block (List.mem_append_right _ List.mem_cons_self)).1
  obtain ⟨last, hlast, rank', hlift, hput⟩ := exists_lifted hfits hopened hinside
  generalize hlift_eq : Lifting.run block { base := s, top := block } 1 between = lift
    at hlift hput
  generalize hs' : Construction.put { lift.base with tree := lift.base.tree.detach lift.top }
    (Construction.placeIn { lift.base with tree := lift.base.tree.detach lift.top }
      (outer.headD 0)) lift.top = s' at hput
  have hhead : s'.head = s.head := by
    rw [← hs', head_put]
    exact hlift.head_eq
  -- the contents of the block are put into another element
  have hgrown := hlift.grown.trans hput
  have hplaced : Fits s'.tree rank' s.opened := hfits.spread.extend hgrown
  have htemplate' : s'.tree.isNamed block "template" = false := by
    rw [Tree.isNamed_congr (hgrown.shape?_eq hblock_lt), htemplate]
  obtain ⟨rank'', hwrapped, hm, hblock_m, hm_inner⟩ :=
    extends_embrace hplaced.sound (hplaced.isSome_element? hblock) htemplate' (elementOf tag)
  generalize htree : ((s'.makeElement (elementOf tag)).tree.moveChildren block
    s'.tree.size).append block s'.tree.size = tree at hwrapped hm hm_inner
  have hrank_block : rank' block = 3 * rank block := hgrown.rank_eq hblock_lt
  have hopen : Fits tree rank'' (inner ++ s'.tree.size :: block :: lift.between ++ outer) :=
    fits_split hfits hopened htemplate hlast hlift (hput.spread.trans hwrapped) hm (by omega)
      (by omega)
  refine ⟨⟨rank'', ?_⟩, fun {n} hn => ?_⟩
  · rw [← htree] at hopen
    simp only [Construction.split, hlift_eq, hs']
    exact hopen
  · simp only [Construction.split, hlift_eq, hs', htree] at hn ⊢
    rw [head_makeElement, hhead] at hn
    have hn' := h.holds_head hn
    have hn_lt := Tree.lt_size_of_holds hn'
    rwa [Tree.holds_congr (hwrapped.shape?_eq (hn_lt.trans_le hgrown.size_le)),
      Tree.holds_congr (hgrown.shape?_eq hn_lt)]

end Split

/-! ### Formatting elements -/

/-- Inside of a wanted node that is reached there are no bounds. -/
theorem not_bounds_of_reaches {t : Tree} {bounds : Element → Bool} {node : ℕ} {ns : List NodeId}
    (h : reaches t bounds (· = node) ns = true) {n : ℕ} (hn : n ∈ ns.takeWhile (· ≠ node)) :
    (t.element? n).any bounds = false := by
  induction ns with
  | nil => cases hn
  | cons m rest ih =>
    rw [List.takeWhile_cons] at hn
    split at hn
    next hm =>
      have hm' : decide (m = node) = false := by simpa using hm
      rw [reaches, hm', Bool.false_or, Bool.and_eq_true, Bool.not_eq_true'] at h
      rcases List.mem_cons.1 hn with rfl | hn
      · exact h.1
      · exact ih h.2 hn
    next => cases hn

/-- From a node on, a list begins with it. -/
theorem dropWhile_ne_eq_cons {node : ℕ} {ns : List NodeId} (h : node ∈ ns) :
    ns.dropWhile (· ≠ node) = node :: (ns.dropWhile (· ≠ node)).drop 1 := by
  induction ns with
  | nil => cases h
  | cons n rest ih =>
    by_cases hn : n = node
    · simp [hn]
    · rw [List.dropWhile_cons_of_pos (by simpa using hn)]
      exact ih ((List.mem_cons.1 h).resolve_left (Ne.symm hn))

/-- Tables and templates bound scopes. -/
theorem neither_of_not_boundsScope {t : Tree} {n : ℕ}
    (h : (t.element? n).any Element.boundsScope = false) :
    t.isNamed n "template" = false ∧ t.isNamed n "table" = false := by
  unfold Tree.isNamed
  cases he : t.element? n with
  | none => exact ⟨rfl, rfl⟩
  | some e =>
    rw [he, Option.any_some, Element.boundsScope, Bool.or_eq_false_iff, Bool.or_eq_false_iff] at h
    simp only [Element.isAmong, Element.isNamed] at h ⊢
    constructor <;>
    · by_contra hnamed
      rw [Bool.not_eq_false, Bool.and_eq_true, decide_eq_true_eq] at hnamed
      simp [hnamed.1, of_decide_eq_true hnamed.2] at h

namespace Sound

variable {s : Construction}

@[grind ←]
theorem unformat (h : s.Sound) (n : NodeId) : (s.unformat n).Sound := ⟨h.fits, h.holds_head⟩

theorem reopen (h : s.Sound) (entries : List Formatting) : (s.reopen entries).Sound := by
  induction entries generalizing s with
  | nil => exact h
  | cons entry rest ih =>
    cases entry with
    | marker => exact ih h
    | element n tag =>
      have hopened := h.openElement (elementOf tag)
      exact ih ⟨hopened.fits, hopened.holds_head⟩

@[grind ←]
theorem reconstruct (h : s.Sound) : s.reconstruct.Sound := by
  unfold Construction.reconstruct
  refine Sound.reopen ?_ _
  exact ⟨h.fits, h.holds_head⟩

@[grind ←]
theorem openFormatting (h : s.Sound) (tag : Tag) : (s.openFormatting tag).Sound := by
  have hopened := h.openElement (elementOf tag)
  exact ⟨hopened.fits, hopened.holds_head⟩

@[grind ←]
theorem closeAny (h : s.Sound) (name : String) : (s.closeAny name).Sound := by
  unfold Construction.closeAny
  split
  next => exact h
  next n outer heq =>
    refine Sound.ite (h.of_sublist rfl ?_ rfl) h
    have hsub := List.dropWhile_sublist (l := s.opened) fun n =>
      !s.tree.isNamed n name && !(s.tree.element? n).any (·.isSpecial)
    rw [heq] at hsub
    exact (List.sublist_cons_self n outer).trans hsub

/-- The end tag of a formatting element may be taken. -/
theorem adopt (h : s.Sound) (name : String) (times : Nat) : (adopt name times s).Sound := by
  induction times generalizing s with
  | zero => exact h
  | succ times ih =>
    rw [Construction.adopt]
    split
    next => exact h.closeAny name
    next node tag _ =>
      split
      next => exact h.unformat node
      next hmem =>
        split
        next => exact h
        next hscope =>
          have houter : s.opened.dropWhile (· ≠ node) =
              node :: (s.opened.dropWhile (· ≠ node)).drop 1 :=
            dropWhile_ne_eq_cons (by simpa using hmem)
          have hopened := List.takeWhile_append_dropWhile (p := (· ≠ node)) (l := s.opened)
          rw [houter] at hopened
          dsimp only
          split
          next =>
            have hclosed : Construction.Sound
                { s with opened := (s.opened.dropWhile (· ≠ node)).drop 1 } :=
              h.of_sublist rfl ((List.drop_sublist 1 _).trans (List.dropWhile_sublist _)) rfl
            exact hclosed.unformat node
          next block inward heq =>
            -- the elements inside of the formatting element, from the innermost to the outermost
            have hinside := List.takeWhile_append_dropWhile
              (p := fun n => !(s.tree.element? n).any (·.isSpecial))
              (l := (s.opened.takeWhile (· ≠ node)).reverse)
            rw [heq, ← List.reverse_inj, List.reverse_reverse, List.reverse_append,
              List.reverse_cons, List.append_assoc, List.singleton_append] at hinside
            refine ih (h.split tag ?_ fun n hn => ?_)
            · rw [hinside]
              exact hopened.symm
            · rw [hinside] at hn
              exact neither_of_not_boundsScope
                (not_bounds_of_reaches (by simpa [Construction.inScope] using hscope) hn)

@[grind ←]
theorem closeFormatting (h : s.Sound) (name : String) : (s.closeFormatting name).Sound :=
  h.pop.ite (h.adopt name 8)

@[grind ←]
theorem closeLink (h : s.Sound) : s.closeLink.Sound := by
  unfold Construction.closeLink
  split
  next => exact h
  next n _ => exact ((h.closeFormatting "a").unformat n).forget n

end Sound

end Gleaner.Html.Construction
