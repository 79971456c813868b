import Gleaner.Html.Construction.Formatting
import Gleaner.Proofs.Html.Changes

/-!
# Putting nodes into a tree under construction

Where a node goes depends on the open elements. They stand in the tree one above the other, or at
least none of them is above one that was opened before it, so that a new node can be put below any
of them.

## Main definitions

* `Construction.Fits`: the open elements fit to a tree.
* `Construction.Sound`: the tree is sound, and the open elements fit to it.
* `Construction.Place.Below`: a place is below nodes of low ranks.

## Main results

* `Construction.placeIn_below`: where a node goes.
* `Construction.extends_put`, `Construction.extends_makeElement`, `Construction.extends_insertText`,
  `Construction.extends_insertElement`: putting and making nodes.
* `Construction.Fits.insertElement`: a new element may be opened.
-/

namespace Gleaner.Html.Construction

open Gleaner.Html.Tree (Extends Grows topped topped_of_lt topped_lt_topped)

/-- The place is at nodes that may have others below them, and that have ranks below a bound. -/
def Place.Below (t : Tree) (rank : ℕ → ℕ) (bound : ℕ) : Place → Prop
  | .within p => t.holds p = true ∧ rank p < bound
  | .before sibling =>
    t.shape? sibling ≠ some .fragment ∧ ∀ p, t.parent? sibling = some p → rank p < bound

/-- The open elements fit to a sound tree: what goes into an outer one is not below an inner one.
The root stands for an outermost one. -/
structure Fits (t : Tree) (rank : ℕ → ℕ) (opened : List NodeId) : Prop where
  sound : t.Sound rank
  isSome_element? {n : ℕ} (hn : n ∈ opened) : (t.element? n).isSome
  stacked : (opened ++ [0]).Pairwise fun inner outer => rank (t.holder outer) < rank inner

/-- The tree is sound, and the open elements fit to it. -/
structure Sound (s : Construction) : Prop where
  fits : ∃ rank, Fits s.tree rank s.opened
  holds_head {n : ℕ} (hn : s.head = some n) : s.tree.holds n = true

variable {s : Construction} {rank rank' : ℕ → ℕ} {opened : List NodeId} {n : ℕ} {bound : ℕ}

/-! ### Where a node goes -/

/-- Nodes that hold others, in which a place is below a bound. -/
def Bounds (t : Tree) (rank : ℕ → ℕ) (bound : ℕ) (n : ℕ) : Prop :=
  t.holds n = true ∧ rank (t.holder n) < bound

theorem Bounds.rank_lt {t : Tree} (h : Bounds t rank bound n) (ht : t.Sound rank) :
    rank n < bound :=
  (ht.rank_le_holder n).trans_lt h.2

/-- The root is among the open elements from each of them outwards. -/
theorem root_mem_of_opened_eq {inner outer : List NodeId} {n : ℕ}
    (hopened : s.opened = inner ++ n :: outer) : s.root ∈ n :: outer := by
  have hne := List.cons_ne_nil n outer
  rw [root, List.getLastD_eq_getLast?, hopened, List.getLast?_append_of_ne_nil _ hne,
    List.getLast?_eq_some_getLast hne]
  exact List.getLast_mem hne

theorem root_mem (s : Construction) : s.root ∈ s.opened ++ [0] := by
  cases hopened : s.opened with
  | nil => simp [root, hopened]
  | cons n outer =>
    have happend : s.opened = [] ++ n :: outer := hopened
    exact List.mem_append_left _ (root_mem_of_opened_eq happend)

/-- What is not in a table or a template does not count for what is moved out of tables. -/
theorem fosterPlace_append {inner outer : List NodeId}
    (hinner : ∀ n ∈ inner, s.tree.isNamed n "template" = false ∧
      s.tree.isNamed n "table" = false) :
    s.fosterPlace (inner ++ outer) = s.fosterPlace outer := by
  induction inner with
  | nil => rfl
  | cons n rest ih =>
    obtain ⟨⟨htemplate, htable⟩, hrest⟩ := List.forall_mem_cons.1 hinner
    rw [List.cons_append, fosterPlace, htemplate, htable]
    exact ih hrest

/-- What is moved out of a table goes below the bound of the elements around it. -/
theorem fosterPlace_below (ht : s.tree.Sound rank) (hroot : s.tree.holds s.root = true)
    (hroot_lt : rank s.root < bound) {ns : List NodeId}
    (hns : ∀ n ∈ ns, Bounds s.tree rank bound n) :
    (s.fosterPlace ns).Below s.tree rank bound := by
  -- by induction on the open elements, up to the table or template that decides
  induction ns with
  | nil => exact ⟨hroot, hroot_lt⟩
  | cons n rest ih =>
    obtain ⟨hn, hrest⟩ := List.forall_mem_cons.1 hns
    rw [fosterPlace]
    split
    next => exact ⟨ht.holds_holder hn.1, hn.2⟩
    next =>
      split
      next htable =>
        split
        next =>
          -- in front of the table
          refine ⟨Tree.shape?_ne_fragment_of_isSome_element?
            (Tree.isSome_element?_of_isNamed htable), fun p hp => ?_⟩
          exact (ht.rank_lt hp).trans (hn.rank_lt ht)
        next =>
          cases rest with
          | nil =>
            refine ⟨ht.holds_zero, ?_⟩
            have hpos := hn.2
            show rank 0 < bound
            rw [ht.rank_zero]
            omega
          | cons m rest =>
            have hm := hrest m List.mem_cons_self
            exact ⟨hm.1, hm.rank_lt ht⟩
      next => exact ih hrest

theorem placeIn_below_of_fosterPlace (ht : s.tree.Sound rank) {target : ℕ}
    (hfoster : (s.fosterPlace s.opened).Below s.tree rank bound)
    (htarget : Bounds s.tree rank bound target) :
    (s.placeIn target).Below s.tree rank bound := by
  rw [placeIn]
  split
  next => exact hfoster
  next => exact ⟨ht.holds_holder htarget.1, htarget.2⟩

/-- A node goes below the bound of the open elements and of the one that it is put into. -/
theorem placeIn_below (ht : s.tree.Sound rank) {target : ℕ}
    (hopened : ∀ n ∈ s.opened, Bounds s.tree rank bound n)
    (htarget : Bounds s.tree rank bound target) :
    (s.placeIn target).Below s.tree rank bound := by
  have hroot : s.tree.holds s.root = true ∧ rank s.root < bound := by
    rcases List.mem_append.1 s.root_mem with hroot | hroot
    · exact ⟨(hopened _ hroot).1, (hopened _ hroot).rank_lt ht⟩
    · rw [List.mem_singleton.1 hroot, ht.rank_zero]
      exact ⟨ht.holds_zero, Nat.zero_lt_of_lt htarget.2⟩
  exact placeIn_below_of_fosterPlace ht (fosterPlace_below ht hroot.1 hroot.2 hopened) htarget

/-! ### Putting and making -/

/-- A node put at a place below its rank. -/
theorem extends_put (ht : s.tree.Sound rank) {place : Place}
    (hplace : place.Below s.tree rank (rank n)) (hn : n < s.tree.size)
    (hfragment : s.tree.shape? n ≠ some .fragment) :
    Extends s.tree rank (s.put place n).tree rank := by
  cases place with
  | within p => exact ht.extends_append hplace.1 hn hfragment hplace.2
  | before sibling => exact ht.extends_place hplace.1 hn hfragment hplace.2

@[simp]
theorem content?_put (place : Place) {k : ℕ} :
    (s.put place n).tree.content? k = s.tree.content? k := by
  cases place with
  | within p => exact Tree.content?_append
  | before sibling => exact Tree.content?_place

@[simp]
theorem opened_put (place : Place) : (s.put place n).opened = s.opened := by
  cases place <;> rfl

@[simp]
theorem head_put (place : Place) : (s.put place n).head = s.head := by
  cases place <;> rfl

@[simp]
theorem opened_makeElement (e : Element) : (s.makeElement e).opened = s.opened := by
  unfold makeElement
  dsimp only
  split <;> rfl

@[simp]
theorem head_makeElement (e : Element) : (s.makeElement e).head = s.head := by
  unfold makeElement
  dsimp only
  split <;> rfl

/-- An element is made with its contents when it is a template. -/
theorem tree_makeElement (e : Element) : (s.makeElement e).tree =
    if e.isNamed "template" then s.tree.pushTemplate e else s.tree.push (.element e) := by
  unfold makeElement
  dsimp only
  split
  next =>
    show ((s.tree.push (.element e)).push .fragment).append s.tree.size
      (s.tree.push (.element e)).size = _
    rw [Tree.size_push, Tree.pushTemplate]
  next => rfl

/-- An element made, as a node of any rank. -/
theorem extends_makeElement (ht : s.tree.Sound rank)
    (hrank : ∀ k < s.tree.size, rank' k = rank k)
    (hlt : rank' s.tree.size < rank' (s.tree.size + 1)) (e : Element) :
    Extends s.tree rank (s.makeElement e).tree rank' := by
  rw [tree_makeElement]
  split
  next he => exact ht.extends_pushTemplate hrank hlt he
  next he => exact ht.extends_push hrank (by simpa using he)

/-- The element has the number that the tree had as its size. -/
theorem isSome_element?_makeElement (e : Element) :
    ((s.makeElement e).tree.element? s.tree.size).isSome := by
  have hcontent : (s.makeElement e).tree.content? s.tree.size = some (.element e) := by
    rw [tree_makeElement]
    split
    next => rw [Tree.content?_pushTemplate, if_neg (by omega), if_pos rfl]
    next => rw [Tree.content?_push, if_pos rfl]
  rw [Tree.element?, hcontent]
  rfl

theorem isSome_element?_put_makeElement (e : Element) (place : Place) :
    (((s.makeElement e).put place s.tree.size).tree.element? s.tree.size).isSome := by
  have helement : ((s.makeElement e).tree.element? s.tree.size).isSome :=
    isSome_element?_makeElement e
  rw [Tree.element?] at helement ⊢
  simpa only [content?_put] using helement

/-- Only the contents of a template are new below a node, namely below the new element. -/
theorem parent?_makeElement_cases (e : Element) {k p : ℕ}
    (hk : (s.makeElement e).tree.parent? k = some p) :
    s.tree.parent? k = some p ∨ k = s.tree.size + 1 ∧ p = s.tree.size := by
  rw [tree_makeElement] at hk
  split at hk
  next =>
    rw [Tree.parent?_pushTemplate] at hk
    split at hk
    next hsize => exact .inr ⟨hsize, (Option.some.inj hk).symm⟩
    next => exact .inl hk
  next =>
    rw [Tree.parent?_push] at hk
    exact .inl hk

/-- What holds the contents of a new element is the element or the node after it. -/
theorem rank_holder_makeElement_le (ht : s.tree.Sound rank)
    (hrank : ∀ k < s.tree.size, rank' k = rank k)
    (hlt : rank' s.tree.size < rank' (s.tree.size + 1)) (e : Element) :
    rank' ((s.makeElement e).tree.holder s.tree.size) ≤ rank' (s.tree.size + 1) := by
  have hsound := (extends_makeElement ht hrank hlt e).sound
  rcases hsound.holder_cases s.tree.size with heq | ⟨hparent, -⟩
  · rw [heq]
    exact hlt.le
  · rcases parent?_makeElement_cases e hparent with hold | ⟨hsize, -⟩
    · exact absurd (Tree.lt_size_of_holds (ht.holds hold)) (lt_irrefl _)
    · rw [hsize]

/-- An element made that is above none of the others. -/
theorem extends_makeElement_topped (ht : s.tree.Sound rank) (e : Element) :
    Extends s.tree rank (s.makeElement e).tree (topped rank s.tree.size) :=
  extends_makeElement ht (fun _ => topped_of_lt)
    (topped_lt_topped (Nat.lt_succ_self _) (Nat.le_succ _)) e

section Open

/-- Nodes that are there before another one is made bound what is put in them. -/
theorem bounds_topped {t t' : Tree} {rank : ℕ → ℕ} (ht : t.Sound rank)
    (hext : Extends t rank t' (topped rank t.size)) (hn : t.holds n = true) :
    Bounds t' (topped rank t.size) (topped rank t.size t.size) n := by
  have hsize := Tree.lt_size_of_holds hn
  refine ⟨by rwa [Tree.holds_congr (hext.shape?_eq hsize)], ?_⟩
  have hholder := Tree.lt_size_of_holds (ht.holds_holder hn)
  have hlt : topped rank t.size (t.holder n) < topped rank t.size t.size :=
    topped_lt_topped hholder le_rfl
  have hsame : topped rank t.size (t.holder n) = rank (t.holder n) := topped_of_lt hholder
  rwa [hext.rank_holder ht hn, ← hsame]

/-- The innermost open element holds nodes, and so does the root in its place. -/
theorem holds_current (ht : s.tree.Sound rank)
    (hopened : ∀ n ∈ s.opened, s.tree.holds n = true) : s.tree.holds s.current = true := by
  rw [current]
  cases hs : s.opened with
  | nil => exact ht.holds_zero
  | cons n rest => exact hopened n (by simp [hs])

/-- A new node put where it belongs. -/
theorem extends_put_new {s' : Construction} (ht : s.tree.Sound rank)
    (hopened : ∀ n ∈ s.opened, s.tree.holds n = true)
    (hext : Extends s.tree rank s'.tree (topped rank s.tree.size))
    (hsame : s'.opened = s.opened) (hsize : s.tree.size < s'.tree.size)
    (hshape : s'.tree.shape? s.tree.size ≠ some .fragment) :
    Extends s.tree rank (s'.put (s'.placeIn s'.current) s.tree.size).tree
      (topped rank s.tree.size) := by
  have hcurrent : s'.current = s.current := by rw [current, current, hsame]
  refine hext.trans (extends_put hext.sound (placeIn_below hext.sound ?_ ?_) hsize hshape)
  · intro n hn
    rw [hsame] at hn
    exact bounds_topped ht hext (hopened n hn)
  · rw [hcurrent]
    exact bounds_topped ht hext (holds_current ht hopened)

/-- A new element put where it belongs. -/
theorem extends_insertElement (ht : s.tree.Sound rank)
    (hopened : ∀ n ∈ s.opened, s.tree.holds n = true) (e : Element) :
    Extends s.tree rank (s.insertElement e).1.tree (topped rank s.tree.size) := by
  have helement := isSome_element?_makeElement (s := s) e
  exact extends_put_new ht hopened (extends_makeElement_topped ht e) (opened_makeElement e)
    (Tree.lt_size_of_holds (Tree.holds_of_isSome_element? helement))
    (Tree.shape?_ne_fragment_of_isSome_element? helement)

/-- A comment put where it belongs. -/
theorem extends_insertComment (ht : s.tree.Sound rank)
    (hopened : ∀ n ∈ s.opened, s.tree.holds n = true) (text : String) :
    Extends s.tree rank (s.insertComment text).tree (topped rank s.tree.size) := by
  have hmade : Extends s.tree rank (s.make (.comment text)).tree (topped rank s.tree.size) :=
    ht.extends_push (fun _ => topped_of_lt) (by simp)
  refine extends_put_new ht hopened hmade rfl ?_ ?_
  · exact (Tree.size_push s.tree _).symm ▸ Nat.lt_succ_self _
  · show (s.tree.push (.comment text)).shape? s.tree.size ≠ _
    simp [Tree.shape?_push, Content.shape]

/-- A text put where it belongs. -/
theorem extends_insertText (ht : s.tree.Sound rank)
    (hopened : ∀ n ∈ s.opened, s.tree.holds n = true) (text : String) :
    Extends s.tree rank (s.insertText text).tree (topped rank s.tree.size) := by
  -- where the text goes is decided before it is made
  have hsame : Extends s.tree rank s.tree (topped rank s.tree.size) :=
    { Grows.refl s.tree with
      sound := ht.congr_rank fun _ => topped_of_lt
      rank_eq := topped_of_lt }
  have hplace := placeIn_below hsame.sound (fun n hn => bounds_topped ht hsame (hopened n hn))
    (bounds_topped ht hsame (holds_current ht hopened))
  unfold insertText
  split
  next p hp =>
    rw [hp] at hplace
    exact ht.extends_appendText hplace.1 text
  next sibling hsibling =>
    rw [hsibling] at hplace
    exact ht.extends_placeText hplace.1 text

/-- A new node that is not an element put into another one. -/
theorem extends_insertIn (ht : s.tree.Sound rank) {p : ℕ} (hp : s.tree.holds p = true)
    {c : Content} (hc : c.holds = false) :
    Extends s.tree rank ((s.make c).put (.within p) s.tree.size).tree
      (topped rank s.tree.size) := by
  have hpush : Extends s.tree rank (s.make c).tree (topped rank s.tree.size) :=
    ht.extends_push (fun _ => topped_of_lt) (by rintro e rfl; cases hc)
  have hsize := Tree.lt_size_of_holds hp
  refine hpush.trans (extends_put hpush.sound ⟨?_, topped_lt_topped hsize le_rfl⟩ ?_ ?_)
  · rwa [Tree.holds_congr (hpush.shape?_eq hsize)]
  · exact (Tree.size_push s.tree c).symm ▸ Nat.lt_succ_self _
  · show (s.tree.push c).shape? s.tree.size ≠ _
    rw [Tree.shape?_push, if_pos rfl]
    cases c with
    | document | fragment | element e => cases hc
    | doctype name | comment text | text text => simp [Content.shape]

end Open

/-! ### Open elements -/

namespace Fits

variable {t t' : Tree} {inner : List NodeId}

theorem holds (h : Fits t rank opened) (hn : n ∈ opened) : t.holds n = true :=
  Tree.holds_of_isSome_element? (h.isSome_element? hn)

/-- The open elements and the root hold nodes. -/
theorem holds_of_mem (h : Fits t rank opened) (hn : n ∈ opened ++ [0]) : t.holds n = true := by
  rcases List.mem_append.1 hn with hn | hn
  · exact h.holds hn
  · rw [List.mem_singleton.1 hn]
    exact h.sound.holds_zero

/-- Some of the elements may be closed. -/
theorem sublist (h : Fits t rank opened) (hsub : inner.Sublist opened) : Fits t rank inner where
  sound := h.sound
  isSome_element? hn := h.isSome_element? (hsub.subset hn)
  stacked := h.stacked.sublist (hsub.append_right [0])

/-- The tree may change. -/
theorem extend (h : Fits t rank opened) (hext : Extends t rank t' rank') :
    Fits t' rank' opened where
  sound := hext.sound
  isSome_element? {n} hn := by
    rw [Tree.isSome_element?_congr (hext.shape?_eq (Tree.lt_size_of_holds (h.holds hn)))]
    exact h.isSome_element? hn
  stacked := by
    -- the ranks are those from before the change
    refine h.stacked.imp_of_mem fun {inner outer} hinner houter hlt => ?_
    rwa [hext.rank_holder h.sound (h.holds_of_mem houter),
      hext.rank_eq (Tree.lt_size_of_holds (h.holds_of_mem hinner))]

/-- Ranks may be spread, to make room between them. -/
theorem spread (h : Fits t rank opened) : Fits t (3 * rank ·) opened where
  sound := h.sound.spread
  isSome_element? hn := h.isSome_element? hn
  stacked := h.stacked.imp fun hlt => Nat.mul_lt_mul_of_pos_left hlt (by omega)

/-- An element may be opened that is above what goes into the others. -/
theorem cons (h : Fits t rank opened) (hn : (t.element? n).isSome)
    (hlt : ∀ m ∈ opened ++ [0], rank (t.holder m) < rank n) : Fits t rank (n :: opened) where
  sound := h.sound
  isSome_element? {m} hm := by
    rcases List.mem_cons.1 hm with rfl | hm
    · exact hn
    · exact h.isSome_element? hm
  stacked := List.pairwise_cons.2 ⟨hlt, h.stacked⟩

/-- A new element may be opened. -/
theorem cons_new (h : Fits t rank opened) (hext : Extends t rank t' (topped rank t.size))
    (hn : (t'.element? t.size).isSome) : Fits t' (topped rank t.size) (t.size :: opened) := by
  refine (h.extend hext).cons hn fun m hm => ?_
  exact (bounds_topped h.sound hext (h.holds_of_mem hm)).2

/-- An element that is put where it belongs may be opened. -/
theorem insertElement (h : Fits s.tree rank opened)
    (hopened : ∀ n ∈ s.opened, s.tree.holds n = true) (e : Element) :
    Fits (s.insertElement e).1.tree (topped rank s.tree.size) (s.tree.size :: opened) := by
  have hext := extends_insertElement h.sound hopened e
  refine h.cons_new hext ?_
  exact isSome_element?_put_makeElement e _

end Fits

/-! ### Sound constructions -/

namespace Sound

/-- Only the tree, the open elements and the head count. -/
theorem of_sublist (h : s.Sound) {s' : Construction} (htree : s'.tree = s.tree)
    (hopened : s'.opened.Sublist s.opened) (hhead : s'.head = s.head) : s'.Sound where
  fits := by
    obtain ⟨rank, hfits⟩ := h.fits
    exact ⟨rank, htree ▸ hfits.sublist hopened⟩
  holds_head hn := by
    rw [htree]
    exact h.holds_head (hhead ▸ hn)

/-- The tree may change, and some elements may be closed. -/
theorem extend (h : s.Sound) {s' : Construction}
    (hext : ∀ rank, Fits s.tree rank s.opened → ∃ rank', Extends s.tree rank s'.tree rank')
    (hopened : s'.opened = s.opened) (hhead : s'.head = s.head) : s'.Sound := by
  obtain ⟨rank, hfits⟩ := h.fits
  obtain ⟨rank', hext⟩ := hext rank hfits
  refine ⟨⟨rank', hopened ▸ hfits.extend hext⟩, fun {n} hn => ?_⟩
  have hn' := h.holds_head (hhead ▸ hn)
  rwa [Tree.holds_congr (hext.shape?_eq (Tree.lt_size_of_holds hn'))]

theorem holds_root (h : s.Sound) : s.tree.holds s.root = true := by
  obtain ⟨rank, hfits⟩ := h.fits
  exact hfits.holds_of_mem s.root_mem

theorem holds_zero (h : s.Sound) : s.tree.holds 0 = true := by
  obtain ⟨rank, hfits⟩ := h.fits
  exact hfits.sound.holds_zero

/-- Either of two constructions. -/
theorem ite {p : Prop} [Decidable p] {s' : Construction} (h : s.Sound) (h' : s'.Sound) :
    (if p then s else s').Sound := by
  split
  · exact h
  · exact h'

@[grind ←]
theorem switchTo (h : s.Sound) (mode : Mode) : (s.switchTo mode).Sound := ⟨h.fits, h.holds_head⟩

@[grind ←]
theorem forbidFrames (h : s.Sound) : s.forbidFrames.Sound := ⟨h.fits, h.holds_head⟩

@[grind ←]
theorem mark (h : s.Sound) : s.mark.Sound := ⟨h.fits, h.holds_head⟩

@[grind ←]
theorem clearToMarker (h : s.Sound) : s.clearToMarker.Sound := ⟨h.fits, h.holds_head⟩

@[grind ←]
theorem resetMode (h : s.Sound) : s.resetMode.Sound := h.switchTo _

@[grind ←]
theorem pop (h : s.Sound) : s.pop.Sound := h.of_sublist rfl (List.tail_sublist _) rfl

@[grind ←]
theorem popUntil (h : s.Sound) (p : NodeId → Bool) : (s.popUntil p).Sound :=
  h.of_sublist rfl ((List.tail_sublist _).trans (List.dropWhile_sublist _)) rfl

@[grind ←]
theorem close (h : s.Sound) (name : String) : (s.close name).Sound := h.popUntil _

@[grind ←]
theorem popTo (h : s.Sound) (names : List String) : (s.popTo names).Sound :=
  h.of_sublist rfl (List.dropWhile_sublist _) rfl

@[grind ←]
theorem popWhile (h : s.Sound) (names : List String) : (s.popWhile names).Sound :=
  h.of_sublist rfl (List.dropWhile_sublist _) rfl

@[grind ←]
theorem popImplied (h : s.Sound) (but : String) : (s.popImplied but).Sound := h.popWhile _

@[grind ←]
theorem closeWithImplied (h : s.Sound) (name : String) : (s.closeWithImplied name).Sound :=
  (h.popWhile _).close name

@[grind ←]
theorem forget (h : s.Sound) (n : NodeId) : (s.forget n).Sound :=
  h.of_sublist rfl List.filter_sublist rfl

@[grind ←]
theorem closeParagraph (h : s.Sound) : s.closeParagraph.Sound :=
  ((h.popImplied "p").close "p").ite h

@[grind ←]
theorem insertText (h : s.Sound) (text : String) : (s.insertText text).Sound := by
  refine h.extend
    (fun rank hfits => ⟨_, extends_insertText hfits.sound (fun _ => hfits.holds) text⟩) ?_ ?_ <;>
  · unfold Construction.insertText
    split <;> rfl

@[grind ←]
theorem insertElement (h : s.Sound) (e : Element) : (s.insertElement e).1.Sound := by
  refine h.extend
    (fun rank hfits => ⟨_, extends_insertElement hfits.sound (fun _ => hfits.holds) e⟩) ?_ ?_ <;>
  simp [Construction.insertElement]

@[grind ←]
theorem openElement (h : s.Sound) (e : Element) : (s.openElement e).1.Sound where
  fits := by
    obtain ⟨rank, hfits⟩ := h.fits
    have hnew := hfits.insertElement (fun _ => hfits.holds) e
    have hopened : (s.insertElement e).1.opened = s.opened := by
      simp [Construction.insertElement]
    refine ⟨topped rank s.tree.size, ?_⟩
    show Fits (s.insertElement e).1.tree _ (s.tree.size :: (s.insertElement e).1.opened)
    rw [hopened]
    exact hnew
  holds_head hn := (h.insertElement e).holds_head hn

@[grind ←]
theorem openTag (h : s.Sound) (tag : Tag) : (s.openTag tag).Sound := h.openElement _

@[grind ←]
theorem insertTag (h : s.Sound) (tag : Tag) : (s.insertTag tag).Sound := h.insertElement _

@[grind ←]
theorem openNamed (h : s.Sound) (name : String) : (s.openNamed name).Sound := h.openTag _

@[grind ←]
theorem openRaw (h : s.Sound) (tag : Tag) (reading : TextMode) : (s.openRaw tag reading).Sound :=
  ⟨(h.openTag tag).fits, (h.openTag tag).holds_head⟩

@[grind ←]
theorem insertComment (h : s.Sound) (text : String) : (s.insertComment text).Sound := by
  refine h.extend
    (fun rank hfits => ⟨_, extends_insertComment hfits.sound (fun _ => hfits.holds) text⟩) ?_ ?_ <;>
  simp [Construction.insertComment, Construction.make]

/-- A comment put into a node that holds others. -/
theorem insertCommentIn (h : s.Sound) {p : ℕ} (hp : s.tree.holds p = true) (text : String) :
    (s.insertCommentIn p text).Sound :=
  h.extend (fun _ hfits => ⟨_, extends_insertIn hfits.sound hp rfl⟩) rfl rfl

@[grind ←]
theorem insertCommentIn_zero (h : s.Sound) (text : String) : (s.insertCommentIn 0 text).Sound :=
  h.insertCommentIn h.holds_zero text

@[grind ←]
theorem insertCommentIn_root (h : s.Sound) (text : String) :
    (s.insertCommentIn s.root text).Sound :=
  h.insertCommentIn h.holds_root text

/-- An element made, and not put anywhere. -/
theorem makeElement (h : s.Sound) (e : Element) : (s.makeElement e).Sound :=
  h.extend (fun _ hfits => ⟨_, extends_makeElement_topped hfits.sound e⟩) (opened_makeElement e)
    (head_makeElement e)

@[grind ←]
theorem openRoot (h : s.Sound) (attrs : List (String × String)) : (s.openRoot attrs).Sound := by
  generalize he : elementOf { name := "html", attrs } = e
  obtain ⟨rank, hfits⟩ := h.fits
  have hmade := extends_makeElement_topped hfits.sound e
  have hnew := isSome_element?_makeElement (s := s) e
  have hzero := bounds_topped hfits.sound hmade hfits.sound.holds_zero
  have hput : Extends s.tree rank ((s.makeElement e).put (.within 0) s.tree.size).tree
      (topped rank s.tree.size) :=
    hmade.trans (extends_put hmade.sound ⟨hzero.1, hzero.rank_lt hmade.sound⟩
      (Tree.lt_size_of_holds (Tree.holds_of_isSome_element? hnew))
      (Tree.shape?_ne_fragment_of_isSome_element? hnew))
  refine ⟨⟨topped rank s.tree.size, ?_⟩, fun {n} hn => ?_⟩
  · have hopened : (s.makeElement e).opened = s.opened := opened_makeElement e
    simp only [Construction.openRoot, he, hopened]
    exact hfits.cons_new hput (isSome_element?_put_makeElement e _)
  · simp only [Construction.openRoot, he, head_put, head_makeElement] at hn ⊢
    have hn' := h.holds_head hn
    rwa [Tree.holds_congr (hput.shape?_eq (Tree.lt_size_of_holds hn'))]

end Sound

end Gleaner.Html.Construction
