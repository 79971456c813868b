import Gleaner.Proofs.Html.Sound

/-!
# Changes of trees

What a change of a sound tree keeps: no node turns into another one, and the contents of templates
stay in their places. The ranks of the nodes that were there are the same afterwards, new nodes have
ranks above them.

## Main definitions

* `Tree.Grows`: what no change of a tree takes back.
* `Tree.Extends`: a change that keeps the tree sound, with the ranks that it had.
* `Tree.topped`: ranks by which new nodes are above all others.

## Main results

* `Tree.Sound.extends_detach`, `Tree.Sound.extends_append`, `Tree.Sound.extends_place`: moving a
  node.
* `Tree.Sound.extends_push`, `Tree.Sound.extends_pushTemplate`: making a node.
* `Tree.Sound.extends_appendText`, `Tree.Sound.extends_placeText`,
  `Tree.Sound.extends_moveChildren`: what is made of them.
-/

namespace Gleaner.Html.Tree

/-- What no change of a tree takes back: nodes stay what they are, and the contents of templates
stay in their places. -/
structure Grows (t t' : Tree) : Prop where
  size_le : t.size ≤ t'.size
  shape?_eq {k : ℕ} (hk : k < t.size) : t'.shape? k = t.shape? k
  parent?_eq {k : ℕ} (hk : t.shape? k = some .fragment) : t'.parent? k = t.parent? k

/-- The tree with some changes: it is sound with the same ranks for the nodes that were there. -/
structure Extends (t : Tree) (rank : NodeId → ℕ) (t' : Tree) (rank' : NodeId → ℕ) : Prop extends
    Grows t t' where
  sound : t'.Sound rank'
  rank_eq {k : ℕ} (hk : k < t.size) : rank' k = rank k

/-- Ranks by which new nodes are above all others. -/
def topped (rank : ℕ → ℕ) (size k : ℕ) : ℕ :=
  if k < size then rank k else (Finset.range size).sup rank + 1 + (k - size)

theorem topped_of_lt {rank : ℕ → ℕ} {size k : ℕ} (hk : k < size) :
    topped rank size k = rank k := if_pos hk

theorem topped_lt_topped {rank : ℕ → ℕ} {size k n : ℕ} (hk : k < n) (hn : size ≤ n) :
    topped rank size k < topped rank size n := by
  have hn' : topped rank size n = (Finset.range size).sup rank + 1 + (n - size) :=
    if_neg (Nat.not_lt.2 hn)
  rw [hn', topped]
  split
  next hsize =>
    have hsup : rank k ≤ (Finset.range size).sup rank :=
      Finset.le_sup (Finset.mem_range.2 hsize)
    omega
  next => omega

namespace Grows

variable {t t' t'' : Tree}

theorem refl (t : Tree) : Grows t t := ⟨le_rfl, fun _ => rfl, fun _ => rfl⟩

theorem trans (h : Grows t t') (h' : Grows t' t'') : Grows t t'' where
  size_le := h.size_le.trans h'.size_le
  shape?_eq hk := (h'.shape?_eq (hk.trans_le h.size_le)).trans (h.shape?_eq hk)
  parent?_eq hk := by
    have hk' := h.shape?_eq (lt_size_of_shape? hk)
    rw [h'.parent?_eq (hk'.trans hk), h.parent?_eq hk]

/-- Only places and shapes count. -/
theorem of_congr (hsize : t'.size = t.size) (hparent : ∀ k, t'.parent? k = t.parent? k)
    (hshape : ∀ k, t'.shape? k = t.shape? k) : Grows t t' :=
  ⟨hsize.ge, fun _ => hshape _, fun _ => hparent _⟩

theorem detach {n : ℕ} (hn : t.shape? n ≠ some .fragment) : Grows t (t.detach n) where
  size_le := size_detach.ge
  shape?_eq _ := shape?_detach
  parent?_eq {k} hk := by rw [parent?_detach, if_neg (by rintro rfl; exact hn hk)]

theorem push {c : Content} : Grows t (t.push c) where
  size_le := by rw [size_push]; exact Nat.le_succ _
  shape?_eq hk := by rw [shape?_push, if_neg hk.ne]
  parent?_eq _ := parent?_push

theorem link {n p : ℕ} {insert : List NodeId → List NodeId} (hn : n < t.size)
    (hfragment : t.shape? n ≠ some .fragment) : Grows t (t.link p n insert) where
  size_le := size_link.ge
  shape?_eq _ := shape?_link
  parent?_eq {k} hk := by
    rw [parent?_link hn, if_neg (by rintro rfl; exact hfragment hk)]

theorem append {n p : ℕ} (hn : n < t.size) (hfragment : t.shape? n ≠ some .fragment) :
    Grows t (t.append p n) := by
  have hlink : Grows (t.detach n) ((t.detach n).link p n (· ++ [n])) :=
    .link (by rwa [size_detach]) (by rwa [shape?_detach])
  exact (Grows.detach hfragment).trans hlink

theorem place {n sibling : ℕ} (hn : n < t.size) (hfragment : t.shape? n ≠ some .fragment) :
    Grows t (t.place sibling n) := by
  unfold Tree.place
  dsimp only
  split
  next => exact .detach hfragment
  next p _ =>
    have hlink : Grows (t.detach n) ((t.detach n).link p n (insertBefore n sibling)) :=
      .link (by rwa [size_detach]) (by rwa [shape?_detach])
    exact (Grows.detach hfragment).trans hlink

end Grows

namespace Sound

variable {t t' : Tree} {rank rank' : NodeId → ℕ} {n p : ℕ}

/-- The contents of a template stay what they are. -/
theorem holder_eq_of_grows (h : t.Sound rank) (h' : t'.Sound rank') (hgrows : Grows t t')
    (hn : n < t.size) : t'.holder n = t.holder n := by
  have hnamed := isNamed_congr (hgrows.shape?_eq hn) "template"
  rw [holder, holder, hnamed]
  split
  -- the contents are below the template afterwards, and no other fragment can be
  next htemplate =>
    obtain ⟨f, hf, hshape⟩ := h.template_head htemplate
    have hparent : t'.parent? f = some n := by
      rw [hgrows.parent?_eq hshape]
      exact h.linked (List.mem_of_head? hf)
    have hshape' : t'.shape? f = some .fragment := by
      rw [hgrows.shape?_eq (lt_size_of_shape? hshape), hshape]
    rw [List.headD_eq_head?_getD, List.headD_eq_head?_getD, hf,
      (h'.fragment_head hparent hshape').2]
  next => rfl

/-- Text and attributes of a node changed. -/
theorem modify_content (h : t.Sound rank) {f : TreeNode → TreeNode}
    (hf : ∀ node, t.nodes[n]? = some node → (f node).parent = node.parent ∧
      (f node).children = node.children ∧ (f node).content.shape = node.content.shape) :
    Extends t rank (t.modify n f) rank :=
  have hsame (k : ℕ) := Tree.modify_content (k := k) hf
  { Grows.of_congr (size_modify t n f) (fun k => (hsame k).1) (fun k => (hsame k).2.2) with
    sound := h.congr (fun k => (hsame k).1) (fun k => (hsame k).2.1) (fun k => (hsame k).2.2)
    rank_eq := fun _ => rfl }

/-- A text that goes on. -/
theorem continueText (h : t.Sound rank) {before text : String}
    (hn : t.content? n = some (.text before)) :
    Extends t rank (t.modify n fun node => { node with content := .text text }) rank := by
  refine h.modify_content fun node hnode => ⟨rfl, rfl, ?_⟩
  rw [content?, hnode, Option.map_some] at hn
  rw [Option.some.inj hn]
  rfl

/-- Attributes added to an element. -/
theorem addMissingAttrs (h : t.Sound rank) (attrs : List Attr) :
    Extends t rank (t.addMissingAttrs n attrs) rank := by
  refine h.modify_content fun node _ => ?_
  dsimp only
  split
  next e he => exact ⟨rfl, rfl, by rw [he]; rfl⟩
  next => exact ⟨rfl, rfl, rfl⟩

end Sound

namespace Extends

variable {t t' t'' : Tree} {rank rank' rank'' : NodeId → ℕ} {n p : ℕ}

theorem trans (h : Extends t rank t' rank') (h' : Extends t' rank' t'' rank'') :
    Extends t rank t'' rank'' :=
  { h.toGrows.trans h'.toGrows with
    sound := h'.sound
    rank_eq := fun hk => by rw [h'.rank_eq (hk.trans_le h.size_le), h.rank_eq hk] }

/-- What holds the contents of a node keeps its rank. -/
theorem rank_holder (h : Extends t rank t' rank') (ht : t.Sound rank) (hn : t.holds n = true) :
    rank' (t'.holder n) = rank (t.holder n) := by
  rw [ht.holder_eq_of_grows h.sound h.toGrows (lt_size_of_holds hn)]
  exact h.rank_eq (lt_size_of_holds (ht.holds_holder hn))

theorem spread (h : Extends t rank t' rank') : Extends t (3 * rank ·) t' (3 * rank' ·) :=
  { h with
    sound := h.sound.spread
    rank_eq := fun hk => congrArg (3 * ·) (h.rank_eq hk) }

/-- Only the ranks of nodes count. -/
theorem congr_rank (h : Extends t rank t' rank') (hrank : ∀ k < t'.size, rank'' k = rank' k) :
    Extends t rank t' rank'' :=
  { h with
    sound := h.sound.congr_rank hrank
    rank_eq := fun hk => by rw [hrank _ (hk.trans_le h.size_le), h.rank_eq hk] }

end Extends

namespace Sound

variable {t : Tree} {rank rank' : NodeId → ℕ} {n p : ℕ}

theorem extends_detach (h : t.Sound rank) (hn : t.shape? n ≠ some .fragment) :
    Extends t rank (t.detach n) rank :=
  { Grows.detach hn with
    sound := h.detach hn
    rank_eq := fun _ => rfl }

theorem extends_append (h : t.Sound rank) (hp : t.holds p = true) (hn : n < t.size)
    (hfragment : t.shape? n ≠ some .fragment) (hlt : rank p < rank n) :
    Extends t rank (t.append p n) rank :=
  { Grows.append hn hfragment with
    sound := h.append hp hn hfragment hlt
    rank_eq := fun _ => rfl }

theorem extends_place (h : t.Sound rank) {sibling : ℕ}
    (hsibling : t.shape? sibling ≠ some .fragment) (hn : n < t.size)
    (hfragment : t.shape? n ≠ some .fragment)
    (hlt : ∀ p, t.parent? sibling = some p → rank p < rank n) :
    Extends t rank (t.place sibling n) rank :=
  { Grows.place hn hfragment with
    sound := h.place hsibling hn hfragment hlt
    rank_eq := fun _ => rfl }

theorem extends_push (h : t.Sound rank) {c : Content} (hrank : ∀ k < t.size, rank' k = rank k)
    (hc : ∀ e, c = .element e → e.isNamed "template" = false) :
    Extends t rank (t.push c) rank' :=
  { Grows.push with
    sound := h.push hrank hc
    rank_eq := fun hk => hrank _ hk }

theorem extends_pushTemplate (h : t.Sound rank) {e : Element}
    (hrank : ∀ k < t.size, rank' k = rank k) (hlt : rank' t.size < rank' (t.size + 1))
    (he : e.isNamed "template" = true) : Extends t rank (t.pushTemplate e) rank' where
  size_le := by
    rw [size_pushTemplate]
    omega
  shape?_eq hk := shape?_pushTemplate_of_lt hk
  parent?_eq hk := by
    have hsize := lt_size_of_shape? hk
    rw [parent?_pushTemplate, if_neg (by omega)]
  sound := h.pushTemplate hrank hlt he
  rank_eq hk := hrank _ hk

/-- A text put at the end of what is below a node. -/
theorem extends_appendText (h : t.Sound rank) (hp : t.holds p = true) (text : String) :
    Extends t rank (t.appendText p text) (topped rank t.size) := by
  have hsize := lt_size_of_holds hp
  unfold Tree.appendText
  split
  next n before hn =>
    refine (h.continueText (content?_of_trailingText? hn)).congr_rank fun k hk => ?_
    exact topped_of_lt (by rwa [size_modify] at hk)
  next =>
    -- a text of its own is made, and put to the end
    have hpush : Extends t rank (t.push (.text text)) (topped rank t.size) :=
      h.extends_push (fun _ => topped_of_lt) (by simp)
    refine hpush.trans (hpush.sound.extends_append ?_ ?_ ?_ ?_)
    · rwa [holds_congr (hpush.shape?_eq hsize)]
    · rw [size_push]
      exact Nat.lt_succ_self _
    · simp [shape?_push, Content.shape]
    · exact topped_lt_topped hsize le_rfl

/-- A text put in front of a node that is not the contents of a template. -/
theorem extends_placeText (h : t.Sound rank) {sibling : ℕ}
    (hsibling : t.shape? sibling ≠ some .fragment) (text : String) :
    Extends t rank (t.placeText sibling text) (topped rank t.size) := by
  unfold Tree.placeText
  split
  next => exact { Grows.refl t with
    sound := h.congr_rank fun _ => topped_of_lt
    rank_eq := topped_of_lt }
  next p hp =>
    have hsize := lt_size_of_holds (h.holds hp)
    split
    next n before hn =>
      refine (h.continueText (content?_of_trailingText? hn)).congr_rank fun k hk => ?_
      exact topped_of_lt (by rwa [size_modify] at hk)
    next =>
      have hpush : Extends t rank (t.push (.text text)) (topped rank t.size) :=
        h.extends_push (fun _ => topped_of_lt) (by simp)
      refine hpush.trans (hpush.sound.extends_place ?_ ?_ ?_ fun q hq => ?_)
      · rwa [hpush.shape?_eq (lt_size_of_parent? hp)]
      · rw [size_push]
        exact Nat.lt_succ_self _
      · simp [shape?_push, Content.shape]
      · rw [parent?_push, hp] at hq
        obtain rfl := Option.some.inj hq
        exact topped_lt_topped hsize le_rfl

/-- Nodes moved one by one to the end of those below another one. -/
theorem extends_foldl_append (h : t.Sound rank) {target : ℕ} (htarget : t.holds target = true)
    {ns : List NodeId} (hns : ∀ n ∈ ns, n < t.size ∧ t.shape? n ≠ some .fragment ∧
      rank target < rank n) :
    Extends t rank (ns.foldl (fun t n => t.append target n) t) rank := by
  -- by induction on the nodes, with the tree after each of them
  induction ns generalizing t with
  | nil => exact { Grows.refl t with sound := h, rank_eq := fun _ => rfl }
  | cons n rest ih =>
    obtain ⟨⟨hsize, hshape, hlt⟩, hrest⟩ := List.forall_mem_cons.1 hns
    have hmoved : Extends t rank (t.append target n) rank :=
      h.extends_append htarget hsize hshape hlt
    refine hmoved.trans (ih hmoved.sound ?_ fun m hm => ?_)
    · rwa [holds_congr (hmoved.shape?_eq (lt_size_of_holds htarget))]
    · obtain ⟨hsize, hshape, hlt⟩ := hrest m hm
      exact ⟨hsize.trans_le hmoved.size_le, by rwa [hmoved.shape?_eq hsize], hlt⟩

/-- All nodes below a node that is not a template moved to the end of those below another one. -/
theorem extends_moveChildren (h : t.Sound rank) {source target : ℕ}
    (hsource : t.isNamed source "template" = false) (htarget : t.holds target = true)
    (hlt : ∀ c ∈ t.children source, rank target < rank c) :
    Extends t rank (t.moveChildren source target) rank := by
  refine h.extends_foldl_append htarget fun c hc => ?_
  have hparent := h.linked hc
  refine ⟨lt_size_of_parent? hparent, fun hshape => ?_, hlt c hc⟩
  simp [(h.fragment_head hparent hshape).1] at hsource

end Sound

end Gleaner.Html.Tree
