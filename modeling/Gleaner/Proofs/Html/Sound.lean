import Gleaner.Proofs.Html.Shape

/-!
# Sound trees

In a sound tree every node stands once below its parent, only roots and elements have nodes below
them, and the contents of a template come first in it. That no node is below itself is witnessed by
ranks, which grow from parents to children.

## Main definitions

* `Tree.Sound`: the tree is one, by some ranks.

## Main results

* `Tree.Sound.detach`, `Tree.Sound.append`, `Tree.Sound.place`: moving a node.
* `Tree.Sound.push`, `Tree.Sound.pushTemplate`: making a node.
-/

namespace Gleaner.Html.Tree

/-- The tree is one. Ranks grow from a node to those below it. -/
structure Sound (t : Tree) (rank : NodeId → ℕ) : Prop where
  /-- Every node is the parent of its children. -/
  linked {n c : ℕ} (h : c ∈ t.children n) : t.parent? c = some n
  /-- Every node is a child of its parent. -/
  listed {n p : ℕ} (h : t.parent? n = some p) : n ∈ t.children p
  /-- No child stands twice. -/
  nodup (n : ℕ) : (t.children n).Nodup
  /-- Only elements and roots have children. -/
  holds {n p : ℕ} (h : t.parent? n = some p) : t.holds p = true
  /-- The contents of a template are its first child. -/
  template_head {n : ℕ} (h : t.isNamed n "template" = true) :
    ∃ f, (t.children n).head? = some f ∧ t.shape? f = some .fragment
  /-- A fragment that has a place is the contents of a template. -/
  fragment_head {f p : ℕ} (h : t.parent? f = some p) (hf : t.shape? f = some .fragment) :
    t.isNamed p "template" = true ∧ (t.children p).head? = some f
  /-- A node is not below itself. -/
  rank_lt {n p : ℕ} (h : t.parent? n = some p) : rank p < rank n
  /-- The first node has no place. -/
  rank_zero : rank 0 = 0
  /-- The first node is a root. -/
  root : t.shape? 0 = some .document ∨ t.shape? 0 = some .fragment

namespace Sound

variable {t t' : Tree} {rank rank' : NodeId → ℕ} {n p : ℕ}

theorem size_pos (h : t.Sound rank) : 0 < t.size := by
  rcases h.root with hroot | hroot <;> exact lt_size_of_shape? hroot

theorem holds_zero (h : t.Sound rank) : t.holds 0 = true := by
  have hroot := h.root
  rw [shape?] at hroot
  rw [Tree.holds]
  cases hc : t.content? 0 with
  | none => simp [hc] at hroot
  | some c => cases c <;> simp_all [Content.shape, Content.holds]

/-- What holds the contents of an element holds nodes, and is the element or below it. -/
theorem holder_cases (h : t.Sound rank) (n : ℕ) :
    t.holder n = n ∨ t.parent? (t.holder n) = some n ∧
      t.shape? (t.holder n) = some .fragment := by
  rw [holder]
  split
  next hn =>
    obtain ⟨f, hf, hshape⟩ := h.template_head hn
    rw [List.headD_eq_head?_getD, hf, Option.getD_some]
    exact .inr ⟨h.linked (List.mem_of_head? hf), hshape⟩
  next => exact .inl rfl

theorem holds_holder (h : t.Sound rank) (hn : t.holds n = true) : t.holds (t.holder n) = true := by
  rcases h.holder_cases n with heq | ⟨-, hshape⟩
  · rwa [heq]
  · rw [Tree.holds, any_content?_eq (by intro c; cases c <;> rfl), hshape]
    rfl

theorem rank_le_holder (h : t.Sound rank) (n : ℕ) : rank n ≤ rank (t.holder n) := by
  rcases h.holder_cases n with heq | ⟨hparent, -⟩
  · rw [heq]
  · exact (h.rank_lt hparent).le

/-- Only places and shapes count. -/
theorem congr (h : t.Sound rank) (hparent : ∀ k, t'.parent? k = t.parent? k)
    (hchildren : ∀ k, t'.children k = t.children k) (hshape : ∀ k, t'.shape? k = t.shape? k) :
    t'.Sound rank where
  linked hc := by
    rw [hchildren] at hc
    rw [hparent, h.linked hc]
  listed hn := by
    rw [hparent] at hn
    rw [hchildren]
    exact h.listed hn
  nodup n := by
    rw [hchildren]
    exact h.nodup n
  holds hn := by
    rw [hparent] at hn
    rw [holds_congr (hshape _), h.holds hn]
  template_head hn := by
    rw [isNamed_congr (hshape _)] at hn
    simp only [hchildren, hshape]
    exact h.template_head hn
  fragment_head hf hshape' := by
    rw [hparent] at hf
    rw [hshape] at hshape'
    rw [isNamed_congr (hshape _), hchildren]
    exact h.fragment_head hf hshape'
  rank_lt hn := by
    rw [hparent] at hn
    exact h.rank_lt hn
  rank_zero := h.rank_zero
  root := by
    rw [hshape]
    exact h.root

/-- Only the ranks of nodes with a parent and of parents count. -/
theorem congr_rank (h : t.Sound rank) (hrank : ∀ k < t.size, rank' k = rank k) :
    t.Sound rank' :=
  { h with
    rank_lt := fun hn => by
      rw [hrank _ (lt_size_of_parent? hn), hrank _ (lt_size_of_holds (h.holds hn))]
      exact h.rank_lt hn
    rank_zero := by rw [hrank 0 h.size_pos, h.rank_zero] }

/-- The first item stays the first when others are left out. -/
theorem head?_filter_ne {l : List NodeId} {f : ℕ} (hf : l.head? = some f) (hne : f ≠ n) :
    (l.filter (· ≠ n)).head? = some f := by
  cases l with
  | nil => cases hf
  | cons first rest =>
    obtain rfl : first = f := Option.some.inj hf
    simp [hne]

/-- Ranks may be spread, to make room between them. -/
theorem spread (h : t.Sound rank) : t.Sound (3 * rank ·) :=
  { h with
    rank_lt := fun hn => Nat.mul_lt_mul_of_pos_left (h.rank_lt hn) (by omega)
    rank_zero := by rw [h.rank_zero] }

/-- A node taken from its place. The contents of a template stay in theirs. -/
theorem detach (h : t.Sound rank) (hn : t.shape? n ≠ some .fragment) :
    (t.detach n).Sound rank where
  linked {m c} hc := by
    rw [children_detach] at hc
    rw [parent?_detach]
    split at hc
    next hparent =>
      rw [List.mem_filter] at hc
      rw [if_neg (by simpa using hc.2), h.linked hc.1]
    next hparent =>
      have hm := h.linked hc
      rw [if_neg (by rintro rfl; exact hparent hm), hm]
  listed {m p} hm := by
    rw [parent?_detach] at hm
    split at hm
    next => cases hm
    next hne =>
      rw [children_detach]
      split
      next => exact List.mem_filter.2 ⟨h.listed hm, by simpa using hne⟩
      next => exact h.listed hm
  nodup m := by
    rw [children_detach]
    split
    next => exact (h.nodup m).filter _
    next => exact h.nodup m
  holds {m p} hm := by
    rw [parent?_detach] at hm
    split at hm
    next => cases hm
    next => rw [holds_congr shape?_detach, h.holds hm]
  template_head {m} hm := by
    rw [isNamed_congr shape?_detach] at hm
    obtain ⟨f, hf, hshape⟩ := h.template_head hm
    refine ⟨f, ?_, by rw [shape?_detach, hshape]⟩
    rw [children_detach]
    split
    next => exact head?_filter_ne hf (by rintro rfl; exact hn hshape)
    next => exact hf
  fragment_head {f p} hf hshape := by
    rw [shape?_detach] at hshape
    rw [parent?_detach] at hf
    split at hf
    next => cases hf
    next hne =>
      obtain ⟨hp, hhead⟩ := h.fragment_head hf hshape
      rw [isNamed_congr shape?_detach, children_detach]
      refine ⟨hp, ?_⟩
      split
      next => exact head?_filter_ne hhead hne
      next => exact hhead
  rank_lt {m p} hm := by
    rw [parent?_detach] at hm
    split at hm
    next => cases hm
    next => exact h.rank_lt hm
  rank_zero := h.rank_zero
  root := by
    simp only [shape?_detach]
    exact h.root

/-- A node without a place put below another one, in front of none that is the contents of a
template. -/
theorem link (h : t.Sound rank) {insert : List NodeId → List NodeId} (hp : t.holds p = true)
    (hn : n < t.size) (hfree : t.parent? n = none) (hfragment : t.shape? n ≠ some .fragment)
    (hlt : rank p < rank n) (hperm : (insert (t.children p)).Perm (n :: t.children p))
    (hhead : ∀ f, (t.children p).head? = some f → t.shape? f = some .fragment →
      (insert (t.children p)).head? = some f) :
    (t.link p n insert).Sound rank := by
  have hchildren (k : ℕ) : (t.link p n insert).children k =
      if k = p then insert (t.children p) else t.children k :=
    children_link (lt_size_of_holds hp)
  have hparent (k : ℕ) : (t.link p n insert).parent? k = if k = n then some p else t.parent? k :=
    parent?_link hn
  -- a node that has no parent is no child
  have hfresh (k : ℕ) : n ∉ t.children k := fun hmem => by
    rw [h.linked hmem] at hfree
    cases hfree
  constructor
  case linked =>
    intro m c hc
    rw [hchildren] at hc
    rw [hparent]
    split at hc
    next hm =>
      -- a child is the node that was put there, or was one before
      rcases List.mem_cons.1 (hperm.mem_iff.1 hc) with rfl | hc
      · rw [if_pos rfl, hm]
      · rw [if_neg (by rintro rfl; exact hfresh _ hc), h.linked hc, hm]
    next => rw [if_neg (by rintro rfl; exact hfresh _ hc), h.linked hc]
  case listed =>
    intro m q hm
    rw [hparent] at hm
    rw [hchildren]
    split at hm
    next hmn =>
      obtain rfl : p = q := Option.some.inj hm
      rw [if_pos rfl, hperm.mem_iff, hmn]
      exact List.mem_cons_self
    next =>
      have hmem := h.listed hm
      split
      next hq =>
        rw [hperm.mem_iff, ← hq]
        exact List.mem_cons_of_mem _ hmem
      next => exact hmem
  case nodup =>
    intro m
    rw [hchildren]
    split
    next =>
      rw [hperm.nodup_iff]
      exact List.nodup_cons.2 ⟨hfresh p, h.nodup p⟩
    next => exact h.nodup m
  case holds =>
    intro m q hm
    rw [hparent] at hm
    rw [holds_congr shape?_link]
    split at hm
    next =>
      obtain rfl : p = q := Option.some.inj hm
      exact hp
    next => exact h.holds hm
  case template_head =>
    intro m hm
    rw [isNamed_congr shape?_link] at hm
    obtain ⟨f, hf, hshape⟩ := h.template_head hm
    refine ⟨f, ?_, by rw [shape?_link, hshape]⟩
    rw [hchildren]
    split
    next heq =>
      subst heq
      exact hhead f hf hshape
    next => exact hf
  case fragment_head =>
    -- the node that is moved is no fragment, so that a fragment stands where it stood
    intro f q hf hshape
    rw [shape?_link] at hshape
    rw [hparent, if_neg (by rintro rfl; exact hfragment hshape)] at hf
    obtain ⟨hq, hfirst⟩ := h.fragment_head hf hshape
    rw [isNamed_congr shape?_link, hchildren]
    refine ⟨hq, ?_⟩
    split
    next heq =>
      subst heq
      exact hhead f hfirst hshape
    next => exact hfirst
  case rank_lt =>
    intro m q hm
    rw [hparent] at hm
    split at hm
    next hmn =>
      obtain rfl : p = q := Option.some.inj hm
      rwa [hmn]
    next => exact h.rank_lt hm
  case rank_zero => exact h.rank_zero
  case root =>
    simp only [shape?_link]
    exact h.root

/-- A node moved to the end of those below another one. -/
theorem append (h : t.Sound rank) (hp : t.holds p = true) (hn : n < t.size)
    (hfragment : t.shape? n ≠ some .fragment) (hlt : rank p < rank n) :
    (t.append p n).Sound rank := by
  show ((t.detach n).link p n (· ++ [n])).Sound rank
  refine (h.detach hfragment).link (by rwa [holds_congr shape?_detach]) (by rwa [size_detach])
    (by simp) (by rwa [shape?_detach]) hlt List.perm_append_comm fun f hf _ => ?_
  rw [List.head?_append, hf, Option.some_or]

/-- Inserting in front of an item adds one. -/
theorem perm_insertBefore {sibling : ℕ} {l : List NodeId} (hsibling : sibling ∈ l) :
    (insertBefore n sibling l).Perm (n :: l) := by
  induction l with
  | nil => cases hsibling
  | cons m rest ih =>
    rw [insertBefore]
    split
    next => exact .refl _
    next hne =>
      have hrest : sibling ∈ rest := (List.mem_cons.1 hsibling).resolve_left (Ne.symm hne)
      exact ((ih hrest).cons m).trans (.swap n m rest)

/-- A node moved in front of another one, which is not the contents of a template. -/
theorem place (h : t.Sound rank) {sibling : ℕ} (hsibling : t.shape? sibling ≠ some .fragment)
    (hn : n < t.size) (hfragment : t.shape? n ≠ some .fragment)
    (hlt : ∀ p, t.parent? sibling = some p → rank p < rank n) :
    (t.place sibling n).Sound rank := by
  have hdetached := h.detach hfragment
  unfold Tree.place
  dsimp only
  split
  next => exact hdetached
  next p hp =>
    show ((t.detach n).link p n (insertBefore n sibling)).Sound rank
    have hp' : t.parent? sibling = some p := by
      rw [parent?_detach] at hp
      split at hp
      next => cases hp
      next => exact hp
    -- the sibling is not the contents of a template, so that those stay in front
    refine hdetached.link (hdetached.holds hp) (by rwa [size_detach]) (by simp)
      (by rwa [shape?_detach]) (hlt p hp') (perm_insertBefore (hdetached.listed hp))
      fun f hf hshape => ?_
    cases hc : (t.detach n).children p with
    | nil => simp [hc] at hf
    | cons first rest =>
      obtain rfl : first = f := by simpa [hc] using hf
      have hne : first ≠ sibling := by
        rintro rfl
        rw [shape?_detach] at hshape
        exact hsibling hshape
      rw [insertBefore, if_neg hne]
      rfl

/-- A node made that is not a template. -/
theorem push (h : t.Sound rank) {c : Content} (hrank : ∀ k < t.size, rank' k = rank k)
    (hc : ∀ e, c = .element e → e.isNamed "template" = false) : (t.push c).Sound rank' := by
  have hshape {k : ℕ} (hk : k < t.size) : (t.push c).shape? k = t.shape? k := by
    rw [shape?_push, if_neg hk.ne]
  have h' := h.congr_rank hrank
  constructor
  case linked =>
    intro m k hk
    rw [children_push] at hk
    rw [parent?_push, h.linked hk]
  case listed =>
    intro m q hm
    rw [parent?_push] at hm
    rw [children_push]
    exact h.listed hm
  case nodup =>
    intro m
    rw [children_push]
    exact h.nodup m
  case holds =>
    intro m q hm
    rw [parent?_push] at hm
    rw [holds_congr (hshape (lt_size_of_holds (h.holds hm))), h.holds hm]
  case template_head =>
    intro m hm
    by_cases hsize : m = t.size
    · -- the new node is not a template
      rw [isNamed_eq_any, content?_push, if_pos hsize] at hm
      cases c with
      | element e => exact absurd hm (by simp [hc e rfl])
      | _ => simp at hm
    · have hsame : (t.push c).shape? m = t.shape? m := by rw [shape?_push, if_neg hsize]
      rw [isNamed_congr hsame] at hm
      obtain ⟨f, hf, hfshape⟩ := h.template_head hm
      exact ⟨f, by rwa [children_push], by rwa [hshape (lt_size_of_shape? hfshape)]⟩
  case fragment_head =>
    intro f q hf hfshape
    rw [parent?_push] at hf
    rw [hshape (lt_size_of_parent? hf)] at hfshape
    rw [isNamed_congr (hshape (lt_size_of_holds (h.holds hf))), children_push]
    exact h.fragment_head hf hfshape
  case rank_lt =>
    intro m q hm
    rw [parent?_push] at hm
    exact h'.rank_lt hm
  case rank_zero => exact h'.rank_zero
  case root =>
    rw [hshape h.size_pos]
    exact h.root

/-- A template made with its contents. -/
theorem pushTemplate (h : t.Sound rank) {e : Element} (hrank : ∀ k < t.size, rank' k = rank k)
    (hlt : rank' t.size < rank' (t.size + 1)) (he : e.isNamed "template" = true) :
    (t.pushTemplate e).Sound rank' := by
  have hnew : (t.pushTemplate e).isNamed t.size "template" = true := isNamed_pushTemplate he
  have h' := h.congr_rank hrank
  constructor
  case linked =>
    intro m c hc
    rw [children_pushTemplate] at hc
    rw [parent?_pushTemplate]
    split at hc
    next hm => rw [if_pos (List.mem_singleton.1 hc), hm]
    next =>
      have hparent := h.linked hc
      have hsize := lt_size_of_parent? hparent
      rw [if_neg (by omega), hparent]
  case listed =>
    intro m q hm
    rw [parent?_pushTemplate] at hm
    rw [children_pushTemplate]
    split at hm
    next hmn =>
      obtain rfl : t.size = q := Option.some.inj hm
      rw [if_pos rfl, hmn]
      exact List.mem_singleton_self _
    next =>
      have hq := lt_size_of_holds (h.holds hm)
      rw [if_neg hq.ne]
      exact h.listed hm
  case nodup =>
    intro m
    rw [children_pushTemplate]
    split
    next => exact List.nodup_singleton _
    next => exact h.nodup m
  case holds =>
    intro m q hm
    rw [parent?_pushTemplate] at hm
    split at hm
    next =>
      obtain rfl : t.size = q := Option.some.inj hm
      exact holds_of_isSome_element? (isSome_element?_of_isNamed hnew)
    next =>
      have hq := lt_size_of_holds (h.holds hm)
      rw [holds_congr (shape?_pushTemplate_of_lt hq), h.holds hm]
  case template_head =>
    intro m hm
    rw [children_pushTemplate]
    split
    next => exact ⟨t.size + 1, rfl, by rw [shape?_pushTemplate, if_pos rfl]⟩
    next hne =>
      -- a template is no fragment, so that it was there before
      have helement := isSome_element?_of_isNamed hm
      have hsize := lt_size_of_holds (holds_of_isSome_element? helement)
      have hfragment : m ≠ t.size + 1 := by
        rintro rfl
        exact shape?_ne_fragment_of_isSome_element? helement
          (by rw [shape?_pushTemplate, if_pos rfl])
      rw [size_pushTemplate] at hsize
      rw [isNamed_congr (shape?_pushTemplate_of_lt (by omega))] at hm
      obtain ⟨f, hf, hfshape⟩ := h.template_head hm
      exact ⟨f, hf, by rwa [shape?_pushTemplate_of_lt (lt_size_of_shape? hfshape)]⟩
  case fragment_head =>
    intro f q hf hfshape
    rw [parent?_pushTemplate] at hf
    split at hf
    next hfn =>
      obtain rfl : t.size = q := Option.some.inj hf
      refine ⟨hnew, ?_⟩
      rw [children_pushTemplate, if_pos rfl, hfn]
      rfl
    next =>
      have hq := lt_size_of_holds (h.holds hf)
      rw [shape?_pushTemplate_of_lt (lt_size_of_parent? hf)] at hfshape
      rw [isNamed_congr (shape?_pushTemplate_of_lt hq), children_pushTemplate, if_neg hq.ne]
      exact h.fragment_head hf hfshape
  case rank_lt =>
    intro m q hm
    rw [parent?_pushTemplate] at hm
    split at hm
    next hmn =>
      obtain rfl : t.size = q := Option.some.inj hm
      rwa [hmn]
    next => exact h'.rank_lt hm
  case rank_zero => exact h'.rank_zero
  case root =>
    rw [shape?_pushTemplate_of_lt h.size_pos]
    exact h.root

end Sound

end Gleaner.Html.Tree
