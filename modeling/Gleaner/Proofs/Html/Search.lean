import Gleaner.Html.Document
import Gleaner.Proofs.Css.Scope
import Gleaner.Proofs.Html.Preorder
import Gleaner.Proofs.Html.Rules

/-!
# Searches in documents

A search from an element finds what matches below it, in document order. A search from the root
goes through the nodes in the order in which they were made, whether or not they are still below
the root. So the first filters the second just when this order is the document order, when nothing
that matches was taken out of the document, and when no root of the contents of a template hides
the way up.

## Main definitions

* `Node.Handle`: the nodes of a document that can be come by.
* `Node.Ascends`: a node is reached from another one by reported parents.
* `Node.matchesBelow`: what a selector matches below a node, in document order.
* `Filters`: a search from a node filters the search from the root.

## Main results

* `Node.findAll_filters_iff`: what searches find, and when one filters the other.
-/

namespace Gleaner.Html

namespace Node

/-! ### Parents that are reported -/

/-- A node is reached from another one by one or more steps to the parent that is reported. -/
def Ascends : Node → Node → Prop := Relation.TransGen fun m p => m.parent = some p

variable {t : Tree} {rank : ℕ → ℕ} {n m p : ℕ}

theorem isRoot_eq_of_holds (h : t.holds p = true) :
    (Node.mk t p).isRoot = !(t.element? p).isSome := by
  unfold Tree.holds at h
  unfold isRoot Tree.element?
  cases hc : t.content? p with
  | none => simp [hc] at h
  | some c =>
    rw [hc] at h
    cases c <;> first | rfl | exact absurd h Bool.false_ne_true

/-- Reported as parents are the elements among them. -/
theorem parent_eq_some_iff (ht : t.Sound rank) {b : Node} :
    (Node.mk t m).parent = some b ↔
      ∃ p, b = ⟨t, p⟩ ∧ t.parent? m = some p ∧ (t.element? p).isSome := by
  unfold parent
  cases hp : t.parent? m with
  | none => simp
  | some p =>
    have hroot : (Node.mk t p).isRoot = !(t.element? p).isSome := isRoot_eq_of_holds (ht.holds hp)
    simp only [other, Option.map_some, Option.filter_some, hroot, Bool.not_not, Option.some.injEq]
    by_cases he : (t.element? p).isSome
    · simp [he, eq_comm]
    · simp [he]

/-- The steps to parents that are reported, from number to number. -/
theorem ascends_iff_transGen (ht : t.Sound rank) {b : Node} :
    (Node.mk t m).Ascends b ↔ ∃ n, b = ⟨t, n⟩ ∧
      Relation.TransGen (fun c p => t.parent? c = some p ∧ (t.element? p).isSome) m n := by
  constructor
  · intro h
    induction h with
    | single hstep =>
      obtain ⟨p, rfl, hp⟩ := (parent_eq_some_iff ht).1 hstep
      exact ⟨p, rfl, .single hp⟩
    | tail _ hstep ih =>
      obtain ⟨c, rfl, hc⟩ := ih
      obtain ⟨p, rfl, hp⟩ := (parent_eq_some_iff ht).1 hstep
      exact ⟨p, rfl, hc.tail hp⟩
  · rintro ⟨n, rfl, h⟩
    exact h.lift (Node.mk t) fun c p hp => (parent_eq_some_iff ht).2 ⟨p, rfl, hp⟩

/-- What is reached by parents that are reported is an element. -/
theorem isSome_element?_of_ascends (ht : t.Sound rank) {b : Node}
    (h : (Node.mk t m).Ascends b) : ∃ p, b = ⟨t, p⟩ ∧ (t.element? p).isSome := by
  obtain ⟨n, rfl, hup⟩ := (ascends_iff_transGen ht).1 h
  obtain ⟨c, -, hstep⟩ := Relation.TransGen.tail'_iff.1 hup
  exact ⟨n, rfl, hstep.2⟩

/-- An element is reached by reported parents just when nothing but elements is in between. -/
theorem ascends_iff (ht : t.Sound rank) (hn : (t.element? n).isSome) :
    (Node.mk t m).Ascends ⟨t, n⟩ ↔
      t.Ascends m n ∧ ∀ p, t.Ascends m p → t.Ascends p n → (t.element? p).isSome := by
  have hcases : ∀ {m q p : ℕ}, t.parent? m = some q → t.Ascends m p → p = q ∨ t.Ascends q p := by
    intro m q p hq hp
    obtain ⟨q', hq', hp⟩ := Relation.TransGen.head'_iff.1 hp
    obtain rfl : q = q' := Option.some.inj (hq.symm.trans hq')
    exact Relation.reflTransGen_iff_eq_or_transGen.1 hp
  rw [ascends_iff_transGen ht]
  constructor
  · rintro ⟨n', heq, h⟩
    obtain rfl : n = n' := congrArg Node.id heq
    refine ⟨Relation.TransGen.mono (fun _ _ hstep => hstep.1) _ _ h, ?_⟩
    -- by induction on the steps, the first of which leads to an element
    induction h using Relation.TransGen.head_induction_on with
    | single hstep =>
      intro p hmp hpn
      rcases hcases hstep.1 hmp with rfl | hp
      · exact hstep.2
      · exact (ht.not_ascends_self n (.trans hp hpn)).elim
    | head hstep _ ih =>
      intro p hmp hpn
      rcases hcases hstep.1 hmp with rfl | hp
      · exact hstep.2
      · exact ih p hp hpn
  · rintro ⟨h, hbetween⟩
    refine ⟨n, rfl, ?_⟩
    induction h using Relation.TransGen.head_induction_on with
    | single hstep => exact .single ⟨hstep, hn⟩
    | head hstep hrest ih =>
      exact .head ⟨hstep, hbetween _ (.single hstep) hrest⟩
        (ih fun p hp hpn => hbetween p (.head hstep hp) hpn)

/-- Going from parent to parent comes to an end. -/
theorem exists_outermost (ht : t.Sound rank) (hm : (t.element? m).isSome) :
    ∃ last, (last = ⟨t, m⟩ ∨ (Node.mk t m).Ascends last) ∧
      (last.tree.element? last.id).isSome ∧ last.parent = none := by
  -- ranks fall from a node to its parent
  induction hrank : rank m using Nat.strong_induction_on generalizing m with
  | _ r ih =>
    cases hparent : (Node.mk t m).parent with
    | none => exact ⟨_, .inl rfl, hm, hparent⟩
    | some b =>
      obtain ⟨p, rfl, hp, he⟩ := (parent_eq_some_iff ht).1 hparent
      obtain ⟨last, hlast, hend⟩ := ih _ (hrank ▸ ht.rank_lt hp) he rfl
      refine ⟨last, .inr ?_, hend⟩
      rcases hlast with rfl | hlast
      · exact .single hparent
      · exact .head hparent hlast

/-! ### Searches -/

/-- The elements below a node that a selector matches, in document order. -/
def matchesBelow (node : Node) (selector : Css.Selector) : List Node :=
  ((node.tree.subtree node.id).tail.filter (Css.anyMatches node.tree none · selector)).map
    node.other

/-- The nodes stand in the order in which they were made. -/
def InCreationOrder (ns : List Node) : Prop := ns.Pairwise fun a b => a.id < b.id

variable {selector : Css.Selector}

/-- From an element all that matches below it is found. -/
theorem search_eq_matchesBelow (hn : (t.element? n).isSome) (hfree : selector.ScopeFree) :
    (Node.mk t n).search selector = (Node.mk t n).matchesBelow selector := by
  simp only [search, hn, if_true, matchesBelow, Css.anyMatches_eq t (some n) none hfree]

/-- From the root all that matches and has a place is found. -/
theorem search_zero (ht : t.Sound rank) : (Node.mk t 0).search selector =
    ((List.range t.size).filter fun n =>
      (t.parent? n).isSome && Css.anyMatches t none n selector).map (Node.mk t) := by
  have hroot : (t.element? 0).isSome = false ∧ (Node.mk t 0).isRoot = true := by
    have hshape := ht.root
    unfold Tree.shape? at hshape
    unfold Tree.element? isRoot
    cases hc : t.content? 0 with
    | none => simp [hc] at hshape
    | some c => cases c <;> simp_all [Content.shape]
  simp [search, hroot, other]

theorem mem_matchesBelow (ht : t.Sound rank) {a : Node} :
    a ∈ (Node.mk t n).matchesBelow selector ↔
      ∃ k, a = ⟨t, k⟩ ∧ t.Ascends k n ∧ Css.anyMatches t none k selector := by
  simp only [matchesBelow, other, List.mem_map, List.mem_filter, ht.mem_tail_subtree_iff]
  exact exists_congr fun k => and_comm.trans (and_congr_left' eq_comm)

theorem mem_search_zero (ht : t.Sound rank) {a : Node} :
    a ∈ (Node.mk t 0).search selector ↔
      ∃ k, a = ⟨t, k⟩ ∧ (t.parent? k).isSome ∧ Css.anyMatches t none k selector := by
  rw [search_zero ht, List.mem_map]
  refine exists_congr fun k => ?_
  rw [List.mem_filter, List.mem_range, Bool.and_eq_true]
  refine and_comm.trans (and_congr eq_comm (and_iff_right_of_imp fun hk => ?_))
  obtain ⟨p, hp⟩ := Option.isSome_iff_exists.1 hk.1
  exact Tree.lt_size_of_parent? hp

theorem nodup_matchesBelow (ht : t.Sound rank) : ((Node.mk t n).matchesBelow selector).Nodup := by
  refine List.Nodup.map (fun a b h => congrArg Node.id h) (List.Nodup.filter _ ?_)
  exact (ht.nodup_subtree n).sublist (List.tail_sublist _)

/-- What matches below a node is a part of what matches below nodes above it. -/
theorem matchesBelow_sublist (ht : t.Sound rank) {r : ℕ} (hn : t.Ascends n r) :
    ((Node.mk t n).matchesBelow selector).Sublist ((Node.mk t r).matchesBelow selector) :=
  (((List.tail_sublist _).trans (ht.subtree_isInfix hn).sublist).filter _).map _

theorem inCreationOrder_search_zero (ht : t.Sound rank) :
    InCreationOrder ((Node.mk t 0).search selector) := by
  rw [search_zero ht]
  exact List.pairwise_map.2 (List.Pairwise.filter _ List.pairwise_lt_range)

/-- Nodes of a search in the order in which they were made are a part of those of another one. -/
theorem InCreationOrder.sublist {found all : List Node} (hfound : InCreationOrder found)
    (hall : InCreationOrder all) (hsub : found ⊆ all) : found.Sublist all := by
  have hirrefl : Std.Irrefl fun a b : Node => a.id < b.id := ⟨fun a => lt_irrefl a.id⟩
  have hantisymm : Std.Antisymm fun a b : Node => a.id < b.id :=
    ⟨fun _ _ hab hba => (hab.asymm hba).elim⟩
  exact List.sublist_of_subperm_of_pairwise
    (List.subperm_of_subset (List.Pairwise.nodup hfound) hsub) hfound hall

end Node

/-! ### Handles -/

/-- The tree of a document or of a fragment is sound. -/
theorem exists_sound_load (isFragment : Bool) (source : String) :
    ∃ rank, (load isFragment source).tree.Sound rank := by
  cases isFragment with
  | true => exact exists_sound_parseFragment source
  | false => exact exists_sound_parseDocument source

/-- The nodes of a document that can be come by: its root, what a search from one of them finds,
and what one of them reports as its parent. -/
inductive Node.Handle (root : Node) : Node → Prop
  | root : Handle root root
  | found {n m : Node} {query : String} {ms : List Node} (hn : Handle root n)
      (hfind : n.findAll query = some ms) (hm : m ∈ ms) : Handle root m
  | above {n p : Node} (hn : Handle root n) (hp : n.parent = some p) : Handle root p

namespace Node

variable {t : Tree} {rank : ℕ → ℕ} {n m p : ℕ} {selector : Css.Selector}

theorem isSome_element?_of_anyMatches {scope : Option NodeId}
    (h : Css.anyMatches t scope n selector = true) : (t.element? n).isSome := by
  have hchain : ∃ chain ∈ selector, Css.Chain.matches t scope n chain = true := by
    induction selector with
    | nil => simp [Css.anyMatches] at h
    | cons chain rest ih =>
      rw [Css.anyMatches, Bool.or_eq_true] at h
      rcases h with h | h
      · exact ⟨chain, List.mem_cons_self, h⟩
      · obtain ⟨chain, hmem, h⟩ := ih h
        exact ⟨chain, List.mem_cons_of_mem _ hmem, h⟩
  obtain ⟨chain, -, h⟩ := hchain
  cases he : t.element? n with
  | some e => rfl
  | none => cases chain <;> simp [Css.Chain.matches, he] at h

/-- What is found is an element of the same tree. -/
theorem isSome_element?_of_mem_search {a : Node}
    (ha : a ∈ (Node.mk t n).search selector) : ∃ k, a = ⟨t, k⟩ ∧ (t.element? k).isSome := by
  simp only [search] at ha
  split_ifs at ha
  · obtain ⟨k, hk, rfl⟩ := List.mem_map.1 ha
    exact ⟨k, rfl, isSome_element?_of_anyMatches (List.mem_filter.1 hk).2⟩
  · obtain ⟨k, hk, rfl⟩ := List.mem_map.1 ha
    have hmatches := (Bool.and_eq_true_iff.1 (List.mem_filter.1 hk).2).2
    exact ⟨k, rfl, isSome_element?_of_anyMatches hmatches⟩
  · cases ha

/-- A handle is the root or an element of the tree. -/
theorem Handle.eq_or_isSome_element? (ht : t.Sound rank) {a : Node}
    (ha : Handle ⟨t, 0⟩ a) : a = ⟨t, 0⟩ ∨ ∃ k, a = ⟨t, k⟩ ∧ (t.element? k).isSome := by
  induction ha with
  | root => exact .inl rfl
  | @found n m query ms hn hfind hm ih =>
    obtain ⟨selector, -, rfl⟩ := Option.map_eq_some_iff.1 hfind
    -- whatever is searched, only elements are found
    rcases ih with rfl | ⟨k, rfl, -⟩
    · exact .inr (isSome_element?_of_mem_search hm)
    · exact .inr (isSome_element?_of_mem_search hm)
  | @above n p hn hp ih =>
    obtain ⟨k, rfl⟩ : ∃ k, n = ⟨t, k⟩ := by
      rcases ih with rfl | ⟨k, rfl, -⟩ <;> exact ⟨_, rfl⟩
    obtain ⟨p, rfl, -, hp⟩ := (parent_eq_some_iff ht).1 hp
    exact .inr ⟨p, rfl, hp⟩

/-! ### What searches find -/

/-- What a selector finds from the root of a document and from another node of it: `found` is the
part of `all` below the node, but the two may stand in different orders. -/
structure Searches (root n : Node) (selector : Css.Selector) (all found : List Node) : Prop where
  /-- From the node all that matches below it is found, in document order. -/
  found_eq : found = n.matchesBelow selector
  /-- Nothing is found twice. -/
  nodup : found.Nodup
  /-- The node itself is not found. -/
  not_mem : n ∉ found
  /-- What is found is found from the root too, and lies below the node. -/
  mem_found_iff (m : Node) : m ∈ found ↔ m ∈ all ∧ root.tree.Ascends m.id n.id
  /-- In document order it is a part of what matches in the whole document. -/
  sublist_matchesBelow (hn : root.tree.Ascends n.id root.id) :
    found.Sublist (root.matchesBelow selector)
  /-- What matches in the document is found from the root, but other nodes may be too. -/
  mem_matchesBelow_iff (m : Node) :
    m ∈ root.matchesBelow selector ↔ m ∈ all ∧ root.tree.Ascends m.id root.id
  /-- From the root every element is found that matches and has a place, wherever that is. -/
  mem_all_iff (m : Node) : m ∈ all ↔ ∃ k, m = root.other k ∧ (root.tree.parent? k).isSome ∧
    Css.anyMatches root.tree none k selector
  /-- From the root the nodes are found in the order in which they were made. -/
  inCreationOrder : InCreationOrder all
  /-- That is document order when that is the order in which the nodes of the document were made,
  and nothing else is found. -/
  eq_matchesBelow_iff : all = root.matchesBelow selector ↔
    InCreationOrder (root.matchesBelow selector) ∧ ∀ m ∈ all, root.tree.Ascends m.id root.id
  /-- What is found from the node stands in the same order in what is found from the root when
  that is the order in which the nodes were made. -/
  sublist_iff : found.Sublist all ↔ InCreationOrder found
  /-- It is what reports the node among the parents when nothing but elements is in between. -/
  mem_iff_ascends_iff : (∀ m, m ∈ found ↔ m ∈ all ∧ m.Ascends n) ↔
    ∀ m ∈ found, ∀ p, root.tree.Ascends m.id p → root.tree.Ascends p n.id →
      (root.tree.element? p).isSome
  /-- The parents of what is found are elements. -/
  isSome_element? {m p : Node} (hm : m ∈ all) (hp : m.Ascends p) :
    (p.tree.element? p.id).isSome
  /-- The steps to parents end at an element that has none. -/
  ends {m : Node} (hm : m ∈ all) : ∃ last, (last = m ∨ m.Ascends last) ∧
    (last.tree.element? last.id).isSome ∧ last.parent = none

/-- What is found from a node is what is found from the root and lies below it. -/
theorem mem_matchesBelow_iff_mem_search (ht : t.Sound rank) (m : Node) :
    m ∈ (Node.mk t n).matchesBelow selector ↔
      m ∈ (Node.mk t 0).search selector ∧ t.Ascends m.id n := by
  rw [mem_matchesBelow ht, mem_search_zero ht]
  constructor
  · rintro ⟨k, rfl, hk, hmatches⟩
    obtain ⟨p, hp, -⟩ := Relation.TransGen.head'_iff.1 hk
    exact ⟨⟨k, rfl, Option.isSome_of_eq_some hp, hmatches⟩, hk⟩
  · rintro ⟨⟨k, rfl, -, hmatches⟩, hk⟩
    exact ⟨k, rfl, hk, hmatches⟩

/-- The search from the root goes in document order when that is the order in which the nodes were
made. -/
theorem search_zero_eq_matchesBelow_iff (ht : t.Sound rank) :
    (Node.mk t 0).search selector = (Node.mk t 0).matchesBelow selector ↔
      InCreationOrder ((Node.mk t 0).matchesBelow selector) ∧
        ∀ m ∈ (Node.mk t 0).search selector, t.Ascends m.id 0 := by
  have hall : InCreationOrder ((Node.mk t 0).search selector) := inCreationOrder_search_zero ht
  have hmem (m : Node) : m ∈ (Node.mk t 0).matchesBelow selector ↔
      m ∈ (Node.mk t 0).search selector ∧ t.Ascends m.id 0 := mem_matchesBelow_iff_mem_search ht m
  constructor
  · intro heq
    exact ⟨heq ▸ hall, fun m hm => ((hmem m).1 (heq ▸ hm)).2⟩
  · rintro ⟨hbelow, hplaced⟩
    -- both have the same nodes, in the order in which they were made
    have hsub := hall.sublist hbelow fun m hm => (hmem m).2 ⟨hm, hplaced m hm⟩
    exact hsub.antisymm (hbelow.sublist hall fun m hm => ((hmem m).1 hm).1)

/-- What is found from a node reports it among its parents when nothing but elements is in
between. -/
theorem mem_iff_ascends_iff (ht : t.Sound rank) (hn : (t.element? n).isSome) :
    (∀ m, m ∈ (Node.mk t n).matchesBelow selector ↔
        m ∈ (Node.mk t 0).search selector ∧ m.Ascends ⟨t, n⟩) ↔
      ∀ m ∈ (Node.mk t n).matchesBelow selector, ∀ p, t.Ascends m.id p → t.Ascends p n →
        (t.element? p).isSome := by
  constructor
  · intro h m hm
    obtain ⟨k, rfl, -⟩ := (mem_matchesBelow ht).1 hm
    exact ((ascends_iff ht hn).1 ((h _).1 hm).2).2
  · intro h m
    constructor
    · intro hm
      obtain ⟨hfound, hup⟩ := (mem_matchesBelow_iff_mem_search ht m).1 hm
      obtain ⟨k, rfl, -⟩ := (mem_matchesBelow ht).1 hm
      exact ⟨hfound, (ascends_iff ht hn).2 ⟨hup, h _ hm⟩⟩
    · rintro ⟨hfound, hup⟩
      obtain ⟨k, rfl, -⟩ := (mem_search_zero ht).1 hfound
      exact (mem_matchesBelow_iff_mem_search ht _).2 ⟨hfound, ((ascends_iff ht hn).1 hup).1⟩

/-- Searches in a sound tree. -/
theorem searches_of_sound (ht : t.Sound rank) (hn : (t.element? n).isSome)
    (hfree : selector.ScopeFree) :
    Searches ⟨t, 0⟩ ⟨t, n⟩ selector ((Node.mk t 0).search selector)
      ((Node.mk t n).search selector) := by
  rw [search_eq_matchesBelow hn hfree]
  have hall : InCreationOrder ((Node.mk t 0).search selector) := inCreationOrder_search_zero ht
  have hmem (m : Node) : m ∈ (Node.mk t n).matchesBelow selector ↔
      m ∈ (Node.mk t 0).search selector ∧ t.Ascends m.id n := mem_matchesBelow_iff_mem_search ht m
  exact
    { found_eq := rfl
      nodup := nodup_matchesBelow ht
      not_mem := fun hself => ht.not_ascends_self n ((hmem _).1 hself).2
      mem_found_iff := hmem
      sublist_matchesBelow := matchesBelow_sublist ht
      mem_matchesBelow_iff := mem_matchesBelow_iff_mem_search ht
      mem_all_iff := fun m => mem_search_zero ht
      inCreationOrder := hall
      eq_matchesBelow_iff := search_zero_eq_matchesBelow_iff ht
      sublist_iff := ⟨fun hsub => List.Pairwise.sublist hsub hall, fun hfound =>
        hfound.sublist hall fun m hm => ((hmem m).1 hm).1⟩
      mem_iff_ascends_iff := mem_iff_ascends_iff ht hn
      isSome_element? := fun {m p} hm hp => by
        obtain ⟨k, rfl, -⟩ := isSome_element?_of_mem_search hm
        obtain ⟨q, rfl, hq⟩ := isSome_element?_of_ascends ht hp
        exact hq
      ends := fun {m} hm => by
        obtain ⟨k, rfl, hk⟩ := isSome_element?_of_mem_search hm
        exact exists_outermost ht hk }

/-- **Searches in documents.** For every node of a document but the root, and for every query
without a scope. -/
theorem findAll_searches (isFragment : Bool) (source query : String)
    (hread : Css.Selector.read? query = some selector) (hfree : selector.ScopeFree) {a : Node}
    (ha : Handle (load isFragment source) a) (hroot : a ≠ load isFragment source) :
    ∃ all found, (load isFragment source).findAll query = some all ∧
      a.findAll query = some found ∧ Searches (load isFragment source) a selector all found := by
  obtain ⟨rank, ht⟩ := exists_sound_load isFragment source
  obtain ⟨k, rfl, hk⟩ := (ha.eq_or_isSome_element? ht).resolve_left hroot
  refine ⟨_, _, ?_, ?_, searches_of_sound ht hk hfree⟩
  · rw [findAll, hread]
    rfl
  · rw [findAll, hread]
    rfl

end Node

/-- What is taken out of a document is still found. -/
example : ((load false "<p></p><frameset></frameset>").findAll "p").map List.length = some 1 ∧
    (load false "<p></p><frameset></frameset>").matchesBelow [.compound [.named "p"]] = [] :=
  ⟨by cbv, by cbv⟩

/-! ### A document whose nodes are moved -/

/-- A paragraph in a table goes in front of the table, which was made before it. -/
def paragraphTree : Tree :=
  ⟨#[{ content := .document, children := [1] },
    { content := .element { name := "html" }, parent := some 0, children := [2, 3] },
    { content := .element { name := "head" }, parent := some 1 },
    { content := .element { name := "body" }, parent := some 1, children := [5, 4] },
    { content := .element { name := "table" }, parent := some 3 },
    { content := .element { name := "p" }, parent := some 3 }]⟩

theorem load_paragraph : load false "<table><p>" = ⟨paragraphTree, 0⟩ := by cbv

/-- Paragraphs and tables. -/
def paragraphsAndTables : Css.Selector := [.compound [.named "p"], .compound [.named "table"]]

theorem read?_paragraphsAndTables :
    Css.Selector.read? "p, table" = some paragraphsAndTables := by cbv

theorem scopeFree_paragraphsAndTables : paragraphsAndTables.ScopeFree := by
  simp [paragraphsAndTables, Css.Selector.ScopeFree, Css.chainsFree, Css.Chain.ScopeFree,
    Css.conditionsFree, Css.Condition.ScopeFree]

theorem findAll_searches_body :
    Css.Selector.read? "p, table" = some paragraphsAndTables ∧ paragraphsAndTables.ScopeFree ∧
      Node.Handle (load false "<table><p>") ⟨paragraphTree, 3⟩ ∧
      (⟨paragraphTree, 3⟩ : Node) ≠ load false "<table><p>" ∧
      ∃ all found, (load false "<table><p>").findAll "p, table" = some all ∧
        Node.findAll ⟨paragraphTree, 3⟩ "p, table" = some found ∧
        Node.Searches (load false "<table><p>") ⟨paragraphTree, 3⟩ paragraphsAndTables all
          found := by
  have hbody : (load false "<table><p>").findAll "body" = some [⟨paragraphTree, 3⟩] := by
    rw [load_paragraph]
    cbv
  have hhandle : Node.Handle (load false "<table><p>") ⟨paragraphTree, 3⟩ :=
    .found .root hbody (List.mem_singleton.2 rfl)
  have hroot : (⟨paragraphTree, 3⟩ : Node) ≠ load false "<table><p>" := by
    rw [load_paragraph]
    exact fun h => absurd (congrArg Node.id h) (by decide)
  exact ⟨read?_paragraphsAndTables, scopeFree_paragraphsAndTables, hhandle, hroot,
    Node.findAll_searches false "<table><p>" "p, table" read?_paragraphsAndTables
      scopeFree_paragraphsAndTables hhandle hroot⟩

/-- From the root the table is found first, though the paragraph comes before it in the document,
and in what is found from the body. -/
theorem findAll_creation_order :
    (load false "<table><p>").findAll "p, table" =
        some [⟨paragraphTree, 4⟩, ⟨paragraphTree, 5⟩] ∧
      (load false "<table><p>").matchesBelow paragraphsAndTables =
        [⟨paragraphTree, 5⟩, ⟨paragraphTree, 4⟩] ∧
      Node.findAll ⟨paragraphTree, 3⟩ "p, table" =
        some [⟨paragraphTree, 5⟩, ⟨paragraphTree, 4⟩] ∧
      ¬ [⟨paragraphTree, 5⟩, ⟨paragraphTree, 4⟩].Sublist
        [(⟨paragraphTree, 4⟩ : Node), ⟨paragraphTree, 5⟩] := by
  rw [load_paragraph]
  exact ⟨by cbv, by cbv, by cbv, fun h => absurd (h.map Node.id) (by decide)⟩

end Gleaner.Html
