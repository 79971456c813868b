import Gleaner.Proofs.Html.Sound

/-!
# Document order

In a sound tree the nodes below a node, listed each before those below itself, are the nodes from
which it is reached by parents, each once; and what is listed below a node is a part of what is
listed below every node above it.

## Main definitions

* `Tree.Ascends`: a node is reached from another one by parents.

## Main results

* `Tree.Sound.subtree_eq`: a node comes first, and then what is below each of its children.
* `Tree.Sound.mem_subtree_iff`, `Tree.Sound.nodup_subtree`: what is listed, each node once.
* `Tree.Sound.subtree_isInfix`: what is listed below a node, inside of what is listed further up.
-/

namespace Gleaner.Html.Tree

/-- A node is reached from another one by one or more steps to the parent. -/
def Ascends (t : Tree) : ℕ → ℕ → Prop := Relation.TransGen fun n p => t.parent? n = some p

variable {t : Tree} {rank : ℕ → ℕ} {n m p c r : ℕ}

/-- The nodes from which a node is reached, and the node itself, counted. -/
noncomputable def weight (t : Tree) (n : ℕ) : ℕ :=
  open Classical in ((Finset.range t.size).filter fun m => m = n ∨ t.Ascends m n).card

theorem weight_le_size (t : Tree) (n : ℕ) : t.weight n ≤ t.size := by
  classical
  exact (Finset.card_filter_le _ _).trans (Finset.card_range _).le

theorem weight_pos (h : n < t.size) : 0 < t.weight n := by
  classical
  exact Finset.card_pos.2 ⟨n, Finset.mem_filter.2 ⟨Finset.mem_range.2 h, .inl rfl⟩⟩

/-- What is listed below a node is reached from there. -/
theorem ascends_of_mem_within (hlinked : ∀ {n c : ℕ}, c ∈ t.children n → t.parent? c = some n)
    {depth : ℕ} (h : m ∈ t.within depth n) : m = n ∨ t.Ascends m n := by
  induction depth generalizing n with
  | zero => simp [within] at h
  | succ depth ih =>
    rw [within, List.mem_cons] at h
    refine h.imp_right fun h => ?_
    obtain ⟨c, hc, hm⟩ := List.mem_flatMap.1 h
    rcases ih hm with rfl | hm
    · exact .single (hlinked hc)
    · exact .tail hm (hlinked hc)

namespace Sound

theorem rank_lt_of_ascends (h : t.Sound rank) (hm : t.Ascends m n) : rank n < rank m := by
  induction hm with
  | single hp => exact h.rank_lt hp
  | tail _ hp ih => exact (h.rank_lt hp).trans ih

theorem not_ascends_self (h : t.Sound rank) (n : ℕ) : ¬ t.Ascends n n :=
  fun hn => (h.rank_lt_of_ascends hn).false

theorem weight_lt (h : t.Sound rank) (hc : c ∈ t.children n) : t.weight c < t.weight n := by
  classical
  have hstep := h.linked hc
  -- what reaches the child reaches the node too, which itself does not reach the child
  refine Finset.card_lt_card (Finset.ssubset_iff_of_subset ?_ |>.2 ⟨n, ?_, ?_⟩)
  · intro m hm
    rw [Finset.mem_filter] at hm ⊢
    refine ⟨hm.1, .inr ?_⟩
    rcases hm.2 with rfl | hm
    · exact .single hstep
    · exact .tail hm hstep
  · exact Finset.mem_filter.2 ⟨Finset.mem_range.2 (lt_size_of_mem_children hc), .inl rfl⟩
  · -- a node is not below its child
    intro hn
    rcases (Finset.mem_filter.1 hn).2 with rfl | hn
    · exact h.not_ascends_self n (.single hstep)
    · exact h.not_ascends_self n (.tail hn hstep)

/-- As many steps down as there are nodes below a node list them all. -/
theorem within_succ (h : t.Sound rank) {depth : ℕ} (hn : n < t.size)
    (hdepth : t.weight n ≤ depth) : t.within (depth + 1) n = t.within depth n := by
  induction depth generalizing n with
  | zero => exact absurd (weight_pos hn) hdepth.not_gt
  | succ depth ih =>
    rw [within, within]
    refine congrArg (n :: ·) (List.flatMap_congr fun c hc => ?_)
    -- below a child there are fewer nodes
    exact ih (lt_size_of_parent? (h.linked hc))
      (Nat.le_of_lt_succ ((h.weight_lt hc).trans_le hdepth))

/-- A node comes first, and then its children with what is below them. -/
theorem subtree_eq (h : t.Sound rank) (n : ℕ) :
    t.subtree n = n :: (t.children n).flatMap t.subtree := by
  obtain ⟨depth, hdepth⟩ := Nat.exists_eq_add_one.2 h.size_pos
  unfold subtree
  rw [hdepth, within]
  refine congrArg (n :: ·) (List.flatMap_congr fun c hc => ?_)
  have hweight := (h.weight_lt hc).trans_le (t.weight_le_size n)
  exact (h.within_succ (lt_size_of_parent? (h.linked hc)) (by omega)).symm

theorem tail_subtree (h : t.Sound rank) (n : ℕ) :
    (t.subtree n).tail = (t.children n).flatMap t.subtree := by
  rw [h.subtree_eq, List.tail_cons]

/-- Listed are a node and the nodes from which it is reached. -/
theorem mem_subtree_iff (h : t.Sound rank) : m ∈ t.subtree n ↔ m = n ∨ t.Ascends m n := by
  refine ⟨ascends_of_mem_within h.linked, ?_⟩
  rintro (rfl | hm)
  · rw [h.subtree_eq]
    exact List.mem_cons_self
  · induction hm with
    | @single p hp =>
      rw [h.subtree_eq p]
      refine List.mem_cons_of_mem _ (List.mem_flatMap.2 ⟨m, h.listed hp, ?_⟩)
      rw [h.subtree_eq]
      exact List.mem_cons_self
    | @tail c p _ hp ih =>
      rw [h.subtree_eq p]
      exact List.mem_cons_of_mem _ (List.mem_flatMap.2 ⟨c, h.listed hp, ih⟩)

/-- Below two children of a node there are no common nodes. -/
theorem disjoint_subtree (h : t.Sound rank) {c' : ℕ} (hc : t.parent? c = some p)
    (hc' : t.parent? c' = some p) (hne : c ≠ c') : List.Disjoint (t.subtree c) (t.subtree c') := by
  -- the way up from one child does not come to the other
  have hapart : ∀ {a b : ℕ}, t.parent? a = some p → t.parent? b = some p → a ≠ b →
      ¬ Relation.ReflTransGen (fun n p => t.parent? n = some p) a b := by
    intro a b ha hb hab hup
    rcases Relation.ReflTransGen.cases_head hup with heq | ⟨q, hq, hup⟩
    · exact hab heq
    · obtain rfl : p = q := Option.some.inj (ha.symm.trans hq)
      rcases Relation.reflTransGen_iff_eq_or_transGen.1 hup with rfl | hup
      · exact h.not_ascends_self b (.single hb)
      · exact h.not_ascends_self b (.head hb hup)
  have hup : ∀ {a m : ℕ}, m ∈ t.subtree a →
      Relation.ReflTransGen (fun n p => t.parent? n = some p) m a := by
    intro a m hm
    rcases h.mem_subtree_iff.1 hm with rfl | hm
    · exact .refl
    · exact hm.to_reflTransGen
  intro m hm hm'
  have hunique : Relator.RightUnique fun n p => t.parent? n = some p :=
    fun _ _ _ ha hb => Option.some.inj (ha.symm.trans hb)
  rcases (hup hm).total_of_right_unique hunique (hup hm') with hup | hup
  · exact hapart hc hc' hne hup
  · exact hapart hc' hc hne.symm hup

/-- No node is listed twice. -/
theorem nodup_subtree (h : t.Sound rank) (n : ℕ) : (t.subtree n).Nodup := by
  -- by induction on the nodes below the node
  induction hweight : t.weight n using Nat.strong_induction_on generalizing n with
  | _ w ih =>
    rw [h.subtree_eq, List.nodup_cons]
    constructor
    · intro hn
      obtain ⟨c, hc, hn⟩ := List.mem_flatMap.1 hn
      rcases h.mem_subtree_iff.1 hn with rfl | hn
      · exact h.not_ascends_self n (.single (h.linked hc))
      · exact h.not_ascends_self n (.tail hn (h.linked hc))
    · refine List.nodup_flatMap.2 ⟨fun c hc => ih _ (hweight ▸ h.weight_lt hc) c rfl, ?_⟩
      exact (h.nodup n).imp_of_mem fun hc hc' hne =>
        h.disjoint_subtree (h.linked hc) (h.linked hc') hne

/-- Listed below a node are the nodes from which it is reached. -/
theorem mem_tail_subtree_iff (h : t.Sound rank) :
    m ∈ (t.subtree n).tail ↔ t.Ascends m n := by
  have hnodup := h.nodup_subtree n
  have hmem := h.mem_subtree_iff (m := m) (n := n)
  rw [h.subtree_eq] at hnodup hmem ⊢
  rw [List.mem_cons] at hmem
  rw [List.tail_cons]
  constructor
  · intro hm
    refine (hmem.1 (.inr hm)).resolve_left ?_
    rintro rfl
    exact (List.nodup_cons.1 hnodup).1 hm
  · intro hm
    refine (hmem.2 (.inr hm)).resolve_left ?_
    rintro rfl
    exact h.not_ascends_self m hm

/-- What is below a node is listed in one piece wherever the node is. -/
theorem subtree_isInfix (h : t.Sound rank) (hn : t.Ascends n r) :
    t.subtree n <:+: (t.subtree r).tail := by
  induction hn with
  | single hp =>
    rw [h.tail_subtree]
    exact List.infix_flatMap_of_mem (h.listed hp) _
  | @tail c p _ hp ih =>
    rw [h.tail_subtree]
    exact (ih.trans (List.tail_suffix _).isInfix).trans
      (List.infix_flatMap_of_mem (h.listed hp) _)

end Sound

end Gleaner.Html.Tree
