import Gleaner.Html.Document
import Gleaner.Proofs.Document.Outline

/-!
# Outlines of HTML

The nodes of a tree of HTML form an outline. Elements are reported as parents; the root of a
document and the roots of the contents of templates are not.

## Main definitions

* `Html.Tree.outline`: the outline of what lies below a node, as far down as a depth.
* `Html.Tree.Linked`: every node is the parent of its children.

## Main results

* `Html.Tree.parts_outline`: the outline has the nodes that the tree lists, in the same order.
* `Html.Tree.presents_outline`: HTML presents the outlines of linked trees.
-/

namespace Gleaner.Html

deriving instance DecidableEq for TreeNode, Tree, Node

namespace Tree

/-- The outline of what lies below a node, as far down as a depth. -/
def outline (t : Tree) : (depth : Nat) → NodeId → Outline Node
  | 0, n => .node ⟨t, n⟩ (!(Node.mk t n).isRoot) []
  | depth + 1, n => .node ⟨t, n⟩ (!(Node.mk t n).isRoot) ((t.children n).map (t.outline depth))

variable {t : Tree}

@[simp]
theorem name_outline (depth : Nat) (n : NodeId) : (t.outline depth n).name = ⟨t, n⟩ := by
  cases depth <;> rfl

@[simp]
theorem reported_outline (depth : Nat) (n : NodeId) :
    (t.outline depth n).reported = !(Node.mk t n).isRoot := by
  cases depth <;> rfl

/-- An outline has the nodes that the tree lists below a node, in the same order. -/
theorem parts_outline (depth : Nat) (n : NodeId) :
    (t.outline depth n).parts.map Outline.name =
      (t.within (depth + 1) n).map fun k => (⟨t, k⟩ : Node) := by
  induction depth generalizing n with
  | zero => simp [outline, within, Outline.parts_eq, Outline.children, Outline.name]
  | succ depth ih =>
    rw [Outline.parts_eq, within, outline, Outline.children, List.map_cons, List.map_cons,
      List.map_flatMap, List.map_flatMap, List.flatMap_map]
    simp only [ih, Outline.name]

/-- Every part of an outline is one of the same tree. -/
theorem exists_eq_outline_of_mem_parts {depth : Nat} {n : NodeId} {s : Outline Node}
    (hs : s ∈ (t.outline depth n).parts) : ∃ d k, s = t.outline d k := by
  induction depth generalizing n with
  | zero =>
    rw [Outline.parts_eq, outline, Outline.children, List.flatMap_nil, List.mem_singleton] at hs
    exact ⟨0, n, hs⟩
  | succ depth ih =>
    rw [Outline.parts_eq] at hs
    rcases List.mem_cons.1 hs with rfl | hs
    · exact ⟨depth + 1, n, rfl⟩
    · rw [outline, Outline.children] at hs
      obtain ⟨c, hc, hsc⟩ := List.mem_flatMap.1 hs
      obtain ⟨k, -, rfl⟩ := List.mem_map.1 hc
      exact ih hsc

/-- Every node is the parent of its children. -/
def Linked (t : Tree) : Prop := ∀ n < t.size, ∀ c ∈ t.children n, t.parent? c = some n

instance (t : Tree) : Decidable t.Linked :=
  inferInstanceAs (Decidable (∀ n < t.size, ∀ c ∈ t.children n, t.parent? c = some n))

theorem Linked.parent?_eq (h : t.Linked) {n c : NodeId} (hc : c ∈ t.children n) :
    t.parent? c = some n := by
  by_cases hn : n < t.size
  · exact h n hn c hc
  · have hnone : t.nodes[n]? = none := Array.getElem?_eq_none (Nat.le_of_not_lt hn)
    simp [children, hnone] at hc

/-- HTML presents the outlines of a linked tree. -/
theorem presents_outline (h : t.Linked) (isFragment : Bool) (depth : Nat) (n : NodeId) :
    (t.outline depth n).Presents (documents isFragment) where
  same_iff a ha b hb := by
    obtain ⟨d, k, rfl⟩ := exists_eq_outline_of_mem_parts ha
    obtain ⟨d', k', rfl⟩ := exists_eq_outline_of_mem_parts hb
    simp [documents]
  parent_child s hs c hc := by
    obtain ⟨d, k, rfl⟩ := exists_eq_outline_of_mem_parts hs
    cases d with
    | zero => cases hc
    | succ d =>
      -- a part has the children that the tree lists, and these are linked to it
      rw [outline, Outline.children] at hc
      obtain ⟨k', hk', rfl⟩ := List.mem_map.1 hc
      simp only [documents, Node.parent, name_outline, reported_outline, Node.other,
        h.parent?_eq hk', Option.map_some]
      cases hroot : (Node.mk t k).isRoot <;> simp [Option.filter, hroot]

end Tree
end Gleaner.Html
