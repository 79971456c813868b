import Gleaner.Document

/-!
# Outlines of documents

What a search in a document should give is said of its outline, the tree of its nodes. A document
model presents an outline when it reports the parents in it, and answers a query on it when it
finds, below the top and each reported node, the nodes that match in document order.

## Main definitions

* `Outline`: a node, whether it is reported as a parent, and the outlines of its children.
* `Outline.parts`, `Outline.descendants`: the outlines inside of an outline, itself first, and the
  nodes properly below its own, both in document order.
* `Outline.Presents`, `Outline.Answers`: what a document model does with an outline.
* `Outline.Solid`: no node that is not reported lies below one that is.

## Main results

* `Outline.descendants_sublist_of_mem_parts`: what lies below a part lies below the whole.
* `Outline.exists_parent_of_mem_descendants`: every node below is the child of a part.
-/

namespace Gleaner

/-- A document, or a part of it, as the tree of its nodes. A node that is not reported is no
parent to a search, as the root of a document. -/
inductive Outline (Node : Type) where
  | node (name : Node) (reported : Bool) (children : List (Outline Node))

namespace Outline

variable {Node : Type}

/-- The node at the top. -/
def name : Outline Node → Node
  | node name _ _ => name

/-- Whether the node at the top is reported as a parent. -/
def reported : Outline Node → Bool
  | node _ reported _ => reported

/-- The outlines of the nodes directly below. -/
def children : Outline Node → List (Outline Node)
  | node _ _ children => children

mutual

/-- The outlines inside of an outline, itself first, in document order. -/
def parts : Outline Node → List (Outline Node)
  | node name reported children => node name reported children :: partsOf children

/-- The outlines inside of a list of outlines. -/
def partsOf : List (Outline Node) → List (Outline Node)
  | [] => []
  | t :: rest => t.parts ++ partsOf rest

end

/-- The nodes properly below the top, in document order. -/
def descendants (t : Outline Node) : List Node := (partsOf t.children).map name

theorem partsOf_eq_flatMap (ts : List (Outline Node)) : partsOf ts = ts.flatMap parts := by
  induction ts with
  | nil => rfl
  | cons t rest ih => rw [partsOf, ih, List.flatMap_cons]

theorem parts_eq (t : Outline Node) : t.parts = t :: t.children.flatMap parts := by
  cases t with
  | node name reported children => rw [parts, partsOf_eq_flatMap]; rfl

/-- Below the top are its children, each before what lies below it. -/
theorem descendants_eq (t : Outline Node) :
    t.descendants = t.children.flatMap fun c => c.name :: c.descendants := by
  rw [descendants, partsOf_eq_flatMap, List.map_flatMap]
  refine congrArg (List.flatMap · t.children) (funext fun c => ?_)
  rw [descendants, parts_eq, partsOf_eq_flatMap, List.map_cons]

/-- An outline is a part of itself. -/
theorem self_mem_parts (t : Outline Node) : t ∈ t.parts := by
  rw [parts_eq]
  exact List.mem_cons_self

/-- The parts of a child are parts of the whole. -/
theorem mem_parts_of_child {s c t : Outline Node} (hc : c ∈ t.children) (hs : s ∈ c.parts) :
    s ∈ t.parts := by
  rw [parts_eq]
  exact List.mem_cons_of_mem t (List.mem_flatMap.2 ⟨c, hc, hs⟩)

/-- Induction over an outline, with the hypothesis at every child. -/
@[elab_as_elim]
theorem induction {motive : Outline Node → Prop}
    (node : ∀ t, (∀ c ∈ t.children, motive c) → motive t) : ∀ t, motive t
  | .node name reported children =>
    node (.node name reported children) fun c _ => induction node c
termination_by t => sizeOf t
decreasing_by
  have hc : c ∈ children := ‹_›
  have hlt := List.sizeOf_lt_of_mem hc
  simp only [Outline.node.sizeOf_spec]
  omega

/-- Parts of parts are parts. -/
theorem parts_trans {r s t : Outline Node} (hr : r ∈ s.parts) (hs : s ∈ t.parts) :
    r ∈ t.parts := by
  induction t using induction with
  | node t ih =>
    rw [parts_eq] at hs
    rcases List.mem_cons.1 hs with rfl | hs
    · exact hr
    · obtain ⟨c, hc, hsc⟩ := List.mem_flatMap.1 hs
      exact mem_parts_of_child hc (ih c hc hsc)

/-- A child lies below the top. -/
theorem name_mem_descendants {c t : Outline Node} (hc : c ∈ t.children) :
    c.name ∈ t.descendants := by
  rw [descendants_eq]
  exact List.mem_flatMap.2 ⟨c, hc, List.mem_cons_self⟩

/-- What lies below a part lies below the whole, in the same order. -/
theorem descendants_sublist_of_mem_parts {s t : Outline Node} (hs : s ∈ t.parts) :
    s.descendants.Sublist t.descendants := by
  induction t using induction with
  | node t ih =>
    rw [parts_eq] at hs
    rcases List.mem_cons.1 hs with rfl | hs
    · exact List.Sublist.refl _
    · obtain ⟨c, hc, hsc⟩ := List.mem_flatMap.1 hs
      -- the child with what lies below it is one run of the nodes below the top
      have hcons : (c.name :: c.descendants).Sublist t.descendants := by
        rw [descendants_eq t]
        exact List.sublist_flatten_of_mem (List.mem_map.2 ⟨c, hc, rfl⟩)
      exact ((ih c hc hsc).cons c.name).trans hcons

/-- Every node below the top is the child of a part. -/
theorem exists_parent_of_mem_descendants {t : Outline Node} {x : Node} (hx : x ∈ t.descendants) :
    ∃ u ∈ t.parts, ∃ c ∈ u.children, c.name = x := by
  induction t using induction with
  | node t ih =>
    rw [descendants_eq] at hx
    obtain ⟨c, hc, hxc⟩ := List.mem_flatMap.1 hx
    rcases List.mem_cons.1 hxc with rfl | hxc
    · exact ⟨t, t.self_mem_parts, c, hc, rfl⟩
    · obtain ⟨u, hu, d, hd, hname⟩ := ih c hc hxc
      exact ⟨u, mem_parts_of_child hc hu, d, hd, hname⟩

/-- A document model presents an outline: it tells its nodes apart, and reports of each child the
node above it when that is reported at all. -/
structure Presents (t : Outline Node) (m : DocumentModel Node) : Prop where
  /-- Two nodes are the same when they are equal. -/
  same_iff : ∀ a ∈ t.parts, ∀ b ∈ t.parts, m.same a.name b.name = true ↔ a.name = b.name
  /-- The parent of a child is the node above it. -/
  parent_child : ∀ s ∈ t.parts, ∀ c ∈ s.children,
    m.parent c.name = if s.reported then some s.name else none

/-- A document model answers a query on an outline: below the top, and below each node that is
reported, it finds the nodes that match, in document order. Whether a node matches does not depend
on where the search begins. -/
structure Answers (t : Outline Node) (m : DocumentModel Node) (query : String)
    (hits : Node → Bool) : Prop where
  /-- What is found from the top. -/
  top : m.findAll t.name query = some (t.descendants.filter hits)
  /-- What is found from a node that is reported. -/
  reported : ∀ s ∈ t.parts, s.reported = true →
    m.findAll s.name query = some (s.descendants.filter hits)

/-- No node that is not reported lies below one that is. -/
def Solid (t : Outline Node) : Prop :=
  ∀ s ∈ t.parts, s.reported = true → ∀ u ∈ s.parts, u.reported = true

end Outline
end Gleaner
