import Gleaner.Html.Tree
import Mathlib

/-!
# The shape of trees

What a change of a tree does to each of its nodes: what the node is, what it is below, and what is
below it. What a node is counts without its text and its attributes, which decide no place.

## Main definitions

* `Content.shape`, `Tree.shape?`: what a node is, without its text and its attributes.
* `Tree.holds`: whether a node may have others below it.
* `Tree.holder`: the node that holds what is put into an element.
* `Tree.link`: a node that has no place put below another one.
* `Tree.pushTemplate`: a template made with its contents.

## Main results

* `Tree.parent?_detach`, `Tree.children_detach`: a node taken from its place.
* `Tree.parent?_link`, `Tree.children_link`: a node put below another one.
* `Tree.parent?_pushTemplate`, `Tree.children_pushTemplate`: a template made.
-/

namespace Gleaner.Html

/-- What a node is, without its text and its attributes. -/
def Content.shape : Content → Content
  | .text _ => .text ""
  | .element e => .element { e with attrs := [] }
  | c => c

/-- Whether a node may have others below it. -/
def Content.holds : Content → Bool
  | .document => true
  | .fragment => true
  | .element _ => true
  | _ => false

namespace Tree

/-- What a node is, without its text and its attributes. -/
def shape? (t : Tree) (n : NodeId) : Option Content := (t.content? n).map Content.shape

/-- Whether a node may have others below it. -/
def holds (t : Tree) (n : NodeId) : Bool := (t.content? n).any Content.holds

/-- The node that holds what is put into an element: for a template its contents. -/
def holder (t : Tree) (n : NodeId) : NodeId :=
  if t.isNamed n "template" then (t.children n).headD n else n

/-- A node that has no place put below another one. -/
def link (t : Tree) (p n : NodeId) (insert : List NodeId → List NodeId) : Tree :=
  (t.modify p fun node => { node with children := insert node.children }).modify n
    fun node => { node with parent := some p }

/-- A template made with its contents, which come after it. -/
def pushTemplate (t : Tree) (e : Element) : Tree :=
  ((t.push (.element e)).push .fragment).append t.size (t.size + 1)

/-! ### Changes node by node -/

section Accessors

variable {t t' : Tree} {n p k : ℕ}

/-- What can be told without text and attributes is told by the shape. -/
theorem any_content?_eq {f : Content → Bool} (hf : ∀ c, f c.shape = f c) :
    (t.content? k).any f = (t.shape? k).any f := by
  rw [shape?]
  cases t.content? k <;> simp [hf]

theorem isNamed_eq_any (name : String) : t.isNamed k name = (t.content? k).any fun c =>
    match c with
    | .element e => e.isNamed name
    | _ => false := by
  unfold isNamed element?
  cases t.content? k with
  | none => rfl
  | some c => cases c <;> rfl

theorem isSome_element?_eq_any : (t.element? k).isSome = (t.content? k).any fun c =>
    match c with
    | .element _ => true
    | _ => false := by
  unfold element?
  cases t.content? k with
  | none => rfl
  | some c => cases c <;> rfl

theorem isNamed_congr (h : t'.shape? k = t.shape? k) (name : String) :
    t'.isNamed k name = t.isNamed k name := by
  rw [isNamed_eq_any, isNamed_eq_any, any_content?_eq, any_content?_eq, h] <;>
    intro c <;> cases c <;> rfl

theorem holds_congr (h : t'.shape? k = t.shape? k) : t'.holds k = t.holds k := by
  rw [holds, holds, any_content?_eq, any_content?_eq, h] <;> intro c <;> cases c <;> rfl

theorem isSome_element?_congr (h : t'.shape? k = t.shape? k) :
    (t'.element? k).isSome = (t.element? k).isSome := by
  rw [isSome_element?_eq_any, isSome_element?_eq_any, any_content?_eq, any_content?_eq, h] <;>
    intro c <;> cases c <;> rfl

theorem lt_size_of_shape? {c : Content} (h : t.shape? k = some c) : k < t.size := by
  by_contra hk
  have hnone : t.nodes[k]? = none := Array.getElem?_eq_none (Nat.le_of_not_lt hk)
  simp [shape?, content?, hnone] at h

theorem lt_size_of_holds (h : t.holds k = true) : k < t.size := by
  by_contra hk
  have hnone : t.nodes[k]? = none := Array.getElem?_eq_none (Nat.le_of_not_lt hk)
  simp [holds, content?, hnone] at h

theorem lt_size_of_parent? (h : t.parent? k = some p) : k < t.size := by
  by_contra hk
  have hnone : t.nodes[k]? = none := Array.getElem?_eq_none (Nat.le_of_not_lt hk)
  simp [parent?, hnone] at h

/-- An element holds what is put into it. -/
theorem lt_size_of_mem_children (h : k ∈ t.children n) : n < t.size := by
  by_contra hn
  have hnone : t.nodes[n]? = none := Array.getElem?_eq_none (Nat.le_of_not_lt hn)
  simp [children, hnone] at h

/-- An element holds what is put into it. -/
theorem holds_of_isSome_element? (h : (t.element? k).isSome) : t.holds k = true := by
  unfold element? at h
  unfold holds
  split at h
  next e hc => simp [hc, Content.holds]
  next => cases h

theorem shape?_ne_fragment_of_isSome_element? (h : (t.element? k).isSome) :
    t.shape? k ≠ some .fragment := by
  unfold element? at h
  unfold shape?
  split at h
  next e hc => simp [hc, Content.shape]
  next => cases h

theorem isSome_element?_of_isNamed {name : String} (h : t.isNamed k name = true) :
    (t.element? k).isSome := by
  unfold isNamed at h
  split at h
  next e he => simp [he]
  next => cases h

@[simp]
theorem size_detach : (t.detach n).size = t.size := by
  unfold detach
  cases t.parent? n <;> simp [size_modify]

@[simp]
theorem content?_detach : (t.detach n).content? k = t.content? k := by
  unfold detach
  cases t.parent? n with
  | none => rfl
  | some p =>
    simp only [content?, modify, Array.getElem?_modify]
    split <;> split <;> cases t.nodes[k]? <;> rfl

@[simp]
theorem shape?_detach : (t.detach n).shape? k = t.shape? k := by
  rw [shape?, content?_detach, shape?]

@[simp]
theorem parent?_detach : (t.detach n).parent? k = if k = n then none else t.parent? k := by
  unfold detach
  cases hn : t.parent? n with
  | none =>
    dsimp only
    by_cases hk : k = n
    · rw [if_pos hk, hk, hn]
    · rw [if_neg hk]
  | some p =>
    simp only [parent?, modify, Array.getElem?_modify, eq_comm (a := k)]
    split <;> split <;> cases t.nodes[k]? <;> rfl

@[simp]
theorem children_detach : (t.detach n).children k =
    if t.parent? n = some k then (t.children k).filter (· ≠ n) else t.children k := by
  unfold detach
  cases hn : t.parent? n with
  | none => simp
  | some p =>
    simp only [children, modify, Array.getElem?_modify, Option.some.injEq]
    split <;> split <;> cases t.nodes[k]? <;> simp

@[simp]
theorem size_link {insert : List NodeId → List NodeId} : (t.link p n insert).size = t.size := by
  simp [link, size_modify]

@[simp]
theorem content?_link {insert : List NodeId → List NodeId} :
    (t.link p n insert).content? k = t.content? k := by
  simp only [link, content?, modify, Array.getElem?_modify]
  split <;> split <;> cases t.nodes[k]? <;> rfl

@[simp]
theorem shape?_link {insert : List NodeId → List NodeId} :
    (t.link p n insert).shape? k = t.shape? k := by
  rw [shape?, content?_link, shape?]

theorem parent?_link {insert : List NodeId → List NodeId} (hn : n < t.size) :
    (t.link p n insert).parent? k = if k = n then some p else t.parent? k := by
  simp only [link, parent?, modify, Array.getElem?_modify, eq_comm (a := k)]
  by_cases hk : n = k
  · subst hk
    obtain ⟨node, hnode⟩ : ∃ node, t.nodes[n]? = some node := ⟨_, Array.getElem?_eq_getElem hn⟩
    rw [if_pos rfl, hnode]
    split <;> simp
  · rw [if_neg hk, if_neg hk]
    split <;> cases t.nodes[k]? <;> rfl

theorem children_link {insert : List NodeId → List NodeId} (hp : p < t.size) :
    (t.link p n insert).children k =
      if k = p then insert (t.children p) else t.children k := by
  simp only [link, children, modify, Array.getElem?_modify, eq_comm (a := k)]
  by_cases hk : p = k
  · subst hk
    obtain ⟨node, hnode⟩ : ∃ node, t.nodes[p]? = some node := ⟨_, Array.getElem?_eq_getElem hp⟩
    rw [if_pos rfl, if_pos rfl, hnode]
    split <;> simp
  · rw [if_neg hk, if_neg hk]
    split <;> cases t.nodes[k]? <;> rfl

theorem parent?_append (hn : n < t.size) :
    (t.append p n).parent? k = if k = n then some p else t.parent? k := by
  show ((t.detach n).link p n (· ++ [n])).parent? k = _
  rw [parent?_link (by rwa [size_detach]), parent?_detach]
  split <;> rfl

@[simp]
theorem content?_append : (t.append p n).content? k = t.content? k := by
  show ((t.detach n).link p n (· ++ [n])).content? k = _
  rw [content?_link, content?_detach]

@[simp]
theorem content?_place {sibling : ℕ} : (t.place sibling n).content? k = t.content? k := by
  unfold place
  dsimp only
  split
  next => exact content?_detach
  next p _ =>
    show ((t.detach n).link p n (insertBefore n sibling)).content? k = _
    rw [content?_link, content?_detach]

@[simp]
theorem size_append : (t.append p n).size = t.size := by
  show ((t.detach n).link p n (· ++ [n])).size = _
  rw [size_link, size_detach]

theorem content?_push {c : Content} :
    (t.push c).content? k = if k = t.size then some c else t.content? k := by
  have hget : (t.push c).nodes[k]? = if k = t.size then some { content := c } else t.nodes[k]? :=
    Array.getElem?_push
  rw [content?, hget, content?]
  split <;> rfl

theorem shape?_push {c : Content} :
    (t.push c).shape? k = if k = t.size then some c.shape else t.shape? k := by
  rw [shape?, content?_push, shape?]
  split <;> rfl

@[simp]
theorem parent?_push {c : Content} : (t.push c).parent? k = t.parent? k := by
  simp only [push, parent?, Array.getElem?_push]
  split
  next h => simp [h]
  next => rfl

@[simp]
theorem children_push {c : Content} : (t.push c).children k = t.children k := by
  simp only [push, children, Array.getElem?_push]
  split
  next h => simp [h]
  next => rfl

/-- Text and attributes of a node changed, its place is the same. -/
theorem modify_content {f : TreeNode → TreeNode}
    (hf : ∀ node, t.nodes[n]? = some node → (f node).parent = node.parent ∧
      (f node).children = node.children ∧ (f node).content.shape = node.content.shape) :
    (t.modify n f).parent? k = t.parent? k ∧ (t.modify n f).children k = t.children k ∧
      (t.modify n f).shape? k = t.shape? k := by
  simp only [parent?, children, shape?, content?, modify, Array.getElem?_modify]
  by_cases hk : n = k
  · subst hk
    rw [if_pos rfl]
    cases hnode : t.nodes[n]? with
    | none => exact ⟨rfl, rfl, rfl⟩
    | some node =>
      obtain ⟨hparent, hchildren, hshape⟩ := hf node hnode
      simp [hparent, hchildren, hshape]
  · rw [if_neg hk]
    exact ⟨rfl, rfl, rfl⟩

theorem content?_of_trailingText? {ns : List NodeId} {text : String}
    (h : t.trailingText? ns = some (n, text)) : t.content? n = some (.text text) := by
  unfold trailingText? at h
  split at h
  next => cases h
  next m hm =>
    split at h
    next s hs =>
      obtain ⟨rfl, rfl⟩ : m = n ∧ s = text := by simpa using h
      exact hs
    next => cases h


/-! ### Templates -/

variable {e : Element}

theorem size_pushTemplate : (t.pushTemplate e).size = t.size + 2 := by
  rw [pushTemplate, size_append, size_push, size_push]

theorem content?_pushTemplate : (t.pushTemplate e).content? k =
    if k = t.size + 1 then some .fragment
    else if k = t.size then some (.element e) else t.content? k := by
  rw [pushTemplate, content?_append, content?_push, size_push, content?_push]

theorem shape?_pushTemplate : (t.pushTemplate e).shape? k =
    if k = t.size + 1 then some .fragment
    else if k = t.size then some (.element { e with attrs := [] }) else t.shape? k := by
  rw [shape?, content?_pushTemplate, shape?]
  split_ifs <;> rfl

theorem shape?_pushTemplate_of_lt (hk : k < t.size) :
    (t.pushTemplate e).shape? k = t.shape? k := by
  rw [shape?_pushTemplate, if_neg (by omega), if_neg (by omega)]

/-- The contents are below the template. -/
theorem parent?_pushTemplate : (t.pushTemplate e).parent? k =
    if k = t.size + 1 then some t.size else t.parent? k := by
  rw [pushTemplate, parent?_append (by rw [size_push, size_push]; omega), parent?_push,
    parent?_push]

/-- Nothing else is below the template. -/
theorem children_pushTemplate : (t.pushTemplate e).children k =
    if k = t.size then [t.size + 1] else t.children k := by
  have hnone {k : ℕ} (hk : t.size ≤ k) : t.nodes[k]? = none := Array.getElem?_eq_none hk
  have hsize : ((t.push (.element e)).push .fragment).size = t.size + 2 := by
    rw [size_push, size_push]
  -- the contents have no place before
  have hfree : ((t.push (.element e)).push .fragment).parent? (t.size + 1) = none := by
    rw [parent?_push, parent?_push, parent?, hnone (Nat.le_succ _)]
    rfl
  have hlink : t.pushTemplate e = ((t.push (.element e)).push .fragment).link t.size (t.size + 1)
      (· ++ [t.size + 1]) := by
    rw [pushTemplate, append, detach, hfree]
    rfl
  rw [hlink, children_link (by omega), children_push, children_push, children_push,
    children_push]
  split
  next => rw [children, hnone le_rfl]; rfl
  next => rfl

theorem isNamed_pushTemplate (he : e.isNamed "template" = true) :
    (t.pushTemplate e).isNamed t.size "template" = true := by
  rw [isNamed, element?, content?_pushTemplate, if_neg (by omega), if_pos rfl]
  exact he

end Accessors

end Tree
end Gleaner.Html
