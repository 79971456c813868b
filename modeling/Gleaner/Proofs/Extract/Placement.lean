import Gleaner.Extract.Scope
import Mathlib.Data.List.Forall2

/-!
# Where a schema is resolved

The scope of a schema leads from a node to one node, to several, or nowhere. `placement` computes
this apart from the results there, so that a statement on scopes is one on the nodes they lead to.

## Main definitions

* `Placement`: one node, no node, or a list of nodes; `Placement.run` are the results there.
* `placement`: the nodes that the scope of a schema leads to.

## Main results

* `resolveScoped_some`: resolving at a node is finding the placement and then running it.
* `Placement.run_congr`, `Placement.run_fails`, `Placement.exists_of_run_eq_error`: a run depends
  on its nodes only, and fails exactly when one of them does.
* `collect_eq_ok_iff`, `collect_fails`, `exists_of_collect_eq_error`: the same for lists.
-/

namespace Gleaner

variable {Node : Type}

/-- An item of the second of two related lists is related to one of the first. -/
theorem exists_of_forall₂_of_mem {α β : Type} {R : α → β → Prop} {xs : List α} {ys : List β}
    (h : List.Forall₂ R xs ys) {y : β} (hy : y ∈ ys) : ∃ x ∈ xs, R x y := by
  induction h with
  | nil => cases hy
  | cons hxy _ ih =>
    rcases List.mem_cons.1 hy with rfl | hy
    · exact ⟨_, List.mem_cons_self, hxy⟩
    · obtain ⟨x, hx, hR⟩ := ih hy
      exact ⟨x, List.mem_cons_of_mem _ hx, hR⟩

section Collect

variable {α : Type} {f g : α → Except ResolveError Value} {xs : List α}

/-- A list of computations succeeds when the first one and the rest do. -/
theorem collect_cons_eq_ok_iff {x : α} {vs : List Value} :
    collect f (x :: xs) = .ok vs ↔
      ∃ v ws, vs = v :: ws ∧ f x = .ok v ∧ collect f xs = .ok ws := by
  rw [collect]
  cases f x with
  | error e => simp
  | ok v => cases collect f xs <;> simp [eq_comm]

/-- A list of computations fails with the error of the first one, or of the rest after it. -/
theorem collect_cons_eq_error_iff {x : α} {e : ResolveError} :
    collect f (x :: xs) = .error e ↔
      f x = .error e ∨ ∃ v, f x = .ok v ∧ collect f xs = .error e := by
  rw [collect]
  cases f x with
  | error e => simp
  | ok v => cases collect f xs <;> simp

/-- A list of computations succeeds with the results of each, in order. -/
theorem collect_eq_ok_iff {vs : List Value} :
    collect f xs = .ok vs ↔ List.Forall₂ (fun x v => f x = .ok v) xs vs := by
  induction xs generalizing vs with
  | nil => simp [collect, eq_comm]
  | cons x rest ih =>
    rw [collect_cons_eq_ok_iff, List.forall₂_cons_left_iff]
    constructor
    · rintro ⟨v, ws, rfl, hx, hrest⟩
      exact ⟨v, ws, hx, ih.1 hrest, rfl⟩
    · rintro ⟨v, ws, hx, hrest, rfl⟩
      exact ⟨v, ws, rfl, hx, ih.2 hrest⟩

/-- The error of a list of computations is that of one of them. -/
theorem exists_of_collect_eq_error {e : ResolveError} (h : collect f xs = .error e) :
    ∃ x ∈ xs, f x = .error e := by
  induction xs with
  | nil => cases h
  | cons x rest ih =>
    rcases collect_cons_eq_error_iff.1 h with hx | ⟨v, -, hrest⟩
    · exact ⟨x, List.mem_cons_self, hx⟩
    · obtain ⟨y, hy, hfy⟩ := ih hrest
      exact ⟨y, List.mem_cons_of_mem x hy, hfy⟩

/-- A list of computations fails when one of them does. -/
theorem collect_fails {x : α} {e : ResolveError} (hx : x ∈ xs) (he : f x = .error e) :
    ∃ e', collect f xs = .error e' := by
  induction xs with
  | nil => cases hx
  | cons y rest ih =>
    cases hy : f y with
    | error e' => exact ⟨e', collect_cons_eq_error_iff.2 (.inl hy)⟩
    | ok v =>
      have hrest : x ∈ rest := (List.mem_cons.1 hx).resolve_left (by rintro rfl; simp_all)
      obtain ⟨e', he'⟩ := ih hrest
      exact ⟨e', collect_cons_eq_error_iff.2 (.inr ⟨v, hy, he'⟩)⟩

/-- Computations that agree on a list give the same results for it. -/
theorem collect_congr (h : ∀ x ∈ xs, f x = g x) : collect f xs = collect g xs := by
  induction xs with
  | nil => rfl
  | cons x rest ih =>
    rw [List.forall_mem_cons] at h
    rw [collect, collect, h.1, ih h.2]

/-- Computations that agree on two related lists give the same results for them. -/
theorem collect_congr_forall₂ {β : Type} {h : β → Except ResolveError Value} {ys : List β}
    (hsame : List.Forall₂ (fun x y => f x = h y) xs ys) : collect f xs = collect h ys := by
  induction hsame with
  | nil => rfl
  | cons hxy _ ih => rw [collect, collect, hxy, ih]

/-- Each result of a list of computations is the result of one of them. -/
theorem exists_of_mem_collect {vs : List Value} (h : collect f xs = .ok vs) {v : Value}
    (hv : v ∈ vs) : ∃ x ∈ xs, f x = .ok v :=
  exists_of_forall₂_of_mem (collect_eq_ok_iff.1 h) hv

end Collect

/-- The nodes that a scope leads to. -/
inductive Placement (Node : Type) where
  /-- One node, whose result is the result. -/
  | one (node : Node)
  /-- No node; the result is null. -/
  | nowhere
  /-- Any number of nodes, whose results are the items of an array. -/
  | each (nodes : List Node)

namespace Placement

/-- The nodes of a placement. -/
def nodes : Placement Node → List Node
  | one node => [node]
  | nowhere => []
  | each nodes => nodes

/-- The result of a placement, given the result at one node. -/
def run (resolveAt : Node → Except ResolveError Value) :
    Placement Node → Except ResolveError Value
  | one node => resolveAt node
  | nowhere => .ok .null
  | each nodes => resolveEach resolveAt nodes

variable {f g : Node → Except ResolveError Value} {p : Placement Node}

/-- Only the results at the nodes of a placement count. -/
theorem run_congr (h : ∀ node ∈ p.nodes, f node = g node) : p.run f = p.run g := by
  cases p with
  | one node => exact h node (List.mem_singleton_self node)
  | nowhere => rfl
  | each nodes =>
    have hcollect : collect f nodes = collect g nodes := collect_congr h
    rw [run, run, resolveEach, resolveEach, hcollect]

/-- A placement fails when the result at one of its nodes does. -/
theorem run_fails {node : Node} {e : ResolveError} (hn : node ∈ p.nodes)
    (he : f node = .error e) : ∃ e', p.run f = .error e' := by
  cases p with
  | one target =>
    obtain rfl : node = target := List.mem_singleton.1 hn
    exact ⟨e, he⟩
  | nowhere => cases hn
  | each nodes =>
    obtain ⟨e', he'⟩ : ∃ e', collect f nodes = .error e' := collect_fails hn he
    exact ⟨e', by rw [run, resolveEach, he']⟩

/-- The error of a placement is the error at one of its nodes. -/
theorem exists_of_run_eq_error {e : ResolveError} (h : p.run f = .error e) :
    ∃ node ∈ p.nodes, f node = .error e := by
  cases p with
  | one node => exact ⟨node, List.mem_singleton_self node, h⟩
  | nowhere => cases h
  | each nodes =>
    rw [run, resolveEach] at h
    cases hc : collect f nodes with
    | ok vs => simp [hc] at h
    | error e' =>
      simp only [hc, Except.error.injEq] at h
      exact exists_of_collect_eq_error (hc.trans (congrArg _ h))

end Placement

/-- The nodes that the scope of a schema leads to from a node, or why it leads to none. -/
def placement (m : DocumentModel Node) (node : Node) (schema : Schema) :
    Except ResolveError (Placement Node) :=
  match schema.options.scope with
  | none => .ok (.one node)
  | some (.first query) =>
    if query.isEmpty then .ok (.one node)
    else
      match m.findFirst node query with
      | none => .error (.invalidQuery query)
      | some none => .ok .nowhere
      | some (some target) => .ok (.one target)
  | some (.all queries) =>
    match queries.head?.filter (!·.isEmpty) with
    | some query =>
      match m.findAll node query with
      | some nodes => .ok (.each nodes)
      | none => .error (.invalidQuery query)
    | none =>
      match autoScope m node schema with
      | .ok nodes => .ok (.each nodes)
      | .error e => .error e

variable {m : DocumentModel Node} {node : Node} {f : Node → Except ResolveError Value}

/-- A schema is resolved at a node by finding its placement and running it there. A selector
without a query is an error before that. -/
theorem resolveScoped_some (schema : Schema) :
    resolveScoped m f (some node) schema =
      if schema.lacksQuery then .error .emptySelector
      else
        match placement m node schema with
        | .ok p => p.run f
        | .error e => .error e := by
  rw [resolveScoped, placement]
  by_cases hq : schema.lacksQuery
  · simp only [hq, ↓reduceIte]
  · simp only [hq, Bool.false_eq_true, ↓reduceIte]
    cases schema.options.scope with
    | none => rfl
    | some scope =>
      cases scope with
      | first query =>
        by_cases hempty : query.isEmpty
        · simp only [hempty, ↓reduceIte, Placement.run]
        · simp only [hempty, Bool.false_eq_true, ↓reduceIte]
          rcases m.findFirst node query with _ | _ | target <;> rfl
      | all queries =>
        cases hquery : queries.head?.filter (!·.isEmpty) with
        | some query =>
          simp only [hquery]
          cases m.findAll node query <;> rfl
        | none =>
          simp only [hquery]
          cases autoScope m node schema <;> rfl

/-- The placement of an object depends on its scope only. -/
theorem placement_object_congr {fields fields' : List (String × Schema)}
    {options options' : SchemaOptions} {objTransforms objTransforms' : List Transform}
    {enabled enabled' : Bool} (h : options.scope = options'.scope) :
    placement m node (.object fields options objTransforms enabled) =
      placement m node (.object fields' options' objTransforms' enabled') := by
  simp only [placement, Schema.options, h, autoScope]

end Gleaner
