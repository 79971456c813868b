import Gleaner.Css.Match

/-!
# Selectors without a scope

What a selector matches depends on where a search began only through `:scope`.

## Main definitions

* `Css.Selector.ScopeFree`: the selector has no `:scope` in it.

## Main results

* `Css.anyMatches_eq`: it matches the same elements in every search.
-/

namespace Gleaner.Css

open Html (Tree NodeId Element)

mutual

/-- The condition has no scope in it. -/
def Condition.ScopeFree : Condition → Prop
  | .scope => False
  | .none alternatives => chainsFree alternatives
  | _ => True

/-- None of the conditions has a scope in it. -/
def conditionsFree : List Condition → Prop
  | [] => True
  | condition :: rest => condition.ScopeFree ∧ conditionsFree rest

/-- The chain has no scope in it. -/
def Chain.ScopeFree : Chain → Prop
  | .compound conditions => conditionsFree conditions
  | .joined left _ conditions => left.ScopeFree ∧ conditionsFree conditions

/-- None of the chains has a scope in it. -/
def chainsFree : List Chain → Prop
  | [] => True
  | chain :: rest => chain.ScopeFree ∧ chainsFree rest

end

/-- The selector has no scope in it. -/
def Selector.ScopeFree (selector : Selector) : Prop := chainsFree selector

section

variable (t : Tree) (scope scope' : Option NodeId)

mutual

theorem Condition.ScopeFree.holds_eq {condition : Condition} (h : condition.ScopeFree)
    (e : Element) (n : NodeId) :
    condition.holds t scope e n = condition.holds t scope' e n := by
  cases condition with
  | scope => exact h.elim
  | none alternatives =>
    rw [Condition.holds, Condition.holds, anyMatches_eq h]
  | _ => simp only [Condition.holds]

theorem allHold_eq {conditions : List Condition} (h : conditionsFree conditions)
    (e : Element) (n : NodeId) :
    allHold t scope e n conditions = allHold t scope' e n conditions := by
  cases conditions with
  | nil => rfl
  | cons condition rest => rw [allHold, allHold, h.1.holds_eq, allHold_eq h.2]

theorem Chain.ScopeFree.matches_eq {chain : Chain} (h : chain.ScopeFree) (n : NodeId) :
    chain.matches t scope n = chain.matches t scope' n := by
  cases chain with
  | compound conditions =>
    simp only [Chain.matches, allHold_eq h]
  | joined left combinator conditions =>
    simp only [Chain.matches, allHold_eq h.2, h.1.matches_eq]

theorem anyMatches_eq {chains : List Chain} (h : chainsFree chains) (n : NodeId) :
    anyMatches t scope n chains = anyMatches t scope' n chains := by
  cases chains with
  | nil => rfl
  | cons chain rest => rw [anyMatches, anyMatches, h.1.matches_eq, anyMatches_eq h.2]

end

end

end Gleaner.Css
