/-!
# Selectors of style sheets

A selector is a list of alternatives. Each is a chain of compounds that combinators join; a
compound is a list of conditions on one element.
-/

namespace Gleaner.Css

/-- How two elements are related. -/
inductive Combinator where
  /-- The left one is anywhere above. -/
  | descendant
  /-- The left one is directly above. -/
  | child
  /-- The left one is directly before. -/
  | adjacent
  /-- The left one is anywhere before, under the same node. -/
  | later
  deriving DecidableEq, Repr

/-- How the value of an attribute is compared with another text. -/
inductive Comparison where
  /-- It is the text. -/
  | equals
  /-- It has the text as one of its words. -/
  | hasWord
  /-- It is the text, or goes on with a dash. -/
  | hasStem
  /-- It begins with the text. -/
  | begins
  /-- It ends with the text. -/
  | ends
  /-- It contains the text. -/
  | contains
  deriving DecidableEq, Repr

/-- Whether case matters in a comparison. -/
inductive CaseRule where
  /-- It does. -/
  | exact
  /-- It does not, for letters of ASCII. -/
  | folded
  /-- It does, but in elements of HTML. -/
  | foldedInHtml
  deriving DecidableEq, Repr

/-- A condition on an attribute. -/
structure AttrCondition where
  /-- Whether the attribute may be in any name space. -/
  anySpace : Bool
  /-- The name of the attribute. -/
  name : String
  /-- What its value is compared with; when nothing, the attribute only has to be there. -/
  comparison : Option (Comparison × String × CaseRule)
  deriving DecidableEq, Repr

/-- A condition on the place of an element among its siblings: that it is number `a·n + b` for some
`n`. -/
structure Nth where
  /-- The step. -/
  step : Int
  /-- The offset. -/
  offset : Int
  /-- Whether only siblings of the same name count. -/
  ofType : Bool
  /-- Whether they are counted from the end. -/
  fromEnd : Bool
  deriving DecidableEq, Repr

mutual

/-- A condition on an element. -/
inductive Condition where
  /-- Any element. -/
  | any
  /-- An element of no language. -/
  | noSpace
  /-- An element with a name. -/
  | named (name : String)
  /-- The element with an identifier. -/
  | id (id : String)
  /-- An element of a class. -/
  | ofClass (name : String)
  /-- An element with an attribute. -/
  | attr (condition : AttrCondition)
  /-- The outermost element of a document. -/
  | root
  /-- An element with neither elements nor text in it. -/
  | empty
  /-- The element that is searched from, or else the outermost one. -/
  | scope
  /-- An element at a place among its siblings. -/
  | nth (place : Nth)
  /-- An element that no alternative matches. -/
  | none (alternatives : List Chain)

/-- Compounds joined by combinators, the last one on the outside. -/
inductive Chain where
  /-- One compound. -/
  | compound (conditions : List Condition)
  /-- A compound of which an element related by a combinator matches a chain. -/
  | joined (left : Chain) (combinator : Combinator) (conditions : List Condition)

end

/-- A selector: alternative chains. -/
abbrev Selector := List Chain

end Gleaner.Css
