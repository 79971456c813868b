import Gleaner.Css.Read
import Gleaner.Html.Tree

/-!
# Matching selectors

Which elements of a tree a selector matches. In a search from an element that element is the scope.
-/

namespace Gleaner.Css

open Html (Tree NodeId Element Attr)

/-- The elements directly below the node that a node is below, the node itself among them. -/
def siblings (t : Tree) (n : NodeId) : List NodeId :=
  match t.parent? n with
  | some p => (t.children p).filter fun m => (t.element? m).isSome
  | none => [n]

/-- The elements before an element, the nearest first. -/
def earlierSiblings (t : Tree) (n : NodeId) : List NodeId :=
  ((siblings t n).takeWhile (· ≠ n)).reverse

/-- The element that a node is directly below. -/
def parentElement? (t : Tree) (n : NodeId) : Option NodeId :=
  (t.parent? n).filter fun p => (t.element? p).isSome

/-- The elements above a node, the nearest first, as many as a limit. -/
def ancestors (t : Tree) : (limit : Nat) → NodeId → List NodeId
  | 0, _ => []
  | limit + 1, n =>
    match parentElement? t n with
    | some p => p :: ancestors t limit p
    | none => []

/-- The elements that a combinator relates an element to. -/
def Combinator.related (combinator : Combinator) (t : Tree) (n : NodeId) : List NodeId :=
  match combinator with
  | .descendant => ancestors t t.size n
  | .child => (parentElement? t n).toList
  | .adjacent => (earlierSiblings t n).take 1
  | .later => earlierSiblings t n

/-- The words of a text. -/
def wordsOf : List Char → List (List Char)
  | [] => [[]]
  | c :: cs =>
    if Token.isSpace c then [] :: wordsOf cs
    else
      match wordsOf cs with
      | [] => [[c]]
      | word :: rest => (c :: word) :: rest

/-- Whether a text contains another. -/
def hasInfix (part : List Char) : List Char → Bool
  | [] => part.isEmpty
  | c :: cs => part.isPrefixOf (c :: cs) || hasInfix part cs

/-- Whether the value of an attribute compares with a text. But for equality and stems no value
compares with the empty text. -/
def Comparison.holds (comparison : Comparison) (value text : List Char) : Bool :=
  match comparison with
  | .equals => value = text
  | .hasWord => !text.isEmpty && (wordsOf value).contains text
  | .hasStem => value = text || (text ++ ['-']).isPrefixOf value
  | .begins => !text.isEmpty && text.isPrefixOf value
  | .ends => !text.isEmpty && text.reverse.isPrefixOf value.reverse
  | .contains => !text.isEmpty && hasInfix text value

/-- A text as it is compared in an element. -/
def CaseRule.fold (rule : CaseRule) (e : Element) (s : String) : List Char :=
  match rule with
  | .exact => s.toList
  | .folded => s.toList.map Char.toLower
  | .foldedInHtml => if e.space = .html then s.toList.map Char.toLower else s.toList

/-- A name as it is written in an element: names of HTML are in lower case. -/
def nameIn (e : Element) (name : String) : String := if e.space = .html then lower name else name

/-- Whether an attribute of an element meets a condition. -/
def AttrCondition.holds (condition : AttrCondition) (e : Element) (a : Attr) : Bool :=
  (condition.anySpace || a.space = .plain) && a.name = nameIn e condition.name &&
    match condition.comparison with
    | none => true
    | some (comparison, text, rule) => comparison.holds (rule.fold e a.value) (rule.fold e text)

/-- The classes of an element. -/
def classesOf (e : Element) : List (List Char) :=
  match e.attrs.find? (·.name = "class") with
  | some a => split a.value.toList
  | none => []
where
  /-- The parts of a text between blanks. -/
  split : List Char → List (List Char)
    | [] => [[]]
    | c :: cs =>
      if isBlank c then [] :: split cs
      else
        match split cs with
        | [] => [[c]]
        | part :: rest => (c :: part) :: rest

/-- The siblings of an element of the same name, the element itself among them. -/
def sameType (t : Tree) (e : Element) (ns : List NodeId) : List NodeId :=
  ns.filter fun m => (t.element? m).any fun other => other.space = e.space && other.name = e.name

/-- Whether an element is at a place among its siblings. -/
def Nth.holds (place : Nth) (t : Tree) (e : Element) (n : NodeId) : Bool :=
  let all := siblings t n
  let counted := if place.ofType then sameType t e all else all
  let ordered := if place.fromEnd then counted.reverse else counted
  let index : Int := (ordered.takeWhile (· ≠ n)).length + 1
  let distance := index - place.offset
  if 2147483647 < distance then false
  else if place.step = 0 then distance = 0
  else
    let times := distance.tdiv place.step
    0 ≤ times && place.step * times = distance

/-- Whether an element has neither elements nor text in it. -/
def isEmpty (t : Tree) (n : NodeId) : Bool :=
  (t.children n).all fun m =>
    match t.content? m with
    | some (.element _) => false
    | some (.text _) => false
    | _ => true

/-- Whether an element is the outermost one of a document. -/
def isRoot (t : Tree) (n : NodeId) : Bool :=
  match (t.parent? n).bind t.content? with
  | some .document => true
  | _ => false

mutual

/-- Whether an element meets a condition. -/
def Condition.holds (t : Tree) (scope : Option NodeId) (e : Element) (n : NodeId) :
    Condition → Bool
  | .any => true
  | .noSpace => false
  | .named name => e.name = nameIn e name
  | .id id => (e.attrs.find? (·.name = "id")).any (·.value = id)
  | .ofClass name => !name.isEmpty && (classesOf e).contains name.toList
  | .attr condition => e.attrs.any (condition.holds e)
  | .root => isRoot t n
  | .empty => isEmpty t n
  | .scope =>
    match scope with
    | some m => n = m
    | none => isRoot t n
  | .nth place => place.holds t e n
  | .none alternatives => !anyMatches t scope n alternatives

/-- Whether an element meets all of a list of conditions. -/
def allHold (t : Tree) (scope : Option NodeId) (e : Element) (n : NodeId) :
    List Condition → Bool
  | [] => true
  | condition :: rest => condition.holds t scope e n && allHold t scope e n rest

/-- Whether a node is an element that a chain matches. -/
def Chain.matches (t : Tree) (scope : Option NodeId) (n : NodeId) : Chain → Bool
  | .compound conditions =>
    match t.element? n with
    | some e => allHold t scope e n conditions
    | none => false
  | .joined left combinator conditions =>
    (match t.element? n with
      | some e => allHold t scope e n conditions
      | none => false) &&
      (combinator.related t n).any fun m => left.matches t scope m

/-- Whether a node is an element that one of several chains matches. -/
def anyMatches (t : Tree) (scope : Option NodeId) (n : NodeId) : List Chain → Bool
  | [] => false
  | chain :: rest => chain.matches t scope n || anyMatches t scope n rest

end

end Gleaner.Css
