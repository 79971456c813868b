import Gleaner.Html.Construction.Basic

/-!
# Formatting elements

Formatting reaches across the bounds of blocks: it is opened again inside of a block, and an end
tag inside of a block splits the element.
-/

namespace Gleaner.Html

/-- Whether an entry is for a node. -/
def Formatting.isFor (n : NodeId) : Formatting → Bool
  | .marker => false
  | .element m _ => m = n

/-- Whether two tags have the same name and the same attributes. -/
def Tag.agrees (a b : Tag) : Bool :=
  a.name = b.name && a.attrs.length = b.attrs.length && a.attrs.all b.attrs.contains

namespace Construction

/-- Whether a node is in the list of formatting elements. -/
def isFormatting (s : Construction) (n : NodeId) : Bool := s.formatting.any (·.isFor n)

/-- A node no longer in the list of formatting elements. -/
def unformat (s : Construction) (n : NodeId) : Construction :=
  { s with formatting := s.formatting.filter (!·.isFor n) }

/-- The entries up to the last marker, the last entry first. -/
def sinceMarker (s : Construction) : List Formatting :=
  s.formatting.takeWhile (· ≠ .marker)

/-- The last entry up to the last marker that has a name. -/
def formattingNamed? (s : Construction) (name : String) : Option (NodeId × Tag) :=
  s.sinceMarker.findSome? fun entry =>
    match entry with
    | .element n tag => if tag.name = name then some (n, tag) else none
    | .marker => none

/-- Entries opened again, the first of them first. -/
def reopen (s : Construction) : List Formatting → Construction
  | [] => s
  | .marker :: rest => s.reopen rest
  | .element _ tag :: rest =>
    let (s, n) := s.openElement (elementOf tag)
    { s with formatting := .element n tag :: s.formatting }.reopen rest

/-- The formatting elements opened again that were closed since the last one that is open. -/
def reconstruct (s : Construction) : Construction :=
  let isClosed (entry : Formatting) :=
    match entry with
    | .marker => false
    | .element n _ => !s.opened.contains n
  let closed := s.formatting.takeWhile isClosed
  { s with formatting := s.formatting.dropWhile isClosed }.reopen closed.reverse

/-- Entries without the last of those that agree with a tag. -/
def dropEarliest (tag : Tag) (entries : List Formatting) : List Formatting :=
  let agrees (entry : Formatting) :=
    match entry with
    | .marker => false
    | .element _ other => tag.agrees other
  let early := entries.reverse
  (early.takeWhile (!agrees ·) ++ (early.dropWhile (!agrees ·)).drop 1).reverse

/-- A formatting element opened. Of more than three that agree the earliest is forgotten. -/
def openFormatting (s : Construction) (tag : Tag) : Construction :=
  let recent := s.sinceMarker
  let same := recent.filter fun entry =>
    match entry with
    | .marker => false
    | .element _ other => tag.agrees other
  let kept :=
    if 3 ≤ same.length then dropEarliest tag recent ++ s.formatting.drop recent.length
    else s.formatting
  let (s, n) := s.openElement (elementOf tag)
  { s with formatting := .element n tag :: kept }

/-- The innermost element with a name closed, unless a special element is in between. -/
def closeAny (s : Construction) (name : String) : Construction :=
  match s.opened.dropWhile fun n =>
      !s.tree.isNamed n name && !(s.tree.element? n).any (·.isSpecial) with
  | [] => s
  | n :: outer => if s.tree.isNamed n name then { s with opened := outer } else s

/-- A block being taken out of a formatting element. -/
structure Lifting where
  /-- The construction. -/
  base : Construction
  /-- The outermost node that moves with the block. -/
  top : NodeId
  /-- The entry behind which the formatting element is entered anew, if not in its own place. -/
  behind : Option NodeId := none
  /-- The open elements between the block and the formatting element that stay open, the
  innermost first. -/
  between : List NodeId := []

/-- The next element on the way from the block to the formatting element, which is the element
with a count. Formatting elements are made anew around what moves, but only three of them. -/
def Lifting.step (block : NodeId) (lift : Lifting) (n : NodeId) (count : Nat) : Lifting :=
  if 3 < count then { lift with base := lift.base.unformat n }
  else
    match lift.base.formatting.find? (·.isFor n) with
    | some (.element _ tag) =>
      let m := lift.base.tree.size
      let s := lift.base.makeElement (elementOf tag)
      let renewed := s.formatting.map fun entry =>
        if entry.isFor n then .element m tag else entry
      let tree := (s.tree.detach lift.top).append m lift.top
      { base := { s with formatting := renewed, tree }
        top := m
        behind := if lift.top = block then some m else lift.behind
        between := lift.between ++ [m] }
    | _ => lift

/-- All elements on the way, from a count on. -/
def Lifting.run (block : NodeId) : Lifting → Nat → List NodeId → Lifting
  | lift, _, [] => lift
  | lift, count, n :: rest => (lift.step block n count).run block (count + 1) rest

/-- An entry put behind the one for a node. -/
def enterBehind (n : NodeId) (entry : Formatting) : List Formatting → List Formatting
  | [] => []
  | other :: rest =>
    if other.isFor n then entry :: other :: rest else other :: enterBehind n entry rest

/-- A formatting element split at a block inside of it: the block is taken out of it, and the
contents of the block are put into a new formatting element. -/
def split (s : Construction) (node : NodeId) (tag : Tag) (inner : List NodeId) (block : NodeId)
    (between outer : List NodeId) : Construction :=
  let lift := Lifting.run block { base := s, top := block } 1 between
  let s := { lift.base with tree := lift.base.tree.detach lift.top }
  let s := s.put (s.placeIn (outer.headD 0)) lift.top
  let m := s.tree.size
  let s := s.makeElement (elementOf tag)
  let tree := (s.tree.moveChildren block m).append block m
  let entry := Formatting.element m tag
  let formatting :=
    match lift.behind with
    | none => s.formatting.map fun old => if old.isFor node then entry else old
    | some n => (enterBehind n entry s.formatting).filter (!·.isFor node)
  { s with tree, formatting, opened := inner ++ m :: block :: lift.between ++ outer }

/-- The end tag of a formatting element taken, at most a number of times. -/
def adopt (name : String) : Nat → Construction → Construction
  | 0, s => s
  | times + 1, s =>
    match s.formattingNamed? name with
    | none => s.closeAny name
    | some (node, tag) =>
      if !s.opened.contains node then s.unformat node
      else if !s.inScope Element.boundsScope (· = node) then s
      else
        let inside := s.opened.takeWhile (· ≠ node)
        let outer := (s.opened.dropWhile (· ≠ node)).drop 1
        let isBlock (n : NodeId) := (s.tree.element? n).any (·.isSpecial)
        let outward := inside.reverse
        match outward.dropWhile (!isBlock ·) with
        | [] => { s with opened := outer }.unformat node
        | block :: inward =>
          adopt name times (s.split node tag inward.reverse block
            (outward.takeWhile (!isBlock ·)).reverse outer)

/-- The end tag of a formatting element taken. -/
def closeFormatting (s : Construction) (name : String) : Construction :=
  if s.currentIs name && !s.isFormatting s.current then s.pop else adopt name 8 s

/-- An open link closed in front of another one. -/
def closeLink (s : Construction) : Construction :=
  match s.sinceMarker.findSome? fun entry =>
      match entry with
      | .element n _ => if s.tree.isNamed n "a" then some n else none
      | .marker => none with
  | none => s
  | some n => ((s.closeFormatting "a").unformat n).forget n

end Construction
end Gleaner.Html
