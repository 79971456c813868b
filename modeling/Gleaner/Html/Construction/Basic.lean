import Gleaner.Html.Construction.Names
import Gleaner.Html.Construction.OldDocument

/-!
# Trees under construction

The tree of a document is made from its tokens. The elements that are still open form a stack;
which tokens are taken how depends on the part of the document at hand.
-/

namespace Gleaner.Html

/-- The part of a document at hand. -/
inductive Mode where
  | initial
  | beforeHtml
  | beforeHead
  | inHead
  | afterHead
  | inBody
  | inRawText
  | inTable
  | inTableText
  | inCaption
  | inColumnGroup
  | inTableBody
  | inRow
  | inCell
  | inSelect
  | inSelectInTable
  | inTemplate
  | afterBody
  | inFrameset
  | afterFrameset
  | afterAfterBody
  | afterAfterFrameset
  deriving DecidableEq, Repr

/-- An entry of the list of formatting elements. -/
inductive Formatting where
  /-- A bound up to which formatting is restored. -/
  | marker
  /-- A formatting element with the tag that it was made for. -/
  | element (node : NodeId) (tag : Tag)
  deriving DecidableEq, Repr

/-- A tree under construction. -/
structure Construction where
  /-- The nodes so far. The first is the root. -/
  tree : Tree
  /-- The part of the document at hand. -/
  mode : Mode
  /-- The part to go on with after raw text or the text of a table. -/
  resume : Mode := .inBody
  /-- The modes of the open templates, the innermost first. -/
  templateModes : List Mode := []
  /-- The open elements, the innermost first. -/
  opened : List NodeId := []
  /-- The formatting elements, the last first. -/
  formatting : List Formatting := []
  /-- The head. -/
  head : Option NodeId := none
  /-- The open form. -/
  form : Option NodeId := none
  /-- Whether frames may still take the place of the body. -/
  framesAllowed : Bool := true
  /-- Whether a line feed that comes next is left out. -/
  skipsNewline : Bool := false
  /-- Whether what is out of place in a table goes in front of it. -/
  fosters : Bool := false
  /-- Whether the document is an old one. -/
  isOld : Bool := false
  /-- The element that a fragment is read for. -/
  context : Option Element := none
  /-- Text of a table that is not placed yet. -/
  pending : List Token := []
  /-- How the text to come is read. -/
  reading : TextMode := .data

/-- What a rule made of a token. -/
inductive Outcome where
  /-- The token is used up. -/
  | done (s : Construction)
  /-- The token is to be taken again. -/
  | again (s : Construction)

/-- An outcome with its construction changed. -/
def Outcome.map (f : Construction → Construction) : Outcome → Outcome
  | .done s => .done (f s)
  | .again s => .again (f s)

/-- Whether a node below a bound is wanted: nodes are tried in order up to a bound, which is tried
itself. -/
def reaches (t : Tree) (bounds : Element → Bool) (wanted : NodeId → Bool) : List NodeId → Bool
  | [] => false
  | n :: rest =>
    wanted n || (!(t.element? n).any bounds && reaches t bounds wanted rest)

namespace Construction

/-- The innermost open element. -/
def current (s : Construction) : NodeId := s.opened.headD 0

/-- The first element that was opened. -/
def root (s : Construction) : NodeId := s.opened.getLastD 0

/-- Whether a node has one of several names. -/
def isAmong (s : Construction) (n : NodeId) (names : List String) : Bool :=
  (s.tree.element? n).any (·.isAmong names)

/-- Whether the innermost open element has a name. -/
def currentIs (s : Construction) (name : String) : Bool := s.tree.isNamed s.current name

/-- Whether the innermost open element has one of several names. -/
def currentIsAmong (s : Construction) (names : List String) : Bool := s.isAmong s.current names

/-- Whether an element with a name is open. -/
def hasOpen (s : Construction) (name : String) : Bool := s.opened.any (s.tree.isNamed · name)

/-- Whether a wanted node is in a scope. -/
def inScope (s : Construction) (bounds : Element → Bool) (wanted : NodeId → Bool) : Bool :=
  reaches s.tree bounds wanted s.opened

/-- Whether an element with a name is in a scope. -/
def hasInScope (s : Construction) (bounds : Element → Bool) (name : String) : Bool :=
  s.inScope bounds (s.tree.isNamed · name)

/-- The construction in another mode. -/
def switchTo (s : Construction) (mode : Mode) : Construction := { s with mode }

/-- The innermost element closed. -/
def pop (s : Construction) : Construction := { s with opened := s.opened.tail }

/-- All elements closed up to the innermost one of some kind, which is closed too. -/
def popUntil (s : Construction) (p : NodeId → Bool) : Construction :=
  { s with opened := (s.opened.dropWhile (!p ·)).tail }

/-- All elements closed up to the innermost one with a name, which is closed too. -/
def close (s : Construction) (name : String) : Construction :=
  s.popUntil (s.tree.isNamed · name)

/-- All elements closed up to the innermost one with one of several names, which stays open. -/
def popTo (s : Construction) (names : List String) : Construction :=
  { s with opened := s.opened.dropWhile (!s.isAmong · names) }

/-- The innermost elements closed as long as they have one of several names. -/
def popWhile (s : Construction) (names : List String) : Construction :=
  { s with opened := s.opened.dropWhile (s.isAmong · names) }

/-- The innermost elements closed whose ends are implied, but for one name. -/
def popImplied (s : Construction) (but : String) : Construction :=
  s.popWhile (impliedEnds.filter (· ≠ but))

/-- All elements closed up to the innermost one with a name, which is closed too, those whose ends
are implied first. -/
def closeWithImplied (s : Construction) (name : String) : Construction :=
  (s.popWhile impliedEnds).close name

/-- A node no longer among the open ones. -/
def forget (s : Construction) (n : NodeId) : Construction :=
  { s with opened := s.opened.filter (· ≠ n) }

/-- The open paragraph closed, if there is one in scope. -/
def closeParagraph (s : Construction) : Construction :=
  if s.hasInScope Element.boundsButtonScope "p" then (s.popImplied "p").close "p" else s

/-- Where a new node goes. -/
inductive Place where
  /-- At the end of the nodes below a node. -/
  | within (parent : NodeId)
  /-- In front of a node. -/
  | before (sibling : NodeId)

/-- The node that holds what is put into an element: for a template its contents. -/
def holder (s : Construction) (n : NodeId) : NodeId :=
  if s.tree.isNamed n "template" then (s.tree.children n).headD n else n

/-- The place outside of the innermost table, given the open elements. -/
def fosterPlace (s : Construction) : List NodeId → Place
  | [] => .within s.root
  | n :: rest =>
    if s.tree.isNamed n "template" then .within (s.holder n)
    else if s.tree.isNamed n "table" then
      if (s.tree.parent? n).isSome then .before n else .within (rest.headD 0)
    else s.fosterPlace rest

/-- The place for a node that is put into an element. -/
def placeIn (s : Construction) (target : NodeId) : Place :=
  if s.fosters && s.isAmong target tableParts then s.fosterPlace s.opened
  else .within (s.holder target)

/-- A node put at a place. -/
def put (s : Construction) (place : Place) (n : NodeId) : Construction :=
  match place with
  | .within parent => { s with tree := s.tree.append parent n }
  | .before sibling => { s with tree := s.tree.place sibling n }

/-- A text put where it belongs. -/
def insertText (s : Construction) (text : String) : Construction :=
  match s.placeIn s.current with
  | .within parent => { s with tree := s.tree.appendText parent text }
  | .before sibling => { s with tree := s.tree.placeText sibling text }

/-- A node made that has no place yet. Its number is the size of the tree before. -/
def make (s : Construction) (content : Content) : Construction :=
  { s with tree := s.tree.push content }

/-- An element made that has no place yet. A template has its contents made with it. -/
def makeElement (s : Construction) (e : Element) : Construction :=
  let n := s.tree.size
  let s := s.make (.element e)
  if e.isNamed "template" then
    let contents := s.tree.size
    let s := s.make .fragment
    { s with tree := s.tree.append n contents }
  else s

/-- An element put where it belongs, and its number. It is not opened. -/
def insertElement (s : Construction) (e : Element) : Construction × NodeId :=
  let n := s.tree.size
  let s := s.makeElement e
  (s.put (s.placeIn s.current) n, n)

/-- An element put where it belongs and opened, and its number. -/
def openElement (s : Construction) (e : Element) : Construction × NodeId :=
  let (s, n) := s.insertElement e
  ({ s with opened := n :: s.opened }, n)

/-- The element of a tag. -/
def elementOf (tag : Tag) : Element := { name := tag.name, attrs := tag.attrs.map Attr.ofWritten }

/-- The element of a tag put where it belongs and opened. -/
def openTag (s : Construction) (tag : Tag) : Construction := (s.openElement (elementOf tag)).1

/-- The element of a tag without contents put where it belongs. -/
def insertTag (s : Construction) (tag : Tag) : Construction := (s.insertElement (elementOf tag)).1

/-- An element that is missing put where it belongs and opened. -/
def openNamed (s : Construction) (name : String) : Construction := s.openTag { name }

/-- A comment put into a node. -/
def insertCommentIn (s : Construction) (parent : NodeId) (text : String) : Construction :=
  let n := s.tree.size
  (s.make (.comment text)).put (.within parent) n

/-- A comment put where it belongs. -/
def insertComment (s : Construction) (text : String) : Construction :=
  let n := s.tree.size
  let s := s.make (.comment text)
  s.put (s.placeIn s.current) n

/-- The root element made. -/
def openRoot (s : Construction) (attrs : List (String × String)) : Construction :=
  let n := s.tree.size
  let s := s.makeElement (elementOf { name := "html", attrs })
  { s.put (.within 0) n with opened := n :: s.opened }

/-- The body, when it is the second element that was opened. -/
def body? (s : Construction) : Option NodeId :=
  (s.opened.reverse[1]?).filter (s.tree.isNamed · "body")

/-- The text of the element of a tag read on its own. -/
def openRaw (s : Construction) (tag : Tag) (reading : TextMode) : Construction :=
  { s.openTag tag with resume := s.mode, mode := .inRawText, reading }

/-- Frames no longer allowed. -/
def forbidFrames (s : Construction) : Construction := { s with framesAllowed := false }

/-- A marker put on the list of formatting elements. -/
def mark (s : Construction) : Construction :=
  { s with formatting := .marker :: s.formatting }

/-- The formatting elements up to the last marker dropped, and the marker. -/
def clearToMarker (s : Construction) : Construction :=
  { s with formatting := (s.formatting.dropWhile (· ≠ .marker)).tail }

/-- The mode of a selection inside of open elements. -/
def selectMode (s : Construction) : List NodeId → Mode
  | [] => .inSelect
  | n :: rest =>
    if s.tree.isNamed n "template" then .inSelect
    else if s.tree.isNamed n "table" then .inSelectInTable
    else s.selectMode rest

/-- The mode inside of an element with a name, if it says so. The outermost one says less. -/
def modeWithin (s : Construction) (outer : List NodeId) (name : String) : Option Mode :=
  match name with
  | "select" => some (s.selectMode outer)
  | "td" => if outer.isEmpty then none else some .inCell
  | "th" => if outer.isEmpty then none else some .inCell
  | "tr" => some .inRow
  | "tbody" => some .inTableBody
  | "thead" => some .inTableBody
  | "tfoot" => some .inTableBody
  | "caption" => some .inCaption
  | "colgroup" => some .inColumnGroup
  | "table" => some .inTable
  | "template" => some (s.templateModes.headD .inTemplate)
  | "head" => if outer.isEmpty then none else some .inHead
  | "body" => some .inBody
  | "frameset" => some .inFrameset
  | "html" => some (if s.head.isNone then .beforeHead else .afterHead)
  | _ => none

/-- The mode that the open elements ask for. The outermost stands for the context of a fragment. -/
def modeFor (s : Construction) : List NodeId → Mode
  | [] => .inBody
  | n :: outer =>
    let e? := if outer.isEmpty then s.context.or (s.tree.element? n) else s.tree.element? n
    match e?.bind fun e => if e.space = .html then s.modeWithin outer e.name else none with
    | some mode => mode
    | none => s.modeFor outer

/-- The construction in the mode that the open elements ask for. -/
def resetMode (s : Construction) : Construction := s.switchTo (s.modeFor s.opened)

end Construction
end Gleaner.Html
