import Gleaner.Css.Match
import Gleaner.Document
import Gleaner.Html.Parse
import Gleaner.Html.Write

/-!
# Documents of HTML

HTML as a document language whose queries are selectors of style sheets. A search from the root
goes through the nodes in the order in which they were made; a search from an element goes through
those below it in document order.
-/

namespace Gleaner.Html

/-- A node of a document. -/
structure Node where
  /-- The tree of the document. -/
  tree : Tree
  /-- The number of the node. -/
  id : NodeId

namespace Node

/-- Whether the node is the root of a document, of a fragment or of the contents of a template. -/
def isRoot (node : Node) : Bool :=
  match node.tree.content? node.id with
  | some .document => true
  | some .fragment => true
  | _ => false

/-- The node with a number in the same document. -/
def other (node : Node) (id : NodeId) : Node := { node with id }

/-- The nodes below a node that a selector matches. From the root all nodes that have a place are
below it. -/
def search (node : Node) (selector : Css.Selector) : List Node :=
  let t := node.tree
  if (t.element? node.id).isSome then
    ((t.subtree node.id).tail.filter (Css.anyMatches t (some node.id) · selector)).map node.other
  else if node.isRoot then
    ((List.range t.size).filter fun n =>
      (t.parent? n).isSome && Css.anyMatches t none n selector).map node.other
  else []

/-- The nodes below a node that a query matches; nothing when the query is malformed. -/
def findAll (node : Node) (query : String) : Option (List Node) :=
  (Css.Selector.read? query).map node.search

/-- The node above a node. Roots are not reported. -/
def parent (node : Node) : Option Node :=
  ((node.tree.parent? node.id).map node.other).filter (!·.isRoot)

/-- The text of a node and of all below it. -/
def text (node : Node) : String := node.tree.text node.id

/-- The markup inside of a node. Of a root it is all of it. -/
def innerHtml (node : Node) : String :=
  if (node.tree.element? node.id).isSome then node.tree.innerMarkup node.id
  else if node.isRoot then node.tree.outerMarkup 0
  else ""

/-- The markup of a node. -/
def outerHtml (node : Node) : String :=
  if (node.tree.element? node.id).isSome then node.tree.outerMarkup node.id
  else if node.isRoot then node.tree.outerMarkup 0
  else ""

/-- The value of an attribute without a name space. -/
def attr (node : Node) (name : String) : Option String :=
  (node.tree.element? node.id).bind fun e =>
    (e.attrs.find? fun a => a.space = .plain && a.name = name).map (·.value)

/-- A short description. -/
def describe (node : Node) : String :=
  match node.tree.element? node.id with
  | some e => "ScraperNode(<" ++ e.name ++ ">)"
  | none => "ScraperNode(#document)"

end Node

/-- The root of a document, or of a fragment. -/
def load (isFragment : Bool) (source : String) : Node :=
  ⟨if isFragment then parseFragment source else parseDocument source, 0⟩

/-- Documents of HTML, or fragments of them. The nodes that are compared belong to one document. -/
def documents (isFragment : Bool) : DocumentModel Node where
  load := load isFragment
  findAll := Node.findAll
  parent := Node.parent
  text := Node.text
  innerHtml := Node.innerHtml
  outerHtml := Node.outerHtml
  attr := Node.attr
  same a b := a.id = b.id
  describe := Node.describe

end Gleaner.Html
