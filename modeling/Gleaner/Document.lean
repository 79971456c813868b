/-!
# Documents

What an extraction needs to know of a document: which nodes a query finds below a node, and what a
node holds. Any document language with queries can be put in its place.
-/

namespace Gleaner

/-- The nodes of a document language. -/
structure DocumentModel (Node : Type) where
  /-- The root of a document with this source. -/
  load : String → Node
  /-- The nodes below a node that match a query, in document order; nothing when the query is
  malformed. -/
  findAll : Node → String → Option (List Node)
  /-- The parent, when there is one that is reported. -/
  parent : Node → Option Node
  /-- The text of the node and all below it. -/
  text : Node → String
  /-- The markup inside of the node. -/
  innerHtml : Node → String
  /-- The markup of the node. -/
  outerHtml : Node → String
  /-- The value of an attribute. -/
  attr : Node → String → Option String
  /-- Whether two handles are the same node. -/
  same : Node → Node → Bool
  /-- A short description. -/
  describe : Node → String

namespace DocumentModel

variable {Node : Type}

/-- The first node below a node that matches a query, if there is one. -/
def findFirst (m : DocumentModel Node) (node : Node) (query : String) : Option (Option Node) :=
  (m.findAll node query).map List.head?

/-- The parents of nodes, each once, in the order of the first node that has it. -/
def parentsOf (m : DocumentModel Node) (nodes : List Node) : List Node :=
  nodes.foldl (fun seen node =>
    match m.parent node with
    | some parent => if seen.any (m.same · parent) then seen else seen ++ [parent]
    | none => seen) []

end DocumentModel
end Gleaner
