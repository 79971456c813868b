import Gleaner.Text.Blank

/-!
# Trees of nodes

The nodes of a document are numbered in the order in which they are made. A node may be moved or
taken out of the tree later; it keeps its number.

## Main statements

- `Tree.size_push`, `Tree.size_modify` : only making a node makes the tree larger.
-/

namespace Gleaner.Html

/-- The language that an element belongs to. -/
inductive Space where
  | html
  | svg
  | mathml
  deriving DecidableEq, Repr

/-- The name space of an attribute. Attributes as they are written have none. -/
inductive AttrSpace where
  | plain
  | xlink
  | xml
  | xmlns
  deriving DecidableEq, Repr

/-- An attribute of an element. -/
structure Attr where
  /-- Its name space. -/
  space : AttrSpace := .plain
  /-- Its name. -/
  name : String
  /-- Its value. -/
  value : String
  deriving DecidableEq, Repr

/-- An element without its place in a tree. -/
structure Element where
  /-- The language of the element. -/
  space : Space := .html
  /-- The name of the element. -/
  name : String
  /-- The attributes. -/
  attrs : List Attr := []
  deriving DecidableEq, Repr

/-- Whether an element of HTML has a name. -/
def Element.isNamed (e : Element) (name : String) : Bool := e.space = .html && e.name = name

/-- Whether an element of HTML has one of several names. -/
def Element.isAmong (e : Element) (names : List String) : Bool :=
  e.space = .html && names.contains e.name

/-- What a node is. -/
inductive Content where
  /-- The root of a document. -/
  | document
  /-- The root of a fragment, or of the contents of a template. -/
  | fragment
  /-- A document type. -/
  | doctype (name : String)
  /-- A comment. -/
  | comment (text : String)
  /-- Text. -/
  | text (text : String)
  /-- An element. -/
  | element (e : Element)
  deriving DecidableEq, Repr

/-- The number of a node. -/
abbrev NodeId := Nat

/-- A node and its place in the tree. -/
structure TreeNode where
  /-- What the node is. -/
  content : Content
  /-- The node above, if there is one. -/
  parent : Option NodeId := none
  /-- The nodes below, in order. -/
  children : List NodeId := []
  deriving Repr

/-- Nodes by their numbers. -/
structure Tree where
  /-- The nodes in the order in which they were made. -/
  nodes : Array TreeNode
  deriving Repr

namespace Tree

/-- The number of nodes that were made. -/
def size (t : Tree) : Nat := t.nodes.size

/-- The content of a node. -/
def content? (t : Tree) (n : NodeId) : Option Content := t.nodes[n]?.map (·.content)

/-- The element that a node is, if it is one. -/
def element? (t : Tree) (n : NodeId) : Option Element :=
  match t.content? n with
  | some (.element e) => some e
  | _ => none

/-- The node above a node. -/
def parent? (t : Tree) (n : NodeId) : Option NodeId := t.nodes[n]?.bind (·.parent)

/-- The nodes below a node. -/
def children (t : Tree) (n : NodeId) : List NodeId := (t.nodes[n]?.map (·.children)).getD []

/-- Whether a node is an element of HTML with a name. -/
def isNamed (t : Tree) (n : NodeId) (name : String) : Bool :=
  match t.element? n with
  | some e => e.isNamed name
  | none => false

/-- The tree with a node changed. -/
def modify (t : Tree) (n : NodeId) (f : TreeNode → TreeNode) : Tree := ⟨t.nodes.modify n f⟩

/-- The tree with one more node, which has no place yet. Its number is the former size. -/
def push (t : Tree) (content : Content) : Tree := ⟨t.nodes.push { content }⟩

theorem size_modify (t : Tree) (n : NodeId) (f : TreeNode → TreeNode) :
    (t.modify n f).size = t.size := by
  simp [size, modify]

theorem size_push (t : Tree) (content : Content) : (t.push content).size = t.size + 1 := by
  simp [size, push]

/-- The tree with a node taken from its place. -/
def detach (t : Tree) (n : NodeId) : Tree :=
  match t.parent? n with
  | none => t
  | some p =>
    (t.modify p fun node => { node with children := node.children.filter (· ≠ n) }).modify n
      fun node => { node with parent := none }

/-- The tree with a node moved to the end of the nodes below another. -/
def append (t : Tree) (parent n : NodeId) : Tree :=
  ((t.detach n).modify parent fun node => { node with children := node.children ++ [n] }).modify n
    fun node => { node with parent := some parent }

/-- A list with an item in front of another one. -/
def insertBefore (n sibling : NodeId) : List NodeId → List NodeId
  | [] => []
  | m :: rest => if m = sibling then n :: m :: rest else m :: insertBefore n sibling rest

/-- The tree with a node moved in front of another one, when that has a place. -/
def place (t : Tree) (sibling n : NodeId) : Tree :=
  let t := t.detach n
  match t.parent? sibling with
  | none => t
  | some p =>
    (t.modify p fun node => { node with children := insertBefore n sibling node.children }).modify n
      fun node => { node with parent := some p }

/-- The text node that a list of nodes ends in, with its text. -/
def trailingText? (t : Tree) (ns : List NodeId) : Option (NodeId × String) :=
  match ns.getLast? with
  | none => none
  | some n =>
    match t.content? n with
    | some (.text s) => some (n, s)
    | _ => none

/-- The tree with a text at the end of the nodes below a node. It continues a text that is
there. -/
def appendText (t : Tree) (parent : NodeId) (s : String) : Tree :=
  match t.trailingText? (t.children parent) with
  | some (n, before) => t.modify n fun node => { node with content := .text (before ++ s) }
  | none => (t.push (.text s)).append parent t.size

/-- The tree with a text in front of a node that has a place. It continues a text that is there. -/
def placeText (t : Tree) (sibling : NodeId) (s : String) : Tree :=
  match t.parent? sibling with
  | none => t
  | some p =>
    match t.trailingText? ((t.children p).takeWhile (· ≠ sibling)) with
    | some (n, before) => t.modify n fun node => { node with content := .text (before ++ s) }
    | none => (t.push (.text s)).place sibling t.size

/-- The tree with all nodes below a node moved to the end of those below another. -/
def moveChildren (t : Tree) (source target : NodeId) : Tree :=
  (t.children source).foldl (fun t n => t.append target n) t

/-- The tree with those attributes added to an element that it does not have. -/
def addMissingAttrs (t : Tree) (n : NodeId) (attrs : List Attr) : Tree :=
  t.modify n fun node =>
    match node.content with
    | .element e =>
      let missing := attrs.filter fun a =>
        !e.attrs.any fun b => b.space = a.space && b.name = a.name
      { node with content := .element { e with attrs := e.attrs ++ missing } }
    | _ => node

/-- A node and the nodes below it, each before those below itself, as far down as a depth. -/
def within (t : Tree) : (depth : Nat) → NodeId → List NodeId
  | 0, _ => []
  | depth + 1, n => n :: (t.children n).flatMap (t.within depth)

/-- A node and all nodes below it in document order. No path is longer than the number of nodes. -/
def subtree (t : Tree) (n : NodeId) : List NodeId := t.within t.size n

/-- The text of a node and of all below it. -/
def text (t : Tree) (n : NodeId) : String :=
  String.join ((t.subtree n).filterMap fun m =>
    match t.content? m with
    | some (.text s) => some s
    | _ => none)

end Tree
end Gleaner.Html
