import Gleaner.Html.Construction.Names

/-!
# Writing HTML

The markup of a node. Characters that markup is made of are written as references, but for the
text of scripts, styles and the like.
-/

namespace Gleaner.Html

/-- A character of text as it is written. -/
def escapeText (c : Char) : List Char :=
  if c = '&' then "&amp;".toList
  else if c = '\u00A0' then "&nbsp;".toList
  else if c = '<' then "&lt;".toList
  else if c = '>' then "&gt;".toList
  else [c]

/-- A character of the value of an attribute as it is written. -/
def escapeValue (c : Char) : List Char :=
  if c = '&' then "&amp;".toList
  else if c = '\u00A0' then "&nbsp;".toList
  else if c = '"' then "&quot;".toList
  else [c]

/-- What is written in front of the name of an attribute. -/
def Attr.lead (a : Attr) : List Char :=
  match a.space with
  | .plain => []
  | .xlink => "xlink:".toList
  | .xml => "xml:".toList
  | .xmlns => if a.name = "xmlns" then [] else "xmlns:".toList

/-- An attribute as it is written. -/
def Attr.written (a : Attr) : List Char :=
  ' ' :: a.lead ++ a.name.toList ++ "=\"".toList ++ a.value.toList.flatMap escapeValue ++ ['"']

/-- Elements whose text is written as it is. -/
def rawNames : List String :=
  ["style", "script", "xmp", "iframe", "noembed", "noframes", "plaintext"]

/-- The start tag of an element. -/
def Element.startTag (e : Element) : List Char :=
  '<' :: e.name.toList ++ e.attrs.flatMap Attr.written ++ ['>']

/-- The end tag of an element. -/
def Element.endTag (e : Element) : List Char := "</".toList ++ e.name.toList ++ ['>']

namespace Tree

/-- The markup of a node inside of an element, as far down as a depth. -/
def writeWithin (t : Tree) : (depth : Nat) → Option Element → NodeId → List Char
  | 0, _, _ => []
  | depth + 1, around, n =>
    let inside (around : Option Element) :=
      (t.children n).flatMap (t.writeWithin depth around)
    match t.content? n with
    | none => []
    | some (.doctype name) => "<!DOCTYPE ".toList ++ name.toList ++ ['>']
    | some (.comment text) => "<!--".toList ++ text.toList ++ "-->".toList
    | some (.text text) =>
      if around.any (·.isAmong rawNames) then text.toList else text.toList.flatMap escapeText
    | some (.element e) =>
      if e.isAmong voidNames then e.startTag
      else e.startTag ++ inside (some e) ++ e.endTag
    | some .document => inside around
    | some .fragment => inside around

/-- The markup of a node. -/
def outerMarkup (t : Tree) (n : NodeId) : String := .ofList (t.writeWithin t.size none n)

/-- The markup of the nodes below a node. Text directly below is written with references, whatever
the node. -/
def innerMarkup (t : Tree) (n : NodeId) : String :=
  .ofList ((t.children n).flatMap (t.writeWithin t.size none))

end Tree
end Gleaner.Html
