import Gleaner.Html.Construction.Foreign
import Gleaner.Html.Token.Read

/-!
# Reading HTML

Every text is a document of HTML, and a fragment of one. The root of a fragment holds an element
that holds what the body of a document would.
-/

namespace Gleaner.Html

/-- The tokens of a text taken, up to the end. Each reading of tokens uses up at least one
character, so that it is not done more often than there are characters. -/
def Construction.run : (times : Nat) → Construction → List Char → Construction
  | 0, s, _ => s
  | _, s, [] => s.take .finish
  | times + 1, s, cs =>
    let (tokens, rest) := Token.next s.reading s.inForeign cs
    run times (tokens.foldl Construction.take { s with reading := .data }) rest

/-- The tree of a text that is added to a construction. -/
def Construction.complete (s : Construction) (source : String) : Tree :=
  let cs := Token.normalize source.toList
  (s.run (cs.length + 1) cs).tree

/-- The tree of a document. Its root is the node with the number 0. -/
def parseDocument (source : String) : Tree :=
  Construction.complete { tree := ⟨#[{ content := .document }]⟩, mode := .initial } source

/-- The tree of a fragment of the body of a document. -/
def parseFragment (source : String) : Tree :=
  let body : Element := { name := "body" }
  let bare : Construction :=
    { tree := ⟨#[{ content := .fragment }]⟩, mode := .inBody, context := some body }
  ((bare.makeElement body).openRoot []).resetMode.complete source

end Gleaner.Html
