import Gleaner.Html.Token.Tag

/-!
# The text of raw elements

In some elements text is read as it is, up to the end tag of the element. In a script the end tag
of another script inside of a comment does not count.
-/

namespace Gleaner.Html.Token

/-- Whether a text goes on with a name and a character that ends it. -/
def atName (name : String) (cs : List Char) : Bool :=
  beginsWith name cs &&
    match cs.drop name.length with
    | [] => false
    | c :: _ => endsName c

/-- Whether a text begins with the end tag of an element. -/
def atEndTag (element : String) : List Char → Bool
  | '<' :: '/' :: cs => atName element cs
  | _ => false

/-- A text up to the end tag of an element, and the text from there on. -/
def splitRaw (element : String) : List Char → List Char × List Char
  | [] => ([], [])
  | c :: cs =>
    if atEndTag element (c :: cs) then ([], c :: cs)
    else
      let (inner, rest) := splitRaw element cs
      (c :: inner, rest)

/-- Where the text of a script is: in no comment, in one, or in a script inside of one, each with
the number of dashes before. -/
inductive ScriptPlace where
  | outside
  | inComment (dashes : Nat)
  | inScript (dashes : Nat)

/-- The place after a character, in front of a text. -/
def ScriptPlace.step (place : ScriptPlace) (c : Char) (cs : List Char) : ScriptPlace :=
  match place with
  | .outside => if c = '<' && beginsWith "!--" cs then .inComment 0 else .outside
  | .inComment dashes =>
    if c = '-' then .inComment (dashes + 1)
    else if c = '>' && 2 ≤ dashes then .outside
    else if c = '<' && atName "script" cs then .inScript 0
    else .inComment 0
  | .inScript dashes =>
    if c = '-' then .inScript (dashes + 1)
    else if c = '>' && 2 ≤ dashes then .outside
    else if atEndTag "script" (c :: cs) then .inComment 0
    else .inScript 0

/-- Whether an end tag counts at a place. -/
def ScriptPlace.canEnd : ScriptPlace → Bool
  | .inScript _ => false
  | _ => true

/-- The text of a script up to its end tag, and the text from there on. -/
def splitScript (place : ScriptPlace) : List Char → List Char × List Char
  | [] => ([], [])
  | c :: cs =>
    if place.canEnd && atEndTag "script" (c :: cs) then ([], c :: cs)
    else
      let (inner, rest) := splitScript (place.step c cs) cs
      (c :: inner, rest)

end Gleaner.Html.Token
