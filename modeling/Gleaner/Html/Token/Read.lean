import Gleaner.Html.Token.Doctype
import Gleaner.Html.Token.Raw

/-!
# Reading tokens

The tokens that a text begins with, depending on how it is read. Every text can be read: a tag that
is not closed is left out, and what is no markup is text or a comment.
-/

namespace Gleaner.Html.Token

/-- The text of a comment after its opening, and what follows it. Dashes at the end of a document
are not part of it. -/
def readComment : List Char → List Char × List Char
  | '-' :: '-' :: '>' :: rest => ([], rest)
  | '-' :: '-' :: '!' :: '>' :: rest => ([], rest)
  | ['-', '-', '!'] => ([], [])
  | ['-', '-'] => ([], [])
  | ['-'] => ([], [])
  | [] => ([], [])
  | c :: cs =>
    let (inner, rest) := readComment cs
    (mend c :: inner, rest)

/-- A comment after its opening, which may be closed at once. -/
def commentFrom : List Char → List Token × List Char
  | '>' :: rest => ([.comment ""], rest)
  | '-' :: '>' :: rest => ([.comment ""], rest)
  | cs =>
    let (inner, rest) := readComment cs
    ([.comment (.ofList inner)], rest)

/-- A comment of everything up to `>`. -/
def loneComment (cs : List Char) : List Token × List Char :=
  ([.comment (.ofList ((cs.takeWhile (· ≠ '>')).map mend))], skipDeclaration cs)

/-- A section of text without markup, and what follows it. -/
def readSection : List Char → List Char × List Char
  | ']' :: ']' :: '>' :: rest => ([], rest)
  | [] => ([], [])
  | c :: cs =>
    let (inner, rest) := readSection cs
    (c :: inner, rest)

/-- What an exclamation mark after `<` begins. Sections without markup are for foreign elements. -/
def declaration (inForeign : Bool) (cs : List Char) : List Token × List Char :=
  if beginsWith "--" cs then commentFrom (cs.drop 2)
  else if beginsWith "doctype" cs then
    let (d, rest) := readDoctype (cs.drop 7)
    ([.doctype d], rest)
  else if inForeign && cs.take 7 = "[CDATA[".toList then
    let (inner, rest) := readSection (cs.drop 7)
    (ofChars inner, rest)
  else loneComment cs

/-- What a mistake in the markup counts as where there is nothing else to be made of it: white space
of no length, so that a line feed after it is not the first thing in its element. -/
def mistake : Token := .blanks ""

/-- A tag as a token. -/
def tagToken (make : Tag → Token) (cs : List Char) : List Token × List Char :=
  match readTag cs with
  | some (tag, rest) => ([make tag], rest)
  | none => ([], [])

/-- What `<` begins. -/
def markup (inForeign : Bool) : List Char → List Token × List Char
  | '!' :: cs => declaration inForeign cs
  | '?' :: cs => loneComment ('?' :: cs)
  | '/' :: '>' :: cs => ([mistake], cs)
  | '/' :: c :: cs =>
    if c.isAlpha then tagToken .endTag (c :: cs) else loneComment (c :: cs)
  | ['/'] => ([.text "</"], [])
  | c :: cs =>
    if c.isAlpha then tagToken .startTag (c :: cs) else ([.text "<"], c :: cs)
  | [] => ([.text "<"], [])

/-- The mistake that a text begins with when its first character is written as a reference without a
semicolon. -/
def looseStart (cs : List Char) : List Token :=
  if Reference.isLoose cs then [mistake] else []

/-- Text up to the next markup or reference, or what begins there. -/
def dataTokens (inForeign : Bool) : List Char → List Token × List Char
  | '<' :: cs => markup inForeign cs
  | '&' :: cs =>
    match Reference.read false cs with
    | some (chars, rest) => (looseStart ('&' :: cs) ++ ofChars chars, rest)
    | none => ([.text "&"], cs)
  | cs =>
    let plain (c : Char) := c ≠ '<' && c ≠ '&'
    (ofChars (cs.takeWhile plain), cs.dropWhile plain)

/-- The text of an element that was split off at its end tag, and the end tag. -/
def closing (inner rest : List Char) : List Token × List Char :=
  match rest with
  | '<' :: '/' :: cs =>
    let (tags, rest) := tagToken .endTag cs
    (ofChars (inner.map mend) ++ tags, rest)
  | _ => (ofChars (inner.map mend), [])

/-- The tokens that a text begins with, at least one character of it, and the text after them. -/
def next (mode : TextMode) (inForeign : Bool) (cs : List Char) : List Token × List Char :=
  match mode with
  | .data => dataTokens inForeign cs
  | .escapable element =>
    let (inner, rest) := splitRaw element cs
    let (tokens, rest) := closing (Reference.decode false inner) rest
    (looseStart inner ++ tokens, rest)
  | .raw element =>
    let (inner, rest) := splitRaw element cs
    closing inner rest
  | .script =>
    let (inner, rest) := splitScript .outside cs
    closing inner rest
  | .plain => (ofChars (cs.map mend), [])

end Gleaner.Html.Token
