import Gleaner.Html.Reference

/-!
# Tokens of HTML

What the text of a document is made of, and the ways in which the text of an element is read.
-/

namespace Gleaner.Html

/-- A tag. Names are in lower case; of attributes with the same name the first counts. -/
structure Tag where
  /-- The name. -/
  name : String
  /-- The attributes as they are written. -/
  attrs : List (String × String) := []
  /-- Whether the tag ends with a slash. -/
  selfClosing : Bool := false
  deriving DecidableEq, Repr

/-- The value of an attribute of a tag. -/
def Tag.attr? (tag : Tag) (name : String) : Option String := tag.attrs.lookup name

/-- A document type declaration. -/
structure Doctype where
  /-- The name. -/
  name : Option String := none
  /-- The public identifier. -/
  publicId : Option String := none
  /-- The system identifier. -/
  systemId : Option String := none
  /-- Whether the declaration is malformed. -/
  malformed : Bool := false
  deriving DecidableEq, Repr

/-- A piece of a document. -/
inductive Token where
  /-- A document type declaration. -/
  | doctype (d : Doctype)
  /-- A start tag. -/
  | startTag (tag : Tag)
  /-- An end tag. -/
  | endTag (tag : Tag)
  /-- A comment. -/
  | comment (text : String)
  /-- White space. -/
  | blanks (text : String)
  /-- Text without white space. -/
  | text (text : String)
  /-- A null character. -/
  | null
  /-- The end. -/
  | finish
  deriving DecidableEq, Repr

/-- How the text at hand is read. All but the first are for the text of an element, up to its end
tag. -/
inductive TextMode where
  /-- Text with tags and references. -/
  | data
  /-- Text with references only. -/
  | escapable (element : String)
  /-- Text as it is. -/
  | raw (element : String)
  /-- The text of a script. -/
  | script
  /-- Text as it is up to the end of the document. -/
  | plain
  deriving DecidableEq, Repr

namespace Token

/-- Whether a character is white space of HTML. -/
def isSpace (c : Char) : Bool :=
  c = ' ' || c = '\n' || c = '\t' || c = '\x0c' || c = '\r'

/-- A null character replaced. -/
def mend (c : Char) : Char := if c = '\x00' then Reference.replacement else c

/-- An ASCII letter in lower case, a null character replaced. -/
def lower (c : Char) : Char := mend c.toLower

/-- The tokens of decoded text: runs of white space, runs of other characters, and nulls. -/
def ofChars : List Char → List Token
  | [] => []
  | c :: cs =>
    if c = '\x00' then .null :: ofChars cs
    else if isSpace c then
      .blanks (.ofList (c :: cs.takeWhile isSpace)) :: ofChars (cs.dropWhile isSpace)
    else
      let inRun (d : Char) := d ≠ '\x00' && !isSpace d
      .text (.ofList (c :: cs.takeWhile inRun)) :: ofChars (cs.dropWhile inRun)
termination_by cs => cs.length
decreasing_by
  · simp
  · simpa [Nat.lt_succ_iff] using (List.dropWhile_suffix isSpace).length_le
  · simpa [Nat.lt_succ_iff] using (List.dropWhile_suffix _).length_le

/-- Whether a text begins with a word, whatever the case of its letters. -/
def beginsWith (word : String) (cs : List Char) : Bool :=
  (cs.take word.length).map Char.toLower = word.toList

/-- A document with every line ending as a line feed and without a byte order mark. -/
def normalize (cs : List Char) : List Char :=
  unify (match cs with
    | '\uFEFF' :: rest => rest
    | cs => cs)
where
  /-- A text with every line ending as a line feed. -/
  unify : List Char → List Char
    | '\r' :: '\n' :: cs => '\n' :: unify cs
    | '\r' :: cs => '\n' :: unify cs
    | c :: cs => c :: unify cs
    | [] => []

end Token
end Gleaner.Html
