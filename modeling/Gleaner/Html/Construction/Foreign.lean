import Gleaner.Html.Construction.Table

/-!
# Foreign elements

Drawings and formulas have elements of their own. Elements of HTML end them, but for places in them
that hold HTML.
-/

namespace Gleaner.Html.Construction

/-- A token taken as the mode says. -/
def step (s : Construction) (token : Token) : Outcome :=
  match s.mode with
  | .initial => s.initially token
  | .beforeHtml => s.beforeHtml token
  | .beforeHead => s.beforeHead token
  | .inHead => s.inHead token
  | .afterHead => s.afterHead token
  | .inBody => s.inBody token
  | .inRawText => s.inRawText token
  | .inTable => s.inTable token
  | .inTableText => s.inTableText token
  | .inCaption => s.inCaption token
  | .inColumnGroup => s.inColumnGroup token
  | .inTableBody => s.inTableBody token
  | .inRow => s.inRow token
  | .inCell => s.inCell token
  | .inSelect => s.inSelect token
  | .inSelectInTable => s.inSelectInTable token
  | .inTemplate => s.inTemplate token
  | .afterBody => s.afterBody token
  | .inFrameset => s.inFrameset token
  | .afterFrameset => s.afterFrameset token
  | .afterAfterBody => s.afterAfterBody token
  | .afterAfterFrameset => s.afterAfterFrameset token

/-- The element that the text at hand is in: that of the context when only the root is open. -/
def surrounding? (s : Construction) : Option Element :=
  match s.opened with
  | [] => none
  | [n] => s.context.or (s.tree.element? n)
  | n :: _ => s.tree.element? n

/-- Whether the text at hand is in a foreign element. -/
def inForeign (s : Construction) : Bool := s.surrounding?.any (·.space ≠ .html)

/-- Whether a token is text. -/
def isCharacters : Token → Bool
  | .blanks _ => true
  | .text _ => true
  | .null => true
  | _ => false

/-- Whether a place in a foreign element takes a token as HTML. -/
def takesHtml (e : Element) (token : Token) : Bool :=
  match token with
  | .startTag tag =>
    (e.isTextPoint && !(["mglyph", "malignmark"]).contains tag.name) || e.isHtmlPoint ||
      (e.space = .mathml && e.name = "annotation-xml" && tag.name = "svg")
  | token => isCharacters token && (e.isTextPoint || e.isHtmlPoint)

/-- Whether a token belongs to a foreign element. -/
def isForeign (s : Construction) (token : Token) : Bool :=
  token ≠ .finish &&
    match s.surrounding? with
    | none => false
    | some e => e.space ≠ .html && !takesHtml e token

/-- Elements of HTML that end foreign elements. -/
def breakingNames : List String :=
  ["b", "big", "blockquote", "body", "br", "center", "code", "dd", "div", "dl", "dt", "em",
    "embed", "h1", "h2", "h3", "h4", "h5", "h6", "head", "hr", "i", "img", "li", "listing",
    "menu", "meta", "nobr", "ol", "p", "pre", "ruby", "s", "small", "span", "strong", "strike",
    "sub", "sup", "table", "tt", "u", "ul", "var"]

/-- Whether a start tag ends foreign elements. -/
def breaksOut (tag : Tag) : Bool :=
  breakingNames.contains tag.name ||
    (tag.name = "font" && tag.attrs.any fun a => ["color", "face", "size"].contains a.1)

/-- A foreign element opened. -/
def openInForeign (s : Construction) (tag : Tag) : Construction :=
  let space := (s.surrounding?.map (·.space)).getD .html
  s.openForeign space (adjustName space tag.name) tag

/-- All foreign elements closed up to one that holds HTML. -/
def leaveForeign (s : Construction) : Construction :=
  let holdsHtml (n : NodeId) :=
    (s.tree.element? n).any fun e => e.space = .html || e.isTextPoint || e.isHtmlPoint
  { s with opened := s.opened.tail.dropWhile (!holdsHtml ·) }

/-- The end tag of a foreign element. It closes the innermost element of its name, whatever the
case, unless there is an element of HTML in between. `whole` are all open elements. -/
def endInForeign (s : Construction) (tag : Tag) (first : Bool) : List NodeId → Outcome
  | [] => .done s
  | [_] => .done s
  | n :: outer =>
    match s.tree.element? n with
    | none => .done s
    | some e =>
      if !first && e.space = .html then s.step (.endTag tag)
      else if e.name.toList.map Char.toLower = tag.name.toList.map Char.toLower then
        .done { s with opened := outer }
      else s.endInForeign tag false outer

/-- A token in a foreign element. -/
def stepForeign (s : Construction) : Token → Outcome
  | .null => .done (s.insertText (String.singleton Reference.replacement))
  | .blanks text => .done (s.insertText text)
  | .text text => .done (s.forbidFrames.insertText text)
  | .comment text => .done (s.insertComment text)
  | .startTag tag =>
    if breaksOut tag && s.context.isNone then .again s.leaveForeign
    else .done (s.openInForeign tag)
  | .endTag tag => s.endInForeign tag true s.opened
  | _ => .done s

/-- A token taken, again and again at most a number of times. -/
def settle (token : Token) : Nat → Construction → Construction
  | 0, s => s
  | times + 1, s =>
    match if s.isForeign token then s.stepForeign token else s.step token with
    | .done s => s
    | .again s => settle token times s

/-- A text without the line feed that is to be left out at its beginning. -/
def dropNewline (s : Construction) (text : String) : String :=
  match s.skipsNewline, text.toList with
  | true, '\n' :: rest => .ofList rest
  | _, _ => text

/-- A token taken. Taken again, it meets another mode or fewer open elements, so that it is not
taken more often than there are modes and open elements. -/
def take (s : Construction) (token : Token) : Construction :=
  let times := 32 * (s.opened.length + 2)
  let next := { s with skipsNewline := false }
  match token with
  | .blanks text =>
    let text := s.dropNewline text
    if text.isEmpty then next else settle (.blanks text) times next
  | .doctype d => if s.mode = .initial then next.setDoctype d else next
  | token => settle token times next

end Gleaner.Html.Construction
