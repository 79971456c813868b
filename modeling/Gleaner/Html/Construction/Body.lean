import Gleaner.Html.Construction.Head

/-!
# The body of a document

What is taken how in the body: blocks, lists, headings, formatting, forms, and foreign elements.
-/

namespace Gleaner.Html.Construction

/-- Blocks, which end a paragraph. -/
def blockNames : List String :=
  ["address", "article", "aside", "blockquote", "center", "details", "dialog", "dir", "div", "dl",
    "fieldset", "figcaption", "figure", "footer", "header", "hgroup", "main", "menu", "nav", "ol",
    "p", "search", "section", "summary", "ul"]

/-- Elements whose end tags close what is open inside of them. -/
def closableNames : List String :=
  ["address", "article", "aside", "blockquote", "button", "center", "details", "dialog", "dir",
    "div", "dl", "fieldset", "figcaption", "figure", "footer", "header", "hgroup", "listing",
    "main", "menu", "nav", "ol", "pre", "search", "section", "summary", "ul"]

/-- Formatting elements but for links and `nobr`. -/
def formattingNames : List String :=
  ["b", "big", "code", "em", "font", "i", "s", "small", "strike", "strong", "tt", "u"]

/-- Parts of tables and documents whose start tags do not count in the body. -/
def strayNames : List String :=
  ["caption", "col", "colgroup", "frame", "head", "tbody", "td", "tfoot", "th", "thead", "tr"]

/-- The attributes of another start tag of the body. -/
def mergeBody (s : Construction) (tag : Tag) : Construction :=
  match s.body? with
  | none => s
  | some body =>
    if s.hasOpen "template" then s
    else
      { s with
        framesAllowed := false
        tree := s.tree.addMissingAttrs body (tag.attrs.map Attr.ofWritten) }

/-- Frames in place of the body. -/
def replaceBody (s : Construction) (tag : Tag) : Construction :=
  match s.body? with
  | none => s
  | some body =>
    if s.framesAllowed then
      ({ s with tree := s.tree.detach body, opened := [s.root] }.openTag tag).switchTo .inFrameset
    else s

/-- A heading opened; one that is open at once is closed. -/
def openHeading (s : Construction) (tag : Tag) : Construction :=
  let s := s.closeParagraph
  (if s.currentIsAmong headings then s.pop else s).openTag tag

/-- A form opened, unless one is open. -/
def openForm (s : Construction) (tag : Tag) : Construction :=
  let inTemplate := s.hasOpen "template"
  if s.form.isSome && !inTemplate then s
  else
    let (s, n) := s.closeParagraph.openElement (elementOf tag)
    if inTemplate then s else { s with form := some n }

/-- The name of an open item that another one ends, given the open elements. -/
def openItem? (s : Construction) (ends : List String) : List NodeId → Option String
  | [] => none
  | n :: rest =>
    match s.tree.element? n with
    | none => s.openItem? ends rest
    | some e =>
      if e.isAmong ends then some e.name
      else if e.isSpecial && !e.isAmong ["address", "div", "p"] then none
      else s.openItem? ends rest

/-- An item of a list opened; one that is open is closed. -/
def openItem (s : Construction) (tag : Tag) : Construction :=
  let s := s.forbidFrames
  let ends := if tag.name = "li" then ["li"] else ["dd", "dt"]
  let s :=
    match s.openItem? ends s.opened with
    | some name => (s.popImplied name).close name
    | none => s
  s.closeParagraph.openTag tag

/-- A button opened; one that is open is closed. -/
def openButton (s : Construction) (tag : Tag) : Construction :=
  let s :=
    if s.hasInScope Element.boundsScope "button" then s.closeWithImplied "button" else s
  (s.reconstruct.openTag tag).forbidFrames

/-- A `nobr` opened; one that is open is closed. -/
def openNobr (s : Construction) (tag : Tag) : Construction :=
  let s := s.reconstruct
  let s :=
    if s.hasInScope Element.boundsScope "nobr" then (s.closeFormatting "nobr").reconstruct else s
  s.openFormatting tag

/-- A table opened. It ends a paragraph but in old documents. -/
def openTable (s : Construction) (tag : Tag) : Construction :=
  let s := if s.isOld then s else s.closeParagraph
  (s.openTag tag).forbidFrames.switchTo .inTable

/-- A selection opened. -/
def openSelect (s : Construction) (tag : Tag) : Construction :=
  let inTable := [Mode.inTable, .inCaption, .inTableBody, .inRow, .inCell].contains s.mode
  (s.reconstruct.openTag tag).forbidFrames.switchTo
    (if inTable then .inSelectInTable else .inSelect)

/-- Whether an input is hidden. -/
def isHidden (tag : Tag) : Bool :=
  (tag.attr? "type").any fun type => type.toList.map Char.toLower = "hidden".toList

/-- An element without contents among the formatting. -/
def insertInline (s : Construction) (tag : Tag) : Construction :=
  let s := s.reconstruct.insertTag tag
  if tag.name = "input" && isHidden tag then s else s.forbidFrames

/-- A part of an annotation opened; other parts are closed. -/
def openRuby (s : Construction) (tag : Tag) (but : String) : Construction :=
  (if s.hasInScope Element.boundsScope "ruby" then s.popImplied but else s).openTag tag

/-- An element in a language put where it belongs. It is opened unless its tag closes itself. -/
def openForeign (s : Construction) (space : Space) (name : String) (tag : Tag) : Construction :=
  let e : Element := { space, name, attrs := tag.attrs.map (Attr.ofForeign space) }
  if tag.selfClosing then (s.insertElement e).1 else (s.openElement e).1

/-- The start tag of an element of no special kind in the body. -/
def openInline (s : Construction) (tag : Tag) : Construction := s.reconstruct.openTag tag

/-- A start tag in the body. -/
def startInBody (s : Construction) (tag : Tag) : Construction :=
  let name := tag.name
  if name = "html" then s.mergeRoot tag
  else if headNames.contains name then s.openInHead tag
  else if name = "body" then s.mergeBody tag
  else if name = "frameset" then s.replaceBody tag
  else if blockNames.contains name then s.closeParagraph.openTag tag
  else if headings.contains name then s.openHeading tag
  else if ["pre", "listing"].contains name then
    { (s.closeParagraph.openTag tag).forbidFrames with skipsNewline := true }
  else if name = "form" then s.openForm tag
  else if ["li", "dd", "dt"].contains name then s.openItem tag
  else if name = "plaintext" then { s.closeParagraph.openTag tag with reading := .plain }
  else if name = "button" then s.openButton tag
  else if name = "a" then s.closeLink.reconstruct.openFormatting tag
  else if formattingNames.contains name then s.reconstruct.openFormatting tag
  else if name = "nobr" then s.openNobr tag
  else if ["applet", "marquee", "object"].contains name then
    (s.openInline tag).mark.forbidFrames
  else if name = "table" then s.openTable tag
  else if ["area", "br", "embed", "img", "keygen", "wbr", "input"].contains name then
    s.insertInline tag
  else if ["param", "source", "track"].contains name then s.insertTag tag
  else if name = "hr" then (s.closeParagraph.insertTag tag).forbidFrames
  else if name = "image" then s.insertInline { tag with name := "img" }
  else if name = "textarea" then
    { s.forbidFrames.openRaw tag (.escapable name) with skipsNewline := true }
  else if name = "xmp" then s.closeParagraph.reconstruct.forbidFrames.openRaw tag (.raw name)
  else if name = "iframe" then s.forbidFrames.openRaw tag (.raw name)
  else if ["noembed", "noscript"].contains name then s.openRaw tag (.raw name)
  else if name = "select" then s.openSelect tag
  else if ["optgroup", "option"].contains name then
    (if s.currentIs "option" then s.pop else s).openInline tag
  else if ["rb", "rtc"].contains name then s.openRuby tag ""
  else if ["rp", "rt"].contains name then s.openRuby tag "rtc"
  else if name = "math" then s.openForeign .mathml name tag
  else if name = "svg" then s.openForeign .svg name tag
  else if strayNames.contains name then s
  else s.openInline tag

/-- The end tag of a form. -/
def closeForm (s : Construction) : Construction :=
  if s.hasOpen "template" then
    if s.hasInScope Element.boundsScope "form" then s.closeWithImplied "form" else s
  else
    match s.form with
    | none => s
    | some form =>
      let s := { s with form := none }
      if s.inScope Element.boundsScope (· = form) then (s.popWhile impliedEnds).forget form else s

/-- The end tag of a heading, which closes a heading of any kind. -/
def closeHeading (s : Construction) : Construction :=
  if s.inScope Element.boundsScope (s.isAmong · headings) then
    (s.popWhile impliedEnds).popUntil (s.isAmong · headings)
  else s

/-- The end tag of an item of a list. -/
def closeItem (s : Construction) (name : String) : Construction :=
  let bounds := if name = "li" then Element.boundsListScope else Element.boundsScope
  if s.hasInScope bounds name then (s.popImplied name).close name else s

/-- The end tag of a paragraph. Without one that is open it stands for an empty one. -/
def closeParagraphTag (s : Construction) : Construction :=
  let s := if s.hasInScope Element.boundsButtonScope "p" then s else s.openNamed "p"
  (s.popImplied "p").close "p"

/-- An end tag in the body. -/
def endInBody (s : Construction) (tag : Tag) : Outcome :=
  let name := tag.name
  if name = "template" then .done s.endTemplate
  else if name = "body" then
    .done (if s.hasInScope Element.boundsScope "body" then s.switchTo .afterBody else s)
  else if name = "html" then
    if s.hasInScope Element.boundsScope "body" then .again (s.switchTo .afterBody) else .done s
  else if closableNames.contains name then
    .done (if s.hasInScope Element.boundsScope name then s.closeWithImplied name else s)
  else if name = "form" then .done s.closeForm
  else if name = "p" then .done s.closeParagraphTag
  else if ["li", "dd", "dt"].contains name then .done (s.closeItem name)
  else if headings.contains name then .done s.closeHeading
  else if (["a", "nobr"] ++ formattingNames).contains name then .done (s.closeFormatting name)
  else if ["applet", "marquee", "object"].contains name then
    .done (if s.hasInScope Element.boundsScope name then
      (s.closeWithImplied name).clearToMarker else s)
  else if name = "br" then .done (s.insertInline { name })
  else .done (s.closeAny name)

/-- A token in the body. -/
def inBody (s : Construction) : Token → Outcome
  | .null => .done s
  | .blanks text => .done (s.reconstruct.insertText text)
  | .text text => .done (s.reconstruct.forbidFrames.insertText text)
  | .comment text => .done (s.insertComment text)
  | .startTag tag => .done (s.startInBody tag)
  | .endTag tag => s.endInBody tag
  | .finish => if s.templateModes.isEmpty then .done s else s.finishTemplate
  | .doctype _ => .done s

/-- A token in raw text. -/
def inRawText (s : Construction) : Token → Outcome
  | .blanks text => .done (s.insertText text)
  | .text text => .done (s.insertText text)
  | .endTag _ => .done (s.pop.switchTo s.resume)
  | .finish => .again (s.pop.switchTo s.resume)
  | _ => .done s

/-- A token after the body. -/
def afterBody (s : Construction) : Token → Outcome
  | .blanks text => s.inBody (.blanks text)
  | .comment text => .done (s.insertCommentIn s.root text)
  | .startTag tag =>
    if tag.name = "html" then .done (s.mergeRoot tag) else .again (s.switchTo .inBody)
  | .endTag tag =>
    if tag.name = "html" then .done (if s.context.isSome then s else s.switchTo .afterAfterBody)
    else .again (s.switchTo .inBody)
  | .finish => .done s
  | _ => .again (s.switchTo .inBody)

/-- A token after the root. -/
def afterAfterBody (s : Construction) : Token → Outcome
  | .blanks text => s.inBody (.blanks text)
  | .comment text => .done (s.insertCommentIn 0 text)
  | .startTag tag =>
    if tag.name = "html" then .done (s.mergeRoot tag) else .again (s.switchTo .inBody)
  | .finish => .done s
  | _ => .again (s.switchTo .inBody)

end Gleaner.Html.Construction
