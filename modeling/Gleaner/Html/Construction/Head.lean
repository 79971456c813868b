import Gleaner.Html.Construction.Formatting

/-!
# The beginning of a document

What is taken how up to the body: the document type, the root, and the head.
-/

namespace Gleaner.Html.Construction

/-- The attributes of another start tag of the root. -/
def mergeRoot (s : Construction) (tag : Tag) : Construction :=
  if s.hasOpen "template" then s
  else { s with tree := s.tree.addMissingAttrs s.root (tag.attrs.map Attr.ofWritten) }

/-- A template opened. -/
def openTemplate (s : Construction) (tag : Tag) : Construction :=
  let s := (s.openTag tag).mark.forbidFrames
  { s with mode := .inTemplate, templateModes := .inTemplate :: s.templateModes }

/-- The innermost template closed. -/
def closeTemplate (s : Construction) : Construction :=
  let s := (s.close "template").clearToMarker
  { s with templateModes := s.templateModes.tail }.resetMode

/-- The end tag of a template. -/
def endTemplate (s : Construction) : Construction :=
  if s.hasOpen "template" then (s.popWhile thoroughEnds).closeTemplate else s

/-- The end of a document inside of templates. -/
def finishTemplate (s : Construction) : Outcome :=
  if s.hasOpen "template" then .again s.closeTemplate else .done s

/-- A start tag of an element of the head. -/
def openInHead (s : Construction) (tag : Tag) : Construction :=
  match tag.name with
  | "title" => s.openRaw tag (.escapable tag.name)
  | "noframes" => s.openRaw tag (.raw tag.name)
  | "style" => s.openRaw tag (.raw tag.name)
  | "script" => s.openRaw tag .script
  | "template" => s.openTemplate tag
  | _ => s.insertTag tag

/-- The document type at the beginning. -/
def setDoctype (s : Construction) (d : Doctype) : Construction :=
  let n := s.tree.size
  let s := (s.make (.doctype (d.name.getD ""))).put (.within 0) n
  { s with isOld := d.isOld, mode := .beforeHtml }

/-- A token at the beginning. -/
def initially (s : Construction) : Token → Outcome
  | .blanks _ => .done s
  | .comment text => .done (s.insertCommentIn 0 text)
  | _ => .again { s with isOld := true, mode := .beforeHtml }

/-- Whether an end tag counts where the element of its name is missing. -/
def endsEarly (name : String) : Bool := ["head", "body", "html", "br"].contains name

/-- A token in front of the root. -/
def beforeHtml (s : Construction) : Token → Outcome
  | .blanks _ => .done s
  | .comment text => .done (s.insertCommentIn 0 text)
  | .startTag tag =>
    if tag.name = "html" then .done ((s.openRoot tag.attrs).switchTo .beforeHead)
    else .again ((s.openRoot []).switchTo .beforeHead)
  | .endTag tag =>
    if endsEarly tag.name then .again ((s.openRoot []).switchTo .beforeHead) else .done s
  | _ => .again ((s.openRoot []).switchTo .beforeHead)

/-- The head opened. -/
def openHead (s : Construction) (tag : Tag) : Construction :=
  let (s, n) := s.openElement (elementOf tag)
  { s with head := some n, mode := .inHead }

/-- A token in front of the head. -/
def beforeHead (s : Construction) : Token → Outcome
  | .blanks _ => .done s
  | .comment text => .done (s.insertComment text)
  | .startTag tag =>
    if tag.name = "html" then .done (s.mergeRoot tag)
    else if tag.name = "head" then .done (s.openHead tag)
    else .again (s.openHead { name := "head" })
  | .endTag tag =>
    if endsEarly tag.name then .again (s.openHead { name := "head" }) else .done s
  | _ => .again (s.openHead { name := "head" })

/-- A token in the head. -/
def inHead (s : Construction) : Token → Outcome
  | .blanks text => .done (s.insertText text)
  | .comment text => .done (s.insertComment text)
  | .startTag tag =>
    if tag.name = "html" then .done (s.mergeRoot tag)
    else if tag.name = "noscript" then .done (s.openRaw tag (.raw tag.name))
    else if headNames.contains tag.name then .done (s.openInHead tag)
    else if tag.name = "head" then .done s
    else .again (s.pop.switchTo .afterHead)
  | .endTag tag =>
    if tag.name = "head" then .done (s.pop.switchTo .afterHead)
    else if tag.name = "template" then .done s.endTemplate
    else if endsEarly tag.name then .again (s.pop.switchTo .afterHead)
    else .done s
  | _ => .again (s.pop.switchTo .afterHead)

/-- A token between the head and the body. What belongs into the head is put there. -/
def afterHead (s : Construction) : Token → Outcome
  | .blanks text => .done (s.insertText text)
  | .comment text => .done (s.insertComment text)
  | .startTag tag =>
    if tag.name = "html" then .done (s.mergeRoot tag)
    else if tag.name = "body" then .done ((s.openTag tag).forbidFrames.switchTo .inBody)
    else if tag.name = "frameset" then .done ((s.openTag tag).switchTo .inFrameset)
    else if headNames.contains tag.name then
      let head := s.head.getD 0
      .done (({ s with opened := head :: s.opened }.openInHead tag).forget head)
    else if tag.name = "head" then .done s
    else .again ((s.openNamed "body").switchTo .inBody)
  | .endTag tag =>
    if tag.name = "template" then .done s.endTemplate
    else if endsEarly tag.name && tag.name ≠ "head" then
      .again ((s.openNamed "body").switchTo .inBody)
    else .done s
  | _ => .again ((s.openNamed "body").switchTo .inBody)

end Gleaner.Html.Construction
