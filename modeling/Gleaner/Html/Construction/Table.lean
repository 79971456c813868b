import Gleaner.Html.Construction.Body

/-!
# Tables, selections, templates and frames

What is taken how in the parts of a table. What is out of place in a table goes in front of it.
-/

namespace Gleaner.Html.Construction

/-- Cells of a table. -/
def cellNames : List String := ["td", "th"]

/-- Groups of rows. -/
def groupNames : List String := ["tbody", "tfoot", "thead"]

/-- What a group of rows is directly in. -/
def groupBounds : List String := ["tbody", "tfoot", "thead", "template", "html"]

/-- What a cell is directly in. -/
def rowBounds : List String := ["tr", "template", "html"]

/-- What a table holds directly, as bounds. -/
def tableBounds : List String := ["html", "table", "template"]

/-- Whether an element of a table with a name is in the table at hand. -/
def hasInTable (s : Construction) (name : String) : Bool :=
  s.hasInScope Element.boundsTableScope name

/-- A token taken as in the body, in front of the table at hand. -/
def foster (s : Construction) (token : Token) : Outcome :=
  ({ s with fosters := true }.inBody token).map fun s => { s with fosters := false }

/-- Text in a table. -/
def textInTable (s : Construction) (token : Token) : Outcome :=
  if s.currentIsAmong tableParts then .again { s with resume := s.mode, mode := .inTableText }
  else s.foster token

/-- The table at hand closed. -/
def closeTable (s : Construction) : Construction := (s.close "table").resetMode

/-- A form in a table, which is closed at once. -/
def formInTable (s : Construction) (tag : Tag) : Construction :=
  if s.hasOpen "template" || s.form.isSome then s
  else
    let (s, n) := s.insertElement (elementOf tag)
    { s with form := some n }

/-- A start tag in a table. -/
def startInTable (s : Construction) (tag : Tag) : Outcome :=
  let name := tag.name
  if name = "caption" then .done (((s.popTo tableBounds).mark.openTag tag).switchTo .inCaption)
  else if name = "colgroup" then .done (((s.popTo tableBounds).openTag tag).switchTo .inColumnGroup)
  else if name = "col" then
    .again (((s.popTo tableBounds).openNamed "colgroup").switchTo .inColumnGroup)
  else if groupNames.contains name then
    .done (((s.popTo tableBounds).openTag tag).switchTo .inTableBody)
  else if ("tr" :: cellNames).contains name then
    .again (((s.popTo tableBounds).openNamed "tbody").switchTo .inTableBody)
  else if name = "table" then
    if s.hasInTable "table" then .again s.closeTable else .done s
  else if ["style", "script", "template"].contains name then .done (s.openInHead tag)
  else if name = "input" && isHidden tag then .done (s.insertTag tag)
  else if name = "form" then .done (s.formInTable tag)
  else s.foster (.startTag tag)

/-- An end tag in a table. -/
def endInTable (s : Construction) (tag : Tag) : Outcome :=
  let name := tag.name
  if name = "table" then .done (if s.hasInTable "table" then s.closeTable else s)
  else if (["body", "caption", "col", "colgroup", "html", "tr"] ++ groupNames ++ cellNames).contains
      name then .done s
  else if name = "template" then .done s.endTemplate
  else s.foster (.endTag tag)

/-- A token in a table. -/
def inTable (s : Construction) : Token → Outcome
  | .null => s.textInTable .null
  | .blanks text => s.textInTable (.blanks text)
  | .text text => s.textInTable (.text text)
  | .comment text => .done (s.insertComment text)
  | .startTag tag => s.startInTable tag
  | .endTag tag => s.endInTable tag
  | .finish => s.inBody .finish
  | .doctype _ => .done s

/-- Text of a table placed: in front of the table unless all of it is white space. -/
def placePending (s : Construction) : Construction :=
  let isText (token : Token) :=
    match token with
    | .text _ => true
    | _ => false
  let place (s : Construction) (token : Token) : Construction :=
    match token with
    | .blanks text => s.insertText text
    | .text text => s.insertText text
    | _ => s
  let placeOut (s : Construction) (token : Token) : Construction :=
    match s.foster token with
    | .done s => s
    | .again s => s
  let bare := { s with pending := [] }
  if s.pending.any isText then s.pending.foldl placeOut bare else s.pending.foldl place bare

/-- A token in the text of a table. -/
def inTableText (s : Construction) : Token → Outcome
  | .null => .done s
  | .blanks text => .done { s with pending := s.pending ++ [.blanks text] }
  | .text text => .done { s with pending := s.pending ++ [.text text] }
  | _ => .again (s.placePending.switchTo s.resume)

/-- Tags that end a caption. -/
def endsCaption : Token → Bool
  | .startTag tag =>
    (["caption", "col", "colgroup", "tr"] ++ groupNames ++ cellNames).contains tag.name
  | .endTag tag => ["table", "caption"].contains tag.name
  | _ => false

/-- A token in a caption. -/
def inCaption (s : Construction) (token : Token) : Outcome :=
  if endsCaption token then
    if s.hasInTable "caption" then
      let closed := (s.closeWithImplied "caption").clearToMarker.switchTo .inTable
      match token with
      | .endTag tag => if tag.name = "caption" then .done closed else .again closed
      | _ => .again closed
    else .done s
  else
    match token with
    | .endTag tag =>
      if (["body", "col", "colgroup", "html", "tr"] ++ groupNames ++ cellNames).contains tag.name
      then .done s
      else s.inBody token
    | token => s.inBody token

/-- A token that ends a group of columns. -/
def leaveColumns (s : Construction) : Outcome :=
  if s.currentIs "colgroup" then .again (s.pop.switchTo .inTable) else .done s

/-- A token in a group of columns. -/
def inColumnGroup (s : Construction) : Token → Outcome
  | .blanks text => .done (s.insertText text)
  | .comment text => .done (s.insertComment text)
  | .startTag tag =>
    if tag.name = "html" then .done (s.mergeRoot tag)
    else if tag.name = "col" then .done (s.insertTag tag)
    else if tag.name = "template" then .done (s.openInHead tag)
    else s.leaveColumns
  | .endTag tag =>
    if tag.name = "colgroup" then
      .done (if s.currentIs "colgroup" then s.pop.switchTo .inTable else s)
    else if tag.name = "col" then .done s
    else if tag.name = "template" then .done s.endTemplate
    else s.leaveColumns
  | .finish => s.inBody .finish
  | _ => s.leaveColumns

/-- The group of rows at hand closed, and the token taken again. -/
def leaveGroup (s : Construction) : Outcome :=
  if s.inScope Element.boundsTableScope (s.isAmong · ["table", "tbody", "tfoot"]) then
    .again ((s.popTo groupBounds).pop.switchTo .inTable)
  else .done s

/-- A token in a group of rows. -/
def inTableBody (s : Construction) (token : Token) : Outcome :=
  match token with
  | .startTag tag =>
    if tag.name = "tr" then .done (((s.popTo groupBounds).openTag tag).switchTo .inRow)
    else if cellNames.contains tag.name then
      .again (((s.popTo groupBounds).openNamed "tr").switchTo .inRow)
    else if (["caption", "col", "colgroup"] ++ groupNames).contains tag.name then s.leaveGroup
    else s.inTable token
  | .endTag tag =>
    if groupNames.contains tag.name then
      .done (if s.hasInTable tag.name then (s.popTo groupBounds).pop.switchTo .inTable else s)
    else if tag.name = "table" then s.leaveGroup
    else if (["body", "caption", "col", "colgroup", "html", "tr"] ++ cellNames).contains tag.name
    then .done s
    else s.inTable token
  | token => s.inTable token

/-- The row at hand closed. -/
def closeRow (s : Construction) : Construction := (s.popTo rowBounds).pop.switchTo .inTableBody

/-- The row at hand closed, and the token taken again. -/
def leaveRow (s : Construction) : Outcome :=
  if s.hasInTable "tr" then .again s.closeRow else .done s

/-- A token in a row. -/
def inRow (s : Construction) (token : Token) : Outcome :=
  match token with
  | .startTag tag =>
    if cellNames.contains tag.name then
      .done (((s.popTo rowBounds).openTag tag).switchTo .inCell).mark
    else if (["caption", "col", "colgroup", "tr"] ++ groupNames).contains tag.name then s.leaveRow
    else s.inTable token
  | .endTag tag =>
    if tag.name = "tr" then .done (if s.hasInTable "tr" then s.closeRow else s)
    else if tag.name = "table" then s.leaveRow
    else if groupNames.contains tag.name then
      if s.hasInTable tag.name then s.leaveRow else .done s
    else if (["body", "caption", "col", "colgroup", "html"] ++ cellNames).contains tag.name then
      .done s
    else s.inTable token
  | token => s.inTable token

/-- The cell at hand closed. -/
def closeCell (s : Construction) : Construction :=
  (((s.popWhile impliedEnds).popUntil (s.isAmong · cellNames)).clearToMarker).switchTo .inRow

/-- A token in a cell. -/
def inCell (s : Construction) (token : Token) : Outcome :=
  match token with
  | .startTag tag =>
    if (["caption", "col", "colgroup", "tr"] ++ groupNames ++ cellNames).contains tag.name then
      if s.inScope Element.boundsTableScope (s.isAmong · cellNames) then .again s.closeCell
      else .done s
    else s.inBody token
  | .endTag tag =>
    if cellNames.contains tag.name then
      .done (if s.hasInTable tag.name then
        (s.closeWithImplied tag.name).clearToMarker.switchTo .inRow else s)
    else if ["body", "caption", "col", "colgroup", "html"].contains tag.name then .done s
    else if (["table", "tr"] ++ groupNames).contains tag.name then
      if s.hasInTable tag.name then .again s.closeCell else .done s
    else s.inBody token
  | token => s.inBody token

/-- The selection at hand closed. -/
def closeSelect (s : Construction) : Construction := (s.close "select").resetMode

/-- Whether a selection is in scope. -/
def hasSelect (s : Construction) : Bool := s.hasInScope Element.boundsSelectScope "select"

/-- The end tag of a group of options. -/
def closeOptions (s : Construction) : Construction :=
  let nested :=
    match s.opened with
    | inner :: outer :: _ => s.tree.isNamed inner "option" && s.tree.isNamed outer "optgroup"
    | _ => false
  let s := if nested then s.pop else s
  if s.currentIs "optgroup" then s.pop else s

/-- A start tag in a selection. -/
def startInSelect (s : Construction) (tag : Tag) : Outcome :=
  let name := tag.name
  if name = "html" then .done (s.mergeRoot tag)
  else if name = "option" then .done ((if s.currentIs "option" then s.pop else s).openTag tag)
  else if name = "optgroup" then
    let s := if s.currentIs "option" then s.pop else s
    .done ((if s.currentIs "optgroup" then s.pop else s).openTag tag)
  else if name = "select" then .done (if s.hasSelect then s.closeSelect else s)
  else if ["input", "keygen", "textarea"].contains name then
    if s.hasSelect then .again s.closeSelect else .done s
  else if ["script", "template"].contains name then .done (s.openInHead tag)
  else .done s

/-- A token in a selection. -/
def inSelect (s : Construction) : Token → Outcome
  | .blanks text => .done (s.insertText text)
  | .text text => .done (s.insertText text)
  | .comment text => .done (s.insertComment text)
  | .startTag tag => s.startInSelect tag
  | .endTag tag =>
    if tag.name = "optgroup" then .done s.closeOptions
    else if tag.name = "option" then .done (if s.currentIs "option" then s.pop else s)
    else if tag.name = "select" then .done (if s.hasSelect then s.closeSelect else s)
    else if tag.name = "template" then .done s.endTemplate
    else .done s
  | .finish => s.inBody .finish
  | _ => .done s

/-- Parts of a table around a selection. -/
def aroundSelect : List String := ["caption", "table", "tr"] ++ groupNames ++ cellNames

/-- A token in a selection inside of a table. -/
def inSelectInTable (s : Construction) (token : Token) : Outcome :=
  match token with
  | .startTag tag =>
    if aroundSelect.contains tag.name then .again s.closeSelect else s.inSelect token
  | .endTag tag =>
    if aroundSelect.contains tag.name then
      if s.hasInTable tag.name then .again s.closeSelect else .done s
    else s.inSelect token
  | token => s.inSelect token

/-- The token taken again with a template read in another mode. -/
def retemplate (s : Construction) (mode : Mode) : Outcome :=
  .again { s with mode, templateModes := mode :: s.templateModes.tail }

/-- A token in a template. -/
def inTemplate (s : Construction) : Token → Outcome
  | .blanks text => s.inBody (.blanks text)
  | .text text => s.inBody (.text text)
  | .comment text => s.inBody (.comment text)
  | .startTag tag =>
    if headNames.contains tag.name then .done (s.openInHead tag)
    else if (["caption", "colgroup"] ++ groupNames).contains tag.name then s.retemplate .inTable
    else if tag.name = "col" then s.retemplate .inColumnGroup
    else if tag.name = "tr" then s.retemplate .inTableBody
    else if cellNames.contains tag.name then s.retemplate .inRow
    else s.retemplate .inBody
  | .endTag tag => .done (if tag.name = "template" then s.endTemplate else s)
  | .finish => s.finishTemplate
  | _ => .done s

/-- The end tag of a set of frames. -/
def closeFrameset (s : Construction) : Construction :=
  if s.opened.length = 1 then s
  else
    let s := s.pop
    if s.context.isNone && !s.currentIs "frameset" then s.switchTo .afterFrameset else s

/-- A token in a set of frames. -/
def inFrameset (s : Construction) : Token → Outcome
  | .blanks text => .done (s.insertText text)
  | .comment text => .done (s.insertComment text)
  | .startTag tag =>
    .done
      (if tag.name = "html" then s.mergeRoot tag
      else if tag.name = "frameset" then s.openTag tag
      else if tag.name = "frame" then s.insertTag tag
      else if tag.name = "noframes" then s.openInHead tag
      else s)
  | .endTag tag => .done (if tag.name = "frameset" then s.closeFrameset else s)
  | _ => .done s

/-- A start tag after the frames. -/
def startAfterFrames (s : Construction) (tag : Tag) : Construction :=
  if tag.name = "html" then s.mergeRoot tag
  else if tag.name = "noframes" then s.openInHead tag
  else s

/-- A token after a set of frames. -/
def afterFrameset (s : Construction) : Token → Outcome
  | .blanks text => .done (s.insertText text)
  | .comment text => .done (s.insertComment text)
  | .startTag tag => .done (s.startAfterFrames tag)
  | .endTag tag => .done (if tag.name = "html" then s.switchTo .afterAfterFrameset else s)
  | _ => .done s

/-- A token after a document with frames. -/
def afterAfterFrameset (s : Construction) : Token → Outcome
  | .blanks text => s.inBody (.blanks text)
  | .comment text => .done (s.insertCommentIn 0 text)
  | .startTag tag => .done (s.startAfterFrames tag)
  | _ => .done s

end Gleaner.Html.Construction
