import Gleaner.Html.Tree

/-!
# Classes of elements

Which elements bound a search, are closed by others, or are adjusted in foreign content.
-/

namespace Gleaner.Html

/-- Headings. -/
def headings : List String := ["h1", "h2", "h3", "h4", "h5", "h6"]

/-- Elements that an unspecific end tag does not close. -/
def specialNames : List String :=
  ["address", "applet", "area", "article", "aside", "base", "basefont", "bgsound", "blockquote",
    "body", "br", "button", "caption", "center", "col", "colgroup", "dd", "details", "dir", "div",
    "dl", "dt", "embed", "fieldset", "figcaption", "figure", "footer", "form", "frame", "frameset",
    "h1", "h2", "h3", "h4", "h5", "h6", "head", "header", "hgroup", "hr", "html", "iframe", "img",
    "input", "isindex", "li", "link", "listing", "main", "marquee", "menu", "meta", "nav",
    "noembed", "noframes", "noscript", "object", "ol", "p", "param", "plaintext", "pre", "script",
    "section", "select", "source", "style", "summary", "table", "tbody", "td", "template",
    "textarea", "tfoot", "th", "thead", "title", "tr", "track", "ul", "wbr", "xmp"]

/-- Elements whose end tags may be left out. -/
def impliedEnds : List String :=
  ["dd", "dt", "li", "option", "optgroup", "p", "rb", "rp", "rt", "rtc"]

/-- Elements that the end of a template closes. -/
def thoroughEnds : List String :=
  impliedEnds ++ ["caption", "colgroup", "tbody", "td", "tfoot", "th", "thead", "tr"]

/-- Elements of tables at which text is moved out of the table. -/
def tableParts : List String := ["table", "tbody", "tfoot", "thead", "tr"]

/-- Elements that go into the head. -/
def headNames : List String :=
  ["base", "basefont", "bgsound", "link", "meta", "noframes", "script", "style", "template",
    "title"]

/-- Elements without contents. -/
def voidNames : List String :=
  ["area", "base", "basefont", "bgsound", "br", "col", "embed", "frame", "hr", "img", "input",
    "keygen", "link", "meta", "param", "source", "track", "wbr"]

namespace Element

/-- Elements of formulas in which text is text of HTML. -/
def isTextPoint (e : Element) : Bool :=
  e.space = .mathml && ["mi", "mn", "mo", "ms", "mtext"].contains e.name

/-- Elements of drawings in which there is HTML. -/
def isHtmlPoint (e : Element) : Bool :=
  e.space = .svg && ["foreignObject", "desc", "title"].contains e.name

/-- Whether an unspecific end tag stops at the element. -/
def isSpecial (e : Element) : Bool := e.isAmong specialNames

/-- Whether the element bounds the usual scope. -/
def boundsScope (e : Element) : Bool :=
  e.isAmong
      ["applet", "caption", "html", "table", "td", "th", "marquee", "object", "template"] ||
    e.isTextPoint || e.isHtmlPoint

/-- Whether the element bounds the scope of list items. -/
def boundsListScope (e : Element) : Bool := e.boundsScope || e.isAmong ["ol", "ul"]

/-- Whether the element bounds the scope of paragraphs. -/
def boundsButtonScope (e : Element) : Bool := e.boundsScope || e.isNamed "button"

/-- Whether the element bounds the scope of parts of tables. -/
def boundsTableScope (e : Element) : Bool := e.isAmong ["html", "table", "template"]

/-- Whether the element bounds the scope of parts of selections. -/
def boundsSelectScope (e : Element) : Bool := !e.isAmong ["optgroup", "option"]

end Element

/-- Names of elements of drawings that have capitals. -/
def drawingNames : List String :=
  ["altGlyph", "altGlyphDef", "altGlyphItem", "animateColor", "animateMotion", "animateTransform",
    "clipPath", "feBlend", "feColorMatrix", "feComponentTransfer", "feComposite",
    "feConvolveMatrix", "feDiffuseLighting", "feDisplacementMap", "feDistantLight",
    "feDropShadow", "feFlood", "feFuncA", "feFuncB", "feFuncG", "feFuncR", "feGaussianBlur",
    "feImage", "feMerge", "feMergeNode", "feMorphology", "feOffset", "fePointLight",
    "feSpecularLighting", "feSpotLight", "feTile", "feTurbulence", "foreignObject", "glyphRef",
    "linearGradient", "radialGradient", "textPath"]

/-- Names of attributes of drawings that have capitals. -/
def drawingAttrs : List String :=
  ["attributeName", "attributeType", "baseFrequency", "baseProfile", "calcMode", "clipPathUnits",
    "diffuseConstant", "edgeMode", "filterUnits", "glyphRef", "gradientTransform",
    "gradientUnits", "kernelMatrix", "kernelUnitLength", "keyPoints", "keySplines", "keyTimes",
    "lengthAdjust", "limitingConeAngle", "markerHeight", "markerUnits", "markerWidth",
    "maskContentUnits", "maskUnits", "numOctaves", "pathLength", "patternContentUnits",
    "patternTransform", "patternUnits", "pointsAtX", "pointsAtY", "pointsAtZ", "preserveAlpha",
    "preserveAspectRatio", "primitiveUnits", "refX", "refY", "repeatCount", "repeatDur",
    "requiredExtensions", "requiredFeatures", "specularConstant", "specularExponent",
    "spreadMethod", "startOffset", "stdDeviation", "stitchTiles", "surfaceScale",
    "systemLanguage", "tableValues", "targetX", "targetY", "textLength", "viewBox", "viewTarget",
    "xChannelSelector", "yChannelSelector", "zoomAndPan"]

/-- A name as a list of names with capitals spells it. -/
def recase (names : List String) (name : String) : String :=
  (names.find? fun known => known.toList.map Char.toLower = name.toList).getD name

/-- The name of an element in the language around it. -/
def adjustName (space : Space) (name : String) : String :=
  if space = .svg then recase drawingNames name else name

/-- Attributes with a name space, as they are written. -/
def spacedAttrs : List (String × AttrSpace × String) :=
  [("xlink:actuate", .xlink, "actuate"), ("xlink:arcrole", .xlink, "arcrole"),
    ("xlink:href", .xlink, "href"), ("xlink:role", .xlink, "role"),
    ("xlink:show", .xlink, "show"), ("xlink:title", .xlink, "title"),
    ("xlink:type", .xlink, "type"), ("xml:base", .xml, "base"), ("xml:lang", .xml, "lang"),
    ("xml:space", .xml, "space"), ("xmlns", .xmlns, "xmlns"), ("xmlns:xlink", .xmlns, "xlink")]

/-- An attribute of an element of HTML. -/
def Attr.ofWritten (a : String × String) : Attr := { name := a.1, value := a.2 }

/-- An attribute of an element in some language. -/
def Attr.ofForeign (space : Space) (a : String × String) : Attr :=
  let name :=
    match space with
    | .svg => recase drawingAttrs a.1
    | .mathml => if a.1 = "definitionurl" then "definitionURL" else a.1
    | .html => a.1
  match spacedAttrs.lookup name with
  | some (attrSpace, bare) => { space := attrSpace, name := bare, value := a.2 }
  | none => { name, value := a.2 }

end Gleaner.Html
