import Gleaner.Yaml.Scalar

/-!
# Tokens of YAML
-/

namespace Gleaner.Yaml

/-- A token. The end of a stream is the end of its tokens. -/
inductive Token where
  /-- A directive that names a version. -/
  | version (major minor : Nat)
  /-- A directive that gives tags with a handle a prefix. -/
  | handle (name pre : String)
  /-- The mark before a document. -/
  | documentStart
  /-- The mark after a document. -/
  | documentEnd
  /-- An indented list begins. -/
  | listStart
  /-- An indented record begins. -/
  | recordStart
  /-- An indented collection ends. -/
  | blockEnd
  /-- The mark of an item of an indented list. -/
  | item
  /-- An opening bracket. -/
  | openList
  /-- A closing bracket. -/
  | closeList
  /-- An opening brace. -/
  | openRecord
  /-- A closing brace. -/
  | closeRecord
  /-- A comma between brackets or braces. -/
  | comma
  /-- A key follows. -/
  | key
  /-- A value follows. -/
  | value
  /-- The place of an anchored node again. -/
  | alias (name : String)
  /-- An anchor of the node that follows. -/
  | anchor (name : String)
  /-- A tag of the node that follows. -/
  | tag (handle suffix : String)
  /-- A scalar. -/
  | scalar (text : String) (style : Style)
  deriving DecidableEq, Repr

/-- Whether a character may stand in the name of an anchor or of a handle. -/
def isNameChar (c : Char) : Bool := c.isAlphanum || c = '_' || c = '-'

/-- Whether a character may stand in a tag; in full tags more of them may. -/
def isTagChar (full : Bool) (c : Char) : Bool :=
  isNameChar c || ";/?:@&=+$.!~*'()%".toList.contains c || full && ",[]".toList.contains c

/-- The name of an anchor or an alias at a place, and the place after it. -/
def anchorName (c : Cursor) : Option (String × Cursor) :=
  let name := c.rest.takeWhile isNameChar
  let c := c.skip name.length
  let ends := atEdge c.rest || c.rest.head?.any ("?:,]\x7d%@`".toList.contains ·)
  if name.isEmpty || !ends then none else some (.ofList name, c)

/-- The bytes that percent escapes in a tag stand for, decoded; nothing when one is malformed. -/
def tagText : (fuel : Nat) → List Char → Option (List UInt8)
  | 0, _ => some []
  | _, [] => some []
  | fuel + 1, c :: rest =>
    if c = '%' then
      match rest with
      | a :: b :: rest =>
        match Json.hexValue? a, Json.hexValue? b with
        | some a, some b => (tagText fuel rest).map (UInt8.ofNat (16 * a + b) :: ·)
        | _, _ => none
      | _ => none
    else (tagText fuel rest).map ((String.singleton c).toUTF8.toList ++ ·)

/-- The part of a tag at a place, and the place after it. -/
def tagPart (full : Bool) (c : Cursor) : Option (String × Cursor) :=
  let part := c.rest.takeWhile (isTagChar full)
  match tagText (part.length + 1) part with
  | none => none
  | some bytes => (String.fromUTF8? ⟨bytes.toArray⟩).map (·, c.skip part.length)

/-- A tag at a place, and the place after it. In collections in brackets a comma may follow. -/
def tagToken (inFlow : Bool) (c : Cursor) : Option (Token × Cursor) :=
  let named := (c.rest.drop 1).takeWhile isNameChar
  let read : Option (Token × Cursor) :=
    if c.rest.take 2 = ['!', '<'] then
      match tagPart true (c.skip 2) with
      | some (uri, c) =>
        if uri.isEmpty || !startsWith '>' c.rest then none else some (.tag "" uri, c.skip 1)
      | none => none
    else if startsWith '!' (c.rest.drop (named.length + 1)) then
      match tagPart false (c.skip (named.length + 2)) with
      | some (suffix, c) =>
        if suffix.isEmpty then none
        else some (.tag (.ofList ('!' :: named ++ ['!'])) suffix, c)
      | none => none
    else
      match tagPart false (c.skip 1) with
      | some (suffix, c) =>
        some (if suffix.isEmpty then .tag "" "!" else .tag "!" suffix, c)
      | none => none
  match read with
  | none => none
  | some (token, c) =>
    if atEdge c.rest || inFlow && startsWith ',' c.rest then some (token, c) else none

/-- A number of at most nine digits at a place, and the place after it. -/
def versionPart (c : Cursor) : Option (Nat × Cursor) :=
  let digits := c.rest.takeWhile isDigit
  if 9 < digits.length then none else (readNat? digits).map (·, c.skip digits.length)

/-- The version of a directive at a place, and the place after it. -/
def versionToken (c : Cursor) : Option (Token × Cursor) := do
  let (major, c) ← versionPart c
  if startsWith '.' c.rest then
    let (minor, c) ← versionPart (c.skip 1)
    return (.version major minor, c)
  else none

/-- The handle and the prefix of a directive at a place, and the place after them. -/
def handleToken (c : Cursor) : Option (Token × Cursor) := do
  let named := (c.rest.drop 1).takeWhile isNameChar
  let closed := startsWith '!' (c.rest.drop (named.length + 1))
  if !startsWith '!' c.rest || !closed && !named.isEmpty then none
  let name := '!' :: named ++ if closed then ['!'] else []
  let c := c.skip name.length
  if !c.rest.head?.any isSpace then none
  let (pre, c) ← tagPart true (c.skipWhile isSpace)
  if pre.isEmpty || !atEdge c.rest then none
  return (.handle (.ofList name) pre, c)

/-- A directive at a place, and the place of the line after it. -/
def directive (c : Cursor) : Option (Token × Cursor) := do
  let name := (c.rest.drop 1).takeWhile isNameChar
  let c := c.skip (name.length + 1)
  if name.isEmpty || !atEdge c.rest then none
  let c := c.skipWhile isSpace
  let (token, c) ←
    if name = "YAML".toList then versionToken c
    else if name = "TAG".toList then handleToken c
    else none
  let c := (c.skipWhile isSpace).skipComment
  if atLineEnd c.rest then return (token, c.skipBreak) else none

end Gleaner.Yaml
