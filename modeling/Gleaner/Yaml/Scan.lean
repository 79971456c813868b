import Gleaner.Yaml.Token

/-!
# Scanning YAML

Indentation becomes tokens that open and close collections. A key is only known as one at the
colon after it, so its token is put in afterwards at the place where it could have begun.
-/

namespace Gleaner.Yaml

/-- A place where a key may have begun. -/
structure PossibleKey where
  /-- The number of tokens before it. -/
  position : Nat
  /-- Whether it has to be a key. -/
  isRequired : Bool
  /-- Where it begins. -/
  start : Cursor

/-- The tokens of a source up to a place. -/
structure Scanner where
  /-- The place. -/
  cursor : Cursor
  /-- The tokens before it. -/
  tokens : Array Token := #[]
  /-- The columns of the indented collections around it, innermost first. -/
  columns : List Nat := []
  /-- A key that may have begun, at this level of brackets. -/
  key : Option PossibleKey := none
  /-- The same at each of the levels around it, innermost first. -/
  outerKeys : List (Option PossibleKey) := []
  /-- Whether a key may begin here. -/
  keyAllowed : Bool := true

namespace Scanner

/-- Whether the place is inside of brackets or braces. -/
def inFlow (s : Scanner) : Bool := !s.outerKeys.isEmpty

/-- The first column of content inside of the collections around a place. -/
def innerColumn (s : Scanner) : Nat := (s.columns.head?.map (· + 1)).getD 0

/-- A token added. -/
def push (s : Scanner) (token : Token) : Scanner := { s with tokens := s.tokens.push token }

/-- A token of some characters added. -/
def take (s : Scanner) (token : Token) (length : Nat) : Scanner :=
  { s.push token with cursor := s.cursor.skip length }

/-- A token put in at a position. -/
def insert (s : Scanner) (position : Nat) (token : Token) : Scanner :=
  { s with
    tokens := (s.tokens.extract 0 position).push token ++
      s.tokens.extract position s.tokens.size }

/-- Whether a key that may have begun cannot be continued on this line or at this length. -/
def isStale (s : Scanner) (key : PossibleKey) : Bool :=
  key.start.line < s.cursor.line || key.start.index + 1024 < s.cursor.index

/-- A possible key, unless it is stale; a required one must not be. -/
def refreshKey (s : Scanner) : Option PossibleKey → Option (Option PossibleKey)
  | none => some none
  | some key =>
    if s.isStale key then if key.isRequired then none else some none else some (some key)

/-- No stale key. -/
def refreshKeys (s : Scanner) : Option Scanner := do
  let key ← s.refreshKey s.key
  let outerKeys ← s.outerKeys.mapM s.refreshKey
  return { s with key, outerKeys }

/-- No key has begun; a required one must not have. -/
def dropKey (s : Scanner) : Option Scanner :=
  if s.key.any (·.isRequired) then none else some { s with key := none }

/-- A key may begin here, if one is allowed. -/
def saveKey (s : Scanner) : Option Scanner :=
  if s.keyAllowed then
    s.dropKey.map fun s =>
      let isRequired := !s.inFlow && s.columns.head? = some s.cursor.column
      { s with key := some ⟨s.tokens.size, isRequired, s.cursor⟩ }
  else some s

/-- The indented collections closed that are not left of a column; all of them without one. -/
def closeTo (s : Scanner) (column : Option Nat) : Scanner :=
  if s.inFlow then s
  else
    let closed (n : Nat) : Bool := column.all (· < n)
    let count := (s.columns.takeWhile closed).length
    { s with
      columns := s.columns.drop count
      tokens := s.tokens ++ Array.replicate count Token.blockEnd }

/-- An indented collection opened at a column, if it is to the right of those around it. Its token
stands before those from a position on. -/
def openAt (s : Scanner) (column position : Nat) (token : Token) : Scanner :=
  if !s.inFlow && s.columns.head?.all (· < column) then
    { s.insert position token with columns := column :: s.columns }
  else s

/-- The same at the place itself. -/
def openHere (s : Scanner) (token : Token) : Scanner :=
  s.openAt s.cursor.column s.tokens.size token

/-- The place of the next token. Tabs are skipped only where no key may begin; a new line allows
one. A line may begin with a byte order mark. -/
def skipBlanks : (fuel : Nat) → Scanner → Scanner
  | 0, s => s
  | fuel + 1, s =>
    let tabs := s.inFlow || !s.keyAllowed
    let c := s.cursor.skipMark.skipWhile fun ch => ch = ' ' || tabs && ch = '\t'
    let c := c.skipComment
    if c.rest.head?.any isBreak then
      skipBlanks fuel
        { s with cursor := c.skipBreak, keyAllowed := s.keyAllowed || !s.inFlow }
    else { s with cursor := c }

/-- A directive. -/
def scanDirective (s : Scanner) : Option Scanner := do
  let s ← (s.closeTo none).dropKey
  let (token, cursor) ← directive s.cursor
  return { s.push token with cursor, keyAllowed := false }

/-- The mark before or after a document. -/
def scanMark (s : Scanner) (token : Token) : Option Scanner := do
  let s ← (s.closeTo none).dropKey
  return { s.take token 3 with keyAllowed := false }

/-- An opening bracket or brace. -/
def scanOpen (s : Scanner) (token : Token) : Option Scanner := do
  let s ← s.saveKey
  return { s.take token 1 with
    key := none, outerKeys := s.key :: s.outerKeys, keyAllowed := true }

/-- A closing bracket or brace. -/
def scanClose (s : Scanner) (token : Token) : Option Scanner := do
  let s ← s.dropKey
  let s := { s.take token 1 with keyAllowed := false }
  match s.outerKeys with
  | [] => return s
  | key :: outerKeys => return { s with key, outerKeys }

/-- A comma. -/
def scanComma (s : Scanner) : Option Scanner := do
  let s ← s.dropKey
  return { s.take .comma 1 with keyAllowed := true }

/-- The mark of an item. -/
def scanItem (s : Scanner) : Option Scanner := do
  if !s.inFlow && !s.keyAllowed then none
  let s ← (s.openHere .listStart).dropKey
  return { s.take .item 1 with keyAllowed := true }

/-- The mark of a key. -/
def scanKey (s : Scanner) : Option Scanner := do
  if !s.inFlow && !s.keyAllowed then none
  let s ← (s.openHere .recordStart).dropKey
  return { s.take .key 1 with keyAllowed := !s.inFlow }

/-- The mark of a value. What may have begun as a key is one. -/
def scanValue (s : Scanner) : Option Scanner :=
  match s.key with
  | some key =>
    let s := s.insert key.position .key
    let s := s.openAt key.start.column key.position .recordStart
    some { s.take .value 1 with key := none, keyAllowed := false }
  | none =>
    if !s.inFlow && !s.keyAllowed then none
    else
      let s := s.openHere .recordStart
      some { s.take .value 1 with keyAllowed := !s.inFlow }

/-- An alias or an anchor. -/
def scanAnchor (s : Scanner) (token : String → Token) : Option Scanner := do
  let s ← s.saveKey
  let (name, cursor) ← anchorName (s.cursor.skip 1)
  return { s.push (token name) with cursor, keyAllowed := false }

/-- A tag. -/
def scanTag (s : Scanner) : Option Scanner := do
  let s ← s.saveKey
  let (token, cursor) ← tagToken s.inFlow s.cursor
  return { s.push token with cursor, keyAllowed := false }

/-- A scalar in a block of lines. -/
def scanBlockScalar (s : Scanner) (style : Style) : Option Scanner := do
  let s ← s.dropKey
  let (text, cursor) ← blockScalar (style = .folded) s.innerColumn s.cursor
  return { s.push (.scalar (.ofList text) style) with cursor, keyAllowed := true }

/-- A scalar in quotes. -/
def scanQuoted (s : Scanner) (quote : Char) : Option Scanner := do
  let s ← s.saveKey
  let (text, cursor) ← quotedScalar quote s.cursor
  return { s.push (.scalar (.ofList text) .quoted) with cursor, keyAllowed := false }

/-- A plain scalar. -/
def scanPlain (s : Scanner) : Option Scanner := do
  let s ← s.saveKey
  let (text, cursor, later) ← plainScalar s.inFlow s.innerColumn s.cursor
  return { s.push (.scalar (.ofList text) .plain) with cursor, keyAllowed := later }

/-- Whether a plain scalar may begin with a character that is followed by a text. -/
def startsPlain (inFlow : Bool) (c : Char) (rest : List Char) : Bool :=
  !(isSpace c || isBreak c || "-?:,[]\x7b\x7d#&*!|>'\"%@`".toList.contains c) ||
    c = '-' && !rest.head?.any isSpace || !inFlow && (c = '?' || c = ':') && !atEdge rest

/-- The token that begins at a place. -/
def scanToken (s : Scanner) : Option Scanner :=
  match s.cursor.rest with
  | [] => some s
  | c :: rest =>
    if s.cursor.column = 0 && c = '%' then s.scanDirective
    else if s.cursor.atMark '-' then s.scanMark .documentStart
    else if s.cursor.atMark '.' then s.scanMark .documentEnd
    else if c = '[' then s.scanOpen .openList
    else if c = '\x7b' then s.scanOpen .openRecord
    else if c = ']' then s.scanClose .closeList
    else if c = '\x7d' then s.scanClose .closeRecord
    else if c = ',' then s.scanComma
    else if c = '-' && atEdge rest then s.scanItem
    else if c = '?' && (s.inFlow || atEdge rest) then s.scanKey
    else if c = ':' && (s.inFlow || atEdge rest) then s.scanValue
    else if c = '*' then s.scanAnchor .alias
    else if c = '&' then s.scanAnchor .anchor
    else if c = '!' then s.scanTag
    else if c = '|' && !s.inFlow then s.scanBlockScalar .literal
    else if c = '>' && !s.inFlow then s.scanBlockScalar .folded
    else if c = '\'' || c = '"' then s.scanQuoted c
    else if startsPlain s.inFlow c rest then s.scanPlain
    else none

/-- All tokens from a place on. -/
def scanAll : (fuel : Nat) → Scanner → Option (List Token)
  | 0, _ => none
  | fuel + 1, s => do
    let s := s.skipBlanks (s.cursor.rest.length + 1)
    let s ← s.refreshKeys
    if s.cursor.rest.isEmpty then
      let s ← (s.closeTo none).dropKey
      return s.tokens.toList
    else scanAll fuel (← (s.closeTo (some s.cursor.column)).scanToken)

end Scanner

/-- The tokens of a source, which may begin with a byte order mark. -/
def tokens? (source : List Char) : Option (List Token) :=
  let source := if startsWith '\ufeff' source then source.drop 1 else source
  if source.all isAllowed then Scanner.scanAll (source.length + 1) { cursor := { rest := source } }
  else none

end Gleaner.Yaml
