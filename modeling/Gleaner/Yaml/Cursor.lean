/-!
# Places in YAML text

A cursor is what is left of a source with the line and the column at which it begins.
-/

namespace Gleaner.Yaml

/-- Whether a character is a blank inside of a line. -/
def isSpace (c : Char) : Bool := c = ' ' || c = '\t'

/-- Whether a character is a line break. -/
def isBreak (c : Char) : Bool :=
  c = '\n' || c = '\r' || c = '\u0085' || c = '\u2028' || c = '\u2029'

/-- Whether a text is empty or begins with a line break. -/
def atLineEnd (cs : List Char) : Bool := cs.head?.all isBreak

/-- Whether a text is empty or begins with a blank or a line break. -/
def atEdge (cs : List Char) : Bool := cs.head?.all fun c => isSpace c || isBreak c

/-- Whether a text begins with a character. -/
def startsWith (c : Char) (cs : List Char) : Bool := cs.head? = some c

/-- Whether a character may stand in a source at all. -/
def isAllowed (c : Char) : Bool :=
  let n := c.toNat
  n = 0x09 || n = 0x0A || n = 0x0D || (0x20 ≤ n && n ≤ 0x7E) || n = 0x85 ||
    (0xA0 ≤ n && n ≤ 0xD7FF) || (0xE000 ≤ n && n ≤ 0xFFFD) || 0x10000 ≤ n

/-- A place in a source. -/
structure Cursor where
  /-- What is left of the source. -/
  rest : List Char
  /-- The number of characters before the place. -/
  index : Nat := 0
  /-- The number of line breaks before the place. -/
  line : Nat := 0
  /-- The number of characters before the place in its line. -/
  column : Nat := 0

namespace Cursor

/-- The place a number of characters later on the same line. -/
def skip (c : Cursor) (n : Nat) : Cursor :=
  { c with rest := c.rest.drop n, index := c.index + n, column := c.column + n }

/-- The place after the characters of a kind on the same line. -/
def skipWhile (c : Cursor) (p : Char → Bool) : Cursor := c.skip (c.rest.takeWhile p).length

/-- The place after the line break that stands at a place. -/
def skipBreak (c : Cursor) : Cursor :=
  match c.rest with
  | [] => c
  | '\r' :: '\n' :: rest => ⟨rest, c.index + 2, c.line + 1, 0⟩
  | _ :: rest => ⟨rest, c.index + 1, c.line + 1, 0⟩

/-- The place after a byte order mark that begins a line at a place, if one does. -/
def skipMark (c : Cursor) : Cursor :=
  if c.column = 0 && startsWith '\ufeff' c.rest then c.skip 1 else c

/-- The place after a comment that begins at a place, if one does. -/
def skipComment (c : Cursor) : Cursor :=
  if startsWith '#' c.rest then c.skipWhile (!isBreak ·) else c

/-- The text that the line break at a place stands for. -/
def breakText (c : Cursor) : List Char :=
  match c.rest with
  | [] => []
  | b :: _ => if b = '\u2028' || b = '\u2029' then [b] else ['\n']

/-- Whether a mark of three equal characters stands alone at the start of a line. -/
def atMark (c : Cursor) (mark : Char) : Bool :=
  c.column = 0 && c.rest.take 3 = [mark, mark, mark] && atEdge (c.rest.drop 3)

/-- Whether a document begins or ends here. -/
def atDocumentMark (c : Cursor) : Bool := c.atMark '-' || c.atMark '.'

end Cursor

/-- Blanks and line breaks between words. -/
structure Gap where
  /-- The blanks before the first line break. -/
  blanks : List Char := []
  /-- The line breaks. -/
  breaks : List (List Char) := []

namespace Gap

/-- A gap with a blank at its end. Blanks at the start of a line do not count. -/
def blank (g : Gap) (c : Char) : Gap :=
  if g.breaks.isEmpty then { g with blanks := g.blanks ++ [c] } else g

/-- A gap with a line break at its end. -/
def lineBreak (g : Gap) (text : List Char) : Gap := { g with breaks := g.breaks ++ [text] }

/-- The text that a gap is folded to: a single line break is a blank, the first of several is
left out. -/
def text (g : Gap) : List Char :=
  match g.breaks with
  | [] => g.blanks
  | first :: more =>
    if first = ['\n'] then if more.isEmpty then [' '] else more.flatten
    else first ++ more.flatten

/-- The gap at a place, continuing a gap before it, and the place after it. A tab left of a column
at the start of a line is malformed. -/
def read (column : Nat) : (fuel : Nat) → Gap → Cursor → Option (Gap × Cursor)
  | 0, g, c => some (g, c)
  | fuel + 1, g, c =>
    match c.rest with
    | [] => some (g, c)
    | ch :: _ =>
      if isSpace ch then
        if ch = '\t' && !g.breaks.isEmpty && c.column < column then none
        else read column fuel (g.blank ch) (c.skip 1)
      else if isBreak ch then read column fuel (g.lineBreak c.breakText) c.skipBreak
      else some (g, c)

end Gap
end Gleaner.Yaml
