import Gleaner.Json.Read
import Gleaner.Yaml.Cursor

/-!
# Scalars of YAML

Plain scalars, scalars in quotes, and scalars in blocks of lines.
-/

namespace Gleaner.Yaml

/-- How a scalar is written. -/
inductive Style where
  /-- Without quotes. -/
  | plain
  /-- In single or double quotes. -/
  | quoted
  /-- As a block of lines that keeps its breaks. -/
  | literal
  /-- As a block of lines whose single breaks are blanks. -/
  | folded
  deriving DecidableEq, Repr

/-- Whether a character delimits the parts of collections in brackets. -/
def isFlowMark (c : Char) : Bool := c = ',' || c = '[' || c = ']' || c = '\x7b' || c = '\x7d'

/-- The word of a plain scalar at the start of a text. A colon before a mark of a collection in
brackets is malformed there. -/
def plainWord (inFlow : Bool) : List Char → Option (List Char)
  | [] => some []
  | c :: rest =>
    if isSpace c || isBreak c then some []
    else if inFlow && c = ':' && rest.head?.any (fun d => isFlowMark d || d = '?') then none
    else if c = ':' && atEdge rest then some []
    else if inFlow && isFlowMark c then some []
    else (plainWord inFlow rest).map (c :: ·)

/-- The text of a plain scalar from a place on, after a gap. It comes with the place after it and
whether that is on a later line. A line that is indented less than a column ends it. -/
def plainWords (inFlow : Bool) (column : Nat) :
    (fuel : Nat) → Gap → Cursor → Option (List Char × Cursor × Bool)
  | 0, _, _ => none
  | fuel + 1, gap, c =>
    let finished := some ([], c, !gap.breaks.isEmpty)
    if c.atDocumentMark || startsWith '#' c.rest then finished
    else
      match plainWord inFlow c.rest with
      | none => none
      | some [] => finished
      | some word =>
        match Gap.read column c.rest.length {} (c.skip word.length) with
        | none => none
        | some (next, c) =>
          let text := gap.text ++ word
          if !inFlow && c.column < column then some (text, c, !next.breaks.isEmpty)
          else
            (plainWords inFlow column fuel next c).map fun (more, c, later) =>
              (text ++ more, c, later)

/-- The plain scalar at a place. -/
def plainScalar (inFlow : Bool) (column : Nat) (c : Cursor) :
    Option (List Char × Cursor × Bool) :=
  plainWords inFlow column (c.rest.length + 1) {} c

/-- The character that a number of hexadecimal digits at the start of a text stand for. -/
def codeEscape (width : Nat) (cs : List Char) : Option Char :=
  let digits := (cs.take width).filterMap Json.hexValue?
  let n := digits.foldl (fun acc d => 16 * acc + d) 0
  if digits.length < width || !n.isValidChar then none else some (.ofNat n)

/-- The character that an escape stands for, and its length after the backslash. -/
def escape : List Char → Option (Char × Nat)
  | [] => none
  | c :: rest =>
    match c with
    | '0' => some ('\x00', 1)
    | 'a' => some ('\x07', 1)
    | 'b' => some ('\x08', 1)
    | 't' | '\t' => some ('\t', 1)
    | 'n' => some ('\n', 1)
    | 'v' => some ('\x0b', 1)
    | 'f' => some ('\x0c', 1)
    | 'r' => some ('\r', 1)
    | 'e' => some ('\x1b', 1)
    | ' ' => some (' ', 1)
    | '"' => some ('"', 1)
    | '/' => some ('/', 1)
    | '\\' => some ('\\', 1)
    | 'N' => some ('\u0085', 1)
    | '_' => some ('\u00a0', 1)
    | 'L' => some ('\u2028', 1)
    | 'P' => some ('\u2029', 1)
    | 'x' => (codeEscape 2 rest).map (·, 3)
    | 'u' => (codeEscape 4 rest).map (·, 5)
    | 'U' => (codeEscape 8 rest).map (·, 9)
    | _ => none

/-- The word of a scalar in single quotes at the start of a text, and its length there. -/
def singleWord : List Char → List Char × Nat
  | '\'' :: '\'' :: rest =>
    let (word, n) := singleWord rest
    ('\'' :: word, n + 2)
  | c :: rest =>
    if c = '\'' || isSpace c || isBreak c then ([], 0)
    else
      let (word, n) := singleWord rest
      (c :: word, n + 1)
  | [] => ([], 0)

/-- The word of a scalar in double quotes at the start of a text, and its length there. A backslash
before a line break ends it. -/
def doubleWord : (fuel : Nat) → List Char → Option (List Char × Nat)
  | 0, _ => some ([], 0)
  | _, [] => some ([], 0)
  | fuel + 1, c :: rest =>
    if c = '"' || isSpace c || isBreak c then some ([], 0)
    else if c = '\\' then
      if rest.head?.any isBreak then some ([], 0)
      else
        match escape rest with
        | none => none
        | some (e, n) =>
          (doubleWord fuel (rest.drop n)).map fun (word, m) => (e :: word, m + n + 1)
    else (doubleWord fuel rest).map fun (word, m) => (c :: word, m + 1)

/-- The text of a scalar in quotes from a place on, and the place after it. -/
def quotedWords (quote : Char) : (fuel : Nat) → Cursor → Option (List Char × Cursor)
  | 0, _ => none
  | fuel + 1, c =>
    if c.atDocumentMark || c.rest.isEmpty then none
    else
      let word? :=
        if quote = '"' then doubleWord c.rest.length c.rest else some (singleWord c.rest)
      match word? with
      | none => none
      | some (word, n) =>
        let c := c.skip n
        let joined := quote = '"' && startsWith '\\' c.rest
        let c := if joined then (c.skip 1).skipBreak else c
        if startsWith quote c.rest then some (word, c.skip 1)
        else
          match Gap.read 0 c.rest.length { breaks := if joined then [[]] else [] } c with
          | none => none
          | some (gap, c) =>
            (quotedWords quote fuel c).map fun (more, c) => (word ++ gap.text ++ more, c)

/-- The scalar in quotes at a place. -/
def quotedScalar (quote : Char) (c : Cursor) : Option (List Char × Cursor) :=
  quotedWords quote (c.rest.length + 1) (c.skip 1)

/-- What becomes of the line breaks at the end of a block. -/
inductive Chomping where
  /-- All but the first are left out. -/
  | clip
  /-- All are left out. -/
  | strip
  /-- None is left out. -/
  | keep
  deriving DecidableEq, Repr

/-- The marks after the character that begins a block: the chomping and how far its lines are
indented, where they say so, and the place after them. -/
def blockMarks (c : Cursor) : Option (Chomping × Option Nat × Cursor) :=
  let chomping? (c : Cursor) : Option (Chomping × Cursor) :=
    if startsWith '+' c.rest then some (.keep, c.skip 1)
    else if startsWith '-' c.rest then some (.strip, c.skip 1)
    else none
  let indent? (c : Cursor) : Option (Option Nat × Cursor) :=
    match c.rest with
    | d :: _ =>
      if d = '0' then none
      else if isDigit d then some (some (digitValue d), c.skip 1)
      else some (none, c)
    | [] => some (none, c)
  match chomping? c with
  | some (chomping, c) => (indent? c).map fun (indent, c) => (chomping, indent, c)
  | none =>
    match indent? c with
    | none => none
    | some (none, c) => some (.clip, none, c)
    | some (indent, c) =>
      match chomping? c with
      | some (chomping, c) => some (chomping, indent, c)
      | none => some (.clip, indent, c)

/-- The empty lines at a place, the widest indentation of them, and the place of the first line
with content. Blanks up to a column are indentation, all of them where the column is not known. -/
def blankLines (column : Option Nat) :
    (fuel : Nat) → (widest : Nat) → Cursor → Option (List (List Char) × Nat × Cursor)
  | 0, widest, c => some ([], widest, c)
  | fuel + 1, widest, c =>
    let inside (n : Nat) : Bool := column.all fun k => n < k
    let blanks := (c.rest.takeWhile (· = ' ')).length
    let c :=
      match column with
      | none => c.skip blanks
      | some k => c.skip (min blanks (k - c.column))
    let widest := max widest c.column
    match c.rest with
    | [] => some ([], widest, c)
    | ch :: _ =>
      if ch = '\t' && inside c.column then none
      else if isBreak ch then
        (blankLines column fuel widest c.skipBreak).map fun (breaks, widest, next) =>
          (c.breakText :: breaks, widest, next)
      else some ([], widest, c)

/-- The lines of a block from a place on, and the place after them. `first` is the break before
the place, `empties` are the breaks of the empty lines that follow it, and `deeper` says that the
line before it begins with a blank. -/
def blockLines (folded : Bool) (chomping : Chomping) (column : Nat) :
    (fuel : Nat) → (first : List Char) → (empties : List (List Char)) → (deeper : Bool) →
      Cursor → Option (List Char × Cursor)
  | 0, _, _, _, _ => none
  | fuel + 1, first, empties, deeper, c =>
    if c.column = column && !c.rest.isEmpty then
      let blank := c.rest.head?.any isSpace
      let gap :=
        if folded && first = ['\n'] && !deeper && !blank then
          if empties.isEmpty then [' '] else empties.flatten
        else first ++ empties.flatten
      let line := c.rest.takeWhile (!isBreak ·)
      let c := c.skip line.length
      match blankLines (some column) (c.rest.length + 1) 0 c.skipBreak with
      | none => none
      | some (next, _, after) =>
        (blockLines folded chomping column fuel c.breakText next blank after).map
          fun (more, c) => (gap ++ line ++ more, c)
    else
      let tail :=
        match chomping with
        | .strip => []
        | .clip => first
        | .keep => first ++ empties.flatten
      some (tail, c)

/-- The scalar in a block of lines that begins at a place inside of a collection whose entries are
indented less than a column. -/
def blockScalar (folded : Bool) (column : Nat) (c : Cursor) : Option (List Char × Cursor) :=
  match blockMarks (c.skip 1) with
  | none => none
  | some (chomping, indent, c) =>
    let c := (c.skipWhile isSpace).skipComment
    if !atLineEnd c.rest then none
    else
      let c := c.skipBreak
      let fuel := c.rest.length + 1
      let known := indent.map fun n => column - 1 + n
      match blankLines known fuel 0 c with
      | none => none
      | some (empties, widest, c) =>
        let column := known.getD (max widest (max column 1))
        blockLines folded chomping column fuel [] empties false c

end Gleaner.Yaml
