import Gleaner.Pattern.Bracket
import Gleaner.Pattern.Program

/-!
# The notation of patterns

`Regex.compile?` reads a pattern from its usual notation: alternatives, groups with numbers, names
or flags, sets of characters with their algebra, repetitions, assertions and escapes. A text that
breaks the notation is no pattern, nor is one whose parts are nested too deeply or whose program is
too large. Look-around and back-references are not part of the notation.
-/

namespace Gleaner

/-- A compiled pattern with the numbers of its named groups. -/
structure Regex where
  /-- The pattern. -/
  pattern : Pattern
  /-- The names of groups with their numbers. -/
  names : List (String × Nat)

namespace Regex

open Unicode (CodeRanges)

/-- What the reader has met: how many numbered groups, and the names of groups. -/
structure Seen where
  /-- How many groups there are. -/
  groups : Nat := 0
  /-- The names of groups with their numbers. -/
  names : List (String × Nat) := []

/-- How deeply the parts of a pattern may be nested. -/
def nestLimit : Nat := 250

/-- A part of a pattern and how deeply its own parts are nested. -/
structure Part where
  /-- The pattern. -/
  pattern : Pattern
  /-- The depth. -/
  depth : Nat

/-- The depth of parts of some depths together; two or more of them make one level. -/
def depthOf (depths : List Nat) : Nat :=
  let deepest := depths.foldl Nat.max 0
  if depths.length ≤ 1 then deepest else deepest + 1

/-- The pattern of an element. -/
def Element.pattern? (flags : Flags) : Element → Option Pattern
  | .char c isByte =>
    if isByte && !flags.unicode && 128 ≤ c.toNat then none
    else some (.set (foldSet flags (.ofChar c)))
  | .set s => some (.set s)
  | .assertion a => some (.assertion a)

/-- The pattern of the dot. -/
def dot? (flags : Flags) : Option Pattern :=
  if !flags.unicode then none
  else if flags.dotAll then some (.set .all)
  else if flags.crlf then some (.set (CodeRanges.ofChars ['\n', '\r']).complement)
  else some (.set (CodeRanges.ofChar '\n').complement)

/-- The assertion of a line beginning. -/
def caret (flags : Flags) : Assertion :=
  if flags.multiLine then (if flags.crlf then .lineStartCrlf else .lineStart) else .textStart

/-- The assertion of a line end. -/
def dollar (flags : Flags) : Assertion :=
  if flags.multiLine then (if flags.crlf then .lineEndCrlf else .lineEnd) else .textEnd

/-- Flags with one of them set or cleared. -/
def Flags.put? (flags : Flags) (letter : Char) (on : Bool) : Option Flags :=
  match letter with
  | 'i' => some { flags with ignoreCase := on }
  | 'm' => some { flags with multiLine := on }
  | 's' => some { flags with dotAll := on }
  | 'U' => some { flags with swapGreed := on }
  | 'u' => some { flags with unicode := on }
  | 'R' => some { flags with crlf := on }
  | 'x' => some { flags with extended := on }
  | _ => none

/-- The flags of a group after its question mark, up to the colon or parenthesis that ends them:
the flags, whether there were any, and the rest from that character on. -/
def readFlags (flags : Flags) (on : Bool) (used : List Char) :
    List Char → Option (Flags × Bool × List Char)
  | [] => none
  | c :: rest =>
    if c = ':' || c = ')' then
      if used.head? = some '-' then none else some (flags, !used.isEmpty, c :: rest)
    else if used.contains c then none
    else if c = '-' then readFlags flags false (c :: used) rest
    else
      match flags.put? c on with
      | some flags => readFlags flags on (c :: used) rest
      | none => none

/-- Whether a character can be in the name of a group. -/
def isNameChar (first : Bool) (c : Char) : Bool :=
  let letter := c = '_' || Unicode.Later.alphabetic.contains c
  if first then letter
  else letter || c = '.' || c = '[' || c = ']' || Unicode.Later.numbers.contains c

/-- The name of a group, up to the angle bracket that ends it. -/
def readName (cs : List Char) : Option (List Char × List Char) :=
  let name := cs.takeWhile (· ≠ '>')
  match name, cs.dropWhile (· ≠ '>') with
  | c :: more, _ :: rest =>
    if isNameChar true c && more.all (isNameChar false) then some (name, rest) else none
  | _, _ => none

/-- The text after another at the start of it. -/
def after? (lead cs : List Char) : Option (List Char) :=
  if lead.isPrefixOf cs then some (cs.drop lead.length) else none

/-- How a group begins. -/
inductive GroupHead where
  /-- A group with a number. -/
  | numbered
  /-- A group with a number and a name. -/
  | named (name : String)
  /-- A group without a number, under flags of its own. -/
  | plain (flags : Flags)
  /-- No group, but flags for the rest of the one around it. -/
  | flags (flags : Flags)

/-- The beginning of a group, after its parenthesis. -/
def readGroupHead (flags : Flags) (cs : List Char) : Option (GroupHead × List Char) :=
  let cs := skip flags cs
  if ["?=", "?!", "?<=", "?<!"].any fun s => s.toList.isPrefixOf cs then none
  else
    match after? "?P<".toList cs <|> after? "?<".toList cs with
    | some rest => (readName rest).map fun (name, rest) => (.named (.ofList name), rest)
    | none =>
      match cs with
      | '?' :: rest =>
        match readFlags flags true [] rest with
        | some (inner, _, ':' :: rest) => some (.plain inner, rest)
        | some (inner, true, ')' :: rest) => some (.flags inner, rest)
        | _ => none
      | cs => some (.numbered, cs)

/-- Decimal digits up to another character, with what does not count skipped. -/
def readDigits (flags : Flags) : Nat → List Char → List Char × List Char
  | 0, cs => ([], cs)
  | fuel + 1, cs =>
    match cs with
    | [] => ([], [])
    | c :: rest =>
      if isDigit c then
        let (more, rest) := readDigits flags fuel (skip flags rest)
        (c :: more, rest)
      else ([], cs)

/-- A decimal number with blanks around it; no number where there are no digits. -/
def readCount (flags : Flags) (cs : List Char) : Option (Option Nat × List Char) :=
  let cs := cs.dropWhile isBlank
  let (ds, rest) := readDigits flags (cs.length + 1) cs
  let rest := skip flags (rest.dropWhile isBlank)
  match readNat? ds with
  | some n => if n < Nat.pow 2 32 then some (some n, rest) else none
  | none => some (none, rest)

/-- The bounds of a counted repetition, after its brace. -/
def readBounds (flags : Flags) (cs : List Char) : Option (Nat × Option Nat × List Char) := do
  let (least?, rest) ← readCount flags (skip flags cs)
  match rest with
  | '\x7d' :: rest => some (← least?, least?, rest)
  | ',' :: rest =>
    match skip flags rest with
    | '\x7d' :: rest => some (← least?, none, rest)
    | rest =>
      let least ← least?
      let (most?, rest) ← readCount flags rest
      let most ← most?
      match rest with
      | '\x7d' :: rest => if least ≤ most then some (least, some most, rest) else none
      | _ => none
  | _ => none

/-- Whether a lazy mark follows, and the rest after it. -/
def readLazy : List Char → Bool × List Char
  | '?' :: rest => (true, rest)
  | cs => (false, cs)

/-- What has been read of the alternatives of a group. Flags among the items are no part of the
pattern and cannot be repeated, but they count where parts are counted. -/
structure Open where
  /-- The alternatives that are complete, the last one first. -/
  branches : List Part := []
  /-- The items of the alternative at hand, the last one first. -/
  items : List (Option Part) := []

namespace Open

/-- The alternatives with one more item. -/
def push (o : Open) (p : Pattern) (depth : Nat) : Open :=
  { o with items := some ⟨p, depth⟩ :: o.items }

/-- The alternatives with flags among their items. -/
def pushFlags (o : Open) : Open := { o with items := none :: o.items }

/-- The alternatives with the last item repeated; an operator needs an item before it. -/
def repeatLast? (o : Open) (least : Nat) (most : Option Nat) (greedy : Bool) : Option Open :=
  match o.items with
  | some part :: items =>
    some ⟨o.branches, some ⟨.repetition part.pattern least most greedy, part.depth + 1⟩ :: items⟩
  | _ => none

/-- The alternatives with the one at hand complete. -/
def close (o : Open) : Open :=
  let parts := o.items.reverse
  let depth := depthOf (parts.map fun part => (part.map Part.depth).getD 0)
  let p := Pattern.seqAll ((parts.filterMap id).map Part.pattern)
  ⟨⟨p, depth⟩ :: o.branches, []⟩

/-- The alternatives as one part. -/
def part (o : Open) : Part :=
  let branches := o.close.branches.reverse
  ⟨Pattern.altAll (branches.map fun branch => branch.pattern.setApart),
    depthOf (branches.map Part.depth)⟩

end Open

/-- Alternatives up to the end of the text or of the group. Groups are read up to a number of
levels. -/
def read : Nat → Nat → Flags → Seen → Open → List Char → Option (Part × Seen × List Char)
  | 0, _, _, _, _, _ => none
  | fuel + 1, levels, flags, seen, o, cs =>
    let operator (least : Nat) (most : Option Nat) (rest : List Char) := do
      let (isLazy, rest) := readLazy rest
      let o ← o.repeatLast? least most (isLazy == flags.swapGreed)
      read fuel levels flags seen o rest
    match skip flags cs with
    | [] => some (o.part, seen, [])
    | ')' :: rest => some (o.part, seen, ')' :: rest)
    | '|' :: rest => read fuel levels flags seen o.close rest
    | '*' :: rest => operator 0 none rest
    | '+' :: rest => operator 1 none rest
    | '?' :: rest => operator 0 (some 1) rest
    | '\x7b' :: rest => do
      let (least, most, rest) ← readBounds flags rest
      operator least most (skip flags rest)
    | '(' :: rest => do
      let (head, rest) ← readGroupHead flags rest
      match head, levels with
      | .flags flags, levels => read fuel levels flags seen o.pushFlags rest
      | _, 0 => none
      | .plain inner, levels + 1 =>
        let (part, seen, rest) ← read fuel levels inner seen {} rest
        let rest ← after? [')'] rest
        read fuel (levels + 1) flags seen (o.push part.pattern (part.depth + 1)) rest
      | .numbered, levels + 1 =>
        let index := seen.groups + 1
        let (part, seen, rest) ← read fuel levels flags { seen with groups := index } {} rest
        let rest ← after? [')'] rest
        read fuel (levels + 1) flags seen (o.push (.group index part.pattern) (part.depth + 1)) rest
      | .named name, levels + 1 =>
        if (seen.names.lookup name).isSome then none
        else
          let index := seen.groups + 1
          let (part, seen, rest) ←
            read fuel levels flags ⟨index, (name, index) :: seen.names⟩ {} rest
          let rest ← after? [')'] rest
          read fuel (levels + 1) flags seen (o.push (.group index part.pattern) (part.depth + 1)) rest
    | '[' :: rest => do
      let (s, rest) ← readSet flags nestLimit rest
      read fuel levels flags seen (o.push (.set s.chars) s.depth) rest
    | '.' :: rest => do
      let p ← dot? flags
      read fuel levels flags seen (o.push p 0) rest
    | '^' :: rest => read fuel levels flags seen (o.push (.assertion (caret flags)) 0) rest
    | '$' :: rest => read fuel levels flags seen (o.push (.assertion (dollar flags)) 0) rest
    | '\\' :: rest => do
      let (element, rest) ← readEscape flags rest
      let p ← element.pattern? flags
      read fuel levels flags seen (o.push p 0) rest
    | c :: rest => do
      let p ← (Element.char c false).pattern? flags
      read fuel levels flags seen (o.push p 0) rest

/-- The pattern that a text denotes under flags. -/
def compileWith? (flags : Flags) (source : List Char) : Option Regex :=
  match read (2 * source.length + 2) nestLimit flags {} {} source with
  | some (part, seen, []) =>
    if part.depth ≤ nestLimit && part.pattern.fits then some ⟨part.pattern, seen.names⟩ else none
  | _ => none

/-- The pattern that a text denotes. -/
def compile? (source : List Char) : Option Regex := compileWith? {} source

end Regex
end Gleaner
