import Gleaner.Pattern.Escape

/-!
# Sets in brackets

The notation of sets: characters, ranges, escapes, classes of ASCII and sets inside of sets, joined
by union and by the operations of the algebra of sets. Each set comes with how deeply its parts are
nested.
-/

namespace Gleaner.Regex

open Unicode (CodeRanges)

/-- An operation between two sets. -/
inductive SetOperation where
  /-- What both sets have. -/
  | intersection
  /-- What only the first one has. -/
  | difference
  /-- What only one of them has. -/
  | symmetricDifference

/-- The result of an operation between two sets. -/
def SetOperation.apply (flags : Flags) (op : SetOperation) (s t : CodeRanges) : CodeRanges :=
  let s := foldSet flags s
  let t := foldSet flags t
  match op with
  | .intersection => s.inter t
  | .difference => s.diff t
  | .symmetricDifference => s.symmetricDiff t

/-- A set and how deeply its parts are nested. -/
structure Nested where
  /-- The set. -/
  chars : CodeRanges
  /-- The depth. -/
  depth : Nat

/-- Items that stand side by side in a set. -/
structure Items where
  /-- Their union. -/
  chars : CodeRanges := .empty
  /-- How many there are. -/
  count : Nat := 0
  /-- The depth of the deepest one. -/
  deepest : Nat := 0

namespace Items

/-- Items and one more. -/
def push (items : Items) (s : Nested) : Items :=
  ⟨items.chars.union s.chars, items.count + 1, Nat.max items.deepest s.depth⟩

/-- Items and one character more. -/
def pushChar (items : Items) (c : Char) : Items := items.push ⟨.ofChar c, 0⟩

/-- The items as one set; where there is more than one, they make one level. -/
def close (items : Items) : Nested :=
  ⟨items.chars, if items.count ≤ 1 then items.deepest else items.deepest + 1⟩

end Items

/-- A set that is being read: an operation that still waits for its second set, and the items
since then. -/
structure OpenSet where
  /-- The operation with its first set. -/
  pending : Option (SetOperation × Nested) := none
  /-- The items since then. -/
  items : Items := {}

namespace OpenSet

/-- The set read so far. -/
def close (flags : Flags) (s : OpenSet) : Nested :=
  let last := s.items.close
  match s.pending with
  | some (op, first) =>
    ⟨op.apply flags first.chars last.chars, Nat.max first.depth last.depth + 1⟩
  | none => last

/-- The set after an operation has been met. -/
def operate (flags : Flags) (s : OpenSet) (op : SetOperation) : OpenSet :=
  ⟨some (op, s.close flags), {}⟩

/-- The set with one more item. -/
def push (s : OpenSet) (item : Nested) : OpenSet := { s with items := s.items.push item }

end OpenSet

/-- An item of a set: one character or an escape. -/
def readSetItem (flags : Flags) (cs : List Char) : Option (Element × List Char) :=
  match cs with
  | [] => none
  | '\\' :: rest => readEscape flags rest
  | c :: rest => some (.char c false, rest)

/-- The character of an item that has to be one. Outside of Unicode only ASCII is allowed. -/
def Element.char? (flags : Flags) : Element → Option Char
  | .char c _ => if flags.unicode || c.toNat < 128 then some c else none
  | _ => none

/-- The set of an item that stands alone. -/
def Element.chars? (flags : Flags) : Element → Option CodeRanges
  | .set s => some s
  | element => (element.char? flags).map .ofChar

/-- The character after a dash that tells whether the dash makes a range. Blanks do not count as far
as the flags say so; in a comment it is the first one of the comment that is not blank. -/
def decisive? (flags : Flags) (cs : List Char) : Option Char :=
  if !flags.extended then cs.head?
  else
    match cs.dropWhile isBlank with
    | '#' :: comment => (comment.dropWhile isBlank).head?
    | cs => cs.head?

/-- A character, a range or an escape inside of a set. -/
def readSetRange (flags : Flags) (cs : List Char) : Option (CodeRanges × List Char) := do
  let (first, rest) ← readSetItem flags cs
  let rest := skip flags rest
  let single := (first.chars? flags).map (·, rest)
  match rest with
  | [] => none
  | '-' :: afterDash =>
    if [some ']', some '-'].contains (decisive? flags afterDash) then single
    else
      let (second, rest) ← readSetItem flags (skip flags afterDash)
      let low ← first.char? flags
      let high ← second.char? flags
      if low ≤ high then some (.within low high, rest) else none
  | _ => single

/-- A class of ASCII in brackets and colons, after its opening bracket. -/
def readAsciiClass? (cs : List Char) : Option (CodeRanges × Bool × List Char) :=
  match cs with
  | ':' :: rest =>
    let (negated, rest) :=
      match rest with
      | '^' :: rest => (true, rest)
      | rest => (false, rest)
    match cutAround? [':'] rest with
    | some (name, ']' :: rest) => (Pattern.asciiClass? name).map (·, negated, rest)
    | _ => none
  | _ => none

/-- The dashes at the start of a set stand for themselves. -/
def readDashes (flags : Flags) : Nat → Items → List Char → Items × List Char
  | 0, items, cs => (items, cs)
  | fuel + 1, items, cs =>
    match cs with
    | '-' :: rest => readDashes flags fuel (items.pushChar '-') (skip flags rest)
    | cs => (items, cs)

/-- The items that stand for themselves at the start of a set: dashes, or else a bracket. -/
def readLeading (flags : Flags) (cs : List Char) : Items × List Char :=
  match readDashes flags cs.length {} cs with
  | (⟨s, 0, d⟩, ']' :: rest) => ((⟨s, 0, d⟩ : Items).pushChar ']', skip flags rest)
  | (items, rest) => (items, rest)

/-- Whether a set is the complement of what its brackets hold, and the rest after the sign of it. -/
def readNegation (flags : Flags) (cs : List Char) : Bool × List Char :=
  match skip flags cs with
  | '^' :: rest => (true, skip flags rest)
  | rest => (false, rest)

/-- The operation at the start of a text. -/
def readOperation? (cs : List Char) : Option (SetOperation × List Char) :=
  match cs with
  | '&' :: '&' :: rest => some (.intersection, rest)
  | '-' :: '-' :: rest => some (.difference, rest)
  | '~' :: '~' :: rest => some (.symmetricDifference, rest)
  | _ => none

/-- What follows the start of a set up to the bracket that closes it. Sets inside of it are read up
to a number of levels. -/
def readSetRest (flags : Flags) : Nat → Nat → OpenSet → List Char → Option (Nested × List Char)
  | 0, _, _, _ => none
  | fuel + 1, levels, s, cs =>
    let cs := skip flags cs
    match readOperation? cs with
    | some (op, rest) => readSetRest flags fuel levels (s.operate flags op) rest
    | none =>
      match cs with
      | [] => none
      | ']' :: rest => some (s.close flags, rest)
      | '[' :: rest =>
        match readAsciiClass? rest, levels with
        | some (chars, negated, rest), levels =>
          if negated && !flags.unicode then none
          else readSetRest flags fuel levels (s.push ⟨closeSet flags negated chars, 0⟩) rest
        | none, 0 => none
        | none, levels + 1 => do
          let (negated, rest) := readNegation flags rest
          if negated && !flags.unicode then none
          let (leading, rest) := readLeading flags rest
          let (inner, rest) ← readSetRest flags fuel levels ⟨none, leading⟩ rest
          let inner := ⟨closeSet flags negated inner.chars, inner.depth + 1⟩
          readSetRest flags fuel (levels + 1) (s.push inner) rest
      | cs => do
        let (chars, rest) ← readSetRange flags cs
        readSetRest flags fuel levels (s.push ⟨chars, 0⟩) rest

/-- A set after its opening bracket. -/
def readSet (flags : Flags) (levels : Nat) (cs : List Char) : Option (Nested × List Char) := do
  let (negated, rest) := readNegation flags cs
  if negated && !flags.unicode then none
  let (leading, rest) := readLeading flags rest
  let (inner, rest) ← readSetRest flags (2 * rest.length + 2) levels ⟨none, leading⟩ rest
  some (⟨closeSet flags negated inner.chars, inner.depth + 1⟩, rest)

end Gleaner.Regex
