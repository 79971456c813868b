import Gleaner.Unicode.Classes

/-!
# Patterns and where they match

A pattern matches a stretch of a text. `Pattern.ends` lists the places where a match can end, the
preferred one first: an alternative before those to its right, a greedy repetition the longer one
first, a lazy one the shorter one first. Each place is listed once, so the list is never longer than
the text, and what follows goes on from all places of it together.

## Main statements

- `Indices.has_insert` : a set with one index more has that one and those from before.
-/

namespace Gleaner

open Unicode (CodeRanges)

/-- A place in a text. -/
structure Cursor where
  /-- The number of characters before the place. -/
  index : Nat
  /-- The character before the place. -/
  previous : Option Char
  /-- The characters after the place. -/
  rest : List Char
  deriving Repr, DecidableEq

namespace Cursor

/-- The beginning of a text. -/
def start (text : List Char) : Cursor := ⟨0, none, text⟩

/-- The next place, given the character in between and what follows it. -/
def next (at_ : Cursor) (c : Char) (rest : List Char) : Cursor := ⟨at_.index + 1, some c, rest⟩

/-- The text from one place to a later one. -/
def textTo (from_ later : Cursor) : List Char := from_.rest.take (later.index - from_.index)

/-- All places from a place to the end of the text. -/
def following (at_ : Cursor) : List Cursor :=
  go at_.index at_.previous at_.rest
where
  /-- The places before and after each of the characters. -/
  go (index : Nat) (previous : Option Char) : List Char → List Cursor
    | [] => [⟨index, previous, []⟩]
    | c :: cs => ⟨index, previous, c :: cs⟩ :: go (index + 1) (some c) cs

end Cursor

/-- Which characters count as those of words. -/
inductive WordKind where
  /-- Those of Unicode. -/
  | unicode
  /-- Those of ASCII. -/
  | ascii
  deriving DecidableEq, Repr

/-- Whether a character counts as one of a word. -/
def WordKind.isWord : WordKind → Char → Bool
  | .unicode => Unicode.isWord
  | .ascii => Unicode.isAsciiWord

/-- A condition on a place that uses up no text. -/
inductive Assertion where
  /-- The beginning of the text. -/
  | textStart
  /-- The end of the text. -/
  | textEnd
  /-- The beginning of a line; lines end with a line feed. -/
  | lineStart
  /-- The end of a line. -/
  | lineEnd
  /-- The beginning of a line; lines end with a line feed, a carriage return or both. -/
  | lineStartCrlf
  /-- The end of such a line. -/
  | lineEndCrlf
  /-- A place between a word character and another one. -/
  | wordBoundary (kind : WordKind)
  /-- Any other place. -/
  | notWordBoundary (kind : WordKind)
  /-- The beginning of a word. -/
  | wordStart (kind : WordKind)
  /-- The end of a word. -/
  | wordEnd (kind : WordKind)
  /-- A place that no word character precedes. -/
  | wordStartHalf (kind : WordKind)
  /-- A place that no word character follows. -/
  | wordEndHalf (kind : WordKind)
  deriving DecidableEq, Repr

/-- Whether a condition holds at a place. -/
def Assertion.holds (a : Assertion) (p : Cursor) : Bool :=
  let following := p.rest.head?
  let before (kind : WordKind) := p.previous.any kind.isWord
  let after (kind : WordKind) := following.any kind.isWord
  match a with
  | .textStart => p.previous.isNone
  | .textEnd => following.isNone
  | .lineStart => p.previous.isNone || p.previous == some '\n'
  | .lineEnd => following.isNone || following == some '\n'
  | .lineStartCrlf =>
    p.previous.isNone || p.previous == some '\n' ||
      (p.previous == some '\r' && following != some '\n')
  | .lineEndCrlf =>
    following.isNone || following == some '\r' ||
      (following == some '\n' && p.previous != some '\r')
  | .wordBoundary w => before w != after w
  | .notWordBoundary w => before w == after w
  | .wordStart w => !before w && after w
  | .wordEnd w => before w && !after w
  | .wordStartHalf w => !before w
  | .wordEndHalf w => !after w

/-- A pattern. -/
inductive Pattern where
  /-- The empty text. -/
  | empty
  /-- One character of a set. -/
  | set (chars : CodeRanges)
  /-- A condition on the place. -/
  | assertion (a : Assertion)
  /-- One pattern after another. -/
  | seq (p q : Pattern)
  /-- Either pattern, preferably the first. -/
  | alt (p q : Pattern)
  /-- A pattern repeated a number of times. -/
  | repetition (p : Pattern) (least : Nat) (most : Option Nat) (greedy : Bool)
  /-- A pattern whose text is remembered under a number. -/
  | group (index : Nat) (p : Pattern)
  deriving DecidableEq, Repr

/-- A stretch of text between two places. -/
structure Span where
  /-- Where the stretch begins. -/
  start : Cursor
  /-- Where it ends. -/
  stop : Cursor

/-- The text of a stretch. -/
def Span.text (s : Span) : List Char := s.start.textTo s.stop

namespace Pattern

/-- A place reached by a match, with what its groups have matched. -/
structure Reached where
  /-- The place. -/
  cursor : Cursor
  /-- Where the groups around the place begin, the innermost first. -/
  opened : List Cursor := []
  /-- The stretch of each group, the latest first. -/
  groups : List (Nat × Span) := []

namespace Reached

/-- The index of the place. -/
def index (r : Reached) : Nat := r.cursor.index

/-- The place as the beginning of a group. -/
def openGroup (r : Reached) : Reached := { r with opened := r.cursor :: r.opened }

/-- The place as the end of the innermost group. -/
def closeGroup (number : Nat) (r : Reached) : Reached :=
  match r.opened with
  | [] => r
  | start :: opened => { r with opened, groups := (number, ⟨start, r.cursor⟩) :: r.groups }

end Reached

/-- A set of indices, as the bits of a number. -/
abbrev Indices := Nat

namespace Indices

/-- The set with one index more. -/
def insert (s : Indices) (index : Nat) : Indices := s ||| 1 <<< index

/-- Whether an index is in the set. -/
def has (s : Indices) (index : Nat) : Bool := Nat.testBit s index

/-- An index is in a set with one index more just when it is that one or was there before. -/
theorem has_insert {s : Indices} {index other : Nat} :
    (s.insert index).has other = (s.has other || decide (index = other)) := by
  simp only [has, insert, Nat.testBit_or, Nat.one_shiftLeft, Nat.testBit_two_pow]

end Indices

/-- The places whose index is neither among those seen nor that of an earlier one. -/
def distinctFrom (seen : Indices) : List Reached → List Reached
  | [] => []
  | r :: rest =>
    if seen.has r.index then distinctFrom seen rest
    else r :: distinctFrom (seen.insert r.index) rest

/-- The first of the places that agree in their index. -/
def distinct : List Reached → List Reached
  | [r] => [r]
  | l => distinctFrom 0 l

/-- The places after a number of steps. -/
def times (step : List Reached → List Reached) : Nat → List Reached → List Reached
  | 0, rs => rs
  | _ + 1, [] => []
  | n + 1, rs => times step n (step rs)

/-- A place where a repetition goes on or stops. -/
inductive Visit where
  /-- A place from which it goes on. -/
  | continuing (r : Reached)
  /-- A place where it stops. -/
  | stopping (r : Reached)

namespace Visit

/-- The place. -/
def reached : Visit → Reached
  | .continuing r => r
  | .stopping r => r

/-- Whether the repetition goes on. -/
def continues : Visit → Bool
  | .continuing _ => true
  | .stopping _ => false

/-- What comes of a place where a repetition may stop after what it goes on to: going on is
preferred if it is greedy. -/
def around (greedy : Bool) (r : Reached) (further : List Visit) : List Visit :=
  if greedy then further ++ [.stopping r] else .stopping r :: further

/-- The first of the visits that agree in their index and in whether they go on. -/
def distinctFrom (going stopped : Indices) : List Visit → List Visit
  | [] => []
  | .continuing r :: rest =>
    if going.has r.index then distinctFrom going stopped rest
    else .continuing r :: distinctFrom (going.insert r.index) stopped rest
  | .stopping r :: rest =>
    if stopped.has r.index then distinctFrom going stopped rest
    else .stopping r :: distinctFrom going (stopped.insert r.index) rest

end Visit

/-- What comes of visits after at most a number of steps more. -/
def upTo (step : List Reached → List Reached) (greedy : Bool) : Nat → List Visit → List Visit
  | 0, visits => visits
  | n + 1, visits =>
    if visits.any Visit.continues then
      let next := visits.flatMap fun v =>
        match v with
        | .continuing r => Visit.around greedy r ((step [r]).map .continuing)
        | .stopping r => [.stopping r]
      upTo step greedy n (Visit.distinctFrom 0 0 next)
    else visits

/-- Where visits stop, after those places that are known already, the last one first. A step that
uses up no text leads nowhere new, nor does a place at which the repetition went on before. -/
def walk (step : List Reached → List Reached) (greedy : Bool) :
    Nat → Indices → List Reached → List Visit → List Reached
  | 0, _, stops, _ => stops.reverse
  | _ + 1, _, stops, [] => stops.reverse
  | fuel + 1, seen, stops, .stopping r :: rest => walk step greedy fuel seen (r :: stops) rest
  | fuel + 1, seen, stops, .continuing r :: rest =>
    if seen.has r.index then walk step greedy fuel seen stops rest
    else
      let steps := (step [r]).filter fun s => s.index != r.index
      walk step greedy fuel (seen.insert r.index) stops
        (Visit.around greedy r (steps.map .continuing) ++ rest)

/-- How many visits there can be in a walk over the rest of a text: one for each two places of it,
besides those that it begins with and their stops. -/
def walkBound (visits : List Visit) : Nat :=
  let places := (visits.map fun v => v.reached.cursor.rest.length + 2).foldl Nat.max 0
  places * (places + 1) + visits.length + 1

/-- What comes of a place after a first step. A step that uses up no text is the last one. -/
def firstVisits (step : List Reached → List Reached) (r : Reached) : List Visit :=
  (step [r]).map fun s => if s.index = r.index then .stopping s else .continuing s

/-- The places after at least one step. -/
def oneOrMore (step : List Reached → List Reached) (greedy : Bool) (rs : List Reached) :
    List Reached :=
  let visits := rs.flatMap (firstVisits step)
  distinct (walk step greedy (walkBound visits) 0 [] visits)

/-- The places after any number of steps. -/
def zeroOrMore (step : List Reached → List Reached) (greedy : Bool) (rs : List Reached) :
    List Reached :=
  let visits := rs.flatMap fun r => Visit.around greedy r (firstVisits step r)
  distinct (walk step greedy (walkBound visits) 0 [] visits)

/-- The places after a number of steps within bounds. -/
def repeated (step : List Reached → List Reached) (least : Nat) (most : Option Nat)
    (greedy : Bool) (rs : List Reached) : List Reached :=
  match most, least with
  | some most, least =>
    let visits := upTo step greedy (most - least) ((times step least rs).map .continuing)
    distinct (visits.map Visit.reached)
  | none, 0 => zeroOrMore step greedy rs
  | none, least + 1 => oneOrMore step greedy (times step least rs)

/-- The places after a run of members of a set and all before them, the farthest first. -/
def run (chars : CodeRanges) : Nat → Cursor → List Cursor → List Cursor
  | 0, at_, before => at_ :: before
  | n + 1, at_, before =>
    match at_.rest with
    | [] => at_ :: before
    | c :: cs =>
      if chars.contains c then run chars n (at_.next c cs) (at_ :: before) else at_ :: before

/-- The places after a number of members of a set within bounds. -/
def repeatedChar (chars : CodeRanges) (least : Nat) (most : Option Nat) (greedy : Bool)
    (r : Reached) : List Reached :=
  let places := run chars (most.getD r.cursor.rest.length) r.cursor []
  let places := places.take (places.length - least)
  (if greedy then places else places.reverse).map fun place => { r with cursor := place }

/-- The place after one member of a set. -/
def advance? (chars : CodeRanges) (r : Reached) : Option Reached :=
  match r.cursor.rest with
  | [] => none
  | c :: cs => if chars.contains c then some { r with cursor := r.cursor.next c cs } else none

/-- Whether a pattern can use up text. -/
def usesText : Pattern → Bool
  | .empty => false
  | .set _ => true
  | .assertion _ => false
  | .seq p q => p.usesText || q.usesText
  | .alt p q => p.usesText || q.usesText
  | .repetition p _ most _ => most != some 0 && p.usesText
  | .group _ p => p.usesText

/-- The places where a match that comes to some places can end, the preferred one first. What uses
up no text is not repeated more than once. -/
def ends : Pattern → List Reached → List Reached
  | .empty, rs => rs
  | .set chars, rs => rs.filterMap (advance? chars)
  | .assertion a, rs => rs.filter fun r => a.holds r.cursor
  | .seq p q, rs =>
    match p.ends rs with
    | [] => []
    | rs => q.ends rs
  | .alt p q, rs => distinct (rs.flatMap fun r => p.ends [r] ++ q.ends [r])
  | .repetition (.set chars) least most greedy, [r] => repeatedChar chars least most greedy r
  | .repetition p least most greedy, rs =>
    if p.usesText then repeated p.ends least most greedy rs
    else repeated p.ends (Nat.min least 1) (some (Nat.min (most.getD 1) 1)) greedy rs
  | .group number p, rs => (p.ends (rs.map Reached.openGroup)).map (Reached.closeGroup number)

/-- One pattern after another, for a list of patterns. -/
def seqAll : List Pattern → Pattern
  | [] => .empty
  | [p] => p
  | p :: rest => .seq p (seqAll rest)

/-- Either of several patterns, preferably the first. -/
def altAll : List Pattern → Pattern
  | [] => .set .empty
  | [p] => p
  | p :: rest => .alt p (altAll rest)

/-- A pattern that does not add alternatives to a list of alternatives that it ends. -/
def setApart : Pattern → Pattern
  | .alt p q => .seq (.alt p q) .empty
  | p => p

/-- The pattern that matches exactly one character. -/
def char (c : Char) : Pattern := .set (.ofChar c)

/-- The pattern that matches any of some characters. -/
def anyOf (cs : List Char) : Pattern := .set (.ofChars cs)

/-- The pattern that matches exactly one text. -/
def literal (text : List Char) : Pattern := seqAll (text.map char)

/-- A pattern any number of times, as often as possible. -/
def many (p : Pattern) : Pattern := .repetition p 0 none true

/-- A pattern at least once, as often as possible. -/
def some₁ (p : Pattern) : Pattern := .repetition p 1 none true

/-- A pattern once if possible. -/
def optional (p : Pattern) : Pattern := .repetition p 0 (some 1) true

/-- A pattern a fixed number of times. -/
def exactly (n : Nat) (p : Pattern) : Pattern := .repetition p n (some n) true

/-- A decimal digit of any script. -/
def digit : Pattern := .set Unicode.Category.decimalNumber

/-- A blank. -/
def blank : Pattern := .set Unicode.Property.whiteSpace

end Pattern

/-- A match: its stretch and those of its groups. -/
structure Match where
  /-- The whole stretch. -/
  span : Span
  /-- The stretch of each group, the latest first. -/
  groups : List (Nat × Span)

namespace Match

/-- The matched text. -/
def text (m : Match) : List Char := m.span.text

/-- The text of a group; group 0 is the whole match. -/
def group? (m : Match) (index : Nat) : Option (List Char) :=
  if index = 0 then some m.text else (m.groups.lookup index).map Span.text

/-- Whether the matched text is empty. -/
def isEmpty (m : Match) : Bool := m.span.start.index == m.span.stop.index

end Match

namespace Pattern

/-- The preferred match that begins at a place. -/
def matchAt? (p : Pattern) (at_ : Cursor) : Option Match :=
  (p.ends [{ cursor := at_ }]).head?.map fun r => ⟨⟨at_, r.cursor⟩, r.groups⟩

/-- The first match at or after a place. -/
def findFrom? (p : Pattern) (at_ : Cursor) : Option Match :=
  at_.following.findSome? p.matchAt?

/-- The first match in a text. -/
def find? (p : Pattern) (text : List Char) : Option Match := p.findFrom? (.start text)

/-- The matches from a place on that do not overlap. An empty match right after the match before
it is passed over. -/
def matchesFrom (p : Pattern) : Nat → Option Nat → Cursor → List Match
  | 0, _, _ => []
  | fuel + 1, lastStop, at_ =>
    match p.findFrom? at_ with
    | none => []
    | some m =>
      if m.isEmpty && lastStop == some m.span.stop.index then
        match at_.rest with
        | [] => []
        | c :: cs =>
          match p.findFrom? (at_.next c cs) with
          | none => []
          | some m => m :: matchesFrom p fuel (some m.span.stop.index) m.span.stop
      else m :: matchesFrom p fuel (some m.span.stop.index) m.span.stop

/-- The matches in a text that do not overlap, from left to right. -/
def findAll (p : Pattern) (text : List Char) : List Match :=
  p.matchesFrom (2 * text.length + 2) none (.start text)

/-- The pieces of a text between matches. -/
def pieces : Cursor → List Match → List (List Char)
  | at_, [] => [at_.rest]
  | at_, m :: rest => at_.textTo m.span.start :: pieces m.span.stop rest

/-- The pieces of a text between the matches of a pattern. -/
def split (p : Pattern) (text : List Char) : List (List Char) :=
  pieces (.start text) (p.findAll text)

end Pattern
end Gleaner
