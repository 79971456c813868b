import Gleaner.Calendar.Instant
import Gleaner.Text.Blank

/-!
# Fields of written dates

Readers of the fields that dates in standard formats are made of. Each gives the field and the
rest of the text, and nothing where the text does not begin with such a field.
-/

namespace Gleaner.Calendar.Scan

/-- A number of at least and at most so many ASCII digits. -/
def number (least most : Nat) (cs : List Char) : Option (Nat × List Char) :=
  let ds := (cs.take most).takeWhile isDigit
  if ds.length < least then none else some (ofDigits ds, cs.drop ds.length)

/-- A number that lies in a range. -/
def numberIn (least most low high : Nat) (cs : List Char) : Option (Nat × List Char) :=
  (number least most cs).filter fun (n, _) => low ≤ n && n ≤ high

/-- One character. -/
def char (c : Char) : List Char → Option (List Char)
  | d :: rest => if d = c then some rest else none
  | [] => none

/-- At least one blank. -/
def space (cs : List Char) : Option (List Char) :=
  let rest := trimStart cs
  if rest.length < cs.length then some rest else none

/-- An ASCII letter in lower case. -/
def lower (c : Char) : Char :=
  if 'A' ≤ c && c ≤ 'Z' then Char.ofNat (c.toNat + 32) else c

/-- A word of a list, in any case, as its place in the list. -/
def wordOf (words : List String) (cs : List Char) : Option (Nat × List Char) :=
  (words.zipIdx).findSome? fun (word, i) =>
    if (cs.take word.length).map lower = word.toList then some (i, cs.drop word.length) else none

/-- Two digits after each other, the first of them at most so much. -/
def twoDigits (firstMost : Char) : List Char → Option (Nat × List Char)
  | a :: b :: rest =>
    if isDigit a && a ≤ firstMost && isDigit b then some (ofDigits [a, b], rest) else none
  | _ => none

/-- The sign of an offset. -/
def sign (minusSign : Bool) : List Char → Option (Bool × List Char)
  | c :: rest =>
    if c = '+' then some (false, rest)
    else if c = '-' then some (true, rest)
    else if minusSign && c = '−' then some (true, rest)
    else none
  | [] => none

/-- An offset of hours and minutes in seconds; a colon between them is needed or not allowed. -/
def offset (colon minusSign : Bool) (cs : List Char) : Option (Int × List Char) := do
  let (negative, cs) ← sign minusSign cs
  let (hours, cs) ← twoDigits '9' cs
  let cs ← if colon then char ':' cs else some cs
  let (minutes, cs) ← twoDigits '5' cs
  let seconds : Int := hours * 3600 + minutes * 60
  some (if negative then -seconds else seconds, cs)

/-- A second and nanoseconds, second 60 being the leap second after second 59. -/
def leapSecond (second nanos : Nat) : Nat × Nat :=
  if second = 60 then (59, nanos + 1000000000) else (second, nanos)

/-- The instant of date and time fields ahead of universal time by an offset. -/
def instant (date : Date) (hour minute second nanos : Nat) (offset : Int) : Option Instant := do
  let (second, nanos) := leapSecond second nanos
  let time ← Instant.secondOfDay? hour minute second
  Instant.ofLocal? date time nanos offset

end Gleaner.Calendar.Scan
