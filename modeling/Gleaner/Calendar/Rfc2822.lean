import Gleaner.Calendar.Scan

/-!
# Dates of RFC 2822

`Thu, 2 Jan 2020 03:04:05 +0100`: a weekday that may be missing, a day, a month by name, a year, a
time with or without seconds, a zone by offset or name, and comments in parentheses.
-/

namespace Gleaner.Calendar.Rfc2822

open Scan

/-- The weekdays, Sunday first. -/
def weekdays : List String := ["sun", "mon", "tue", "wed", "thu", "fri", "sat"]

/-- The months. -/
def months : List String :=
  ["jan", "feb", "mar", "apr", "may", "jun", "jul", "aug", "sep", "oct", "nov", "dec"]

/-- Zones by name, with their hours. -/
def zoneNames : List (String × Int) :=
  [("gmt", 0), ("ut", 0), ("z", 0), ("edt", -4), ("est", -5), ("cdt", -5), ("cst", -6),
   ("mdt", -6), ("mst", -7), ("pdt", -7), ("pst", -8)]

/-- Whether a character is an ASCII letter. -/
def isLetter (c : Char) : Bool := ('a' ≤ c && c ≤ 'z') || ('A' ≤ c && c ≤ 'Z')

/-- A zone. A single letter other than `j` is a zone of unknown offset and counts as universal
time. -/
def zone (cs : List Char) : Option (Int × List Char) :=
  let name := (cs.takeWhile isLetter).map lower
  let rest := cs.dropWhile isLetter
  if name.isEmpty then offset false false cs
  else
    match zoneNames.lookup (String.ofList name) with
    | some hours => some (hours * 3600, rest)
    | none => if name.length = 1 && name ≠ ['j'] then some (0, rest) else none

/-- The year that a number of so many digits stands for. -/
def fullYear (length year : Nat) : Nat :=
  if length = 2 then (if year < 50 then year + 2000 else year + 1900)
  else if length = 3 then year + 1900
  else year

/-- The rest of a comment, inside of so many parentheses. -/
def comment : Nat → List Char → Option (List Char)
  | _, [] => none
  | 0, _ => none
  | depth + 1, c :: rest =>
    if c = '\\' then
      match rest with
      | [] => none
      | _ :: rest => comment (depth + 1) rest
    else if c = '(' then comment (depth + 2) rest
    else if c = ')' then if depth = 0 then some rest else comment depth rest
    else comment (depth + 1) rest

/-- A text without the comments at its start. -/
def skipComments : Nat → List Char → List Char
  | 0, cs => cs
  | fuel + 1, cs =>
    match trimStart cs with
    | '(' :: rest =>
      match comment 1 rest with
      | some rest => skipComments fuel rest
      | none => cs
    | _ => cs

/-- The weekday that a text may begin with, and a comma. -/
def leadingWeekday (cs : List Char) : Option (Option Nat × List Char) :=
  match wordOf weekdays cs with
  | some (day, rest) => (char ',' rest).map (some day, ·)
  | none => some (none, cs)

/-- The seconds that may follow a minute. -/
def seconds (cs : List Char) : Option (Nat × List Char) :=
  match char ':' (trimStart cs) with
  | some rest => numberIn 2 2 0 60 rest
  | none => some (0, cs)

/-- The instant that a text spells; a weekday has to be that of the date. -/
def read? (cs : List Char) : Option Instant := do
  let (weekday?, cs) ← leadingWeekday (trimStart cs)
  let (day, cs) ← numberIn 1 2 1 31 (trimStart cs)
  let cs ← space cs
  let (month, cs) ← wordOf months cs
  let cs ← space cs
  let (year, rest) ← number 2 cs.length cs
  let year := fullYear (cs.length - rest.length) year
  let cs ← space rest
  let (hour, cs) ← numberIn 2 2 0 23 cs
  let cs ← char ':' (trimStart cs)
  let (minute, cs) ← numberIn 2 2 0 59 (trimStart cs)
  let (second, cs) ← seconds cs
  let cs ← space cs
  let (offset, cs) ← zone cs
  let date : Date := ⟨year, month + 1, day⟩
  if (skipComments cs.length cs).isEmpty && weekday?.all (· == weekday date.toDays) &&
      year ≤ 262142 then
    instant date hour minute second 0 offset
  else none

end Gleaner.Calendar.Rfc2822
