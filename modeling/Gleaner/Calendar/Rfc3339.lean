import Gleaner.Calendar.Scan

/-!
# Dates of RFC 3339

`2020-01-02T03:04:05.678+01:00`: a date, a `T` or a space, a time to the second with or without a
fraction, and `Z` or an offset, whose sign may be a typographic minus.
-/

namespace Gleaner.Calendar.Rfc3339

open Scan

/-- The nanoseconds of a fraction; digits beyond the ninth do not count. -/
def fraction (cs : List Char) : Option (Nat × List Char) :=
  match cs with
  | '.' :: rest =>
    let ds := rest.takeWhile isDigit
    let counted := ds.take 9
    if ds.isEmpty then none
    else some (ofDigits counted * Nat.pow 10 (9 - counted.length), rest.dropWhile isDigit)
  | cs => some (0, cs)

/-- `Z` or an offset. -/
def zone (cs : List Char) : Option (Int × List Char) :=
  match cs with
  | 'Z' :: rest => some (0, rest)
  | 'z' :: rest => some (0, rest)
  | cs => offset true true cs

/-- The instant that a text spells. -/
def read? (cs : List Char) : Option Instant := do
  let (year, cs) ← number 4 4 cs
  let cs ← char '-' cs
  let (month, cs) ← numberIn 2 2 1 12 cs
  let cs ← char '-' cs
  let (day, cs) ← numberIn 2 2 1 31 cs
  let cs ← char 'T' cs <|> char 't' cs <|> char ' ' cs
  let (hour, cs) ← numberIn 2 2 0 23 cs
  let cs ← char ':' cs
  let (minute, cs) ← numberIn 2 2 0 59 cs
  let cs ← char ':' cs
  let (second, cs) ← numberIn 2 2 0 60 cs
  let (nanos, cs) ← fraction cs
  let (offset, cs) ← zone cs
  if cs.isEmpty then instant ⟨year, month, day⟩ hour minute second nanos offset else none

end Gleaner.Calendar.Rfc3339
