import Gleaner.Calendar.Scan
import Gleaner.Pattern.Basic

/-!
# Dates that look like ISO 8601

`YYYY[-MM[-DD]][ HH:mm[:ss[.SSS]]][Z]`: missing fields stand for the beginning of their unit, and a
time without an offset is universal time. Dashes, slashes and single blanks separate the fields of
the date.
-/

namespace Gleaner.Calendar

/-- `Z`, `+05:30` or `-0800` as seconds ahead of universal time. -/
def offsetSeconds? (cs : List Char) : Option Int :=
  if cs.map Scan.lower = ['z'] then some 0
  else do
    let (negative, rest) ← Scan.sign false cs
    let ds := rest.filter isDigit
    if ds.length ≠ 4 then none
    let seconds : Int := ofDigits (ds.take 2) * 3600 + ofDigits (ds.drop 2) * 60
    some (if negative then -seconds else seconds)

/-- An offset of a clock: one of the letters for none, or a sign and four digits with or without a
colon. -/
def offsetPattern (zulu : List Char) : Pattern :=
  .alt (.anyOf zulu)
    (.seqAll [.anyOf ['+', '-'], .exactly 2 .digit, .optional (.char ':'), .exactly 2 .digit])

namespace IsoLike

/-- One or two digits as a group. -/
def shortField (index : Nat) : Pattern := .group index (.repetition .digit 1 (some 2) true)

/-- Two digits as a group. -/
def field (index : Nat) : Pattern := .group index (.exactly 2 .digit)

/-- What separates the fields of a date. -/
def separator : Pattern := .anyOf ['-', '/', ' ']

/-- A colon. -/
def colon : Pattern := .char ':'

/-- A month and a day, both of which may be missing. -/
def monthAndDay : Pattern :=
  .optional (.seqAll [separator, shortField 2, .optional (.seqAll [separator, shortField 3])])

/-- A time, which may be missing. -/
def time : Pattern :=
  .optional (.seqAll
    [.some₁ (.anyOf ['T', 't', ' ']), shortField 4, colon, field 5,
      .optional (.seqAll [colon, field 6,
        .optional (.seqAll [.anyOf ['.', ':'], .group 7 (.some₁ .digit)])])])

/-- The shape of such a date: the year, month, day, hour, minute, second, fraction and offset are
groups 1 to 8. -/
def shape : Pattern :=
  .seqAll
    [.assertion .textStart, .group 1 (.exactly 4 .digit), monthAndDay, time,
      .many .blank, .optional (.group 8 (offsetPattern ['Z', 'z'])),
      .assertion .textEnd]

/-- The number of a group; one that is missing counts as a default. -/
def numberOf (m : Match) (group missing : Nat) : Option Nat :=
  match m.group? group with
  | some ds => readNat? ds
  | none => some missing

/-- The milliseconds that the digits of a fraction stand for. -/
def millis (ds : List Char) : Nat := (readNat? ((ds ++ ['0', '0', '0']).take 3)).getD 0

/-- The instant that a text spells. -/
def read? (cs : List Char) : Option Instant := do
  let m ← shape.find? cs
  let year ← numberOf m 1 0
  let month ← numberOf m 2 1
  let day ← numberOf m 3 1
  let hour ← numberOf m 4 0
  let minute ← numberOf m 5 0
  let second ← numberOf m 6 0
  let time ← Instant.secondOfDay? hour minute second
  let offset ←
    match m.group? 8 with
    | some text => offsetSeconds? text
    | none => some 0
  Instant.ofLocal? ⟨year, month, day⟩ time (millis ((m.group? 7).getD []) * 1000000) offset

end IsoLike
end Gleaner.Calendar
