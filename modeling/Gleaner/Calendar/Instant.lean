import Gleaner.Calendar.Date
import Gleaner.Number.Decimal

/-!
# Instants

An instant is a day, a second of that day and nanoseconds. Nanoseconds from 10⁹ on stand for a
leap second, which only the last second of a minute can have.
-/

namespace Gleaner.Calendar

/-- The first day that an instant can have: 1 January of the year -262143. -/
def firstDay : Int := Date.toDays ⟨-262143, 1, 1⟩

/-- The last day that an instant can have: 31 December of the year 262142. -/
def lastDay : Int := Date.toDays ⟨262142, 12, 31⟩

/-- A point in time. -/
structure Instant where
  /-- The day, counted from 1 January 1970. -/
  day : Int
  /-- The second of the day. -/
  second : Nat
  /-- The nanosecond of the second; from 10⁹ on, that of the leap second after it. -/
  nanos : Nat
  /-- The day is in range. -/
  day_mem : firstDay ≤ day ∧ day ≤ lastDay
  /-- A day has 86400 seconds. -/
  second_lt : second < 86400
  /-- A leap second is the last one of a minute. -/
  nanos_lt : nanos < 1000000000 ∨ (nanos < 2000000000 ∧ second % 60 = 59)
  deriving DecidableEq

namespace Instant

/-- The instant with these parts, if there is one. -/
def ofParts? (day : Int) (second nanos : Nat) : Option Instant :=
  if h : (firstDay ≤ day ∧ day ≤ lastDay) ∧ second < 86400 ∧
      (nanos < 1000000000 ∨ (nanos < 2000000000 ∧ second % 60 = 59)) then
    some ⟨day, second, nanos, h.1, h.2.1, h.2.2⟩
  else none

/-- The parts of an instant give it back. -/
theorem ofParts?_parts (t : Instant) : ofParts? t.day t.second t.nanos = some t := by
  simp [ofParts?, t.day_mem, t.second_lt, t.nanos_lt]

/-- The civil date. -/
def date (t : Instant) : Date := .ofDays t.day

/-- The hour of the day. -/
def hour (t : Instant) : Nat := t.second / 3600

/-- The minute of the hour. -/
def minute (t : Instant) : Nat := t.second / 60 % 60

/-- The second of the minute, a leap second counted with the one before it. -/
def secondOfMinute (t : Instant) : Nat := t.second % 60

/-- The milliseconds of the second, above 999 in a leap second. -/
def millis (t : Instant) : Nat := t.nanos / 1000000

/-- The seconds from the beginning of 1970. -/
def epochSeconds (t : Instant) : Int := t.day * 86400 + t.second

/-- The milliseconds from the beginning of 1970. -/
def epochMillis (t : Instant) : Int := t.epochSeconds * 1000 + t.millis

/-- The instant a number of milliseconds from the beginning of 1970, if it is in range. -/
def ofEpochMillis? (millis : Int) : Option Instant :=
  let seconds := millis / 1000
  ofParts? (seconds / 86400) (seconds % 86400).toNat (millis % 1000 * 1000000).toNat

/-- The instant of a wall clock time that is ahead of universal time by a number of seconds. A
clock is less than a day ahead or behind. -/
def ofLocal? (date : Date) (second nanos : Nat) (offset : Int) : Option Instant :=
  if date.IsValid ∧ offset.natAbs < 86400 ∧ second < 86400 then
    let utc := (second : Int) - offset
    ofParts? (date.toDays + utc / 86400) (utc % 86400).toNat nanos
  else none

/-- The second of the day of an hour, minute and second, if there is such a time. -/
def secondOfDay? (hour minute second : Nat) : Option Nat :=
  if hour < 24 ∧ minute < 60 ∧ second < 60 then some (hour * 3600 + minute * 60 + second) else none

/-- A year with four digits, or with a sign and at least four digits outside of 0 … 9999. -/
def yearText (year : Int) : List Char :=
  if 0 ≤ year ∧ year ≤ 9999 then paddedDigits 4 year.toNat
  else (if year < 0 then '-' else '+') :: paddedDigits 4 year.natAbs

/-- The ISO 8601 text with milliseconds, a leap second being second 60. -/
def iso (t : Instant) : List Char :=
  let d := t.date
  let leap := 1000000000 ≤ t.nanos
  let second := if leap then t.secondOfMinute + 1 else t.secondOfMinute
  let nanos := if leap then t.nanos - 1000000000 else t.nanos
  yearText d.year ++ '-' :: paddedDigits 2 d.month ++ '-' :: paddedDigits 2 d.day ++
    'T' :: paddedDigits 2 t.hour ++ ':' :: paddedDigits 2 t.minute ++
    ':' :: paddedDigits 2 second ++ '.' :: paddedDigits 3 (nanos / 1000000) ++ ['Z']

end Instant
end Gleaner.Calendar
