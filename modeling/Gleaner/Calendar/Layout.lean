import Gleaner.Calendar.IsoLike
import Gleaner.Pattern.Program

/-!
# Date layouts

A layout such as `YYYY-MM-DD HH:mm:ss` or `[at] h A` is a list of tokens. It renders instants, in
universal time, and reads texts that are laid out in the same way.

## Main statements

- `Token.width_le` : a token takes no more characters than the run it is read from.
-/

namespace Gleaner.Calendar

/-- The English names of the months. -/
def monthNames : List String :=
  ["January", "February", "March", "April", "May", "June", "July", "August", "September",
   "October", "November", "December"]

/-- The English names of the weekdays, Sunday first. -/
def weekdayNames : List String :=
  ["Sunday", "Monday", "Tuesday", "Wednesday", "Thursday", "Friday", "Saturday"]

/-- A part of a layout. -/
inductive Token where
  /-- Text that stands for itself. -/
  | literal (text : List Char)
  /-- `YYYY`. -/
  | year
  /-- `YY`: the last two digits of the year. -/
  | shortYear
  /-- `M`. -/
  | month
  /-- `MM`. -/
  | paddedMonth
  /-- `MMM`: the first three letters of the month's name. -/
  | shortMonthName
  /-- `MMMM`. -/
  | monthName
  /-- `D`. -/
  | day
  /-- `DD`. -/
  | paddedDay
  /-- `d`: the weekday as a digit. -/
  | weekday
  /-- `dd`: the first two letters of the weekday's name. -/
  | minWeekdayName
  /-- `ddd`: the first three letters. -/
  | shortWeekdayName
  /-- `dddd`. -/
  | weekdayName
  /-- `H`. -/
  | hour
  /-- `HH`. -/
  | paddedHour
  /-- `h`: the hour of a twelve-hour clock. -/
  | hour12
  /-- `hh`. -/
  | paddedHour12
  /-- `m`. -/
  | minute
  /-- `mm`. -/
  | paddedMinute
  /-- `s`. -/
  | second
  /-- `ss`. -/
  | paddedSecond
  /-- `SSS`: milliseconds. -/
  | millis
  /-- `A`: AM or PM. -/
  | meridiem
  /-- `a`: am or pm. -/
  | lowerMeridiem
  /-- `Z`: the offset with a colon. -/
  | offset
  /-- `ZZ`: the offset without a colon. -/
  | compactOffset
  /-- `X`: seconds from the beginning of 1970. -/
  | epochSeconds
  /-- `x`: milliseconds from the beginning of 1970. -/
  | epochMillis
  deriving DecidableEq, Repr

/-- The token that a run of one character begins with, and how many characters it takes; nothing
when the character stands for itself. -/
def Token.ofRun? (c : Char) (run : Nat) : Option (Token × Nat) :=
  match c with
  | 'Y' => if 4 ≤ run then some (.year, 4) else if 2 ≤ run then some (.shortYear, 2) else none
  | 'M' =>
    if run ≤ 1 then some (.month, 1)
    else if run = 2 then some (.paddedMonth, 2)
    else if run = 3 then some (.shortMonthName, 3)
    else some (.monthName, 4)
  | 'D' => if run ≤ 1 then some (.day, 1) else some (.paddedDay, 2)
  | 'd' =>
    if run ≤ 1 then some (.weekday, 1)
    else if run = 2 then some (.minWeekdayName, 2)
    else if run = 3 then some (.shortWeekdayName, 3)
    else some (.weekdayName, 4)
  | 'H' => if run ≤ 1 then some (.hour, 1) else some (.paddedHour, 2)
  | 'h' => if run ≤ 1 then some (.hour12, 1) else some (.paddedHour12, 2)
  | 'm' => if run ≤ 1 then some (.minute, 1) else some (.paddedMinute, 2)
  | 's' => if run ≤ 1 then some (.second, 1) else some (.paddedSecond, 2)
  | 'S' => if 3 ≤ run then some (.millis, 3) else none
  | 'A' => some (.meridiem, 1)
  | 'a' => some (.lowerMeridiem, 1)
  | 'Z' => if run ≤ 1 then some (.offset, 1) else some (.compactOffset, 2)
  | 'X' => some (.epochSeconds, 1)
  | 'x' => some (.epochMillis, 1)
  | _ => none

/-- A token takes at least one character and no more than the run has. -/
theorem Token.width_le {c : Char} {run : Nat} {token : Token} {width : Nat} (hrun : 0 < run)
    (h : Token.ofRun? c run = some (token, width)) : 0 < width ∧ width ≤ run := by
  unfold Token.ofRun? at h
  split at h <;> (repeat' split at h) <;> simp at h <;> omega

/-- A date layout. -/
abbrev Layout := List Token

namespace Layout

/-- Literal text in front of a layout; two neighbouring literals are one. -/
def consLiteral (text : List Char) : Layout → Layout
  | .literal more :: rest => .literal (text ++ more) :: rest
  | tokens => .literal text :: tokens

/-- The layout that a pattern describes. Text in brackets stands for itself, as does a bracket that
is never closed. -/
def compile : List Char → Layout
  | [] => []
  | c :: rest =>
    if c = '[' ∧ ']' ∈ rest then
      consLiteral (rest.takeWhile (· ≠ ']')) (compile ((rest.dropWhile (· ≠ ']')).drop 1))
    else
      match Token.ofRun? c ((rest.takeWhile (· = c)).length + 1) with
      | some (token, width) => token :: compile (rest.drop (width - 1))
      | none => consLiteral [c] (compile rest)
termination_by cs => cs.length
decreasing_by
  · have := (List.dropWhile_suffix (· ≠ ']') (l := rest)).length_le
    simp only [List.length_drop, List.length_cons]
    omega
  · simp only [List.length_drop, List.length_cons]
    omega
  · simp

/-- The hour of a twelve-hour clock. -/
def clockHour (hour : Nat) : Nat := if hour % 12 = 0 then 12 else hour % 12

/-- An integer with zeros in front up to a width, which its sign counts for. -/
def paddedInt (width : Nat) (n : Int) : List Char :=
  if n < 0 then '-' :: paddedDigits (width - 1) n.natAbs else paddedDigits width n.natAbs

/-- The name of a month. -/
def nameOfMonth (month : Nat) : List Char := (monthNames.getD (month - 1) "").toList

/-- The name of a weekday. -/
def nameOfWeekday (weekday : Nat) : List Char := (weekdayNames.getD weekday "").toList

/-- The text of a token for an instant. -/
def renderToken (t : Instant) : Token → List Char
  | .literal text => text
  | .year => paddedInt 4 t.date.year
  | .shortYear => paddedDigits 2 (t.date.year % 100).toNat
  | .month => digits t.date.month
  | .paddedMonth => paddedDigits 2 t.date.month
  | .shortMonthName => (nameOfMonth t.date.month).take 3
  | .monthName => nameOfMonth t.date.month
  | .day => digits t.date.day
  | .paddedDay => paddedDigits 2 t.date.day
  | .weekday => digits (Calendar.weekday t.day)
  | .minWeekdayName => (nameOfWeekday (Calendar.weekday t.day)).take 2
  | .shortWeekdayName => (nameOfWeekday (Calendar.weekday t.day)).take 3
  | .weekdayName => nameOfWeekday (Calendar.weekday t.day)
  | .hour => digits t.hour
  | .paddedHour => paddedDigits 2 t.hour
  | .hour12 => digits (clockHour t.hour)
  | .paddedHour12 => paddedDigits 2 (clockHour t.hour)
  | .minute => digits t.minute
  | .paddedMinute => paddedDigits 2 t.minute
  | .second => digits t.secondOfMinute
  | .paddedSecond => paddedDigits 2 t.secondOfMinute
  | .millis => paddedDigits 3 t.millis
  | .meridiem => (if t.hour < 12 then "AM" else "PM").toList
  | .lowerMeridiem => (if t.hour < 12 then "am" else "pm").toList
  | .offset => "+00:00".toList
  | .compactOffset => "+0000".toList
  | .epochSeconds => intText t.epochSeconds
  | .epochMillis => intText t.epochMillis

/-- An instant in a layout. -/
def render (layout : Layout) (t : Instant) : List Char := layout.flatMap (renderToken t)

/-- ASCII letters, at least one. -/
def lettersPattern : Pattern :=
  .some₁ (.set Unicode.asciiLetters)

/-- A sign that may be missing. -/
def signPattern : Pattern := .optional (.anyOf ['+', '-'])

/-- The pattern of the texts that a token reads, other than a literal. -/
def fieldPattern : Token → Pattern
  | .literal text => .literal text
  | .year => .exactly 4 .digit
  | .shortYear | .paddedMonth | .paddedDay => .exactly 2 .digit
  | .month | .day | .hour | .paddedHour | .hour12 | .paddedHour12 | .minute | .paddedMinute
  | .second | .paddedSecond => .repetition .digit 1 (some 2) true
  | .shortMonthName | .monthName | .minWeekdayName | .shortWeekdayName | .weekdayName =>
    lettersPattern
  | .weekday => .digit
  | .millis => .exactly 3 .digit
  | .meridiem | .lowerMeridiem =>
    .seq (.anyOf ['A', 'a', 'P', 'p']) (.anyOf ['M', 'm'])
  | .offset | .compactOffset => offsetPattern ['Z']
  | .epochSeconds =>
    .seqAll [signPattern, .some₁ .digit,
      .optional (.seq (.char '.') (.repetition .digit 1 (some 3) true))]
  | .epochMillis => .seq signPattern (.some₁ .digit)

/-- The patterns of the tokens of a layout; each token that is no literal is a group, and these
are numbered in order. -/
def patterns : Nat → Layout → List Pattern
  | _, [] => []
  | index, .literal text :: rest => .literal text :: patterns index rest
  | index, token :: rest => .group index (fieldPattern token) :: patterns (index + 1) rest

/-- The pattern of the texts that a layout reads: blanks are allowed at both ends. -/
def pattern (layout : Layout) : Pattern :=
  .seqAll (.assertion .textStart :: .many .blank :: patterns 1 layout ++
    [.many .blank, .assertion .textEnd])

/-- What the fields of a text say about its instant. -/
structure Fields where
  year : Option Nat := none
  month : Option Nat := none
  day : Option Nat := none
  hour : Option Nat := none
  minute : Option Nat := none
  second : Option Nat := none
  millis : Option Nat := none
  afternoon : Option Bool := none
  offset : Option Int := none
  epochMillis : Option Int := none

/-- The month whose name begins with the first three letters of a text. -/
def monthOfName? (text : List Char) : Option Nat :=
  let start := (text.map Scan.lower).take 3
  if text.length < 3 then none
  else (monthNames.findIdx? fun name => (name.toList.map Scan.lower).take 3 = start).map (· + 1)

/-- A number with a sign that may be missing. -/
def readSigned? (cs : List Char) : Option Int :=
  match cs with
  | '-' :: rest => (readNat? rest).map fun n => -(n : Int)
  | '+' :: rest => (readNat? rest).map fun n => (n : Int)
  | cs => (readNat? cs).map fun n => (n : Int)

/-- A decimal number with a sign that may be missing. -/
def readDecimal? (cs : List Char) : Option Double :=
  match cs with
  | '-' :: rest => (Decimal.read? rest).map (·.toDouble true)
  | '+' :: rest => (Decimal.read? rest).map (·.toDouble false)
  | cs => (Decimal.read? cs).map (·.toDouble false)

/-- The fields with the text of a token taken in. -/
def Fields.take (fields : Fields) (token : Token) (text : List Char) : Option Fields :=
  match token with
  | .year => (readNat? text).map fun n => { fields with year := some n }
  | .shortYear =>
    (readNat? text).map fun n =>
      { fields with year := some (n + if 68 < n then 1900 else 2000) }
  | .month | .paddedMonth => (readNat? text).map fun n => { fields with month := some n }
  | .shortMonthName | .monthName =>
    (monthOfName? text).map fun n => { fields with month := some n }
  | .day | .paddedDay => (readNat? text).map fun n => { fields with day := some n }
  | .hour | .paddedHour | .hour12 | .paddedHour12 =>
    (readNat? text).map fun n => { fields with hour := some n }
  | .minute | .paddedMinute => (readNat? text).map fun n => { fields with minute := some n }
  | .second | .paddedSecond => (readNat? text).map fun n => { fields with second := some n }
  | .millis => (readNat? text).map fun n => { fields with millis := some n }
  | .meridiem | .lowerMeridiem =>
    some { fields with afternoon := some (text.map Scan.lower == ['p', 'm']) }
  | .offset | .compactOffset =>
    (offsetSeconds? text).map fun n => { fields with offset := some n }
  | .epochSeconds =>
    (readDecimal? text).map fun x =>
      { fields with epochMillis := some ((x * 1000).round.toSignedWord) }
  | .epochMillis =>
    ((readSigned? text).filter fun n =>
      -Double.signedWordLimit ≤ n && n < Double.signedWordLimit).map fun n =>
        { fields with epochMillis := some n }
  | .weekday | .minWeekdayName | .shortWeekdayName | .weekdayName | .literal _ => some fields

/-- The hour of the day, given that of a clock and whether it is after noon. -/
def fullHour (afternoon : Option Bool) (hour : Nat) : Nat :=
  match afternoon with
  | some true => if hour < 12 then hour + 12 else hour
  | some false => if hour = 12 then 0 else hour
  | none => hour

/-- The instant that fields describe. A number of seconds or milliseconds from 1970 decides alone;
else there has to be a year, and other missing fields are the beginning of their unit. -/
def Fields.instant? (fields : Fields) : Option Instant :=
  match fields.epochMillis with
  | some millis => Instant.ofEpochMillis? millis
  | none => do
    let year ← fields.year
    let time ← Instant.secondOfDay? (fullHour fields.afternoon (fields.hour.getD 0))
      (fields.minute.getD 0) (fields.second.getD 0)
    Instant.ofLocal? ⟨year, fields.month.getD 1, fields.day.getD 1⟩ time
      (fields.millis.getD 0 * 1000000) (fields.offset.getD 0)

/-- The fields with the groups of a match taken in, from a group on. -/
def takeFields (m : Match) : Nat → Layout → Fields → Option Fields
  | _, [], fields => some fields
  | index, .literal _ :: rest, fields => takeFields m index rest fields
  | index, token :: rest, fields => do
    let text ← m.group? index
    let fields ← fields.take token text
    takeFields m (index + 1) rest fields

/-- The instant that a text in a layout spells. A layout whose pattern is too large reads nothing. -/
def read? (layout : Layout) (text : List Char) : Option Instant := do
  if !layout.pattern.fits then none
  let m ← layout.pattern.find? text
  let fields ← takeFields m 1 layout {}
  fields.instant?

end Layout
end Gleaner.Calendar
