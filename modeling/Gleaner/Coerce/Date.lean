import Gleaner.Calendar.Layout
import Gleaner.Calendar.Rfc2822
import Gleaner.Calendar.Rfc3339
import Gleaner.Coerce.Options
import Gleaner.Value.Basic

/-!
# Dates

The date that a value stands for, and how it is written.
-/

namespace Gleaner

open Calendar (Instant Layout)

/-- The instant that a text spells in one of the standard formats. -/
def Calendar.readInstant? (text : List Char) : Option Instant :=
  let text := trim text
  Calendar.Rfc3339.read? text <|> Calendar.Rfc2822.read? text <|> Calendar.IsoLike.read? text

/-- The instant a number of milliseconds from the beginning of 1970, to the nearest one. -/
def Calendar.Instant.ofEpochDouble? (millis : Double) : Option Instant :=
  if millis.isFinite then Instant.ofEpochMillis? millis.round.toSignedWord else none

/-- The instant of a default. -/
def DateDefault.instant? : DateDefault → Option Instant
  | .epoch millis => Instant.ofEpochDouble? millis
  | .text s => Calendar.readInstant? s.toList

namespace Coerce

/-- An instant in a format. -/
def writeDate (format : Option String) (t : Instant) : Value :=
  match format with
  | none => .string (.ofList t.iso)
  | some format =>
    if format = "iso" then .string (.ofList t.iso)
    else if format = "date" || format = "dayjs" then .date t
    else if format = "timestamp" then .number (.ofInt t.epochMillis)
    else .string (.ofList ((Layout.compile format.toList).render t))

/-- The instant that a value stands for. -/
def readDate? (layouts : List String) : Value → Option Instant
  | .date t => some t
  | .number millis => Instant.ofEpochDouble? millis
  | .string text =>
    if layouts.isEmpty then Calendar.readInstant? text.toList
    else layouts.findSome? fun layout => (Layout.compile layout.toList).read? text.toList
  | _ => none

/-- The date that a value stands for, written in the format of the options. -/
def date (o : DateOptions) (raw : Value) : Value :=
  match readDate? o.layouts raw <|> o.fallback.bind DateDefault.instant? with
  | some t => writeDate o.format t
  | none => .null

end Coerce
end Gleaner
