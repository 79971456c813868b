import Gleaner.Json.Decode

/-!
# Options of typed values

What a schema says about the text, number, boolean or date that it asks for.
-/

namespace Gleaner

/-- Options of a text. -/
structure TextOptions where
  /-- Stands in for a missing value. -/
  fallback : Option String := none
  /-- Stands in for the empty text. -/
  ifEmpty : Option String := none
  /-- The pattern whose first match is kept. -/
  pattern : Option String := none
  /-- Stands in for a text without a match. -/
  ifNoMatch : Option String := none
  deriving DecidableEq, Repr

/-- How a number becomes an integer. -/
inductive Rounding where
  /-- The nearest integer, a half going up. -/
  | nearest
  /-- The next integer below. -/
  | floor
  /-- The next integer above. -/
  | ceil
  deriving DecidableEq, Repr

/-- Options of a number. -/
structure NumberOptions where
  /-- Stands in for a missing number. -/
  fallback : Option Double := none
  /-- Whether the number is made an integer. -/
  isInteger : Bool := false
  /-- How it is made an integer. -/
  rounding : Rounding := .nearest
  /-- The pattern by which the number is written; `number` keeps it a number. -/
  format : Option String := none
  deriving DecidableEq

/-- Options of a boolean. -/
structure BooleanOptions where
  /-- Stands in for a missing boolean. -/
  fallback : Option Bool := none
  /-- The texts that mean true. -/
  truthy : List String := []
  /-- The texts that mean false. -/
  falsy : List String := []
  deriving DecidableEq, Repr

/-- A date that stands in for a missing one. -/
inductive DateDefault where
  /-- Milliseconds from the beginning of 1970. -/
  | epoch (millis : Double)
  /-- A written date. -/
  | text (text : String)
  deriving DecidableEq

/-- Options of a date. -/
structure DateOptions where
  /-- Stands in for a missing date. -/
  fallback : Option DateDefault := none
  /-- The layouts in which the date may be written, tried in order. -/
  layouts : List String := []
  /-- How the date is written: `iso`, `date`, `dayjs`, `timestamp` or a layout. -/
  format : Option String := none
  deriving DecidableEq

open Json

namespace TextOptions

/-- The keys of the options. -/
def keys : List String := ["default", "defaultIfEmpty", "match", "defaultIfNoMatch"]

/-- The options with a key set. -/
def put (o : TextOptions) (key : String) (value : Json) : Except String TextOptions :=
  let read := orNull asText value
  if key = "default" then read.map fun v => { o with fallback := v }
  else if key = "defaultIfEmpty" then read.map fun v => { o with ifEmpty := v }
  else if key = "match" then read.map fun v => { o with pattern := v }
  else if key = "defaultIfNoMatch" then read.map fun v => { o with ifNoMatch := v }
  else .ok o

/-- The options that a document holds. -/
def ofJson : Json → Except String TextOptions := asRecord "StringOptions" keys {} put

end TextOptions

namespace Rounding

/-- The name of a way of rounding. -/
def name : Rounding → String
  | .nearest => "round"
  | .floor => "floor"
  | .ceil => "ceil"

/-- The way of rounding with a name. -/
def ofName (s : String) : Rounding :=
  if s = "floor" then .floor else if s = "ceil" then .ceil else .nearest

end Rounding

namespace NumberOptions

/-- The keys of the options. -/
def keys : List String := ["default", "int", "roundMode", "format"]

/-- The options with a key set. -/
def put (o : NumberOptions) (key : String) (value : Json) : Except String NumberOptions :=
  if key = "default" then (orNull asDouble value).map fun v => { o with fallback := v }
  else if key = "int" then (asBool value).map fun v => { o with isInteger := v }
  else if key = "roundMode" then
    (asWord ["round", "floor", "ceil"] value).map fun v => { o with rounding := .ofName v }
  else if key = "format" then (orNull asText value).map fun v => { o with format := v }
  else .ok o

/-- The options that a document holds. -/
def ofJson : Json → Except String NumberOptions := asRecord "NumberOptions" keys {} put

end NumberOptions

namespace BooleanOptions

/-- The keys of the options. -/
def keys : List String := ["default", "truthy", "falsy"]

/-- The options with a key set. -/
def put (o : BooleanOptions) (key : String) (value : Json) : Except String BooleanOptions :=
  if key = "default" then (orNull asBool value).map fun v => { o with fallback := v }
  else if key = "truthy" then (asTexts value).map fun v => { o with truthy := v }
  else if key = "falsy" then (asTexts value).map fun v => { o with falsy := v }
  else .ok o

/-- The options that a document holds. -/
def ofJson : Json → Except String BooleanOptions := asRecord "BooleanOptions" keys {} put

end BooleanOptions

namespace DateOptions

/-- The keys of the options. -/
def keys : List String := ["default", "parse", "format"]

/-- A date by its milliseconds or its text. -/
def readDefault : Json → Except String DateDefault
  | .number n => .ok (.epoch n.toDouble)
  | .string s => .ok (.text s)
  | _ => .error "data did not match any variant of untagged enum DateInput"

/-- The options with a key set. -/
def put (o : DateOptions) (key : String) (value : Json) : Except String DateOptions :=
  if key = "default" then (orNull readDefault value).map fun v => { o with fallback := v }
  else if key = "parse" then (asTexts value).map fun v => { o with layouts := v }
  else if key = "format" then (orNull asText value).map fun v => { o with format := v }
  else .ok o

/-- The options that a document holds. -/
def ofJson : Json → Except String DateOptions := asRecord "DateOptions" keys {} put

end DateOptions
end Gleaner
