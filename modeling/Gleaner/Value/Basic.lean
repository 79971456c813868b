import Gleaner.Calendar.Instant
import Gleaner.Json.Write

/-!
# Values

What an extraction produces: scalars, dates, arrays, and objects that keep the order of their
keys.
-/

namespace Gleaner

open Calendar (Instant)

/-- An extracted value. -/
inductive Value where
  | null
  | bool (b : Bool)
  | number (x : Double)
  | string (s : String)
  | date (t : Instant)
  | array (items : List Value)
  | object (fields : List (String × Value))

namespace Value

instance : Inhabited Value := ⟨null⟩

/-- The text, or null where there is none. -/
def ofText? : Option String → Value
  | some s => .string s
  | none => .null

/-- Whether the value is null. -/
def isNull : Value → Bool
  | .null => true
  | _ => false

/-- Only null is null. -/
theorem isNull_iff {v : Value} : v.isNull ↔ v = .null := by
  cases v <;> simp [isNull]

/-- The text of a string. -/
def text? : Value → Option String
  | .string s => some s
  | _ => none

/-- The number of a number. -/
def number? : Value → Option Double
  | .number x => some x
  | _ => none

/-- The truth value of a boolean. -/
def bool? : Value → Option Bool
  | .bool b => some b
  | _ => none

/-- The items of an array. -/
def items? : Value → Option (List Value)
  | .array items => some items
  | _ => none

/-- The entries of an object. -/
def fields? : Value → Option (List (String × Value))
  | .object fields => some fields
  | _ => none

/-- Whether a condition takes the value for true: null, false, zero, NaN and the empty text are
not, everything else is. -/
def isTruthy : Value → Bool
  | .null => false
  | .bool b => b
  | .number x => !x.isZero && !x.isNaN
  | .string s => s != ""
  | .date _ | .array _ | .object _ => true

mutual

/-- Equality of values. Numbers compare as numbers, so NaN equals nothing; objects are equal when
they have the same keys with equal values, whatever the order. -/
def equals : Value → Value → Bool
  | .null, .null => true
  | .bool a, .bool b => a == b
  | .number x, .number y => x.equals y
  | .string s, .string t => s == t
  | .date t, .date u => t = u
  | .array xs, .array ys => equalItems xs ys
  | .object xs, .object ys => xs.length == ys.length && equalFields xs ys
  | _, _ => false

/-- Equality of arrays, item by item. -/
def equalItems : List Value → List Value → Bool
  | [], [] => true
  | x :: xs, y :: ys => x.equals y && equalItems xs ys
  | _, _ => false

/-- Whether each entry of the first list has an equal value under its key in the second. -/
def equalFields : List (String × Value) → List (String × Value) → Bool
  | [], _ => true
  | (key, x) :: xs, ys =>
    (match ys.lookup key with
      | some y => x.equals y
      | none => false) && equalFields xs ys

end

/-- Whether a list has an item equal to a value. -/
def mem (items : List Value) (v : Value) : Bool := items.any (·.equals v)

mutual

/-- The value as a JSON document: dates are texts, numbers that are not finite are null. -/
def toJson : Value → Json
  | .null => .null
  | .bool b => .bool b
  | .number x => numberToJson x
  | .string s => .string s
  | .date t => .string (.ofList t.iso)
  | .array items => .array (itemsToJson items)
  | .object fields => .object (fieldsToJson fields)

/-- Numbers that are integers of moderate size become integers. -/
def numberToJson (x : Double) : Json :=
  if x.isSafeInteger then .ofInt x.toSignedWord else .ofReal x

/-- The items of an array as documents. -/
def itemsToJson : List Value → List Json
  | [] => []
  | v :: rest => v.toJson :: itemsToJson rest

/-- The entries of an object as documents. -/
def fieldsToJson : List (String × Value) → List (String × Json)
  | [] => []
  | (key, v) :: rest => (key, v.toJson) :: fieldsToJson rest

end

mutual

/-- The value that a JSON document stands for. -/
def ofJson : Json → Value
  | .null => .null
  | .bool b => .bool b
  | .number n => .number n.toDouble
  | .string s => .string s
  | .array items => .array (itemsOfJson items)
  | .object fields => .object (fieldsOfJson fields)

/-- The items of an array of documents. -/
def itemsOfJson : List Json → List Value
  | [] => []
  | j :: rest => ofJson j :: itemsOfJson rest

/-- The entries of an object of documents. -/
def fieldsOfJson : List (String × Json) → List (String × Value)
  | [] => []
  | (key, j) :: rest => (key, ofJson j) :: fieldsOfJson rest

end

/-- The JSON text of a value. -/
def jsonText (v : Value) : String := v.toJson.compact

/-- A list of texts with a separator between them. -/
def joinChars (separator : List Char) (parts : List (List Char)) : List Char :=
  separator.intercalate parts

mutual

/-- The plain text of a value: items of an array with commas between them and nulls left blank,
objects as JSON. -/
def displayChars : Value → List Char
  | .null => "null".toList
  | .bool b => (if b then "true" else "false").toList
  | .number x => x.display
  | .string s => s.toList
  | .date t => t.iso
  | .array items => joinChars [','] (displayItems items)
  | .object fields => (Value.object fields).jsonText.toList

/-- The plain texts of the items of an array. -/
def displayItems : List Value → List (List Char)
  | [] => []
  | v :: rest => (match v with | .null => [] | _ => v.displayChars) :: displayItems rest

end

/-- The plain text of a value. -/
def display (v : Value) : String := .ofList v.displayChars

/-- The plain text of a value inside of a list, where null is blank. -/
def displayPart (v : Value) : List Char := if v.isNull then [] else v.displayChars

end Value
end Gleaner
