import Gleaner.Value.Basic

/-!
# The text of a value as a stream

`Value.encode` writes the JSON text of a value straight away, without the document in between.
-/

namespace Gleaner.Value

/-- The text of a number: an integer of moderate size has no point, a number that is not finite is
null. -/
def encodeNumber (x : Double) : List Char :=
  if x.isFinite && x.isSafeInteger then intText x.toSignedWord
  else if x.isFinite then x.literal
  else "null".toList

mutual

/-- The JSON text of a value. -/
def encode : Value → List Char
  | .null => "null".toList
  | .bool b => (if b then "true" else "false").toList
  | .number x => encodeNumber x
  | .string s => Json.quoted s
  | .date t => Json.quoted (.ofList t.iso)
  | .array items => '[' :: encodeItems items ++ [']']
  | .object fields => '\x7b' :: encodeFields fields ++ ['\x7d']

/-- Items with commas between them. -/
def encodeItems : List Value → List Char
  | [] => []
  | [v] => v.encode
  | v :: rest => v.encode ++ ',' :: encodeItems rest

/-- Entries with commas between them. -/
def encodeFields : List (String × Value) → List Char
  | [] => []
  | [(key, v)] => Json.quoted key ++ ':' :: v.encode
  | (key, v) :: rest => Json.quoted key ++ ':' :: v.encode ++ ',' :: encodeFields rest

end

/-- The JSON text of a value. -/
def encoded (v : Value) : String := .ofList v.encode

end Gleaner.Value
