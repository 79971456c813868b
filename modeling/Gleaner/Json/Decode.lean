import Gleaner.Json.Write
import Gleaner.Text.Quoted

/-!
# Reading records from JSON

Readers of scalars, and of records whose fields stand in an object under their keys or in an array
in order. An error says what was found and what was wanted.
-/

namespace Gleaner.Json

/-- A document as an error names it. -/
def found : Json → String
  | .null => "null"
  | .bool b => "boolean `" ++ (if b then "true" else "false") ++ "`"
  | .number (.integer n) => "integer `" ++ .ofList (intText n) ++ "`"
  | .number (.real x) => "floating point `" ++ .ofList x.literal ++ "`"
  | .string s => "string " ++ quoteText s
  | .array _ => "sequence"
  | .object _ => "map"

/-- The error of a document that is not of the wanted kind. -/
def wrongType {α : Type} (wanted : String) (j : Json) : Except String α :=
  .error ("invalid type: " ++ j.found ++ ", expected " ++ wanted)

/-- A boolean. -/
def asBool : Json → Except String Bool
  | .bool b => .ok b
  | j => j.wrongType "a boolean"

/-- A number. -/
def asDouble : Json → Except String Double
  | .number n => .ok n.toDouble
  | j => j.wrongType "f64"

/-- A text. -/
def asText : Json → Except String String
  | .string s => .ok s
  | j => j.wrongType "a string"

/-- A document that may be null. -/
def orNull {α : Type} (read : Json → Except String α) : Json → Except String (Option α)
  | .null => .ok none
  | j => (read j).map some

/-- The texts of a list, when all its items are texts. -/
def texts? : List Json → Option (List String)
  | [] => some []
  | .string s :: rest => (texts? rest).map (s :: ·)
  | _ => none

/-- One text or several, or null for none. -/
def asTexts : Json → Except String (List String)
  | .null => .ok []
  | .string s => .ok [s]
  | .array items =>
    match texts? items with
    | some texts => .ok texts
    | none => .error "data did not match any variant of untagged enum OneOrMany"
  | _ => .error "data did not match any variant of untagged enum OneOrMany"

/-- One of a list of words. A word may also be the only key of an object, whose value is null. -/
def asWord (words : List String) : Json → Except String String
  | .string s => ofName s
  | .object [(key, value)] =>
    match ofName key, value with
    | .ok word, .null => .ok word
    | .ok _, value => value.wrongType "unit"
    | .error e, _ => .error e
  | .object _ => .error "invalid value: map, expected map with a single key"
  | j => j.wrongType "string or map"
where
  /-- The word itself, if it is one of the list. -/
  ofName (s : String) : Except String String :=
    if words.contains s then .ok s
    else
      .error ("unknown variant `" ++ s ++ "`, expected one of " ++
        ", ".intercalate (words.map fun word => "`" ++ word ++ "`"))

/-- A record read field by field from the entries of an object, in their order. Keys that are not
fields do not count. -/
def foldFields {α : Type} (put : α → String → Json → Except String α) :
    α → List (String × Json) → Except String α
  | record, [] => .ok record
  | record, (key, value) :: rest =>
    match put record key value with
    | .ok record => foldFields put record rest
    | .error e => .error e

/-- A record read from an object, or from an array of its fields in order. Items beyond the last field
are an error, but one that comes after those of the fields. -/
def asRecord {α : Type} (name : String) (keys : List String) (initial : α)
    (put : α → String → Json → Except String α) : Json → Except String α
  | .object fields => foldFields put initial fields
  | .array items =>
    match foldFields put initial (keys.zip items) with
    | .error e => .error e
    | .ok record =>
      if keys.length < items.length then
        .error ("invalid length " ++ toString items.length ++ ", expected fewer elements in array")
      else .ok record
  | j => j.wrongType ("struct " ++ name)

end Gleaner.Json
