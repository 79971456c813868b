import Gleaner.Json.Basic

/-!
# Settings

A setting is what a configuration document says at one place, as far as a configuration can make
use of it. Notations in which a scalar can be read in more than one way say for each way what it
reads as.
-/

namespace Gleaner

/-- A place of a configuration document. -/
inductive Setting where
  /-- Nothing is written. -/
  | blank
  /-- A scalar, as a text and as a truth value where it can be read so. -/
  | scalar (text? : Option String) (flag? : Option Bool)
  /-- Settings in order. -/
  | list (items : List Setting)
  /-- Settings by name, in order. -/
  | record (fields : List (Setting × Setting))

namespace Setting

/-- A text. Where nothing is written it is empty. -/
def asText : Setting → Option String
  | .blank => some ""
  | .scalar text? _ => text?
  | _ => none

/-- A truth value. -/
def asFlag : Setting → Option Bool
  | .scalar _ flag? => flag?
  | _ => none

/-- Texts in order; none where nothing is written. -/
def asTexts : Setting → Option (List String)
  | .blank => some []
  | .list items => items.mapM asText
  | _ => none

/-- A record with fields put into it, each at most once; other names do not count. -/
def putFields {α : Type} (keys : List String) (put : α → String → Setting → Option α) :
    List String → α → List (Setting × Setting) → Option α
  | _, result, [] => some result
  | seen, result, (name, value) :: rest =>
    match name.asText with
    | none => none
    | some key =>
      if keys.contains key then
        if seen.contains key then none
        else (put result key value).bind fun next => putFields keys put (key :: seen) next rest
      else putFields keys put seen result rest

/-- A record by its fields: by name, or all in order from the first. -/
def asRecord {α : Type} (keys : List String) (initial : α)
    (put : α → String → Setting → Option α) : Setting → Option α
  | .blank => some initial
  | .scalar _ _ => none
  | .list items =>
    if keys.length < items.length then none
    else (keys.zip items).foldlM (fun result (key, value) => put result key value) initial
  | .record fields => putFields keys put [] initial fields

mutual

/-- The setting of a JSON document. Its scalars read in one way only. -/
def ofJson : Json → Setting
  | .null => .scalar none none
  | .bool b => .scalar none (some b)
  | .number _ => .scalar none none
  | .string s => .scalar (some s) none
  | .array items => .list (ofItems items)
  | .object fields => .record (ofFields fields)

/-- The settings of the items of an array. -/
def ofItems : List Json → List Setting
  | [] => []
  | item :: rest => ofJson item :: ofItems rest

/-- The settings of the entries of an object. -/
def ofFields : List (String × Json) → List (Setting × Setting)
  | [] => []
  | (key, value) :: rest => (.scalar (some key) none, ofJson value) :: ofFields rest

end

end Setting
end Gleaner
