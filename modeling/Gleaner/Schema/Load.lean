import Gleaner.Error
import Gleaner.Schema.Basic

/-!
# Reading schemas

A schema document is a selector string, a list of them, or an object with a `selector` and options.
An error names the place of what it rejects.
-/

namespace Gleaner.Schema

/-- The error of a document that is not what is expected at a path. -/
def unexpected {α : Type} (path expected : String) (found : Json) : Except SchemaError α :=
  .error ⟨path, "expected " ++ expected ++ ", found " ++ found.compact⟩

/-- The texts of a list, whose items are counted from an index. -/
def textsAt (path : String) : Nat → List Json → Except SchemaError (List String)
  | _, [] => .ok []
  | i, .string s :: rest => (textsAt path (i + 1) rest).map (s :: ·)
  | i, item :: _ => unexpected (path ++ "[" ++ .ofList (digits i) ++ "]") "a string" item

/-- A boolean that may be missing or null. -/
def flagAt (fields : List (String × Json)) (key path : String) :
    Except SchemaError (Option Bool) :=
  match fields.lookup key with
  | none => .ok none
  | some .null => .ok none
  | some (.bool b) => .ok (some b)
  | some other => unexpected (path ++ "." ++ key) "a boolean" other

/-- Written transforms: one, a list of them, or none. -/
def transformsAt (fields : List (String × Json)) (key path : String) :
    Except SchemaError (List Transform) :=
  match fields.lookup key with
  | none => .ok []
  | some .null => .ok []
  | some (.string spec) => .ok [.named spec]
  | some (.array items) => (textsAt (path ++ "." ++ key) 0 items).map (·.map .named)
  | some other => unexpected (path ++ "." ++ key) "a transform name or a list of names" other

/-- The scope of a schema. Items of a list of queries are reported at the path of the schema. -/
def scopeAt (fields : List (String × Json)) (path : String) :
    Except SchemaError (Option Scope) :=
  match fields.lookup "scope" with
  | none => .ok none
  | some .null => .ok none
  | some (.string query) => .ok (some (.first query))
  | some (.array items) => (textsAt path 0 items).map fun queries => some (.all queries)
  | some other => unexpected (path ++ ".scope") "a string or a list" other

/-- The options that every schema has. -/
def optionsAt (fields : List (String × Json)) (path : String) :
    Except SchemaError SchemaOptions := do
  let scope ← scopeAt fields path
  let trim ← flagAt fields "trim" path
  let transforms ← transformsAt fields "transforms" path
  let arrTransforms ← transformsAt fields "arrTransforms" path
  let flat ← flagAt fields "flat" path
  return { scope, trim, transforms, arrTransforms, flat := flat.getD false }

/-- The options of a type, read from the same keys. -/
def typedAt {α : Type} (read : Json → Except String α) (fields : List (String × Json))
    (path : String) : Except SchemaError α :=
  match read (.object fields) with
  | .ok o => .ok o
  | .error reason => .error ⟨path, reason⟩

/-- The type of a value schema. The flags count in the order number, boolean, date, text. -/
def kindAt (fields : List (String × Json)) (path : String) : Except SchemaError ValueKind := do
  if (← flagAt fields "number" path) = some true then
    return .number (← typedAt NumberOptions.ofJson fields path)
  if (← flagAt fields "boolean" path) = some true then
    return .boolean (← typedAt BooleanOptions.ofJson fields path)
  if (← flagAt fields "date" path) = some true then
    return .date (← typedAt DateOptions.ofJson fields path)
  match ← flagAt fields "string" path with
  | some true => return .text (← typedAt TextOptions.ofJson fields path)
  | some false => return .unclaimed
  | none => return .implicit (← typedAt TextOptions.ofJson fields path)

/-- A value schema with its type and options. -/
def valueAt (selector : QueryChoice) (fields : List (String × Json)) (options : SchemaOptions)
    (path : String) : Except SchemaError Schema :=
  (kindAt fields path).map fun kind => .value selector kind options

/-- An object schema with its options. -/
def objectAt (children : List (String × Schema)) (fields : List (String × Json))
    (options : SchemaOptions) (path : String) : Except SchemaError Schema := do
  let objTransforms ← transformsAt fields "objTransforms" path
  let enabled ← flagAt fields "object" path
  return .object children options objTransforms (enabled.getD true)

mutual

/-- The schema of a document at a path. -/
def load (path : String) : Json → Except SchemaError Schema
  | .string selector => .ok (.value (.one selector) (.implicit {}) {})
  | .array items =>
    (textsAt path 0 items).map fun selectors => .value (.all selectors) (.implicit {}) {}
  | .object fields => do
    let options ← optionsAt fields path
    loadSelector fields options path fields
  | .null => unexpected path "a string, a list or an object" .null
  | .bool b => unexpected path "a string, a list or an object" (.bool b)
  | .number n => unexpected path "a string, a list or an object" (.number n)

/-- The schema of an object of options, by its selector: `rest` are the entries in which the
selector is looked for. Without one it is empty. -/
def loadSelector (fields : List (String × Json)) (options : SchemaOptions) (path : String) :
    (rest : List (String × Json)) → Except SchemaError Schema
  | [] => valueAt (.one "") fields options path
  | (key, selector) :: rest =>
    if key = "selector" then
      match selector with
      | .object children => do
        objectAt (← loadFields path children) fields options path
      | .string query => valueAt (.one query) fields options path
      | .array items => do valueAt (.all (← textsAt path 0 items)) fields options path
      | .null => valueAt (.one "") fields options path
      | other => unexpected (path ++ ".selector") "a string, a list or an object" other
    else loadSelector fields options path rest

/-- The schemas of the fields of an object at a path. -/
def loadFields (path : String) :
    List (String × Json) → Except SchemaError (List (String × Schema))
  | [] => .ok []
  | (key, child) :: rest => do
    let schema ← load (path ++ "." ++ key) child
    let others ← loadFields path rest
    return (key, schema) :: others

end

/-- The schema of a document. -/
def ofJson (j : Json) : Except SchemaError Schema := load "$" j

end Gleaner.Schema
