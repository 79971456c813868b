import Gleaner.Schema.Basic

/-!
# Building schemas

Constructors of schemas and functions that set one option each.
-/

namespace Gleaner.Schema

/-- A value schema without options. -/
def ofKind (selector : QueryChoice) (kind : ValueKind) : Schema := .value selector kind {}

/-- A text of no declared type. -/
def text (selector : QueryChoice) : Schema := ofKind selector (.implicit {})

/-- A text. -/
def string (selector : QueryChoice) : Schema := ofKind selector (.text {})

/-- A text cut down to the first match of a pattern. -/
def matching (selector : QueryChoice) (pattern : String) : Schema :=
  ofKind selector (.text { pattern := some pattern })

/-- A number. -/
def number (selector : QueryChoice) : Schema := ofKind selector (.number {})

/-- A number made an integer. -/
def integer (selector : QueryChoice) (rounding : Rounding) : Schema :=
  ofKind selector (.number { isInteger := true, rounding })

/-- A boolean. -/
def boolean (selector : QueryChoice) : Schema := ofKind selector (.boolean {})

/-- A date in a format. -/
def date (selector : QueryChoice) (format : Option String) : Schema :=
  ofKind selector (.date { format })

/-- An object; of a repeated key the last schema counts, at the place of the first. -/
def ofFields (fields : List (String × Schema)) : Schema := .object (putAll fields) {} [] true

/-- The schema with a scope. -/
def withScope (schema : Schema) (scope : Scope) : Schema :=
  schema.mapOptions fun o => { o with scope := some scope }

/-- The schema resolved at each match of a query. -/
def scopeAll (schema : Schema) (query : String) : Schema := schema.withScope (.all [query])

/-- The schema resolved at each parent of a match of its selector. -/
def autoScope (schema : Schema) : Schema := schema.withScope (.all [])

/-- The schema with trimming set. -/
def withTrim (schema : Schema) (trim : Bool) : Schema :=
  schema.mapOptions fun o => { o with trim := some trim }

/-- The schema with one more transform of values. -/
def withTransform (schema : Schema) (t : Transform) : Schema :=
  schema.mapOptions fun o => { o with transforms := o.transforms ++ [t] }

/-- The schema with one more transform of lists. -/
def withArrTransform (schema : Schema) (t : Transform) : Schema :=
  schema.mapOptions fun o => { o with arrTransforms := o.arrTransforms ++ [t] }

/-- The schema with one more transform of objects; value schemas have none. -/
def withObjTransform (schema : Schema) (t : Transform) : Schema :=
  match schema with
  | .object fields options objTransforms enabled =>
    .object fields options (objTransforms ++ [t]) enabled
  | schema => schema

/-- The schema merged into the object around it. -/
def flatten (schema : Schema) : Schema := schema.mapOptions fun o => { o with flat := true }

/-- An object whose keys are merged into the object around it. -/
def flat (fields : List (String × Schema)) : Schema := (ofFields fields).flatten

/-- The schema opted out of being resolved as an object. -/
def disabled (schema : Schema) : Schema :=
  match schema with
  | .object fields options objTransforms _ => .object fields options objTransforms false
  | schema => schema

end Gleaner.Schema
