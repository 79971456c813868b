import Gleaner.Coerce.Options
import Gleaner.Transform.Pipeline

/-!
# Schemas

A schema says what to extract: a value schema asks for one typed value or a list of them, an
object schema has a schema for each of its keys.

## Main statements

- `Schema.inherit_inherit` : inheriting twice is inheriting once from the joined options.
-/

namespace Gleaner

/-- The selector strings of a value schema. Of a list only the first is in effect, and it selects
every match. -/
inductive QueryChoice where
  /-- The first match. -/
  | one (selector : String)
  /-- Every match. -/
  | all (selectors : List String)
  deriving DecidableEq, Repr

namespace QueryChoice

/-- The selector string in effect. -/
def active : QueryChoice → Option String
  | one selector => some selector
  | all selectors => selectors.head?

/-- Whether every match is selected. -/
def isAll : QueryChoice → Bool
  | one _ => false
  | all _ => true

end QueryChoice

/-- Where a schema is resolved. -/
inductive Scope where
  /-- At the first match of a query; an empty query is no scope. -/
  | first (query : String)
  /-- At every match of the first query. An empty list or an empty first query stands for the
  parents of the matches of the selector. -/
  | all (queries : List String)
  deriving DecidableEq, Repr

/-- Options of every schema. -/
structure SchemaOptions where
  /-- Where the schema is resolved. -/
  scope : Option Scope := none
  /-- Whether extracted text is trimmed; it is unless this is false. -/
  trim : Option Bool := none
  /-- Transforms of single values. -/
  transforms : List Transform := []
  /-- Transforms of the result of a list selector. -/
  arrTransforms : List Transform := []
  /-- Whether an object is merged into the object around it. -/
  flat : Bool := false

/-- The options of a field inside of an object with options of its own: trimming is inherited
where it is not set, and the transforms of the object come after those of the field. -/
def SchemaOptions.inherit (o parent : SchemaOptions) : SchemaOptions :=
  { o with
    trim := o.trim.or parent.trim
    transforms := o.transforms ++ parent.transforms
    arrTransforms := o.arrTransforms ++ parent.arrTransforms }

/-- The type that a value schema asks for. -/
inductive ValueKind where
  /-- A text, for want of a type. -/
  | implicit (o : TextOptions)
  /-- A text. -/
  | text (o : TextOptions)
  /-- A number. -/
  | number (o : NumberOptions)
  /-- A boolean. -/
  | boolean (o : BooleanOptions)
  /-- A date. -/
  | date (o : DateOptions)
  /-- No type that a shipped resolver knows. -/
  | unclaimed
  deriving DecidableEq

/-- What to extract. -/
inductive Schema where
  /-- One typed value, or a list of them. -/
  | value (selector : QueryChoice) (kind : ValueKind) (options : SchemaOptions)
  /-- An object with a schema for each key. A disabled one is not resolved as an object. -/
  | object (fields : List (String × Schema)) (options : SchemaOptions)
      (objTransforms : List Transform) (enabled : Bool)

namespace Schema

instance : Inhabited Schema := ⟨.value (.one "") .unclaimed {}⟩

/-- The options of a schema. -/
def options : Schema → SchemaOptions
  | .value _ _ options => options
  | .object _ options _ _ => options

/-- The schema with its options changed. -/
def mapOptions (f : SchemaOptions → SchemaOptions) : Schema → Schema
  | .value selector kind options => .value selector kind (f options)
  | .object fields options objTransforms enabled =>
    .object fields (f options) objTransforms enabled

/-- The schema as a field of an object with options of its own. -/
def inherit (schema : Schema) (parent : SchemaOptions) : Schema :=
  schema.mapOptions (·.inherit parent)

theorem inherit_inherit (schema : Schema) (inner outer : SchemaOptions) :
    (schema.inherit inner).inherit outer = schema.inherit (inner.inherit outer) := by
  cases schema <;>
    simp [inherit, mapOptions, SchemaOptions.inherit, List.append_assoc, Option.or_assoc]

theorem inherit_default (schema : Schema) : schema.inherit {} = schema := by
  cases schema <;> simp [inherit, mapOptions, SchemaOptions.inherit]

end Schema
end Gleaner
