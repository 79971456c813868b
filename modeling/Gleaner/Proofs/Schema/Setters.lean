import Gleaner.Proofs.Schema.KeyOrder
import Gleaner.Schema.Build
import Mathlib.Data.List.Induction

/-!
# Setters

The functions that set an option of a schema, as data, and the entries of a schema document in
which the same choices are written. Of a choice that is made more than once the last one counts,
but every transform is added to those before it.

## Main definitions

* `Setter`: a call of a setter.
* `Setter.optionsOf`, `Setter.objTransformsOf`: what a sequence of calls leads to.
* `Setter.entries`, `Setter.objectEntries`: the same choices as the entries of a document.

## Main results

* `Setter.applyAll_value`, `Setter.applyAll_object`: the schema that a sequence of calls builds.
* `Setter.optionsAt_entries`: the options are read back from the entries.
* `Setter.objectAt_entries`: what only objects have is read back.
-/

namespace Gleaner

open Schema

/-! ### Entries that are written or left out -/

/-- The entries of a document, of which those without a value are left out. -/
def Json.writtenEntries (table : List (String × Option Json)) : List (String × Json) :=
  table.filterMap fun entry => entry.2.map (entry.1, ·)

namespace Json

/-- The keys are some of those of the table, in their order. -/
theorem keys_writtenEntries_sublist (table : List (String × Option Json)) :
    ((writtenEntries table).map (·.1)).Sublist (table.map (·.1)) := by
  induction table with
  | nil => exact .slnil
  | cons entry table ih =>
    obtain ⟨key, value⟩ := entry
    cases value with
    | none => exact ih.cons key
    | some v => exact ih.cons_cons key

/-- The entries have the values of the table, if no key stands twice in it. -/
theorem lookup_writtenEntries {table : List (String × Option Json)}
    (h : (table.map (·.1)).Nodup) (key : String) :
    (writtenEntries table).lookup key = (table.lookup key).join := by
  induction table with
  | nil => rfl
  | cons entry table ih =>
    obtain ⟨k, value⟩ := entry
    rw [List.map_cons, List.nodup_cons] at h
    have htail := ih h.2
    by_cases hkey : key = k
    · subst hkey
      cases value with
      | none =>
        -- the key is left out here, and it does not stand further down
        have hrest : (writtenEntries table).lookup key = none :=
          lookup_eq_none_of_notMem fun hmem => h.1 ((keys_writtenEntries_sublist table).subset hmem)
        rw [List.lookup_cons_self]
        exact hrest
      | some v => rw [List.lookup_cons_self]; exact List.lookup_cons_self
    · rw [List.lookup_cons, beq_eq_false_iff_ne.2 hkey, ← htail]
      cases value with
      | none => rfl
      | some v =>
        show ((k, v) :: writtenEntries table).lookup key = _
        rw [List.lookup_cons, beq_eq_false_iff_ne.2 hkey]

end Json

open Json

/-- A scope as a document: one query, or a list of queries. -/
def Scope.toJson : Scope → Json
  | .first query => .string query
  | .all queries => .array (queries.map .string)

/-! ### Setters -/

/-- A call of a setter. -/
inductive Setter where
  /-- Sets the scope. -/
  | scope (scope : Scope)
  /-- Sets the scope to each match of a query. -/
  | scopeAll (query : String)
  /-- Sets the scope to the parents of the matches of the selector. -/
  | autoScope
  /-- Sets whether text is trimmed. -/
  | trim (trim : Bool)
  /-- Adds a transform of values. -/
  | transform (spec : String)
  /-- Adds a transform of lists. -/
  | arrTransform (spec : String)
  /-- Adds a transform of objects. -/
  | objTransform (spec : String)
  /-- Merges the schema into the object around it. -/
  | flatten
  /-- Opts the schema out of being resolved as an object. -/
  | disabled
  deriving DecidableEq

namespace Setter

/-- The schema after the call. -/
def apply (schema : Schema) : Setter → Schema
  | scope s => schema.withScope s
  | scopeAll query => schema.scopeAll query
  | autoScope => schema.autoScope
  | trim b => schema.withTrim b
  | transform spec => schema.withTransform (.named spec)
  | arrTransform spec => schema.withArrTransform (.named spec)
  | objTransform spec => schema.withObjTransform (.named spec)
  | flatten => schema.flatten
  | disabled => schema.disabled

/-- The schema after a sequence of calls. -/
def applyAll (schema : Schema) (setters : List Setter) : Schema := setters.foldl apply schema

/-- The scope that a call sets. -/
def scope? : Setter → Option Scope
  | scope s => some s
  | scopeAll query => some (.all [query])
  | autoScope => some (.all [])
  | _ => none

/-- The trimming that a call sets. -/
def trim? : Setter → Option Bool
  | trim b => some b
  | _ => none

/-- The transform of values that a call adds. -/
def transform? : Setter → Option String
  | transform spec => some spec
  | _ => none

/-- The transform of lists that a call adds. -/
def arrTransform? : Setter → Option String
  | arrTransform spec => some spec
  | _ => none

/-- The transform of objects that a call adds. -/
def objTransform? : Setter → Option String
  | objTransform spec => some spec
  | _ => none

/-- The options that a sequence of calls sets: the last scope and trimming, and every transform. -/
def optionsOf (setters : List Setter) : SchemaOptions where
  scope := (setters.filterMap scope?).getLast?
  trim := (setters.filterMap trim?).getLast?
  transforms := (setters.filterMap transform?).map .named
  arrTransforms := (setters.filterMap arrTransform?).map .named
  flat := decide (flatten ∈ setters)

/-- The transforms of objects that a sequence of calls adds. -/
def objTransformsOf (setters : List Setter) : List Transform :=
  (setters.filterMap objTransform?).map .named

/-- One more call is made on what the others have built. -/
theorem applyAll_concat (schema : Schema) (setters : List Setter) (setter : Setter) :
    applyAll schema (setters ++ [setter]) = apply (applyAll schema setters) setter :=
  List.foldl_concat apply schema setter setters

/-- The setters build a value schema with their options; those of objects do nothing. -/
theorem applyAll_value (selector : QueryChoice) (kind : ValueKind) (setters : List Setter) :
    applyAll (.value selector kind {}) setters = .value selector kind (optionsOf setters) := by
  -- the last call comes first in the induction, since the options are extended at their end
  induction setters using List.reverseRecOn with
  | nil => rfl
  | append_singleton setters setter ih =>
    rw [applyAll_concat, ih]
    cases setter <;>
      simp [apply, withScope, Schema.scopeAll, Schema.autoScope, withTrim, withTransform,
        withArrTransform, withObjTransform, Schema.flatten, Schema.disabled, mapOptions, optionsOf,
        scope?, trim?, transform?, arrTransform?, List.filterMap_append]

/-- The setters build an object schema with their options, transforms and opt-out. -/
theorem applyAll_object (fields : List (String × Schema)) (setters : List Setter) :
    applyAll (.object fields {} [] true) setters =
      .object fields (optionsOf setters) (objTransformsOf setters)
        (decide (disabled ∉ setters)) := by
  induction setters using List.reverseRecOn with
  | nil => rfl
  | append_singleton setters setter ih =>
    rw [applyAll_concat, ih]
    cases setter <;>
      simp [apply, withScope, Schema.scopeAll, Schema.autoScope, withTrim, withTransform,
        withArrTransform, withObjTransform, Schema.flatten, Schema.disabled, mapOptions, optionsOf,
        objTransformsOf, scope?, trim?, transform?, arrTransform?, objTransform?,
        List.filterMap_append]

/-! ### Entries -/

/-- A list of transforms as a document; an empty list is left out. -/
def transformsJson? : List String → Option Json
  | [] => none
  | specs => some (.array (specs.map .string))

/-- What is written under the keys of the options that every schema has. -/
def table (setters : List Setter) : List (String × Option Json) := [
  ("scope", (setters.filterMap scope?).getLast?.map Scope.toJson),
  ("trim", (setters.filterMap trim?).getLast?.map .bool),
  ("transforms", transformsJson? (setters.filterMap transform?)),
  ("arrTransforms", transformsJson? (setters.filterMap arrTransform?)),
  ("flat", (if flatten ∈ setters then some true else none).map .bool)]

/-- The entries of the options that every schema has. -/
def entries (setters : List Setter) : List (String × Json) := writtenEntries (table setters)

/-- What is written under the keys that only objects have. -/
def objectTable (setters : List Setter) : List (String × Option Json) := [
  ("objTransforms", transformsJson? (setters.filterMap objTransform?)),
  ("object", (if disabled ∈ setters then some false else none).map .bool)]

/-- The entries that only objects have. -/
def objectEntries (setters : List Setter) : List (String × Json) :=
  writtenEntries (objectTable setters)

end Setter

/-- The keys of the options that every schema has. -/
def SchemaOptions.keys : List String := ["scope", "trim", "transforms", "arrTransforms", "flat"]

namespace Schema

/-- Written texts are read back. -/
theorem textsAt_string (path : String) (i : Nat) (texts : List String) :
    textsAt path i (texts.map .string) = .ok texts := by
  induction texts generalizing i with
  | nil => rfl
  | cons text texts ih => rw [List.map_cons, textsAt, ih]; rfl

/-- Written transforms are read back. -/
theorem transformsAt_of_lookup {fields : List (String × Json)} {key : String}
    {specs : List String} (h : fields.lookup key = Setter.transformsJson? specs) (path : String) :
    transformsAt fields key path = .ok (specs.map .named) := by
  cases specs with
  | nil => rw [transformsAt, h]; rfl
  | cons spec specs =>
    rw [transformsAt, h]
    exact congrArg (Except.map (·.map Transform.named)) (textsAt_string _ 0 (spec :: specs))

/-- A written boolean is read back. -/
theorem flagAt_of_lookup {fields : List (String × Json)} {key : String} {flag : Option Bool}
    (h : fields.lookup key = flag.map .bool) (path : String) :
    flagAt fields key path = .ok flag := by
  cases flag <;> (rw [flagAt, h]; rfl)

/-- A written scope is read back. -/
theorem scopeAt_of_lookup {fields : List (String × Json)} {scope : Option Scope}
    (h : fields.lookup "scope" = scope.map Scope.toJson) (path : String) :
    scopeAt fields path = .ok scope := by
  rw [scopeAt, h]
  rcases scope with _ | query | queries
  · rfl
  · rfl
  · exact congrArg (Except.map (some ∘ Scope.all)) (textsAt_string path 0 queries)

end Schema

namespace Setter

theorem nodup_keys_table (setters : List Setter) : ((table setters).map (·.1)).Nodup :=
  show SchemaOptions.keys.Nodup by decide

theorem nodup_keys_objectTable (setters : List Setter) :
    ((objectTable setters).map (·.1)).Nodup :=
  show ["objTransforms", "object"].Nodup by decide

/-- The keys of the options that are written are some of those of every schema. -/
theorem keys_entries_sublist (setters : List Setter) :
    ((entries setters).map (·.1)).Sublist SchemaOptions.keys :=
  keys_writtenEntries_sublist _

/-- The keys that are written of an object are some of those that only objects have. -/
theorem keys_objectEntries_sublist (setters : List Setter) :
    ((objectEntries setters).map (·.1)).Sublist ["objTransforms", "object"] :=
  keys_writtenEntries_sublist _

/-- The options are read back from their entries, whichever other entries stand before them. -/
theorem optionsAt_entries {front : List (String × Json)}
    (h : ∀ key ∈ SchemaOptions.keys, key ∉ front.map (·.1)) (setters : List Setter)
    (path : String) : optionsAt (front ++ entries setters) path = .ok (optionsOf setters) := by
  have hlookup {key : String} (hkey : key ∈ SchemaOptions.keys) :
      (front ++ entries setters).lookup key = ((table setters).lookup key).join := by
    rw [List.lookup_append, lookup_eq_none_of_notMem (h key hkey), Option.none_or]
    exact lookup_writtenEntries (nodup_keys_table setters) key
  have hscope : scopeAt (front ++ entries setters) path = .ok (optionsOf setters).scope :=
    scopeAt_of_lookup (hlookup (by decide)) path
  have htrim : flagAt (front ++ entries setters) "trim" path = .ok (optionsOf setters).trim :=
    flagAt_of_lookup (hlookup (by decide)) path
  have htransforms : transformsAt (front ++ entries setters) "transforms" path =
      .ok (optionsOf setters).transforms :=
    transformsAt_of_lookup (hlookup (by decide)) path
  have harrTransforms : transformsAt (front ++ entries setters) "arrTransforms" path =
      .ok (optionsOf setters).arrTransforms :=
    transformsAt_of_lookup (hlookup (by decide)) path
  -- merging is only ever written as true, and left out it is false
  have hflat : flagAt (front ++ entries setters) "flat" path =
      .ok (if flatten ∈ setters then some true else none) :=
    flagAt_of_lookup (hlookup (by decide)) path
  have hgetD : (if flatten ∈ setters then some true else none).getD false =
      (optionsOf setters).flat := by
    by_cases hmem : flatten ∈ setters <;> simp [optionsOf, hmem]
  rw [optionsAt, hscope, htrim, htransforms, harrTransforms, hflat]
  exact congrArg (fun flat => Except.ok { optionsOf setters with flat }) hgetD

/-- Where nothing is written, nothing is set. -/
theorem optionsOf_eq_of_entries {setters : List Setter} (h : entries setters = []) :
    optionsOf setters = {} := by
  have hread : optionsAt ([] ++ entries setters) "" = .ok (optionsOf setters) :=
    optionsAt_entries (by simp) setters ""
  rw [h] at hread
  exact (Except.ok.inj hread).symm

/-- What only objects have is read back from its entries, whichever other entries stand around
them. -/
theorem objectAt_entries {front back : List (String × Json)}
    (h : ∀ key ∈ ["objTransforms", "object"], key ∉ front.map (·.1) ∧ key ∉ back.map (·.1))
    (children : List (String × Schema)) (setters : List Setter) (options : SchemaOptions)
    (path : String) :
    objectAt children (front ++ objectEntries setters ++ back) options path =
      .ok (.object children options (objTransformsOf setters) (decide (disabled ∉ setters))) := by
  have hlookup {key : String} (hkey : key ∈ ["objTransforms", "object"]) :
      (front ++ objectEntries setters ++ back).lookup key =
        ((objectTable setters).lookup key).join := by
    rw [List.lookup_append, List.lookup_append, lookup_eq_none_of_notMem (h key hkey).1,
      lookup_eq_none_of_notMem (h key hkey).2, Option.none_or, Option.or_none]
    exact lookup_writtenEntries (nodup_keys_objectTable setters) key
  have htransforms : transformsAt (front ++ objectEntries setters ++ back) "objTransforms" path =
      .ok (objTransformsOf setters) :=
    transformsAt_of_lookup (hlookup (by decide)) path
  -- the opt-out is written as false, and left out the object is enabled
  have henabled : flagAt (front ++ objectEntries setters ++ back) "object" path =
      .ok (if disabled ∈ setters then some false else none) :=
    flagAt_of_lookup (hlookup (by decide)) path
  have hgetD : (if disabled ∈ setters then some false else none).getD true =
      decide (disabled ∉ setters) := by
    by_cases hmem : disabled ∈ setters <;> simp [hmem]
  rw [objectAt, htransforms, henabled, ← hgetD]
  rfl

end Setter
end Gleaner
