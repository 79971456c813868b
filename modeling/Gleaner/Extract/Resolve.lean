import Gleaner.Extract.Value

/-!
# Resolving schemas

A schema is resolved by the first resolver that claims it; one that none claims is null. An object
resolves its fields in order with the options that they inherit, and merges flat objects into
itself.
-/

namespace Gleaner

variable {Node : Type}

/-- A field of an object: its key, whether it is flat, and its result. -/
structure FieldResult where
  key : String
  flat : Bool
  value : Value

/-- The entries of an object with the entries of another put into it. -/
def mergeEntries (entries more : List (String × Value)) : List (String × Value) :=
  more.foldl (fun acc (key, v) => putEntry key v acc) entries

/-- The entries that flat objects contribute. -/
def flatEntries (results : List FieldResult) : List (String × Value) :=
  results.foldl (fun acc r =>
    match r.flat, r.value with
    | true, .object fields => mergeEntries acc fields
    | _, _ => acc) []

/-- The entries of the fields that are not merged. -/
def ownEntries (results : List FieldResult) : List (String × Value) :=
  results.foldl (fun acc r =>
    match r.flat, r.value with
    | true, .object _ => acc
    | _, v => putEntry r.key v acc) []

/-- The entries of an object from the results of its fields. An entry of a flat object wins over
one of the same key. -/
def assemble (results : List FieldResult) : List (String × Value) :=
  mergeEntries (ownEntries results) (flatEntries results)

mutual

/-- The result of a schema, as a field of objects whose options it inherits, at a path of the
result. -/
def resolveIn (x : Extractor Node) (inherited : SchemaOptions) (path : String)
    (node? : Option Node) : Schema → Except ResolveError Value
  | .value choice kind options =>
    let options := options.inherit inherited
    let schema := Schema.value choice kind options
    match x.dispatch schema with
    | none => .ok .null
    | some (.shipped _) =>
      resolveScoped x.model (resolveValue x choice kind options) node? schema
    | some (.custom _ _ resolve) =>
      resolveScoped x.model (fun node => resolve path node schema) node? schema
  | .object fields options objTransforms enabled =>
    let options := options.inherit inherited
    let schema := Schema.object fields options objTransforms enabled
    match x.dispatch schema with
    | none => .ok .null
    | some (.shipped _) =>
      resolveScoped x.model (fun node =>
        match resolveFields x options path node fields with
        | .error e => .error e
        | .ok results =>
          runPipeline (.build objTransforms x.registries.objTransforms)
            (.object (assemble results))) node? schema
    | some (.custom _ _ resolve) =>
      resolveScoped x.model (fun node => resolve path node schema) node? schema

/-- The results of the fields of an object at a node, or the first error. -/
def resolveFields (x : Extractor Node) (inherited : SchemaOptions) (path : String) (node : Node) :
    List (String × Schema) → Except ResolveError (List FieldResult)
  | [] => .ok []
  | (key, field) :: rest =>
    match resolveIn x inherited (path ++ "." ++ key) (some node) field with
    | .error e => .error e
    | .ok v =>
      match resolveFields x inherited path node rest with
      | .ok results => .ok (⟨key, field.options.flat, v⟩ :: results)
      | .error e => .error e

end

namespace Extractor

/-- The result of a schema at a node, or without one. -/
def resolve (x : Extractor Node) (node? : Option Node) (schema : Schema) :
    Except ResolveError Value :=
  resolveIn x {} "$" node? schema

/-- The result of a schema for a document with a source. -/
def resolveText (x : Extractor Node) (source : String) (schema : Schema) :
    Except ResolveError Value :=
  x.resolve (some (x.model.load source)) schema

end Extractor
end Gleaner
