import Gleaner.Coerce.Date
import Gleaner.Coerce.Scalar
import Gleaner.Extract.Scope

/-!
# Resolving values

The content of a match is trimmed, transformed and brought to the type that the schema asks for.
-/

namespace Gleaner

variable {Node : Type}

/-- What an attribute of a match holds: its text unless an attribute is named, or its markup. -/
def contentOf (m : DocumentModel Node) (attr : Option String) (node : Node) : Value :=
  match attr with
  | none => .string (m.text node)
  | some name =>
    if name = "text" then .string (m.text node)
    else if name = "html" || name = "innerHTML" then .string (m.innerHtml node)
    else if name = "outerHTML" then .string (m.outerHtml node)
    else .ofText? (m.attr node name)

/-- A text without outer blanks; other values are left. -/
def trimValue : Value → Value
  | .string s => .string (.ofList (trim s.toList))
  | v => v

/-- A value brought to a type. -/
def ValueKind.coerce (kind : ValueKind) (raw : Value) : Except ResolveError Value :=
  match kind with
  | .implicit o => Coerce.text o raw
  | .text o => Coerce.text o raw
  | .number o => .ok (Coerce.number o raw)
  | .boolean o => .ok (Coerce.boolean o raw)
  | .date o => .ok (Coerce.date o raw)
  | .unclaimed => .ok raw

/-- A value after a pipeline. -/
def runPipeline (pipeline : Pipeline) (v : Value) : Except ResolveError Value :=
  match pipeline.run v with
  | .ok w => .ok w
  | .error e => .error (.transform e)

/-- The result for one match, or for none. -/
def finish (x : Extractor Node) (selector : Selector) (kind : ValueKind)
    (options : SchemaOptions) (found : Option Node) : Except ResolveError Value :=
  let raw :=
    match found with
    | some node => contentOf x.model selector.attr node
    | none => .null
  let trimmed := if options.trim = some false then raw else trimValue raw
  let transforms := selector.transforms.map Transform.named ++ options.transforms
  match runPipeline (.build transforms x.registries.transforms) trimmed with
  | .ok v => kind.coerce v
  | .error e => .error e

/-- The result of a value schema at a node. -/
def resolveValue (x : Extractor Node) (choice : QueryChoice) (kind : ValueKind)
    (options : SchemaOptions) (node : Node) : Except ResolveError Value :=
  match choice.active with
  | none => .error .emptySelector
  | some raw =>
    let selector := Selector.ofText raw
    match selector.query with
    | none => .error .emptySelector
    | some query =>
      if choice.isAll then
        match x.model.findAll node query with
        | none => .error (.invalidQuery query)
        | some nodes =>
          match collect (fun found => finish x selector kind options (some found)) nodes with
          | .error e => .error e
          | .ok values =>
            runPipeline (.build options.arrTransforms x.registries.arrTransforms) (.array values)
      else
        match x.model.findFirst node query with
        | none => .error (.invalidQuery query)
        | some found => finish x selector kind options found

end Gleaner
