import Gleaner.Transform.Registry
import Gleaner.Transform.Spec

/-!
# Pipelines of transforms

A list of written and inline transforms is bound to a registry, where names that the registry does
not know are left out, and is then applied from left to right.

## Main statements

- `Pipeline.build_append`, `Pipeline.run_append` : pipelines compose.
-/

namespace Gleaner

/-- One entry of a list of transforms. -/
inductive Transform where
  /-- A written transform, to be looked up in a registry. -/
  | named (spec : String)
  /-- A function of its own. -/
  | inline (f : Value → Value)

/-- A transform bound to its function. -/
inductive Step where
  /-- A registered transform with its arguments. -/
  | named (name : String) (f : TransformFn) (args : List Value)
  /-- A function of its own. -/
  | inline (f : Value → Value)

namespace Step

/-- The value after the step. -/
def run : Step → Value → Except TransformError Value
  | .named _ f args, v => f v args
  | .inline f, v => .ok (f v)

/-- The name of the step. -/
def name : Step → String
  | .named name _ _ => name
  | .inline _ => "<inline>"

end Step

/-- The step that a transform stands for; none when the registry does not know its name. -/
def Transform.bind? (registry : Registry) : Transform → Option Step
  | .inline f => some (.inline f)
  | .named spec =>
    let parsed := TransformSpec.ofText spec
    (registry.get? parsed.name).map fun f => .named parsed.name f parsed.args

/-- Bound transforms in the order of their application. -/
abbrev Pipeline := List Step

namespace Pipeline

/-- The pipeline of a list of transforms. -/
def build (transforms : List Transform) (registry : Registry) : Pipeline :=
  transforms.filterMap (·.bind? registry)

/-- The value after all steps; the first failing step ends the run. -/
def run : Pipeline → Value → Except TransformError Value
  | [], v => .ok v
  | step :: rest, v =>
    match step.run v with
    | .ok w => run rest w
    | .error e => .error e

theorem build_append (xs ys : List Transform) (registry : Registry) :
    build (xs ++ ys) registry = build xs registry ++ build ys registry :=
  List.filterMap_append

theorem run_append (p q : Pipeline) (v : Value) :
    run (p ++ q) v =
      match run p v with
      | .ok w => run q w
      | .error e => .error e := by
  induction p generalizing v with
  | nil => rfl
  | cons step rest ih =>
    simp only [List.cons_append, run]
    cases step.run v with
    | ok w => exact ih w
    | error e => rfl

end Pipeline
end Gleaner
