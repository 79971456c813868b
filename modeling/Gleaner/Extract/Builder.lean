import Gleaner.Extract.Resolve
import Gleaner.Transform.Builtin

/-!
# Assembling extractors

A builder collects resolvers and transforms; an extractor needs at least one resolver, and one that
resolves no objects.
-/

namespace Gleaner

variable {Node : Type}

/-- An extractor in the making. -/
structure Builder (Node : Type) where
  /-- The documents. -/
  model : DocumentModel Node
  /-- The resolvers so far. -/
  resolvers : List (Resolver Node) := []
  /-- The registries so far. -/
  registries : Registries := .empty

namespace Builder

/-- A builder with one more resolver at the end. -/
def resolver (b : Builder Node) (r : Resolver Node) : Builder Node :=
  { b with resolvers := b.resolvers ++ [r] }

/-- A builder with one more resolver, which is asked first. -/
def resolverFirst (b : Builder Node) (r : Resolver Node) : Builder Node :=
  { b with resolvers := r :: b.resolvers }

/-- A builder with the built-in transforms in all registries. -/
def withBuiltins (b : Builder Node) : Builder Node :=
  let add (r : Registry) := r.extend .builtins
  let r := b.registries
  { b with registries := ⟨add r.transforms, add r.arrTransforms, add r.objTransforms⟩ }

/-- A builder with a transform of values. -/
def transform (b : Builder Node) (name : String) (f : TransformFn) : Builder Node :=
  { b with registries.transforms := b.registries.transforms.register name f }

/-- A builder with a transform of lists. -/
def arrTransform (b : Builder Node) (name : String) (f : TransformFn) : Builder Node :=
  { b with registries.arrTransforms := b.registries.arrTransforms.register name f }

/-- A builder with a transform of objects. -/
def objTransform (b : Builder Node) (name : String) (f : TransformFn) : Builder Node :=
  { b with registries.objTransforms := b.registries.objTransforms.register name f }

/-- A builder with the transforms of a registry as transforms of values. -/
def transforms (b : Builder Node) (r : Registry) : Builder Node :=
  { b with registries.transforms := b.registries.transforms.extend r }

/-- The extractor, if it can be assembled. -/
def build (b : Builder Node) : Except SetupError (Extractor Node) :=
  if b.resolvers.isEmpty then .error .noResolvers
  else if b.resolvers.all (·.isObject) then .error .missingDelegate
  else .ok ⟨b.model, b.resolvers, b.registries⟩

/-- A builder with resolvers of some kinds and the built-in transforms. -/
def preset (model : DocumentModel Node) (kinds : List ResolverKind) : Builder Node :=
  ({ model, resolvers := kinds.map .shipped } : Builder Node).withBuiltins

/-- Resolvers of objects, numbers and texts. -/
def basic (model : DocumentModel Node) : Builder Node :=
  preset model [.object, .number, .default]

/-- Resolvers of every type. -/
def full (model : DocumentModel Node) : Builder Node :=
  preset model [.object, .number, .boolean, .date, .default]

end Builder
end Gleaner
