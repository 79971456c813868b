import Gleaner.Extract.Builder
import Gleaner.Proofs.Extract.Placement

/-!
# Extractors of shipped resolvers

The shipped resolvers choose by the kind of a schema alone. For an extractor made of them,
`resolveIn` has one equation for value schemas and one for object schemas, with the results of
an object at one node in `resolveObject`.

## Main definitions

* `Extractor.ofKinds`, `Extractor.full`: shipped resolvers in any order, and those of the full
  preset.
* `resolveObject`: the result of an object schema at one node.

## Main results

* `Schema.induction`: induction over a schema with the hypothesis at every field.
* `resolveIn_value`, `resolveIn_object`: the two equations.
* `resolveFields_eq_ok_iff`, `exists_of_resolveFields_eq_error`, `resolveFields_fails`: the
  fields of an object succeed with the results of each, and fail exactly when one of them does.
* `resolveFields_append`: the fields of an object in two parts.
* `resolveFields_map_congr`, `resolveFields_congr`: fields that are changed, or resolved by another
  extractor, without changing their results.
-/

namespace Gleaner

variable {Node : Type}

namespace Schema

/-- Induction over a schema, with the hypothesis at every field of an object. -/
@[elab_as_elim]
theorem induction {motive : Schema → Prop}
    (value : ∀ choice kind options, motive (.value choice kind options))
    (object : ∀ fields options objTransforms enabled, (∀ entry ∈ fields, motive entry.2) →
      motive (.object fields options objTransforms enabled)) :
    ∀ schema, motive schema
  | .value choice kind options => value choice kind options
  | .object fields options objTransforms enabled =>
    object fields options objTransforms enabled fun entry _ => induction value object entry.2
termination_by schema => sizeOf schema
decreasing_by
  have hentry := List.sizeOf_lt_of_mem ‹entry ∈ fields›
  have hfield : sizeOf entry.2 < sizeOf entry := by
    cases entry
    simp only [Prod.mk.sizeOf_spec]
    omega
  simp only [Schema.object.sizeOf_spec]
  omega

end Schema

/-- Nothing is inherited from the options by default. -/
@[simp]
theorem SchemaOptions.inherit_default (o : SchemaOptions) : o.inherit {} = o := by
  simp [SchemaOptions.inherit]

namespace Extractor

/-- The extractor that asks shipped resolvers of some kinds, in this order. -/
def ofKinds (m : DocumentModel Node) (kinds : List ResolverKind) (registries : Registries) :
    Extractor Node :=
  ⟨m, kinds.map .shipped, registries⟩

/-- The extractor with the resolvers of the full preset. -/
def full (m : DocumentModel Node) (registries : Registries) : Extractor Node :=
  ⟨m, (Builder.full m).resolvers, registries⟩

/-- The full preset is an extractor of shipped resolvers. -/
theorem full_eq_ofKinds (m : DocumentModel Node) (registries : Registries) :
    full m registries = ofKinds m [.object, .number, .boolean, .date, .default] registries := rfl

/-- Building the full preset gives its extractor with the built-in transforms. -/
theorem build_full (m : DocumentModel Node) :
    (Builder.full m).build = .ok (full m (Builder.full m).registries) := rfl

variable (m : DocumentModel Node) (kinds : List ResolverKind) (registries : Registries)

@[simp]
theorem model_ofKinds : (ofKinds m kinds registries).model = m := rfl

/-- A schema goes to the first kind that claims it. -/
theorem dispatch_ofKinds (schema : Schema) :
    (ofKinds m kinds registries).dispatch schema =
      (kinds.find? (·.claims schema)).map .shipped := by
  rw [dispatch, ofKinds, List.find?_map]
  rfl

end Extractor

/-- The result of an object schema at a node: its fields put together, and then transformed. -/
def resolveObject (x : Extractor Node) (options : SchemaOptions) (objTransforms : List Transform)
    (path : String) (fields : List (String × Schema)) (node : Node) :
    Except ResolveError Value :=
  match resolveFields x options path node fields with
  | .error e => .error e
  | .ok results =>
    runPipeline (.build objTransforms x.registries.objTransforms) (.object (assemble results))

section Equations

variable (m : DocumentModel Node) (kinds : List ResolverKind) (registries : Registries)
  (inherited : SchemaOptions) (path : String) (node? : Option Node) (options : SchemaOptions)

/-- A value schema is resolved where its scope leads, if a resolver claims its kind. -/
theorem resolveIn_value (choice : QueryChoice) (kind : ValueKind) :
    resolveIn (.ofKinds m kinds registries) inherited path node? (.value choice kind options) =
      if kinds.any (·.claimsKind kind) then
        resolveScoped m
          (resolveValue (.ofKinds m kinds registries) choice kind (options.inherit inherited))
          node? (.value choice kind (options.inherit inherited))
      else .ok .null := by
  rw [resolveIn, Extractor.dispatch_ofKinds]
  simp only [ResolverKind.claims, ← List.isSome_find?, Extractor.model_ofKinds]
  cases kinds.find? (·.claimsKind kind) <;> rfl

/-- An object schema is resolved where its scope leads, if it is enabled and there is an object
resolver. -/
theorem resolveIn_object (fields : List (String × Schema)) (objTransforms : List Transform)
    (enabled : Bool) :
    resolveIn (.ofKinds m kinds registries) inherited path node?
        (.object fields options objTransforms enabled) =
      if kinds.any (fun kind => kind = .object && enabled) then
        resolveScoped m
          (resolveObject (.ofKinds m kinds registries) (options.inherit inherited) objTransforms
            path fields)
          node? (.object fields (options.inherit inherited) objTransforms enabled)
      else .ok .null := by
  rw [resolveIn, Extractor.dispatch_ofKinds]
  simp only [ResolverKind.claims, ← List.isSome_find?, Extractor.model_ofKinds]
  cases kinds.find? (fun kind => kind = .object && enabled) <;> rfl

/-- Of the kinds of values, the full preset leaves out those without a type that it knows. -/
theorem resolveIn_full_value (choice : QueryChoice) (kind : ValueKind) :
    resolveIn (.full m registries) inherited path node? (.value choice kind options) =
      if kind = .unclaimed then .ok .null
      else
        resolveScoped m (resolveValue (.full m registries) choice kind (options.inherit inherited))
          node? (.value choice kind (options.inherit inherited)) := by
  rw [Extractor.full_eq_ofKinds, resolveIn_value]
  cases kind <;> rfl

/-- The full preset resolves the objects that are enabled. -/
theorem resolveIn_full_object (fields : List (String × Schema)) (objTransforms : List Transform)
    (enabled : Bool) :
    resolveIn (.full m registries) inherited path node?
        (.object fields options objTransforms enabled) =
      if enabled then
        resolveScoped m
          (resolveObject (.full m registries) (options.inherit inherited) objTransforms path fields)
          node? (.object fields (options.inherit inherited) objTransforms enabled)
      else .ok .null := by
  rw [Extractor.full_eq_ofKinds, resolveIn_object]
  cases enabled <;> rfl

/-- The result of a value of the full preset at a node. -/
theorem resolveIn_full_value_some (node : Node) (choice : QueryChoice) (kind : ValueKind) :
    resolveIn (.full m registries) inherited path (some node) (.value choice kind options) =
      if kind = .unclaimed then .ok .null
      else if (Schema.value choice kind options).lacksQuery then .error .emptySelector
      else
        match placement m node (.value choice kind options) with
        | .ok p =>
          p.run (resolveValue (.full m registries) choice kind (options.inherit inherited))
        | .error e => .error e := by
  rw [resolveIn_full_value, resolveScoped_some]
  rfl

/-- The result of an object of the full preset at a node. -/
theorem resolveIn_full_object_some (node : Node) (fields : List (String × Schema))
    (objTransforms : List Transform) (enabled : Bool) :
    resolveIn (.full m registries) inherited path (some node)
        (.object fields options objTransforms enabled) =
      if enabled then
        match placement m node (.object fields options objTransforms enabled) with
        | .ok p =>
          p.run (resolveObject (.full m registries) (options.inherit inherited) objTransforms path
            fields)
        | .error e => .error e
      else .ok .null := by
  rw [resolveIn_full_object, resolveScoped_some]
  rfl

end Equations

section Fields

variable {x : Extractor Node} {inherited : SchemaOptions} {path : String} {node : Node}
  {fields : List (String × Schema)}

/-- The fields of an object succeed with the results of each, in order. -/
theorem resolveFields_eq_ok_iff {results : List FieldResult} :
    resolveFields x inherited path node fields = .ok results ↔
      List.Forall₂ (fun entry r => r.key = entry.1 ∧ r.flat = entry.2.options.flat ∧
        resolveIn x inherited (path ++ "." ++ entry.1) (some node) entry.2 = .ok r.value)
        fields results := by
  induction fields generalizing results with
  | nil => simp [resolveFields, eq_comm]
  | cons entry rest ih =>
    obtain ⟨key, field⟩ := entry
    rw [resolveFields, List.forall₂_cons_left_iff]
    cases hfield : resolveIn x inherited (path ++ "." ++ key) (some node) field with
    | error e => simp
    | ok v =>
      cases hrest : resolveFields x inherited path node rest with
      | error e => simp [← ih, hrest]
      | ok tail =>
        simp only [Except.ok.injEq, ← ih, hrest]
        constructor
        · rintro rfl
          exact ⟨_, tail, ⟨rfl, rfl, rfl⟩, rfl, rfl⟩
        · rintro ⟨⟨k, flat, w⟩, _, ⟨rfl, rfl, rfl⟩, rfl, rfl⟩
          rfl

/-- The error of the fields of an object is that of one of them. -/
theorem exists_of_resolveFields_eq_error {e : ResolveError}
    (h : resolveFields x inherited path node fields = .error e) :
    ∃ entry ∈ fields,
      resolveIn x inherited (path ++ "." ++ entry.1) (some node) entry.2 = .error e := by
  induction fields with
  | nil => simp [resolveFields] at h
  | cons entry rest ih =>
    obtain ⟨key, field⟩ := entry
    rw [resolveFields] at h
    cases hfield : resolveIn x inherited (path ++ "." ++ key) (some node) field with
    | error e' =>
      simp only [hfield, Except.error.injEq] at h
      exact ⟨(key, field), List.mem_cons_self, hfield.trans (congrArg _ h)⟩
    | ok v =>
      cases hrest : resolveFields x inherited path node rest with
      | ok tail => simp [hfield, hrest] at h
      | error e' =>
        simp only [hfield, hrest, Except.error.injEq] at h
        obtain ⟨entry, hentry, he⟩ := ih (hrest.trans (congrArg _ h))
        exact ⟨entry, List.mem_cons_of_mem _ hentry, he⟩

/-- The fields of an object fail when one of them does. -/
theorem resolveFields_fails {entry : String × Schema} {e : ResolveError} (hentry : entry ∈ fields)
    (he : resolveIn x inherited (path ++ "." ++ entry.1) (some node) entry.2 = .error e) :
    ∃ e', resolveFields x inherited path node fields = .error e' := by
  induction fields with
  | nil => cases hentry
  | cons first rest ih =>
    rw [resolveFields]
    rcases List.mem_cons.1 hentry with rfl | hrest
    · exact ⟨e, by rw [he]⟩
    · obtain ⟨e', he'⟩ := ih hrest
      rw [he']
      cases resolveIn x inherited (path ++ "." ++ first.1) (some node) first.2 with
      | error e₁ => exact ⟨e₁, rfl⟩
      | ok v => exact ⟨e', rfl⟩

/-- More fields are resolved after the ones before them, unless one of those fails. -/
theorem resolveFields_append (more : List (String × Schema)) :
    resolveFields x inherited path node (fields ++ more) =
      match resolveFields x inherited path node fields with
      | .error e => .error e
      | .ok results =>
        match resolveFields x inherited path node more with
        | .error e => .error e
        | .ok others => .ok (results ++ others) := by
  induction fields with
  | nil =>
    rw [List.nil_append, resolveFields]
    cases resolveFields x inherited path node more <;> rfl
  | cons entry rest ih =>
    rw [List.cons_append, resolveFields, resolveFields, ih]
    cases resolveIn x inherited (path ++ "." ++ entry.1) (some node) entry.2 with
    | error e => rfl
    | ok v =>
      cases resolveFields x inherited path node rest with
      | error e => rfl
      | ok results => cases resolveFields x inherited path node more <;> rfl

/-- Fields may be changed, inherit other options and be resolved by another extractor, as long as
each keeps its result and whether it is flat. -/
theorem resolveFields_map_congr {y : Extractor Node} {g : Schema → Schema}
    {inherited' : SchemaOptions}
    (h : ∀ entry ∈ fields, (g entry.2).options.flat = entry.2.options.flat ∧
      ∀ path, resolveIn y inherited' path (some node) (g entry.2) =
        resolveIn x inherited path (some node) entry.2) :
    resolveFields y inherited' path node (fields.map fun entry => (entry.1, g entry.2)) =
      resolveFields x inherited path node fields := by
  induction fields with
  | nil => rfl
  | cons entry rest ih =>
    obtain ⟨⟨hflat, hresult⟩, hrest⟩ := List.forall_mem_cons.1 h
    rw [List.map_cons, resolveFields, resolveFields, hresult, hflat, ih hrest]

/-- Extractors that resolve each field of an object alike resolve the fields alike. -/
theorem resolveFields_congr {y : Extractor Node}
    (h : ∀ entry ∈ fields, ∀ path, resolveIn y inherited path (some node) entry.2 =
      resolveIn x inherited path (some node) entry.2) :
    resolveFields y inherited path node fields = resolveFields x inherited path node fields := by
  simpa using resolveFields_map_congr (g := id) fun entry hentry => ⟨rfl, h entry hentry⟩

end Fields

end Gleaner
