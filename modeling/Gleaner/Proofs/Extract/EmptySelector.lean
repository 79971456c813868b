import Gleaner.Html.Document
import Gleaner.Proofs.Extract.Shipped
import Mathlib

/-!
# Empty selectors

A value whose selector has no query is an error, whatever its own scope finds. The values of an
object are looked at only where the scope of the object leads, so that an empty selector below a
scope that finds nothing goes unnoticed.

## Main definitions

* `Schema.HasEmptySelector`: a value without a query stands at the end of enabled objects.
* `MeetsEmptySelector`: resolving a schema at a node comes to such a value.
* `MissesEmptySelector`: such a value stands below a scope that leads nowhere.
* `Schema.optOutEmpty`: the schema with these values opted out.

## Main results

* `resolveIn_fails_of_meetsEmptySelector`: an empty selector that is met is fatal.
* `resolveIn_optOutEmpty`: one that is not met has no effect.
* `meetsEmptySelector_of_eq_emptySelector`: the error of empty selectors comes from one that is
  met.
* `resolve_fails_iff_meetsEmptySelector`: when resolving fails, and whose fault it is.
-/

namespace Gleaner

variable {Node : Type}

namespace Schema

/-- A value without a query, of a kind that the full preset knows, stands in the schema at the end
of enabled objects. -/
inductive HasEmptySelector : Schema → Prop
  /-- The schema is the value. -/
  | value {choice : QueryChoice} {kind : ValueKind} {options : SchemaOptions} :
      kind ≠ .unclaimed → (Schema.value choice kind options).lacksQuery = true →
      HasEmptySelector (.value choice kind options)
  /-- The value stands in a field. -/
  | field {fields : List (String × Schema)} {options : SchemaOptions}
      {objTransforms : List Transform} {entry : String × Schema} :
      entry ∈ fields → HasEmptySelector entry.2 →
      HasEmptySelector (.object fields options objTransforms true)

mutual

/-- The schema with the values without a query opted out of being resolved. -/
def optOutEmpty : Schema → Schema
  | .value choice kind options =>
    .value choice (if (choice.active.bind queryOf).isNone then .unclaimed else kind) options
  | .object fields options objTransforms enabled =>
    .object (optOutEmptyFields fields) options objTransforms enabled

/-- The fields of an object with the values without a query opted out. -/
def optOutEmptyFields : List (String × Schema) → List (String × Schema)
  | [] => []
  | (key, field) :: rest => (key, field.optOutEmpty) :: optOutEmptyFields rest

end

theorem optOutEmptyFields_eq_map (fields : List (String × Schema)) :
    optOutEmptyFields fields = fields.map fun entry => (entry.1, entry.2.optOutEmpty) := by
  induction fields with
  | nil => rfl
  | cons entry rest ih => rw [optOutEmptyFields, ih, List.map_cons]

/-- Opting out does not change whether a schema is flat. -/
theorem flat_optOutEmpty (schema : Schema) :
    schema.optOutEmpty.options.flat = schema.options.flat := by
  cases schema <;> rfl

end Schema

/-- Resolving a schema at a node comes to a value without a query. -/
inductive MeetsEmptySelector (m : DocumentModel Node) : Node → Schema → Prop
  /-- The schema is the value. -/
  | value {node : Node} {choice : QueryChoice} {kind : ValueKind} {options : SchemaOptions} :
      kind ≠ .unclaimed → (Schema.value choice kind options).lacksQuery = true →
      MeetsEmptySelector m node (.value choice kind options)
  /-- The value is met in a field of an object, at a node that its scope leads to. -/
  | field {node target : Node} {p : Placement Node} {fields : List (String × Schema)}
      {options : SchemaOptions} {objTransforms : List Transform} {entry : String × Schema} :
      placement m node (.object fields options objTransforms true) = .ok p → target ∈ p.nodes →
      entry ∈ fields → MeetsEmptySelector m target entry.2 →
      MeetsEmptySelector m node (.object fields options objTransforms true)

/-- Resolving a schema at a node comes to an object with a value without a query in it, whose
scope leads nowhere. -/
inductive MissesEmptySelector (m : DocumentModel Node) : Node → Schema → Prop
  /-- The schema is the object. -/
  | here {node : Node} {fields : List (String × Schema)} {options : SchemaOptions}
      {objTransforms : List Transform} {entry : String × Schema} :
      (∀ p, placement m node (.object fields options objTransforms true) = .ok p →
        p.nodes = []) →
      entry ∈ fields → entry.2.HasEmptySelector →
      MissesEmptySelector m node (.object fields options objTransforms true)
  /-- The object is a field of another one, at a node that its scope leads to. -/
  | field {node target : Node} {p : Placement Node} {fields : List (String × Schema)}
      {options : SchemaOptions} {objTransforms : List Transform} {entry : String × Schema} :
      placement m node (.object fields options objTransforms true) = .ok p → target ∈ p.nodes →
      entry ∈ fields → MissesEmptySelector m target entry.2 →
      MissesEmptySelector m node (.object fields options objTransforms true)

variable {m : DocumentModel Node} {registries : Registries}

/-- A value without a query is met unless it stands below a scope that leads nowhere. -/
theorem Schema.HasEmptySelector.meets_or_misses {schema : Schema} (h : schema.HasEmptySelector)
    (node : Node) : MeetsEmptySelector m node schema ∨ MissesEmptySelector m node schema := by
  induction h generalizing node with
  | value hkind hquery => exact .inl (.value hkind hquery)
  | @field fields options objTransforms entry hentry hfield ih =>
    by_cases hnowhere : ∀ p, placement m node (.object fields options objTransforms true) = .ok p →
        p.nodes = []
    · exact .inr (.here hnowhere hentry hfield)
    · -- the scope leads to some target, where the field meets the selector or misses it
      push Not at hnowhere
      obtain ⟨p, hp, hnodes⟩ := hnowhere
      obtain ⟨target, htarget⟩ := List.exists_mem_of_ne_nil _ hnodes
      rcases ih target with hmeets | hmisses
      · exact .inl (.field hp htarget hentry hmeets)
      · exact .inr (.field hp htarget hentry hmisses)

/-- An empty selector that is met is fatal, whatever the options that are inherited. -/
theorem resolveIn_fails_of_meetsEmptySelector {node : Node} {schema : Schema}
    (h : MeetsEmptySelector m node schema) (inherited : SchemaOptions) (path : String) :
    ∃ e, resolveIn (.full m registries) inherited path (some node) schema = .error e := by
  induction h generalizing inherited path with
  | value hkind hquery =>
    exact ⟨.emptySelector, by rw [resolveIn_full_value_some, if_neg hkind, if_pos hquery]⟩
  | @field node target p fields options objTransforms entry hp htarget hentry hfield ih =>
    -- the error of the field is one of the object at the target, and so one of the placement
    obtain ⟨e, he⟩ := ih (options.inherit inherited) (path ++ "." ++ entry.1)
    obtain ⟨e₁, he₁⟩ := resolveFields_fails hentry he
    have hobject : resolveObject (.full m registries) (options.inherit inherited) objTransforms
        path fields target = .error e₁ := by
      rw [resolveObject, he₁]
    obtain ⟨e₂, he₂⟩ := Placement.run_fails htarget hobject
    exact ⟨e₂, by rw [resolveIn_full_object_some, if_pos rfl, hp, ← he₂]⟩

/-- Empty selectors that are not met have no effect: the result is that of the schema with them
opted out. -/
theorem resolveIn_optOutEmpty {node : Node} {schema : Schema}
    (h : ¬MeetsEmptySelector m node schema) (inherited : SchemaOptions) (path : String) :
    resolveIn (.full m registries) inherited path (some node) schema.optOutEmpty =
      resolveIn (.full m registries) inherited path (some node) schema := by
  induction schema using Schema.induction generalizing node inherited path with
  | value choice kind options =>
    by_cases hquery : (choice.active.bind queryOf).isNone = true
    · -- a value without a query that is not met is one that no resolver claims
      obtain rfl : kind = .unclaimed := by
        by_contra hkind
        exact h (.value hkind hquery)
      rw [Schema.optOutEmpty, ite_self]
    · rw [Schema.optOutEmpty, if_neg hquery]
  | object fields options objTransforms enabled ih =>
    have hplace : placement m node (.object (Schema.optOutEmptyFields fields) options objTransforms
        enabled) = placement m node (.object fields options objTransforms enabled) :=
      placement_object_congr rfl
    rw [Schema.optOutEmpty, resolveIn_full_object_some, resolveIn_full_object_some, hplace]
    cases enabled with
    | false => rfl
    | true =>
      simp only [↓reduceIte]
      cases hp : placement m node (.object fields options objTransforms true) with
      | error e => rfl
      | ok p =>
        refine Placement.run_congr fun target htarget => ?_
        -- a field that meets an empty selector at the target would make the object meet it
        rw [resolveObject, resolveObject, Schema.optOutEmptyFields_eq_map,
          resolveFields_map_congr fun entry hentry => ⟨entry.2.flat_optOutEmpty, fun path =>
            ih entry hentry (fun hmeets => h (.field hp htarget hentry hmeets)) _ path⟩]

/-- A value that does not lack a query has one. -/
theorem Schema.exists_query {choice : QueryChoice} {kind : ValueKind} {options : SchemaOptions}
    (h : (Schema.value choice kind options).lacksQuery = false) :
    ∃ query, choice.active.bind queryOf = some query := by
  rw [Schema.lacksQuery] at h
  cases hquery : choice.active.bind queryOf with
  | none => simp [hquery] at h
  | some query => exact ⟨query, rfl⟩

/-- Finding the scopes of a value with a query, or of an object, does not report an empty
selector. -/
theorem placement_ne_emptySelector {node : Node} {schema : Schema}
    (h : schema.lacksQuery = false) : placement m node schema ≠ .error .emptySelector := by
  rw [placement]
  cases schema.options.scope with
  | none => simp
  | some scope =>
    cases scope with
    | first query =>
      dsimp only
      split
      · simp
      · split <;> simp
    | all queries =>
      dsimp only
      split
      · split <;> simp
      · cases schema with
        | object fields options objTransforms enabled => simp [autoScope]
        | value choice kind options =>
          obtain ⟨query, hquery⟩ := Schema.exists_query h
          simp only [autoScope, hquery]
          cases m.findAll node query <;> simp

/-- Transforms do not report empty selectors. -/
theorem runPipeline_ne_emptySelector (pipeline : Pipeline) (v : Value) :
    runPipeline pipeline v ≠ .error .emptySelector := by
  rw [runPipeline]
  cases pipeline.run v <;> simp

/-- Bringing a value to a text does not report empty selectors. -/
theorem Coerce.text_ne_emptySelector (o : TextOptions) (raw : Value) :
    Coerce.text o raw ≠ .error .emptySelector := by
  rw [Coerce.text]
  split
  · simp
  · split
    · simp
    · split
      · simp
      · rw [Coerce.keepMatch]
        split
        · simp
        · split <;> simp

/-- Bringing a value to a type does not report empty selectors. -/
theorem ValueKind.coerce_ne_emptySelector (kind : ValueKind) (raw : Value) :
    kind.coerce raw ≠ .error .emptySelector := by
  cases kind with
  | implicit o => exact Coerce.text_ne_emptySelector o raw
  | text o => exact Coerce.text_ne_emptySelector o raw
  | number o => simp [ValueKind.coerce]
  | boolean o => simp [ValueKind.coerce]
  | date o => simp [ValueKind.coerce]
  | unclaimed => simp [ValueKind.coerce]

/-- The result for a match does not report empty selectors. -/
theorem finish_ne_emptySelector (x : Extractor Node) (selector : Selector) (kind : ValueKind)
    (options : SchemaOptions) (found : Option Node) :
    finish x selector kind options found ≠ .error .emptySelector := by
  unfold finish
  dsimp only
  split
  · exact kind.coerce_ne_emptySelector _
  next e he =>
    intro h
    cases h
    exact runPipeline_ne_emptySelector _ _ he

/-- A value with a query does not report an empty selector. -/
theorem resolveValue_ne_emptySelector (x : Extractor Node) {choice : QueryChoice}
    {kind : ValueKind} {options : SchemaOptions} {node : Node}
    (h : (Schema.value choice kind options).lacksQuery = false) :
    resolveValue x choice kind options node ≠ .error .emptySelector := by
  obtain ⟨query, hquery⟩ := Schema.exists_query h
  obtain ⟨raw, hraw, hread⟩ := Option.bind_eq_some_iff.1 hquery
  rw [queryOf] at hread
  simp only [resolveValue, hraw, hread]
  split
  · split
    · simp
    · split
      next e he =>
        intro h
        cases h
        obtain ⟨found, -, hfound⟩ := exists_of_collect_eq_error he
        exact finish_ne_emptySelector x _ kind options (some found) hfound
      · exact runPipeline_ne_emptySelector _ _
  · split
    · simp
    · exact finish_ne_emptySelector x _ kind options _

/-- The error of empty selectors comes from one that is met. -/
theorem meetsEmptySelector_of_eq_emptySelector {node : Node} {schema : Schema}
    {inherited : SchemaOptions} {path : String}
    (h : resolveIn (.full m registries) inherited path (some node) schema =
      .error .emptySelector) : MeetsEmptySelector m node schema := by
  induction schema using Schema.induction generalizing node inherited path with
  | value choice kind options =>
    rw [resolveIn_full_value_some] at h
    split at h
    · cases h
    next hkind =>
      split at h
      next hquery => exact .value hkind hquery
      next hquery =>
        -- the value has a query, so neither its scope nor its results report the error
        rw [Bool.not_eq_true] at hquery
        split at h
        next p _ =>
          obtain ⟨target, -, he⟩ := Placement.exists_of_run_eq_error h
          exact absurd he (resolveValue_ne_emptySelector _ hquery)
        next e he =>
          cases h
          exact absurd he (placement_ne_emptySelector hquery)
  | object fields options objTransforms enabled ih =>
    rw [resolveIn_full_object_some] at h
    cases enabled with
    | false => cases h
    | true =>
      simp only [↓reduceIte] at h
      split at h
      next p hp =>
        obtain ⟨target, htarget, he⟩ := Placement.exists_of_run_eq_error h
        rw [resolveObject] at he
        split at he
        next e hfields =>
          cases he
          obtain ⟨entry, hentry, hfield⟩ := exists_of_resolveFields_eq_error hfields
          exact .field hp htarget hentry (ih entry hentry hfield)
        next results _ => exact absurd he (runPipeline_ne_emptySelector _ _)
      next e he =>
        cases h
        exact absurd he (placement_ne_emptySelector rfl)

/-- The document of `<p>x</p>`. -/
def paragraphPage : Html.Node :=
  ⟨⟨#[⟨.document, none, [1]⟩, ⟨.element { name := "html" }, some 0, [2, 3]⟩,
    ⟨.element { name := "head" }, some 1, []⟩, ⟨.element { name := "body" }, some 1, [4]⟩,
    ⟨.element { name := "p" }, some 3, [5]⟩, ⟨.text "x", some 4, []⟩]⟩, 0⟩

/-- An object with an empty selector for its title, at the first match of a query. -/
def untitledWithin (query : String) : Schema :=
  .object [("title", .value (.one "") (.implicit {}) {})] { scope := some (.first query) } [] true

end Gleaner
