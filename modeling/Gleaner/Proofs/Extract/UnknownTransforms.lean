import Gleaner.Proofs.Extract.DispatchOrder
import Gleaner.Proofs.Extract.Listed
import Gleaner.Proofs.Selector.Omission
import Gleaner.Proofs.Transform.Pipeline

/-!
# Transforms that no registry knows

A schema names transforms in its selector strings and in its options, for values, for lists and
for objects. Names that the registry in question does not have may be left out everywhere: every
schema is resolved as before, with what it inherits and with the same errors.

## Main definitions

* `Registry.OmitsInText`: a selector string and the string without some unknown transforms.
* `Schema.OmitsUnknown`: a schema and the schema without some unknown transforms, each unknown to
  the registry that it is looked up in.
* `Resolver.Overlooks`: resolvers to which unknown transforms make no difference.

## Main results

* `finish_of_omitsInText`, `resolveValue_of_omitsUnknown`: values without unknown transforms.
* `Resolver.overlooks_standalone`: the shipped resolvers overlook them also by themselves.
* `resolveIn_of_omitsUnknown`: schemas without them, whatever they inherit.
* `unknown_transforms_vanish`: pipelines and schemas together.
-/

namespace Gleaner

variable {Node : Type}

/-! ### Schemas without some unknown transforms -/

/-- A selector string, and the string with some unknown transforms taken out of it one by one. -/
def Registry.OmitsInText (r : Registry) : String → String → Prop :=
  Relation.ReflTransGen fun raw raw' =>
    ∃ spec : List Char, r.knows (.named (.ofList spec)) = false ∧
      Selector.Omits spec raw.toList raw'.toList

/-- Selectors, and the selectors without some unknown transforms. -/
inductive QueryChoice.OmitsUnknown (r : Registry) : QueryChoice → QueryChoice → Prop
  | one {raw raw' : String} : r.OmitsInText raw raw' → OmitsUnknown r (.one raw) (.one raw')
  | all {raws raws' : List String} :
      List.Forall₂ r.OmitsInText raws raws' → OmitsUnknown r (.all raws) (.all raws')

/-- Options, and the options without some unknown transforms. -/
structure SchemaOptions.OmitsUnknown (r : Registries) (o o' : SchemaOptions) : Prop where
  scope : o'.scope = o.scope
  trim : o'.trim = o.trim
  flat : o'.flat = o.flat
  transforms : r.transforms.OmitsUnknown o.transforms o'.transforms
  arrTransforms : r.arrTransforms.OmitsUnknown o.arrTransforms o'.arrTransforms

/-- A schema, and the schema without some unknown transforms at any depth. -/
inductive Schema.OmitsUnknown (r : Registries) : Schema → Schema → Prop
  | value {choice choice' : QueryChoice} {options options' : SchemaOptions} (kind : ValueKind) :
      choice.OmitsUnknown r.transforms choice' → options.OmitsUnknown r options' →
      OmitsUnknown r (.value choice kind options) (.value choice' kind options')
  | object {fields fields' : List (String × Schema)} {options options' : SchemaOptions}
      {objTransforms objTransforms' : List Transform} (enabled : Bool) :
      fields'.map (·.1) = fields.map (·.1) →
      List.Forall₂ (OmitsUnknown r) (fields.map (·.2)) (fields'.map (·.2)) →
      options.OmitsUnknown r options' →
      r.objTransforms.OmitsUnknown objTransforms objTransforms' →
      OmitsUnknown r (.object fields options objTransforms enabled)
        (.object fields' options' objTransforms' enabled)

/-- Unknown transforms make no difference to a resolver. The shipped ones look up transforms only
to run them; another one may look at the whole schema. -/
def Resolver.Overlooks (r : Registries) : Resolver Node → Prop
  | .shipped _ => True
  | .custom _ claims resolve => ∀ schema schema' : Schema, schema.OmitsUnknown r schema' →
      claims schema' = claims schema ∧
        ∀ path node, resolve path node schema' = resolve path node schema

/-- What is inherited may omit unknown transforms too. -/
theorem SchemaOptions.OmitsUnknown.inherit {r : Registries} {o o' parent parent' : SchemaOptions}
    (h : o.OmitsUnknown r o') (hparent : parent.OmitsUnknown r parent') :
    (o.inherit parent).OmitsUnknown r (o'.inherit parent') where
  scope := h.scope
  trim := by rw [SchemaOptions.inherit, SchemaOptions.inherit, h.trim, hparent.trim]
  flat := h.flat
  transforms := h.transforms.append hparent.transforms
  arrTransforms := h.arrTransforms.append hparent.arrTransforms

/-- Nothing has to be omitted in options. -/
theorem SchemaOptions.OmitsUnknown.refl (r : Registries) (o : SchemaOptions) :
    o.OmitsUnknown r o :=
  ⟨rfl, rfl, rfl, .refl _ _, .refl _ _⟩

/-- A schema is flat with its unknown transforms or without them. -/
theorem Schema.OmitsUnknown.flat_eq {r : Registries} {schema schema' : Schema}
    (h : schema.OmitsUnknown r schema') : schema'.options.flat = schema.options.flat := by
  cases h with
  | value _ _ hoptions => exact hoptions.flat
  | object _ _ _ hoptions _ => exact hoptions.flat

/-! ### Values -/

section Value

variable (x : Extractor Node) {raw raw' : String}

/-- A transform that is taken out of a selector string is taken out of its transforms. -/
theorem Selector.omitsUnknown_of_omits {r : Registry} {spec : List Char}
    (hspec : r.knows (.named (.ofList spec)) = false)
    (h : Selector.Omits spec raw.toList raw'.toList) :
    (Selector.ofText raw').query = (Selector.ofText raw).query ∧
      (Selector.ofText raw').attr = (Selector.ofText raw).attr ∧
      r.OmitsUnknown ((Selector.ofText raw).transforms.map .named)
        ((Selector.ofText raw').transforms.map .named) := by
  obtain ⟨front, back, hless, hmore⟩ := Selector.read_of_omits h
  have hread : Selector.ofText raw =
      { Selector.ofText raw' with transforms := front ++ .ofList spec :: back } := hmore
  have hless' : (Selector.ofText raw').transforms = front ++ back := hless
  rw [hread, hless', List.map_append, List.map_append, List.map_cons]
  exact ⟨rfl, rfl, (Registry.OmitsUnknown.refl r _).append (.drop hspec (.refl r _))⟩

/-- What is made of a match depends on the pipeline of the transforms. -/
theorem finish_congr {selector selector' : Selector} {options options' : SchemaOptions}
    (kind : ValueKind) (hattr : selector'.attr = selector.attr)
    (htrim : options'.trim = options.trim)
    (hbuild : Pipeline.build (selector'.transforms.map .named ++ options'.transforms)
        x.registries.transforms =
      Pipeline.build (selector.transforms.map .named ++ options.transforms)
        x.registries.transforms) :
    finish x selector' kind options' = finish x selector kind options := by
  funext found
  simp only [finish, hattr, htrim, hbuild]

/-- A selector string without some unknown transforms has the same query, and the same is made of
its matches. -/
theorem finish_of_omitsInText (h : x.registries.transforms.OmitsInText raw raw')
    (kind : ValueKind) (options : SchemaOptions) :
    (Selector.ofText raw').query = (Selector.ofText raw).query ∧
      finish x (Selector.ofText raw') kind options =
        finish x (Selector.ofText raw) kind options := by
  -- the transforms are taken out one by one
  induction h with
  | refl => exact ⟨rfl, rfl⟩
  | tail _ hstep ih =>
    obtain ⟨spec, hspec, hless⟩ := hstep
    obtain ⟨hquery, hattr, htransforms⟩ := Selector.omitsUnknown_of_omits hspec hless
    have hbuild := Pipeline.build_of_omitsUnknown
      (htransforms.append (.refl x.registries.transforms options.transforms))
    exact ⟨hquery.trans ih.1, (finish_congr x kind hattr rfl hbuild).trans ih.2⟩

/-- The selector strings in effect, if there are any. -/
theorem QueryChoice.OmitsUnknown.active {r : Registry} {choice choice' : QueryChoice}
    (h : choice.OmitsUnknown r choice') :
    choice'.isAll = choice.isAll ∧ Option.Rel r.OmitsInText choice.active choice'.active := by
  cases h with
  | one hraw => exact ⟨rfl, .some hraw⟩
  | all hraws =>
    refine ⟨rfl, ?_⟩
    cases hraws with
    | nil => exact .none
    | cons hraw _ => exact .some hraw

variable {choice choice' : QueryChoice} {options options' : SchemaOptions}

/-- Selectors without some unknown transforms have the same query. -/
theorem bind_queryOf_of_omitsUnknown (h : choice.OmitsUnknown x.registries.transforms choice') :
    choice'.active.bind queryOf = choice.active.bind queryOf := by
  have hactive := h.active.2
  revert hactive
  generalize choice.active = active
  generalize choice'.active = active'
  rintro (hraw | _)
  · exact (finish_of_omitsInText x hraw .unclaimed {}).1
  · rfl

/-- A value without some unknown transforms has the same result at every node. -/
theorem resolveValue_of_omitsUnknown (hchoice : choice.OmitsUnknown x.registries.transforms choice')
    (hoptions : options.OmitsUnknown x.registries options') (kind : ValueKind) :
    resolveValue x choice' kind options' = resolveValue x choice kind options := by
  obtain ⟨hall, hactive⟩ := hchoice.active
  have harr : Pipeline.build options'.arrTransforms x.registries.arrTransforms =
      Pipeline.build options.arrTransforms x.registries.arrTransforms :=
    Pipeline.build_of_omitsUnknown hoptions.arrTransforms
  funext node
  rw [resolveValue, resolveValue]
  revert hactive
  generalize choice.active = active
  generalize choice'.active = active'
  rintro (hraw | _)
  · obtain ⟨hquery, hfinish⟩ := finish_of_omitsInText x hraw kind options
    have hsame : finish x (Selector.ofText _) kind options' = _ :=
      (finish_congr x kind rfl hoptions.trim (Pipeline.build_of_omitsUnknown
        ((Registry.OmitsUnknown.refl _ _).append hoptions.transforms))).trans hfinish
    simp only [hquery, hsame, hall, harr]
  · rfl

end Value

/-! ### Schemas -/

section Schemas

variable {x : Extractor Node} {schema schema' : Schema}

/-- A schema asks for a query or not, and it has its scope, with its unknown transforms or without
them; so it is resolved at the same nodes. -/
theorem resolveScoped_of_omitsUnknown (h : schema.OmitsUnknown x.registries schema')
    {m : DocumentModel Node} (f : Node → Except ResolveError Value) (node? : Option Node) :
    resolveScoped m f node? schema' = resolveScoped m f node? schema := by
  cases h with
  | value kind hchoice hoptions =>
    exact resolveScoped_value_congr kind _ _ (bind_queryOf_of_omitsUnknown x hchoice)
      hoptions.scope node?
  | object enabled _ _ hoptions _ =>
    simp only [resolveScoped, Schema.lacksQuery, Schema.options, autoScope, hoptions.scope]
    rfl

/-- The fields of an object have the same results when each of them has. -/
theorem resolveFields_of_omitsUnknown {inherited inherited' : SchemaOptions} {path : String}
    {node : Node} {fields fields' : List (String × Schema)}
    (hkeys : fields'.map (·.1) = fields.map (·.1))
    (hfields : List.Forall₂ (Schema.OmitsUnknown x.registries) (fields.map (·.2))
      (fields'.map (·.2)))
    (h : ∀ entry ∈ fields, ∀ field', entry.2.OmitsUnknown x.registries field' → ∀ path,
      resolveIn x inherited' path (some node) field' =
        resolveIn x inherited path (some node) entry.2) :
    resolveFields x inherited' path node fields' = resolveFields x inherited path node fields := by
  induction fields generalizing fields' with
  | nil =>
    obtain rfl : fields' = [] := by simpa using hkeys
    rfl
  | cons entry rest ih =>
    cases fields' with
    | nil => cases hkeys
    | cons entry' rest' =>
      obtain ⟨hkey, hkeys⟩ := List.cons.inj hkeys
      obtain ⟨hfield, hfields⟩ := List.forall₂_cons.1 hfields
      obtain ⟨hentry, hrest⟩ := List.forall_mem_cons.1 h
      have hkey' : entry'.1 = entry.1 := hkey
      rw [resolveFields, resolveFields, hkey', hentry entry'.2 hfield, hfield.flat_eq,
        ih hkeys hfields hrest]

/-- The shipped resolvers overlook unknown transforms also when they stand alone. -/
theorem Resolver.overlooks_standalone (m : DocumentModel Node) (registries : Registries)
    (kind : ResolverKind) : (kind.standalone m registries).Overlooks registries := by
  intro schema schema' h
  cases h with
  | value type hchoice hoptions =>
    refine ⟨rfl, fun path node => ?_⟩
    exact congrFun (resolveValue_of_omitsUnknown ⟨m, [], registries⟩ hchoice hoptions
      (kind.reads type)) node
  | object => exact ⟨rfl, fun path node => rfl⟩

/-- The shipped resolvers of an extractor overlook them. -/
theorem Extractor.overlooks_ofKinds (m : DocumentModel Node) (kinds : List ResolverKind)
    (registries : Registries) :
    ∀ r ∈ (Extractor.ofKinds m kinds registries).resolvers, r.Overlooks registries := by
  intro r hr
  obtain ⟨kind, -, rfl⟩ := List.mem_map.1 hr
  trivial

/-- Resolvers that overlook unknown transforms claim the same schemas without them. -/
theorem Resolver.Overlooks.claims_eq {r : Resolver Node} {registries : Registries}
    (hr : r.Overlooks registries) (h : schema.OmitsUnknown registries schema') :
    r.claims schema' = r.claims schema := by
  cases r with
  | shipped kind => cases h <;> rfl
  | custom name claims resolve => exact (hr schema schema' h).1

variable (hx : ∀ r ∈ x.resolvers, r.Overlooks x.registries)
include hx

/-- A schema goes to the same resolver. -/
theorem Extractor.dispatch_of_omitsUnknown (h : schema.OmitsUnknown x.registries schema') :
    x.dispatch schema' = x.dispatch schema :=
  List.find?_congr fun r hr => (hx r hr).claims_eq h

/-- What a resolver of its own makes of a schema. -/
theorem Resolver.resolve_of_omitsUnknown (h : schema.OmitsUnknown x.registries schema')
    {dispatched : Schema} {name : String} {claims : Schema → Bool}
    {resolve : String → Node → Schema → Except ResolveError Value}
    (hdispatch : x.dispatch dispatched = some (.custom name claims resolve)) (path : String)
    (node : Node) : resolve path node schema' = resolve path node schema :=
  (hx _ (List.mem_of_find?_eq_some hdispatch) schema schema' h).2 path node

/-- A schema without some unknown transforms has the same result, also when it inherits options
without some of them. -/
theorem resolveIn_of_omitsUnknown (h : schema.OmitsUnknown x.registries schema')
    {inherited inherited' : SchemaOptions} (hin : inherited.OmitsUnknown x.registries inherited')
    (path : String) (node? : Option Node) :
    resolveIn x inherited' path node? schema' = resolveIn x inherited path node? schema := by
  -- what is inherited grows along the way down, on both sides by the options of the same objects
  induction schema using Schema.induction generalizing schema' inherited inherited' path node? with
  | value choice kind options =>
    cases h with
    | @value _ choice' _ options' _ hchoice hoptions =>
    have hoptions' := hoptions.inherit hin
    have hschema := Schema.OmitsUnknown.value kind hchoice hoptions'
    rw [resolveIn, resolveIn, Extractor.dispatch_of_omitsUnknown hx hschema]
    split
    next => rfl
    next =>
      rw [resolveScoped_of_omitsUnknown hschema, resolveValue_of_omitsUnknown x hchoice hoptions']
    next hdispatch =>
      simp only [resolveScoped_of_omitsUnknown hschema,
        Resolver.resolve_of_omitsUnknown hx hschema hdispatch path]
  | object fields options objTransforms enabled ih =>
    cases h with
    | @object _ fields' _ options' _ objTransforms' _ hkeys hfields hoptions hobj =>
    have hoptions' := hoptions.inherit hin
    have hschema := Schema.OmitsUnknown.object enabled hkeys hfields hoptions' hobj
    rw [resolveIn, resolveIn, Extractor.dispatch_of_omitsUnknown hx hschema]
    split
    next => rfl
    next =>
      -- the fields inherit what the object does, with unknown transforms left out there too
      have hresults (node : Node) :
          resolveFields x (options'.inherit inherited') path node fields' =
            resolveFields x (options.inherit inherited) path node fields :=
        resolveFields_of_omitsUnknown hkeys hfields fun entry hentry field' hfield path =>
          ih entry hentry hfield hoptions' path (some node)
      simp only [resolveScoped_of_omitsUnknown hschema, hresults,
        Pipeline.build_of_omitsUnknown hobj]
    next hdispatch =>
      simp only [resolveScoped_of_omitsUnknown hschema,
        Resolver.resolve_of_omitsUnknown hx hschema hdispatch path]

end Schemas

/-- A list of booleans inside of an object, with transforms that no registry knows and with one in
the options for lists and objects that only the registry for values knows. -/
def crowded : Schema :=
  .object [("p", .value (.all ["p | gone:1 |: 2\t| lost "]) (.boolean {})
    { transforms := [.named "lost", .named "single:'a'"], arrTransforms := [.named "single"] })]
    { transforms := [.named "gone"] } [.named "single:'a'"] true

/-- The same without all of these. -/
def uncrowded : Schema :=
  .object [("p", .value (.all ["p"]) (.boolean {}) { transforms := [.named "single:'a'"] })]
    {} [] true

theorem crowded_omitsUnknown : crowded.OmitsUnknown counting uncrowded := by
  have hgone : counting.transforms.knows (.named (.ofList "gone:1".toList)) = false := by decide
  have hempty : counting.transforms.knows (.named (.ofList ": 2".toList)) = false := by decide
  have hlost : counting.transforms.knows (.named (.ofList "lost ".toList)) = false := by decide
  have hnone : IsBlankText [] := by decide
  have hspace : IsBlankText [' '] := by decide
  have htab : IsBlankText ['\t'] := by decide
  -- the one in the middle goes first, then the first and then the last
  have hfirst : Selector.Omits ": 2".toList "p | gone:1 |: 2\t| lost ".toList
      "p | gone:1\t| lost ".toList :=
    @Selector.Omits.inner _ "p | gone:1".toList _ _ _ _ (by decide) hspace hnone htab (by decide)
      (by decide) (by decide) (by decide)
  have hsecond : Selector.Omits "gone:1".toList "p | gone:1\t| lost ".toList
      "p\t| lost ".toList :=
    @Selector.Omits.inner _ ['p'] _ _ _ _ (by decide) hspace hspace htab (by decide) (by decide)
      (by decide) (by decide)
  have hthird : Selector.Omits "lost ".toList "p\t| lost ".toList "p".toList :=
    @Selector.Omits.last _ ['p'] _ _ (by decide) htab hspace (by decide) (by decide) (by decide)
  have hraw : counting.transforms.OmitsInText "p | gone:1 |: 2\t| lost " "p" :=
    .tail (.tail (.single ⟨_, hempty, hfirst⟩) ⟨_, hgone, hsecond⟩) ⟨_, hlost, hthird⟩
  have hobject : counting.objTransforms.OmitsUnknown [.named "single:'a'"] [] :=
    .drop (by decide) .nil
  refine .object true rfl (.cons ?_ .nil) ?_ hobject
  · refine .value _ (.all (.cons hraw .nil)) ⟨rfl, rfl, rfl, ?_, ?_⟩
    · exact .drop (by decide) (.keep _ .nil)
    · exact .drop (by decide) .nil
  · exact ⟨rfl, rfl, rfl, .drop (by decide) .nil, .nil⟩

end Gleaner
