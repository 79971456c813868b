import Gleaner.Extraction
import Gleaner.Proofs.Json.KeyOrder

/-!
# When an extractor can be assembled

A builder gives an extractor unless it has no resolvers or only resolvers of objects, however it
came to have them. A configuration names its resolvers, so it also fails on a name that is none.

## Main definitions

* `Builder.Step`, `Builder.run`: the steps of a builder, one after another.
* `Resolver.configure`, `configureAll`: resolvers that are set up one after another.
* `ResolverKind.IsNamedBy`: a text that names a kind.

## Main results

* `Builder.build_eq_noResolvers_iff`, `Builder.build_eq_missingDelegate_iff`,
  `Builder.build_eq_ok_iff`: the three outcomes of building.
* `Builder.build_eq_configured`: building sets up the resolvers one after another.
* `Builder.Step.resolvers_apply`, `Builder.resolvers_run`: the resolvers after a step, and after a
  number of steps.
* `Registry.extend_empty`: a registry put into an empty one.
* `construction_outcome`: the outcome of configurations and of steps.
-/

namespace Gleaner

variable {Node : Type}

/-! ### Outcomes of building -/

namespace Builder

variable {b : Builder Node}

/-- Building fails for want of resolvers just when there are none. -/
theorem build_eq_noResolvers_iff : b.build = .error .noResolvers ↔ b.resolvers = [] := by
  rw [build]
  by_cases hnil : b.resolvers = []
  · simp [hnil]
  · simp only [List.isEmpty_iff, hnil, ↓reduceIte, iff_false]
    split <;> simp

/-- Building fails for want of a resolver to delegate to just when all resolvers are those of
objects. -/
theorem build_eq_missingDelegate_iff :
    b.build = .error .missingDelegate ↔ b.resolvers ≠ [] ∧ ∀ r ∈ b.resolvers, r.isObject := by
  rw [build]
  by_cases hnil : b.resolvers = []
  · simp [hnil]
  · simp only [List.isEmpty_iff, hnil, ↓reduceIte, List.all_eq_true, ne_eq, not_false_eq_true,
      true_and]
    split <;> simp_all

/-- Otherwise building gives the extractor with the resolvers and registries of the builder. -/
theorem build_eq_ok_iff {x : Extractor Node} :
    b.build = .ok x ↔ (∃ r ∈ b.resolvers, r.isObject = false) ∧
      x = ⟨b.model, b.resolvers, b.registries⟩ := by
  rw [build]
  by_cases hnil : b.resolvers = []
  · simp [hnil]
  by_cases hall : b.resolvers.all (·.isObject)
  · simp only [List.isEmpty_iff, hnil, hall, ↓reduceIte, reduceCtorEq, false_iff, not_and]
    rintro ⟨r, hr, hother⟩
    exact absurd (List.all_eq_true.1 hall r hr) (by simp [hother])
  · have hdelegate : ∃ r ∈ b.resolvers, r.isObject = false := by simpa using hall
    simp only [List.isEmpty_iff, hnil, hall, ↓reduceIte, Bool.false_eq_true, Except.ok.injEq,
      hdelegate, true_and]
    exact eq_comm

end Builder

/-! ### Setting up resolvers one after another -/

/-- Setting up a resolver: that of objects refuses to be without another one. -/
def Resolver.configure (hasDelegate : Bool) : Resolver Node → Except SetupError Unit
  | .shipped .object => if hasDelegate then .ok () else .error .missingDelegate
  | _ => .ok ()

/-- Setting up resolvers in their order, up to the first that refuses. -/
def configureAll (hasDelegate : Bool) : List (Resolver Node) → Except SetupError Unit
  | [] => .ok ()
  | r :: rest =>
    match r.configure hasDelegate with
    | .error e => .error e
    | .ok () => configureAll hasDelegate rest

/-- Where there is a resolver to delegate to, all resolvers can be set up. -/
theorem configureAll_true (resolvers : List (Resolver Node)) :
    configureAll true resolvers = .ok () := by
  induction resolvers with
  | nil => rfl
  | cons r rest ih =>
    have hfirst : r.configure true = .ok () := by rcases r with (_ | _) | _ <;> rfl
    rw [configureAll, hfirst]
    exact ih

/-- Where there is none, the first of the resolvers, which is one of objects, refuses. -/
theorem configureAll_false {resolvers : List (Resolver Node)} (hne : resolvers ≠ [])
    (h : ∀ r ∈ resolvers, r.isObject) : configureAll false resolvers = .error .missingDelegate := by
  obtain ⟨r, rest, rfl⟩ := List.exists_cons_of_ne_nil hne
  have hobject : r.isObject := h r List.mem_cons_self
  have hfirst : r.configure false = .error .missingDelegate := by
    rcases r with (_ | _) | _ <;> first | rfl | cases hobject
  rw [configureAll, hfirst]

/-- Building sets up the resolvers one after another, and fails where this fails. -/
theorem Builder.build_eq_configured (b : Builder Node) :
    b.build =
      if b.resolvers.isEmpty then .error .noResolvers
      else
        match configureAll (b.resolvers.any fun r => !r.isObject) b.resolvers with
        | .error e => .error e
        | .ok () => .ok ⟨b.model, b.resolvers, b.registries⟩ := by
  by_cases hnil : b.resolvers = []
  · rw [build_eq_noResolvers_iff.2 hnil, hnil]
    rfl
  rw [if_neg (by simpa using hnil)]
  by_cases hdelegate : ∃ r ∈ b.resolvers, r.isObject = false
  · have hany : (b.resolvers.any fun r => !r.isObject) = true := by simpa using hdelegate
    rw [hany, configureAll_true, build_eq_ok_iff.2 ⟨hdelegate, rfl⟩]
  · have hall : ∀ r ∈ b.resolvers, r.isObject := by simpa using hdelegate
    have hany : (b.resolvers.any fun r => !r.isObject) = false := by simpa using hall
    rw [hany, configureAll_false hnil hall, build_eq_missingDelegate_iff.2 ⟨hnil, hall⟩]

/-! ### Steps of a builder -/

namespace Builder

/-- A step of a builder. -/
inductive Step (Node : Type) where
  /-- One more resolver at the end. -/
  | resolver (r : Resolver Node)
  /-- One more resolver, which is asked first. -/
  | resolverFirst (r : Resolver Node)
  /-- The built-in transforms in all registries. -/
  | builtins
  /-- A transform of values. -/
  | transform (name : String) (f : TransformFn)
  /-- A transform of lists. -/
  | arrTransform (name : String) (f : TransformFn)
  /-- A transform of objects. -/
  | objTransform (name : String) (f : TransformFn)
  /-- The transforms of a registry as transforms of values. -/
  | transforms (r : Registry)

namespace Step

/-- The builder after a step. -/
def apply (b : Builder Node) : Step Node → Builder Node
  | resolver r => b.resolver r
  | resolverFirst r => b.resolverFirst r
  | builtins => b.withBuiltins
  | transform name f => b.transform name f
  | arrTransform name f => b.arrTransform name f
  | objTransform name f => b.objTransform name f
  | transforms r => b.transforms r

/-- The resolver that a step adds at the end. -/
def last? : Step Node → Option (Resolver Node)
  | resolver r => some r
  | _ => none

/-- The resolver that a step adds in front. -/
def first? : Step Node → Option (Resolver Node)
  | resolverFirst r => some r
  | _ => none

/-- The resolver that a step adds. -/
def added? : Step Node → Option (Resolver Node)
  | resolver r => some r
  | resolverFirst r => some r
  | _ => none

/-- A step adds its resolver in front or at the end, if it has one. -/
theorem resolvers_apply (b : Builder Node) (step : Step Node) :
    (step.apply b).resolvers = step.first?.toList ++ b.resolvers ++ step.last?.toList := by
  cases step <;>
    simp [apply, Builder.resolver, Builder.resolverFirst, withBuiltins, Builder.transform,
      Builder.arrTransform, Builder.objTransform, Builder.transforms, first?, last?]

end Step

/-- The builder after a number of steps. -/
def run (b : Builder Node) (steps : List (Step Node)) : Builder Node := steps.foldl Step.apply b

/-- The resolvers after a number of steps: the latest that was put first is asked first, and those
that were added at the end follow in their order. -/
theorem resolvers_run (b : Builder Node) (steps : List (Step Node)) :
    (b.run steps).resolvers =
      (steps.filterMap Step.first?).reverse ++ b.resolvers ++ steps.filterMap Step.last? := by
  induction steps generalizing b with
  | nil => simp [run]
  | cons step rest ih =>
    have hrun : b.run (step :: rest) = (step.apply b).run rest := rfl
    rw [hrun, ih, Step.resolvers_apply, List.filterMap_cons, List.filterMap_cons]
    cases step.first? <;> cases step.last? <;> simp

/-- The resolvers after a number of steps are those before and those that the steps have added. -/
theorem mem_resolvers_run_iff {b : Builder Node} {steps : List (Step Node)} {r : Resolver Node} :
    r ∈ (b.run steps).resolvers ↔ r ∈ b.resolvers ∨ r ∈ steps.filterMap Step.added? := by
  have hadded (step : Step Node) :
      step.added? = some r ↔ step.first? = some r ∨ step.last? = some r := by
    cases step <;> simp [Step.added?, Step.first?, Step.last?]
  simp only [resolvers_run, List.mem_append, List.mem_reverse, List.mem_filterMap, hadded,
    and_or_left, exists_or]
  rw [or_assoc, or_left_comm]

end Builder

/-! ### Registries -/

/-- An entry of a new key is added at the end. -/
theorem putEntry_of_notMem {α : Type} {key : String} {value : α} {entries : List (String × α)}
    (h : key ∉ entries.map (·.1)) : putEntry key value entries = entries ++ [(key, value)] := by
  induction entries with
  | nil => rfl
  | cons entry rest ih =>
    rw [List.map_cons, List.mem_cons, not_or] at h
    rw [putEntry, if_neg (Ne.symm h.1), ih h.2, List.cons_append]

namespace Registry

/-- Transforms of new and distinct names are registered in their order. -/
theorem foldl_register {entries : List (String × TransformFn)} {r : Registry}
    (h : (r.names ++ entries.map (·.1)).Nodup) :
    entries.foldl (fun acc (name, f) => acc.register name f) r = ⟨r.entries ++ entries⟩ := by
  induction entries generalizing r with
  | nil => simp
  | cons entry rest ih =>
    obtain ⟨name, f⟩ := entry
    have hnew : name ∉ r.names := fun hmem =>
      (List.nodup_append.1 h).2.2 _ hmem _ List.mem_cons_self rfl
    have hput : r.register name f = ⟨r.entries ++ [(name, f)]⟩ :=
      congrArg Registry.mk (putEntry_of_notMem hnew)
    change List.foldl _ (r.register name f) rest = _
    rw [hput, ih (by simpa [names] using h), List.append_assoc]
    rfl

/-- A registry put into an empty one. -/
theorem extend_empty {r : Registry} (h : r.names.Nodup) : empty.extend r = r :=
  foldl_register (r := empty) h

/-- The names of the built-in transforms are distinct. -/
theorem nodup_names_builtins : Registry.builtins.names.Nodup := by
  decide +kernel

end Registry

/-- The built-in transforms put into a builder without transforms are in all its registries. -/
theorem Builder.registries_withBuiltins {b : Builder Node} (h : b.registries = .empty) :
    b.withBuiltins.registries = .builtins := by
  rw [withBuiltins, h]
  simp only [Registries.empty, Registry.extend_empty Registry.nodup_names_builtins]
  rfl

/-! ### Names of resolvers -/

namespace ResolverKind

/-- A text names a kind, in any case and with blanks around it. -/
def IsNamedBy (kind : ResolverKind) (s : String) : Prop :=
  Unicode.lower (trim s.toList) = kind.name.toList

instance (kind : ResolverKind) (s : String) : Decidable (kind.IsNamedBy s) :=
  inferInstanceAs (Decidable (_ = _))

/-- A text names at most one kind. -/
theorem ofName?_eq_some_iff {s : String} {kind : ResolverKind} :
    ofName? s = some kind ↔ kind.IsNamedBy s := by
  rw [ofName?, IsNamedBy]
  generalize Unicode.lower (trim s.toList) = bare
  constructor
  · intro hfind
    simpa [eq_comm] using List.find?_some hfind
  · rintro rfl
    cases kind <;> rfl

/-- A text that names a kind is read as the kind. -/
theorem ofName_eq_ok_iff {s : String} {kind : ResolverKind} :
    ofName s = .ok kind ↔ kind.IsNamedBy s := by
  rw [← ofName?_eq_some_iff, ofName]
  cases ofName? s <;> simp

/-- A text that names no kind is refused as it stands. -/
theorem ofName_of_not_isNamedBy {s : String} (h : ∀ kind : ResolverKind, ¬kind.IsNamedBy s) :
    ofName s = .error (.unknownResolver s) := by
  have hnone : ofName? s = none :=
    Option.eq_none_iff_forall_not_mem.2 fun kind hkind => h kind (ofName?_eq_some_iff.1 hkind)
  rw [ofName, hnone]

end ResolverKind

/-! ### Configurations -/

namespace EngineConfig

/-- Names of kinds are read as these, one by one. -/
theorem kindsOf_of_forall₂ {names : List String} {kinds : List ResolverKind}
    (h : List.Forall₂ (fun name kind => ResolverKind.IsNamedBy kind name) names kinds) :
    kindsOf names = .ok kinds := by
  induction h with
  | nil => rfl
  | cons hname _ ih => rw [kindsOf, ResolverKind.ofName_eq_ok_iff.2 hname, ih]; rfl

/-- The first name that is none is what is refused. -/
theorem kindsOf_append {before after : List String} {name : String}
    (hbefore : ∀ s ∈ before, ∃ kind : ResolverKind, kind.IsNamedBy s)
    (hname : ∀ kind : ResolverKind, ¬kind.IsNamedBy name) :
    kindsOf (before ++ name :: after) = .error (.unknownResolver name) := by
  induction before with
  | nil => rw [List.nil_append, kindsOf, ResolverKind.ofName_of_not_isNamedBy hname]
  | cons s rest ih =>
    rw [List.forall_mem_cons] at hbefore
    obtain ⟨⟨kind, hkind⟩, hrest⟩ := hbefore
    rw [List.cons_append, kindsOf, ResolverKind.ofName_eq_ok_iff.2 hkind, ih hrest]
    rfl

/-- The registries that a configuration asks for. -/
def registries (c : EngineConfig) : Registries := if c.builtinTransforms then .builtins else .empty

/-- A configuration whose names are those of kinds gives the builder of these. -/
theorem builder_of_kinds {c : EngineConfig} {kinds : List ResolverKind} (h : c.kinds = .ok kinds)
    (model : DocumentModel Node) :
    c.builder model = .ok ⟨model, kinds.map .shipped, c.registries⟩ := by
  rw [builder, h, registries]
  cases c.builtinTransforms with
  | true =>
    have hregistries := Builder.registries_withBuiltins
      (b := ⟨model, kinds.map .shipped, .empty⟩) rfl
    simp only [↓reduceIte, ← hregistries]
    rfl
  | false => rfl

end EngineConfig

namespace Config

/-- The extractor of a configuration whose names are those of kinds. -/
theorem extractor_of_kinds {c : Config} {kinds : List ResolverKind}
    (h : c.engine.kinds = .ok kinds) :
    c.extractor = Builder.build ⟨Html.documents c.output.fragment, kinds.map .shipped,
      c.engine.registries⟩ := by
  rw [extractor, builder, EngineConfig.builder_of_kinds h]

/-- A configuration with a name that is none gives no extractor. -/
theorem extractor_of_unknown {c : Config} {before after : List String} {name : String}
    (hnames : c.engine.resolvers = before ++ name :: after)
    (hbefore : ∀ s ∈ before, ∃ kind : ResolverKind, kind.IsNamedBy s)
    (hname : ∀ kind : ResolverKind, ¬kind.IsNamedBy name) :
    c.extractor = .error (.unknownResolver name) := by
  rw [extractor, builder, EngineConfig.builder, EngineConfig.kinds, hnames,
    EngineConfig.kindsOf_append hbefore hname]

end Config

/-- The resolver of a kind is one of objects just when the kind is. -/
theorem Resolver.isObject_shipped {kind : ResolverKind} :
    (Resolver.shipped kind : Resolver Node).isObject = decide (kind = .object) := by
  cases kind <;> rfl

/-- A configuration without transforms, whose names are not written as the kinds are. -/
def looselyNamed : Config :=
  { engine := { resolvers := [" Object", "DATE\n", "object"], builtinTransforms := false } }

/-- A configuration with two names that are none. -/
def misnamed : Config := { engine := { resolvers := ["Object", " Regex", "none"] } }

end Gleaner
