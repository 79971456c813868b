import Gleaner.Proofs.Extract.Construction
import Mathlib.Data.Set.Card

/-!
# What the registries of a builder hold

Transforms are registered one by one and in bulk, in any order, and names may be registered again.
Each registry of a builder gives a name the function of the last step that has registered the name
there; no other registry and no resolver counts.

## Main definitions

* `Registries.Slot`: the three registries.
* `Builder.Step.registered`: what a step registers in each of them.

## Main results

* `Registry.get?_foldl_register`: entries registered one after another win over those before them.
* `Registry.mem_names_iff`, `Registry.nodup_names_foldl_register`: the names of a registry are
  those that it has a function for, each once.
* `Builder.Step.get_registries_apply`, `Builder.get?_run`: the registries after a step, and the
  functions after a number of steps.
* `Builder.registries_run`: which names the registries hold, with which functions, and how many.
-/

namespace Gleaner

variable {Node : Type}

/-! ### Entries registered one after another -/

namespace Registry

/-- A registry has a function for its names, and for no others. -/
theorem mem_names_iff {r : Registry} {name : String} :
    name ∈ r.names ↔ (r.get? name).isSome :=
  isSome_lookup_iff.symm

/-- Registering a name keeps names apart. -/
theorem nodup_names_register {r : Registry} (h : r.names.Nodup) (name : String)
    (f : TransformFn) : (r.register name f).names.Nodup := by
  rw [names, register, keys_putEntry]
  split
  next => exact h
  next hnew =>
    rw [← List.concat_eq_append]
    exact (List.nodup_concat _ _).2 ⟨hnew, h⟩

/-- Registering entries one after another keeps names apart. -/
theorem nodup_names_foldl_register {r : Registry} (h : r.names.Nodup)
    (entries : List (String × TransformFn)) :
    (entries.foldl (fun acc (name, f) => acc.register name f) r).names.Nodup := by
  induction entries generalizing r with
  | nil => exact h
  | cons entry rest ih => exact ih (nodup_names_register h entry.1 entry.2)

/-- A registry that is made of a list has distinct names. -/
theorem nodup_names_ofList (entries : List (String × TransformFn)) :
    (ofList entries).names.Nodup :=
  nodup_names_foldl_register (r := empty) List.nodup_nil entries

/-- Entries of distinct names that are registered one after another win over what was there. -/
theorem get?_foldl_register {entries : List (String × TransformFn)}
    (h : (entries.map (·.1)).Nodup) (r : Registry) (name : String) :
    (entries.foldl (fun acc (name, f) => acc.register name f) r).get? name =
      (entries.lookup name).or (r.get? name) := by
  induction entries generalizing r with
  | nil => rfl
  | cons entry rest ih =>
    obtain ⟨key, f⟩ := entry
    rw [List.map_cons, List.nodup_cons] at h
    rw [List.foldl_cons, ih h.2, get?_register, List.lookup_cons]
    by_cases hkey : name = key
    · -- the name stands nowhere else in the list
      subst hkey
      rw [lookup_eq_none_of_notMem h.1]
      simp
    · simp [hkey, beq_eq_false_iff_ne.2 hkey]

end Registry

/-! ### What a step registers -/

/-- One of the registries of an extractor. -/
inductive Registries.Slot where
  /-- That of transforms of values. -/
  | values
  /-- That of transforms of lists. -/
  | lists
  /-- That of transforms of objects. -/
  | objects
  deriving DecidableEq

/-- The registry in a slot. -/
def Registries.get (r : Registries) : Slot → Registry
  | .values => r.transforms
  | .lists => r.arrTransforms
  | .objects => r.objTransforms

namespace Builder.Step

open Registries (Slot)

/-- The registries that a step writes to. -/
def slots : Step Node → List Slot
  | resolver _ => []
  | resolverFirst _ => []
  | builtins => [.values, .lists, .objects]
  | transform _ _ => [.values]
  | arrTransform _ _ => [.lists]
  | objTransform _ _ => [.objects]
  | transforms _ => [.values]

/-- The transforms that a step brings, by name. -/
def entries : Step Node → List (String × TransformFn)
  | resolver _ => []
  | resolverFirst _ => []
  | builtins => Builtin.entries
  | transform name f => [(name, f)]
  | arrTransform name f => [(name, f)]
  | objTransform name f => [(name, f)]
  | transforms r => r.entries

/-- What a step registers in a registry. -/
def registered (slot : Slot) (step : Step Node) : List (String × TransformFn) :=
  if slot ∈ step.slots then step.entries else []

/-- A step registers its entries one after another in the registries that it writes to. -/
theorem get_registries_apply (b : Builder Node) (step : Step Node) (slot : Slot) :
    (step.apply b).registries.get slot =
      (step.registered slot).foldl (fun acc (name, f) => acc.register name f)
        (b.registries.get slot) := by
  cases step <;> cases slot <;> rfl

/-- A step brings distinct names when its registry, if it has one, has distinct names. -/
theorem nodup_registered {step : Step Node} (h : ∀ r, step = .transforms r → r.names.Nodup)
    (slot : Slot) : ((step.registered slot).map (·.1)).Nodup := by
  rw [registered]
  split
  next =>
    cases step with
    | resolver r => exact List.nodup_nil
    | resolverFirst r => exact List.nodup_nil
    | builtins => exact Registry.nodup_names_builtins
    | transform name f => exact List.nodup_singleton name
    | arrTransform name f => exact List.nodup_singleton name
    | objTransform name f => exact List.nodup_singleton name
    | transforms r => exact h r rfl
  next => exact List.nodup_nil

end Builder.Step

/-! ### Steps one after another -/

namespace Builder

open Registries (Slot)

variable {steps : List (Step Node)}

/-- A step registers a name in a registry. -/
def Step.Registers (slot : Slot) (name : String) (step : Step Node) : Prop :=
  name ∈ (step.registered slot).map (·.1)

instance (slot : Slot) (name : String) (step : Step Node) :
    Decidable (step.Registers slot name) :=
  inferInstanceAs (Decidable (_ ∈ _))

/-- The registries that are put into a builder have each name once. -/
def KeepNamesApart (steps : List (Step Node)) : Prop :=
  ∀ r, .transforms r ∈ steps → r.names.Nodup

/-- The function of a name after a number of steps is that of the last of them that registers the
name, or else the one before them. -/
theorem get?_run (h : KeepNamesApart steps) (b : Builder Node) (slot : Slot) (name : String) :
    ((b.run steps).registries.get slot).get? name =
      (steps.reverse.findSome? fun step => (step.registered slot).lookup name).or
        ((b.registries.get slot).get? name) := by
  -- what the first step registers counts where no later step registers the name
  induction steps generalizing b with
  | nil => rfl
  | cons step rest ih =>
    have hrest : KeepNamesApart rest := fun r hr => h r (List.mem_cons_of_mem _ hr)
    have hstep : ((step.registered slot).map (·.1)).Nodup :=
      step.nodup_registered (fun r hr => h r (hr ▸ List.mem_cons_self)) slot
    have hrun : b.run (step :: rest) = (step.apply b).run rest := rfl
    rw [hrun, ih hrest, step.get_registries_apply, Registry.get?_foldl_register hstep,
      List.reverse_cons, List.findSome?_append, Option.or_assoc, List.findSome?_singleton]

/-- Names are kept apart in every registry of a builder that has started without transforms. -/
theorem nodup_names_run {b : Builder Node} (slot : Slot) (h : (b.registries.get slot).names.Nodup) :
    ((b.run steps).registries.get slot).names.Nodup := by
  induction steps generalizing b with
  | nil => exact h
  | cons step rest ih =>
    refine ih ?_
    rw [step.get_registries_apply]
    exact Registry.nodup_names_foldl_register h _

/-- The builder that has no resolvers and no transforms. -/
def fresh (m : DocumentModel Node) : Builder Node := { model := m }

variable (m : DocumentModel Node) (slot : Slot) (name : String)

/-- The function of a name is that of the last step that registers it. -/
theorem get?_run_fresh_eq_some_iff (h : KeepNamesApart steps) (f : TransformFn) :
    (((fresh m).run steps).registries.get slot).get? name = some f ↔
      ∃ before step after, steps = before ++ step :: after ∧
        (name, f) ∈ step.registered slot ∧ ∀ later ∈ after, ¬later.Registers slot name := by
  have hnone : ((fresh m).registries.get slot).get? name = none := by
    cases slot <;> rfl
  have hnodup : ∀ step ∈ steps, ((step.registered slot).map (·.1)).Nodup := fun step hstep =>
    step.nodup_registered (fun r hr => h r (hr ▸ hstep)) slot
  rw [get?_run h, hnone, Option.or_none, List.findSome?_eq_some_iff]
  -- from the end of the steps, the first that registers the name is the last of them
  constructor
  · rintro ⟨after, step, before, hsteps, hlookup, hafter⟩
    rw [List.reverse_eq_iff] at hsteps
    have hmem : step ∈ steps := by simp [hsteps]
    refine ⟨before.reverse, step, after.reverse, by simp [hsteps],
      (lookup_eq_some_iff_mem (hnodup step hmem)).1 hlookup, fun later hlater => ?_⟩
    exact lookup_eq_none_iff_notMem.1 (hafter later (List.mem_reverse.1 hlater))
  · rintro ⟨before, step, after, rfl, hmem, hafter⟩
    refine ⟨after.reverse, step, before.reverse, by simp,
      (lookup_eq_some_iff_mem (hnodup step (by simp))).2 hmem, fun later hlater => ?_⟩
    exact lookup_eq_none_iff_notMem.2 (hafter later (List.mem_reverse.1 hlater))

/-- A registry holds the names that some step registers there. -/
theorem mem_names_run_fresh_iff (h : KeepNamesApart steps) :
    name ∈ (((fresh m).run steps).registries.get slot).names ↔
      ∃ step ∈ steps, step.Registers slot name := by
  have hnone : ((fresh m).registries.get slot).get? name = none := by
    cases slot <;> rfl
  rw [Registry.mem_names_iff, get?_run h, hnone, Option.or_none, List.isSome_findSome?,
    List.any_reverse, List.any_eq_true]
  refine exists_congr fun step => and_congr_right fun _ => ?_
  rw [isSome_lookup_iff, Step.Registers]

/-- **What the registries of a builder hold.** After any steps from a builder without resolvers and
transforms, each registry holds a name exactly when some step registers it there, with the function
of the last such step, and its size is the number of these names. A step leaves the registries that
it does not write to as they are, and an extractor gets the registries of its builder. -/
theorem registries_run (h : KeepNamesApart steps) :
    let registry := ((fresh m).run steps).registries.get slot
    (registry.contains name ↔ ∃ step ∈ steps, step.Registers slot name) ∧
      (∀ f, registry.get? name = some f ↔
        ∃ before step after, steps = before ++ step :: after ∧
          (name, f) ∈ step.registered slot ∧ ∀ later ∈ after, ¬later.Registers slot name) ∧
      registry.size = {key | ∃ step ∈ steps, step.Registers slot key}.ncard ∧
      (∀ (b : Builder Node) (step : Step Node), slot ∉ step.slots →
        (step.apply b).registries.get slot = b.registries.get slot) ∧
      ∀ x, ((fresh m).run steps).build = .ok x → x.registries.get slot = registry := by
  intro registry
  refine ⟨?_, get?_run_fresh_eq_some_iff m slot name h, ?_, fun b step hslot => ?_,
    fun x hx => ?_⟩
  · rw [Registry.contains, ← Registry.mem_names_iff, mem_names_run_fresh_iff m slot name h]
  · -- the names of the registry are distinct, so there are as many as it has entries
    have hnodup : registry.names.Nodup := by
      refine nodup_names_run slot ?_
      cases slot <;> exact List.nodup_nil
    have hset : {key | ∃ step ∈ steps, step.Registers slot key} =
        (registry.names.toFinset : Set String) := by
      ext key
      rw [List.coe_toFinset]
      exact (mem_names_run_fresh_iff m slot key h).symm
    rw [hset, Set.ncard_coe_finset, List.toFinset_card_of_nodup hnodup, Registry.size,
      Registry.names, List.length_map]
  · rw [step.get_registries_apply, Step.registered, if_neg hslot, List.foldl_nil]
  · obtain ⟨-, rfl⟩ := build_eq_ok_iff.1 hx
    rfl

/-- A registry replaces a built-in transform and brings a new one, which is then replaced itself;
the built-in transform stays in the registry of objects. -/
theorem registries_run_overridden :
    let other : Registry := .ofList [("tag", Builtin.wrap), ("uppercase", Builtin.wrap)]
    let steps : List (Step Html.Node) :=
      [.builtins, .resolver (.shipped .default), .transforms other,
        .objTransform "tag" Builtin.json, .transform "tag" Builtin.unique]
    let registries := ((fresh (Html.documents false)).run steps).registries
    KeepNamesApart steps ∧
      (registries.get .values).get? "uppercase" = some Builtin.wrap ∧
      (registries.get .values).get? "tag" = some Builtin.unique ∧
      (registries.get .objects).get? "uppercase" = some (Builtin.mapTexts Unicode.upper) ∧
      (registries.get .values).size = 18 ∧
      {key | ∃ step ∈ steps, step.Registers .values key}.ncard = 18 := by
  intro other steps registries
  have happart : KeepNamesApart steps := by
    intro r hr
    have hother : r = other := by simpa [steps] using hr
    exact hother ▸ Registry.nodup_names_ofList _
  have hvalues := fun name => registries_run (Html.documents false) .values name happart
  have hobjects := registries_run (Html.documents false) .objects "uppercase" happart
  have hsize : (registries.get .values).size = 18 := by decide +kernel
  refine ⟨happart, ((hvalues "uppercase").2.1 _).2 ?_, ((hvalues "tag").2.1 _).2 ?_,
    (hobjects.2.1 _).2 ?_, hsize, (hvalues "tag").2.2.1.symm.trans hsize⟩
  · exact ⟨[.builtins, .resolver (.shipped .default)], .transforms other,
      [.objTransform "tag" Builtin.json, .transform "tag" Builtin.unique], rfl,
      .tail _ (.head _), by decide⟩
  · exact ⟨[.builtins, .resolver (.shipped .default), .transforms other,
      .objTransform "tag" Builtin.json], .transform "tag" Builtin.unique, [], rfl, .head _,
      by decide⟩
  · refine ⟨[], .builtins, [.resolver (.shipped .default), .transforms other,
      .objTransform "tag" Builtin.json, .transform "tag" Builtin.unique], rfl, ?_, by decide⟩
    simp [Step.registered, Step.slots, Step.entries, Builtin.entries]

end Builder
end Gleaner
