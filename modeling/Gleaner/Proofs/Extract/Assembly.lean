import Gleaner.Proofs.Extract.EmptySelector
import Gleaner.Proofs.Json.KeyOrder

/-!
# How objects are put together

The entries of an object are filled in from the results of its fields, those of flat objects apart
from the others, and the one list is put into the other. What comes out is stated here without
that order of work: the keys, the value of each, and the transforms applied to the whole.

## Main definitions

* `FieldResult.merged`: the entries of a flat field whose result is an object.
* `keptEntries`, `contributedEntries`: what the other fields and what the flat objects hold.
* `fieldResult`: the result of a field with what it inherits from its object.
* `Transform.apply`: a value after one transform.

## Main results

* `keys_mergeEntries`, `lookup_mergeEntries`: entries put into others one after another.
* `keys_assemble`, `lookup_assemble`: the keys of an object and the value of each.
* `runPipeline_build`: a pipeline is its transforms applied from left to right.
* `resolveObject_assembly`: all of it for an object schema.
-/

namespace Gleaner

variable {Node : Type}

/-! ### Lists with each item once -/

section EraseDups

variable {α : Type} [BEq α] [LawfulBEq α]

/-- Leaving out items and leaving out repetitions may be done in either order. -/
theorem filter_eraseDups (p : α → Bool) (xs : List α) :
    xs.eraseDups.filter p = (xs.filter p).eraseDups := by
  match xs with
  | [] => rfl
  | x :: rest =>
    -- what is left of the rest without its first item is shorter
    have ih := filter_eraseDups p (rest.filter fun y => !y == x)
    rw [List.eraseDups_cons]
    by_cases hx : p x
    · rw [List.filter_cons_of_pos hx, List.filter_cons_of_pos hx, List.eraseDups_cons, ih,
        List.filter_comm]
    · rw [List.filter_cons_of_neg hx, List.filter_cons_of_neg hx, ih, List.filter_filter]
      congr 1
      refine List.filter_congr fun y _ => ?_
      by_cases hy : y = x
      · subst hy
        simp [hx]
      · simp [hy]
termination_by xs.length
decreasing_by
  exact Nat.lt_succ_of_le (List.length_filter_le _ rest)

/-- Leaving out repetitions twice is doing it once. -/
theorem eraseDups_eraseDups (xs : List α) : xs.eraseDups.eraseDups = xs.eraseDups := by
  match xs with
  | [] => rfl
  | x :: rest =>
    have ih := eraseDups_eraseDups (rest.filter fun y => !y == x)
    rw [List.eraseDups_cons, List.eraseDups_cons, filter_eraseDups, List.filter_filter]
    simpa using ih
termination_by xs.length
decreasing_by
  exact Nat.lt_succ_of_le (List.length_filter_le _ rest)

end EraseDups

/-! ### Entries put into others -/

section Merge

variable {entries more : List (String × Value)}

/-- New keys are added at the end, each at its first place. -/
theorem keys_mergeEntries :
    (mergeEntries entries more).map (·.1) = entries.map (·.1) ++
      ((more.map (·.1)).filter (· ∉ entries.map (·.1))).eraseDups := by
  induction more generalizing entries with
  | nil => simp [mergeEntries]
  | cons entry rest ih =>
    obtain ⟨key, v⟩ := entry
    have hstep : mergeEntries entries ((key, v) :: rest) =
        mergeEntries (putEntry key v entries) rest := rfl
    rw [hstep, ih, keys_putEntry, List.map_cons]
    by_cases hkey : key ∈ entries.map (·.1)
    · rw [if_pos hkey, List.filter_cons_of_neg (by simpa using hkey)]
    · rw [if_neg hkey, List.filter_cons_of_pos (by simpa using hkey), List.eraseDups_cons,
        List.filter_filter, List.append_assoc, List.singleton_append]
      congr 3
      refine List.filter_congr fun other _ => ?_
      rw [Bool.eq_iff_iff]
      simp [and_comm, not_or]

/-- The last value that is put in for a key is its value. -/
theorem lookup_mergeEntries (key : String) :
    (mergeEntries entries more).lookup key = (more.reverse.lookup key).or (entries.lookup key) := by
  induction more generalizing entries with
  | nil => rfl
  | cons entry rest ih =>
    obtain ⟨k, v⟩ := entry
    have hstep : mergeEntries entries ((k, v) :: rest) =
        mergeEntries (putEntry k v entries) rest := rfl
    have hput : (putEntry k v entries).lookup key =
        ([(k, v)].lookup key).or (entries.lookup key) := by
      rw [lookup_putEntry]
      by_cases hkey : key = k
      · simp [hkey]
      · simp [hkey, List.lookup_cons, beq_eq_false_iff_ne.2 hkey]
    rw [hstep, ih, hput, List.reverse_cons, List.lookup_append, Option.or_assoc]

/-- No key is put in twice. -/
theorem nodup_keys_mergeEntries (h : (entries.map (·.1)).Nodup) :
    ((mergeEntries entries more).map (·.1)).Nodup := by
  induction more generalizing entries with
  | nil => exact h
  | cons entry rest ih =>
    obtain ⟨key, v⟩ := entry
    refine ih ?_
    rw [keys_putEntry]
    split
    next => exact h
    next hkey =>
      refine List.nodup_append.2 ⟨h, List.nodup_singleton key, fun k hk k' hk' heq => ?_⟩
      obtain rfl : k' = key := List.mem_singleton.1 hk'
      exact hkey (heq ▸ hk)

/-- Where no key stands twice, the last value of a key is its first. -/
theorem lookup_reverse_of_nodup (h : (entries.map (·.1)).Nodup) (key : String) :
    entries.reverse.lookup key = entries.lookup key :=
  (lookup_eq_of_perm entries.reverse_perm.symm h key).symm

end Merge

/-! ### The entries of an object -/

/-- The entries of a flat field whose result is an object; the other fields have none. -/
def FieldResult.merged (r : FieldResult) : Option (List (String × Value)) :=
  match r.flat, r.value with
  | true, .object inner => some inner
  | _, _ => none

/-- The results of the fields that are not merged, under their own keys. -/
def keptEntries (results : List FieldResult) : List (String × Value) :=
  (results.filter (·.merged.isNone)).map fun r => (r.key, r.value)

/-- The entries of the flat objects, one object after another. -/
def contributedEntries (results : List FieldResult) : List (String × Value) :=
  results.flatMap fun r => r.merged.getD []

section Assemble

variable (results : List FieldResult)

/-- The fields that are not merged are put in one after another. -/
theorem ownEntries_eq : ownEntries results = mergeEntries [] (keptEntries results) := by
  rw [ownEntries, mergeEntries, keptEntries, List.foldl_map, List.foldl_filter]
  congr 1
  funext acc r
  obtain ⟨key, flat, value⟩ := r
  cases flat <;> cases value <;> rfl

/-- The entries of the flat objects are put in one after another. -/
theorem flatEntries_eq : flatEntries results = mergeEntries [] (contributedEntries results) := by
  rw [flatEntries, mergeEntries, contributedEntries, List.foldl_flatMap]
  congr 1
  funext acc r
  obtain ⟨key, flat, value⟩ := r
  cases flat <;> cases value <;> rfl

/-- The keys of an object: those of the fields that are not merged, in order, and after them the
other keys of the flat objects, each once at its first place. -/
theorem keys_assemble :
    (assemble results).map (·.1) = ((keptEntries results).map (·.1)).eraseDups ++
      (((contributedEntries results).map (·.1)).filter
        (· ∉ (keptEntries results).map (·.1))).eraseDups := by
  have hfresh (more : List (String × Value)) :
      (mergeEntries [] more).map (·.1) = (more.map (·.1)).eraseDups := by
    rw [keys_mergeEntries]
    simp
  rw [assemble, keys_mergeEntries, flatEntries_eq, ownEntries_eq, hfresh, hfresh,
    filter_eraseDups, eraseDups_eraseDups]
  simp only [List.mem_eraseDups]

/-- The value of a key: the last one that a flat object gives it, or else the result of its
field. -/
theorem lookup_assemble (key : String) :
    (assemble results).lookup key = ((contributedEntries results).reverse.lookup key).or
      ((keptEntries results).reverse.lookup key) := by
  have hflat : ((flatEntries results).map (·.1)).Nodup := by
    rw [flatEntries_eq]
    exact nodup_keys_mergeEntries List.nodup_nil
  rw [assemble, lookup_mergeEntries, lookup_reverse_of_nodup hflat, flatEntries_eq, ownEntries_eq,
    lookup_mergeEntries, lookup_mergeEntries, List.lookup_nil, Option.or_none, Option.or_none]

end Assemble

/-! ### Transforms from left to right -/

/-- The value after one transform. A name that is not registered leaves it as it is. -/
def Transform.apply (registry : Registry) (v : Value) : Transform → Except TransformError Value
  | .inline f => .ok (f v)
  | .named spec =>
    match registry.get? (TransformSpec.ofText spec).name with
    | some f => f v (TransformSpec.ofText spec).args
    | none => .ok v

/-- A pipeline is its transforms applied from left to right, up to the first error. -/
theorem runPipeline_build (transforms : List Transform) (registry : Registry) (v : Value) :
    runPipeline (.build transforms registry) v =
      (transforms.foldlM (Transform.apply registry) v).mapError ResolveError.transform := by
  have hrun : (Pipeline.build transforms registry).run v =
      transforms.foldlM (Transform.apply registry) v := by
    induction transforms generalizing v with
    | nil => rfl
    | cons transform rest ih =>
      rw [List.foldlM_cons, Pipeline.build, List.filterMap_cons]
      cases transform with
      | inline f => exact ih (f v)
      | named spec =>
        rw [Transform.bind?, Transform.apply]
        cases registry.get? (TransformSpec.ofText spec).name with
        | none => exact ih v
        | some f =>
          simp only [Option.map_some, Pipeline.run, Step.run]
          cases f v (TransformSpec.ofText spec).args with
          | error e => rfl
          | ok w => exact ih w
  rw [runPipeline, hrun]
  cases transforms.foldlM (Transform.apply registry) v <;> rfl

/-! ### The result of an object -/

/-- The result of a field of an object at a node, where the field has inherited the options of
the object. -/
def fieldResult (x : Extractor Node) (options : SchemaOptions) (path : String) (node : Node)
    (entry : String × Schema) : Except ResolveError Value :=
  resolveIn x {} (path ++ "." ++ entry.1) (some node) (entry.2.inherit options)

/-- Inheriting options first is inheriting them while a schema is resolved. -/
theorem resolveIn_inherit (x : Extractor Node) (options : SchemaOptions) (path : String)
    (node? : Option Node) (schema : Schema) :
    resolveIn x {} path node? (schema.inherit options) =
      resolveIn x options path node? schema := by
  cases schema with
  | value choice kind own =>
    simp only [Schema.inherit, Schema.mapOptions, resolveIn, SchemaOptions.inherit_default]
  | object fields own objTransforms enabled =>
    simp only [Schema.inherit, Schema.mapOptions, resolveIn, SchemaOptions.inherit_default]

section Object

variable {x : Extractor Node} {options : SchemaOptions} {path : String} {node : Node}
  {fields : List (String × Schema)}

/-- The fields of an object fail with the error of the first one that fails. -/
theorem exists_first_of_resolveFields_eq_error {e : ResolveError}
    (h : resolveFields x options path node fields = .error e) :
    ∃ before entry after, fields = before ++ entry :: after ∧
      (∀ earlier ∈ before, ∃ v, fieldResult x options path node earlier = .ok v) ∧
      fieldResult x options path node entry = .error e := by
  induction fields with
  | nil => cases h
  | cons entry rest ih =>
    rw [resolveFields, ← resolveIn_inherit, ← fieldResult] at h
    cases hentry : fieldResult x options path node entry with
    | error e' =>
      rw [hentry] at h
      cases h
      exact ⟨[], entry, rest, rfl, fun _ hmem => absurd hmem List.not_mem_nil, hentry⟩
    | ok v =>
      cases hrest : resolveFields x options path node rest with
      | ok results => simp [hentry, hrest] at h
      | error e' =>
        simp only [hentry, hrest, Except.error.injEq] at h
        subst h
        obtain ⟨before, failing, after, rfl, hbefore, hfailing⟩ := ih hrest
        exact ⟨entry :: before, failing, after, rfl,
          List.forall_mem_cons.2 ⟨⟨v, hentry⟩, hbefore⟩, hfailing⟩

/-- The fields of an object succeed when each of them does. -/
theorem exists_results_of_forall
    (h : ∀ entry ∈ fields, ∃ v, fieldResult x options path node entry = .ok v) :
    ∃ results, resolveFields x options path node fields = .ok results := by
  cases hfields : resolveFields x options path node fields with
  | ok results => exact ⟨results, rfl⟩
  | error e =>
    obtain ⟨before, entry, after, rfl, -, hentry⟩ := exists_first_of_resolveFields_eq_error hfields
    obtain ⟨v, hv⟩ := h entry (by simp)
    rw [hv] at hentry
    cases hentry

end Object

/-- A flat object that shares a key with the field before it. -/
def overlapping : Schema :=
  .object [("a", .value (.one "p") (.boolean {}) {}), ("b", .value (.one "p") (.text {}) {})]
    { flat := true } [] true

/-- A field, the flat object, and a flat value. -/
def collidingFields : List (String × Schema) :=
  [("a", .value (.one "p") (.text {}) {}), ("inner", overlapping),
    ("tail", .value (.one "p") (.text {}) { flat := true })]

end Gleaner
