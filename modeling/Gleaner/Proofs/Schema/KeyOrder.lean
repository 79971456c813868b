import Gleaner.Proofs.Json.KeyOrder
import Gleaner.Schema.Load

/-!
# The order of keys in schema documents

A schema is read from the entries of an object in passes: the options of every schema, the
selector, the flags of the types, and the options of the type they choose. No pass depends on where
an entry stands, so a document loads to the same schema in any order of its keys.

## Main definitions

* `SameOptions`: entries that differ only in their order and in what they select.
* `Schema.selectedAt`: the schema of an object of options, by its selector.
* `Json.Rearranged`: a schema document whose keys stand in another order, at any depth.

## Main results

* `Schema.loadSelector_eq`: the selector is looked up as any other key.
* `Schema.agree_load_of_rearranged`: a schema loads alike from rearranged documents.
-/

namespace Gleaner

open Json Schema

/-! ### Options -/

theorem Schema.typedAt_eq_ok_iff {α : Type} {read : Json → Except String α}
    {fields : List (String × Json)} {path : String} {o : α} :
    typedAt read fields path = .ok o ↔ read (.object fields) = .ok o := by
  unfold typedAt
  cases read (.object fields) <;> simp

/-- Entries that give the same options to a schema: they differ only in their order and in their
selector. -/
structure SameOptions (fields others : List (String × Json)) : Prop where
  /-- The keys but that of the selector have the same value. -/
  lookup {key : String} (h : key ≠ "selector") : fields.lookup key = others.lookup key
  /-- A record that the selector is not a part of is read alike. -/
  record {α : Type} {keys : List String} {put : α → String → Json → Except String α}
    (h : IsKeywise keys put) (hkeys : "selector" ∉ keys) (o : α) :
    Agree (foldFields put o fields) (foldFields put o others)

namespace SameOptions

variable {fields others : List (String × Json)} {path : String}

/-- The order of the entries does not count, if no key stands twice. -/
theorem of_perm (h : fields.Perm others) (hkeys : (fields.map (·.1)).Nodup) :
    SameOptions fields others where
  lookup _ := lookup_eq_of_perm h hkeys _
  record hput _ o := hput.agree_of_perm h hkeys o

/-- What is selected does not count. -/
theorem of_selector (before after : List (String × Json)) (selector selector' : Json) :
    SameOptions (before ++ ("selector", selector) :: after)
      (before ++ ("selector", selector') :: after) where
  lookup h := by
    simp [List.lookup_append, List.lookup_cons, beq_eq_false_iff_ne.2 h]
  record hput hkeys o := by
    -- the record is read from the entries of its own keys, and the selector is none of them
    rw [← hput.foldFields_filter, ← hput.foldFields_filter o (before ++ (_, selector') :: after)]
    simp only [List.filter_append, List.filter_cons, hkeys]
    exact .refl _

theorem flagAt_eq (h : SameOptions fields others) {key : String} (hkey : key ≠ "selector") :
    flagAt fields key path = flagAt others key path := by
  simp only [flagAt, h.lookup hkey]

theorem transformsAt_eq (h : SameOptions fields others) {key : String} (hkey : key ≠ "selector") :
    transformsAt fields key path = transformsAt others key path := by
  simp only [transformsAt, h.lookup hkey]

/-- The options of every schema are the same. -/
theorem optionsAt_eq (h : SameOptions fields others) :
    optionsAt fields path = optionsAt others path := by
  simp [optionsAt, scopeAt, h.flagAt_eq, h.transformsAt_eq, h.lookup]

/-- The options of a type are read alike. -/
theorem agree_typedAt {α : Type} (h : SameOptions fields others) {name : String}
    {keys : List String} {initial : α} {put : α → String → Json → Except String α}
    (hput : IsKeywise keys put) (hkeys : "selector" ∉ keys) :
    Agree (typedAt (asRecord name keys initial put) fields path)
      (typedAt (asRecord name keys initial put) others path) := by
  intro o
  rw [typedAt_eq_ok_iff, typedAt_eq_ok_iff]
  exact h.record hput hkeys initial o

/-- The type is read alike: the flags are the same, and so are the options of the type that they
choose. -/
theorem agree_kindAt (h : SameOptions fields others) :
    Agree (kindAt fields path) (kindAt others path) := by
  simp only [kindAt, h.flagAt_eq (show "number" ≠ "selector" by decide),
    h.flagAt_eq (show "boolean" ≠ "selector" by decide),
    h.flagAt_eq (show "date" ≠ "selector" by decide),
    h.flagAt_eq (show "string" ≠ "selector" by decide)]
  -- the flags are read one after another, and the first that is set decides
  refine .bind (.refl _) fun number => ?_
  split
  · exact (h.agree_typedAt NumberOptions.isKeywise_put (by decide)).bind fun _ => .refl _
  refine .bind (.refl _) fun boolean => ?_
  split
  · exact (h.agree_typedAt BooleanOptions.isKeywise_put (by decide)).bind fun _ => .refl _
  refine .bind (.refl _) fun date => ?_
  split
  · exact (h.agree_typedAt DateOptions.isKeywise_put (by decide)).bind fun _ => .refl _
  refine .bind (.refl _) fun text => ?_
  match text with
  | some true =>
    exact (h.agree_typedAt TextOptions.isKeywise_put (by decide)).bind fun _ => .refl _
  | some false => exact .refl _
  | none =>
    exact (h.agree_typedAt TextOptions.isKeywise_put (by decide)).bind fun _ => .refl _

/-- A value schema is read alike. -/
theorem agree_valueAt (h : SameOptions fields others) (selector : QueryChoice)
    (options : SchemaOptions) :
    Agree (valueAt selector fields options path) (valueAt selector others options path) :=
  h.agree_kindAt.map

/-- What only an object schema has is the same. -/
theorem objectAt_eq (h : SameOptions fields others) (children : List (String × Schema))
    (options : SchemaOptions) :
    objectAt children fields options path = objectAt children others options path := by
  simp only [objectAt, h.flagAt_eq (show "object" ≠ "selector" by decide),
    h.transformsAt_eq (show "objTransforms" ≠ "selector" by decide)]

end SameOptions

/-! ### Selectors -/

namespace Schema

/-- The schema of an object of options, by its selector. Without one it is empty. -/
def selectedAt (fields : List (String × Json)) (options : SchemaOptions) (path : String) :
    (selector : Option Json) → Except SchemaError Schema
  | none => valueAt (.one "") fields options path
  | some .null => valueAt (.one "") fields options path
  | some (.string query) => valueAt (.one query) fields options path
  | some (.array items) => do valueAt (.all (← textsAt path 0 items)) fields options path
  | some (.object children) => do objectAt (← loadFields path children) fields options path
  | some other => unexpected (path ++ ".selector") "a string, a list or an object" other

/-- The selector is looked up as any other key. -/
theorem loadSelector_eq (fields : List (String × Json)) (options : SchemaOptions) (path : String)
    (rest : List (String × Json)) :
    loadSelector fields options path rest =
      selectedAt fields options path (rest.lookup "selector") := by
  induction rest with
  | nil => rw [loadSelector, List.lookup_nil, selectedAt]
  | cons entry rest ih =>
    obtain ⟨key, selector⟩ := entry
    by_cases hkey : key = "selector"
    · subst hkey
      rw [loadSelector.eq_def, List.lookup_cons_self]
      cases selector <;> rfl
    · rw [loadSelector.eq_def, List.lookup_cons, beq_eq_false_iff_ne.2 (Ne.symm hkey), ← ih]
      exact if_neg hkey

theorem load_object (path : String) (fields : List (String × Json)) :
    load path (.object fields) = optionsAt fields path >>= fun options =>
      selectedAt fields options path (fields.lookup "selector") := by
  simp only [load, loadSelector_eq]

/-- Objects of options that differ only in their order and in their selector load alike, if their
selectors do. -/
theorem agree_load_of_sameOptions {fields others : List (String × Json)} {path : String}
    (h : SameOptions fields others)
    (hselector : ∀ options, Agree (selectedAt fields options path (fields.lookup "selector"))
      (selectedAt fields options path (others.lookup "selector"))) :
    Agree (load path (.object fields)) (load path (.object others)) := by
  rw [load_object, load_object, ← h.optionsAt_eq]
  refine .bind (.refl _) fun options => (hselector options).trans ?_
  -- the selector is now the same, so what is left are the passes over the options
  match others.lookup "selector" with
  | none => exact h.agree_valueAt _ _
  | some .null => exact h.agree_valueAt _ _
  | some (.string query) => exact h.agree_valueAt _ _
  | some (.array items) => exact .bind (.refl _) fun selectors => h.agree_valueAt _ _
  | some (.object children) =>
    exact .bind (.refl _) fun children => h.objectAt_eq children options ▸ .refl _
  | some (.bool b) => exact .refl _
  | some (.number n) => exact .refl _

/-- The fields of an object load alike when the schema of one of them does. -/
theorem agree_loadFields {child child' : Json} (h : ∀ path, Agree (load path child) (load path child'))
    (path key : String) (above below : List (String × Json)) :
    Agree (loadFields path (above ++ (key, child) :: below))
      (loadFields path (above ++ (key, child') :: below)) := by
  induction above with
  | nil =>
    simp only [List.nil_append, loadFields]
    exact (h _).bind fun schema => .refl _
  | cons field above ih =>
    simp only [List.cons_append, loadFields]
    exact .bind (.refl _) fun schema => ih.bind fun others => .refl _

end Schema

/-! ### Documents -/

/-- A schema document with its keys in another order, at any depth. The fields of an object, which
stand under its selector, keep their places. -/
inductive Json.Rearranged : Json → Json → Prop
  /-- Nothing stands elsewhere. -/
  | refl (j : Json) : Rearranged j j
  /-- Once more. -/
  | trans {j j' j'' : Json} (h : Rearranged j j') (h' : Rearranged j' j'') : Rearranged j j''
  /-- The keys of the schema itself, of which none stands twice. -/
  | keys {fields others : List (String × Json)} (hperm : fields.Perm others)
    (hkeys : (fields.map (·.1)).Nodup) : Rearranged (.object fields) (.object others)
  /-- The keys within the schema of a field. -/
  | field {child child' : Json} (h : Rearranged child child') (key : String)
    (before after above below : List (String × Json)) :
    Rearranged
      (.object (before ++ ("selector", .object (above ++ (key, child) :: below)) :: after))
      (.object (before ++ ("selector", .object (above ++ (key, child') :: below)) :: after))

namespace Schema

/-- A schema loads alike from rearranged documents, wherever they stand. -/
theorem agree_load_of_rearranged {j j' : Json} (h : j.Rearranged j') (path : String) :
    Agree (load path j) (load path j') := by
  induction h generalizing path with
  | refl j => exact .refl _
  | trans _ _ ih ih' => exact (ih path).trans (ih' path)
  | keys hperm hkeys =>
    -- the selector is the same, and so is what it selects
    refine agree_load_of_sameOptions (.of_perm hperm hkeys) fun options => ?_
    rw [lookup_eq_of_perm hperm hkeys]
    exact .refl _
  | @field child child' _ key before after above below ih =>
    refine agree_load_of_sameOptions (.of_selector before after _ _) fun options => ?_
    rw [List.lookup_append, List.lookup_append, List.lookup_cons_self, List.lookup_cons_self]
    cases before.lookup "selector" with
    -- a selector further up hides the one that differs
    | some selector => exact .refl _
    | none => exact (agree_loadFields ih path key above below).bind fun children => .refl _

/-- The entries of an object that loads may stand in any order. -/
theorem load_of_perm {fields others : List (String × Json)} {path : String} {schema : Schema}
    (h : load path (.object fields) = .ok schema) (hperm : fields.Perm others)
    (hkeys : (fields.map (·.1)).Nodup) : load path (.object others) = .ok schema :=
  (agree_load_of_rearranged (.keys hperm hkeys) path schema).1 h

/-- Loading does not depend on the order of the keys of schemas: a document and any rearrangement
of it are both accepted, as the same schema with its fields in the same order, or both rejected. -/
theorem ofJson_eq_ok_iff_of_rearranged {j j' : Json} (h : j.Rearranged j') (schema : Schema) :
    ofJson j = .ok schema ↔ ofJson j' = .ok schema :=
  agree_load_of_rearranged h "$" schema

/-- The keys of an object and those of one of its fields may both stand in another order. -/
theorem ofJson_eq_ok_iff_of_rearranged_nested :
    ofJson (.object [
      ("selector", .object [
        ("name", .string "h1"),
        ("price", .object [("default", .number (.integer 0)), ("selector", .string ".price"),
          ("number", .bool true), ("int", .bool true)])]),
      ("trim", .bool false),
      ("scope", .string ".item")]) =
    .ok (.object [
        ("name", .value (.one "h1") (.implicit {}) {}),
        ("price", .value (.one ".price")
          (.number { fallback := some (.ofInt 0), isInteger := true }) {})]
      { scope := some (.first ".item"), trim := some false } [] true) := by
  have hprice : (Json.object [("selector", .string ".price"), ("default", .number (.integer 0)),
      ("number", .bool true), ("int", .bool true)]).Rearranged
      (.object [("default", .number (.integer 0)), ("selector", .string ".price"),
        ("number", .bool true), ("int", .bool true)]) :=
    .keys (.swap _ _ _) (by decide)
  have hinner := hprice.field "price" [("scope", .string ".item")] [("trim", .bool false)]
    [("name", .string "h1")] []
  have houter := hinner.trans (.keys List.perm_append_comm (by decide))
  exact (ofJson_eq_ok_iff_of_rearranged houter _).1 rfl

end Schema
end Gleaner
