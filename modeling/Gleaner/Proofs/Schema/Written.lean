import Gleaner.Proofs.Schema.Setters

/-!
# Built schemas and written schemas

A schema is built by a constructor and the setters called on what it makes. The same choices can be
written as the keys of a document, and the document loads to the schema that was built.

## Main definitions

* `ValueForm`: the constructors of value schemas.
* `Recipe`: what to build, as data; `Recipe.build` builds it.
* `Recipe.document`: the same choices as a document.
* `Recipe.Writes`: the documents that write the same choices, with the keys of a schema in any
  order and plain texts as their selector alone.

## Main results

* `Schema.kindAt_filter`: the type of a schema is read from the keys of types only.
* `Recipe.load_of_writes`: a document that writes the choices of a recipe loads to what it builds.
-/

namespace Gleaner

open Json Schema

/-! ### The type of a schema -/

/-- The keys of types: their flags, and their options. -/
def ValueKind.keys : List String :=
  ["number", "boolean", "date", "string"] ++ TextOptions.keys ++ NumberOptions.keys ++
    BooleanOptions.keys ++ DateOptions.keys

/-- The type is read from the keys of types only. -/
theorem Schema.kindAt_filter (fields : List (String × Json)) (path : String) :
    kindAt (fields.filter (·.1 ∈ ValueKind.keys)) path = kindAt fields path := by
  have hflag {key : String} (h : key ∈ ValueKind.keys) :
      flagAt (fields.filter (·.1 ∈ ValueKind.keys)) key path = flagAt fields key path := by
    rw [flagAt, flagAt, lookup_filter h]
  have htyped {α : Type} {name : String} {keys : List String} {initial : α}
      {put : α → String → Json → Except String α} (hput : IsKeywise keys put)
      (hkeys : keys ⊆ ValueKind.keys) :
      typedAt (asRecord name keys initial put) (fields.filter (·.1 ∈ ValueKind.keys)) path =
        typedAt (asRecord name keys initial put) fields path := by
    -- the keys of one type are among those that the first filter keeps
    have hfilter : (fields.filter (·.1 ∈ ValueKind.keys)).filter (·.1 ∈ keys) =
        fields.filter (·.1 ∈ keys) := by
      rw [List.filter_filter]
      refine List.filter_congr fun entry _ => ?_
      by_cases h : entry.1 ∈ keys
      · simp [h, hkeys h]
      · simp [h]
    simp only [typedAt, asRecord]
    rw [← hput.foldFields_filter, hfilter, hput.foldFields_filter]
  have hnumber : typedAt NumberOptions.ofJson (fields.filter (·.1 ∈ ValueKind.keys)) path =
      typedAt NumberOptions.ofJson fields path := htyped NumberOptions.isKeywise_put (by decide)
  have hboolean : typedAt BooleanOptions.ofJson (fields.filter (·.1 ∈ ValueKind.keys)) path =
      typedAt BooleanOptions.ofJson fields path := htyped BooleanOptions.isKeywise_put (by decide)
  have hdate : typedAt DateOptions.ofJson (fields.filter (·.1 ∈ ValueKind.keys)) path =
      typedAt DateOptions.ofJson fields path := htyped DateOptions.isKeywise_put (by decide)
  have htext : typedAt TextOptions.ofJson (fields.filter (·.1 ∈ ValueKind.keys)) path =
      typedAt TextOptions.ofJson fields path := htyped TextOptions.isKeywise_put (by decide)
  rw [kindAt, kindAt, hflag (by decide), hflag (by decide), hflag (by decide), hflag (by decide),
    hnumber, hboolean, hdate, htext]

/-! ### Value schemas -/

/-- A constructor of value schemas. -/
inductive ValueForm where
  /-- A text of no declared type. -/
  | text
  /-- A text. -/
  | string
  /-- A text cut down to the first match of a pattern. -/
  | matching (pattern : String)
  /-- A number. -/
  | number
  /-- A number made an integer. -/
  | integer (rounding : Rounding)
  /-- A boolean. -/
  | boolean
  /-- A date in a format. -/
  | date (format : Option String)
  deriving DecidableEq

namespace ValueForm

/-- The schema that the constructor makes. -/
def make (selector : QueryChoice) : ValueForm → Schema
  | text => .text selector
  | string => .string selector
  | matching pattern => .matching selector pattern
  | number => .number selector
  | integer rounding => .integer selector rounding
  | boolean => .boolean selector
  | date format => .date selector format

/-- The type of the schema. -/
def kind : ValueForm → ValueKind
  | text => .implicit {}
  | string => .text {}
  | matching pattern => .text { pattern := some pattern }
  | number => .number {}
  | integer rounding => .number { isInteger := true, rounding }
  | boolean => .boolean {}
  | date format => .date { format }

/-- The entries in which the type is written: its flag and its options. -/
def entries : ValueForm → List (String × Json)
  | text => []
  | string => [("string", .bool true)]
  | matching pattern => [("string", .bool true), ("match", .string pattern)]
  | number => [("number", .bool true)]
  | integer rounding =>
    [("number", .bool true), ("int", .bool true), ("roundMode", .string rounding.name)]
  | boolean => [("boolean", .bool true)]
  | date none => [("date", .bool true)]
  | date (some format) => [("date", .bool true), ("format", .string format)]

theorem make_eq (form : ValueForm) (selector : QueryChoice) :
    form.make selector = .value selector form.kind {} := by
  cases form <;> rfl

/-- The keys of a type and of the options of every schema are different, and so is that of the
selector. -/
theorem nodup_keys (form : ValueForm) :
    ("selector" :: (form.entries.map (·.1) ++ SchemaOptions.keys)).Nodup := by
  rcases form with _ | _ | _ | _ | _ | _ | _ | _ <;> simp [entries, SchemaOptions.keys]

/-- The keys of a type are keys of types. -/
theorem keys_subset (form : ValueForm) : form.entries.map (·.1) ⊆ ValueKind.keys := by
  rcases form with _ | _ | _ | _ | _ | _ | _ | _ <;>
    simp [entries, ValueKind.keys, TextOptions.keys, NumberOptions.keys, DateOptions.keys]

/-- The type is read back from its entries. -/
theorem kindAt_entries (form : ValueForm) (path : String) :
    kindAt form.entries path = .ok form.kind := by
  rcases form with _ | _ | _ | _ | rounding | _ | _ | _
  case integer => cases rounding <;> rfl
  all_goals rfl

end ValueForm

/-- A selector as a document: one query, or a list of queries. -/
def QueryChoice.toJson : QueryChoice → Json
  | .one query => .string query
  | .all queries => .array (queries.map .string)

/-! ### Recipes -/

/-- What to build: a constructor, and the setters called on what it makes. -/
inductive Recipe where
  /-- A value schema. -/
  | value (form : ValueForm) (selector : QueryChoice) (setters : List Setter)
  /-- An object. -/
  | object (fields : List (String × Recipe)) (setters : List Setter)
  /-- An object whose keys are merged into the object around it. -/
  | flat (fields : List (String × Recipe)) (setters : List Setter)

namespace Recipe

mutual

/-- The schema that a recipe builds. -/
def build : Recipe → Schema
  | value form selector setters => Setter.applyAll (form.make selector) setters
  | object fields setters => Setter.applyAll (.ofFields (buildFields fields)) setters
  | flat fields setters => Setter.applyAll (.flat (buildFields fields)) setters

/-- The schemas of the fields of an object. -/
def buildFields : List (String × Recipe) → List (String × Schema)
  | [] => []
  | (key, recipe) :: rest => (key, recipe.build) :: buildFields rest

end

/-- The entries of a value schema. -/
def valueEntries (form : ValueForm) (selector : QueryChoice) (setters : List Setter) :
    List (String × Json) :=
  ("selector", selector.toJson) :: form.entries ++ Setter.entries setters

/-- The entries of an object with the documents of its fields. Of a repeated key the last document
counts, at the place of the first. -/
def objectEntries (children : List (String × Json)) (setters : List Setter) :
    List (String × Json) :=
  [("selector", .object (putAll children))] ++ Setter.objectEntries setters ++
    Setter.entries setters

mutual

/-- The document that writes the choices of a recipe. -/
def document : Recipe → Json
  | value form selector setters => .object (valueEntries form selector setters)
  | object fields setters => .object (objectEntries (documentFields fields) setters)
  | flat fields setters => .object (objectEntries (documentFields fields) (.flatten :: setters))

/-- The documents of the fields of an object. -/
def documentFields : List (String × Recipe) → List (String × Json)
  | [] => []
  | (key, recipe) :: rest => (key, recipe.document) :: documentFields rest

end

mutual

/-- The documents that write the choices of a recipe: the keys of a schema may stand in any order,
and a text with no choices may be its selector alone. -/
inductive Writes : Recipe → Json → Prop
  /-- The entries of a value schema, in any order. -/
  | value {form : ValueForm} {selector : QueryChoice} {setters : List Setter}
    {entries : List (String × Json)} (h : (valueEntries form selector setters).Perm entries) :
    Writes (.value form selector setters) (.object entries)
  /-- The selector of a text for which nothing is set. -/
  | bare {selector : QueryChoice} {setters : List Setter} (h : Setter.entries setters = []) :
    Writes (.value .text selector setters) selector.toJson
  /-- The entries of an object, in any order. -/
  | object {fields : List (String × Recipe)} {setters : List Setter}
    {children entries : List (String × Json)} (hfields : WritesFields fields children)
    (h : (objectEntries children setters).Perm entries) :
    Writes (.object fields setters) (.object entries)
  /-- The entries of a merged object, in any order. -/
  | flat {fields : List (String × Recipe)} {setters : List Setter}
    {children entries : List (String × Json)} (hfields : WritesFields fields children)
    (h : (objectEntries children (.flatten :: setters)).Perm entries) :
    Writes (.flat fields setters) (.object entries)

/-- The documents of the fields of an object. -/
inductive WritesFields : List (String × Recipe) → List (String × Json) → Prop
  /-- No fields. -/
  | nil : WritesFields [] []
  /-- A field and those after it. -/
  | cons {key : String} {recipe : Recipe} {document : Json} {fields : List (String × Recipe)}
    {documents : List (String × Json)} (h : Writes recipe document)
    (hfields : WritesFields fields documents) :
    WritesFields ((key, recipe) :: fields) ((key, document) :: documents)

end

mutual

/-- The document of a recipe writes its choices. -/
theorem writes_document : ∀ recipe : Recipe, recipe.Writes recipe.document
  | .value _ _ _ => .value (.refl _)
  | .object fields _ => .object (writesFields_documentFields fields) (.refl _)
  | .flat fields _ => .flat (writesFields_documentFields fields) (.refl _)

/-- The documents of the fields write their choices. -/
theorem writesFields_documentFields :
    ∀ fields : List (String × Recipe), WritesFields fields (documentFields fields)
  | [] => .nil
  | (_, recipe) :: rest => .cons (writes_document recipe) (writesFields_documentFields rest)

end

/-! ### Loading what is written -/

/-- The keys of a value schema are different. -/
theorem nodup_keys_valueEntries (form : ValueForm) (selector : QueryChoice)
    (setters : List Setter) : ((valueEntries form selector setters).map (·.1)).Nodup := by
  refine .sublist ?_ form.nodup_keys
  rw [valueEntries, List.cons_append, List.map_cons, List.map_append]
  exact ((Setter.keys_entries_sublist setters).append_left _).cons_cons _

/-- The keys of an object are different. -/
theorem nodup_keys_objectEntries (children : List (String × Json)) (setters : List Setter) :
    ((objectEntries children setters).map (·.1)).Nodup := by
  have hall : (["selector"] ++ ["objTransforms", "object"] ++ SchemaOptions.keys).Nodup := by decide
  refine .sublist ?_ hall
  rw [objectEntries, List.map_append, List.map_append]
  exact ((Setter.keys_objectEntries_sublist setters).append_left _).append
    (Setter.keys_entries_sublist setters)

/-- Of the entries of a value schema only those of its type have the key of a type. -/
theorem filter_valueEntries (form : ValueForm) (selector : QueryChoice) (setters : List Setter) :
    (valueEntries form selector setters).filter (·.1 ∈ ValueKind.keys) = form.entries := by
  have hform : form.entries.filter (·.1 ∈ ValueKind.keys) = form.entries :=
    List.filter_eq_self.2 fun entry hentry =>
      decide_eq_true (form.keys_subset (List.mem_map_of_mem hentry))
  have hsetters : (Setter.entries setters).filter (·.1 ∈ ValueKind.keys) = [] := by
    refine List.filter_eq_nil_iff.2 fun entry hentry => ?_
    have hkey : entry.1 ∈ SchemaOptions.keys :=
      (Setter.keys_entries_sublist setters).subset (List.mem_map_of_mem hentry)
    have hall : ∀ key ∈ SchemaOptions.keys, key ∉ ValueKind.keys := by decide
    simpa using hall entry.1 hkey
  have hselector : ¬ "selector" ∈ ValueKind.keys := by decide
  rw [valueEntries, List.filter_append, List.filter_cons_of_neg (by simpa using hselector), hform,
    hsetters, List.append_nil]

/-- The document of a value schema loads to what its constructor and setters build. -/
theorem load_valueEntries (form : ValueForm) (selector : QueryChoice) (setters : List Setter)
    (path : String) :
    load path (.object (valueEntries form selector setters)) =
      .ok (Setter.applyAll (form.make selector) setters) := by
  have hoptions : optionsAt (valueEntries form selector setters) path =
      .ok (Setter.optionsOf setters) := by
    have hdisjoint : List.Disjoint ("selector" :: form.entries.map (·.1)) SchemaOptions.keys :=
      List.disjoint_of_nodup_append form.nodup_keys
    exact Setter.optionsAt_entries (fun key hkey hmem => hdisjoint hmem hkey) setters path
  have hkind : kindAt (valueEntries form selector setters) path = .ok form.kind := by
    rw [← kindAt_filter, filter_valueEntries, form.kindAt_entries]
  have hvalue (choice : QueryChoice) : valueAt choice (valueEntries form selector setters)
      (Setter.optionsOf setters) path = .ok (.value choice form.kind (Setter.optionsOf setters)) := by
    rw [valueAt, hkind]
    rfl
  have hlookup : (valueEntries form selector setters).lookup "selector" = some selector.toJson :=
    List.lookup_cons_self
  rw [load_object, hoptions, hlookup, form.make_eq, Setter.applyAll_value]
  cases selector with
  | one query => exact hvalue (.one query)
  | all queries =>
    refine Eq.trans ?_ (hvalue (.all queries))
    exact congrArg (· >>= fun queries => valueAt (.all queries) _ _ path)
      (textsAt_string path 0 queries)

/-- The selector of a text alone loads to the text. -/
theorem load_toJson (selector : QueryChoice) (path : String) :
    load path selector.toJson = .ok (.text selector) := by
  cases selector with
  | one query => rfl
  | all queries =>
    rw [QueryChoice.toJson, load, textsAt_string]
    rfl

/-- The document of an object loads to what its constructor and setters build, if the documents of
its fields load to theirs. -/
theorem load_objectEntries {children : List (String × Json)} {fields : List (String × Schema)}
    {path : String} (h : loadFields path (putAll children) = .ok (putAll fields))
    (setters : List Setter) :
    load path (.object (objectEntries children setters)) =
      .ok (Setter.applyAll (.ofFields fields) setters) := by
  have hoptions : optionsAt (objectEntries children setters) path =
      .ok (Setter.optionsOf setters) := by
    refine Setter.optionsAt_entries (fun key hkey hmem => ?_) setters path
    have hfront : key ∈ ["selector"] ++ ["objTransforms", "object"] := by
      rw [List.map_append] at hmem
      exact ((Setter.keys_objectEntries_sublist setters).append_left _).subset hmem
    have hall : ∀ key ∈ SchemaOptions.keys, key ∉ ["selector"] ++ ["objTransforms", "object"] := by
      decide
    exact hall key hkey hfront
  have hobject : objectAt (putAll fields) (objectEntries children setters)
      (Setter.optionsOf setters) path = .ok (Setter.applyAll (.ofFields fields) setters) := by
    rw [ofFields, Setter.applyAll_object]
    refine Setter.objectAt_entries (fun key hkey => ⟨?_, fun hmem => ?_⟩) _ setters _ path
    · have hall : ∀ key ∈ ["objTransforms", "object"], key ∉ ["selector"] := by decide
      exact hall key hkey
    · have hall : ∀ key ∈ ["objTransforms", "object"], key ∉ SchemaOptions.keys := by decide
      exact hall key hkey ((Setter.keys_entries_sublist setters).subset hmem)
  have hlookup : (objectEntries children setters).lookup "selector" =
      some (.object (putAll children)) := List.lookup_cons_self
  rw [load_object, hoptions, hlookup]
  refine Eq.trans ?_ hobject
  exact congrArg (· >>= fun children => objectAt children _ _ path) h

/-- The document of a field loads to its schema, wherever it stands. -/
def LoadsTo (child : String × Json) (field : String × Schema) : Prop :=
  child.1 = field.1 ∧ ∀ path, load path child.2 = .ok field.2

/-- Fields load one after another. -/
theorem loadFields_of_forall₂ {children : List (String × Json)} {fields : List (String × Schema)}
    (h : List.Forall₂ LoadsTo children fields) (path : String) :
    loadFields path children = .ok fields := by
  induction h with
  | nil => rfl
  | @cons child field children fields hchild _ ih =>
    obtain ⟨key, document⟩ := child
    obtain ⟨key', schema⟩ := field
    obtain ⟨rfl, hload⟩ := hchild
    rw [loadFields, hload, ih]
    rfl

/-- Where a key has a document already, and so a schema, both are replaced. -/
theorem forall₂_putEntry {key : String} {document : Json} {schema : Schema}
    (hload : ∀ path, load path document = .ok schema) {children : List (String × Json)}
    {fields : List (String × Schema)} (h : List.Forall₂ LoadsTo children fields) :
    List.Forall₂ LoadsTo (putEntry key document children) (putEntry key schema fields) := by
  induction h with
  | nil => exact .cons ⟨rfl, hload⟩ .nil
  | @cons child field children fields hchild hrest ih =>
    obtain ⟨k, d⟩ := child
    obtain ⟨k', s⟩ := field
    obtain ⟨rfl, hchild⟩ := hchild
    rw [putEntry, putEntry]
    split
    · exact .cons ⟨rfl, hload⟩ hrest
    · exact .cons ⟨rfl, hchild⟩ ih

/-- Documents and schemas with the same repeated keys are put into a map alike. -/
theorem forall₂_putAll {children : List (String × Json)} {fields : List (String × Schema)}
    (h : List.Forall₂ LoadsTo children fields) :
    List.Forall₂ LoadsTo (putAll children) (putAll fields) := by
  suffices ∀ (acc : List (String × Json)) (acc' : List (String × Schema)),
      List.Forall₂ LoadsTo acc acc' →
      List.Forall₂ LoadsTo (children.foldl (fun acc (key, d) => putEntry key d acc) acc)
        (fields.foldl (fun acc (key, s) => putEntry key s acc) acc') from
    this [] [] .nil
  -- the documents and the schemas are put in side by side, into maps that load to each other
  induction h with
  | nil => exact fun _ _ hacc => hacc
  | @cons child field _ _ hchild _ ih =>
    obtain ⟨key, document⟩ := child
    obtain ⟨key', schema⟩ := field
    obtain ⟨rfl, hload⟩ := hchild
    exact fun acc acc' hacc => ih _ _ (forall₂_putEntry hload hacc)

mutual

/-- A document that writes the choices of a recipe loads to what the recipe builds, wherever it
stands. -/
theorem load_of_writes {recipe : Recipe} {j : Json} (h : recipe.Writes j) (path : String) :
    load path j = .ok recipe.build := by
  cases h with
  | @value form selector setters entries hperm =>
    have hload := load_valueEntries form selector setters path
    exact load_of_perm hload hperm (nodup_keys_valueEntries ..)
  | @bare selector setters hentries =>
    have hoptions := Setter.optionsOf_eq_of_entries hentries
    rw [build, ValueForm.make_eq, Setter.applyAll_value, hoptions]
    exact load_toJson selector path
  | @object fields setters children entries hfields hperm =>
    have hchildren := loadFields_of_forall₂ (forall₂_putAll (forall₂_of_writesFields hfields)) path
    have hload := load_objectEntries hchildren setters
    exact load_of_perm hload hperm (nodup_keys_objectEntries ..)
  | @flat fields setters children entries hfields hperm =>
    have hchildren := loadFields_of_forall₂ (forall₂_putAll (forall₂_of_writesFields hfields)) path
    -- an object is made merged as by a first call
    have hload := load_objectEntries hchildren (.flatten :: setters)
    exact load_of_perm hload hperm (nodup_keys_objectEntries ..)

/-- The documents of fields load to what their recipes build. -/
theorem forall₂_of_writesFields {fields : List (String × Recipe)} {children : List (String × Json)}
    (h : WritesFields fields children) : List.Forall₂ LoadsTo children (buildFields fields) := by
  cases h with
  | nil => exact .nil
  | cons h hfields =>
    exact .cons ⟨rfl, load_of_writes h⟩ (forall₂_of_writesFields hfields)

end

/-- Built and written schemas are the same: the document of a recipe loads to what the recipe
builds, and so does every other document that writes its choices, with the keys of each schema in
any order and each plain text as its selector alone or in an object. -/
theorem ofJson_document (recipe : Recipe) :
    ofJson recipe.document = .ok recipe.build ∧
      ∀ j, recipe.Writes j → ofJson j = .ok recipe.build :=
  ⟨load_of_writes (writes_document recipe) "$", fun _ h => load_of_writes h "$"⟩

/-- An object at each of several places, with a bare text and an integer whose trimming is set
twice. -/
theorem ofJson_document_articles :
    ofJson (.object [
      ("scope", .array [.string "article"]),
      ("selector", .object [
        ("title", .string "h1"),
        ("price", .object [("number", .bool true), ("selector", .string ".price"),
          ("int", .bool true), ("roundMode", .string "floor"), ("trim", .bool false)])])]) =
    .ok ((Schema.ofFields [
        ("title", .text (.one "h1")),
        ("price", ((Schema.integer (.one ".price") .floor).withTrim true).withTrim false)]).scopeAll
      "article") := by
  have htitle : Writes (.value .text (.one "h1") []) (.string "h1") := .bare rfl
  have hprice : Writes (.value (.integer .floor) (.one ".price") [.trim true, .trim false])
      (.object [("number", .bool true), ("selector", .string ".price"), ("int", .bool true),
        ("roundMode", .string "floor"), ("trim", .bool false)]) :=
    .value (.swap ..)
  exact (ofJson_document (.object [("title", _), ("price", _)] [.scopeAll "article"])).2 _
    (.object (.cons htitle (.cons hprice .nil)) (.swap ..))

end Recipe
end Gleaner
