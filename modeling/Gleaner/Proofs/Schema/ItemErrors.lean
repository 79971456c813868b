import Gleaner.Proofs.Number.Digits
import Gleaner.Proofs.Schema.KeyOrder
import Mathlib

/-!
# Items that are no texts

A schema document has lists of texts: the selectors, the queries of a scope, and the transforms of
three kinds. A document is rejected at the first item of such a list that is no text, when all that
is read before it is accepted. The error names the place of the item: the path of its schema, what
the list adds to it, and the index.

The queries of a scope are reported as if they were selectors, so that these two lists of a schema
share their places; no two others do.

## Main definitions

* `TextList`: the lists of a schema; `TextList.itemPath` is the place of an item of one.
* `TextList.reportedAs`: the list whose places the errors of a list have.
* `Json.SchemaAt`: the schemas within a schema document, by their paths.
* `Schema.ComesTo`: reading a document comes to a list, having accepted all before it.

## Main results

* `Schema.textsAt_eq_error_iff`: a list of texts is rejected at the first item that is none.
* `Schema.load_eq_itemError_iff`: a document is rejected for an item of the list that reading it
  comes to.
* `TextList.itemPath_inj`: the places of two items are the same only for two lists that add the
  same to the path of a schema.
* `Schema.ofJson_rejects_item_iff`: all of it for whole documents.
-/

namespace Gleaner

open Json Schema

/-- The lists of texts that a schema may have. -/
inductive TextList where
  /-- The schema itself, where it is a list of selectors. -/
  | whole
  /-- The selectors. -/
  | selector
  /-- The queries of the scope. -/
  | scope
  /-- The transforms of values. -/
  | transforms
  /-- The transforms of lists. -/
  | arrTransforms
  /-- The transforms of objects. -/
  | objTransforms
  deriving DecidableEq

namespace TextList

/-- The key of a list in its schema, if it has one. -/
def key? : TextList → Option String
  | whole => none
  | selector => some "selector"
  | scope => some "scope"
  | transforms => some "transforms"
  | arrTransforms => some "arrTransforms"
  | objTransforms => some "objTransforms"

/-- What a list adds to the path of its schema. The selectors stand for the schema itself. -/
def step : TextList → String
  | whole => ""
  | selector => ""
  | scope => ".scope"
  | transforms => ".transforms"
  | arrTransforms => ".arrTransforms"
  | objTransforms => ".objTransforms"

/-- The place of an item of a list in the schema at a path. -/
def itemPath (list : TextList) (path : String) (i : Nat) : String :=
  path ++ list.step ++ "[" ++ .ofList (digits i) ++ "]"

/-- The list whose places the errors of a list have. -/
def reportedAs : TextList → TextList
  | scope => selector
  | list => list

/-- The places of two items are the same when their lists add the same to the path of the schema
and their indices are the same. -/
theorem itemPath_inj {list list' : TextList} {path : String} {i i' : Nat} :
    list.itemPath path i = list'.itemPath path i' ↔ list.step = list'.step ∧ i = i' := by
  constructor
  · intro h
    have hchars := congrArg String.toList h
    simp only [itemPath, String.toList_append, String.toList_ofList, List.append_assoc,
      List.append_cancel_left_eq] at hchars
    -- what is added is nothing or begins with a dot, so it ends where the bracket is
    have hindex : digits i = digits i' → i = i' := fun hdigits => by
      have hread := readNat?_digits i
      rw [hdigits, readNat?_digits] at hread
      exact (Option.some.inj hread).symm
    cases list <;> cases list' <;> simp [step] at hchars ⊢ <;> exact hindex hchars
  · rintro ⟨hstep, rfl⟩
    rw [itemPath, itemPath, hstep]

/-- Only the errors of a scope do not have the places of their list. -/
theorem step_reportedAs_eq_iff {list : TextList} :
    list.reportedAs.step = list.step ↔ list ≠ scope := by
  cases list <;> decide

/-- Of the lists that a schema may have together, the selectors and the scope add the same. -/
theorem step_reportedAs_inj {list list' : TextList} (h : list ≠ whole) (h' : list' ≠ whole)
    (hne : list ≠ list') : list.reportedAs.step = list'.reportedAs.step ↔
      list = scope ∧ list' = selector ∨ list = selector ∧ list' = scope := by
  cases list <;> cases list' <;> first | contradiction | decide

end TextList

/-! ### Errors -/

/-- What an error for an item begins with. -/
def itemWording : List Char := "expected a string, found ".toList

/-- The error for an item that is no text. -/
def itemError (place : String) (item : Json) : SchemaError :=
  ⟨place, "expected a string, found " ++ item.compact⟩

/-- An error says that an item is no text. -/
def SchemaError.IsOfItem (e : SchemaError) : Prop := itemWording <+: e.reason.toList

theorem isOfItem_itemError (place : String) (item : Json) : (itemError place item).IsOfItem := by
  rw [SchemaError.IsOfItem, itemError, String.toList_append]
  exact List.prefix_append _ _

/-- Sequenced readings fail when the first one does, or the second after it. -/
theorem bind_eq_error_iff {ε α β : Type} {x : Except ε α} {f : α → Except ε β} {e : ε} :
    x >>= f = .error e ↔ x = .error e ∨ ∃ v, x = .ok v ∧ f v = .error e := by
  cases x with
  | error e' =>
    show Except.error e' = _ ↔ _
    simp
  | ok v =>
    show f v = _ ↔ _
    simp

/-- What is made of a result has no errors of its own. -/
theorem map_eq_error_iff {ε α β : Type} {x : Except ε α} {f : α → β} {e : ε} :
    x.map f = .error e ↔ x = .error e := by
  cases x <;> simp [Except.map]

/-- What is expected elsewhere is not worded as for an item. -/
theorem not_isOfItem_of_unexpected {α : Type} {path expected : String} {found : Json}
    {e : SchemaError} (h : (unexpected path expected found : Except SchemaError α) = .error e)
    (hwording : ¬ itemWording <+: ("expected " ++ expected ++ ", found ").toList)
    (hlength : itemWording.length ≤ ("expected " ++ expected ++ ", found ").toList.length) :
    ¬ e.IsOfItem := by
  obtain rfl := Except.error.inj h
  intro hitem
  rw [SchemaError.IsOfItem, String.toList_append] at hitem
  -- the wording is no longer than what is said in front of the document
  exact hwording (List.prefix_of_prefix_length_le hitem (List.prefix_append _ _) hlength)

/-! ### Options of types -/

namespace Json

variable {α : Type} {j : Json} {r : String}

/-- A reason that begins with another letter is not worded as for an item. -/
theorem not_itemWording_of_head {c : Char} (h : r.toList.head? = some c) (hc : c ≠ 'e') :
    ¬ itemWording <+: r.toList := by
  intro hwording
  have hhead : itemWording.head? = some c := by
    obtain ⟨rest, hrest⟩ := hwording
    rw [← h, ← hrest]
    rfl
  exact hc (Option.some.inj (hhead.symm.trans (by decide)))

theorem not_itemWording_of_wrongType {wanted : String}
    (h : (j.wrongType wanted : Except String α) = .error r) : ¬ itemWording <+: r.toList := by
  obtain rfl := Except.error.inj h
  simp only [String.append_assoc]
  exact not_itemWording_of_head (c := 'i') (by rw [String.toList_append]; rfl) (by decide)

theorem not_itemWording_of_asBool (h : j.asBool = .error r) : ¬ itemWording <+: r.toList := by
  cases j with
  | bool b => cases h
  | _ => exact not_itemWording_of_wrongType h

theorem not_itemWording_of_asDouble (h : j.asDouble = .error r) : ¬ itemWording <+: r.toList := by
  cases j with
  | number n => cases h
  | _ => exact not_itemWording_of_wrongType h

theorem not_itemWording_of_asText (h : j.asText = .error r) : ¬ itemWording <+: r.toList := by
  cases j with
  | string s => cases h
  | _ => exact not_itemWording_of_wrongType h

/-- What may be null fails as what it is otherwise. -/
theorem eq_error_of_orNull {read : Json → Except String α} (h : orNull read j = .error r) :
    read j = .error r := by
  cases j with
  | null => cases h
  | _ => exact map_eq_error_iff.1 h

/-- The reason why a document is none of several variants is a fixed one. -/
theorem not_itemWording_of_variants (kind : String)
    (h : r = "data did not match any variant of untagged enum " ++ kind) :
    ¬ itemWording <+: r.toList := by
  subst h
  exact not_itemWording_of_head (c := 'd') (by rw [String.toList_append]; rfl) (by decide)

theorem not_itemWording_of_asTexts (h : j.asTexts = .error r) : ¬ itemWording <+: r.toList := by
  have hvariants {r : String}
      (h : (.error "data did not match any variant of untagged enum OneOrMany" :
        Except String (List String)) = .error r) : ¬ itemWording <+: r.toList :=
    not_itemWording_of_variants "OneOrMany" (Except.error.inj h).symm
  unfold asTexts at h
  split at h
  · cases h
  · cases h
  · split at h
    · cases h
    · exact hvariants h
  · exact hvariants h

theorem not_itemWording_of_asWord {words : List String} (h : j.asWord words = .error r) :
    ¬ itemWording <+: r.toList := by
  have hname {s : String} {r : String} (h : asWord.ofName words s = .error r) :
      ¬ itemWording <+: r.toList := by
    unfold asWord.ofName at h
    split at h
    · cases h
    · obtain rfl := Except.error.inj h
      simp only [String.append_assoc]
      exact not_itemWording_of_head (c := 'u') (by rw [String.toList_append]; rfl) (by decide)
  unfold asWord at h
  split at h
  · exact hname h
  next key value =>
    split at h
    · cases h
    · exact not_itemWording_of_wrongType h
    next e he =>
      obtain rfl := Except.error.inj h
      exact hname he
  · obtain rfl := Except.error.inj h
    exact not_itemWording_of_head (c := 'i') rfl (by decide)
  · exact not_itemWording_of_wrongType h

/-- A record is not rejected in the wording for items, if none of its entries is. -/
theorem not_itemWording_of_foldFields {put : α → String → Json → Except String α}
    (hput : ∀ {o key v r}, put o key v = .error r → ¬ itemWording <+: r.toList) {o : α}
    {fields : List (String × Json)} (h : foldFields put o fields = .error r) :
    ¬ itemWording <+: r.toList := by
  induction fields generalizing o with
  | nil => cases h
  | cons entry rest ih =>
    rw [IsKeywise.foldFields_cons, bind_eq_error_iff] at h
    rcases h with h | ⟨o', -, h⟩
    · exact hput h
    · exact ih h

end Json

/-! ### Passes over a schema -/

namespace Schema

variable {path : String} {fields : List (String × Json)} {e : SchemaError}

/-- The options of a type are not rejected in the wording for items. -/
theorem not_isOfItem_of_typedAt {α : Type} {name : String} {keys : List String} {initial : α}
    {put : α → String → Json → Except String α}
    (hput : ∀ {o key v r}, put o key v = .error r → ¬ itemWording <+: r.toList)
    (h : typedAt (asRecord name keys initial put) fields path = .error e) : ¬ e.IsOfItem := by
  unfold typedAt at h
  split at h
  · cases h
  next reason hreason =>
    obtain rfl := Except.error.inj h
    exact not_itemWording_of_foldFields hput hreason

/-- A flag is no list. -/
theorem not_isOfItem_of_flagAt {key : String} (h : flagAt fields key path = .error e) :
    ¬ e.IsOfItem := by
  unfold flagAt at h
  split at h
  · cases h
  · cases h
  · cases h
  · exact not_isOfItem_of_unexpected h (by decide) (by decide)

/-- The type of a value has no list of texts that is read item by item. -/
theorem not_isOfItem_of_kindAt (h : kindAt fields path = .error e) : ¬ e.IsOfItem := by
  have htext {r o key v} (h : TextOptions.put o key v = .error r) : ¬ itemWording <+: r.toList := by
    unfold TextOptions.put at h
    split_ifs at h <;>
      exact not_itemWording_of_asText (eq_error_of_orNull (map_eq_error_iff.1 h))
  have hnumber {r o key v} (h : NumberOptions.put o key v = .error r) :
      ¬ itemWording <+: r.toList := by
    unfold NumberOptions.put at h
    split_ifs at h
    · exact not_itemWording_of_asDouble (eq_error_of_orNull (map_eq_error_iff.1 h))
    · exact not_itemWording_of_asBool (map_eq_error_iff.1 h)
    · exact not_itemWording_of_asWord (map_eq_error_iff.1 h)
    · exact not_itemWording_of_asText (eq_error_of_orNull (map_eq_error_iff.1 h))
  have hboolean {r o key v} (h : BooleanOptions.put o key v = .error r) :
      ¬ itemWording <+: r.toList := by
    unfold BooleanOptions.put at h
    split_ifs at h
    · exact not_itemWording_of_asBool (eq_error_of_orNull (map_eq_error_iff.1 h))
    · exact not_itemWording_of_asTexts (map_eq_error_iff.1 h)
    · exact not_itemWording_of_asTexts (map_eq_error_iff.1 h)
  have hdate {r o key v} (h : DateOptions.put o key v = .error r) : ¬ itemWording <+: r.toList := by
    unfold DateOptions.put at h
    split_ifs at h
    · have hdefault := eq_error_of_orNull (map_eq_error_iff.1 h)
      unfold DateOptions.readDefault at hdefault
      split at hdefault
      · cases hdefault
      · cases hdefault
      · exact not_itemWording_of_variants "DateInput" (Except.error.inj hdefault).symm
    · exact not_itemWording_of_asTexts (map_eq_error_iff.1 h)
    · exact not_itemWording_of_asText (eq_error_of_orNull (map_eq_error_iff.1 h))
  -- the flags are read one after another, and the first that is set decides
  unfold kindAt at h
  rcases bind_eq_error_iff.1 h with h | ⟨number, -, h⟩
  · exact not_isOfItem_of_flagAt h
  split at h
  · rcases bind_eq_error_iff.1 h with h | ⟨o, -, h⟩
    · exact not_isOfItem_of_typedAt hnumber h
    · cases h
  rcases bind_eq_error_iff.1 h with h | ⟨boolean, -, h⟩
  · exact not_isOfItem_of_flagAt h
  split at h
  · rcases bind_eq_error_iff.1 h with h | ⟨o, -, h⟩
    · exact not_isOfItem_of_typedAt hboolean h
    · cases h
  rcases bind_eq_error_iff.1 h with h | ⟨date, -, h⟩
  · exact not_isOfItem_of_flagAt h
  split at h
  · rcases bind_eq_error_iff.1 h with h | ⟨o, -, h⟩
    · exact not_isOfItem_of_typedAt hdate h
    · cases h
  rcases bind_eq_error_iff.1 h with h | ⟨text, -, h⟩
  · exact not_isOfItem_of_flagAt h
  split at h
  · rcases bind_eq_error_iff.1 h with h | ⟨o, -, h⟩
    · exact not_isOfItem_of_typedAt htext h
    · cases h
  · cases h
  · rcases bind_eq_error_iff.1 h with h | ⟨o, -, h⟩
    · exact not_isOfItem_of_typedAt htext h
    · cases h

/-- A list of texts is rejected at the first item that is none. -/
theorem textsAt_eq_error_iff {i : Nat} {items : List Json} :
    textsAt path i items = .error e ↔
      ∃ (before : List String) (item : Json) (after : List Json),
        items = before.map .string ++ item :: after ∧ (∀ s, item ≠ .string s) ∧
        e = itemError (path ++ "[" ++ .ofList (digits (i + before.length)) ++ "]") item := by
  induction items generalizing i with
  | nil => simp [textsAt]
  | cons item rest ih =>
    by_cases htext : ∃ s, item = .string s
    · obtain ⟨s, rfl⟩ := htext
      rw [textsAt, map_eq_error_iff, ih]
      constructor
      · rintro ⟨before, item, after, rfl, hitem, rfl⟩
        exact ⟨s :: before, item, after, rfl, hitem, by simp [Nat.add_assoc, Nat.add_comm 1]⟩
      · rintro ⟨before, item, after, hsplit, hitem, rfl⟩
        -- the first item is a text, so it is one of those before the item
        cases before with
        | nil => exact absurd (List.cons.inj hsplit).1.symm (hitem s)
        | cons t before =>
          exact ⟨before, item, after, (List.cons.inj hsplit).2, hitem,
            by simp [Nat.add_assoc, Nat.add_comm 1]⟩
    · push Not at htext
      have hfails : textsAt path i (item :: rest) =
          .error (itemError (path ++ "[" ++ .ofList (digits i) ++ "]") item) := by
        cases item <;> first | rfl | exact absurd rfl (htext _)
      rw [hfails]
      constructor
      · intro h
        obtain rfl := Except.error.inj h
        exact ⟨[], item, rest, rfl, htext, rfl⟩
      · rintro ⟨before, item', after, hsplit, hitem, rfl⟩
        cases before with
        | nil =>
          obtain ⟨rfl, rfl⟩ := List.cons.inj hsplit
          rfl
        | cons t before => exact absurd (List.cons.inj hsplit).1 (htext t)

/-- What is rejected for an item of a list of texts is worded so. -/
theorem isOfItem_of_textsAt {i : Nat} {items : List Json} (h : textsAt path i items = .error e) :
    e.IsOfItem := by
  obtain ⟨before, item, after, -, -, rfl⟩ := textsAt_eq_error_iff.1 h
  exact isOfItem_itemError _ _

/-- Transforms are rejected for an item when they are a list with one. -/
theorem transformsAt_eq_itemError_iff {key : String} :
    transformsAt fields key path = .error e ∧ e.IsOfItem ↔
      ∃ items, fields.lookup key = some (.array items) ∧
        textsAt (path ++ "." ++ key) 0 items = .error e := by
  constructor
  · rintro ⟨h, hitem⟩
    unfold transformsAt at h
    split at h
    · cases h
    · cases h
    · cases h
    next items hlookup => exact ⟨items, hlookup, map_eq_error_iff.1 h⟩
    · exact absurd hitem (not_isOfItem_of_unexpected h (by decide) (by decide))
  · rintro ⟨items, hlookup, h⟩
    refine ⟨?_, isOfItem_of_textsAt h⟩
    rw [transformsAt, hlookup]
    exact map_eq_error_iff.2 h

/-- A scope is rejected for an item when it is a list with one, at the path of the schema. -/
theorem scopeAt_eq_itemError_iff :
    scopeAt fields path = .error e ∧ e.IsOfItem ↔
      ∃ items, fields.lookup "scope" = some (.array items) ∧ textsAt path 0 items = .error e := by
  constructor
  · rintro ⟨h, hitem⟩
    unfold scopeAt at h
    split at h
    · cases h
    · cases h
    · cases h
    next items hlookup => exact ⟨items, hlookup, map_eq_error_iff.1 h⟩
    · exact absurd hitem (not_isOfItem_of_unexpected h (by decide) (by decide))
  · rintro ⟨items, hlookup, h⟩
    refine ⟨?_, isOfItem_of_textsAt h⟩
    rw [scopeAt, hlookup]
    exact map_eq_error_iff.2 h

/-- The fields of an object are rejected when the first of them that is rejected is. -/
theorem loadFields_eq_error_iff {children : List (String × Json)} :
    loadFields path children = .error e ↔
      ∃ before key child after schemas, children = before ++ (key, child) :: after ∧
        loadFields path before = .ok schemas ∧ load (path ++ "." ++ key) child = .error e := by
  -- by induction on the fields: the first one is rejected, or else one of the rest is
  induction children with
  | nil => simp [loadFields]
  | cons field rest ih =>
    obtain ⟨key, child⟩ := field
    rw [loadFields, bind_eq_error_iff]
    constructor
    · rintro (h | ⟨schema, hschema, h⟩)
      · exact ⟨[], key, child, rest, [], rfl, by rw [loadFields], h⟩
      · rcases bind_eq_error_iff.1 h with h | ⟨others, -, h⟩
        · obtain ⟨before, key', child', after, schemas, rfl, hbefore, h⟩ := ih.1 h
          refine ⟨(key, child) :: before, key', child', after, (key, schema) :: schemas, rfl, ?_, h⟩
          rw [loadFields, hschema, hbefore]
          rfl
        · cases h
    · rintro ⟨before, key', child', after, schemas, hsplit, hbefore, h⟩
      cases before with
      | nil =>
        obtain ⟨hfield, rfl⟩ := List.cons.inj hsplit
        cases hfield
        exact .inl h
      | cons first before =>
        obtain ⟨rfl, rfl⟩ := List.cons.inj hsplit
        rw [loadFields] at hbefore
        cases hschema : load (path ++ "." ++ key) child with
        | error e' =>
          rw [hschema] at hbefore
          cases hbefore
        | ok schema =>
          cases hothers : loadFields path before with
          | error e' =>
            rw [hschema, hothers] at hbefore
            cases hbefore
          | ok others =>
            have hrest := ih.2 ⟨before, key', child', after, others, rfl, hothers, h⟩
            exact .inr ⟨schema, rfl, bind_eq_error_iff.2 (.inl hrest)⟩

/-! ### Documents -/

/-- Reading a schema document at a path comes to a list of texts in the schema at another path:
all that is read before it is accepted. -/
inductive ComesTo : (path : String) → Json → (owner : String) → TextList → List Json → Prop
  /-- The schema is the list. -/
  | whole {path : String} {items : List Json} : ComesTo path (.array items) path .whole items
  /-- The scope comes first. -/
  | scope {path : String} {fields : List (String × Json)} {items : List Json}
      (h : fields.lookup "scope" = some (.array items)) :
      ComesTo path (.object fields) path .scope items
  /-- The transforms of values come after it. -/
  | transforms {path : String} {fields : List (String × Json)} {items : List Json}
      {scope : Option Scope} {trim : Option Bool} (hscope : scopeAt fields path = .ok scope)
      (htrim : flagAt fields "trim" path = .ok trim)
      (h : fields.lookup "transforms" = some (.array items)) :
      ComesTo path (.object fields) path .transforms items
  /-- Then those of lists. -/
  | arrTransforms {path : String} {fields : List (String × Json)} {items : List Json}
      {scope : Option Scope} {trim : Option Bool} {transforms : List Transform}
      (hscope : scopeAt fields path = .ok scope) (htrim : flagAt fields "trim" path = .ok trim)
      (htransforms : transformsAt fields "transforms" path = .ok transforms)
      (h : fields.lookup "arrTransforms" = some (.array items)) :
      ComesTo path (.object fields) path .arrTransforms items
  /-- The selectors come after the options. -/
  | selector {path : String} {fields : List (String × Json)} {items : List Json}
      {options : SchemaOptions} (hoptions : optionsAt fields path = .ok options)
      (h : fields.lookup "selector" = some (.array items)) :
      ComesTo path (.object fields) path .selector items
  /-- So do the fields of an object, one after another. -/
  | field {path owner key : String} {fields before after : List (String × Json)} {child : Json}
      {list : TextList} {items : List Json} {options : SchemaOptions}
      {schemas : List (String × Schema)} (hoptions : optionsAt fields path = .ok options)
      (h : fields.lookup "selector" = some (.object (before ++ (key, child) :: after)))
      (hbefore : loadFields path before = .ok schemas)
      (hchild : ComesTo (path ++ "." ++ key) child owner list items) :
      ComesTo path (.object fields) owner list items
  /-- The transforms of the object come last. -/
  | objTransforms {path : String} {fields children : List (String × Json)} {items : List Json}
      {options : SchemaOptions} {schemas : List (String × Schema)}
      (hoptions : optionsAt fields path = .ok options)
      (hselector : fields.lookup "selector" = some (.object children))
      (hchildren : loadFields path children = .ok schemas)
      (h : fields.lookup "objTransforms" = some (.array items)) :
      ComesTo path (.object fields) path .objTransforms items

/-- Induction over a schema document, with the hypothesis at the fields of the object that it
selects. -/
@[elab_as_elim]
theorem document_induction {motive : Json → Prop}
    (step : ∀ j, (∀ fields children entry, j = .object fields →
      fields.lookup "selector" = some (.object children) → entry ∈ children → motive entry.2) →
      motive j) (j : Json) : motive j := by
  refine step j fun fields children entry hj hselector hentry => ?_
  exact document_induction step entry.2
termination_by sizeOf j
decreasing_by
  subst hj
  -- the field is a part of the object that is selected, and that is one of the document
  obtain ⟨before, after, hsplit, -⟩ := List.lookup_eq_some_iff.1 hselector
  have hfield : ("selector", Json.object children) ∈ fields := by simp [hsplit]
  have houter := List.sizeOf_lt_of_mem hfield
  have hinner := List.sizeOf_lt_of_mem hentry
  obtain ⟨key, child⟩ := entry
  simp only [Prod.mk.sizeOf_spec, Json.object.sizeOf_spec] at houter hinner ⊢
  omega

/-- The options of a schema are rejected for an item of the list that reading them comes to. -/
theorem comesTo_of_optionsAt (h : optionsAt fields path = .error e) (hitem : e.IsOfItem) :
    ∃ list items, ComesTo path (.object fields) path list items ∧
      textsAt (path ++ list.reportedAs.step) 0 items = .error e := by
  unfold optionsAt at h
  rcases bind_eq_error_iff.1 h with h | ⟨scope, hscope, h⟩
  · obtain ⟨items, hlookup, h⟩ := scopeAt_eq_itemError_iff.1 ⟨h, hitem⟩
    exact ⟨.scope, items, .scope hlookup, by simpa [TextList.reportedAs, TextList.step] using h⟩
  rcases bind_eq_error_iff.1 h with h | ⟨trim, htrim, h⟩
  · exact absurd hitem (not_isOfItem_of_flagAt h)
  rcases bind_eq_error_iff.1 h with h | ⟨transforms, htransforms, h⟩
  · obtain ⟨items, hlookup, h⟩ := transformsAt_eq_itemError_iff.1 ⟨h, hitem⟩
    exact ⟨.transforms, items, .transforms hscope htrim hlookup,
      by rwa [String.append_assoc] at h⟩
  rcases bind_eq_error_iff.1 h with h | ⟨arrTransforms, harr, h⟩
  · obtain ⟨items, hlookup, h⟩ := transformsAt_eq_itemError_iff.1 ⟨h, hitem⟩
    exact ⟨.arrTransforms, items, .arrTransforms hscope htrim htransforms hlookup,
      by rwa [String.append_assoc] at h⟩
  rcases bind_eq_error_iff.1 h with h | ⟨flat, hflat, h⟩
  · exact absurd hitem (not_isOfItem_of_flagAt h)
  · cases h

/-- A document is rejected for an item of the list that reading it comes to, and worded so. -/
theorem comesTo_of_load {j : Json} (h : load path j = .error e) (hitem : e.IsOfItem) :
    ∃ owner list items, ComesTo path j owner list items ∧
      textsAt (owner ++ list.reportedAs.step) 0 items = .error e := by
  -- by induction on the document, with one case for each pass that may reject it
  induction j using document_induction generalizing path with
  | step j ih =>
  cases j with
  | string s => cases h
  | null => exact absurd hitem (not_isOfItem_of_unexpected h (by decide) (by decide))
  | bool b => exact absurd hitem (not_isOfItem_of_unexpected h (by decide) (by decide))
  | number n => exact absurd hitem (not_isOfItem_of_unexpected h (by decide) (by decide))
  | array items =>
    rw [load, map_eq_error_iff] at h
    exact ⟨path, .whole, items, .whole, by simpa [TextList.reportedAs, TextList.step] using h⟩
  | object fields =>
    rw [load_object] at h
    rcases bind_eq_error_iff.1 h with h | ⟨options, hoptions, h⟩
    · exact ⟨path, comesTo_of_optionsAt h hitem⟩
    unfold selectedAt at h
    split at h
    · exact absurd hitem (not_isOfItem_of_kindAt (map_eq_error_iff.1 h))
    · exact absurd hitem (not_isOfItem_of_kindAt (map_eq_error_iff.1 h))
    · exact absurd hitem (not_isOfItem_of_kindAt (map_eq_error_iff.1 h))
    next items hselector =>
      rcases bind_eq_error_iff.1 h with h | ⟨selectors, -, h⟩
      · exact ⟨path, .selector, items, .selector hoptions hselector,
          by simpa [TextList.reportedAs, TextList.step] using h⟩
      · exact absurd hitem (not_isOfItem_of_kindAt (map_eq_error_iff.1 h))
    next children hselector =>
      rcases bind_eq_error_iff.1 h with h | ⟨schemas, hschemas, h⟩
      · -- the first field that is rejected has the item
        obtain ⟨before, key, child, after, schemas, rfl, hbefore, hchild⟩ :=
          loadFields_eq_error_iff.1 h
        obtain ⟨owner, list, items, hcomes, htexts⟩ :=
          ih fields _ (key, child) rfl hselector (by simp) hchild
        exact ⟨owner, list, items, .field hoptions hselector hbefore hcomes, htexts⟩
      · rw [objectAt] at h
        rcases bind_eq_error_iff.1 h with h | ⟨objTransforms, -, h⟩
        · obtain ⟨items, hlookup, h⟩ := transformsAt_eq_itemError_iff.1 ⟨h, hitem⟩
          exact ⟨path, .objTransforms, items, .objTransforms hoptions hselector hschemas hlookup,
            by rwa [String.append_assoc] at h⟩
        rcases bind_eq_error_iff.1 h with h | ⟨enabled, -, h⟩
        · exact absurd hitem (not_isOfItem_of_flagAt h)
        · cases h
    · exact absurd hitem (not_isOfItem_of_unexpected h (by decide) (by decide))

/-- An item of the list that reading a document comes to has it rejected. -/
theorem ComesTo.load_eq_error {owner : String} {j : Json} {list : TextList} {items : List Json}
    (hcomes : ComesTo path j owner list items)
    (h : textsAt (owner ++ list.reportedAs.step) 0 items = .error e) :
    load path j = .error e := by
  -- what is read before the list is accepted, so that its error is the first one
  induction hcomes with
  | whole =>
    rw [load, map_eq_error_iff]
    simpa [TextList.reportedAs, TextList.step] using h
  | @scope path fields items hlookup =>
    have hscope : scopeAt fields path = .error e :=
      (scopeAt_eq_itemError_iff.2 ⟨items, hlookup,
        by simpa [TextList.reportedAs, TextList.step] using h⟩).1
    rw [load_object, optionsAt, hscope]
    rfl
  | @transforms path fields items scope trim hscope htrim hlookup =>
    have htransforms : transformsAt fields "transforms" path = .error e :=
      (transformsAt_eq_itemError_iff.2 ⟨items, hlookup, by rwa [String.append_assoc]⟩).1
    rw [load_object, optionsAt, hscope, htrim, htransforms]
    rfl
  | @arrTransforms path fields items scope trim transforms hscope htrim htransforms hlookup =>
    have harr : transformsAt fields "arrTransforms" path = .error e :=
      (transformsAt_eq_itemError_iff.2 ⟨items, hlookup, by rwa [String.append_assoc]⟩).1
    rw [load_object, optionsAt, hscope, htrim, htransforms, harr]
    rfl
  | @selector path fields items options hoptions hlookup =>
    have hitems : textsAt path 0 items = .error e := by
      simpa [TextList.reportedAs, TextList.step] using h
    rw [load_object, hoptions, hlookup]
    show (textsAt path 0 items >>= _) = _
    rw [hitems]
    rfl
  | @field path owner key fields before after child list items options schemas hoptions hlookup
      hbefore _ ih =>
    have hchildren : loadFields path (before ++ (key, child) :: after) = .error e :=
      loadFields_eq_error_iff.2 ⟨before, key, child, after, schemas, rfl, hbefore, ih h⟩
    rw [load_object, hoptions, hlookup]
    show (loadFields path (before ++ (key, child) :: after) >>= _) = _
    rw [hchildren]
    rfl
  | @objTransforms path fields children items options schemas hoptions hselector hchildren
      hlookup =>
    have hobj : transformsAt fields "objTransforms" path = .error e :=
      (transformsAt_eq_itemError_iff.2 ⟨items, hlookup, by rwa [String.append_assoc]⟩).1
    rw [load_object, hoptions, hselector]
    show (loadFields path children >>= _) = _
    rw [hchildren]
    show objectAt schemas fields options path = _
    rw [objectAt, hobj]
    rfl

end Schema

/-- A schema stands in a schema document at a path: it is the document, or stands in a field of the
object that the document selects. -/
inductive Json.SchemaAt : (path : String) → Json → (owner : String) → Json → Prop
  /-- The document itself. -/
  | here {path : String} {schema : Json} : SchemaAt path schema path schema
  /-- In a field. -/
  | field {path owner key : String} {fields children : List (String × Json)} {child schema : Json}
      (hselector : fields.lookup "selector" = some (.object children))
      (hchild : (key, child) ∈ children) (h : SchemaAt (path ++ "." ++ key) child owner schema) :
      SchemaAt path (.object fields) owner schema

/-- A schema has a list of texts with these items. -/
def Json.HasList (schema : Json) (list : TextList) (items : List Json) : Prop :=
  match list.key? with
  | none => schema = .array items
  | some key => schema.get? key = some (.array items)

/-- A schema that is a list has no other list. -/
theorem Json.HasList.eq_whole {schema : Json} {list : TextList} {items items' : List Json}
    (h : schema.HasList .whole items) (h' : schema.HasList list items') : list = .whole := by
  obtain rfl : schema = .array items := h
  cases list with
  | whole => rfl
  | _ => cases h'

namespace Schema

/-- What reading a document comes to is a list of a schema in it, which stands at the path named
with it. -/
theorem ComesTo.exists_schemaAt {path owner : String} {j : Json} {list : TextList}
    {items : List Json} (h : ComesTo path j owner list items) :
    ∃ schema, j.SchemaAt path owner schema ∧ schema.HasList list items := by
  induction h with
  | whole => exact ⟨_, .here, rfl⟩
  | scope h => exact ⟨_, .here, h⟩
  | transforms _ _ h => exact ⟨_, .here, h⟩
  | arrTransforms _ _ _ h => exact ⟨_, .here, h⟩
  | selector _ h => exact ⟨_, .here, h⟩
  | field _ hselector _ _ ih =>
    obtain ⟨schema, hat, hlist⟩ := ih
    exact ⟨schema, .field hselector (by simp) hat, hlist⟩
  | objTransforms _ _ _ h => exact ⟨_, .here, h⟩


/-- **An item that is no text is reported in its place, except in a scope.** A document is rejected
in the words for items exactly for the first item that is no text of a list that reading it comes
to. The error names the path of the schema that has the list, what the list adds to it, and the
index, except that a scope adds what selectors do. So two lists of a schema share a place only
where they are its selectors and its scope. -/
theorem ofJson_rejects_item_iff (j : Json) (e : SchemaError) :
    (ofJson j = .error e ∧ e.IsOfItem ↔
      ∃ owner list, ∃ (before : List String) (item : Json) (after : List Json),
        ComesTo "$" j owner list (before.map .string ++ item :: after) ∧
        (∀ s, item ≠ .string s) ∧
        e = itemError (list.reportedAs.itemPath owner before.length) item) ∧
    (∀ owner list items, ComesTo "$" j owner list items →
      ∃ schema, j.SchemaAt "$" owner schema ∧ schema.HasList list items) ∧
    (∀ (list : TextList) owner i,
      list.reportedAs.itemPath owner i = list.itemPath owner i ↔ list ≠ .scope) ∧
    ∀ (schema : Json) (list list' : TextList) items items' owner i i',
      schema.HasList list items → schema.HasList list' items' → list ≠ list' →
      (list.reportedAs.itemPath owner i = list'.reportedAs.itemPath owner i' ↔
        i = i' ∧ (list = .scope ∧ list' = .selector ∨ list = .selector ∧ list' = .scope)) := by
  refine ⟨⟨?_, ?_⟩, fun owner list items => ComesTo.exists_schemaAt, fun list owner i => ?_, ?_⟩
  · rintro ⟨h, hitem⟩
    obtain ⟨owner, list, items, hcomes, htexts⟩ := comesTo_of_load h hitem
    obtain ⟨before, item, after, rfl, hother, rfl⟩ := textsAt_eq_error_iff.1 htexts
    exact ⟨owner, list, before, item, after, hcomes, hother,
      by rw [Nat.zero_add, TextList.itemPath]⟩
  · rintro ⟨owner, list, before, item, after, hcomes, hother, rfl⟩
    refine ⟨hcomes.load_eq_error ?_, isOfItem_itemError _ _⟩
    exact textsAt_eq_error_iff.2
      ⟨before, item, after, rfl, hother, by rw [Nat.zero_add, TextList.itemPath]⟩
  · rw [TextList.itemPath_inj, TextList.step_reportedAs_eq_iff]
    exact and_iff_left rfl
  · intro schema list list' items items' owner i i' hlist hlist' hne
    rw [TextList.itemPath_inj, and_comm]
    refine and_congr_right fun _ => ?_
    -- a list that is the whole schema has no other one beside it
    have hwhole : list ≠ .whole ∧ list' ≠ .whole := by
      constructor
      · rintro rfl
        exact hne (hlist.eq_whole hlist').symm
      · rintro rfl
        exact hne (hlist'.eq_whole hlist)
    exact TextList.step_reportedAs_inj hwhole.1 hwhole.2 hne

/-- A field with a number among its transforms. -/
def numberedTransforms : Json :=
  .object [("selector", .string "p"), ("transforms", .array [.string "trim", .ofInt 1])]

/-- The number among the transforms of a field is reported there, and the transforms share no place
with the scope. -/
theorem ofJson_rejects_item_iff_nested :
    ofJson (.object [("selector", .object [("a", numberedTransforms)])]) =
        .error ⟨"$.a.transforms[1]", "expected a string, found 1"⟩ ∧
      TextList.transforms.reportedAs.itemPath "$" 0 ≠ TextList.scope.reportedAs.itemPath "$" 0 := by
  let j : Json := .object [("selector", .object [("a", numberedTransforms)])]
  let e : SchemaError := ⟨"$.a.transforms[1]", "expected a string, found 1"⟩
  have hscope : scopeAt [("selector", .string "p"),
      ("transforms", .array [.string "trim", .ofInt 1])] "$.a" = .ok none := rfl
  have htrim : flagAt [("selector", .string "p"),
      ("transforms", .array [.string "trim", .ofInt 1])] "trim" "$.a" = .ok none := rfl
  have hnumbered : ComesTo "$.a" numberedTransforms "$.a" .transforms
      (["trim"].map .string ++ .ofInt 1 :: []) :=
    .transforms hscope htrim rfl
  have hoptions : optionsAt [("selector", .object [("a", numberedTransforms)])] "$" = .ok {} := rfl
  have hselector : List.lookup "selector" [("selector", Json.object [("a", numberedTransforms)])] =
      some (.object ([] ++ ("a", numberedTransforms) :: [])) := rfl
  have hbefore : loadFields "$" [] = .ok [] := by rw [loadFields]
  have hcomes : ComesTo "$" j "$.a" .transforms (["trim"].map .string ++ .ofInt 1 :: []) :=
    .field hoptions hselector hbefore hnumbered
  have hrejects := (ofJson_rejects_item_iff j e).1.2
    ⟨"$.a", .transforms, ["trim"], .ofInt 1, [], hcomes, by simp [Json.ofInt], by cbv⟩
  have hapart := (ofJson_rejects_item_iff j e).2.2.2
    (.object [("transforms", .array []), ("scope", .array [])]) .transforms .scope [] [] "$" 0 0
    rfl rfl (by decide)
  exact ⟨hrejects.1, fun hsame => by simpa using (hapart.1 hsame).2⟩

/-- An item of a scope is reported as one of the selectors is, and not at its own place. -/
theorem ofJson_scope_misplaced :
    TextList.scope.itemPath "$" 0 = "$.scope[0]" ∧
      ofJson (.object [("selector", .string "a"), ("scope", .array [.ofInt 1])]) =
        .error ⟨"$[0]", "expected a string, found 1"⟩ ∧
      ofJson (.object [("selector", .array [.ofInt 1]), ("scope", .string "a")]) =
        .error ⟨"$[0]", "expected a string, found 1"⟩ :=
  ⟨by decide, by cbv, by cbv⟩

end Schema
end Gleaner
