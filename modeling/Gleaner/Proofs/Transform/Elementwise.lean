import Gleaner.Proofs.Value.Encoding
import Gleaner.Transform.Builtin

/-!
# Transforms that act on each leaf

Eight of the built-in transforms go through arrays and objects to their leaves. Their arguments
alone decide whether they fail. When they do not, the result for an array is the array of the
results for its items, and the result for an object has the same keys with the results for their
values. There is one exception: `str` leaves a null that it is given, but turns one inside of an
array or an object into a text.

## Main definitions

* `Builtin.Mapped`: the transforms that act on each leaf.
* `Builtin.Elementwise`: functions that act element by element.

## Main results

* `Builtin.exists_elementwise`: going to the leaves with a function that succeeds acts element by
  element.
* `Builtin.mapped_acts_on_elements`: how each of the transforms acts on arrays and objects.
-/

namespace Gleaner.Builtin

/-! ### Going to the leaves -/

section Leaves

variable {f : Value → Except TransformError Value} {g : Value → Value}

/-- Items that all have results are mapped to these. -/
theorem mapItems_of_forall {items : List Value} (h : ∀ v ∈ items, mapLeaves f v = .ok (g v)) :
    mapItems f items = .ok (items.map g) := by
  induction items with
  | nil => rfl
  | cons v rest ih =>
    rw [List.forall_mem_cons] at h
    rw [mapItems, h.1, ih h.2, List.map_cons]

/-- Entries whose values all have results are mapped to these, under the same keys. -/
theorem mapFields_of_forall {fields : List (String × Value)} {g : String × Value → Value}
    (h : ∀ entry ∈ fields, mapLeaves f entry.2 = .ok (g entry)) :
    mapFields f fields = .ok (fields.map fun entry => (entry.1, g entry)) := by
  induction fields with
  | nil => rfl
  | cons entry rest ih =>
    rw [List.forall_mem_cons] at h
    rw [mapFields, h.1, ih h.2, List.map_cons]

/-- A function that succeeds on every leaf can be brought to the leaves of every value. -/
theorem exists_mapLeaves_eq_ok (hf : ∀ leaf, ∃ w, f leaf = .ok w) (v : Value) :
    ∃ w, mapLeaves f v = .ok w := by
  induction v using Value.induction with
  | null => exact hf .null
  | bool b => exact hf (.bool b)
  | number x => exact hf (.number x)
  | string s => exact hf (.string s)
  | date t => exact hf (.date t)
  | array items ih =>
    -- the results of the items are chosen all at once
    choose! g hg using ih
    refine ⟨.array (items.map g), ?_⟩
    rw [mapLeaves, mapItems_of_forall hg]
  | object fields ih =>
    choose! g hg using ih
    refine ⟨.object (fields.map fun entry => (entry.1, g entry)), ?_⟩
    rw [mapLeaves, mapFields_of_forall hg]

end Leaves

/-- A function of values acts element by element: on the items of an array, and on the values of
an object under their keys. -/
structure Elementwise (g : Value → Value) : Prop where
  /-- An array becomes the array of the results for its items. -/
  array : ∀ items, g (.array items) = .array (items.map g)
  /-- An object becomes the object with the results for its values. -/
  object : ∀ fields, g (.object fields) = .object (fields.map fun entry => (entry.1, g entry.2))

/-- Going to the leaves with a function that succeeds there acts element by element. -/
theorem exists_elementwise {f : Value → Except TransformError Value}
    (hf : ∀ leaf, ∃ w, f leaf = .ok w) :
    ∃ g, (∀ v, mapLeaves f v = .ok (g v)) ∧ Elementwise g := by
  choose g hg using exists_mapLeaves_eq_ok hf
  refine ⟨g, hg, ⟨fun items => ?_, fun fields => ?_⟩⟩
  · have harray := hg (.array items)
    rw [mapLeaves, mapItems_of_forall fun v _ => hg v] at harray
    exact (Except.ok.inj harray).symm
  · have hobject := hg (.object fields)
    rw [mapLeaves, mapFields_of_forall fun entry _ => hg entry.2] at hobject
    exact (Except.ok.inj hobject).symm

/-- A function on texts succeeds on every leaf. -/
theorem exists_onText_eq_ok (f : List Char → Value) (leaf : Value) :
    ∃ w, onText f leaf = .ok w := by
  unfold onText
  split
  · exact ⟨_, rfl⟩
  · exact ⟨_, rfl⟩

/-! ### The transforms -/

/-- The transforms that act on each leaf. -/
inductive Mapped where
  | replace
  | matchFirst
  | matchAll
  | split
  | text
  | lowercase
  | uppercase
  | title
  deriving DecidableEq

namespace Mapped

/-- The name of the transform. -/
def name : Mapped → String
  | replace => "replace"
  | matchFirst => "match"
  | matchAll => "matchAll"
  | split => "split"
  | text => "str"
  | lowercase => "lowercase"
  | uppercase => "uppercase"
  | title => "title"

/-- The transform. -/
def run : Mapped → TransformFn
  | replace => Builtin.replace
  | matchFirst => Builtin.matchFirst
  | matchAll => Builtin.matchAll
  | split => Builtin.split
  | text => textOfLeaves
  | lowercase => mapTexts Unicode.lower
  | uppercase => mapTexts Unicode.upper
  | title => mapTexts titleCase

/-- The built-in transforms are registered under their names. -/
theorem get?_builtins (t : Mapped) : Registry.builtins.get? t.name = some t.run := by
  cases t <;> rfl

end Mapped

/-- What a computation comes to for all values alike: an error, or a function of values with a
property. -/
def FailsOrGives (run : Value → Except TransformError Value) (P : (Value → Value) → Prop) : Prop :=
  (∃ e, ∀ v, run v = .error e) ∨ ∃ g, (∀ v, run v = .ok (g v)) ∧ P g

/-- A first step that does not see the value fails for all values or for none. -/
theorem FailsOrGives.bind {α : Type} {x : Except TransformError α}
    {next : α → Value → Except TransformError Value} {P : (Value → Value) → Prop}
    (h : ∀ a, FailsOrGives (next a) P) : FailsOrGives (fun v => x >>= fun a => next a v) P := by
  cases x with
  | error e => exact .inl ⟨e, fun v => rfl⟩
  | ok a => exact h a

/-- All but one of the transforms fail whatever the value, or act element by element. -/
theorem Mapped.failsOrGives_elementwise {t : Mapped} (ht : t ≠ .text) (args : List Value) :
    FailsOrGives (fun v => t.run v args) Elementwise := by
  cases t with
  | replace =>
    refine .bind fun pattern => .bind fun r => .inr (exists_elementwise fun leaf => ?_)
    split
    · exact ⟨_, rfl⟩
    · exact ⟨_, rfl⟩
  | matchFirst =>
    exact .bind fun pattern => .bind fun r => .inr (exists_elementwise (exists_onText_eq_ok _))
  | matchAll =>
    exact .bind fun pattern => .bind fun r => .inr (exists_elementwise (exists_onText_eq_ok _))
  | split => exact .bind fun r => .inr (exists_elementwise (exists_onText_eq_ok _))
  | text => exact absurd rfl ht
  | lowercase => exact .inr (exists_elementwise (exists_onText_eq_ok _))
  | uppercase => exact .inr (exists_elementwise (exists_onText_eq_ok _))
  | title => exact .inr (exists_elementwise (exists_onText_eq_ok _))

namespace Mapped

/-- What a transform makes of a value inside of an array or an object, given what it makes of the
value by itself: `str` makes a text of a null there. -/
def inside (t : Mapped) (g : Value → Value) (v : Value) : Value :=
  if t = .text ∧ v.isNull then .string "null" else g v

/-- Apart from `str`, a value becomes the same inside of others and by itself. -/
theorem inside_of_ne {t : Mapped} (ht : t ≠ .text) (g : Value → Value) : t.inside g = g := by
  funext v
  rw [inside, if_neg fun h => ht h.1]

/-- A value becomes the same inside of others and by itself, unless it is a null and `str` leaves
nulls. -/
theorem inside_eq_iff {t : Mapped} {g : Value → Value} (hnull : t = .text → g .null = .null)
    (v : Value) : t.inside g v = g v ↔ (t = .text → v.isNull = false) := by
  rw [inside]
  split
  next h =>
    obtain ⟨ht, hv⟩ := h
    obtain rfl := Value.isNull_iff.1 hv
    simp [ht, hnull ht, Value.isNull]
  next h => simpa using h

/-- How a transform acts on arrays and objects. -/
structure Acts (t : Mapped) (g : Value → Value) : Prop where
  /-- An array becomes the array of what its items become. -/
  array : ∀ items, g (.array items) = .array (items.map (t.inside g))
  /-- An object becomes the object of what its values become. -/
  object : ∀ fields,
    g (.object fields) = .object (fields.map fun entry => (entry.1, t.inside g entry.2))
  /-- A null is left by `str`. -/
  null : t = .text → g .null = .null

namespace Acts

variable {t : Mapped} {g : Value → Value}

/-- The result for an array is that of its items, unless `str` meets a null there. -/
theorem array_iff (h : t.Acts g) (items : List Value) :
    g (.array items) = .array (items.map g) ↔ (t = .text → ∀ v ∈ items, v.isNull = false) := by
  rw [h.array, Value.array.injEq, List.map_inj_left]
  simp only [inside_eq_iff h.null]
  exact ⟨fun hitems ht v hv => hitems v hv ht, fun hitems v hv ht => hitems ht v hv⟩

/-- The result for an object is that of its values, unless `str` meets a null there. -/
theorem object_iff (h : t.Acts g) (fields : List (String × Value)) :
    g (.object fields) = .object (fields.map fun entry => (entry.1, g entry.2)) ↔
      (t = .text → ∀ entry ∈ fields, entry.2.isNull = false) := by
  rw [h.object, Value.object.injEq, List.map_inj_left]
  simp only [Prod.mk.injEq, true_and, inside_eq_iff h.null]
  exact ⟨fun hfields ht entry hentry => hfields entry hentry ht,
    fun hfields entry hentry ht => hfields ht entry hentry⟩

end Acts

/-- A transform fails whatever the value, or acts on what arrays and objects hold. -/
theorem failsOrGives_acts (t : Mapped) (args : List Value) :
    FailsOrGives (fun v => t.run v args) t.Acts := by
  by_cases ht : t = .text
  · subst ht
    -- only a null at the top does not go to the leaves
    obtain ⟨h, hh, hmaps⟩ := exists_elementwise
      (f := fun leaf => .ok (.string leaf.display)) fun leaf => ⟨_, rfl⟩
    have hnull : h .null = .string "null" := (Except.ok.inj (hh .null)).symm
    have hinside : inside .text (fun v => if v.isNull then .null else h v) = h := by
      funext v
      cases v <;> first | exact hnull.symm | rfl
    refine .inr ⟨fun v => if v.isNull then .null else h v, fun v => ?_, ⟨?_, ?_, fun _ => rfl⟩⟩
    · show textOfLeaves v args = _
      rw [textOfLeaves, hh]
      exact (apply_ite Except.ok _ _ _).symm
    · intro items
      rw [hinside]
      exact hmaps.array items
    · intro fields
      rw [hinside]
      exact hmaps.object fields
  · rcases failsOrGives_elementwise ht args with hfails | ⟨g, hg, hmaps⟩
    · exact .inl hfails
    · refine .inr ⟨g, hg, ⟨?_, ?_, fun htext => absurd htext ht⟩⟩
      · rw [inside_of_ne ht]
        exact hmaps.array
      · rw [inside_of_ne ht]
        exact hmaps.object

end Mapped

/-- **Transforms that act on each leaf.** Each of them is registered under its name. With given
arguments it fails whatever the value, or it has results for all values; then the result for an
array is the array of the results for its items, and the result for an object has the same keys
with the results for their values, except where `str` meets a null among them: that becomes the
text `null`, though a null by itself is left. -/
theorem mapped_acts_on_elements (t : Mapped) (args : List Value) :
    Registry.builtins.get? t.name = some t.run ∧
      FailsOrGives (fun v => t.run v args) fun g =>
        (∀ items, g (.array items) = .array (items.map g) ↔
          (t = .text → ∀ v ∈ items, v.isNull = false)) ∧
        (∀ fields, g (.object fields) = .object (fields.map fun entry => (entry.1, g entry.2)) ↔
          (t = .text → ∀ entry ∈ fields, entry.2.isNull = false)) ∧
        (∀ items, g (.array items) = .array (items.map (t.inside g))) ∧
        ∀ fields,
          g (.object fields) = .object (fields.map fun entry => (entry.1, t.inside g entry.2)) := by
  refine ⟨t.get?_builtins, ?_⟩
  rcases t.failsOrGives_acts args with hfails | ⟨g, hg, hacts⟩
  · exact .inl hfails
  · exact .inr ⟨g, hg, hacts.array_iff, hacts.object_iff, hacts.array, hacts.object⟩

/-- Texts at any depth are split, other leaves are left. -/
example : Mapped.split.run
    (.array [.object [("a", .string "x-y"), ("b", .null)], .array [.bool true]]) [.string "-"] =
    .ok (.array [.object [("a", .array [.string "x", .string "y"]), ("b", .null)],
      .array [.bool true]]) := by
  cbv

/-- A null by itself and one inside of an array do not become the same, so `str` does not act
element by element. -/
theorem text_of_null_inside :
    Mapped.text.run .null [] = .ok .null ∧
      Mapped.text.run (.array [.null]) [] = .ok (.array [.string "null"]) ∧
      ¬∃ g, (∀ v, Mapped.text.run v [] = .ok (g v)) ∧ Elementwise g := by
  have hnull : Mapped.text.run .null [] = .ok .null := rfl
  have harray : Mapped.text.run (.array [.null]) [] = .ok (.array [.string "null"]) := rfl
  refine ⟨hnull, harray, ?_⟩
  rintro ⟨g, hg, hmaps⟩
  have hself : g .null = .null := Except.ok.inj ((hg .null).symm.trans hnull)
  have hinside : g (.array [.null]) = .array [.string "null"] :=
    Except.ok.inj ((hg _).symm.trans harray)
  rw [hmaps.array, List.map_cons, hself] at hinside
  cases hinside

end Gleaner.Builtin
