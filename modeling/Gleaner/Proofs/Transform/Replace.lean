import Gleaner.Proofs.Number.Display
import Gleaner.Proofs.Pattern.Literal
import Gleaner.Proofs.Transform.Default
import Gleaner.Proofs.Transform.Elementwise
import Gleaner.Proofs.Value.Equality

/-!
# Replacing leaves that are no texts

`replace` takes its pattern twice: as a pattern for the texts in a value, and as a value for the
other leaves. So a boolean or a number has to be a pattern first, before it can replace anything.
The text of a number has no operator but the point and is never too long, and so every boolean and
every number gets through. A null does not: it counts as a pattern that is missing, although a null
in the value could be equal to it.

## Main definitions

* `Value.isScalar`: nulls, booleans and numbers.
* `Value.HasNoText`: values without a text in them.
* `Builtin.Substituted`: a value beside what it is with one value in the place of the leaves that
  are equal to another.
* `Builtin.replaceLeaf`: what is done to a leaf.

## Main results

* `Value.exists_compileWith?_of_isScalar`: booleans and numbers are patterns.
* `Builtin.substituted_of_elementwise`: what is done to the leaves is done to the value.
* `Builtin.replace_scalar`: what `replace` does with a scalar for its pattern.
-/

namespace Gleaner

/-! ### Scalars as patterns -/

namespace Regex

/-- A digit has no meaning of its own. -/
theorem isOperator_of_isDigit {c : Char} (h : isDigit c) : isOperator c = false := by
  rw [isOperator, Bool.eq_false_iff, Ne, List.contains_iff_mem]
  exact not_mem_of_isDigit h (by decide)

/-- A text without operators, character by character. -/
theorem plain_of_all {cs : List Char} (h : cs.all (fun c => !isOperator c) = true) :
    ∀ c ∈ cs, isOperator c = false ∨ c = '.' :=
  fun c hc => .inl (by simpa using List.all_eq_true.1 h c hc)

end Regex

namespace Value

/-- Whether the value is null, a boolean or a number. -/
def isScalar : Value → Bool
  | .null | .bool _ | .number _ => true
  | _ => false

/-- There is no text in the value. -/
def HasNoText (v : Value) : Prop := ∀ w ∈ v.parts, w.text? = none

instance (v : Value) : Decidable v.HasNoText :=
  List.decidableBAll (fun w : Value => w.text? = none) v.parts

/-- The only operator in the text of a number is the point. -/
theorem plain_of_mem_display (x : Double) :
    ∀ c ∈ x.display, Regex.isOperator c = false ∨ c = '.' := by
  cases x with
  | nan => exact Regex.plain_of_all (by decide)
  | infinite s => cases s <;> exact Regex.plain_of_all (by decide)
  | finite s a =>
    intro c hc
    rcases Double.mem_display rfl hc with hdigit | rfl | rfl
    · exact .inl (Regex.isOperator_of_isDigit hdigit)
    · exact .inr rfl
    · exact .inl (by decide)

/-- The text of a boolean or a number is a pattern. -/
theorem exists_compileWith?_of_isScalar {v : Value} (hv : v.isScalar) (hnull : v ≠ .null) :
    ∃ r, Regex.compileWith? {} v.displayChars = some r := by
  cases v with
  | null => exact absurd rfl hnull
  | bool b =>
    cases b <;>
      exact Regex.exists_compileWith?_dotted (Regex.plain_of_all (by decide)) (by decide)
        (by decide)
  | number x =>
    exact Regex.exists_compileWith?_dotted (plain_of_mem_display x) x.count_display_le
      (Nat.le_trans x.length_display_le (by decide))
  | string | date | array | object => cases hv

end Value

namespace Builtin

/-! ### One value in the place of others -/

/-- A value beside what it is with the replacement in the place of each leaf that is equal to the
target. All other leaves stay as they are, and so do the lengths of arrays and the keys of objects,
at every depth. -/
inductive Substituted (target replacement : Value) : Value → Value → Prop
  | replaced {leaf : Value} (hleaf : leaf.isContainer = false) (h : leaf.equals target) :
      Substituted target replacement leaf replacement
  | kept {leaf : Value} (hleaf : leaf.isContainer = false) (h : leaf.equals target = false) :
      Substituted target replacement leaf leaf
  | array {items results : List Value}
      (h : List.Forall₂ (Substituted target replacement) items results) :
      Substituted target replacement (.array items) (.array results)
  | object {fields results : List (String × Value)}
      (hkeys : results.map (·.1) = fields.map (·.1))
      (h : List.Forall₂ (Substituted target replacement) (fields.map (·.2)) (results.map (·.2))) :
      Substituted target replacement (.object fields) (.object results)

variable {target replacement v : Value}

/-- A leaf that is treated as it should be. -/
theorem substituted_leaf (hleaf : v.isContainer = false) :
    Substituted target replacement v (if v.equals target then replacement else v) := by
  split
  next h => exact .replaced hleaf h
  next h => exact .kept hleaf (Bool.eq_false_iff.2 h)

/-- A function that acts element by element and treats the leaves as it should does so with every
value. -/
theorem substituted_of_elementwise {g : Value → Value} (hg : Elementwise g) (hv : v.HasNoText)
    (hleaf : ∀ leaf : Value, leaf.isContainer = false → leaf.text? = none →
      g leaf = if leaf.equals target then replacement else leaf) :
    Substituted target replacement v (g v) := by
  have hsingle {leaf : Value} (hcontainer : leaf.isContainer = false) (htext : leaf.text? = none) :
      Substituted target replacement leaf (g leaf) := by
    rw [hleaf leaf hcontainer htext]
    exact substituted_leaf hcontainer
  induction v using Value.induction with
  | null | bool | number | date => exact hsingle rfl rfl
  | string s => exact absurd (hv (.string s) List.mem_cons_self) (by simp [Value.text?])
  | array items ih =>
    have hitems := (Value.forall_mem_parts_array.1 hv).2
    rw [hg.array]
    refine .array (List.forall₂_map_right_iff.2 (List.forall₂_same.2 fun item hitem => ?_))
    exact ih item hitem (hitems item hitem)
  | object fields ih =>
    have hvalues := (Value.forall_mem_parts_object.1 hv).2
    rw [hg.object]
    refine .object (by simp) ?_
    rw [List.map_map, List.forall₂_map_left_iff, List.forall₂_map_right_iff, List.forall₂_same]
    exact fun entry hentry => ih entry hentry (hvalues entry hentry)

/-! ### The transform -/

/-- A null for a pattern counts as none. -/
theorem replace_null (v : Value) (more : List Value) :
    replace v (.null :: more) = .error (.because "replace" "missing pattern argument") := rfl

/-- The pattern argument is the text of a value that is not null. -/
theorem requiredPattern_cons (name : String) (hnull : target ≠ .null) (more : List Value) :
    requiredPattern name (target :: more) = .ok target.display := by
  cases target with
  | null => exact absurd rfl hnull
  | bool | number | string | date | array | object => rfl

/-- The flag `g` makes no difference to a pattern. -/
theorem compile_global {pattern : String} {r : Regex} (name : String)
    (h : Regex.compileWith? {} pattern.toList = some r) : compile name pattern "g" = .ok r := by
  have hflags : ({ ignoreCase := "g".toList.contains 'i', multiLine := "g".toList.contains 'm',
                   dotAll := "g".toList.contains 's' } : Regex.Flags) = {} := rfl
  rw [compile, hflags, h]

/-- What is done to a leaf, with a pattern for the texts and a target for all other leaves. -/
def replaceLeaf (r : Regex) (target replacement : Value) : Value → Except TransformError Value
  | .string s => .ok (.string (.ofList (r.replaceAll replacement.displayChars s.toList)))
  | other => .ok (if other.equals target then replacement else other)

/-- The transform goes to the leaves when the text of its argument is a pattern. -/
theorem replace_eq_mapLeaves {r : Regex} (hnull : target ≠ .null)
    (hr : Regex.compileWith? {} target.displayChars = some r) (v : Value) (more : List Value) :
    replace v (target :: more) = mapLeaves (replaceLeaf r target (more.headD (.string ""))) v := by
  have hcompile : compile "replace" target.display "g" = .ok r :=
    compile_global "replace" (by rwa [Value.display, String.toList_ofList])
  have hreplacement : (target :: more).getD 1 (.string "") = more.headD (.string "") := by
    cases more <;> rfl
  rw [replace, requiredPattern_cons "replace" hnull]
  change (compile "replace" target.display "g" >>= _) = _
  rw [hcompile, hreplacement]
  rfl

/-- With a boolean or a number for its pattern the transform succeeds. -/
theorem exists_replace_eq_ok (hv : v.HasNoText) (htarget : target.isScalar)
    (hnull : target ≠ .null) (more : List Value) :
    ∃ w, replace v (target :: more) = .ok w ∧
      Substituted target (more.headD (.string "")) v w := by
  obtain ⟨r, hr⟩ := Value.exists_compileWith?_of_isScalar htarget hnull
  obtain ⟨g, hg, helementwise⟩ :=
    exists_elementwise (f := replaceLeaf r target (more.headD (.string ""))) fun leaf => by
      cases leaf <;> exact ⟨_, rfl⟩
  refine ⟨g v, by rw [replace_eq_mapLeaves hnull hr, hg], ?_⟩
  -- the pattern for texts plays no part any more, as there are no texts
  refine substituted_of_elementwise helementwise hv fun leaf hcontainer htext => ?_
  have hresult := hg leaf
  cases leaf with
  | array | object => cases hcontainer
  | string => cases htext
  | null | bool | number | date => exact (Except.ok.inj hresult).symm

/-- **Replacing a scalar.** In a value without texts, at any depth, `replace` with a boolean or a
number for its pattern puts the replacement in the place of every leaf that is equal to it, and
leaves all else as it is. With a null it fails instead, even where nulls are in the value. -/
theorem replace_scalar (hv : v.HasNoText) (htarget : target.isScalar) (more : List Value) :
    Registry.builtins.get? "replace" = some replace ∧
      ((∃ w, replace v (target :: more) = .ok w ∧
        Substituted target (more.headD (.string "")) v w) ↔ target ≠ .null) ∧
      (target = .null → replace v (target :: more) =
        .error (.because "replace" "missing pattern argument")) := by
  refine ⟨rfl, ⟨?_, fun hnull => exists_replace_eq_ok hv htarget hnull more⟩, ?_⟩
  · rintro ⟨w, hw, -⟩ rfl
    cases hw
  · rintro rfl
    exact replace_null v more

/-- Booleans and nulls at several depths. -/
def nestedFlags : Value :=
  .array [.bool true, .null, .object [("a", .array [.bool false, .bool true])]]

/-- A boolean gives way to null at every depth. -/
theorem replace_scalar_nestedFlags :
    nestedFlags.HasNoText ∧ (Value.bool true).isScalar ∧
      ∃ w, replace nestedFlags [.bool true, .null] = .ok w ∧
        Substituted (.bool true) .null nestedFlags w := by
  have htext : nestedFlags.HasNoText := by decide
  exact ⟨htext, rfl, (replace_scalar htext rfl [.null]).2.1.2 nofun⟩

/-- A null is a scalar and could be replaced like all others, but there it is no pattern. -/
theorem replace_null_unreplaced :
    TransformSpec.literal "null".toList = .null ∧
      Substituted .null (.string "x") (.array [.null, .number 1])
        (.array [.string "x", .number 1]) ∧
      replace (.array [.null, .number 1]) [.null, .string "x"] =
        .error (.because "replace" "missing pattern argument") ∧
      ¬∀ v target replacement : Value, v.HasNoText → target.isScalar →
        ∃ w, replace v [target, replacement] = .ok w ∧ Substituted target replacement v w := by
  have hfirst : Substituted .null (.string "x") .null (.string "x") := .replaced rfl rfl
  have hsecond : Substituted .null (.string "x") (.number 1) (.number 1) := .kept rfl rfl
  refine ⟨rfl, .array (.cons hfirst (.cons hsecond .nil)), rfl, fun h => ?_⟩
  obtain ⟨w, hw, -⟩ := h (.array [.null, .number 1]) .null (.string "x") (by decide) rfl
  cases hw

end Builtin

end Gleaner
