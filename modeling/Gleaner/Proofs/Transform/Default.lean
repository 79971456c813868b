import Gleaner.Proofs.Text.Trim
import Gleaner.Transform.Builtin
import Gleaner.Transform.Spec
import Mathlib.Data.List.Forall2

/-!
# Defaults for missing values

`def` puts a default in the place of what is missing: of a value that is null or listed, and by its
mode of a blank or empty text or of anything falsy. It looks at the items of an array and at the
values of an object, not deeper, and at any other value as it is. Once is enough: the default is
left alone or is replaced by itself.

`empty` is the same with the empty text for a default and with blank texts missing unless a mode is
given. But a mode of null counts as none, and then it replaces blank texts, where `def` does not.

## Main definitions

* `Value.entries`: what a transform that goes one level deep looks at.
* `Builtin.Missing`: what gives way to a default.
* `Builtin.Settles`: a value beside what `def` makes of it as an entry.
* `Builtin.Entrywise`: values whose entries are related.

## Main results

* `Builtin.default_eq`: `def` is one function of the entries of a value, null or not.
* `Builtin.givesWay_iff`: what gives way, by the arguments.
* `Builtin.default_replaces_missing`: what `def` replaces, and that once is enough.
* `Builtin.empty_eq_default_iff`: where `empty` is `def`.
-/

namespace Gleaner

namespace Value

/-- Whether the value is an array or an object. -/
def isContainer : Value → Bool
  | .array _ | .object _ => true
  | _ => false

/-- What is one level deep in the value: the items of an array, the values of an object, or the
value itself. -/
def entries : Value → List Value
  | .array items => items
  | .object fields => fields.map (·.2)
  | v => [v]

end Value

namespace Builtin

open Value (mem)

variable {v w : Value} {args : List Value}

/-! ### One level deep -/

section Shallow

variable {f g : Value → Value}

/-- The entries of the values are related: items place by place, values of objects under the same
keys in the same order, and values that are neither by themselves. -/
inductive Entrywise (R : Value → Value → Prop) : Value → Value → Prop
  | array {xs ys : List Value} (h : List.Forall₂ R xs ys) : Entrywise R (.array xs) (.array ys)
  | object {xs ys : List (String × Value)} (hkeys : xs.map (·.1) = ys.map (·.1))
      (h : List.Forall₂ R (xs.map (·.2)) (ys.map (·.2))) : Entrywise R (.object xs) (.object ys)
  | single {v w : Value} (hv : v.isContainer = false) (h : R v w) : Entrywise R v w

/-- A function applied one level deep relates the entries. -/
theorem entrywise_mapShallow {R : Value → Value → Prop} (h : ∀ v, R v (f v)) (v : Value) :
    Entrywise R v (mapShallow f v) := by
  cases v with
  | array items => exact .array (List.forall₂_map_right_iff.2 (List.forall₂_same.2 fun v _ => h v))
  | object fields =>
    refine .object (by simp) ?_
    simp only [List.map_map, List.forall₂_map_left_iff, List.forall₂_map_right_iff]
    exact List.forall₂_same.2 fun entry _ => h entry.2
  | null | bool | number | string | date => exact .single rfl (h _)

/-- Functions that agree on the entries are the same one level deep. -/
theorem mapShallow_eq_iff : mapShallow f v = mapShallow g v ↔ ∀ w ∈ v.entries, f w = g w := by
  cases v with
  | array items => simp [mapShallow, Value.entries]
  | object fields =>
    rw [Value.entries, List.forall_mem_map]
    simp [mapShallow]
  | null | bool | number | string | date => simp [mapShallow, Value.entries]

/-- A function that leaves its own results alone does so one level deep, if it makes no array or
object of anything else. -/
theorem mapShallow_mapShallow (hf : ∀ v, f (f v) = f v)
    (hcontainer : ∀ v, v.isContainer = false → (f v).isContainer = false) (v : Value) :
    mapShallow f (mapShallow f v) = mapShallow f v := by
  have hsingle {w : Value} (hw : w.isContainer = false) : mapShallow f w = f w := by
    cases w with
    | array | object => cases hw
    | null | bool | number | string | date => rfl
  cases hv : v.isContainer with
  | false => rw [hsingle hv, hsingle (hcontainer v hv), hf]
  | true =>
    cases v with
    | array items => simp [mapShallow, hf]
    | object fields => simp [mapShallow, hf]
    | null | bool | number | string | date => cases hv

end Shallow

/-! ### What is missing -/

/-- The default that the arguments give. -/
def fallback (args : List Value) : Value := args.getD 0 .null

/-- The mode that the arguments give. -/
def modeOf (args : List Value) : String := ((args[1]?).bind Value.text?).getD "null"

/-- What gives way to a default: null and listed values, and by the mode blank texts, the empty
text, or whatever is falsy. -/
inductive Missing (args : List Value) : Value → Prop
  | null : Missing args .null
  | listed {v w : Value} (hw : w ∈ args.drop 2) (h : w.equals v) : Missing args v
  | blank {s : String} (hmode : args[1]? = some (.string "blank")) (h : IsBlankText s.toList) :
      Missing args (.string s)
  | empty (hmode : args[1]? = some (.string "empty")) : Missing args (.string "")
  | falsy {v : Value} (hmode : args[1]? = some (.string "falsy")) (h : v.isTruthy = false) :
      Missing args v

/-- A mode with an effect has been given as a text. -/
theorem modeOf_eq_iff {mode : String} (hmode : mode ≠ "null") :
    modeOf args = mode ↔ args[1]? = some (.string mode) := by
  rw [modeOf]
  cases args[1]? with
  | none => simp [hmode.symm]
  | some v => cases v <;> simp [Value.text?, hmode.symm]

/-- What gives way, by the arguments. -/
theorem givesWay_iff : givesWay (modeOf args) (args.drop 2) v ↔ Missing args v := by
  constructor
  · intro h
    rw [givesWay, Bool.or_eq_true, Bool.or_eq_true] at h
    rcases h with (hnull | hlisted) | hmode
    · rw [Value.isNull_iff.1 hnull]
      exact .null
    · obtain ⟨w, hw, hequals⟩ := List.any_eq_true.1 hlisted
      exact .listed hw hequals
    · split_ifs at hmode with hblank hempty hfalsy
      · cases v with
        | string s =>
          have htrim : trim s.toList = [] := by simpa [Value.text?] using hmode
          exact .blank ((modeOf_eq_iff (by decide)).1 hblank) (trim_eq_nil_iff.1 htrim)
        | null | bool | number | date | array | object => cases hmode
      · cases v with
        | string s =>
          obtain rfl : s = "" := by simpa [Value.text?] using hmode
          exact .empty ((modeOf_eq_iff (by decide)).1 hempty)
        | null | bool | number | date | array | object => cases hmode
      · exact .falsy ((modeOf_eq_iff (by decide)).1 hfalsy) (by simpa using hmode)
  · intro h
    rw [givesWay]
    cases h with
    | null => rfl
    | listed hw h =>
      have hmem : mem (args.drop 2) v := List.any_eq_true.2 ⟨_, hw, h⟩
      rw [hmem, Bool.or_true, Bool.true_or]
    | blank hmode h =>
      rw [(modeOf_eq_iff (by decide)).2 hmode, if_pos rfl]
      simp [Value.text?, trim_eq_nil_iff.2 h]
    | empty hmode =>
      rw [(modeOf_eq_iff (by decide)).2 hmode]
      simp [Value.text?]
    | falsy hmode h =>
      rw [(modeOf_eq_iff (by decide)).2 hmode]
      simp [h]

/-! ### What becomes of it -/

/-- What `def` makes of a value as an entry: the default if the value is missing, else itself. -/
inductive Settles (args : List Value) : Value → Value → Prop
  | replaced {v : Value} (h : Missing args v) : Settles args v (fallback args)
  | kept {v : Value} (h : ¬Missing args v) : Settles args v v

/-- What `def` makes of a value as an entry. -/
def settled (args : List Value) (v : Value) : Value :=
  if givesWay (modeOf args) (args.drop 2) v then fallback args else v

theorem settled_of_missing (h : Missing args v) : settled args v = fallback args :=
  if_pos (givesWay_iff.2 h)

theorem settled_of_not_missing (h : ¬Missing args v) : settled args v = v :=
  if_neg fun hgives => h (givesWay_iff.1 hgives)

theorem settles_settled (args : List Value) (v : Value) : Settles args v (settled args v) := by
  by_cases h : Missing args v
  · rw [settled_of_missing h]
    exact .replaced h
  · rw [settled_of_not_missing h]
    exact .kept h

/-- The default is left alone or replaced by itself. -/
theorem settled_settled (v : Value) : settled args (settled args v) = settled args v := by
  by_cases h : Missing args v
  · rw [settled_of_missing h]
    exact ite_self _
  · rw [settled_of_not_missing h, settled_of_not_missing h]

/-- `def` acts on the entries of a value. A null is no exception, since it is missing as its own
entry. -/
theorem default_eq (v : Value) (args : List Value) :
    default v args = .ok (mapShallow (settled args) v) := by
  cases v with
  | null => exact congrArg Except.ok (settled_of_missing .null).symm
  | bool | number | string | date | array | object => rfl

/-- **Defaults.** `def` succeeds on every value with any arguments. An array keeps its length and an
object its keys in their order; just the entries that are missing become the default, and any other
one stays as it is, whatever it holds. A value that is no array or object is its own entry. Unless
the default is an array or object, applying `def` again changes nothing. -/
theorem default_replaces_missing (v : Value) (args : List Value) :
    Registry.builtins.get? "def" = some default ∧
      ∃ w, default v args = .ok w ∧ Entrywise (Settles args) v w ∧
        ((fallback args).isContainer = false → default w args = .ok w) := by
  refine ⟨rfl, _, default_eq v args, entrywise_mapShallow (settles_settled args) v, ?_⟩
  intro hfallback
  rw [default_eq, mapShallow_mapShallow settled_settled]
  intro v hv
  by_cases h : Missing args v
  · rwa [settled_of_missing h]
  · rwa [settled_of_not_missing h]

/-- An array is not missing itself, whatever the mode. -/
example : default (.array []) [.string "x", .string "empty"] = .ok (.array []) := rfl

/-- A default for what is falsy, and for the array that holds just a null. -/
def falsyArgs : List Value := [.string "x", .string "falsy", .array [.null]]

/-- Values under the keys of an object, falsy or listed ones among them. -/
def mixedEntries : Value :=
  .object [("listed", .array [.null]), ("falsy", .number .nan), ("nested", .array [.string ""]),
    ("kept", .string "y")]

/-- Listed arrays and what is falsy are replaced, though not inside of another array. -/
theorem default_replaces_missing_mixedEntries :
    (fallback falsyArgs).isContainer = false ∧
      ∃ w, w = .object [("listed", .string "x"), ("falsy", .string "x"),
          ("nested", .array [.string ""]), ("kept", .string "y")] ∧
        default mixedEntries falsyArgs = .ok w ∧ Entrywise (Settles falsyArgs) mixedEntries w ∧
        default w falsyArgs = .ok w := by
  have hfallback : (fallback falsyArgs).isContainer = false := rfl
  obtain ⟨-, w, hw, hentries, hagain⟩ := default_replaces_missing mixedEntries falsyArgs
  have hdefault : default mixedEntries falsyArgs = .ok (.object [("listed", .string "x"),
      ("falsy", .string "x"), ("nested", .array [.string ""]), ("kept", .string "y")]) := rfl
  exact ⟨hfallback, w, Except.ok.inj (hw.symm.trans hdefault), hw, hentries, hagain hfallback⟩

/-! ### The empty text as a default -/

/-- What `empty` makes of a value with a mode and listed values. -/
theorem empty_cons (v mode : Value) (values : List Value) :
    empty v (mode :: values) =
      default v (.string "" :: (if mode.isNull then .string "blank" else mode) :: values) := by
  cases mode <;> rfl

/-- Without a mode null and listed values are missing. -/
theorem missing_null_iff {values : List Value} :
    Missing (.string "" :: .null :: values) v ↔ v = .null ∨ ∃ w ∈ values, w.equals v := by
  constructor
  · rintro (_ | ⟨hw, h⟩ | hmode | hmode | hmode)
    · exact .inl rfl
    · exact .inr ⟨_, hw, h⟩
    all_goals cases hmode
  · rintro (rfl | ⟨w, hw, h⟩)
    · exact .null
    · exact .listed hw h

/-- With the mode `blank` blank texts are missing besides. -/
theorem missing_blank_iff {values : List Value} :
    Missing (.string "" :: .string "blank" :: values) v ↔
      Missing (.string "" :: .null :: values) v ∨ ∃ s, v = .string s ∧ IsBlankText s.toList := by
  rw [missing_null_iff]
  constructor
  · rintro (_ | ⟨hw, h⟩ | ⟨-, h⟩ | hmode | hmode)
    · exact .inl (.inl rfl)
    · exact .inl (.inr ⟨_, hw, h⟩)
    · exact .inr ⟨_, rfl, h⟩
    all_goals simp at hmode
  · rintro ((rfl | ⟨w, hw, h⟩) | ⟨s, rfl, h⟩)
    · exact .null
    · exact .listed hw h
    · exact .blank rfl h

/-- With the empty text for a default, the mode `blank` makes a difference to blank texts that are
neither empty nor listed. -/
theorem settled_blank_eq_settled_null_iff {values : List Value} :
    settled (.string "" :: .string "blank" :: values) v =
        settled (.string "" :: .null :: values) v ↔
      ∀ s, v = .string s → IsBlankText s.toList → s = "" ∨ ∃ w ∈ values, w.equals v := by
  by_cases hnull : Missing (.string "" :: .null :: values) v
  · -- what is missing without a mode is missing with any
    rw [settled_of_missing hnull, settled_of_missing (missing_blank_iff.2 (.inl hnull))]
    refine iff_of_true rfl fun s hs _ => .inr ?_
    rcases missing_null_iff.1 hnull with rfl | hlisted
    · cases hs
    · exact hlisted
  rw [settled_of_not_missing hnull]
  have hunlisted : ¬∃ w ∈ values, w.equals v := fun h => hnull (missing_null_iff.2 (.inr h))
  by_cases hblank : Missing (.string "" :: .string "blank" :: values) v
  · obtain ⟨s, rfl, hs⟩ := (missing_blank_iff.1 hblank).resolve_left hnull
    rw [settled_of_missing hblank]
    constructor
    · rintro h _ ⟨⟩ _
      exact .inl (Value.string.inj h).symm
    · intro h
      obtain rfl := (h s rfl hs).resolve_right hunlisted
      rfl
  · rw [settled_of_not_missing hblank]
    exact iff_of_true rfl fun s hs hblanks =>
      absurd (missing_blank_iff.2 (.inr ⟨s, hs, hblanks⟩)) hblank

/-- **The empty text as a default.** With any mode but null, `empty` is `def` with the empty text as
its default. It takes null for no mode, and then it is `def` with the mode `blank`. So with null for
a mode the two are the same exactly when each blank text among the entries of the value is empty or
listed. -/
theorem empty_eq_default_iff (v mode : Value) (values : List Value) :
    Registry.builtins.get? "empty" = some empty ∧ Registry.builtins.get? "def" = some default ∧
      empty v (.null :: values) = default v (.string "" :: .string "blank" :: values) ∧
      (empty v (mode :: values) = default v (.string "" :: mode :: values) ↔
        (mode = .null → ∀ s, .string s ∈ v.entries → IsBlankText s.toList →
          s = "" ∨ ∃ w ∈ values, w.equals (.string s))) := by
  refine ⟨rfl, rfl, empty_cons v .null values, ?_⟩
  rw [empty_cons]
  cases mode with
  | null =>
    show default v (.string "" :: .string "blank" :: values) = _ ↔ _
    rw [default_eq, default_eq, Except.ok.injEq, mapShallow_eq_iff]
    simp only [settled_blank_eq_settled_null_iff, forall_const]
    exact ⟨fun h s hs => h _ hs s rfl, fun h w hw s hs => hs ▸ h s (hs ▸ hw)⟩
  | bool | number | string | date | array | object => exact iff_of_true rfl nofun

/-- A mode that is written as null does not reach `empty`: it replaces a blank text that `def` with
the same mode leaves. -/
theorem empty_null_replaces_blank :
    TransformSpec.literal "null".toList = .null ∧
      empty (.string " ") [.null] = .ok (.string "") ∧
      default (.string " ") [.string "", .null] = .ok (.string " ") ∧
      ¬∀ (v mode : Value) (values : List Value),
        empty v (mode :: values) = default v (.string "" :: mode :: values) := by
  have hempty : empty (.string " ") [.null] = .ok (.string "") := rfl
  have hdefault : default (.string " ") [.string "", .null] = .ok (.string " ") := rfl
  refine ⟨rfl, hempty, hdefault, fun h => ?_⟩
  have hequal := h (.string " ") .null []
  rw [hempty, hdefault] at hequal
  simp at hequal

end Builtin
end Gleaner
