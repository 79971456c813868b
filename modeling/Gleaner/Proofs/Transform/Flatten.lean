import Gleaner.Proofs.Value.Encoding
import Gleaner.Transform.Builtin

/-!
# Flattening arrays

`flat` opens the arrays inside of an array, down to a depth. Opening them in two goes is opening
them in one go to the sum of the depths, also where empty arrays vanish on the way. From the depth
on at which the innermost arrays are nested, no array is left, and what is left are the leaves.

## Main definitions

* `Value.nesting`: how many arrays are nested in one another at most.
* `Value.leaves`: what arrays hold at any depth that is no array.

## Main results

* `Builtin.flattenItems_flattenItems`: depths add up.
* `Builtin.flattenValue_eq_leaves`, `Builtin.exists_isArray_of_mem_flattenValue`: the depth from
  which on only leaves are left.
* `Builtin.flat_adds_up`: the same for the transform.
-/

namespace Gleaner

/-! ### Nested arrays -/

namespace Value

/-- Whether a value is an array. -/
def isArray : Value → Bool
  | .array _ => true
  | _ => false

mutual

/-- How many arrays are nested in one another at most. Objects are not looked into. -/
def nesting : Value → Nat
  | .array items => nestingOfItems items + 1
  | .null => 0
  | .bool _ => 0
  | .number _ => 0
  | .string _ => 0
  | .date _ => 0
  | .object _ => 0

/-- How many arrays are nested in one another at most within the items of an array. -/
def nestingOfItems : List Value → Nat
  | [] => 0
  | v :: rest => max v.nesting (nestingOfItems rest)

end

mutual

/-- What a value holds that is no array, from left to right: the leaves of the items of an array,
or the value itself. -/
def leaves : Value → List Value
  | .array items => leavesOfItems items
  | .null => [.null]
  | .bool b => [.bool b]
  | .number x => [.number x]
  | .string s => [.string s]
  | .date t => [.date t]
  | .object fields => [.object fields]

/-- The leaves of the items of an array. -/
def leavesOfItems : List Value → List Value
  | [] => []
  | v :: rest => v.leaves ++ leavesOfItems rest

end

/-- The nesting within items is bounded when that of each item is. -/
theorem nestingOfItems_le_iff {items : List Value} {d : Nat} :
    nestingOfItems items ≤ d ↔ ∀ v ∈ items, v.nesting ≤ d := by
  induction items with
  | nil => simp [nestingOfItems]
  | cons v rest ih => rw [nestingOfItems, Nat.max_le, ih, List.forall_mem_cons]

theorem leavesOfItems_eq_flatMap (items : List Value) :
    leavesOfItems items = items.flatMap leaves := by
  induction items with
  | nil => rfl
  | cons v rest ih => rw [leavesOfItems, ih, List.flatMap_cons]

/-- Leaves are no arrays. -/
theorem isArray_of_mem_leaves {v w : Value} (h : w ∈ v.leaves) : w.isArray = false := by
  induction v using Value.induction with
  | array items ih =>
    rw [leaves, leavesOfItems_eq_flatMap] at h
    obtain ⟨v, hv, hw⟩ := List.mem_flatMap.1 h
    exact ih v hv hw
  | null | bool | number | string | date | object =>
    obtain rfl := List.mem_singleton.1 h
    rfl

/-- A value that is no array is its own leaf, and nothing is nested in it. -/
theorem leaves_of_isArray_eq_false {v : Value} (h : v.isArray = false) :
    v.leaves = [v] ∧ v.nesting = 0 := by
  cases v with
  | array items => cases h
  | null | bool | number | string | date | object => exact ⟨rfl, rfl⟩

end Value

namespace Builtin

open Value (isArray nesting leaves nestingOfItems)

/-! ### Flattening -/

variable {v : Value} {items : List Value} {d m n : Nat}

theorem flattenItems_eq_flatMap (d : Nat) (items : List Value) :
    flattenItems d items = items.flatMap (flattenValue d) := by
  induction items with
  | nil => rfl
  | cons v rest ih => rw [flattenItems, ih, List.flatMap_cons]

/-- A value that is no array stays as it is. -/
theorem flattenValue_of_isArray_eq_false (h : v.isArray = false) (d : Nat) :
    flattenValue d v = [v] := by
  cases v with
  | array items => cases h
  | null | bool | number | string | date | object => cases d <;> rfl

/-- At depth zero all items stay as they are. -/
theorem flattenItems_zero (items : List Value) : flattenItems 0 items = items := by
  induction items with
  | nil => rfl
  | cons v rest ih => rw [flattenItems, ih, flattenValue, List.singleton_append]

/-- What a value contributes, flattened further. -/
theorem flattenItems_flattenValue (v : Value) (m n : Nat) :
    flattenItems n (flattenValue m v) = flattenValue (m + n) v := by
  have hsingle (v : Value) : flattenItems n [v] = flattenValue n v := by
    rw [flattenItems, flattenItems, List.append_nil]
  induction v using Value.induction generalizing m with
  | array items ih =>
    cases m with
    | zero => rw [Nat.zero_add, flattenValue, hsingle]
    | succ m =>
      -- each item of the opened array is flattened to what is left of the two depths
      rw [Nat.add_right_comm, flattenValue, flattenValue]
      simp only [flattenItems_eq_flatMap, List.flatMap_assoc] at ih ⊢
      exact List.flatMap_congr fun v hv => ih v hv m
  | null | bool | number | string | date | object =>
    rw [flattenValue_of_isArray_eq_false rfl, flattenValue_of_isArray_eq_false rfl, hsingle,
      flattenValue_of_isArray_eq_false rfl]

/-- **Depths add up.** -/
theorem flattenItems_flattenItems (m n : Nat) (items : List Value) :
    flattenItems n (flattenItems m items) = flattenItems (m + n) items := by
  have hitem (v : Value) := flattenItems_flattenValue v m n
  simp only [flattenItems_eq_flatMap, List.flatMap_assoc] at hitem ⊢
  exact List.flatMap_congr fun v _ => hitem v

/-- An empty array vanishes where it is opened and stays where it is not. -/
example : flattenItems 1 [.array [.array []], .array []] = [.array []] := rfl

/-- From the depth of the nesting on a value contributes its leaves. -/
theorem flattenValue_eq_leaves (h : v.nesting ≤ d) : flattenValue d v = v.leaves := by
  induction v using Value.induction generalizing d with
  | array items ih =>
    cases d with
    | zero => cases h
    | succ d =>
      have hitems := Value.nestingOfItems_le_iff.1 (Nat.le_of_succ_le_succ h)
      rw [flattenValue, leaves, flattenItems_eq_flatMap, Value.leavesOfItems_eq_flatMap]
      exact List.flatMap_congr fun v hv => ih v hv (hitems v hv)
  | null | bool | number | string | date | object =>
    rw [flattenValue_of_isArray_eq_false rfl, (Value.leaves_of_isArray_eq_false rfl).1]

/-- Before that an array is left. -/
theorem exists_isArray_of_mem_flattenValue (h : d < v.nesting) :
    ∃ w ∈ flattenValue d v, w.isArray := by
  induction v using Value.induction generalizing d with
  | array items ih =>
    cases d with
    | zero => exact ⟨.array items, List.mem_singleton_self _, rfl⟩
    | succ d =>
      -- an item that is nested too deep for what is left of the depth keeps an array
      have hdeep : ¬nestingOfItems items ≤ d := Nat.not_le.2 (Nat.lt_of_succ_lt_succ h)
      simp only [Value.nestingOfItems_le_iff, not_forall, Nat.not_le] at hdeep
      obtain ⟨v, hv, hlt⟩ := hdeep
      obtain ⟨w, hw, harray⟩ := ih v hv hlt
      rw [flattenValue, flattenItems_eq_flatMap]
      exact ⟨w, List.mem_flatMap.2 ⟨v, hv, hw⟩, harray⟩
  | null | bool | number | string | date | object => cases h

/-- Flattened items are the leaves from the depth of their nesting on. -/
theorem flattenItems_eq_leaves (h : nestingOfItems items ≤ d) :
    flattenItems d items = (Value.array items).leaves := by
  have harray : (Value.array items).nesting ≤ d + 1 := Nat.succ_le_succ h
  rw [← flattenValue_eq_leaves harray, flattenValue]

/-- Flattened items hold no array just from the depth of their nesting on. -/
theorem forall_mem_flattenItems_iff :
    (∀ w ∈ flattenItems d items, w.isArray = false) ↔ nestingOfItems items ≤ d := by
  constructor
  · intro h
    by_contra hdeep
    have hlt : d + 1 < (Value.array items).nesting := Nat.succ_lt_succ (Nat.not_le.1 hdeep)
    obtain ⟨w, hw, harray⟩ := exists_isArray_of_mem_flattenValue hlt
    rw [h w hw] at harray
    cases harray
  · intro h w hw
    rw [flattenItems_eq_leaves h] at hw
    exact Value.isArray_of_mem_leaves hw

/-! ### The transform -/

/-- An array is flattened to the depth that a number says. -/
theorem flat_number {x : Double} (h : x.IsNat m) (hword : m < 18446744073709551616)
    (items : List Value) :
    flat (.array items) [.number x] = .ok (.array (flattenItems m items)) := by
  have hdepth : depthOf [.number x] = .ok m := by
    have harg : arg? [.number x] 0 = some (.number x) := rfl
    simp only [depthOf, harg]
    rw [if_pos h.atMost_zero, h.toWord_eq hword]
  rw [flat, hdepth]
  rfl

/-- **Flattening adds up.** Let two depths and their sum be given as numbers that are natural
numbers within a machine word. Flattening an array to the first depth and the result to the second
one is flattening the array to the sum, and flattening to depth zero changes nothing. The result
holds no array just when the array is nested at most one deeper than the depth (the array itself
counts as one), and then it is the list of the leaves of the array, from left to right. -/
theorem flat_adds_up {x y z : Double} (hx : x.IsNat m) (hy : y.IsNat n) (hz : z.IsNat (m + n))
    (hword : m + n < 18446744073709551616) (items : List Value) :
    Registry.builtins.get? "flat" = some flat ∧
      ∃ once twice : List Value,
        flat (.array items) [.number x] = .ok (.array once) ∧
        flat (.array once) [.number y] = .ok (.array twice) ∧
        flat (.array items) [.number z] = .ok (.array twice) ∧
        (m = 0 → once = items) ∧
        ((∀ v ∈ once, v.isArray = false) ↔ (Value.array items).nesting ≤ m + 1) ∧
        ((Value.array items).nesting ≤ m + 1 → once = (Value.array items).leaves) := by
  -- the array itself is one level of its nesting, which no depth has to open
  have hnesting : (Value.array items).nesting ≤ m + 1 ↔ nestingOfItems items ≤ m :=
    Nat.succ_le_succ_iff
  refine ⟨rfl, flattenItems m items, flattenItems (m + n) items, flat_number hx (by omega) items,
    ?_, flat_number hz hword items, ?_, ?_, ?_⟩
  · rw [flat_number hy (by omega), flattenItems_flattenItems]
  · rintro rfl
    exact flattenItems_zero items
  · rw [hnesting]
    exact forall_mem_flattenItems_iff
  · rw [hnesting]
    exact flattenItems_eq_leaves

/-- Empty arrays at different levels, and an array inside of an object. -/
def crowded : List Value :=
  [.array [.bool true, .array [.null, .array []]], .array [], .object [("a", .array [.array []])],
    .array [.array [.array []]]]

/-- Empty arrays at different levels vanish in one go or in two. -/
theorem flat_adds_up_crowded :
    (Double.ofNat 1).IsNat 1 ∧ (Double.ofNat 2).IsNat (1 + 1) ∧
      ∃ once twice : List Value,
        flat (.array crowded) [.number (.ofNat 1)] = .ok (.array once) ∧
        flat (.array once) [.number (.ofNat 1)] = .ok (.array twice) ∧
        flat (.array crowded) [.number (.ofNat 2)] = .ok (.array twice) ∧
        ¬∀ v ∈ once, v.isArray = false := by
  have hone : (Double.ofNat 1).IsNat 1 := Double.isNat_ofNat (by decide)
  have htwo : (Double.ofNat 2).IsNat (1 + 1) := Double.isNat_ofNat (by decide)
  obtain ⟨-, once, twice, hfirst, hsecond, hboth, -, harrays, -⟩ :=
    flat_adds_up hone hone htwo (by decide) crowded
  refine ⟨hone, htwo, once, twice, hfirst, hsecond, hboth, ?_⟩
  rw [harrays]
  decide

end Builtin
end Gleaner
