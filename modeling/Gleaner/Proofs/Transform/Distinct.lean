import Gleaner.Proofs.Value.Equality
import Gleaner.Transform.Builtin

/-!
# The first of equal items

`unique` goes through an array from left to right and keeps an item when it equals none of those
kept so far. Which items are kept is said by their places, since the same value can be at several
of them, and one that holds NaN is kept at each.

## Main definitions

* `Builtin.KeepsFirsts`: the items at some places of an array, each the first of its like.

## Main results

* `Builtin.pairwise_distinctAfter`: no kept item equals a later one.
* `Builtin.distinctAfter_eq_self`: items of which none equals a later one are all kept.
* `Builtin.exists_keepsFirsts`: which items are kept.
* `Builtin.unique_keeps_firsts`: what `unique` makes of an array.
-/

namespace Gleaner.Builtin

open Value (mem)

variable {items kept : List Value} {v w : Value}

/-! ### Items that equal none before them -/

theorem mem_eq_false_iff : mem kept v = false ↔ ∀ w ∈ kept, w.equals v = false := by
  simp [mem]

/-- The kept items stand in the order of the array. -/
theorem distinctAfter_sublist (kept items : List Value) :
    (distinctAfter kept items).Sublist items := by
  induction items generalizing kept with
  | nil => exact .slnil
  | cons v rest ih =>
    rw [distinctAfter]
    split
    · exact (ih kept).cons v
    · exact (ih (kept ++ [v])).cons_cons v

/-- An item that is kept equals none of those kept before. -/
theorem mem_eq_false_of_mem_distinctAfter (h : w ∈ distinctAfter kept items) :
    mem kept w = false := by
  induction items generalizing kept with
  | nil => cases h
  | cons v rest ih =>
    rw [distinctAfter] at h
    split at h
    · exact ih h
    next hnew =>
      rcases List.mem_cons.1 h with rfl | hrest
      · exact Bool.eq_false_iff.2 hnew
      · -- it equals none of more items than were asked for
        have hmore := mem_eq_false_iff.1 (ih hrest)
        exact mem_eq_false_iff.2 fun u hu => hmore u (List.mem_append_left _ hu)

/-- No kept item equals a later one. -/
theorem pairwise_distinctAfter (kept items : List Value) :
    (distinctAfter kept items).Pairwise fun v w => v.equals w = false := by
  induction items generalizing kept with
  | nil => exact .nil
  | cons v rest ih =>
    rw [distinctAfter]
    split
    · exact ih kept
    · refine List.pairwise_cons.2 ⟨fun w hw => ?_, ih _⟩
      exact mem_eq_false_iff.1 (mem_eq_false_of_mem_distinctAfter hw) v (by simp)

/-- Items that equal none before them are all kept. -/
theorem distinctAfter_eq_self (hkept : ∀ v ∈ items, mem kept v = false)
    (hitems : items.Pairwise fun v w => v.equals w = false) : distinctAfter kept items = items := by
  induction items generalizing kept with
  | nil => rfl
  | cons v rest ih =>
    rw [List.forall_mem_cons] at hkept
    rw [List.pairwise_cons] at hitems
    rw [distinctAfter, hkept.1, if_neg Bool.false_ne_true, ih (fun w hw => ?_) hitems.2]
    rw [mem_eq_false_iff, List.forall_mem_append, List.forall_mem_singleton]
    exact ⟨mem_eq_false_iff.1 (hkept.2 w hw), hitems.1 w hw⟩

/-- One more item at the end is kept when it equals none of those kept so far. -/
theorem distinctAfter_concat (kept items : List Value) (v : Value) :
    distinctAfter kept (items ++ [v]) =
      distinctAfter kept items ++ if mem (kept ++ distinctAfter kept items) v then [] else [v] := by
  induction items generalizing kept with
  | nil => simp [distinctAfter]
  | cons u rest ih =>
    rw [List.cons_append, distinctAfter, distinctAfter]
    split
    · exact ih kept
    · rw [ih, List.cons_append, List.append_assoc, List.singleton_append]

/-! ### The places of the kept items -/

/-- The kept items are those at some places. An item is at one of these places just when it equals
no kept item before it. -/
structure KeepsFirsts (items kept : List Value) (places : List Nat) : Prop where
  /-- The places are in the order of the array. -/
  increasing : places.Pairwise (· < ·)
  /-- At each of them there is a kept item. -/
  map_some_kept : kept.map some = places.map (items[·]?)
  /-- An item is kept if and only if it equals no kept item before it. -/
  mem_places_iff : ∀ i v, items[i]? = some v →
    (i ∈ places ↔ ∀ j w, j ∈ places → j < i → items[j]? = some w → w.equals v = false)

namespace KeepsFirsts

variable {places : List Nat}

/-- A kept item is at one of the places. -/
theorem mem_kept_iff (h : KeepsFirsts items kept places) :
    w ∈ kept ↔ ∃ j ∈ places, items[j]? = some w := by
  have hsome : some w ∈ kept.map some ↔ w ∈ kept := by simp
  rw [← hsome, h.map_some_kept, List.mem_map]

/-- The places are in the array. -/
theorem lt_length (h : KeepsFirsts items kept places) {i : Nat} (hi : i ∈ places) :
    i < items.length := by
  have hsome : items[i]? ∈ kept.map some := by
    rw [h.map_some_kept]
    exact List.mem_map_of_mem hi
  obtain ⟨v, -, hv⟩ := List.mem_map.1 hsome
  exact (List.getElem?_eq_some_iff.1 hv.symm).1

/-- A value equals a kept item just when it equals the item at one of the places. -/
theorem mem_eq_false_iff_forall (h : KeepsFirsts items kept places) :
    mem kept v = false ↔ ∀ j w, j ∈ places → items[j]? = some w → w.equals v = false := by
  rw [mem_eq_false_iff]
  constructor
  · exact fun hkept j w hj hw => hkept w (h.mem_kept_iff.2 ⟨j, hj, hw⟩)
  · intro hplaces w hw
    obtain ⟨j, hj, hw⟩ := h.mem_kept_iff.1 hw
    exact hplaces j w hj hw

/-- An item that is not kept equals a kept item before it. -/
theorem exists_equal (h : KeepsFirsts items kept places) {i : Nat} (hv : items[i]? = some v)
    (hi : i ∉ places) : ∃ j ∈ places, j < i ∧ ∃ w, items[j]? = some w ∧ w.equals v := by
  rw [h.mem_places_iff i v hv] at hi
  push Not at hi
  obtain ⟨j, w, hj, hlt, hw, hequals⟩ := hi
  exact ⟨j, hj, hlt, w, hw, by simpa using hequals⟩

/-- What is kept before a place stays the same with one more item at the end, whether or not that
is kept. -/
theorem forall_before_concat_iff (h : KeepsFirsts items kept places) {more : List Nat}
    (hmore : ∀ j ∈ more, j = items.length) {i : Nat} (hi : i ≤ items.length) {P : Value → Prop} :
    (∀ j w, j ∈ places ++ more → j < i → (items ++ [v])[j]? = some w → P w) ↔
      ∀ j w, j ∈ places → j < i → items[j]? = some w → P w := by
  constructor
  · intro hall j w hj hlt hw
    refine hall j w (List.mem_append_left more hj) hlt ?_
    rwa [List.getElem?_append_left (h.lt_length hj)]
  · intro hall j w hj hlt hw
    rcases List.mem_append.1 hj with hj | hj
    · rw [List.getElem?_append_left (h.lt_length hj)] at hw
      exact hall j w hj hlt hw
    · have := hmore j hj
      omega

/-- One more item at the end is kept unless it equals a kept one; the others stay. -/
theorem concat (h : KeepsFirsts items kept places) (v : Value) :
    KeepsFirsts (items ++ [v]) (kept ++ if mem kept v then [] else [v])
      (places ++ if mem kept v then [] else [items.length]) := by
  have hlast : items.length ∉ places := fun hmem => Nat.lt_irrefl _ (h.lt_length hmem)
  have hmore : ∀ j ∈ if mem kept v then [] else [items.length], j = items.length := by
    intro j hj
    split at hj
    · cases hj
    · exact List.mem_singleton.1 hj
  refine ⟨?_, ?_, fun i u hu => ?_⟩
  · refine List.pairwise_append.2 ⟨h.increasing, by split <;> simp, fun i hi j hj => ?_⟩
    rw [hmore j hj]
    exact h.lt_length hi
  · have hplaces : places.map ((items ++ [v])[·]?) = places.map (items[·]?) :=
      List.map_congr_left fun i hi => List.getElem?_append_left (h.lt_length hi)
    rw [List.map_append, List.map_append, h.map_some_kept, hplaces]
    split <;> simp
  · have hi : i ≤ items.length := by
      have := (List.getElem?_eq_some_iff.1 hu).1
      simpa [Nat.lt_succ_iff] using this
    rw [h.forall_before_concat_iff hmore hi, List.mem_append]
    rcases Nat.lt_or_eq_of_le hi with hlt | rfl
    · -- an item that was there before is kept as it was
      have hold : i ∉ if mem kept v then [] else [items.length] := fun hmem =>
        Nat.ne_of_lt hlt (hmore i hmem)
      rw [List.getElem?_append_left hlt] at hu
      rw [or_iff_left hold, h.mem_places_iff i u hu]
    · -- the new item has all kept ones before it
      obtain rfl : v = u := by simpa using hu
      rw [or_iff_right hlast]
      have hall : mem kept v = false ↔
          ∀ j w, j ∈ places → j < items.length → items[j]? = some w → w.equals v = false :=
        h.mem_eq_false_iff_forall.trans
          ⟨fun hall j w hj _ => hall j w hj, fun hall j w hj => hall j w hj (h.lt_length hj)⟩
      rw [← hall]
      cases mem kept v <;> simp

end KeepsFirsts

/-- Which items are kept. -/
theorem exists_keepsFirsts (items : List Value) :
    ∃ places, KeepsFirsts items (distinctAfter [] items) places := by
  induction items using List.reverseRecOn with
  | nil => exact ⟨[], .nil, rfl, fun i v hv => by simp at hv⟩
  | append_singleton items v ih =>
    obtain ⟨places, h⟩ := ih
    rw [distinctAfter_concat, List.nil_append]
    exact ⟨_, h.concat v⟩

/-! ### The transform -/

/-- Where no item equals a later one, no two items at different places are equal. -/
theorem equals_eq_false_of_pairwise (hkeyed : ∀ v ∈ items, v.IsKeyed)
    (h : items.Pairwise fun v w => v.equals w = false) {i j : Nat} (hne : i ≠ j)
    (hv : items[i]? = some v) (hw : items[j]? = some w) : v.equals w = false := by
  rw [List.pairwise_iff_getElem] at h
  obtain ⟨hi, rfl⟩ := List.getElem?_eq_some_iff.1 hv
  obtain ⟨hj, rfl⟩ := List.getElem?_eq_some_iff.1 hw
  rcases Nat.lt_or_gt_of_ne hne with hlt | hlt
  · exact h i j hi hj hlt
  · rw [Value.equals_comm (hkeyed _ (List.getElem_mem hi)) (hkeyed _ (List.getElem_mem hj))]
    exact h j i hj hi hlt

/-- **The first of equal items.** `unique` keeps some items of an array in their order, and keeping
the firsts among them again changes nothing. No two that are kept are equal. An item is kept if and
only if it equals no kept item before it, so each one that is dropped equals a kept item before it.
-/
theorem unique_keeps_firsts (items args : List Value) :
    Registry.builtins.get? "unique" = some unique ∧
      ∃ kept places,
        unique (.array items) args = .ok (.array kept) ∧
        unique (.array kept) args = .ok (.array kept) ∧
        kept.Sublist items ∧
        ((∀ v ∈ items, v.IsKeyed) → ∀ (i j : Nat) (v w : Value), i ≠ j →
          kept[i]? = some v → kept[j]? = some w → v.equals w = false) ∧
        KeepsFirsts items kept places ∧
        ∀ (i : Nat) (v : Value), items[i]? = some v → i ∉ places →
          ∃ j ∈ places, j < i ∧ ∃ w, items[j]? = some w ∧ w.equals v := by
  obtain ⟨places, hplaces⟩ := exists_keepsFirsts items
  have hsublist := distinctAfter_sublist [] items
  have hpairwise := pairwise_distinctAfter [] items
  refine ⟨rfl, _, places, rfl, ?_, hsublist, fun hkeyed i j v w => ?_, hplaces,
    fun i v => hplaces.exists_equal⟩
  · rw [unique, distinctAfter_eq_self (fun v hv => rfl) hpairwise]
  · exact equals_eq_false_of_pairwise (fun v hv => hkeyed v (hsublist.subset hv)) hpairwise

/-- Zeros with either sign, NaN, and an object with its keys in two orders. -/
def alikeItems : List Value :=
  [.number .zero, .number .nan, .object [("a", .null), ("b", .array [])],
    .number (.finite true .zero), .object [("b", .array []), ("a", .null)], .number .nan]

/-- The first of the zeros and of the objects, and both NaN. -/
def keptItems : List Value :=
  [.number .zero, .number .nan, .object [("a", .null), ("b", .array [])], .number .nan]

/-- Of zeros and of objects the first is kept, and both NaN are, since they are not equal. -/
theorem unique_keeps_firsts_alikeItems :
    (∀ v ∈ alikeItems, v.IsKeyed) ∧ unique (.array alikeItems) [] = .ok (.array keptItems) ∧
      (∀ (i j : Nat) (v w : Value), i ≠ j → keptItems[i]? = some v → keptItems[j]? = some w →
        v.equals w = false) ∧
      ∃ places, KeepsFirsts alikeItems keptItems places := by
  have hkeyed : ∀ v ∈ alikeItems, v.IsKeyed := by decide +kernel
  obtain ⟨-, kept, places, hunique, -, -, hdistinct, hplaces, -⟩ :=
    unique_keeps_firsts alikeItems []
  have hkept : unique (.array alikeItems) [] = .ok (.array keptItems) := rfl
  obtain rfl := Value.array.inj (Except.ok.inj (hunique.symm.trans hkept))
  exact ⟨hkeyed, hunique, hdistinct hkeyed, places, hplaces⟩

end Gleaner.Builtin
