import Gleaner.Proofs.Extract.FieldOrder
import Gleaner.Proofs.Value.Encoding

/-!
# Equality of values

Values are compared as deep as they go: numbers as numbers, arrays item by item, objects key by key
in any order. This is symmetric and transitive. It is no equivalence, because of the one number that
does not equal itself: a value equals itself exactly when NaN is nowhere in it. Where a value is NaN
free, the order of the keys in it does not count.

Values have distinct keys. A list of entries can have a key twice, and then the lookups of a
comparison miss the later entry, so the laws ask for distinct keys where they need them.

## Main definitions

* `Value.IsKeyed`: no object in a value has a key twice.
* `Value.IsNaNFree`: there is no NaN in a value.
* `Value.Shuffled`: the entries of objects stand in another order, at any depth.
* `Value.EqualContents`: values of one kind with equal contents.

## Main results

* `Double.equals_iff`: numbers are equal when they are at the same point.
* `Value.equals_iff_equalContents`: what it means for two values to be equal.
* `Value.equals_symm`, `Value.equals_trans`, `Value.equals_self_iff`: the laws of equality.
* `Value.Reordered.equals`: values in other orders are equal.
* `Value.equality_laws`: all of these together.
-/

namespace Gleaner

/-! ### Numbers -/

namespace Double

variable {x y z : Double}

/-- Where a number is: at an infinity, or at a number of units. NaN is nowhere, and the two zeros
are at the same point. -/
def point? : Double → Option (Bool ⊕ Int)
  | .nan => none
  | .infinite s => some (.inl s)
  | .finite s a => some (.inr (signedUnits s a))

/-- Numbers are equal when they are at the same point. -/
theorem equals_iff : x.equals y ↔ ∃ p, x.point? = some p ∧ y.point? = some p := by
  cases x with
  | nan => simp [equals, order, point?]
  | infinite s =>
    cases y with
    | nan | finite => cases s <;> simp [equals, order, point?]
    | infinite t => cases s <;> cases t <;> simp [equals, order, point?]
  | finite s a =>
    cases y with
    | nan => simp [equals, order, point?]
    | infinite t => cases t <;> simp [equals, order, point?]
    | finite t b =>
      have hunits : (finite s a).equals (finite t b) ↔ signedUnits s a = signedUnits t b := by
        refine Iff.trans ?_ compare_eq_iff_eq
        rw [equals, beq_iff_eq]
        exact Option.some_inj
      rw [hunits]
      simp [point?, eq_comm]

/-- Equality of numbers is symmetric. -/
theorem equals_symm (h : x.equals y) : y.equals x := by
  obtain ⟨p, hx, hy⟩ := equals_iff.1 h
  exact equals_iff.2 ⟨p, hy, hx⟩

/-- Equality of numbers is transitive. -/
theorem equals_trans (h : x.equals y) (h' : y.equals z) : x.equals z := by
  obtain ⟨p, hx, hy⟩ := equals_iff.1 h
  obtain ⟨q, hy', hz⟩ := equals_iff.1 h'
  obtain rfl : p = q := Option.some.inj (hy.symm.trans hy')
  exact equals_iff.2 ⟨p, hx, hz⟩

/-- Every number but NaN equals itself. -/
theorem equals_self_iff : x.equals x ↔ x.isNaN = false := by
  rw [equals_iff]
  cases x <;> simp [point?, isNaN]

end Double

namespace Value

variable {u v w : Value}

/-! ### Values with distinct keys and without NaN -/

/-- Whether the value itself is NaN. -/
def isNaN : Value → Bool
  | .number x => x.isNaN
  | _ => false

/-- No object in the value has a key twice. -/
def IsKeyed (v : Value) : Prop := ∀ w ∈ v.parts, w.hasDistinctKeys

/-- There is no NaN in the value. -/
def IsNaNFree (v : Value) : Prop := ∀ w ∈ v.parts, w.isNaN = false

instance (v : Value) : Decidable v.IsKeyed :=
  inferInstanceAs (Decidable (∀ w ∈ v.parts, w.hasDistinctKeys))

instance (v : Value) : Decidable v.IsNaNFree :=
  inferInstanceAs (Decidable (∀ w ∈ v.parts, w.isNaN = false))

/-- The parts of an array are the array and the parts of its items. -/
theorem forall_mem_parts_array {P : Value → Prop} {items : List Value} :
    (∀ w ∈ (array items).parts, P w) ↔
      P (.array items) ∧ ∀ v ∈ items, ∀ w ∈ v.parts, P w := by
  rw [parts, partsOfItems_eq_flatMap, List.forall_mem_cons, List.forall_mem_flatMap]

/-- The parts of an object are the object and the parts of its values. -/
theorem forall_mem_parts_object {P : Value → Prop} {fields : List (String × Value)} :
    (∀ w ∈ (object fields).parts, P w) ↔
      P (.object fields) ∧ ∀ entry ∈ fields, ∀ w ∈ entry.2.parts, P w := by
  rw [parts, partsOfFields_eq_flatMap, List.forall_mem_cons, List.forall_mem_flatMap]

theorem isKeyed_array {items : List Value} :
    (array items).IsKeyed ↔ ∀ v ∈ items, v.IsKeyed :=
  forall_mem_parts_array.trans (and_iff_right rfl)

theorem isKeyed_object {fields : List (String × Value)} :
    (object fields).IsKeyed ↔ (fields.map (·.1)).Nodup ∧ ∀ entry ∈ fields, entry.2.IsKeyed :=
  forall_mem_parts_object.trans (and_congr_left fun _ => decide_eq_true_iff)

theorem isNaNFree_array {items : List Value} :
    (array items).IsNaNFree ↔ ∀ v ∈ items, v.IsNaNFree :=
  forall_mem_parts_array.trans (and_iff_right rfl)

theorem isNaNFree_object {fields : List (String × Value)} :
    (object fields).IsNaNFree ↔ ∀ entry ∈ fields, entry.2.IsNaNFree :=
  forall_mem_parts_object.trans (and_iff_right rfl)

theorem isNaNFree_number {x : Double} : (number x).IsNaNFree ↔ x.isNaN = false :=
  List.forall_mem_singleton

/-! ### What it means to be equal -/

/-- The values are of one kind, and their contents are equal: items place by place, entries by
their keys. -/
inductive EqualContents : Value → Value → Prop
  | null : EqualContents .null .null
  | bool (b : Bool) : EqualContents (.bool b) (.bool b)
  | number {x y : Double} (h : x.equals y) : EqualContents (.number x) (.number y)
  | string (s : String) : EqualContents (.string s) (.string s)
  | date (t : Calendar.Instant) : EqualContents (.date t) (.date t)
  | array {xs ys : List Value} (h : List.Forall₂ (fun x y => x.equals y) xs ys) :
      EqualContents (.array xs) (.array ys)
  | object {xs ys : List (String × Value)} (hlength : xs.length = ys.length)
      (h : ∀ entry ∈ xs, ∃ y, ys.lookup entry.1 = some y ∧ entry.2.equals y) :
      EqualContents (.object xs) (.object ys)

/-- Arrays are compared item by item. -/
theorem equalItems_iff {xs ys : List Value} :
    equalItems xs ys ↔ List.Forall₂ (fun x y => x.equals y) xs ys := by
  induction xs generalizing ys with
  | nil => cases ys <;> simp [equalItems]
  | cons x xs ih => cases ys <;> simp [equalItems, ih]

/-- Each entry of the first list has an equal value under its key in the second. -/
theorem equalFields_iff {xs ys : List (String × Value)} :
    equalFields xs ys ↔ ∀ entry ∈ xs, ∃ y, ys.lookup entry.1 = some y ∧ entry.2.equals y := by
  induction xs with
  | nil => simp [equalFields]
  | cons entry xs ih =>
    rw [equalFields, Bool.and_eq_true, ih, List.forall_mem_cons]
    refine and_congr_left fun _ => ?_
    cases ys.lookup entry.1 <;> simp

/-- Two values are equal exactly when they are of one kind with equal contents. -/
theorem equals_iff_equalContents : v.equals w ↔ v.EqualContents w := by
  constructor
  · intro h
    -- values of two kinds are never equal, which leaves the pairs of one kind
    cases v <;> cases w <;> try cases h
    case null.null.refl => exact .null
    case bool.bool =>
      obtain rfl := beq_iff_eq.1 h
      exact .bool _
    case number.number => exact .number h
    case string.string =>
      obtain rfl := beq_iff_eq.1 h
      exact .string _
    case date.date =>
      obtain rfl := of_decide_eq_true h
      exact .date _
    case array.array => exact .array (equalItems_iff.1 h)
    case object.object =>
      rw [equals, Bool.and_eq_true, beq_iff_eq] at h
      exact .object h.1 (equalFields_iff.1 h.2)
  · intro h
    cases h with
    | null => rfl
    | bool b => exact beq_self_eq_true b
    | number h => exact h
    | string s => exact beq_self_eq_true s
    | date t => exact decide_eq_true rfl
    | array h => exact equalItems_iff.2 h
    | object hlength h =>
      rw [equals, Bool.and_eq_true, beq_iff_eq]
      exact ⟨hlength, equalFields_iff.2 h⟩

/-- Arrays are equal when they have equal items in the same places. -/
theorem equals_array_iff {xs ys : List Value} :
    (array xs).equals (.array ys) ↔ List.Forall₂ (fun x y => x.equals y) xs ys :=
  equalItems_iff

section Objects

variable {xs ys : List (String × Value)}

/-- Equal objects have the same keys. -/
theorem perm_keys_of_equals (hxs : (xs.map (·.1)).Nodup) (h : (object xs).equals (.object ys)) :
    (xs.map (·.1)).Perm (ys.map (·.1)) := by
  cases equals_iff_equalContents.1 h with
  | object hlength hentries =>
    have hsubset : xs.map (·.1) ⊆ ys.map (·.1) := by
      intro key hkey
      obtain ⟨entry, hentry, rfl⟩ := List.mem_map.1 hkey
      obtain ⟨y, hlookup, -⟩ := hentries entry hentry
      by_contra hnone
      rw [lookup_eq_none_of_notMem hnone] at hlookup
      cases hlookup
    -- there are as many keys on either side, so none is left over
    exact (hxs.subperm hsubset).perm_of_length_le (by simp [hlength])

/-- Objects are equal when they have the same keys with equal values. -/
theorem equals_object_iff (hxs : (xs.map (·.1)).Nodup) (hys : (ys.map (·.1)).Nodup) :
    (object xs).equals (.object ys) ↔
      (∀ key, key ∈ xs.map (·.1) ↔ key ∈ ys.map (·.1)) ∧
        ∀ key x y, (key, x) ∈ xs → (key, y) ∈ ys → x.equals y := by
  constructor
  · intro h
    refine ⟨fun key => (perm_keys_of_equals hxs h).mem_iff, fun key x y hx hy => ?_⟩
    cases equals_iff_equalContents.1 h with
    | object _ hentries =>
      obtain ⟨y', hlookup, hequals⟩ := hentries (key, x) hx
      obtain rfl : y' = y :=
        Option.some.inj (hlookup.symm.trans (lookup_eq_some_of_mem hys hy))
      exact hequals
  · rintro ⟨hkeys, hvalues⟩
    have hlength := ((List.perm_ext_iff_of_nodup hxs hys).2 hkeys).length_eq
    refine equals_iff_equalContents.2 (.object (by simpa using hlength) ?_)
    rintro ⟨key, x⟩ hx
    obtain ⟨entry, hy, rfl⟩ := List.mem_map.1 ((hkeys key).1 (List.mem_map_of_mem hx))
    exact ⟨entry.2, lookup_eq_some_of_mem hys hy, hvalues _ _ _ hx hy⟩

end Objects

/-! ### The laws -/

/-- What holds of related items of two lists holds of the lists. -/
theorem forall₂_imp_of_mem {R S : Value → Value → Prop} {xs ys : List Value}
    (himp : ∀ x ∈ xs, ∀ y, R x y → S x y) (h : List.Forall₂ R xs ys) : List.Forall₂ S xs ys :=
  ((List.forall₂_and_left xs ys).2 ⟨himp, h⟩).imp fun _ y hxy => hxy.1 y hxy.2

/-- A value equals those that equal it. -/
theorem equals_symm (hv : v.IsKeyed) (h : v.equals w) : w.equals v := by
  induction v using Value.induction generalizing w with
  | null | bool | string | date =>
    obtain ⟨⟩ := equals_iff_equalContents.1 h
    exact h
  | number x =>
    obtain _ | _ | hx := equals_iff_equalContents.1 h
    exact Double.equals_symm hx
  | array xs ih =>
    rw [isKeyed_array] at hv
    cases equals_iff_equalContents.1 h with
    | array hitems =>
      refine equals_array_iff.2 (List.Forall₂.flip ?_)
      exact forall₂_imp_of_mem (fun x hx y hxy => ih x hx (hv x hx) hxy) hitems
  | object xs ih =>
    obtain ⟨hxs, hvalues⟩ := isKeyed_object.1 hv
    cases w with
    | object ys =>
      have hys := (perm_keys_of_equals hxs h).nodup_iff.1 hxs
      obtain ⟨hkeys, hentries⟩ := (equals_object_iff hxs hys).1 h
      refine (equals_object_iff hys hxs).2 ⟨fun key => (hkeys key).symm, ?_⟩
      exact fun key y x hy hx => ih _ hx (hvalues _ hx) (hentries key x y hx hy)
    | null | bool | number | string | date | array => cases h

/-- Values with distinct keys are equal in either direction. -/
theorem equals_comm (hv : v.IsKeyed) (hw : w.IsKeyed) : v.equals w = w.equals v :=
  Bool.eq_iff_iff.2 ⟨equals_symm hv, equals_symm hw⟩

/-- Values that are equal to the same one are equal. -/
theorem equals_trans (h : u.equals v) (h' : v.equals w) : u.equals w := by
  induction u using Value.induction generalizing v w with
  | null | bool | string | date =>
    obtain ⟨⟩ := equals_iff_equalContents.1 h
    exact h'
  | number x =>
    cases equals_iff_equalContents.1 h with
    | number hxy =>
      cases equals_iff_equalContents.1 h' with
      | number hyz => exact Double.equals_trans hxy hyz
  | array xs ih =>
    cases equals_iff_equalContents.1 h with
    | array hxy =>
      cases equals_iff_equalContents.1 h' with
      | array hyz =>
        rw [List.forall₂_iff_get] at hxy hyz
        refine equals_array_iff.2 (List.forall₂_iff_get.2 ⟨hxy.1.trans hyz.1, fun i hx hz => ?_⟩)
        have hy := hxy.1 ▸ hx
        exact ih _ (List.get_mem _ _) (hxy.2 i hx hy) (hyz.2 i hy hz)
  | object xs ih =>
    cases equals_iff_equalContents.1 h with
    | object hlength hxy =>
      cases equals_iff_equalContents.1 h' with
      | object hlength' hyz =>
        refine equals_iff_equalContents.2 (.object (hlength.trans hlength') ?_)
        intro entry hentry
        -- the entry's counterpart in the second object has its own in the third
        obtain ⟨y, hy, hequals⟩ := hxy entry hentry
        obtain ⟨before, after, rfl, -⟩ := List.lookup_eq_some_iff.1 hy
        obtain ⟨z, hz, hequals'⟩ := hyz (entry.1, y) (by simp)
        exact ⟨z, hz, ih entry hentry hequals hequals'⟩

/-- A value equals itself exactly when there is no NaN in it. -/
theorem equals_self_iff (hv : v.IsKeyed) : v.equals v ↔ v.IsNaNFree := by
  induction v using Value.induction with
  | null | bool | string | date => simp [equals, IsNaNFree, parts, isNaN]
  | number x => exact Double.equals_self_iff.trans isNaNFree_number.symm
  | array xs ih =>
    rw [isKeyed_array] at hv
    rw [equals_array_iff, List.forall₂_same, isNaNFree_array]
    exact forall₂_congr fun x hx => ih x hx (hv x hx)
  | object xs ih =>
    obtain ⟨hxs, hvalues⟩ := isKeyed_object.1 hv
    rw [equals_object_iff hxs hxs, isNaNFree_object]
    constructor
    · rintro ⟨-, hentries⟩ entry hentry
      exact (ih entry hentry (hvalues entry hentry)).1 (hentries _ _ _ hentry hentry)
    · refine fun hfree => ⟨fun key => Iff.rfl, fun key x y hx hy => ?_⟩
      obtain rfl : x = y :=
        Option.some.inj ((lookup_eq_some_of_mem hxs hx).symm.trans (lookup_eq_some_of_mem hxs hy))
      exact (ih _ hx (hvalues _ hx)).2 (hfree _ hx)

/-! ### The order of keys -/

/-- The entries of objects stand in another order, at any depth; else nothing is changed. -/
inductive Shuffled : Value → Value → Prop
  /-- Nothing stands elsewhere. -/
  | refl (v : Value) : Shuffled v v
  /-- Something stands elsewhere in the items of an array. -/
  | array {xs ys : List Value} (h : List.Forall₂ Shuffled xs ys) :
      Shuffled (.array xs) (.array ys)
  /-- Something stands elsewhere in the values of an object, and then so do its entries. -/
  | object {xs ys zs : List (String × Value)} (hkeys : xs.map (·.1) = ys.map (·.1))
      (h : List.Forall₂ Shuffled (xs.map (·.2)) (ys.map (·.2))) (hperm : ys.Perm zs) :
      Shuffled (.object xs) (.object zs)

/-- Under the same keys in the same order, related values are found. -/
theorem rel_lookup_of_forall₂ {R : Value → Value → Prop} {xs ys : List (String × Value)}
    (hkeys : xs.map (·.1) = ys.map (·.1)) (h : List.Forall₂ R (xs.map (·.2)) (ys.map (·.2)))
    (key : String) : Option.Rel R (xs.lookup key) (ys.lookup key) := by
  induction xs generalizing ys with
  | nil =>
    obtain rfl := List.map_eq_nil_iff.1 hkeys.symm
    exact .none
  | cons x xs ih =>
    cases ys with
    | nil => cases hkeys
    | cons y ys =>
      rw [List.map_cons, List.map_cons, List.cons.injEq] at hkeys
      rw [List.map_cons, List.map_cons, List.forall₂_cons] at h
      rw [List.lookup_cons, List.lookup_cons, hkeys.1]
      split
      · exact .some h.1
      · exact ih hkeys.2 h.2

/-- A value and what shuffling makes of it are the same up to the order of keys. -/
theorem Shuffled.reordered (h : v.Shuffled w) (hv : v.IsKeyed) : v.Reordered w := by
  induction v using Value.induction generalizing w with
  | null | bool | number | string | date =>
    cases h
    exact .refl _
  | array xs ih =>
    rw [isKeyed_array] at hv
    cases h with
    | refl => exact .refl _
    | array hitems =>
      exact .array (forall₂_imp_of_mem (fun x hx y hxy => ih x hx hxy (hv x hx)) hitems)
  | object xs ih =>
    obtain ⟨hxs, hvalues⟩ := isKeyed_object.1 hv
    cases h with
    | refl => exact .refl _
    | @object _ ys zs hkeys hentries hperm =>
      have hys : (ys.map (·.1)).Nodup := hkeys ▸ hxs
      refine .object hxs ((hperm.map _).nodup_iff.1 hys) fun key => ?_
      rw [← lookup_eq_of_perm hperm hys]
      refine rel_lookup_of_forall₂ hkeys (forall₂_imp_of_mem (fun x hx y hxy => ?_) hentries) key
      obtain ⟨entry, hentry, rfl⟩ := List.mem_map.1 hx
      exact ih entry hentry hxy (hvalues entry hentry)

/-- Without NaN in them, values that are the same up to the order of keys are equal. -/
theorem Reordered.equals (h : v.Reordered w) (hv : v.IsKeyed) (hfree : v.IsNaNFree) :
    v.equals w := by
  induction v using Value.induction generalizing w with
  | null | bool | number | string | date =>
    cases h
    exact (equals_self_iff hv).2 hfree
  | array xs ih =>
    cases h with
    | refl => exact (equals_self_iff hv).2 hfree
    | array hitems =>
      rw [isKeyed_array] at hv
      rw [isNaNFree_array] at hfree
      refine equals_array_iff.2 (forall₂_imp_of_mem (fun x hx y hxy => ?_) hitems)
      exact ih x hx hxy (hv x hx) (hfree x hx)
  | object xs ih =>
    cases h with
    | refl => exact (equals_self_iff hv).2 hfree
    | object hxs hys hlookups =>
      obtain ⟨-, hvalues⟩ := isKeyed_object.1 hv
      rw [isNaNFree_object] at hfree
      refine (equals_object_iff hxs hys).2 ⟨fun key => ?_, fun key x y hx hy => ?_⟩
      · rw [← isSome_lookup_iff, ← isSome_lookup_iff, isSome_eq_of_rel (hlookups key)]
      · have hrel := hlookups key
        rw [lookup_eq_some_of_mem hxs hx, lookup_eq_some_of_mem hys hy] at hrel
        cases hrel with
        | some hxy => exact ih _ hx hxy (hvalues _ hx) (hfree _ hx)

/-- **Equality of values.** Between values with distinct keys it is symmetric and transitive, and a
value equals itself exactly when there is no NaN in it, at whatever depth. Without NaN, a value
equals what becomes of it when the entries of its objects are put in other orders. Arrays are equal
when they have equal items in the same places; objects are equal when they have the same keys with
equal values; and neither equals a value of another kind. -/
theorem equality_laws (hv : v.IsKeyed) (hw : w.IsKeyed) :
    v.equals w = w.equals v ∧
      (∀ u : Value, u.equals v → v.equals w → u.equals w) ∧
      (v.equals v ↔ v.IsNaNFree) ∧
      (v.IsNaNFree → ∀ w, v.Shuffled w → v.equals w) ∧
      (∀ xs, v = .array xs →
        (v.equals w ↔ ∃ ys, w = .array ys ∧ List.Forall₂ (fun x y => x.equals y) xs ys)) ∧
      ∀ xs, v = .object xs →
        (v.equals w ↔ ∃ ys, w = .object ys ∧ (∀ key, key ∈ xs.map (·.1) ↔ key ∈ ys.map (·.1)) ∧
          ∀ key x y, (key, x) ∈ xs → (key, y) ∈ ys → x.equals y) := by
  refine ⟨equals_comm hv hw, fun _ => equals_trans, equals_self_iff hv,
    fun hfree w hshuffled => (hshuffled.reordered hv).equals hv hfree, ?_, ?_⟩
  · rintro xs rfl
    cases w with
    | array ys => simp [equals_array_iff]
    | null | bool | number | string | date | object => simp [equals]
  · rintro xs rfl
    cases w with
    | object ys => simp [equals_object_iff (isKeyed_object.1 hv).1 (isKeyed_object.1 hw).1]
    | null | bool | number | string | date | array => simp [equals]

/-- A record with a list, and an object in the list. -/
def record : Value :=
  .object [("name", .string "a"),
    ("sizes", .array [.number 1, .object [("x", .null), ("y", .bool true)]])]

/-- The record with its entries and those of the object in it in other orders. -/
def shuffledRecord : Value :=
  .object [("sizes", .array [.number 1, .object [("y", .bool true), ("x", .null)]]),
    ("name", .string "a")]

theorem shuffled_record : record.Shuffled shuffledRecord := by
  have hinner : Shuffled (.object [("x", .null), ("y", .bool true)])
      (.object [("y", .bool true), ("x", .null)]) :=
    .object rfl (.cons (.refl _) (.cons (.refl _) .nil)) (.swap _ _ _)
  have hsizes := Shuffled.array (.cons (.refl (.number 1)) (.cons hinner .nil))
  -- first the values change under their keys, then the entries change places
  refine @Shuffled.object _ [("name", .string "a"),
    ("sizes", .array [.number 1, .object [("y", .bool true), ("x", .null)]])] _ rfl ?_ (.swap _ _ _)
  exact .cons (.refl _) (.cons hsizes .nil)

/-- A record equals itself in other orders at two depths, but not when NaN is beside it. -/
theorem equality_laws_record :
    (record.IsKeyed ∧ shuffledRecord.IsKeyed ∧ record.equals shuffledRecord ∧
      shuffledRecord.equals record) ∧
      (array [record, .number .nan]).IsKeyed ∧
        ¬(array [record, .number .nan]).equals (.array [record, .number .nan]) := by
  have hrecord : record.IsKeyed := by decide +kernel
  have hshuffled : shuffledRecord.IsKeyed := by decide +kernel
  have hnan : (array [record, .number .nan]).IsKeyed := by decide +kernel
  have hfree : record.IsNaNFree := by decide +kernel
  obtain ⟨hcomm, -, -, hequals, -⟩ := equality_laws hrecord hshuffled
  obtain ⟨-, -, hself, -⟩ := equality_laws hnan hnan
  have heq := hequals hfree shuffledRecord shuffled_record
  refine ⟨⟨hrecord, hshuffled, heq, hcomm ▸ heq⟩, hnan, ?_⟩
  rw [hself]
  decide +kernel

end Value
end Gleaner
