import Gleaner.Proofs.Json.KeyOrder
import Gleaner.Proofs.Number.Whole
import Gleaner.Value.Encoding

/-!
# Values and their JSON documents

A value is encoded in two ways: as a document that is then written, and straight away as a text.
Both choose the same text for every value. What is read back of a document is a value again, in
which dates have become texts and numbers that are not finite null; encoding it once more changes
nothing.

## Main definitions

* `Value.normalized`: what is read back of the document of a value.
* `Value.ReadsBack`: a value beside another of the same outline, which differs from it as JSON
  makes it differ.
* `Value.parts`: a value and all values inside of it.

## Main results

* `Value.compactChars_toJson`: the two encoders write the same text.
* `Value.normalized_normalized`: reading back is idempotent.
* `Value.readsBack_normalized`: what reading back changes.
* `Value.equals_normalized`: a value that JSON can say is read back as an equal one.
-/

namespace Gleaner.Value

/-- Induction over a value, with the hypothesis at every item and every entry. -/
@[elab_as_elim]
theorem induction {motive : Value → Prop} (null : motive .null) (bool : ∀ b, motive (.bool b))
    (number : ∀ x, motive (.number x)) (string : ∀ s, motive (.string s))
    (date : ∀ t, motive (.date t))
    (array : ∀ items, (∀ v ∈ items, motive v) → motive (.array items))
    (object : ∀ fields, (∀ entry ∈ fields, motive entry.2) → motive (.object fields)) :
    ∀ v, motive v
  | .null => null
  | .bool b => bool b
  | .number x => number x
  | .string s => string s
  | .date t => date t
  | .array items => array items fun v _ => induction null bool number string date array object v
  | .object fields =>
    object fields fun entry _ => induction null bool number string date array object entry.2
termination_by v => sizeOf v
decreasing_by
  · have hitem := List.sizeOf_lt_of_mem ‹v ∈ items›
    simp only [Value.array.sizeOf_spec]
    omega
  · have hentry := List.sizeOf_lt_of_mem ‹entry ∈ fields›
    have hvalue : sizeOf entry.2 < sizeOf entry := by
      cases entry
      simp only [Prod.mk.sizeOf_spec]
      omega
    simp only [Value.object.sizeOf_spec]
    omega

/-! ### Lists of documents -/

theorem itemsToJson_eq_map (items : List Value) : itemsToJson items = items.map toJson := by
  induction items with
  | nil => rfl
  | cons v rest ih => rw [itemsToJson, ih, List.map_cons]

theorem fieldsToJson_eq_map (fields : List (String × Value)) :
    fieldsToJson fields = fields.map fun entry => (entry.1, entry.2.toJson) := by
  induction fields with
  | nil => rfl
  | cons entry rest ih => rw [fieldsToJson, ih, List.map_cons]

theorem itemsOfJson_eq_map (items : List Json) : itemsOfJson items = items.map ofJson := by
  induction items with
  | nil => rfl
  | cons j rest ih => rw [itemsOfJson, ih, List.map_cons]

theorem fieldsOfJson_eq_map (fields : List (String × Json)) :
    fieldsOfJson fields = fields.map fun entry => (entry.1, ofJson entry.2) := by
  induction fields with
  | nil => rfl
  | cons entry rest ih => rw [fieldsOfJson, ih, List.map_cons]

/-! ### One text -/

/-- The two encoders choose the same form for every number. -/
theorem compactChars_numberToJson (x : Double) :
    (numberToJson x).compactChars = encodeNumber x := by
  rw [numberToJson, encodeNumber]
  by_cases hsafe : x.isSafeInteger
  · simp only [hsafe, Double.isFinite_of_isSafeInteger hsafe, ↓reduceIte, Bool.and_self]
    rfl
  · simp only [hsafe, Bool.and_false, Bool.false_eq_true, ↓reduceIte, Json.ofReal]
    split <;> rfl

/-- Items whose texts agree are written alike. -/
theorem compactItems_map {items : List Value}
    (h : ∀ v ∈ items, v.toJson.compactChars = v.encode) :
    Json.compactItems (items.map toJson) = encodeItems items := by
  induction items with
  | nil => rfl
  | cons v rest ih =>
    rw [List.forall_mem_cons] at h
    cases rest with
    | nil => exact h.1
    | cons w rest =>
      -- a comma stands after every item but the last
      rw [encodeItems, ← ih h.2, ← h.1]
      · rfl
      · exact List.cons_ne_nil w rest

/-- Entries whose texts agree are written alike. -/
theorem compactFields_map {fields : List (String × Value)}
    (h : ∀ entry ∈ fields, entry.2.toJson.compactChars = entry.2.encode) :
    Json.compactFields (fields.map fun entry => (entry.1, entry.2.toJson)) =
      encodeFields fields := by
  induction fields with
  | nil => rfl
  | cons entry rest ih =>
    obtain ⟨key, v⟩ := entry
    rw [List.forall_mem_cons] at h
    cases rest with
    | nil =>
      rw [encodeFields, ← h.1]
      rfl
    | cons next rest =>
      rw [encodeFields, ← ih h.2, ← h.1]
      · rfl
      · exact List.cons_ne_nil next rest

/-- The document of a value is written as the text that the value is encoded as straight away. -/
theorem compactChars_toJson (v : Value) : v.toJson.compactChars = v.encode := by
  induction v using Value.induction with
  | null | bool | string | date => rfl
  | number x => exact compactChars_numberToJson x
  | array items ih =>
    rw [toJson, encode, Json.compactChars, itemsToJson_eq_map, compactItems_map ih]
  | object fields ih =>
    rw [toJson, encode, Json.compactChars, fieldsToJson_eq_map, compactFields_map ih]

/-! ### Reading back -/

/-- What is read back of the document of a value. -/
def normalized (v : Value) : Value := ofJson v.toJson

/-- A finite number is read back without the sign of a zero, any other number as null. -/
theorem normalized_number (x : Double) :
    (number x).normalized = if x.isFinite then .number x.dropZeroSign else .null := by
  rw [normalized, toJson, numberToJson]
  by_cases hsafe : x.isSafeInteger
  · rw [if_pos hsafe, if_pos (Double.isFinite_of_isSafeInteger hsafe), Json.ofInt, ofJson,
      Json.Number.toDouble, Double.ofInt_toSignedWord hsafe]
  · rw [if_neg hsafe, Json.ofReal]
    split
    next hfinite =>
      rw [ofJson, Json.Number.toDouble, Double.dropZeroSign_of_not_isSafeInteger hsafe]
    next => rfl

/-- An array is read back item by item. -/
theorem normalized_array (items : List Value) :
    (array items).normalized = .array (items.map normalized) := by
  rw [normalized, toJson, ofJson, itemsToJson_eq_map, itemsOfJson_eq_map, List.map_map]
  rfl

/-- An object is read back entry by entry. -/
theorem normalized_object (fields : List (String × Value)) :
    (object fields).normalized =
      .object (fields.map fun entry => (entry.1, entry.2.normalized)) := by
  rw [normalized, toJson, ofJson, fieldsToJson_eq_map, fieldsOfJson_eq_map, List.map_map]
  rfl

/-- What has been read back is read back as it is. -/
theorem normalized_normalized (v : Value) : v.normalized.normalized = v.normalized := by
  induction v using Value.induction with
  | null | bool | string | date => rfl
  | number x =>
    rw [normalized_number]
    split
    next hfinite =>
      rw [normalized_number, Double.isFinite_dropZeroSign, if_pos hfinite,
        Double.dropZeroSign_dropZeroSign]
    next => rfl
  | array items ih =>
    simp only [normalized_array, List.map_map, array.injEq, List.map_inj_left,
      Function.comp_apply]
    exact ih
  | object fields ih =>
    simp only [normalized_object, List.map_map, object.injEq, List.map_inj_left,
      Function.comp_apply, Prod.mk.injEq, true_and]
    exact ih

/-- The second value is the first one as JSON says it: arrays have the same length and objects the
same keys in the same order, dates are their ISO texts, numbers that are not finite are null, and a
zero has no sign. -/
inductive ReadsBack : Value → Value → Prop
  | null : ReadsBack .null .null
  | bool (b : Bool) : ReadsBack (.bool b) (.bool b)
  | finite {x : Double} (h : x.isFinite) : ReadsBack (.number x) (.number x.dropZeroSign)
  | notFinite {x : Double} (h : x.isFinite = false) : ReadsBack (.number x) .null
  | string (s : String) : ReadsBack (.string s) (.string s)
  | date (t : Calendar.Instant) : ReadsBack (.date t) (.string (.ofList t.iso))
  | array {xs ys : List Value} (h : List.Forall₂ ReadsBack xs ys) :
      ReadsBack (.array xs) (.array ys)
  | object {xs ys : List (String × Value)} (hkeys : xs.map (·.1) = ys.map (·.1))
      (h : List.Forall₂ ReadsBack (xs.map (·.2)) (ys.map (·.2))) :
      ReadsBack (.object xs) (.object ys)

/-- Reading back changes a value as JSON makes it change, at every depth. -/
theorem readsBack_normalized (v : Value) : v.ReadsBack v.normalized := by
  induction v using Value.induction with
  | null => exact .null
  | bool b => exact .bool b
  | number x =>
    rw [normalized_number]
    split
    next hfinite => exact .finite hfinite
    next hfinite => exact .notFinite (by simpa using hfinite)
  | string s => exact .string s
  | date t => exact .date t
  | array items ih =>
    rw [normalized_array]
    exact .array (List.forall₂_map_right_iff.2 (List.forall₂_same.2 ih))
  | object fields ih =>
    rw [normalized_object]
    refine .object (by simp) ?_
    simp only [List.map_map, List.forall₂_map_left_iff, List.forall₂_map_right_iff]
    exact List.forall₂_same.2 ih

/-! ### Equality -/

mutual

/-- A value and all values inside of it. -/
def parts : Value → List Value
  | .null => [.null]
  | .bool b => [.bool b]
  | .number x => [.number x]
  | .string s => [.string s]
  | .date t => [.date t]
  | .array items => .array items :: partsOfItems items
  | .object fields => .object fields :: partsOfFields fields

/-- The parts of the items of an array. -/
def partsOfItems : List Value → List Value
  | [] => []
  | v :: rest => v.parts ++ partsOfItems rest

/-- The parts of the values of an object. -/
def partsOfFields : List (String × Value) → List Value
  | [] => []
  | (_, v) :: rest => v.parts ++ partsOfFields rest

end

theorem partsOfItems_eq_flatMap (items : List Value) :
    partsOfItems items = items.flatMap parts := by
  induction items with
  | nil => rfl
  | cons v rest ih => rw [partsOfItems, ih, List.flatMap_cons]

theorem partsOfFields_eq_flatMap (fields : List (String × Value)) :
    partsOfFields fields = fields.flatMap (·.2.parts) := by
  induction fields with
  | nil => rfl
  | cons entry rest ih => rw [partsOfFields, ih, List.flatMap_cons]

/-- Whether the value itself is neither a date nor a number that is not finite. -/
def isPlain : Value → Bool
  | .date _ => false
  | .number x => x.isFinite
  | _ => true

/-- Whether no two entries of the value itself have the same key. -/
def hasDistinctKeys : Value → Bool
  | .object fields => decide (fields.map (·.1)).Nodup
  | _ => true

/-- Arrays with equal items are equal. -/
theorem equalItems_map {f : Value → Value} {items : List Value}
    (h : ∀ v ∈ items, (f v).equals v) : equalItems (items.map f) items := by
  induction items with
  | nil => rfl
  | cons v rest ih =>
    rw [List.forall_mem_cons] at h
    rw [List.map_cons, equalItems, h.1, ih h.2, Bool.and_self]

/-- Entries whose values are equal to those of an object are found in it. -/
theorem equalFields_map {f : Value → Value} {entries fields : List (String × Value)}
    (hkeys : (fields.map (·.1)).Nodup) (hentries : entries ⊆ fields)
    (h : ∀ entry ∈ entries, (f entry.2).equals entry.2) :
    equalFields (entries.map fun entry => (entry.1, f entry.2)) fields := by
  induction entries with
  | nil => rfl
  | cons entry rest ih =>
    rw [List.forall_mem_cons] at h
    rw [List.cons_subset] at hentries
    rw [List.map_cons, equalFields, lookup_eq_some_of_mem hkeys hentries.1, ih hentries.2 h.2]
    simpa using h.1

/-- A value without dates and with finite numbers only is read back as an equal value. -/
theorem equals_normalized {v : Value} (hplain : ∀ w ∈ v.parts, w.isPlain)
    (hkeys : ∀ w ∈ v.parts, w.hasDistinctKeys) : v.normalized.equals v := by
  induction v using Value.induction with
  | null => rfl
  | bool b => simp [normalized, toJson, ofJson, equals]
  | number x =>
    have hfinite : x.isFinite := hplain _ (List.mem_singleton_self _)
    rw [normalized_number, if_pos hfinite]
    exact Double.equals_dropZeroSign hfinite
  | string s => simp [normalized, toJson, ofJson, equals]
  | date t => exact absurd (hplain _ (List.mem_singleton_self _)) Bool.false_ne_true
  | array items ih =>
    rw [parts, partsOfItems_eq_flatMap] at hplain hkeys
    rw [normalized_array, equals]
    refine equalItems_map fun v hv => ih v hv (fun w hw => ?_) (fun w hw => ?_)
    · exact hplain w (List.mem_cons_of_mem _ (List.mem_flatMap.2 ⟨v, hv, hw⟩))
    · exact hkeys w (List.mem_cons_of_mem _ (List.mem_flatMap.2 ⟨v, hv, hw⟩))
  | object fields ih =>
    rw [parts, partsOfFields_eq_flatMap] at hplain hkeys
    have hnodup : (fields.map (·.1)).Nodup := of_decide_eq_true (hkeys _ List.mem_cons_self)
    have hfields : ∀ entry ∈ fields, entry.2.normalized.equals entry.2 := fun entry hentry =>
      ih entry hentry
        (fun w hw => hplain w (List.mem_cons_of_mem _ (List.mem_flatMap.2 ⟨entry, hentry, hw⟩)))
        (fun w hw => hkeys w (List.mem_cons_of_mem _ (List.mem_flatMap.2 ⟨entry, hentry, hw⟩)))
    rw [normalized_object, equals, List.length_map, beq_self_eq_true, Bool.true_and]
    exact equalFields_map hnodup (List.Subset.refl fields) hfields

/-- **Two encoders, one normal form.** The text of the document of a value is the text that the
value is encoded as straight away. What is read back of the document has the outline of the value,
with dates as texts and numbers that are not finite as null; it is read back as it is, and it equals
the value if nothing of the sort is in there. -/
theorem encoders_agree (v : Value) :
    v.jsonText = v.encoded ∧ v.normalized.normalized = v.normalized ∧
      v.ReadsBack v.normalized ∧
      ((∀ w ∈ v.parts, w.isPlain) → (∀ w ∈ v.parts, w.hasDistinctKeys) →
        v.normalized.equals v) := by
  refine ⟨?_, normalized_normalized v, readsBack_normalized v, equals_normalized⟩
  rw [jsonText, Json.compact, compactChars_toJson, encoded]

/-- A zero with a sign and the first integer that is not exact as a double, inside of an object. -/
def edgeNumbers : Value :=
  .object [("z", .array [.number (-0), .number 9007199254740992, .null]),
    ("a", .object [("m", .string "x"), ("b", .bool true)])]

/-- The numbers at the edges are read back as equal ones. -/
theorem encoders_agree_edgeNumbers :
    (∀ w ∈ edgeNumbers.parts, w.isPlain) ∧ (∀ w ∈ edgeNumbers.parts, w.hasDistinctKeys) ∧
      edgeNumbers.jsonText = edgeNumbers.encoded ∧ edgeNumbers.normalized.equals edgeNumbers := by
  have hplain : ∀ w ∈ edgeNumbers.parts, w.isPlain := by decide +kernel
  have hkeys : ∀ w ∈ edgeNumbers.parts, w.hasDistinctKeys := by decide +kernel
  obtain ⟨htext, -, -, hequals⟩ := encoders_agree edgeNumbers
  exact ⟨hplain, hkeys, htext, hequals hplain hkeys⟩

end Gleaner.Value
