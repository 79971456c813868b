import Gleaner.Proofs.Extract.Assembly
import Gleaner.Proofs.Extract.Typing

/-!
# The order of fields

The fields of an object are resolved independently of each other, and what they give is put
together by keys. So they may stand in any order: the result is the same but for the order of its
keys. This asks that no key comes from two flat fields, since then the later of them wins, and that
no transform sees a whole object.

## Main definitions

* `Value.Reordered`, `Schema.Reordered`: values with other orders of keys, and schemas with other
  orders of fields, at any depth.
* `Alike`: two computations with related results, or that both fail.
* `Schema.NoObjTransforms`: no object of a schema has transforms.
* `Clashes`: resolving a schema comes to an object with a key that two of its flat fields give.

## Main results

* `rel_lookup_assemble`: objects that are put together from results in other orders.
* `resolveFields_reordered`, `Placement.run_alike`: fields, and the nodes that a scope leads to.
* `resolve_reordered`: the order of fields decides the order of keys only.
-/

namespace Gleaner

variable {Node : Type}

/-! ### Values and schemas in other orders -/

/-- The values are the same up to the order of the keys of objects, at any depth. -/
inductive Value.Reordered : Value → Value → Prop
  /-- Nothing stands elsewhere. -/
  | refl (v : Value) : Reordered v v
  /-- The items of an array keep their places. -/
  | array {xs ys : List Value} (h : List.Forall₂ Reordered xs ys) :
      Reordered (.array xs) (.array ys)
  /-- The entries of an object, of which no two have the same key, may stand in any order. -/
  | object {xs ys : List (String × Value)} (hnodup : (xs.map (·.1)).Nodup)
      (hnodup' : (ys.map (·.1)).Nodup)
      (h : ∀ key, Option.Rel Reordered (xs.lookup key) (ys.lookup key)) :
      Reordered (.object xs) (.object ys)

/-- The schemas are the same up to the order of the fields of objects, at any depth. -/
inductive Schema.Reordered : Schema → Schema → Prop
  /-- A value has no fields. -/
  | value (choice : QueryChoice) (kind : ValueKind) (options : SchemaOptions) :
      Reordered (.value choice kind options) (.value choice kind options)
  /-- The fields of an object, of which no two have the same key, may stand in any order. -/
  | object {fields fields' : List (String × Schema)} (options : SchemaOptions)
      (objTransforms : List Transform) (enabled : Bool)
      (hkeys : (fields.map (·.1)).Perm (fields'.map (·.1))) (hnodup : (fields.map (·.1)).Nodup)
      (h : ∀ key field field', (key, field) ∈ fields → (key, field') ∈ fields' →
        Reordered field field') :
      Reordered (.object fields options objTransforms enabled)
        (.object fields' options objTransforms enabled)

/-- No object of the schema has transforms. -/
inductive Schema.NoObjTransforms : Schema → Prop
  | value (choice : QueryChoice) (kind : ValueKind) (options : SchemaOptions) :
      NoObjTransforms (.value choice kind options)
  | object {fields : List (String × Schema)} (options : SchemaOptions) (enabled : Bool)
      (h : ∀ entry ∈ fields, NoObjTransforms entry.2) :
      NoObjTransforms (.object fields options [] enabled)

/-- The order of fields leaves the options of a schema as they are. -/
theorem Schema.Reordered.options_eq {schema schema' : Schema} (h : schema.Reordered schema') :
    schema.options = schema'.options := by
  cases h <;> rfl

/-- Only null is null in another order. -/
theorem Value.Reordered.isNull_eq {v w : Value} (h : v.Reordered w) : v.isNull = w.isNull := by
  cases h <;> rfl

/-- Two computations have related results, or both fail, for whatever reason. -/
inductive Alike {ε α β : Type} (R : α → β → Prop) : Except ε α → Except ε β → Prop
  | ok {v : α} {w : β} (h : R v w) : Alike R (.ok v) (.ok w)
  | error (e e' : ε) : Alike R (.error e) (.error e')

/-- Computations that are alike both succeed or both fail. -/
theorem Alike.ok_or_error {ε α β : Type} {R : α → β → Prop} {a : Except ε α} {b : Except ε β}
    (h : Alike R a b) :
    (∃ v w, a = .ok v ∧ b = .ok w ∧ R v w) ∨ ∃ e e', a = .error e ∧ b = .error e' := by
  cases h with
  | ok h => exact .inl ⟨_, _, rfl, rfl, h⟩
  | error e e' => exact .inr ⟨e, e', rfl, rfl⟩

theorem isSome_eq_of_rel {α β : Type} {R : α → β → Prop} {a : Option α} {b : Option β}
    (h : Option.Rel R a b) : a.isSome = b.isSome := by
  cases h <;> rfl

theorem exists_of_rel_some {α β : Type} {R : α → β → Prop} {v : α} {b : Option β}
    (h : Option.Rel R (some v) b) : ∃ w, b = some w ∧ R v w := by
  cases h with
  | some h => exact ⟨_, rfl, h⟩

theorem rel_or {α β : Type} {R : α → β → Prop} {a c : Option α} {b d : Option β}
    (h : Option.Rel R a b) (h' : Option.Rel R c d) : Option.Rel R (a.or c) (b.or d) := by
  cases h with
  | none => exact h'
  | some h => exact .some h

/-! ### What flat fields give -/

namespace FieldResult

/-- The result is an object of a flat field that has a key. -/
def Contributes (r : FieldResult) (key : String) : Prop :=
  ∃ inner, r.merged = some inner ∧ key ∈ inner.map (·.1)

/-- The value of a key in the object of a flat field, of repeated ones the last. -/
def contributed (r : FieldResult) (key : String) : Option Value :=
  (r.merged.getD []).reverse.lookup key

/-- The value of a key as the result of a field that is not merged. -/
def kept (r : FieldResult) (key : String) : Option Value :=
  if r.merged = none ∧ r.key = key then some r.value else none

/-- Results of the same field, that are the same up to the order of keys. -/
structure Reordered (r r' : FieldResult) : Prop where
  key_eq : r.key = r'.key
  flat_eq : r.flat = r'.flat
  value : r.value.Reordered r'.value

variable {r r' : FieldResult} {key : String}

/-- Only flat fields contribute. -/
theorem Contributes.flat (h : r.Contributes key) : r.flat = true := by
  obtain ⟨inner, hmerged, -⟩ := h
  cases hflat : r.flat with
  | true => rfl
  | false => simp [merged, hflat] at hmerged

/-- A key with a value is one that the field contributes. -/
theorem contributes_of_contributed_eq_some {v : Value} (h : r.contributed key = some v) :
    r.Contributes key := by
  rw [contributed] at h
  cases hmerged : r.merged with
  | none => simp [hmerged] at h
  | some inner =>
    refine ⟨inner, hmerged, ?_⟩
    by_contra hkey
    have hnone : inner.reverse.lookup key = none := by
      refine lookup_eq_none_of_notMem ?_
      simpa using hkey
    simp [hmerged, hnone] at h

/-- Only the field with the key has a value for it. -/
theorem key_of_isSome_kept (h : (r.kept key).isSome) : r.key = key := by
  rw [kept] at h
  split at h
  next hkept => exact hkept.2
  next => cases h

/-- Whether a result is merged does not depend on the order of keys, and neither does what it
contributes. -/
theorem Reordered.merged_cases (h : r.Reordered r') :
    (r.merged = none ∧ r'.merged = none) ∨ ∃ inner inner', r.merged = some inner ∧
      r'.merged = some inner' ∧ (Value.object inner).Reordered (.object inner') := by
  obtain ⟨key, flat, value⟩ := r
  obtain ⟨key', flat', value'⟩ := r'
  obtain ⟨rfl, rfl, hvalue⟩ := h
  dsimp only at hvalue
  cases flat with
  | false => exact .inl ⟨rfl, rfl⟩
  | true =>
    cases hvalue with
    | refl =>
      cases value with
      | object inner => exact .inr ⟨inner, inner, rfl, rfl, .refl _⟩
      | _ => exact .inl ⟨rfl, rfl⟩
    | array hitems => exact .inl ⟨rfl, rfl⟩
    | object hnodup hnodup' hentries =>
      exact .inr ⟨_, _, rfl, rfl, .object hnodup hnodup' hentries⟩

end FieldResult

/-- Entries in other orders are looked up alike. -/
theorem Value.Reordered.rel_lookup_reverse {xs ys : List (String × Value)}
    (h : (Value.object xs).Reordered (.object ys)) (key : String) :
    Option.Rel Value.Reordered (xs.reverse.lookup key) (ys.reverse.lookup key) := by
  cases h with
  | refl =>
    cases xs.reverse.lookup key with
    | none => exact .none
    | some v => exact .some (.refl v)
  | object hnodup hnodup' hentries =>
    rw [lookup_reverse_of_nodup hnodup, lookup_reverse_of_nodup hnodup']
    exact hentries key

/-- What a flat field contributes is the same up to the order of keys. -/
theorem FieldResult.Reordered.rel_contributed {r r' : FieldResult} (h : r.Reordered r')
    (key : String) :
    Option.Rel Value.Reordered (r.contributed key) (r'.contributed key) := by
  rcases h.merged_cases with ⟨hr, hr'⟩ | ⟨inner, inner', hr, hr', hinner⟩
  · rw [contributed, contributed, hr, hr']
    exact .none
  · rw [contributed, contributed, hr, hr']
    exact hinner.rel_lookup_reverse key

/-- And so is the result of a field that is not merged. -/
theorem FieldResult.Reordered.rel_kept {r r' : FieldResult} (h : r.Reordered r') (key : String) :
    Option.Rel Value.Reordered (r.kept key) (r'.kept key) := by
  have hmerged : r.merged = none ↔ r'.merged = none := by
    rcases h.merged_cases with ⟨hr, hr'⟩ | ⟨inner, inner', hr, hr', -⟩ <;> simp [hr, hr']
  simp only [kept, hmerged, h.key_eq]
  split
  · exact .some h.value
  · exact .none

/-! ### Objects put together from results in other orders -/

/-- What is looked up among the flat objects is what the last of them contributes. -/
theorem lookup_contributedEntries (results : List FieldResult) (key : String) :
    (contributedEntries results).reverse.lookup key =
      results.reverse.findSome? (·.contributed key) := by
  induction results with
  | nil => rfl
  | cons r rest ih =>
    rw [contributedEntries, List.flatMap_cons, List.reverse_append, List.lookup_append,
      ← contributedEntries, ih, List.reverse_cons, List.findSome?_append, List.findSome?_singleton,
      FieldResult.contributed]

/-- What is looked up among the other fields is the result of the last one with the key. -/
theorem lookup_keptEntries (results : List FieldResult) (key : String) :
    (keptEntries results).reverse.lookup key = results.reverse.findSome? (·.kept key) := by
  induction results with
  | nil => rfl
  | cons r rest ih =>
    rw [List.reverse_cons, List.findSome?_append, List.findSome?_singleton, ← ih,
      FieldResult.kept]
    cases hmerged : r.merged with
    | some inner =>
      rw [keptEntries, List.filter_cons_of_neg (by simp [hmerged]), ← keptEntries]
      simp
    | none =>
      rw [keptEntries, List.filter_cons_of_pos (by simp [hmerged]), List.map_cons, ← keptEntries,
        List.reverse_cons, List.lookup_append]
      congr 1
      by_cases hkey : key = r.key
      · simp [hkey]
      · simp [List.lookup_cons, beq_eq_false_iff_ne.2 hkey, Ne.symm hkey]

/-- The results of the fields of an object in two orders. -/
structure Matched (results results' : List FieldResult) : Prop where
  nodup : (results.map (·.key)).Nodup
  nodup' : (results'.map (·.key)).Nodup
  left : ∀ r ∈ results, ∃ r' ∈ results', r.Reordered r'
  right : ∀ r' ∈ results', ∃ r ∈ results, r.Reordered r'

namespace Matched

variable {results results' : List FieldResult}

theorem reverse (h : Matched results results') : Matched results.reverse results'.reverse where
  nodup := by simpa using List.nodup_reverse.2 h.nodup
  nodup' := by simpa using List.nodup_reverse.2 h.nodup'
  left r hr := by simpa using h.left r (List.mem_reverse.1 hr)
  right r' hr' := by simpa using h.right r' (List.mem_reverse.1 hr')

/-- Of something that only one field has, the same is found in either order. -/
theorem rel_findSome? (h : Matched results results') {f : FieldResult → Option Value}
    (hrel : ∀ r r', r.Reordered r' → Option.Rel Value.Reordered (f r) (f r'))
    (hunique : ∀ r ∈ results, ∀ s ∈ results, (f r).isSome → (f s).isSome → r.key = s.key) :
    Option.Rel Value.Reordered (results.findSome? f) (results'.findSome? f) := by
  cases hfound : results.findSome? f with
  | none =>
    -- none of the fields has it, and so none of their counterparts
    have hnone : results'.findSome? f = none := by
      rw [List.findSome?_eq_none_iff] at hfound ⊢
      intro r' hr'
      obtain ⟨r, hr, hmatch⟩ := h.right r' hr'
      have hsome := isSome_eq_of_rel (hrel r r' hmatch)
      rw [hfound r hr] at hsome
      exact Option.isSome_eq_false_iff.1 hsome.symm |> Option.isNone_iff_eq_none.1
    rw [hnone]
    exact .none
  | some v =>
    -- the field that has it has a counterpart, which is the one that is found in the other order
    obtain ⟨r, hr, hv⟩ := List.exists_of_findSome?_eq_some hfound
    obtain ⟨r', hr', hmatch⟩ := h.left r hr
    obtain ⟨w, hw, hvw⟩ := exists_of_rel_some (hv ▸ hrel r r' hmatch)
    obtain ⟨w', hw'⟩ : ∃ w', results'.findSome? f = some w' := by
      rw [← Option.isSome_iff_exists, List.findSome?_isSome_iff]
      exact ⟨r', hr', by simp [hw]⟩
    obtain ⟨s', hs', hsw⟩ := List.exists_of_findSome?_eq_some hw'
    obtain ⟨s, hs, hmatch'⟩ := h.right s' hs'
    have hkey : r'.key = s'.key := by
      rw [← hmatch.key_eq, ← hmatch'.key_eq]
      refine hunique r hr s hs (by simp [hv]) ?_
      simp [isSome_eq_of_rel (hrel s s' hmatch'), hsw]
    obtain rfl : r' = s' := List.inj_on_of_nodup_map h.nodup' hr' hs' hkey
    rw [hw', ← hsw, hw]
    exact .some hvw

/-- Objects that are put together from results in two orders have the same entries, if no key comes
from two flat fields. -/
theorem rel_lookup_assemble (h : Matched results results')
    (hclash : ∀ r ∈ results, ∀ s ∈ results, ∀ key, r.Contributes key → s.Contributes key →
      r.key = s.key) (key : String) :
    Option.Rel Value.Reordered ((assemble results).lookup key)
      ((assemble results').lookup key) := by
  have hcontributed : Option.Rel Value.Reordered
      (results.reverse.findSome? (·.contributed key))
      (results'.reverse.findSome? (·.contributed key)) := by
    refine h.reverse.rel_findSome? (fun r r' hmatch => hmatch.rel_contributed key)
      fun r hr s hs hrsome hssome => ?_
    obtain ⟨v, hv⟩ := Option.isSome_iff_exists.1 hrsome
    obtain ⟨w, hw⟩ := Option.isSome_iff_exists.1 hssome
    exact hclash r (List.mem_reverse.1 hr) s (List.mem_reverse.1 hs) key
      (FieldResult.contributes_of_contributed_eq_some hv)
      (FieldResult.contributes_of_contributed_eq_some hw)
  have hkept : Option.Rel Value.Reordered (results.reverse.findSome? (·.kept key))
      (results'.reverse.findSome? (·.kept key)) :=
    h.reverse.rel_findSome? (fun r r' hmatch => hmatch.rel_kept key)
      fun r _ s _ hr hs => (FieldResult.key_of_isSome_kept hr).trans
        (FieldResult.key_of_isSome_kept hs).symm
  -- flat fields are merged last, whatever their place, so that they win over the others
  rw [lookup_assemble, lookup_assemble, lookup_contributedEntries, lookup_contributedEntries,
    lookup_keptEntries, lookup_keptEntries]
  exact rel_or hcontributed hkept

end Matched

/-- No key of an object stands twice. -/
theorem nodup_keys_assemble (results : List FieldResult) :
    ((assemble results).map (·.1)).Nodup := by
  rw [assemble, ownEntries_eq]
  exact nodup_keys_mergeEntries (nodup_keys_mergeEntries List.nodup_nil)

/-! ### Resolving in another order -/

/-- Lists of results with the nulls left out are alike when the results are. -/
theorem resolveEach_alike {f g : Node → Except ResolveError Value} {nodes : List Node}
    (h : ∀ node ∈ nodes, Alike Value.Reordered (f node) (g node)) :
    Alike Value.Reordered (resolveEach f nodes) (resolveEach g nodes) := by
  have hcollect : Alike (List.Forall₂ Value.Reordered) (collect f nodes) (collect g nodes) := by
    induction nodes with
    | nil => exact .ok .nil
    | cons node rest ih =>
      obtain ⟨hnode, hrest⟩ := List.forall_mem_cons.1 h
      rw [collect, collect]
      rcases hnode.ok_or_error with ⟨v, w, hv, hw, hvw⟩ | ⟨e, e', he, he'⟩
      · rw [hv, hw]
        rcases (ih hrest).ok_or_error with ⟨vs, ws, hvs, hws, hvws⟩ | ⟨e, e', he, he'⟩
        · rw [hvs, hws]
          exact .ok (.cons hvw hvws)
        · rw [he, he']
          exact .error e e'
      · rw [he, he']
        exact .error e e'
  rw [resolveEach, resolveEach]
  rcases hcollect.ok_or_error with ⟨vs, ws, hvs, hws, hvws⟩ | ⟨e, e', he, he'⟩
  · rw [hvs, hws]
    refine .ok (.array (List.rel_filter ?_ hvws))
    intro v w hvw
    show (!v.isNull) = true ↔ (!w.isNull) = true
    rw [hvw.isNull_eq]
  · rw [he, he']
    exact .error e e'

/-- The results at a placement are alike when those at its nodes are. -/
theorem Placement.run_alike {f g : Node → Except ResolveError Value} {p : Placement Node}
    (h : ∀ node ∈ p.nodes, Alike Value.Reordered (f node) (g node)) :
    Alike Value.Reordered (p.run f) (p.run g) := by
  cases p with
  | one node => exact h node (List.mem_singleton_self node)
  | nowhere => exact .ok (.refl .null)
  | each nodes => exact resolveEach_alike h

section Fields

variable {x : Extractor Node} {inherited : SchemaOptions} {path : String} {node : Node}
  {fields fields' : List (String × Schema)}

/-- The keys of the results are those of the fields. -/
theorem keys_of_resolveFields {results : List FieldResult}
    (h : resolveFields x inherited path node fields = .ok results) :
    results.map (·.key) = fields.map (·.1) := by
  have hforall := resolveFields_eq_ok_iff.1 h
  clear h
  induction hforall with
  | nil => rfl
  | cons hentry _ ih => rw [List.map_cons, List.map_cons, ih, hentry.1]

/-- Each field gives one of the results. -/
theorem exists_result_of_mem {results : List FieldResult}
    (h : resolveFields x inherited path node fields = .ok results) {entry : String × Schema}
    (hentry : entry ∈ fields) :
    ∃ r ∈ results, r.key = entry.1 ∧ r.flat = entry.2.options.flat ∧
      resolveIn x inherited (path ++ "." ++ entry.1) (some node) entry.2 = .ok r.value :=
  exists_of_forall₂_of_mem (resolveFields_eq_ok_iff.1 h).flip hentry

/-- Each field has one with its key among the fields in another order. -/
theorem exists_partner {fields fields' : List (String × Schema)} {key : String} {field : Schema}
    (hkeys : (fields.map (·.1)).Perm (fields'.map (·.1))) (hentry : (key, field) ∈ fields) :
    ∃ field', (key, field') ∈ fields' := by
  simpa using hkeys.mem_iff.1 (List.mem_map_of_mem hentry)

/-- Results of fields in another order match when those of one key are alike. -/
theorem matched_of_resolveFields {results results' : List FieldResult}
    (hkeys : (fields.map (·.1)).Perm (fields'.map (·.1))) (hnodup : (fields.map (·.1)).Nodup)
    (h : ∀ key field field', (key, field) ∈ fields → (key, field') ∈ fields' →
      field.options = field'.options ∧
      Alike Value.Reordered (resolveIn x inherited (path ++ "." ++ key) (some node) field)
        (resolveIn x inherited (path ++ "." ++ key) (some node) field'))
    (hresults : resolveFields x inherited path node fields = .ok results)
    (hresults' : resolveFields x inherited path node fields' = .ok results') :
    Matched results results' := by
  have hmatch {r r' : FieldResult} {key : String} {field field' : Schema}
      (hentry : (key, field) ∈ fields) (hentry' : (key, field') ∈ fields')
      (hr : r.key = key ∧ r.flat = field.options.flat ∧
        resolveIn x inherited (path ++ "." ++ key) (some node) field = .ok r.value)
      (hr' : r'.key = key ∧ r'.flat = field'.options.flat ∧
        resolveIn x inherited (path ++ "." ++ key) (some node) field' = .ok r'.value) :
      r.Reordered r' := by
    obtain ⟨hoptions, halike⟩ := h key field field' hentry hentry'
    rw [hr.2.2, hr'.2.2] at halike
    refine ⟨hr.1.trans hr'.1.symm, ?_, ?_⟩
    · rw [hr.2.1, hr'.2.1, hoptions]
    · cases halike with
      | ok hvalue => exact hvalue
  refine ⟨?_, ?_, fun r hr => ?_, fun r' hr' => ?_⟩
  · rwa [keys_of_resolveFields hresults]
  · rw [keys_of_resolveFields hresults']
    exact hkeys.nodup_iff.1 hnodup
  · obtain ⟨⟨key, field⟩, hentry, hresult⟩ :=
      exists_of_forall₂_of_mem (resolveFields_eq_ok_iff.1 hresults) hr
    obtain ⟨field', hentry'⟩ := exists_partner hkeys hentry
    obtain ⟨r', hr', hresult'⟩ := exists_result_of_mem hresults' hentry'
    exact ⟨r', hr', hmatch hentry hentry' hresult hresult'⟩
  · obtain ⟨⟨key, field'⟩, hentry', hresult'⟩ :=
      exists_of_forall₂_of_mem (resolveFields_eq_ok_iff.1 hresults') hr'
    obtain ⟨field, hentry⟩ := exists_partner hkeys.symm hentry'
    obtain ⟨r, hr, hresult⟩ := exists_result_of_mem hresults hentry
    exact ⟨r, hr, hmatch hentry hentry' hresult hresult'⟩

/-- Fields in another order fail alike, or give matching results. -/
theorem resolveFields_alike (hkeys : (fields.map (·.1)).Perm (fields'.map (·.1)))
    (hnodup : (fields.map (·.1)).Nodup)
    (h : ∀ key field field', (key, field) ∈ fields → (key, field') ∈ fields' →
      field.options = field'.options ∧
      Alike Value.Reordered (resolveIn x inherited (path ++ "." ++ key) (some node) field)
        (resolveIn x inherited (path ++ "." ++ key) (some node) field')) :
    Alike Matched (resolveFields x inherited path node fields)
      (resolveFields x inherited path node fields') := by
  cases hresults : resolveFields x inherited path node fields with
  | error e =>
    -- the counterpart of the field that fails does so too
    obtain ⟨⟨key, field⟩, hentry, he⟩ := exists_of_resolveFields_eq_error hresults
    obtain ⟨field', hentry'⟩ := exists_partner hkeys hentry
    rcases (h key field field' hentry hentry').2.ok_or_error with
      ⟨v, w, hv, -, -⟩ | ⟨e₁, e₂, -, he₂⟩
    · rw [he] at hv
      cases hv
    · obtain ⟨e', he'⟩ := resolveFields_fails hentry' he₂
      rw [he']
      exact .error e e'
  | ok results =>
    cases hresults' : resolveFields x inherited path node fields' with
    | error e' =>
      obtain ⟨⟨key, field'⟩, hentry', he'⟩ := exists_of_resolveFields_eq_error hresults'
      -- a field that fails only in the other order would have failed in this one
      obtain ⟨field, hentry⟩ := exists_partner hkeys.symm hentry'
      rcases (h key field field' hentry hentry').2.ok_or_error with
        ⟨v, w, -, hw, -⟩ | ⟨e₁, e₂, he₁, -⟩
      · rw [he'] at hw
        cases hw
      · obtain ⟨e, he⟩ := resolveFields_fails hentry he₁
        rw [hresults] at he
        cases he
    | ok results' => exact .ok (matched_of_resolveFields hkeys hnodup h hresults hresults')

/-- An object is alike when its fields are, if it has no transforms and no key comes from two flat
fields. -/
theorem resolveObject_alike
    (h : Alike Matched (resolveFields x inherited path node fields)
      (resolveFields x inherited path node fields'))
    (hclash : ∀ results, resolveFields x inherited path node fields = .ok results →
      ∀ r ∈ results, ∀ s ∈ results, ∀ key, r.Contributes key → s.Contributes key →
        r.key = s.key) :
    Alike Value.Reordered (resolveObject x inherited [] path fields node)
      (resolveObject x inherited [] path fields' node) := by
  rw [resolveObject, resolveObject]
  rcases h.ok_or_error with ⟨results, results', hresults, hresults', hmatched⟩ | ⟨e, e', he, he'⟩
  · rw [hresults, hresults']
    simp only [runPipeline_build_nil]
    exact .ok (.object (nodup_keys_assemble results) (nodup_keys_assemble results')
      (hmatched.rel_lookup_assemble (hclash results hresults)))
  · rw [he, he']
    exact .error e e'

end Fields

/-- Resolving a schema at a node comes to an object that is put together with a key from two of its
flat fields. -/
inductive Clashes (x : Extractor Node) : SchemaOptions → String → Node → Schema → Prop
  /-- The schema is the object. -/
  | here {inherited : SchemaOptions} {path : String} {node target : Node} {p : Placement Node}
      {fields : List (String × Schema)} {options : SchemaOptions}
      {objTransforms : List Transform} {enabled : Bool} {results : List FieldResult}
      {r s : FieldResult} {key : String} :
      x.dispatch (.object fields (options.inherit inherited) objTransforms enabled) ≠ none →
      placement x.model node (.object fields options objTransforms enabled) = .ok p →
      target ∈ p.nodes →
      resolveFields x (options.inherit inherited) path target fields = .ok results →
      r ∈ results → s ∈ results → r.key ≠ s.key → r.Contributes key → s.Contributes key →
      Clashes x inherited path node (.object fields options objTransforms enabled)
  /-- The object is met in a field, at a node that the scope leads to. -/
  | field {inherited : SchemaOptions} {path : String} {node target : Node} {p : Placement Node}
      {fields : List (String × Schema)} {options : SchemaOptions}
      {objTransforms : List Transform} {enabled : Bool} {entry : String × Schema} :
      x.dispatch (.object fields (options.inherit inherited) objTransforms enabled) ≠ none →
      placement x.model node (.object fields options objTransforms enabled) = .ok p →
      target ∈ p.nodes → entry ∈ fields →
      Clashes x (options.inherit inherited) (path ++ "." ++ entry.1) target entry.2 →
      Clashes x inherited path node (.object fields options objTransforms enabled)

/-- A clash is one of two flat fields, or within a field. -/
theorem Clashes.flat_or_field {x : Extractor Node} {inherited : SchemaOptions} {path : String}
    {node : Node} {fields : List (String × Schema)} {options : SchemaOptions}
    {objTransforms : List Transform} {enabled : Bool}
    (h : Clashes x inherited path node (.object fields options objTransforms enabled)) :
    (∃ entry ∈ fields, ∃ other ∈ fields, entry.1 ≠ other.1 ∧ entry.2.options.flat = true ∧
        other.2.options.flat = true) ∨
      ∃ entry ∈ fields, ∃ inherited' path' target, Clashes x inherited' path' target entry.2 := by
  cases h with
  | field _ _ _ hentry hinner => exact .inr ⟨_, hentry, _, _, _, hinner⟩
  | here _ _ _ hresults hr hs hne hrkey hskey =>
    have hforall := resolveFields_eq_ok_iff.1 hresults
    obtain ⟨entry, hentry, hkey, hflat, -⟩ := exists_of_forall₂_of_mem hforall hr
    obtain ⟨other, hother, hkey', hflat', -⟩ := exists_of_forall₂_of_mem hforall hs
    refine .inl ⟨entry, hentry, other, hother, ?_, ?_, ?_⟩
    · rwa [← hkey, ← hkey']
    · rw [← hflat]
      exact hrkey.flat
    · rw [← hflat']
      exact hskey.flat

section Resolve

variable {m : DocumentModel Node} {kinds : List ResolverKind} {registries : Registries}

/-- A schema with its fields in another order is resolved alike, whatever it inherits. -/
theorem resolveIn_alike {schema schema' : Schema} (h : schema.Reordered schema')
    (hplain : schema.NoObjTransforms) {inherited : SchemaOptions} {path : String} {node : Node}
    (hclash : ¬Clashes (.ofKinds m kinds registries) inherited path node schema) :
    Alike Value.Reordered
      (resolveIn (.ofKinds m kinds registries) inherited path (some node) schema)
      (resolveIn (.ofKinds m kinds registries) inherited path (some node) schema') := by
  -- the fields are resolved with what they inherit, so that the induction is over any of that
  induction schema using Schema.induction generalizing schema' inherited path node with
  | value choice kind options =>
    cases h
    cases resolveIn (.ofKinds m kinds registries) inherited path (some node)
        (.value choice kind options) with
    | error e => exact .error e e
    | ok v => exact .ok (.refl v)
  | object fields options objTransforms enabled ih =>
    cases hplain with
    | object _ _ hplain =>
    cases h with
    | object _ _ _ hkeys hnodup hfields =>
    next fields' =>
    rw [resolveIn_object, resolveIn_object]
    split
    next hkinds =>
      have hdispatch : (Extractor.ofKinds m kinds registries).dispatch
          (.object fields (options.inherit inherited) [] enabled) ≠ none := by
        rw [Extractor.dispatch_ofKinds, ← Option.isSome_iff_ne_none, Option.isSome_map,
          List.isSome_find?]
        exact hkinds
      have hplace : placement m node (.object fields' (options.inherit inherited) [] enabled) =
          placement m node (.object fields (options.inherit inherited) [] enabled) :=
        placement_object_congr rfl
      rw [resolveScoped_some, resolveScoped_some, hplace]
      simp only [Schema.lacksQuery, Bool.false_eq_true, ↓reduceIte]
      cases hp : placement m node (.object fields (options.inherit inherited) [] enabled) with
      | error e => exact .error e e
      | ok p =>
        have hp' : placement m node (.object fields options [] enabled) = .ok p := hp
        refine Placement.run_alike fun target htarget => ?_
        -- at the target the fields are alike one by one, and do not clash
        refine resolveObject_alike (resolveFields_alike hkeys hnodup ?_) ?_
        · intro key field field' hentry hentry'
          have hfield := hfields key field field' hentry hentry'
          exact ⟨hfield.options_eq, ih (key, field) hentry hfield (hplain (key, field) hentry)
            fun hinner => hclash (.field hdispatch hp' htarget hentry hinner)⟩
        · intro results hresults r hr s hs key hrkey hskey
          by_contra hne
          exact hclash (.here hdispatch hp' htarget hresults hr hs hne hrkey hskey)
    next => exact .ok (.refl .null)

end Resolve

/-- An object of a text and of a flat object with an emphasis, in either order, and with the fields
of the flat object in either order. -/
def emphasized (swapped : Bool) : Schema :=
  let paragraph : Schema := .value (.one "p") (.implicit {}) {}
  let emphasis : Schema := .value (.one "em") (.implicit {}) {}
  let inner := [("whole", paragraph), ("emphasis", emphasis)]
  let more : Schema := .object (if swapped then inner.reverse else inner) { flat := true } [] true
  let outer := [("text", paragraph), ("more", more)]
  .object (if swapped then outer.reverse else outer) {} [] true

theorem emphasized_reordered : (emphasized false).Reordered (emphasized true) := by
  have hvalue (selector : String) : (Schema.value (.one selector) (.implicit {}) {}).Reordered
      (.value (.one selector) (.implicit {}) {}) := .value _ _ _
  refine .object _ _ _ (by decide) (by decide) fun key field field' hfield hfield' => ?_
  simp at hfield hfield'
  rcases hfield with ⟨rfl, rfl⟩ | ⟨rfl, rfl⟩
  · obtain rfl : field' = _ := by simpa using hfield'
    exact hvalue "p"
  · obtain rfl : field' = _ := by simpa using hfield'
    refine .object _ _ _ (by decide) (by decide) fun key field field' hfield hfield' => ?_
    simp at hfield hfield'
    rcases hfield with ⟨rfl, rfl⟩ | ⟨rfl, rfl⟩
    · obtain rfl : field' = _ := by simpa using hfield'
      exact hvalue "p"
    · obtain rfl : field' = _ := by simpa using hfield'
      exact hvalue "em"

end Gleaner
