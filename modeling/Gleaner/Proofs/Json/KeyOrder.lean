import Gleaner.Coerce.Options
import Mathlib.Data.List.Nodup

/-!
# The order of keys

The entries of an object are looked up by their keys, and a record takes each of its fields from
the entry with its key. So where no key stands twice, the order of the entries decides at most
which of several errors is reported.

## Main definitions

* `Agree`: two readings with the same result, or that both fail.
* `Json.IsKeywise`: a way of putting entries into a record, each into a field of its own.

## Main results

* `isSome_lookup_iff`, `lookup_eq_some_iff_mem`: what is found under a key.
* `lookup_eq_of_perm`: entries are looked up alike in any order.
* `Json.IsKeywise.agree_of_perm`: a record is read alike from entries in any order.
* `Json.IsKeywise.foldFields_filter`: other entries than those of its fields do not count.
* `TextOptions.isKeywise_put` and its like: the options of types are such records.
-/

namespace Gleaner

/-! ### Looking up -/

/-- What stands under none of the entries is not found. -/
theorem lookup_eq_none_of_notMem {α : Type} {entries : List (String × α)} {key : String}
    (h : key ∉ entries.map (·.1)) : entries.lookup key = none := by
  refine List.lookup_eq_none_iff.2 fun entry hentry => bne_iff_ne.2 ?_
  rintro rfl
  exact h (List.mem_map_of_mem hentry)

/-- What stands under a key that no other entry has is found. -/
theorem lookup_eq_some_of_mem {α : Type} {entries : List (String × α)}
    (hkeys : (entries.map (·.1)).Nodup) {entry : String × α} (h : entry ∈ entries) :
    entries.lookup entry.1 = some entry.2 := by
  induction entries with
  | nil => cases h
  | cons first rest ih =>
    rw [List.map_cons, List.nodup_cons] at hkeys
    rw [List.lookup_cons]
    rcases List.mem_cons.1 h with rfl | hrest
    · rw [beq_self_eq_true]
    · have hne : entry.1 ≠ first.1 := fun e => hkeys.1 (e ▸ List.mem_map_of_mem hrest)
      rw [beq_eq_false_iff_ne.2 hne]
      exact ih hkeys.2 hrest

/-- Nothing is found under a key exactly when no entry has it. -/
theorem lookup_eq_none_iff_notMem {α : Type} {entries : List (String × α)} {key : String} :
    entries.lookup key = none ↔ key ∉ entries.map (·.1) := by
  refine ⟨fun hnone hmem => ?_, lookup_eq_none_of_notMem⟩
  obtain ⟨entry, hentry, rfl⟩ := List.mem_map.1 hmem
  exact absurd rfl (bne_iff_ne.1 (List.lookup_eq_none_iff.1 hnone entry hentry))

/-- Something is found under a key exactly when an entry has it. -/
theorem isSome_lookup_iff {α : Type} {entries : List (String × α)} {key : String} :
    (entries.lookup key).isSome ↔ key ∈ entries.map (·.1) := by
  rw [Option.isSome_iff_ne_none, ne_eq, lookup_eq_none_iff_notMem, not_not]

/-- Where keys are distinct, what is found under a key is the entry that has it. -/
theorem lookup_eq_some_iff_mem {α : Type} {entries : List (String × α)} {key : String}
    (h : (entries.map (·.1)).Nodup) {value : α} :
    entries.lookup key = some value ↔ (key, value) ∈ entries := by
  constructor
  · intro hsome
    obtain ⟨before, after, rfl, -⟩ := List.lookup_eq_some_iff.1 hsome
    exact List.mem_append_right before List.mem_cons_self
  · intro hmem
    exact lookup_eq_some_of_mem h hmem

/-- Other entries than those that are looked for do not count. -/
theorem lookup_filter {α : Type} {keys : List String} {key : String} (h : key ∈ keys)
    (entries : List (String × α)) :
    (entries.filter (·.1 ∈ keys)).lookup key = entries.lookup key := by
  induction entries with
  | nil => rfl
  | cons entry entries ih =>
    by_cases hkey : entry.1 ∈ keys
    · rw [List.filter_cons_of_pos (by simpa using hkey), List.lookup_cons, List.lookup_cons, ih]
    · have hne : key ≠ entry.1 := fun e => hkey (e ▸ h)
      rw [List.filter_cons_of_neg (by simpa using hkey), List.lookup_cons,
        beq_eq_false_iff_ne.2 hne, ih]

/-- Entries with distinct keys are looked up alike in any order. -/
theorem lookup_eq_of_perm {α : Type} {entries others : List (String × α)}
    (h : entries.Perm others) (hkeys : (entries.map (·.1)).Nodup) (key : String) :
    entries.lookup key = others.lookup key := by
  induction h with
  | nil => rfl
  | @cons entry _ _ _ ih =>
    rw [List.map_cons, List.nodup_cons] at hkeys
    rw [List.lookup_cons, List.lookup_cons, ih hkeys.2]
  | swap a b rest =>
    obtain ⟨k, v⟩ := a
    obtain ⟨k', v'⟩ := b
    have hne : k' ≠ k := by
      simp only [List.map_cons, List.nodup_cons, List.mem_cons, not_or] at hkeys
      exact hkeys.1.1
    simp only [List.lookup_cons]
    -- at most one of the two has the key that is looked for
    by_cases hk : key = k
    · simp [hk, beq_eq_false_iff_ne.2 hne.symm]
    · simp [beq_eq_false_iff_ne.2 hk]
  | trans h _ ih ih' => exact (ih hkeys).trans (ih' ((h.map (·.1)).nodup_iff.1 hkeys))

/-! ### Agreement -/

/-- Two readings agree when they have the same result, or both fail, for whatever reason. -/
def Agree {ε α : Type} (a b : Except ε α) : Prop := ∀ v, a = .ok v ↔ b = .ok v

namespace Agree

variable {ε α β γ : Type} {a b c : Except ε α}

theorem refl (a : Except ε α) : Agree a a := fun _ => Iff.rfl

theorem symm (h : Agree a b) : Agree b a := fun v => (h v).symm

theorem trans (h : Agree a b) (h' : Agree b c) : Agree a c := fun v => (h v).trans (h' v)

/-- Any two failures agree. -/
theorem error (e e' : ε) : Agree (.error e : Except ε α) (.error e') := by
  simp [Agree]

/-- Readings that agree go on alike, if they go on in ways that agree. -/
theorem bind {f g : α → Except ε β} (h : Agree a b) (hnext : ∀ v, Agree (f v) (g v)) :
    Agree (a >>= f) (b >>= g) := by
  cases a with
  | ok v =>
    rw [(h v).1 rfl]
    exact hnext v
  | error e =>
    cases b with
    | ok v => cases (h v).2 rfl
    | error e' => exact error e e'

/-- What is made of the results does not count. -/
theorem map {f : α → β} (h : Agree a b) : Agree (a.map f) (b.map f) :=
  h.bind (fun v => refl (Except.ok (f v) : Except ε β))

/-- Two readings may be put into a record in either order, if they go into different places. -/
theorem map_comm {x : Except ε β} {y : Except ε γ} {put : α → β → α} {put' : α → γ → α}
    (o : α) (hput : ∀ o v w, put' (put o v) w = put (put' o w) v) :
    Agree (x.map (put o) >>= fun o => y.map (put' o))
      (y.map (put' o) >>= fun o => x.map (put o)) := by
  cases x with
  | ok v =>
    cases y with
    | ok w =>
      have hsame : (Except.ok (put' (put o v) w) : Except ε α) = .ok (put (put' o w) v) :=
        congrArg Except.ok (hput o v w)
      exact fun result => Eq.congr_left hsame
    | error e => exact error e e
  | error e =>
    cases y with
    | ok w => exact error e e
    | error e' => exact error e e'

end Agree

/-! ### Records -/

namespace Json

/-- A way of putting entries into a record, by which each of some keys has a place of its own and
the other keys have none. -/
structure IsKeywise {α : Type} (keys : List String) (put : α → String → Json → Except String α) :
    Prop where
  /-- Other keys do not count. -/
  ignores {key : String} (h : key ∉ keys) (o : α) (v : Json) : put o key v = .ok o
  /-- Different keys have different places. -/
  commutes {key key' : String} (h : key ∈ keys) (h' : key' ∈ keys) (hne : key ≠ key') (o : α)
    (v v' : Json) : Agree (put o key v >>= (put · key' v')) (put o key' v' >>= (put · key v))

namespace IsKeywise

variable {α : Type} {keys : List String} {put : α → String → Json → Except String α}
  {fields others : List (String × Json)}

/-- A record is read entry by entry. -/
theorem foldFields_cons (o : α) (key : String) (v : Json) (rest : List (String × Json)) :
    foldFields put o ((key, v) :: rest) = put o key v >>= fun o => foldFields put o rest := by
  rw [foldFields]
  cases put o key v <;> rfl

theorem foldFields_cons_cons (o : α) (entry entry' : String × Json)
    (rest : List (String × Json)) : foldFields put o (entry :: entry' :: rest) =
      (put o entry.1 entry.2 >>= (put · entry'.1 entry'.2)) >>= (foldFields put · rest) := by
  rw [foldFields_cons, bind_assoc]
  exact congrArg (put o entry.1 entry.2 >>= ·) (funext fun o => foldFields_cons o _ _ rest)

/-- Different keys may be put in either order, whether they count or not. -/
theorem agree_put (h : IsKeywise keys put) {key key' : String} (hne : key ≠ key') (o : α)
    (v v' : Json) : Agree (put o key v >>= (put · key' v')) (put o key' v' >>= (put · key v)) := by
  -- a key that does not count leaves the record as it is, before the other and after it
  by_cases hkey : key ∈ keys
  · by_cases hkey' : key' ∈ keys
    · exact h.commutes hkey hkey' hne o v v'
    · have hskip : (put · key' v') = (pure : α → Except String α) :=
        funext fun o => h.ignores hkey' o v'
      rw [hskip, bind_pure, h.ignores hkey']
      exact .refl _
  · have hskip : (put · key v) = (pure : α → Except String α) :=
      funext fun o => h.ignores hkey o v
    rw [hskip, bind_pure, h.ignores hkey]
    exact .refl _

/-- A record is read alike from entries in any order, if no key stands twice. -/
theorem agree_of_perm (h : IsKeywise keys put) (hperm : fields.Perm others)
    (hkeys : (fields.map (·.1)).Nodup) (o : α) :
    Agree (foldFields put o fields) (foldFields put o others) := by
  induction hperm generalizing o with
  | nil => exact .refl _
  | @cons entry _ _ _ ih =>
    rw [List.map_cons, List.nodup_cons] at hkeys
    rw [foldFields_cons, foldFields_cons]
    exact .bind (.refl _) fun o => ih hkeys.2 o
  | swap a b rest =>
    have hne : b.1 ≠ a.1 := by
      simp only [List.map_cons, List.nodup_cons, List.mem_cons, not_or] at hkeys
      exact hkeys.1.1
    rw [foldFields_cons_cons, foldFields_cons_cons]
    -- the first two are put alike in either order, and the rest goes on from there
    exact (h.agree_put hne o b.2 a.2).bind fun o => .refl _
  | trans hperm _ ih ih' =>
    exact (ih hkeys o).trans (ih' ((hperm.map (·.1)).nodup_iff.1 hkeys) o)

/-- The entries of other keys do not count. -/
theorem foldFields_filter (h : IsKeywise keys put) (o : α) (fields : List (String × Json)) :
    foldFields put o (fields.filter (·.1 ∈ keys)) = foldFields put o fields := by
  induction fields generalizing o with
  | nil => rfl
  | cons entry rest ih =>
    by_cases hkey : entry.1 ∈ keys
    · rw [List.filter_cons_of_pos (by simpa using hkey), foldFields_cons, foldFields_cons]
      exact congrArg (put o entry.1 entry.2 >>= ·) (funext ih)
    · rw [List.filter_cons_of_neg (by simpa using hkey), foldFields_cons, h.ignores hkey, ih]
      rfl

end IsKeywise
end Json

/-! ### The options of types -/

open Json

/-- Each option of a text has a key of its own. -/
theorem TextOptions.isKeywise_put : IsKeywise TextOptions.keys TextOptions.put where
  ignores h o v := by
    simp only [keys, List.mem_cons, not_or] at h
    simp [put, h]
  commutes h h' hne o v v' := by
    simp only [keys, List.mem_cons, List.not_mem_nil, or_false] at h h'
    rcases h with rfl | rfl | rfl | rfl <;> rcases h' with rfl | rfl | rfl | rfl <;>
      first
        | exact absurd rfl hne
        | simp only [put, reduceIte, String.reduceEq]
          apply Agree.map_comm o
          exact fun _ _ _ => rfl

/-- Each option of a number has a key of its own. -/
theorem NumberOptions.isKeywise_put : IsKeywise NumberOptions.keys NumberOptions.put where
  ignores h o v := by
    simp only [keys, List.mem_cons, not_or] at h
    simp [put, h]
  commutes h h' hne o v v' := by
    simp only [keys, List.mem_cons, List.not_mem_nil, or_false] at h h'
    rcases h with rfl | rfl | rfl | rfl <;> rcases h' with rfl | rfl | rfl | rfl <;>
      first
        | exact absurd rfl hne
        | simp only [put, reduceIte, String.reduceEq]
          apply Agree.map_comm o
          exact fun _ _ _ => rfl

/-- Each option of a boolean has a key of its own. -/
theorem BooleanOptions.isKeywise_put : IsKeywise BooleanOptions.keys BooleanOptions.put where
  ignores h o v := by
    simp only [keys, List.mem_cons, not_or] at h
    simp [put, h]
  commutes h h' hne o v v' := by
    simp only [keys, List.mem_cons, List.not_mem_nil, or_false] at h h'
    rcases h with rfl | rfl | rfl <;> rcases h' with rfl | rfl | rfl <;>
      first
        | exact absurd rfl hne
        | simp only [put, reduceIte, String.reduceEq]
          apply Agree.map_comm o
          exact fun _ _ _ => rfl

/-- Each option of a date has a key of its own. -/
theorem DateOptions.isKeywise_put : IsKeywise DateOptions.keys DateOptions.put where
  ignores h o v := by
    simp only [keys, List.mem_cons, not_or] at h
    simp [put, h]
  commutes h h' hne o v v' := by
    simp only [keys, List.mem_cons, List.not_mem_nil, or_false] at h h'
    rcases h with rfl | rfl | rfl <;> rcases h' with rfl | rfl | rfl <;>
      first
        | exact absurd rfl hne
        | simp only [put, reduceIte, String.reduceEq]
          apply Agree.map_comm o
          exact fun _ _ _ => rfl

end Gleaner
