import Gleaner.Proofs.Pattern.Leads
import Mathlib.Data.Finset.Card
import Mathlib.Data.List.Nodup

/-!
# Every place that a match leads to is computed

`Pattern.ends` keeps each place once, so of two ways to one place only the preferred one is left,
and a walk of an unbounded repetition goes on from a place only once, with a bound on its visits.
Nothing is lost by this but the ways themselves: every place that a match can lead to is computed.

## Main definitions

* `Cursor.IsIn`: a place of a text, which its index determines.
* `Pattern.Covers`: a step computes all places that a relation leads to, each once.
* `Pattern.FindsAll`: a pattern computes every place that a match of it leads to.
* `Pattern.WalkInvariant`: what a walk keeps: from the places that it went on from, everything that
  is one step away is known or still to be visited.

## Main results

* `Leads.isIn_and_index_le`: a match stays in its text and does not go back.
* `Leads.transfer`: where a match leads depends on the place only.
* `Covers.exists_mem_walk`: with enough fuel a walk finds all places.
* `findsAll_of_isOrdered`: every place that a match leads to is computed.
* `exists_find?_eq_some`: a pattern with a match at the beginning of a text is found there.
-/

namespace Gleaner

open Unicode (CodeRanges)

/-! ### Places of a text -/

namespace Cursor

/-- A place of a text. -/
def IsIn (at_ : Cursor) (text : List Char) : Prop :=
  ∃ before, text = before ++ at_.rest ∧ at_.index = before.length ∧ at_.previous = before.getLast?

variable {text : List Char} {a b : Cursor}

/-- A text begins with a place of it. -/
theorem isIn_start (text : List Char) : (start text).IsIn text := ⟨[], rfl, rfl, rfl⟩

/-- The next place is one too. -/
theorem IsIn.next {c : Char} {cs : List Char} (h : a.IsIn text) (hrest : a.rest = c :: cs) :
    (a.next c cs).IsIn text := by
  obtain ⟨before, htext, hindex, -⟩ := h
  refine ⟨before ++ [c], ?_, ?_, ?_⟩
  · simp [htext, hrest, Cursor.next]
  · simp [hindex, Cursor.next]
  · simp [Cursor.next]

/-- The characters before a place and those after it make up the text. -/
theorem IsIn.index_add (h : a.IsIn text) : a.index + a.rest.length = text.length := by
  obtain ⟨before, htext, hindex, -⟩ := h
  rw [htext, hindex, List.length_append]

/-- The places from a place on begin with it. -/
theorem exists_following_eq (at_ : Cursor) : ∃ later, at_.following = at_ :: later := by
  obtain ⟨index, previous, rest⟩ := at_
  cases rest with
  | nil => exact ⟨[], rfl⟩
  | cons c cs => exact ⟨_, rfl⟩

/-- The index of a place determines it. -/
theorem IsIn.eq_of_index (ha : a.IsIn text) (hb : b.IsIn text) (h : a.index = b.index) : a = b := by
  obtain ⟨before, htext, hindex, hprevious⟩ := ha
  obtain ⟨before', htext', hindex', hprevious'⟩ := hb
  have hlength : before.length = before'.length := by rw [← hindex, ← hindex', h]
  obtain ⟨rfl, hrest⟩ := List.append_inj (htext ▸ htext') hlength
  obtain ⟨index, previous, rest⟩ := a
  obtain ⟨index', previous', rest'⟩ := b
  simp_all

end Cursor

namespace Pattern

@[simp]
theorem Reached.cursor_openGroup (r : Reached) : r.openGroup.cursor = r.cursor := rfl

@[simp]
theorem Reached.cursor_closeGroup (number : Nat) (r : Reached) :
    (r.closeGroup number).cursor = r.cursor := by
  rw [closeGroup]
  split <;> rfl

/-- A match stays in its text and does not go back. -/
theorem Leads.isIn_and_index_le {p : Pattern} {text : List Char} {r r' : Reached}
    (h : p.Leads r r') (hr : r.cursor.IsIn text) :
    r'.cursor.IsIn text ∧ r.index ≤ r'.index := by
  induction p generalizing r r' with
  | empty =>
    obtain rfl : r' = r := h
    exact ⟨hr, le_rfl⟩
  | set chars =>
    obtain ⟨c, cs, hrest, -, rfl⟩ := leads_set_iff.1 h
    exact ⟨hr.next hrest, Nat.le_succ _⟩
  | assertion a =>
    obtain ⟨-, rfl⟩ := h
    exact ⟨hr, le_rfl⟩
  | seq p q ihp ihq =>
    obtain ⟨between, hp, hq⟩ := h
    obtain ⟨hbetween, hle⟩ := ihp hp hr
    obtain ⟨hr', hle'⟩ := ihq hq hbetween
    exact ⟨hr', hle.trans hle'⟩
  | alt p q ihp ihq => exact h.elim (ihp · hr) (ihq · hr)
  | repetition p least most greedy ih =>
    obtain ⟨n, -, hrounds⟩ := h
    refine hrounds.preserves (P := fun s => s.cursor.IsIn text ∧ r.index ≤ s.index) ?_
      ⟨hr, le_rfl⟩
    rintro a b ⟨ha, hle⟩ hab
    obtain ⟨hb, hle'⟩ := ih hab ha
    exact ⟨hb, hle.trans hle'⟩
  | group number p ih =>
    obtain ⟨inner, hinner, rfl⟩ := h
    simpa [Reached.index] using ih hinner hr

/-- Where a match leads depends on the place only. -/
theorem Leads.transfer {p : Pattern} {a b r : Reached} (h : p.Leads a b)
    (hr : r.cursor = a.cursor) : ∃ r', p.Leads r r' ∧ r'.cursor = b.cursor := by
  induction p generalizing a b r with
  | empty =>
    obtain rfl : b = a := h
    exact ⟨r, rfl, hr⟩
  | set chars =>
    obtain ⟨c, cs, hrest, hc, rfl⟩ := leads_set_iff.1 h
    refine ⟨{ r with cursor := r.cursor.next c cs }, leads_set_iff.2 ⟨c, cs, ?_, hc, rfl⟩, ?_⟩
    · rw [hr, hrest]
    · rw [hr]
  | assertion c =>
    obtain ⟨hholds, rfl⟩ := h
    exact ⟨r, ⟨hr ▸ hholds, rfl⟩, hr⟩
  | seq p q ihp ihq =>
    obtain ⟨between, hp, hq⟩ := h
    obtain ⟨s, hs, hcursor⟩ := ihp hp hr
    obtain ⟨r', hr', hcursor'⟩ := ihq hq hcursor
    exact ⟨r', ⟨s, hs, hr'⟩, hcursor'⟩
  | alt p q ihp ihq =>
    rcases h with h | h
    · obtain ⟨r', hr', hcursor⟩ := ihp h hr
      exact ⟨r', .inl hr', hcursor⟩
    · obtain ⟨r', hr', hcursor⟩ := ihq h hr
      exact ⟨r', .inr hr', hcursor⟩
  | repetition p least most greedy ih =>
    obtain ⟨n, hn, hrounds⟩ := h
    suffices hsame : ∃ r', Rounds p.Leads n r r' ∧ r'.cursor = b.cursor by
      obtain ⟨r', hr', hcursor⟩ := hsame
      exact ⟨r', ⟨n, hn, hr'⟩, hcursor⟩
    clear hn
    induction n generalizing a r with
    | zero =>
      obtain rfl : b = a := hrounds
      exact ⟨r, rfl, hr⟩
    | succ n ihn =>
      obtain ⟨between, hfirst, hlater⟩ := hrounds
      obtain ⟨s, hs, hcursor⟩ := ih hfirst hr
      obtain ⟨r', hr', hcursor'⟩ := ihn hcursor hlater
      exact ⟨r', ⟨s, hs, hr'⟩, hcursor'⟩
  | group number p ih =>
    obtain ⟨inner, hinner, rfl⟩ := h
    obtain ⟨s, hs, hcursor⟩ := ih (r := r.openGroup) hinner hr
    exact ⟨s.closeGroup number, ⟨s, hs, rfl⟩, by simpa using hcursor⟩

/-! ### Places that are listed once -/

/-- The places of a list differ in their index. -/
def Apart (rs : List Reached) : Prop := rs.Pairwise fun a b => a.index ≠ b.index

/-- Each index that was not seen is still there. -/
theorem exists_mem_distinctFrom (seen : Indices) {rs : List Reached} {r : Reached} (h : r ∈ rs) :
    seen.has r.index ∨ ∃ s ∈ distinctFrom seen rs, s.index = r.index := by
  induction rs generalizing seen with
  | nil => cases h
  | cons first rest ih =>
    rw [distinctFrom]
    by_cases hfirst : seen.has first.index
    · rw [if_pos hfirst]
      rcases List.mem_cons.1 h with rfl | h
      · exact .inl hfirst
      · exact ih seen h
    · rw [if_neg hfirst]
      rcases List.mem_cons.1 h with rfl | h
      · exact .inr ⟨r, List.mem_cons_self, rfl⟩
      · rcases ih (seen.insert first.index) h with hseen | ⟨s, hs, hindex⟩
        · rw [Indices.has_insert, Bool.or_eq_true, decide_eq_true_eq] at hseen
          rcases hseen with hseen | hindex
          · exact .inl hseen
          · exact .inr ⟨first, List.mem_cons_self, hindex⟩
        · exact .inr ⟨s, List.mem_cons_of_mem _ hs, hindex⟩

/-- Each index is still there. -/
theorem exists_mem_distinct {rs : List Reached} {r : Reached} (h : r ∈ rs) :
    ∃ s ∈ distinct rs, s.index = r.index := by
  rw [distinct.eq_def]
  split
  · exact ⟨r, h, rfl⟩
  · refine (exists_mem_distinctFrom 0 h).resolve_left ?_
    simp [Indices.has]

/-- Each place of a text is still there. -/
theorem exists_mem_distinct_cursor {text : List Char} {rs : List Reached}
    (hrs : ∀ r ∈ rs, r.cursor.IsIn text) {r : Reached} (h : r ∈ rs) :
    ∃ s ∈ distinct rs, s.cursor = r.cursor := by
  obtain ⟨s, hs, hindex⟩ := exists_mem_distinct h
  exact ⟨s, hs, (hrs s (mem_of_mem_distinct hs)).eq_of_index (hrs r h) hindex⟩

/-- The places that are left differ in their index, also from those seen before. -/
theorem apart_distinctFrom (seen : Indices) (rs : List Reached) :
    Apart (distinctFrom seen rs) ∧ ∀ r ∈ distinctFrom seen rs, seen.has r.index = false := by
  induction rs generalizing seen with
  | nil => exact ⟨.nil, fun _ h => absurd h List.not_mem_nil⟩
  | cons first rest ih =>
    rw [distinctFrom]
    by_cases hfirst : seen.has first.index
    · rw [if_pos hfirst]
      exact ih seen
    · rw [if_neg hfirst]
      obtain ⟨hapart, hfresh⟩ := ih (seen.insert first.index)
      have hnew : ∀ r ∈ distinctFrom (seen.insert first.index) rest,
          seen.has r.index = false ∧ first.index ≠ r.index := by
        intro r hr
        have hr := hfresh r hr
        rw [Indices.has_insert, Bool.or_eq_false_iff, decide_eq_false_iff_not] at hr
        exact hr
      refine ⟨.cons (fun r hr => (hnew r hr).2) hapart, ?_⟩
      rw [List.forall_mem_cons]
      exact ⟨by simpa using hfirst, fun r hr => (hnew r hr).1⟩

/-- The places that are left differ in their index. -/
theorem apart_distinct (rs : List Reached) : Apart (distinct rs) := by
  rw [distinct.eq_def]
  split
  · exact List.pairwise_singleton ..
  · exact (apart_distinctFrom 0 rs).1

/-- The indices of the visits that go on, or of those that stop, whichever a visit is one of. -/
def Visit.seenIn (v : Visit) (going stopped : Indices) : Indices :=
  if v.continues then going else stopped

/-- A visit is left out if one of its kind with its index was seen before. -/
theorem Visit.distinctFrom_cons (going stopped : Indices) (v : Visit) (rest : List Visit) :
    Visit.distinctFrom going stopped (v :: rest) =
      if (v.seenIn going stopped).has v.reached.index then Visit.distinctFrom going stopped rest
      else v :: Visit.distinctFrom (if v.continues then going.insert v.reached.index else going)
        (if v.continues then stopped else stopped.insert v.reached.index) rest := by
  cases v <;> rfl

/-- Of the visits with one index that go on, one is still there, and of those that stop another. -/
theorem Visit.exists_mem_distinctFrom (going stopped : Indices) {visits : List Visit} {v : Visit}
    (h : v ∈ visits) :
    (v.seenIn going stopped).has v.reached.index ∨
      ∃ w ∈ Visit.distinctFrom going stopped visits,
        w.continues = v.continues ∧ w.reached.index = v.reached.index := by
  induction visits generalizing going stopped with
  | nil => cases h
  | cons first rest ih =>
    rw [Visit.distinctFrom_cons]
    by_cases hfirst : (first.seenIn going stopped).has first.reached.index
    · rw [if_pos hfirst]
      rcases List.mem_cons.1 h with rfl | h
      · exact .inl hfirst
      · exact ih going stopped h
    · rw [if_neg hfirst]
      rcases List.mem_cons.1 h with rfl | h
      · exact .inr ⟨v, List.mem_cons_self, rfl, rfl⟩
      · rcases ih (if first.continues then going.insert first.reached.index else going)
          (if first.continues then stopped else stopped.insert first.reached.index) h with
          hseen | ⟨w, hw, hsame⟩
        · -- only a visit of its own kind can have been the first with the index
          have hknown : (v.seenIn going stopped).has v.reached.index ∨
              first.continues = v.continues ∧ first.reached.index = v.reached.index := by
            revert hseen
            cases hfirst : first.continues <;> cases hv : v.continues <;>
              simp [seenIn, hv, Indices.has_insert]
          exact hknown.imp_right fun hsame => ⟨first, List.mem_cons_self, hsame⟩
        · exact .inr ⟨w, List.mem_cons_of_mem _ hw, hsame⟩

/-- What comes of a visit in one more step. -/
def Visit.next (step : List Reached → List Reached) (greedy : Bool) : Visit → List Visit
  | .continuing r => Visit.around greedy r ((step [r]).map .continuing)
  | .stopping r => [.stopping r]

/-- Visits go on by one step each, as long as one of them does. -/
theorem upTo_succ (step : List Reached → List Reached) (greedy : Bool) (n : Nat)
    (visits : List Visit) :
    upTo step greedy (n + 1) visits =
      if visits.any Visit.continues then
        upTo step greedy n (Visit.distinctFrom 0 0 (visits.flatMap (Visit.next step greedy)))
      else visits := by
  have hnext : (fun v : Visit => match v with
      | .continuing r => Visit.around greedy r ((step [r]).map .continuing)
      | .stopping r => [.stopping r]) = Visit.next step greedy := by
    funext v
    cases v <;> rfl
  exact hnext ▸ rfl

/-! ### Steps that compute a relation -/

/-- A step computes the places of a text that a relation leads to, each once, where the relation
stays in the text, does not go back, and goes by the place only. -/
structure Covers (text : List Char) (step : List Reached → List Reached)
    (R : Reached → Reached → Prop) : Prop where
  /-- Each place that the relation leads to is computed. -/
  complete : ∀ rs : List Reached, (∀ r ∈ rs, r.cursor.IsIn text) → ∀ r ∈ rs, ∀ b, R r b →
    ∃ r' ∈ step rs, r'.cursor = b.cursor
  /-- The relation leads to each computed place. -/
  sound : ∀ rs r', r' ∈ step rs → ∃ r ∈ rs, R r r'
  /-- The relation stays in the text and does not go back. -/
  stays : ∀ a b : Reached, a.cursor.IsIn text → R a b → b.cursor.IsIn text ∧ a.index ≤ b.index
  /-- Where the relation leads depends on the place only. -/
  transfer : ∀ a b r : Reached, R a b → r.cursor = a.cursor → ∃ r', R r r' ∧ r'.cursor = b.cursor
  /-- From one place, no place is computed twice. -/
  apart : ∀ r, Apart (step [r])

namespace Covers

variable {text : List Char} {step : List Reached → List Reached} {R : Reached → Reached → Prop}
  (hstep : Covers text step R)
include hstep

/-- The computed places are places of the text. -/
theorem isIn_of_mem {rs : List Reached} (hrs : ∀ r ∈ rs, r.cursor.IsIn text) {r' : Reached}
    (h : r' ∈ step rs) : r'.cursor.IsIn text := by
  obtain ⟨r, hr, hR⟩ := hstep.sound rs r' h
  exact (hstep.stays r r' (hrs r hr) hR).1

/-- Where rounds lead depends on the place only. -/
theorem transfer_rounds {n : Nat} {a b r : Reached} (h : Rounds R n a b)
    (hr : r.cursor = a.cursor) : ∃ r', Rounds R n r r' ∧ r'.cursor = b.cursor := by
  induction n generalizing a r with
  | zero =>
    obtain rfl : b = a := h
    exact ⟨r, rfl, hr⟩
  | succ n ih =>
    obtain ⟨c, hac, hcb⟩ := h
    obtain ⟨s, hs, hcursor⟩ := hstep.transfer a c r hac hr
    obtain ⟨r', hr', hcursor'⟩ := ih hcb hcursor
    exact ⟨r', ⟨s, hs, hr'⟩, hcursor'⟩

/-- All places after a number of rounds are computed. -/
theorem exists_mem_times {n : Nat} {rs : List Reached} (hrs : ∀ r ∈ rs, r.cursor.IsIn text)
    {r b : Reached} (hr : r ∈ rs) (h : Rounds R n r b) :
    ∃ r' ∈ times step n rs, r'.cursor = b.cursor := by
  induction n generalizing rs r b with
  | zero =>
    obtain rfl : b = r := h
    exact ⟨b, hr, rfl⟩
  | succ n ih =>
    obtain ⟨c, hrc, hcb⟩ := h
    obtain ⟨s, hs, hcursor⟩ := hstep.complete rs hrs r hr c hrc
    obtain ⟨b', hb', hcursor'⟩ := hstep.transfer_rounds hcb hcursor
    obtain ⟨r', hr', hcursor''⟩ := ih (fun _ => hstep.isIn_of_mem hrs) hs hb'
    obtain ⟨first, rest, rfl⟩ := List.exists_cons_of_ne_nil (List.ne_nil_of_mem hr)
    exact ⟨r', hr', hcursor''.trans hcursor'⟩

/-- What comes of a visit is at a place of the text. -/
theorem isIn_of_mem_next {greedy : Bool} {v u : Visit} (hv : v.reached.cursor.IsIn text)
    (hu : u ∈ v.next step greedy) : u.reached.cursor.IsIn text := by
  cases v with
  | stopping r =>
    obtain rfl : u = .stopping r := List.mem_singleton.1 hu
    exact hv
  | continuing r =>
    rcases Visit.mem_around_iff.1 hu with hnext | rfl
    · obtain ⟨s, hs, rfl⟩ := List.mem_map.1 hnext
      have hr : ∀ r' ∈ [r], r'.cursor.IsIn text := List.forall_mem_singleton.2 hv
      exact hstep.isIn_of_mem hr hs
    · exact hv

/-- A visit that goes on comes to the places after one round, and stops at its own. -/
theorem exists_mem_next (greedy : Bool) {m : Nat} {v : Visit} {b : Reached}
    (hv : v.reached.cursor.IsIn text) (hgo : v.continues ∨ m = 0) (h : Rounds R m v.reached b) :
    ∃ u ∈ v.next step greedy, ∃ k ≤ m - 1, (u.continues ∨ k = 0) ∧
      ∃ b', Rounds R k u.reached b' ∧ b'.cursor = b.cursor := by
  cases v with
  | stopping r =>
    obtain rfl : m = 0 := hgo.resolve_left (by simp [Visit.continues])
    exact ⟨_, List.mem_singleton_self _, 0, le_rfl, .inr rfl, b, h, rfl⟩
  | continuing r =>
    cases m with
    | zero => exact ⟨.stopping r, Visit.mem_around_iff.2 (.inr rfl), 0, le_rfl, .inr rfl, b, h, rfl⟩
    | succ m =>
      obtain ⟨c, hrc, hcb⟩ := h
      have hr : ∀ r' ∈ [r], r'.cursor.IsIn text := List.forall_mem_singleton.2 hv
      obtain ⟨s, hs, hcursor⟩ := hstep.complete [r] hr r (List.mem_singleton_self r) c hrc
      exact ⟨.continuing s, Visit.mem_around_iff.2 (.inl (List.mem_map_of_mem hs)), m, le_rfl,
        .inl rfl, hstep.transfer_rounds hcb hcursor⟩

/-- All places after at most a number of rounds more are visited. -/
theorem exists_mem_upTo (greedy : Bool) {m n : Nat} {visits : List Visit}
    (hvisits : ∀ v ∈ visits, v.reached.cursor.IsIn text) {v : Visit} {b : Reached}
    (hv : v ∈ visits) (hm : m ≤ n) (hgo : v.continues ∨ m = 0) (h : Rounds R m v.reached b) :
    ∃ w ∈ upTo step greedy n visits, w.reached.cursor = b.cursor := by
  induction n generalizing m visits v b with
  | zero =>
    obtain rfl : m = 0 := Nat.le_zero.1 hm
    obtain rfl : b = v.reached := h
    exact ⟨v, hv, rfl⟩
  | succ n ih =>
    rw [upTo_succ]
    by_cases hany : visits.any Visit.continues
    · rw [if_pos hany]
      obtain ⟨u, hu, k, hk, hgo, b', hb', hcursor⟩ :=
        hstep.exists_mem_next greedy (hvisits v hv) hgo h
      have hnext : ∀ u ∈ visits.flatMap (Visit.next step greedy), u.reached.cursor.IsIn text := by
        intro u hu
        obtain ⟨w, hw, hwu⟩ := List.mem_flatMap.1 hu
        exact hstep.isIn_of_mem_next (hvisits w hw) hwu
      have hmem : u ∈ visits.flatMap (Visit.next step greedy) := List.mem_flatMap.2 ⟨v, hv, hu⟩
      -- of the visits with the index of this one, another may be the one that is left
      obtain ⟨w, hw, hcontinues, hindex⟩ :=
        (Visit.exists_mem_distinctFrom 0 0 hmem).resolve_left (by simp [Visit.seenIn, Indices.has])
      have hkept : ∀ w ∈ Visit.distinctFrom 0 0 (visits.flatMap (Visit.next step greedy)),
          w.reached.cursor.IsIn text := fun w hw => hnext w (Visit.mem_of_mem_distinctFrom hw)
      have hsame : w.reached.cursor = u.reached.cursor :=
        (hkept w hw).eq_of_index (hnext u hmem) hindex
      obtain ⟨b'', hb'', hcursor'⟩ := hstep.transfer_rounds hb' hsame
      obtain ⟨t, ht, hcursor''⟩ := ih hkept hw (by omega) (hcontinues ▸ hgo) hb''
      exact ⟨t, ht, hcursor''.trans (hcursor'.trans hcursor)⟩
    · rw [if_neg hany]
      -- no visit goes on
      have hstops : ¬v.continues := fun hgo => hany (List.any_eq_true.2 ⟨v, hv, hgo⟩)
      obtain rfl : m = 0 := hgo.resolve_left hstops
      obtain rfl : b = v.reached := h
      exact ⟨v, hv, rfl⟩

end Covers

/-! ### Walks -/

/-- A walk goes on from a place, or did so before. -/
def Going (seen : Indices) (visits : List Visit) (at_ : Cursor) : Prop :=
  seen.has at_.index ∨ ∃ r, .continuing r ∈ visits ∧ r.cursor = at_

/-- A walk stops at a place, or did so before. -/
def Stopping (stops : List Reached) (visits : List Visit) (at_ : Cursor) : Prop :=
  (∃ r ∈ stops, r.cursor = at_) ∨ ∃ r, .stopping r ∈ visits ∧ r.cursor = at_

/-- What a walk keeps. It stops at each place that it went on from, and from there each place that
is one step away is the same or one that it goes on from. -/
structure WalkInvariant (text : List Char) (R : Reached → Reached → Prop) (seen : Indices)
    (stops : List Reached) (visits : List Visit) : Prop where
  /-- The walk stops where it went on. -/
  stopping : ∀ at_ : Cursor, at_.IsIn text → seen.has at_.index → Stopping stops visits at_
  /-- The walk goes on after where it went on. -/
  going : ∀ a b : Reached, a.cursor.IsIn text → seen.has a.index → R a b →
    b.cursor = a.cursor ∨ Going seen visits b.cursor

/-- What a walk keeps does not depend on how it remembers where it stops and goes on. -/
theorem WalkInvariant.mono {text : List Char} {R : Reached → Reached → Prop} {seen : Indices}
    {stops stops' : List Reached} {visits visits' : List Visit}
    (h : WalkInvariant text R seen stops visits)
    (hstopping : ∀ at_, Stopping stops visits at_ → Stopping stops' visits' at_)
    (hgoing : ∀ at_, Going seen visits at_ → Going seen visits' at_) :
    WalkInvariant text R seen stops' visits' :=
  ⟨fun at_ hat hseen => hstopping at_ (h.stopping at_ hat hseen),
    fun a b ha hseen hR => (h.going a b ha hseen hR).imp_right (hgoing b.cursor)⟩

section Steps

variable {seen : Indices} {stops : List Reached} {rest : List Visit} {r : Reached} {at_ : Cursor}

/-- Where the next visit stops is noted. -/
theorem Stopping.of_cons_stopping (h : Stopping stops (.stopping r :: rest) at_) :
    Stopping (r :: stops) rest at_ := by
  simpa [Stopping, or_assoc, or_left_comm, eq_comm] using h

/-- A visit that stops does not go on. -/
theorem Going.of_cons_stopping (h : Going seen (.stopping r :: rest) at_) :
    Going seen rest at_ := by
  simpa [Going] using h

/-- A visit that goes on does not stop, whatever is visited in its place. -/
theorem Stopping.of_cons_continuing (h : Stopping stops (.continuing r :: rest) at_)
    (more : List Visit) : Stopping stops (more ++ rest) at_ := by
  refine h.imp_right ?_
  rintro ⟨r', hr', hcursor⟩
  exact ⟨r', List.mem_append_right _ (by simpa using hr'), hcursor⟩

/-- A visit that goes on where the walk did so before is not needed. -/
theorem Going.of_cons_seen (h : Going seen (.continuing r :: rest) at_)
    (hseen : seen.has r.index) : Going seen rest at_ := by
  rcases h with h | ⟨r', hr', rfl⟩
  · exact .inl h
  · rcases List.mem_cons.1 hr' with heq | hr'
    · cases heq
      exact .inl hseen
    · exact .inr ⟨r', hr', rfl⟩

/-- Where a visit goes on is noted, whatever is visited in its place. -/
theorem Going.insert (h : Going seen (.continuing r :: rest) at_) (more : List Visit) :
    Going (seen.insert r.index) (more ++ rest) at_ := by
  rw [Going, Indices.has_insert, Bool.or_eq_true, decide_eq_true_eq]
  rcases h with h | ⟨r', hr', rfl⟩
  · exact .inl (.inl h)
  · rcases List.mem_cons.1 hr' with heq | hr'
    · cases heq
      exact .inl (.inr rfl)
    · exact .inr ⟨r', List.mem_append_right _ hr', rfl⟩

end Steps

/-- No number of a list is above their greatest one. -/
theorem le_foldl_max {l : List Nat} {k : Nat} (h : k ∈ l) : k ≤ l.foldl Nat.max 0 := by
  have hmax : ∀ (l : List Nat) (n : Nat), n ≤ l.foldl Nat.max n ∧
      ∀ k ∈ l, k ≤ l.foldl Nat.max n := by
    intro l
    induction l with
    | nil => exact fun n => ⟨le_rfl, fun _ h => absurd h List.not_mem_nil⟩
    | cons first rest ih =>
      intro n
      obtain ⟨hle, hrest⟩ := ih (Nat.max n first)
      refine ⟨(Nat.le_max_left n first).trans hle, List.forall_mem_cons.2 ⟨?_, hrest⟩⟩
      exact (Nat.le_max_right n first).trans hle
  exact (hmax l 0).2 k h

/-- What a walk comes to from a place that it goes on from. -/
def expand (step : List Reached → List Reached) (greedy : Bool) (r : Reached) : List Visit :=
  Visit.around greedy r (((step [r]).filter fun s => s.index != r.index).map .continuing)

/-- How many of the last places of a text a walk did not go on from. -/
def unseen (text : List Char) (depth : Nat) (seen : Indices) : Nat :=
  ((Finset.range (depth + 1)).filter fun k => ¬seen.has (text.length - k)).card

/-- Going on from a place leaves fewer. -/
theorem unseen_insert_lt {text : List Char} {depth : Nat} {seen : Indices} {at_ : Cursor}
    (hat : at_.IsIn text) (hdepth : at_.rest.length ≤ depth) (hnew : ¬seen.has at_.index) :
    unseen text depth (seen.insert at_.index) < unseen text depth seen := by
  have hindex : text.length - at_.rest.length = at_.index := by
    rw [← hat.index_add, Nat.add_sub_cancel]
  refine Finset.card_lt_card (Finset.ssubset_iff_subset_ne.2 ⟨?_, fun heq => ?_⟩)
  · intro k hk
    rw [Finset.mem_filter] at hk ⊢
    refine ⟨hk.1, fun hseen => hk.2 ?_⟩
    rw [Indices.has_insert, hseen, Bool.true_or]
  · -- the place itself was left before and is not now
    have hmem : at_.rest.length ∈
        (Finset.range (depth + 1)).filter fun k => ¬seen.has (text.length - k) := by
      rw [Finset.mem_filter, hindex]
      exact ⟨Finset.mem_range.2 (Nat.lt_succ_of_le hdepth), hnew⟩
    rw [← heq, Finset.mem_filter, hindex, Indices.has_insert] at hmem
    simp at hmem

namespace Covers

variable {text : List Char} {step : List Reached → List Reached} {R : Reached → Reached → Prop}
  (hstep : Covers text step R)
include hstep

/-- There are no more steps from a place to others than there are characters after it. -/
theorem length_steps_le {r : Reached} (hr : r.cursor.IsIn text) :
    ((step [r]).filter fun s => s.index != r.index).length ≤ r.cursor.rest.length := by
  have hin : ∀ r' ∈ [r], r'.cursor.IsIn text := List.forall_mem_singleton.2 hr
  have hindex : ∀ s ∈ step [r], s.index + s.cursor.rest.length = text.length := fun s hs =>
    (hstep.isIn_of_mem hin hs).index_add
  -- what is left of the text tells the places apart
  have hnodup : (((step [r]).filter fun s => s.index != r.index).map
      fun s => s.cursor.rest.length).Nodup := by
    rw [List.Nodup, List.pairwise_map]
    refine ((hstep.apart r).filter _).imp_of_mem fun {a b} ha hb hne heq => hne ?_
    have ha := hindex a (List.mem_filter.1 ha).1
    have hb := hindex b (List.mem_filter.1 hb).1
    omega
  have hsubset : ((step [r]).filter fun s => s.index != r.index).map
      (fun s => s.cursor.rest.length) ⊆ List.range r.cursor.rest.length := by
    intro k hk
    obtain ⟨s, hs, rfl⟩ := List.mem_map.1 hk
    obtain ⟨hs, hne⟩ := List.mem_filter.1 hs
    obtain ⟨r₀, hr₀, hR⟩ := hstep.sound _ _ hs
    obtain rfl : r₀ = r := List.mem_singleton.1 hr₀
    have hle : r₀.index ≤ s.index := (hstep.stays r₀ s hr hR).2
    have hs := hindex s hs
    have hr : r₀.index + r₀.cursor.rest.length = text.length := hr.index_add
    rw [bne_iff_ne] at hne
    exact List.mem_range.2 (by omega)
  simpa using (List.subperm_of_subset hnodup hsubset).length_le

/-- What a walk comes to from a place. -/
theorem length_expand_le (greedy : Bool) {r : Reached} (hr : r.cursor.IsIn text) :
    (expand step greedy r).length ≤ r.cursor.rest.length + 1 := by
  have hsteps := hstep.length_steps_le hr
  cases greedy <;> simpa [expand, Visit.around] using hsteps

/-- What a walk comes to from a place of the text is no earlier and in the text. -/
theorem isIn_expand {greedy : Bool} {depth : Nat} {r : Reached} {rest : List Visit}
    (hr : r.cursor.IsIn text) (hdepth : r.cursor.rest.length ≤ depth)
    (hrest : ∀ v ∈ rest, v.reached.cursor.IsIn text ∧ v.reached.cursor.rest.length ≤ depth) :
    ∀ v ∈ expand step greedy r ++ rest,
      v.reached.cursor.IsIn text ∧ v.reached.cursor.rest.length ≤ depth := by
  intro v hv
  rcases List.mem_append.1 hv with hv | hv
  · rcases Visit.mem_around_iff.1 hv with hnext | rfl
    · obtain ⟨s, hs, rfl⟩ := List.mem_map.1 hnext
      obtain ⟨r₀, hr₀, hR⟩ := hstep.sound _ _ (List.mem_filter.1 hs).1
      obtain rfl : r₀ = r := List.mem_singleton.1 hr₀
      obtain ⟨hin, hle⟩ := hstep.stays r₀ s hr hR
      have hs := hin.index_add
      have hr := hr.index_add
      simp only [Reached.index] at hle
      exact ⟨hin, by simp only [Visit.reached]; omega⟩
    · exact ⟨hr, hdepth⟩
  · exact hrest v hv

/-- What a walk keeps is kept when it goes on from a place. -/
theorem expand_invariant (greedy : Bool) {seen : Indices} {stops : List Reached} {r : Reached}
    {rest : List Visit} (hr : r.cursor.IsIn text)
    (hinv : WalkInvariant text R seen stops (.continuing r :: rest)) :
    WalkInvariant text R (seen.insert r.index) stops (expand step greedy r ++ rest) := by
  constructor
  · intro at_ hat hseen
    rw [Indices.has_insert, Bool.or_eq_true, decide_eq_true_eq] at hseen
    rcases hseen with hseen | hindex
    · exact (hinv.stopping at_ hat hseen).of_cons_continuing _
    · have hstop : Visit.stopping r ∈ expand step greedy r := Visit.mem_around_iff.2 (.inr rfl)
      exact .inr ⟨r, List.mem_append_left _ hstop, hr.eq_of_index hat hindex⟩
  · intro a b ha hseen hab
    rw [Indices.has_insert, Bool.or_eq_true, decide_eq_true_eq] at hseen
    rcases hseen with hseen | hindex
    · exact (hinv.going a b ha hseen hab).imp_right fun h => h.insert _
    · have hcursor : r.cursor = a.cursor := hr.eq_of_index ha hindex
      obtain ⟨b', hrb, hb'⟩ := hstep.transfer a b r hab hcursor
      obtain ⟨s, hs, hsb⟩ :=
        hstep.complete [r] (List.forall_mem_singleton.2 hr) r (List.mem_singleton_self r) b' hrb
      -- a step that leads to the place itself is left out
      by_cases hsame : s.index = r.index
      · have hin := hstep.isIn_of_mem (List.forall_mem_singleton.2 hr) hs
        exact .inl (by rw [← hb', ← hsb, hin.eq_of_index hr hsame, hcursor])
      · have hgo : Visit.continuing s ∈ expand step greedy r :=
          Visit.mem_around_iff.2 (.inl (List.mem_map_of_mem (List.mem_filter.2
            ⟨hs, bne_iff_ne.2 hsame⟩)))
        exact .inr (.inr ⟨s, List.mem_append_left _ hgo, hsb.trans hb'⟩)

/-- When nothing is left to be visited, what can be reached from where the walk went on is where it
stops. -/
theorem stopping_of_walk_nil {seen : Indices} {stops : List Reached}
    (hinv : WalkInvariant text R seen stops []) {n : Nat} {a b : Reached}
    (ha : a.cursor.IsIn text) (h : Going seen [] a.cursor) (hrounds : Rounds R n a b) :
    Stopping stops [] b.cursor := by
  induction n generalizing a with
  | zero =>
    obtain rfl : b = a := hrounds
    rcases h with hseen | ⟨r, hr, -⟩
    · exact hinv.stopping b.cursor ha hseen
    · cases hr
  | succ n ih =>
    obtain ⟨c, hac, hcb⟩ := hrounds
    have hc := (hstep.stays a c ha hac).1
    rcases h with hseen | ⟨r, hr, -⟩
    · rcases hinv.going a c ha hseen hac with hsame | hgoing
      · exact ih hc (.inl (by rwa [hsame])) hcb
      · exact ih hc hgoing hcb
    · cases hr

/-- With enough fuel a walk stops where it should, and at all places after a number of rounds from
where it goes on. -/
theorem walk_complete (greedy : Bool) {depth fuel : Nat} {seen : Indices} {stops : List Reached}
    {visits : List Visit}
    (hvisits : ∀ v ∈ visits, v.reached.cursor.IsIn text ∧ v.reached.cursor.rest.length ≤ depth)
    (hinv : WalkInvariant text R seen stops visits)
    (hfuel : visits.length + (depth + 2) * unseen text depth seen < fuel) :
    (∀ at_, Stopping stops visits at_ →
      ∃ r ∈ walk step greedy fuel seen stops visits, r.cursor = at_) ∧
    ∀ (n : Nat) (a b : Reached), a.cursor.IsIn text → Going seen visits a.cursor →
      Rounds R n a b → ∃ r ∈ walk step greedy fuel seen stops visits, r.cursor = b.cursor := by
  -- the fuel pays for the visits that are left and for those that unseen places will add
  induction fuel generalizing seen stops visits with
  | zero => exact absurd hfuel (Nat.not_lt_zero _)
  | succ fuel ih =>
    cases visits with
    | nil =>
      rw [walk]
      have hstops (at_ : Cursor) (h : Stopping stops [] at_) :
          ∃ r ∈ stops.reverse, r.cursor = at_ := by
        rcases h with ⟨r, hr, hcursor⟩ | ⟨r, hr, -⟩
        · exact ⟨r, List.mem_reverse.2 hr, hcursor⟩
        · cases hr
      exact ⟨hstops, fun n a b ha h hrounds =>
        hstops _ (hstep.stopping_of_walk_nil hinv ha h hrounds)⟩
    | cons first rest =>
      rw [List.forall_mem_cons] at hvisits
      rw [List.length_cons] at hfuel
      cases first with
      | stopping r =>
        rw [walk]
        obtain ⟨hstop, hgo⟩ := ih hvisits.2
          (hinv.mono (fun _ => .of_cons_stopping) fun _ => .of_cons_stopping) (by omega)
        exact ⟨fun at_ h => hstop at_ h.of_cons_stopping,
          fun n a b ha h => hgo n a b ha h.of_cons_stopping⟩
      | continuing r =>
        rw [walk]
        by_cases hseen : seen.has r.index
        · rw [if_pos hseen]
          obtain ⟨hstop, hgo⟩ := ih hvisits.2
            (hinv.mono (fun _ h => h.of_cons_continuing []) fun _ h => h.of_cons_seen hseen)
            (by omega)
          exact ⟨fun at_ h => hstop at_ (h.of_cons_continuing []),
            fun n a b ha h => hgo n a b ha (h.of_cons_seen hseen)⟩
        · rw [if_neg hseen]
          have hr : r.cursor.IsIn text := hvisits.1.1
          have hdepth : r.cursor.rest.length ≤ depth := hvisits.1.2
          -- one more place is seen, which pays for the visits that are added
          have hlength := hstep.length_expand_le greedy hr
          have hunseen : unseen text depth (seen.insert r.index) < unseen text depth seen :=
            unseen_insert_lt hr hdepth hseen
          have hproduct := Nat.mul_le_mul_left (depth + 2) (Nat.succ_le_of_lt hunseen)
          obtain ⟨hstop, hgo⟩ := ih (hstep.isIn_expand hr hdepth hvisits.2)
            (hstep.expand_invariant greedy hr hinv) (by
              rw [List.length_append]
              rw [Nat.mul_succ] at hproduct
              omega)
          exact ⟨fun at_ h => hstop at_ (h.of_cons_continuing _),
            fun n a b ha h => hgo n a b ha (h.insert _)⟩

/-- The places where a walk stops are places of the text. -/
theorem isIn_of_mem_walk {greedy : Bool} {fuel : Nat} {visits : List Visit}
    (hvisits : ∀ v ∈ visits, v.reached.cursor.IsIn text) {r : Reached}
    (h : r ∈ walk step greedy fuel 0 [] visits) : r.cursor.IsIn text := by
  rcases exists_of_mem_walk hstep.sound h with hnil | ⟨v, hv, n, hrounds⟩
  · cases hnil
  · exact hrounds.preserves (P := fun s => s.cursor.IsIn text)
      (fun a b ha hab => (hstep.stays a b ha hab).1) (hvisits v hv)

/-- The fuel of a walk is enough. -/
theorem exists_mem_walk {greedy : Bool} {visits : List Visit}
    (hvisits : ∀ v ∈ visits, v.reached.cursor.IsIn text) {v : Visit} (hv : v ∈ visits) {n : Nat}
    (hgo : v.continues ∨ n = 0) {b : Reached} (h : Rounds R n v.reached b) :
    ∃ r ∈ distinct (walk step greedy (walkBound visits) 0 [] visits), r.cursor = b.cursor := by
  let sizes := visits.map fun v => v.reached.cursor.rest.length + 2
  have hsize : ∀ w ∈ visits, w.reached.cursor.rest.length + 2 ≤ sizes.foldl Nat.max 0 :=
    fun w hw => le_foldl_max (List.mem_map_of_mem hw)
  obtain ⟨depth, hdepth⟩ : ∃ depth, sizes.foldl Nat.max 0 = depth + 2 :=
    ⟨sizes.foldl Nat.max 0 - 2, by have := hsize v hv; omega⟩
  have hfuel : visits.length + (depth + 2) * unseen text depth 0 < walkBound visits := by
    have hunseen : unseen text depth 0 ≤ depth + 1 := by
      simpa [unseen] using Finset.card_filter_le (Finset.range (depth + 1)) _
    have hproduct : (depth + 2) * unseen text depth 0 ≤ (depth + 2) * (depth + 2 + 1) :=
      Nat.mul_le_mul_left _ (by omega)
    change _ < sizes.foldl Nat.max 0 * (sizes.foldl Nat.max 0 + 1) + visits.length + 1
    rw [hdepth]
    omega
  have hinv : WalkInvariant text R 0 [] visits := by
    constructor <;> intros <;> simp_all [Indices.has]
  obtain ⟨hstop, hgoes⟩ := hstep.walk_complete greedy
    (fun w hw => ⟨hvisits w hw, by have := hsize w hw; omega⟩) hinv hfuel
  have hwalk : ∃ r ∈ walk step greedy (walkBound visits) 0 [] visits, r.cursor = b.cursor := by
    cases v with
    | continuing r => exact hgoes n r b (hvisits _ hv) (.inr ⟨r, hv, rfl⟩) h
    | stopping r =>
      obtain rfl : n = 0 := hgo.resolve_left (by simp [Visit.continues])
      obtain rfl : b = r := h
      exact hstop b.cursor (.inr ⟨b, hv, rfl⟩)
  obtain ⟨r, hr, hcursor⟩ := hwalk
  obtain ⟨s, hs, hsame⟩ := exists_mem_distinct_cursor
    (fun _ => hstep.isIn_of_mem_walk hvisits) hr
  exact ⟨s, hs, hsame.trans hcursor⟩

/-- After at least one round from a place, a first visit stops where the rounds lead, or goes on
with the rounds that are left. -/
theorem exists_mem_firstVisits {n : Nat} {r b : Reached} (hr : r.cursor.IsIn text)
    (h : Rounds R (n + 1) r b) :
    ∃ v ∈ firstVisits step r, ∃ k, (v.continues ∨ k = 0) ∧
      ∃ b', Rounds R k v.reached b' ∧ b'.cursor = b.cursor := by
  have hin : ∀ r' ∈ [r], r'.cursor.IsIn text := List.forall_mem_singleton.2 hr
  induction n generalizing b with
  | zero =>
    obtain ⟨s, hs, hcursor⟩ := hstep.complete [r] hin r (List.mem_singleton_self r) b
      (Rounds.one_iff.1 h)
    refine ⟨_, List.mem_map_of_mem hs, 0, .inr rfl, s, ?_, hcursor⟩
    split <;> rfl
  | succ n ih =>
    obtain ⟨c, hrc, hcb⟩ := h
    obtain ⟨s, hs, hcursor⟩ := hstep.complete [r] hin r (List.mem_singleton_self r) c hrc
    by_cases hsame : s.index = r.index
    · -- the first round led nowhere, so the rounds that are left begin at the same place
      have hsr : s.cursor = r.cursor := (hstep.isIn_of_mem hin hs).eq_of_index hr hsame
      obtain ⟨b', hb', hcursor'⟩ := hstep.transfer_rounds hcb (hsr.symm.trans hcursor)
      obtain ⟨v, hv, k, hgo, b'', hb'', hcursor''⟩ := ih hb'
      exact ⟨v, hv, k, hgo, b'', hb'', hcursor''.trans hcursor'⟩
    · refine ⟨_, List.mem_map_of_mem hs, n + 1, ?_⟩
      rw [if_neg hsame]
      exact ⟨.inl rfl, hstep.transfer_rounds hcb hcursor⟩

/-- First visits are at places of the text. -/
theorem isIn_of_mem_firstVisits {r : Reached} (hr : r.cursor.IsIn text) {v : Visit}
    (h : v ∈ firstVisits step r) : v.reached.cursor.IsIn text :=
  (hstep.stays r v.reached hr (reached_of_mem_firstVisits hstep.sound h)).1

/-- All places after at least one round are computed. -/
theorem exists_mem_oneOrMore (greedy : Bool) {rs : List Reached}
    (hrs : ∀ r ∈ rs, r.cursor.IsIn text) {n : Nat} {r b : Reached} (hr : r ∈ rs)
    (h : Rounds R (n + 1) r b) : ∃ r' ∈ oneOrMore step greedy rs, r'.cursor = b.cursor := by
  have hvisits : ∀ v ∈ rs.flatMap (firstVisits step), v.reached.cursor.IsIn text := by
    intro v hv
    obtain ⟨r, hr, hv⟩ := List.mem_flatMap.1 hv
    exact hstep.isIn_of_mem_firstVisits (hrs r hr) hv
  obtain ⟨v, hv, k, hgo, b', hb', hcursor⟩ := hstep.exists_mem_firstVisits (hrs r hr) h
  obtain ⟨r', hr', hcursor'⟩ :=
    hstep.exists_mem_walk hvisits (List.mem_flatMap.2 ⟨r, hr, hv⟩) hgo hb'
  exact ⟨r', hr', hcursor'.trans hcursor⟩

/-- All places after some rounds are computed. -/
theorem exists_mem_zeroOrMore {greedy : Bool} {rs : List Reached}
    (hrs : ∀ r ∈ rs, r.cursor.IsIn text) {n : Nat} {r b : Reached} (hr : r ∈ rs)
    (h : Rounds R n r b) : ∃ r' ∈ zeroOrMore step greedy rs, r'.cursor = b.cursor := by
  have hvisits : ∀ v ∈ rs.flatMap fun r => Visit.around greedy r (firstVisits step r),
      v.reached.cursor.IsIn text := by
    intro v hv
    obtain ⟨r, hr, hv⟩ := List.mem_flatMap.1 hv
    rcases Visit.mem_around_iff.1 hv with hv | rfl
    · exact hstep.isIn_of_mem_firstVisits (hrs r hr) hv
    · exact hrs r hr
  -- without a round the repetition stops at once
  obtain ⟨v, hv, k, hgo, b', hb', hcursor⟩ :
      ∃ v ∈ Visit.around greedy r (firstVisits step r), ∃ k, (v.continues ∨ k = 0) ∧
        ∃ b', Rounds R k v.reached b' ∧ b'.cursor = b.cursor := by
    cases n with
    | zero => exact ⟨.stopping r, Visit.mem_around_iff.2 (.inr rfl), 0, .inr rfl, b, h, rfl⟩
    | succ n =>
      obtain ⟨v, hv, hrest⟩ := hstep.exists_mem_firstVisits (hrs r hr) h
      exact ⟨v, Visit.mem_around_iff.2 (.inl hv), hrest⟩
  obtain ⟨r', hr', hcursor'⟩ :=
    hstep.exists_mem_walk hvisits (List.mem_flatMap.2 ⟨r, hr, hv⟩) hgo hb'
  exact ⟨r', hr', hcursor'.trans hcursor⟩

/-- All places after a number of rounds within bounds are computed. -/
theorem exists_mem_repeated {least : Nat} {most : Option Nat} {greedy : Bool} {rs : List Reached}
    (hrs : ∀ r ∈ rs, r.cursor.IsIn text) {n : Nat} (hleast : least ≤ n) (hmost : ∀ m ∈ most, n ≤ m)
    {r b : Reached} (hr : r ∈ rs) (h : Rounds R n r b) :
    ∃ r' ∈ repeated step least most greedy rs, r'.cursor = b.cursor := by
  have htimes : ∀ {k : Nat}, ∀ s ∈ times step k rs, s.cursor.IsIn text := by
    intro k s hs
    obtain ⟨r, hr, hrounds⟩ := exists_of_mem_times hstep.sound hs
    exact hrounds.preserves (P := fun s => s.cursor.IsIn text)
      (fun a b ha hab => (hstep.stays a b ha hab).1) (hrs r hr)
  cases most with
  | some most =>
    obtain ⟨c, hrc, hcb⟩ := Rounds.exists_of_add (m := least) (n := n - least)
      (by rwa [Nat.add_sub_cancel' hleast])
    obtain ⟨s, hs, hcursor⟩ := hstep.exists_mem_times hrs hr hrc
    obtain ⟨b', hb', hcursor'⟩ := hstep.transfer_rounds hcb hcursor
    have hle : n - least ≤ most - least := Nat.sub_le_sub_right (hmost most rfl) least
    have hvisits : ∀ v ∈ (times step least rs).map Visit.continuing,
        v.reached.cursor.IsIn text := List.forall_mem_map.2 fun s hs => htimes s hs
    obtain ⟨w, hw, hcursor''⟩ := hstep.exists_mem_upTo greedy hvisits
      (List.mem_map_of_mem hs) hle (.inl rfl) hb'
    have hreached : ∀ s ∈ (upTo step greedy (most - least)
        ((times step least rs).map Visit.continuing)).map Visit.reached, s.cursor.IsIn text := by
      intro s hs
      obtain ⟨v, hv, rfl⟩ := List.mem_map.1 hs
      obtain ⟨u, hu, m, -, hrounds⟩ := exists_of_mem_upTo hstep.sound hv
      exact hrounds.preserves (P := fun s => s.cursor.IsIn text)
        (fun a b ha hab => (hstep.stays a b ha hab).1) (hvisits u hu)
    obtain ⟨t, ht, hsame⟩ := exists_mem_distinct_cursor hreached (List.mem_map_of_mem hw)
    exact ⟨t, ht, hsame.trans (hcursor''.trans hcursor')⟩
  | none =>
    cases least with
    | zero => exact hstep.exists_mem_zeroOrMore hrs hr h
    | succ least =>
      obtain ⟨c, hrc, hcb⟩ := Rounds.exists_of_add (m := least) (n := n - (least + 1) + 1)
        (by rwa [show least + (n - (least + 1) + 1) = n by omega])
      obtain ⟨s, hs, hcursor⟩ := hstep.exists_mem_times hrs hr hrc
      obtain ⟨b', hb', hcursor'⟩ := hstep.transfer_rounds hcb hcursor
      obtain ⟨t, ht, hcursor''⟩ := hstep.exists_mem_oneOrMore greedy htimes hs hb'
      exact ⟨t, ht, hcursor''.trans hcursor'⟩

end Covers

/-! ### Completeness -/

/-- The places along a run differ in their index, and none is before the first. -/
theorem pairwise_trail (chars : CodeRanges) (n : Nat) (at_ : Cursor) :
    (trail chars n at_).Pairwise (fun a b => a.index < b.index) ∧
      ∀ place ∈ trail chars n at_, at_.index ≤ place.index := by
  induction n generalizing at_ with
  | zero => simp [trail]
  | succ n ih =>
    rw [trail]
    split
    · simp
    next c cs _ =>
      split
      · obtain ⟨hpairwise, hle⟩ := ih (at_.next c cs)
        have hlt : ∀ place ∈ trail chars n (at_.next c cs), at_.index < place.index :=
          fun place hplace => Nat.lt_of_succ_le (hle place hplace)
        refine ⟨.cons hlt hpairwise, List.forall_mem_cons.2 ⟨le_rfl, fun place hplace => ?_⟩⟩
        exact (hlt place hplace).le
      · simp

/-- No place after a number of members of a set is computed twice. -/
theorem apart_repeatedChar (chars : CodeRanges) (least : Nat) (most : Option Nat) (greedy : Bool)
    (r : Reached) : Apart (repeatedChar chars least most greedy r) := by
  have htrail : (trail chars (most.getD r.cursor.rest.length) r.cursor).Pairwise
      fun a b => a.index ≠ b.index := (pairwise_trail ..).1.imp Nat.ne_of_lt
  have hplaces (k : Nat) : ((trail chars (most.getD r.cursor.rest.length) r.cursor).reverse.take
      k).Pairwise fun a b => a.index ≠ b.index :=
    (List.pairwise_reverse.2 (htrail.imp Ne.symm)).sublist (List.take_sublist k _)
  rw [Apart, repeatedChar, List.pairwise_map, run_eq, List.append_nil]
  cases greedy with
  | true => exact hplaces _
  | false => exact List.pairwise_reverse.2 ((hplaces _).imp Ne.symm)

/-- From places that differ in their index, no place is computed twice. -/
theorem apart_ends (p : Pattern) {rs : List Reached} (hrs : Apart rs) : Apart (p.ends rs) := by
  induction p generalizing rs with
  | empty => exact hrs
  | set chars =>
    refine List.pairwise_filterMap.2 (hrs.imp fun {a b} hne a' ha' b' hb' => ?_)
    obtain ⟨c, cs, -, -, rfl⟩ := leads_set_iff.1 ha'
    obtain ⟨d, ds, -, -, rfl⟩ := leads_set_iff.1 hb'
    exact fun heq => hne (Nat.succ.inj heq)
  | assertion a => exact hrs.filter _
  | seq p q ihp ihq =>
    rw [ends]
    split
    · exact .nil
    · exact ihq (ihp hrs)
  | alt p q => exact apart_distinct _
  | repetition p least most greedy ih =>
    refine ends_repetition_induction (motive := Apart) (fun chars r _ _ =>
      apart_repeatedChar chars least most greedy r) ?_
    -- however the bounds are, the places are made distinct at the end
    rw [repeated.eq_def]
    split <;> exact apart_distinct _
  | group number p ih =>
    have hopened : Apart (rs.map Reached.openGroup) := List.pairwise_map.2 hrs
    refine List.pairwise_map.2 ((ih hopened).imp fun hne heq => hne ?_)
    simpa [Reached.index] using heq

/-- Every place of a text that a match leads to is computed, if not with the groups of this
match. -/
def FindsAll (text : List Char) (p : Pattern) : Prop :=
  ∀ rs : List Reached, (∀ r ∈ rs, r.cursor.IsIn text) → ∀ r ∈ rs, ∀ b, p.Leads r b →
    ∃ r' ∈ p.ends rs, r'.cursor = b.cursor

section FindsAll

variable {text : List Char} {p q : Pattern}

/-- An ordered pattern that finds all places computes them each once. -/
theorem FindsAll.covers (h : p.FindsAll text) (hp : p.isOrdered) : Covers text p.ends p.Leads where
  complete := h
  sound _ _ := exists_of_mem_ends hp
  stays _ _ ha h := h.isIn_and_index_le ha
  transfer _ _ _ h := h.transfer
  apart _ := apart_ends p (List.pairwise_singleton ..)

/-- One pattern after another finds all places, if both do. -/
theorem Covers.findsAll_seq (hp : Covers text p.ends p.Leads) (hq : Covers text q.ends q.Leads) :
    (seq p q).FindsAll text := by
  rintro rs hrs r hr b ⟨between, hfirst, hlater⟩
  obtain ⟨s, hs, hcursor⟩ := hp.complete rs hrs r hr between hfirst
  obtain ⟨b', hb', hcursor'⟩ := hlater.transfer hcursor
  obtain ⟨t, ht, hcursor''⟩ := hq.complete (p.ends rs) (fun _ => hp.isIn_of_mem hrs) s hs b' hb'
  refine ⟨t, ?_, hcursor''.trans hcursor'⟩
  rw [ends]
  split
  next hnil =>
    rw [hnil] at hs
    cases hs
  next => exact ht

/-- Either of two patterns finds all places, if both do. -/
theorem Covers.findsAll_alt (hp : Covers text p.ends p.Leads) (hq : Covers text q.ends q.Leads) :
    (alt p q).FindsAll text := by
  intro rs hrs r hr b hb
  have hone {r : Reached} (hr : r ∈ rs) : ∀ r' ∈ [r], r'.cursor.IsIn text :=
    List.forall_mem_singleton.2 (hrs r hr)
  have hin : ∀ s ∈ rs.flatMap (fun r => p.ends [r] ++ q.ends [r]), s.cursor.IsIn text := by
    intro s hs
    obtain ⟨r, hr, hs⟩ := List.mem_flatMap.1 hs
    rcases List.mem_append.1 hs with hs | hs
    · exact hp.isIn_of_mem (hone hr) hs
    · exact hq.isIn_of_mem (hone hr) hs
  obtain ⟨s, hs, hcursor⟩ : ∃ s ∈ p.ends [r] ++ q.ends [r], s.cursor = b.cursor := by
    rcases hb with hb | hb
    · obtain ⟨s, hs, hcursor⟩ := hp.complete [r] (hone hr) r (List.mem_singleton_self r) b hb
      exact ⟨s, List.mem_append_left _ hs, hcursor⟩
    · obtain ⟨s, hs, hcursor⟩ := hq.complete [r] (hone hr) r (List.mem_singleton_self r) b hb
      exact ⟨s, List.mem_append_right _ hs, hcursor⟩
  -- of the ends at this place, another may be the one that is kept
  obtain ⟨t, ht, hsame⟩ := exists_mem_distinct_cursor hin (List.mem_flatMap.2 ⟨r, hr, hs⟩)
  exact ⟨t, ht, hsame.trans hcursor⟩

/-- A repetition finds all places, if its pattern does. -/
theorem Covers.findsAll_repetition (hp : Covers text p.ends p.Leads) (least : Nat)
    (most : Option Nat) (greedy : Bool) : (repetition p least most greedy).FindsAll text := by
  rintro rs hrs r hr b ⟨n, hn, hrounds⟩
  refine ends_repetition_induction
    (motive := fun places => ∃ r' ∈ places, r'.cursor = b.cursor) ?_ ?_
  · rintro chars r' rfl rfl
    obtain rfl : r = r' := List.mem_singleton.1 hr
    exact ⟨b, mem_repeatedChar_iff.2 ⟨n, hn, hrounds⟩, rfl⟩
  · exact hp.exists_mem_repeated hrs hn.1 hn.2 hr hrounds

/-- A group finds all places, if its pattern does. -/
theorem FindsAll.group (h : p.FindsAll text) (number : Nat) : (group number p).FindsAll text := by
  rintro rs hrs r hr b ⟨inner, hinner, rfl⟩
  obtain ⟨s, hs, hcursor⟩ := h _ (List.forall_mem_map.2 hrs : ∀ s ∈ rs.map Reached.openGroup,
    s.cursor.IsIn text) _ (List.mem_map_of_mem hr) inner hinner
  exact ⟨s.closeGroup number, List.mem_map_of_mem hs, by simpa using hcursor⟩

/-- **An ordered pattern finds every place that a match leads to.** -/
theorem findsAll_of_isOrdered (hp : p.isOrdered) (text : List Char) : p.FindsAll text := by
  induction p with
  | empty =>
    rintro rs - r hr b rfl
    exact ⟨b, hr, rfl⟩
  | set chars =>
    intro rs _ r hr b hb
    exact ⟨b, List.mem_filterMap.2 ⟨r, hr, hb⟩, rfl⟩
  | assertion a =>
    rintro rs - r hr b ⟨hholds, rfl⟩
    exact ⟨b, List.mem_filter.2 ⟨hr, hholds⟩, rfl⟩
  | seq p q ihp ihq =>
    rw [isOrdered, Bool.and_eq_true] at hp
    exact ((ihp hp.1).covers hp.1).findsAll_seq ((ihq hp.2).covers hp.2)
  | alt p q ihp ihq =>
    rw [isOrdered, Bool.and_eq_true] at hp
    exact ((ihp hp.1).covers hp.1).findsAll_alt ((ihq hp.2).covers hp.2)
  | repetition p least most greedy ih =>
    rw [isOrdered, Bool.and_eq_true] at hp
    exact ((ih hp.2).covers hp.2).findsAll_repetition least most greedy
  | group number p ih => exact (ih hp).group number

end FindsAll

/-- A pattern with a match at the beginning of a text is found there, and what is found is a match
with its groups. -/
theorem exists_find?_eq_some {p : Pattern} (hp : p.isOrdered) {text : List Char} {b : Reached}
    (h : p.Leads { cursor := .start text } b) :
    ∃ r : Reached, p.Leads { cursor := .start text } r ∧
      p.find? text = some ⟨⟨.start text, r.cursor⟩, r.groups⟩ := by
  have hstart : ∀ r ∈ [({ cursor := .start text } : Reached)], r.cursor.IsIn text :=
    List.forall_mem_singleton.2 (Cursor.isIn_start text)
  obtain ⟨s, hs, -⟩ := findsAll_of_isOrdered hp text _ hstart _ (List.mem_singleton_self _) b h
  obtain ⟨r, others, hends⟩ := List.exists_cons_of_ne_nil (List.ne_nil_of_mem hs)
  obtain ⟨r₀, hr₀, hleads⟩ := exists_of_mem_ends hp (hends ▸ List.mem_cons_self : r ∈ _)
  obtain rfl : r₀ = _ := List.mem_singleton.1 hr₀
  obtain ⟨later, hfollowing⟩ := (Cursor.start text).exists_following_eq
  refine ⟨r, hleads, ?_⟩
  rw [find?, findFrom?, hfollowing, List.findSome?_cons, matchAt?, hends]
  rfl

end Pattern
end Gleaner
