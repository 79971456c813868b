import Gleaner.Pattern.Basic

/-!
# Where a match can lead

`Pattern.ends` computes the places where a match can end, all at once and each place only once.
`Pattern.Leads` says the same for one way through a pattern: a place, with what its groups have
matched, leads to another. Every place that is computed is one that a way leads to.

## Main definitions

* `Rounds`: a number of steps of a relation.
* `Pattern.Leads`: a match of a pattern leads from one place to another.
* `Pattern.isOrdered`: no repetition has a lower bound above its upper one.

## Main results

* `trail`, `repeatedChar_eq`: the places along a run of members of a set.
* `exists_of_mem_repeated`: the places after a repetition are reached in a number of rounds within
  its bounds.
* `exists_of_mem_ends`: every computed place is led to.
-/

namespace Gleaner

open Unicode (CodeRanges)

/-- A number of steps of a relation, one after another. -/
def Rounds {α : Type} (R : α → α → Prop) : Nat → α → α → Prop
  | 0, a, b => b = a
  | n + 1, a, b => ∃ c, R a c ∧ Rounds R n c b

namespace Rounds

variable {α : Type} {R S : α → α → Prop} {a b c : α} {m n : Nat}

/-- One step is one round. -/
theorem one_iff : Rounds R 1 a b ↔ R a b := by
  constructor
  · rintro ⟨c, hac, rfl⟩
    exact hac
  · exact fun h => ⟨b, h, rfl⟩

/-- Rounds after rounds are rounds. -/
theorem add (hab : Rounds R m a b) (hbc : Rounds R n b c) : Rounds R (m + n) a c := by
  induction m generalizing a with
  | zero =>
    obtain rfl : b = a := hab
    rwa [Nat.zero_add]
  | succ m ih =>
    obtain ⟨d, had, hdb⟩ := hab
    rw [Nat.add_right_comm]
    exact ⟨d, had, ih hdb⟩

/-- Rounds may be parted anywhere. -/
theorem exists_of_add (h : Rounds R (m + n) a c) : ∃ b, Rounds R m a b ∧ Rounds R n b c := by
  induction m generalizing a with
  | zero => exact ⟨a, rfl, by rwa [Nat.zero_add] at h⟩
  | succ m ih =>
    rw [Nat.add_right_comm] at h
    obtain ⟨d, had, hdc⟩ := h
    obtain ⟨b, hdb, hbc⟩ := ih hdc
    exact ⟨b, ⟨d, had, hdb⟩, hbc⟩

/-- What each step keeps is kept by rounds. -/
theorem preserves {P : α → Prop} (hstep : ∀ a b, P a → R a b → P b) (h : Rounds R n a b)
    (ha : P a) : P b := by
  induction n generalizing a with
  | zero =>
    obtain rfl : b = a := h
    exact ha
  | succ n ih =>
    obtain ⟨c, hac, hcb⟩ := h
    exact ih hcb (hstep a c ha hac)

end Rounds

namespace Pattern

/-- The lower bound that a repetition of a pattern keeps to. What uses up no text is not repeated
more than once. -/
def clippedLeast (p : Pattern) (least : Nat) : Nat := if p.usesText then least else Nat.min least 1

/-- The upper bound that a repetition of a pattern keeps to. -/
def clippedMost (p : Pattern) (most : Option Nat) : Option Nat :=
  if p.usesText then most else some (Nat.min (most.getD 1) 1)

/-- Whether a repetition of a pattern with these bounds can be one of a number of times. -/
def Allows (p : Pattern) (least : Nat) (most : Option Nat) (n : Nat) : Prop :=
  p.clippedLeast least ≤ n ∧ ∀ m ∈ p.clippedMost most, n ≤ m

/-- A match of a pattern leads from one place to another, with what its groups have matched. -/
def Leads : Pattern → Reached → Reached → Prop
  | .empty => fun r r' => r' = r
  | .set chars => fun r r' => advance? chars r = some r'
  | .assertion a => fun r r' => a.holds r.cursor ∧ r' = r
  | .seq p q => fun r r' => ∃ between, p.Leads r between ∧ q.Leads between r'
  | .alt p q => fun r r' => p.Leads r r' ∨ q.Leads r r'
  | .repetition p least most _ => fun r r' => ∃ n, p.Allows least most n ∧ Rounds p.Leads n r r'
  | .group number p => fun r r' => ∃ inner, p.Leads r.openGroup inner ∧ r' = inner.closeGroup number

/-- A step to the next place along a member of a set. -/
theorem leads_set_iff {chars : CodeRanges} {r r' : Reached} :
    (set chars).Leads r r' ↔ ∃ c cs, r.cursor.rest = c :: cs ∧ chars.contains c ∧
      r' = { r with cursor := r.cursor.next c cs } := by
  change advance? chars r = some r' ↔ _
  unfold advance?
  cases r.cursor.rest with
  | nil => simp
  | cons c cs =>
    by_cases hc : chars.contains c
    · simp only [hc, ↓reduceIte, Option.some.injEq]
      constructor
      · exact fun h => ⟨c, cs, rfl, hc, h.symm⟩
      · rintro ⟨_, _, ⟨rfl, rfl⟩, -, rfl⟩
        rfl
    · simp only [hc, Bool.false_eq_true, ↓reduceIte, reduceCtorEq, false_iff]
      rintro ⟨_, _, ⟨rfl, rfl⟩, hmem, -⟩
      exact hc hmem

/-- Whether no repetition in a pattern has a lower bound above its upper one. -/
def isOrdered : Pattern → Bool
  | .empty => true
  | .set _ => true
  | .assertion _ => true
  | .seq p q => p.isOrdered && q.isOrdered
  | .alt p q => p.isOrdered && q.isOrdered
  | .repetition p least most _ => most.all (least ≤ ·) && p.isOrdered
  | .group _ p => p.isOrdered

/-! ### Places that are listed once -/

/-- Leaving out places adds none. -/
theorem mem_of_mem_distinctFrom {seen : Indices} {rs : List Reached} {r : Reached}
    (h : r ∈ distinctFrom seen rs) : r ∈ rs := by
  induction rs generalizing seen with
  | nil => exact h
  | cons first rest ih =>
    rw [distinctFrom] at h
    split at h
    · exact List.mem_cons_of_mem first (ih h)
    · rcases List.mem_cons.1 h with rfl | h
      · exact List.mem_cons_self
      · exact List.mem_cons_of_mem first (ih h)

/-- Leaving out places adds none. -/
theorem mem_of_mem_distinct {rs : List Reached} {r : Reached} (h : r ∈ distinct rs) : r ∈ rs := by
  rw [distinct.eq_def] at h
  split at h
  · exact h
  · exact mem_of_mem_distinctFrom h

/-- Leaving out visits adds none. -/
theorem Visit.mem_of_mem_distinctFrom {going stopped : Indices} {visits : List Visit} {v : Visit}
    (h : v ∈ Visit.distinctFrom going stopped visits) : v ∈ visits := by
  induction visits generalizing going stopped with
  | nil => exact h
  | cons first rest ih =>
    cases first with
    | continuing r | stopping r =>
      rw [Visit.distinctFrom] at h
      split at h
      · exact List.mem_cons_of_mem _ (ih h)
      · rcases List.mem_cons.1 h with rfl | h
        · exact List.mem_cons_self
        · exact List.mem_cons_of_mem _ (ih h)

/-- Around a place are the place, where the repetition stops, and what it goes on to. -/
theorem Visit.mem_around_iff {greedy : Bool} {r : Reached} {further : List Visit} {v : Visit} :
    v ∈ Visit.around greedy r further ↔ v ∈ further ∨ v = .stopping r := by
  cases greedy <;> simp [Visit.around, or_comm]

/-! ### Repetitions -/

section Repetition

variable {step : List Reached → List Reached} {R : Reached → Reached → Prop}
  (hstep : ∀ rs r', r' ∈ step rs → ∃ r ∈ rs, R r r')
include hstep

/-- The places after a number of steps are reached in as many rounds. -/
theorem exists_of_mem_times {n : Nat} {rs : List Reached} {r' : Reached}
    (h : r' ∈ times step n rs) : ∃ r ∈ rs, Rounds R n r r' := by
  induction n generalizing rs with
  | zero => exact ⟨r', h, rfl⟩
  | succ n ih =>
    cases rs with
    | nil => cases h
    | cons first rest =>
      obtain ⟨between, hbetween, hrounds⟩ := ih h
      obtain ⟨r, hr, hR⟩ := hstep _ _ hbetween
      exact ⟨r, hr, between, hR, hrounds⟩

/-- A visit after at most a number of steps comes of an earlier one in no more rounds. -/
theorem exists_of_mem_upTo {greedy : Bool} {n : Nat} {visits : List Visit} {v : Visit}
    (h : v ∈ upTo step greedy n visits) :
    ∃ w ∈ visits, ∃ m ≤ n, Rounds R m w.reached v.reached := by
  induction n generalizing visits with
  | zero => exact ⟨v, h, 0, Nat.le_refl 0, rfl⟩
  | succ n ih =>
    rw [upTo] at h
    split at h
    · obtain ⟨w, hw, m, hm, hrounds⟩ := ih h
      obtain ⟨u, hu, hwu⟩ := List.mem_flatMap.1 (Visit.mem_of_mem_distinctFrom hw)
      cases u with
      | stopping r =>
        obtain rfl : w = .stopping r := List.mem_singleton.1 hwu
        exact ⟨_, hu, m, Nat.le_succ_of_le hm, hrounds⟩
      | continuing r =>
        rcases Visit.mem_around_iff.1 hwu with hnext | rfl
        · obtain ⟨s, hs, rfl⟩ := List.mem_map.1 hnext
          obtain ⟨r₀, hr₀, hR⟩ := hstep _ _ hs
          obtain rfl : r₀ = r := List.mem_singleton.1 hr₀
          exact ⟨_, hu, m + 1, Nat.succ_le_succ hm, s, hR, hrounds⟩
        · exact ⟨_, hu, m, Nat.le_succ_of_le hm, hrounds⟩
    · exact ⟨v, h, 0, Nat.zero_le _, rfl⟩

/-- Where a walk stops was known before, or comes of a visit in some rounds. -/
theorem exists_of_mem_walk {greedy : Bool} {fuel : Nat} {seen : Indices} {stops : List Reached}
    {visits : List Visit} {r' : Reached} (h : r' ∈ walk step greedy fuel seen stops visits) :
    r' ∈ stops ∨ ∃ v ∈ visits, ∃ n, Rounds R n v.reached r' := by
  -- the next visit is noted, is passed over, or has the visits one step further on in its place
  induction fuel generalizing seen stops visits with
  | zero => exact .inl (List.mem_reverse.1 (by simpa [walk] using h))
  | succ fuel ih =>
    cases visits with
    | nil => exact .inl (by simpa [walk] using h)
    | cons first rest =>
      cases first with
      | stopping r =>
        rw [walk] at h
        rcases ih h with hstops | ⟨v, hv, n, hrounds⟩
        · rcases List.mem_cons.1 hstops with rfl | hstops
          · exact .inr ⟨_, List.mem_cons_self, 0, rfl⟩
          · exact .inl hstops
        · exact .inr ⟨v, List.mem_cons_of_mem _ hv, n, hrounds⟩
      | continuing r =>
        rw [walk] at h
        split at h
        · rcases ih h with hstops | ⟨v, hv, n, hrounds⟩
          · exact .inl hstops
          · exact .inr ⟨v, List.mem_cons_of_mem _ hv, n, hrounds⟩
        · rcases ih h with hstops | ⟨v, hv, n, hrounds⟩
          · exact .inl hstops
          · rcases List.mem_append.1 hv with hv | hv
            · rcases Visit.mem_around_iff.1 hv with hnext | rfl
              · -- the place was one step further on
                obtain ⟨s, hs, rfl⟩ := List.mem_map.1 hnext
                obtain ⟨r₀, hr₀, hR⟩ := hstep _ _ (List.mem_filter.1 hs).1
                obtain rfl : r₀ = r := List.mem_singleton.1 hr₀
                exact .inr ⟨_, List.mem_cons_self, n + 1, s, hR, hrounds⟩
              · exact .inr ⟨_, List.mem_cons_self, n, hrounds⟩
            · exact .inr ⟨v, List.mem_cons_of_mem _ hv, n, hrounds⟩

/-- A first visit is one step away. -/
theorem reached_of_mem_firstVisits {r : Reached} {v : Visit} (h : v ∈ firstVisits step r) :
    R r v.reached := by
  obtain ⟨s, hs, rfl⟩ := List.mem_map.1 h
  obtain ⟨r₀, hr₀, hR⟩ := hstep _ _ hs
  obtain rfl : r₀ = r := List.mem_singleton.1 hr₀
  split <;> exact hR

/-- The places after at least one step are reached in at least one round. -/
theorem exists_of_mem_oneOrMore {greedy : Bool} {rs : List Reached} {r' : Reached}
    (h : r' ∈ oneOrMore step greedy rs) : ∃ r ∈ rs, ∃ n, Rounds R (n + 1) r r' := by
  rcases exists_of_mem_walk hstep (mem_of_mem_distinct h) with hnil | ⟨v, hv, n, hrounds⟩
  · cases hnil
  · obtain ⟨r, hr, hfirst⟩ := List.mem_flatMap.1 hv
    exact ⟨r, hr, n, v.reached, reached_of_mem_firstVisits hstep hfirst, hrounds⟩

/-- The places after any number of steps are reached in some rounds. -/
theorem exists_of_mem_zeroOrMore {greedy : Bool} {rs : List Reached} {r' : Reached}
    (h : r' ∈ zeroOrMore step greedy rs) : ∃ r ∈ rs, ∃ n, Rounds R n r r' := by
  rcases exists_of_mem_walk hstep (mem_of_mem_distinct h) with hnil | ⟨v, hv, n, hrounds⟩
  · cases hnil
  · obtain ⟨r, hr, haround⟩ := List.mem_flatMap.1 hv
    rcases Visit.mem_around_iff.1 haround with hfirst | rfl
    · exact ⟨r, hr, n + 1, v.reached, reached_of_mem_firstVisits hstep hfirst, hrounds⟩
    · exact ⟨r, hr, n, hrounds⟩

/-- The places after a repetition are reached in a number of rounds within its bounds. -/
theorem exists_of_mem_repeated {least : Nat} {most : Option Nat} (hbounds : ∀ m ∈ most, least ≤ m)
    {greedy : Bool} {rs : List Reached} {r' : Reached}
    (h : r' ∈ repeated step least most greedy rs) :
    ∃ r ∈ rs, ∃ n, (least ≤ n ∧ ∀ m ∈ most, n ≤ m) ∧ Rounds R n r r' := by
  cases most with
  | some most =>
    -- the rounds that there have to be come first, then those that there may be
    obtain ⟨v, hv, rfl⟩ := List.mem_map.1 (mem_of_mem_distinct h)
    obtain ⟨w, hw, m, hm, hlater⟩ := exists_of_mem_upTo hstep hv
    obtain ⟨s, hs, rfl⟩ := List.mem_map.1 hw
    obtain ⟨r, hr, hfirst⟩ := exists_of_mem_times hstep hs
    have hle : least ≤ most := hbounds most rfl
    refine ⟨r, hr, least + m, ⟨Nat.le_add_right _ _, ?_⟩, hfirst.add hlater⟩
    rintro _ ⟨⟩
    omega
  | none =>
    cases least with
    | zero =>
      obtain ⟨r, hr, n, hrounds⟩ := exists_of_mem_zeroOrMore hstep h
      exact ⟨r, hr, n, ⟨Nat.zero_le n, fun _ hm => absurd hm (Option.not_mem_none _)⟩, hrounds⟩
    | succ least =>
      obtain ⟨s, hs, n, hlater⟩ := exists_of_mem_oneOrMore hstep h
      obtain ⟨r, hr, hfirst⟩ := exists_of_mem_times hstep hs
      exact ⟨r, hr, least + (n + 1), ⟨by omega, fun _ hm => absurd hm (Option.not_mem_none _)⟩,
        hfirst.add hlater⟩

end Repetition

/-! ### Runs of members of a set -/

/-- A place and those after it, along at most a number of members of a set. -/
def trail (chars : CodeRanges) : Nat → Cursor → List Cursor
  | 0, at_ => [at_]
  | n + 1, at_ =>
    match at_.rest with
    | [] => [at_]
    | c :: cs => if chars.contains c then at_ :: trail chars n (at_.next c cs) else [at_]

/-- A run lists the places along it, the farthest first. -/
theorem run_eq (chars : CodeRanges) (n : Nat) (at_ : Cursor) (before : List Cursor) :
    run chars n at_ before = (trail chars n at_).reverse ++ before := by
  induction n generalizing at_ before with
  | zero => rfl
  | succ n ih =>
    rw [run, trail]
    cases at_.rest with
    | nil => rfl
    | cons c cs =>
      by_cases hc : chars.contains c
      · simp [hc, ih]
      · simp [hc]

/-- The places along a run are those reached in no more rounds than are allowed. -/
theorem getElem?_trail_iff {chars : CodeRanges} {n i : Nat} {r r' : Reached} :
    (∃ place, (trail chars n r.cursor)[i]? = some place ∧ r' = { r with cursor := place }) ↔
      i ≤ n ∧ Rounds (set chars).Leads i r r' := by
  induction n generalizing i r with
  | zero =>
    cases i with
    | zero => simp [trail, Rounds]
    | succ i => simp [trail]
  | succ n ih =>
    cases i with
    | zero =>
      have hfirst : (trail chars (n + 1) r.cursor)[0]? = some r.cursor := by
        rw [trail]
        split
        · rfl
        · split <;> rfl
      simp [hfirst, Rounds]
    | succ i =>
      rw [trail, Rounds]
      cases hrest : r.cursor.rest with
      | nil => simp [Leads, advance?, hrest]
      | cons c cs =>
        by_cases hc : chars.contains c
        · -- after the first member the run goes on from the next place
          have hnext : (set chars).Leads r = (· = { r with cursor := r.cursor.next c cs }) := by
            funext r'
            simp [Leads, advance?, hrest, hc, eq_comm]
          have ih := ih (i := i) (r := { r with cursor := r.cursor.next c cs })
          simpa [hc, hnext] using ih
        · simp [Leads, advance?, hrest, hc]

/-- Each round of a set uses up one character. -/
theorem length_rest_of_rounds {chars : CodeRanges} {n : Nat} {r r' : Reached}
    (h : Rounds (set chars).Leads n r r') :
    r.cursor.rest.length = n + r'.cursor.rest.length := by
  induction n generalizing r with
  | zero =>
    obtain rfl : r' = r := h
    rw [Nat.zero_add]
  | succ n ih =>
    obtain ⟨s, hs, hrounds⟩ := h
    obtain ⟨c, cs, hrest, -, rfl⟩ := leads_set_iff.1 hs
    have hlength : cs.length = n + r'.cursor.rest.length := ih hrounds
    rw [hrest, List.length_cons, hlength, Nat.add_right_comm]

/-- The places after a number of members of a set are reached in a number of rounds within the
bounds. -/
theorem mem_repeatedChar_iff {chars : CodeRanges} {least : Nat} {most : Option Nat} {greedy : Bool}
    {r r' : Reached} :
    r' ∈ repeatedChar chars least most greedy r ↔
      ∃ n, (least ≤ n ∧ ∀ m ∈ most, n ≤ m) ∧ Rounds (set chars).Leads n r r' := by
  -- the place with the number `i` along the run is the one after `i` rounds
  let places := trail chars (most.getD r.cursor.rest.length) r.cursor
  have htake : places.reverse.take (places.reverse.length - least) =
      (places.drop least).reverse := by
    rw [List.reverse_drop, List.length_reverse]
  have hmem : r' ∈ repeatedChar chars least most greedy r ↔
      ∃ place ∈ places.drop least, r' = { r with cursor := place } := by
    rw [repeatedChar]
    simp only [run_eq, List.append_nil, places, htake, List.mem_map] at htake ⊢
    cases greedy <;> simp [eq_comm]
  rw [hmem]
  constructor
  · rintro ⟨place, hplace, rfl⟩
    obtain ⟨i, hi⟩ := List.mem_iff_getElem?.1 hplace
    rw [List.getElem?_drop] at hi
    obtain ⟨hle, hrounds⟩ := getElem?_trail_iff.1 ⟨place, hi, rfl⟩
    refine ⟨least + i, ⟨Nat.le_add_right _ _, ?_⟩, hrounds⟩
    rintro m ⟨⟩
    exact hle
  · rintro ⟨n, ⟨hleast, hmost⟩, hrounds⟩
    have hbound : n ≤ most.getD r.cursor.rest.length := by
      cases most with
      | none =>
        have := length_rest_of_rounds hrounds
        simp only [Option.getD_none]
        omega
      | some m => exact hmost m rfl
    obtain ⟨place, hplace, hr'⟩ := getElem?_trail_iff.2 ⟨hbound, hrounds⟩
    refine ⟨place, List.mem_iff_getElem?.2 ⟨n - least, ?_⟩, hr'⟩
    rw [List.getElem?_drop, Nat.add_sub_cancel' hleast, hplace]

/-! ### Soundness -/

/-- The bounds that a repetition keeps to are ordered if its own are. -/
theorem clippedLeast_le {p : Pattern} {least : Nat} {most : Option Nat}
    (h : most.all (least ≤ ·)) : ∀ m ∈ p.clippedMost most, p.clippedLeast least ≤ m := by
  intro m hm
  rw [clippedMost] at hm
  rw [clippedLeast]
  by_cases huses : p.usesText
  · rw [if_pos huses] at hm ⊢
    subst hm
    simpa using h
  · rw [if_neg huses] at hm ⊢
    cases hm
    change min least 1 ≤ min (most.getD 1) 1
    cases most with
    | none => exact Nat.min_le_right least 1
    | some most =>
      have hle : least ≤ most := by simpa using h
      simp only [Option.getD_some]
      omega

/-- What holds of the places after a run of members of a set and of those after repeated steps
holds of the places after a repetition. -/
theorem ends_repetition_induction {p : Pattern} {least : Nat} {most : Option Nat} {greedy : Bool}
    {rs : List Reached} {motive : List Reached → Prop}
    (run : ∀ chars r, p = .set chars → rs = [r] → motive (repeatedChar chars least most greedy r))
    (general : motive (repeated p.ends (p.clippedLeast least) (p.clippedMost most) greedy rs)) :
    motive ((repetition p least most greedy).ends rs) := by
  have hgeneral : motive (if p.usesText then repeated p.ends least most greedy rs
      else repeated p.ends (Nat.min least 1) (some (Nat.min (most.getD 1) 1)) greedy rs) := by
    rw [clippedLeast, clippedMost] at general
    split <;> simpa [*] using general
  cases p with
  | set chars =>
    match rs with
    | [r] => exact run chars r rfl rfl
    | [] | _ :: _ :: _ => exact hgeneral
  | _ => exact hgeneral

/-- **Every computed place is led to.** -/
theorem exists_of_mem_ends {p : Pattern} (hp : p.isOrdered) {rs : List Reached} {r' : Reached}
    (h : r' ∈ p.ends rs) : ∃ r ∈ rs, p.Leads r r' := by
  induction p generalizing rs r' with
  | empty => exact ⟨r', h, rfl⟩
  | set chars => exact List.mem_filterMap.1 h
  | assertion a => exact ⟨r', (List.mem_filter.1 h).1, (List.mem_filter.1 h).2, rfl⟩
  | seq p q ihp ihq =>
    rw [isOrdered, Bool.and_eq_true] at hp
    rw [ends] at h
    split at h
    next => cases h
    next =>
      obtain ⟨between, hbetween, hq⟩ := ihq hp.2 h
      obtain ⟨r, hr, hp⟩ := ihp hp.1 hbetween
      exact ⟨r, hr, between, hp, hq⟩
  | alt p q ihp ihq =>
    rw [isOrdered, Bool.and_eq_true] at hp
    rw [ends] at h
    obtain ⟨r, hr, hr'⟩ := List.mem_flatMap.1 (mem_of_mem_distinct h)
    rcases List.mem_append.1 hr' with hr' | hr'
    · obtain ⟨s, hs, hleads⟩ := ihp hp.1 hr'
      obtain rfl : s = r := List.mem_singleton.1 hs
      exact ⟨s, hr, .inl hleads⟩
    · obtain ⟨s, hs, hleads⟩ := ihq hp.2 hr'
      obtain rfl : s = r := List.mem_singleton.1 hs
      exact ⟨s, hr, .inr hleads⟩
  | repetition p least most greedy ih =>
    rw [isOrdered, Bool.and_eq_true] at hp
    -- a set is repeated along a run, any other pattern step by step
    refine ends_repetition_induction (motive := fun places => r' ∈ places → ∃ r ∈ rs,
      (repetition p least most greedy).Leads r r') ?_ (fun h => ?_) h
    · rintro chars r rfl rfl h
      obtain ⟨n, hn, hrounds⟩ := mem_repeatedChar_iff.1 h
      exact ⟨r, List.mem_singleton_self r, n, hn, hrounds⟩
    · exact exists_of_mem_repeated (fun rs r' => ih hp.2) (clippedLeast_le hp.1) h
  | group number p ih =>
    obtain ⟨inner, hinner, rfl⟩ := List.mem_map.1 h
    obtain ⟨opened, hopened, hleads⟩ := ih hp hinner
    obtain ⟨r, hr, rfl⟩ := List.mem_map.1 hopened
    exact ⟨r, hr, inner, hleads, rfl⟩

end Pattern
end Gleaner
