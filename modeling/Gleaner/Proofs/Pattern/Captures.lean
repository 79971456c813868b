import Gleaner.Proofs.Pattern.Texts

/-!
# What the groups of a match hold

A pattern without conditions matches the same texts wherever they stand, and its groups hold
stretches of them. So a match can be described without places: by its text and by the texts of its
groups. A pattern between the beginning and the end of the text then describes whole texts.

## Main definitions

* `Pattern.Captures`: the texts of a pattern, with the texts of its groups.
* `Pattern.Reads`: what happens between two places.
* `Pattern.anchored`: patterns between the beginning and the end of a text.

## Main results

* `Leads.exists_captures`, `Captures.exists_leads`: what is between the places that a match leads
  from and to is what the pattern captures.
* `exists_leads_of_find?`: an anchored pattern is found from the beginning to the end of a text.
* `exists_captures_of_find?`, `exists_find?_of_captures`: an anchored pattern is found in the whole
  texts that it captures, with their groups.
* `captures_seqAll_cons_iff`, `captures_optional_iff`, `captures_group_iff`: the captures of the
  patterns that dates are read by.
-/

namespace Gleaner

/-- Places after the first one have a character before them. -/
theorem Cursor.eq_start_of_mem_following {text : List Char} {at_ : Cursor}
    (hat : at_ ∈ (start text).following) (hfirst : at_.previous = none) : at_ = start text := by
  have hlater {index : Nat} {c : Char} {cs : List Char} {at_ : Cursor}
      (hat : at_ ∈ following.go index (some c) cs) : at_.previous ≠ none := by
    induction cs generalizing index c with
    | nil =>
      obtain rfl := List.mem_singleton.1 hat
      exact Option.some_ne_none c
    | cons d cs ih =>
      rcases List.mem_cons.1 hat with rfl | hat
      · exact Option.some_ne_none c
      · exact ih hat
  cases text with
  | nil => exact List.mem_singleton.1 hat
  | cons c cs =>
    rcases List.mem_cons.1 hat with rfl | hat
    · rfl
    · exact absurd hfirst (hlater hat)

namespace Pattern

/-- The texts of groups, the latest first. -/
abbrev Captured := List (Nat × List Char)

/-- The texts that the groups hold at a place. -/
def Reached.captured (r : Reached) : Captured := r.groups.map fun g => (g.1, g.2.text)

/-- The texts that a pattern without conditions matches, with the texts of its groups. -/
def Captures : Pattern → List Char → Captured → Prop
  | .empty => fun text caps => text = [] ∧ caps = []
  | .set chars => fun text caps => (∃ c, chars.contains c ∧ text = [c]) ∧ caps = []
  | .assertion _ => fun _ _ => False
  | .seq p q => fun text caps => ∃ first caps₁ second caps₂, p.Captures first caps₁ ∧
      q.Captures second caps₂ ∧ text = first ++ second ∧ caps = caps₂ ++ caps₁
  | .alt p q => fun text caps => p.Captures text caps ∨ q.Captures text caps
  | .repetition p least most _ => fun text caps => ∃ parts : List (List Char × Captured),
      p.Allows least most parts.length ∧ (∀ part ∈ parts, p.Captures part.1 part.2) ∧
      text = (parts.map Prod.fst).flatten ∧ caps = (parts.map Prod.snd).reverse.flatten
  | .group number p => fun text caps => ∃ inner, p.Captures text inner ∧
      caps = (number, text) :: inner

/-- Whether a pattern has no conditions. -/
def isFree : Pattern → Bool
  | .empty => true
  | .set _ => true
  | .assertion _ => false
  | .seq p q => p.isFree && q.isFree
  | .alt p q => p.isFree && q.isFree
  | .repetition p _ _ _ => p.isFree
  | .group _ p => p.isFree

/-- Free patterns one after another are free. -/
theorem isFree_seqAll {ps : List Pattern} (h : ∀ p ∈ ps, p.isFree) : (seqAll ps).isFree := by
  induction ps with
  | nil => rfl
  | cons p rest ih =>
    rw [List.forall_mem_cons] at h
    cases rest with
    | nil => exact h.1
    | cons q rest => exact Bool.and_eq_true_iff.2 ⟨h.1, ih h.2⟩

/-! ### Between two places -/

/-- From one place to another a text is read, and groups get texts. -/
structure Reads (r r' : Reached) (text : List Char) (caps : Captured) : Prop where
  /-- The text stands at the first place. -/
  stands : text <+: r.cursor.rest
  /-- The second place is after the text. -/
  cursor_eq : r'.cursor = r.cursor.after text
  /-- The groups around the places are the same. -/
  opened_eq : r'.opened = r.opened
  /-- The groups have got the texts. -/
  captured_eq : r'.captured = caps ++ r.captured

namespace Reads

variable {r s r' : Reached} {text more : List Char} {caps caps' : Captured}

/-- Nothing is read where one stays. -/
theorem refl (r : Reached) : Reads r r [] [] := ⟨List.nil_prefix, rfl, rfl, rfl⟩

/-- Two texts are read one after the other. -/
theorem trans (h : Reads r s text caps) (h' : Reads s r' more caps') :
    Reads r r' (text ++ more) (caps' ++ caps) where
  stands := by
    have hmore := h'.stands
    rw [h.cursor_eq, Cursor.rest_after] at hmore
    exact append_prefix_iff.2 ⟨h.stands, hmore⟩
  cursor_eq := by rw [h'.cursor_eq, h.cursor_eq, Cursor.after_append]
  opened_eq := h'.opened_eq.trans h.opened_eq
  captured_eq := by rw [h'.captured_eq, h.captured_eq, List.append_assoc]

/-- What stands after a text stands at the place after it. -/
theorem stands_right (h : Reads r s text caps) (hstands : text ++ more <+: r.cursor.rest) :
    more <+: s.cursor.rest := by
  rw [h.cursor_eq, Cursor.rest_after]
  exact (append_prefix_iff.1 hstands).2

/-- A group gets the text that is read inside of it. -/
theorem closeGroup (number : Nat) (h : Reads r.openGroup r' text caps) :
    Reads r (r'.closeGroup number) text ((number, text) :: caps) := by
  have hcursor : r'.cursor = r.cursor.after text := h.cursor_eq
  -- the group that ends here is the one that was opened at the first place
  have hclose : r'.closeGroup number =
      { r' with opened := r.opened, groups := (number, ⟨r.cursor, r'.cursor⟩) :: r'.groups } := by
    have hopened : r'.opened = r.cursor :: r.opened := h.opened_eq
    rw [Reached.closeGroup, hopened]
  rw [hclose]
  refine ⟨h.stands, hcursor, rfl, ?_⟩
  have htext : Span.text ⟨r.cursor, r'.cursor⟩ = text := by
    rw [Span.text, hcursor]
    exact Cursor.textTo_after h.stands
  have hcaptured : r'.captured = caps ++ r.captured := h.captured_eq
  rw [List.cons_append, ← hcaptured, Reached.captured, List.map_cons, htext]
  rfl

end Reads

/-! ### Matches and captures -/

section Matches

variable {p : Pattern} {r r' : Reached} {text : List Char} {caps : Captured}

/-- Rounds read parts, if each round reads a part. -/
theorem exists_parts_of_rounds
    (h : ∀ {r r' : Reached}, p.Leads r r' →
      ∃ text caps, p.Captures text caps ∧ Reads r r' text caps)
    {n : Nat} (hrounds : Rounds p.Leads n r r') :
    ∃ parts : List (List Char × Captured), parts.length = n ∧
      (∀ part ∈ parts, p.Captures part.1 part.2) ∧
      Reads r r' (parts.map Prod.fst).flatten (parts.map Prod.snd).reverse.flatten := by
  -- the first round reads the first part, and the rounds after it read the others
  induction n generalizing r with
  | zero =>
    obtain rfl : r' = r := hrounds
    exact ⟨[], rfl, fun _ hpart => absurd hpart List.not_mem_nil, Reads.refl r'⟩
  | succ n ih =>
    obtain ⟨between, hfirst, hlater⟩ := hrounds
    obtain ⟨text, caps, hcaps, hreads⟩ := h hfirst
    obtain ⟨parts, rfl, hparts, hreads'⟩ := ih hlater
    refine ⟨(text, caps) :: parts, rfl, List.forall_mem_cons.2 ⟨hcaps, hparts⟩, ?_⟩
    simpa using hreads.trans hreads'

/-- Parts are read in rounds, if each part is read in a round. -/
theorem exists_rounds_of_parts
    (h : ∀ {r : Reached} {text caps}, p.Captures text caps → text <+: r.cursor.rest →
      ∃ r', p.Leads r r' ∧ Reads r r' text caps)
    {parts : List (List Char × Captured)} (hparts : ∀ part ∈ parts, p.Captures part.1 part.2)
    (hstands : (parts.map Prod.fst).flatten <+: r.cursor.rest) :
    ∃ r', Rounds p.Leads parts.length r r' ∧
      Reads r r' (parts.map Prod.fst).flatten (parts.map Prod.snd).reverse.flatten := by
  induction parts generalizing r with
  | nil => exact ⟨r, rfl, Reads.refl r⟩
  | cons part parts ih =>
    rw [List.forall_mem_cons] at hparts
    rw [List.map_cons, List.flatten_cons] at hstands
    obtain ⟨between, hfirst, hreads⟩ := h hparts.1 ((List.prefix_append _ _).trans hstands)
    obtain ⟨r', hlater, hreads'⟩ := ih hparts.2 (hreads.stands_right hstands)
    refine ⟨r', ⟨between, hfirst, hlater⟩, ?_⟩
    simpa using hreads.trans hreads'

/-- What a match reads, the pattern captures. -/
theorem Leads.exists_captures (hp : p.isFree) (h : p.Leads r r') :
    ∃ text caps, p.Captures text caps ∧ Reads r r' text caps := by
  induction p generalizing r r' with
  | empty =>
    obtain rfl : r' = r := h
    exact ⟨[], [], ⟨rfl, rfl⟩, Reads.refl r'⟩
  | set chars =>
    obtain ⟨text, hacc, hstands, rfl⟩ := (leads_iff_of_isPlain (p := .set chars) rfl).1 h
    exact ⟨text, [], ⟨hacc, rfl⟩, hstands, rfl, rfl, rfl⟩
  | assertion a => cases hp
  | seq p q ihp ihq =>
    rw [isFree, Bool.and_eq_true] at hp
    obtain ⟨between, hfirst, hsecond⟩ := h
    obtain ⟨first, caps₁, hcaps₁, hreads₁⟩ := ihp hp.1 hfirst
    obtain ⟨second, caps₂, hcaps₂, hreads₂⟩ := ihq hp.2 hsecond
    exact ⟨_, _, ⟨first, caps₁, second, caps₂, hcaps₁, hcaps₂, rfl, rfl⟩, hreads₁.trans hreads₂⟩
  | alt p q ihp ihq =>
    rw [isFree, Bool.and_eq_true] at hp
    rcases h with h | h
    · obtain ⟨text, caps, hcaps, hreads⟩ := ihp hp.1 h
      exact ⟨text, caps, .inl hcaps, hreads⟩
    · obtain ⟨text, caps, hcaps, hreads⟩ := ihq hp.2 h
      exact ⟨text, caps, .inr hcaps, hreads⟩
  | repetition p least most greedy ih =>
    -- as many parts are captured as there are rounds, so the bounds are kept
    obtain ⟨n, hallows, hrounds⟩ := h
    obtain ⟨parts, rfl, hparts, hreads⟩ := exists_parts_of_rounds (ih hp) hrounds
    exact ⟨_, _, ⟨parts, hallows, hparts, rfl, rfl⟩, hreads⟩
  | group number p ih =>
    obtain ⟨inner, hinner, rfl⟩ := h
    obtain ⟨text, caps, hcaps, hreads⟩ := ih hp hinner
    exact ⟨text, _, ⟨caps, hcaps, rfl⟩, hreads.closeGroup number⟩

/-- What a pattern captures, it matches wherever the text stands. -/
theorem Captures.exists_leads (h : p.Captures text caps) (hstands : text <+: r.cursor.rest) :
    ∃ r', p.Leads r r' ∧ Reads r r' text caps := by
  induction p generalizing r text caps with
  | empty =>
    obtain ⟨rfl, rfl⟩ := h
    exact ⟨r, rfl, Reads.refl r⟩
  | set chars =>
    obtain ⟨hacc, rfl⟩ := h
    exact ⟨r.after text, (leads_iff_of_isPlain (p := .set chars) rfl).2 ⟨text, hacc, hstands, rfl⟩,
      hstands, rfl, rfl, rfl⟩
  | assertion a => exact h.elim
  | seq p q ihp ihq =>
    obtain ⟨first, caps₁, second, caps₂, hcaps₁, hcaps₂, rfl, rfl⟩ := h
    obtain ⟨between, hfirst, hreads₁⟩ := ihp hcaps₁ ((List.prefix_append _ _).trans hstands)
    obtain ⟨r', hsecond, hreads₂⟩ := ihq hcaps₂ (hreads₁.stands_right hstands)
    exact ⟨r', ⟨between, hfirst, hsecond⟩, hreads₁.trans hreads₂⟩
  | alt p q ihp ihq =>
    rcases h with h | h
    · obtain ⟨r', hleads, hreads⟩ := ihp h hstands
      exact ⟨r', .inl hleads, hreads⟩
    · obtain ⟨r', hleads, hreads⟩ := ihq h hstands
      exact ⟨r', .inr hleads, hreads⟩
  | repetition p least most greedy ih =>
    obtain ⟨parts, hallows, hparts, rfl, rfl⟩ := h
    obtain ⟨r', hrounds, hreads⟩ := exists_rounds_of_parts ih hparts hstands
    exact ⟨r', ⟨parts.length, hallows, hrounds⟩, hreads⟩
  | group number p ih =>
    -- what is inside of the group is read from the place where the group has been opened
    obtain ⟨inner, hinner, rfl⟩ := h
    obtain ⟨r', hleads, hreads⟩ := ih (r := r.openGroup) hinner hstands
    exact ⟨r'.closeGroup number, ⟨r', hleads, rfl⟩, hreads.closeGroup number⟩

end Matches

/-! ### The captures of some patterns -/

section Captures

variable {p : Pattern} {number : Nat} {text : List Char} {caps : Captured}

/-- A plain pattern captures its texts, without groups. -/
theorem captures_iff_of_isPlain (hp : p.isPlain) :
    p.Captures text caps ↔ p.Accepts text ∧ caps = [] := by
  induction p generalizing text caps with
  | empty => rfl
  | set chars => rfl
  | assertion a => cases hp
  | seq p q ihp ihq =>
    rw [isPlain, Bool.and_eq_true] at hp
    simp only [Captures, Accepts, ihp hp.1, ihq hp.2]
    constructor
    · rintro ⟨first, _, second, _, ⟨hfirst, rfl⟩, ⟨hsecond, rfl⟩, rfl, rfl⟩
      exact ⟨⟨first, second, hfirst, hsecond, rfl⟩, rfl⟩
    · rintro ⟨⟨first, second, hfirst, hsecond, rfl⟩, rfl⟩
      exact ⟨first, [], second, [], ⟨hfirst, rfl⟩, ⟨hsecond, rfl⟩, rfl, rfl⟩
  | alt p q ihp ihq =>
    rw [isPlain, Bool.and_eq_true] at hp
    simp only [Captures, Accepts, ihp hp.1, ihq hp.2, or_and_right]
  | repetition p least most greedy ih =>
    simp only [Captures, Accepts, ih hp]
    constructor
    · rintro ⟨parts, hallows, hparts, rfl, rfl⟩
      refine ⟨⟨parts.map Prod.fst, by rwa [List.length_map],
        List.forall_mem_map.2 fun part hpart => (hparts part hpart).1, rfl⟩, ?_⟩
      simpa using fun part text hpart => (hparts (text, part) hpart).2
    · rintro ⟨⟨parts, hallows, hparts, rfl⟩, rfl⟩
      refine ⟨parts.map (·, []), by rwa [List.length_map],
        List.forall_mem_map.2 fun part hpart => ⟨hparts part hpart, rfl⟩, ?_, ?_⟩
      · simp [Function.comp_def]
      · simp [Function.comp_def]
  | group number p => cases hp

/-- A plain pattern as a group captures its texts under its number. -/
theorem captures_group_iff (hp : p.isPlain) :
    (group number p).Captures text caps ↔ p.Accepts text ∧ caps = [(number, text)] := by
  simp only [Captures, captures_iff_of_isPlain hp]
  constructor
  · rintro ⟨_, ⟨hacc, rfl⟩, rfl⟩
    exact ⟨hacc, rfl⟩
  · rintro ⟨hacc, rfl⟩
    exact ⟨[], ⟨hacc, rfl⟩, rfl⟩

/-- The captures of patterns one after another. -/
theorem captures_seqAll_cons_iff (rest : List Pattern) :
    (seqAll (p :: rest)).Captures text caps ↔ ∃ first caps₁ second caps₂,
      p.Captures first caps₁ ∧ (seqAll rest).Captures second caps₂ ∧ text = first ++ second ∧
        caps = caps₂ ++ caps₁ := by
  cases rest with
  | nil => simp [seqAll, Captures]
  | cons q rest => rfl

/-- The captures of two lists of patterns, one after the other. -/
theorem captures_seqAll_append_iff {ps qs : List Pattern} :
    (seqAll (ps ++ qs)).Captures text caps ↔ ∃ first caps₁ second caps₂,
      (seqAll ps).Captures first caps₁ ∧ (seqAll qs).Captures second caps₂ ∧
        text = first ++ second ∧ caps = caps₂ ++ caps₁ := by
  induction ps generalizing text caps with
  | nil => simp [seqAll, Captures]
  | cons p rest ih =>
    simp only [List.cons_append, captures_seqAll_cons_iff, ih]
    constructor
    · rintro ⟨a, ca, _, _, ha, ⟨b, cb, c, cc, hb, hc, rfl, rfl⟩, rfl, rfl⟩
      exact ⟨a ++ b, cb ++ ca, c, cc, ⟨a, ca, b, cb, ha, hb, rfl, rfl⟩, hc, by simp, by simp⟩
    · rintro ⟨_, _, c, cc, ⟨a, ca, b, cb, ha, hb, rfl, rfl⟩, hc, rfl, rfl⟩
      exact ⟨a, ca, b ++ c, cc ++ cb, ha, ⟨b, cb, c, cc, hb, hc, rfl, rfl⟩, by simp, by simp⟩

/-- A pattern that may be missing captures nothing, or what the pattern captures. -/
theorem captures_optional_iff (hp : p.usesText) :
    p.optional.Captures text caps ↔ (text = [] ∧ caps = []) ∨ p.Captures text caps := by
  constructor
  · rintro ⟨parts, hallows, hparts, rfl, rfl⟩
    have hle : parts.length ≤ 1 := (allows_optional_iff hp).1 hallows
    rcases parts with _ | ⟨part, _ | ⟨other, more⟩⟩
    · exact .inl ⟨rfl, rfl⟩
    · exact .inr (by simpa using hparts)
    · simp at hle
  · rintro (⟨rfl, rfl⟩ | h)
    · exact ⟨[], (allows_optional_iff hp).2 (Nat.zero_le 1), fun _ h => absurd h List.not_mem_nil,
        rfl, rfl⟩
    · exact ⟨[(text, caps)], (allows_optional_iff hp).2 le_rfl, List.forall_mem_singleton.2 h,
        by simp, by simp⟩

end Captures

/-! ### Whole texts -/

section Anchored

variable {ps : List Pattern} {text : List Char} {caps : Captured}

/-- Patterns one after another, between the beginning and the end of a text. -/
def anchored (ps : List Pattern) : Pattern :=
  seqAll (.assertion .textStart :: (ps ++ [.assertion .textEnd]))

/-- A match of two lists of patterns is one of the first and then of the second. -/
theorem leads_seqAll_append_iff {qs : List Pattern} {r r' : Reached} :
    (seqAll (ps ++ qs)).Leads r r' ↔
      ∃ between, (seqAll ps).Leads r between ∧ (seqAll qs).Leads between r' := by
  induction ps generalizing r with
  | nil => simp [seqAll, Leads]
  | cons p rest ih =>
    simp only [List.cons_append, leads_seqAll_cons_iff, ih]
    constructor
    · rintro ⟨s, hfirst, t, hrest, hmore⟩
      exact ⟨t, ⟨s, hfirst, hrest⟩, hmore⟩
    · rintro ⟨t, ⟨s, hfirst, hrest⟩, hmore⟩
      exact ⟨s, hfirst, t, hrest, hmore⟩

/-- A match of anchored patterns is one of the patterns that begins at the beginning and ends at the
end. -/
theorem leads_anchored_iff {r r' : Reached} :
    (anchored ps).Leads r r' ↔
      r.cursor.previous = none ∧ (seqAll ps).Leads r r' ∧ r'.cursor.rest = [] := by
  have hstart {s : Reached} : (assertion .textStart).Leads r s ↔
      r.cursor.previous = none ∧ s = r := by
    simp [Leads, Assertion.holds]
  have hend {s : Reached} : (seqAll [assertion .textEnd]).Leads s r' ↔
      s.cursor.rest = [] ∧ r' = s := by
    simp [seqAll, Leads, Assertion.holds]
  rw [anchored, leads_seqAll_cons_iff]
  simp only [leads_seqAll_append_iff, hstart, hend]
  constructor
  · rintro ⟨_, ⟨hprevious, rfl⟩, _, hleads, hrest, rfl⟩
    exact ⟨hprevious, hleads, hrest⟩
  · rintro ⟨hprevious, hleads, hrest⟩
    exact ⟨r, ⟨hprevious, rfl⟩, r', hleads, hrest, rfl⟩

/-- Anchored patterns are ordered if all of them are. -/
theorem isOrdered_anchored (hps : ∀ p ∈ ps, p.isOrdered) : (anchored ps).isOrdered := by
  refine isOrdered_seqAll fun p hp => ?_
  simp only [List.mem_cons, List.mem_append, List.not_mem_nil, or_false] at hp
  rcases hp with rfl | hp | rfl
  · rfl
  · exact hps p hp
  · rfl

/-- The texts of the groups of a match. -/
theorem group?_eq_lookup {m : Match} {r : Reached} (hm : m.groups = r.groups) {number : Nat}
    (hnumber : number ≠ 0) : m.group? number = r.captured.lookup number := by
  have hlookup (groups : List (Nat × Span)) : (groups.lookup number).map Span.text =
      (groups.map fun g => (g.1, g.2.text)).lookup number := by
    induction groups with
    | nil => rfl
    | cons g groups ih =>
      rw [List.map_cons, List.lookup_cons, List.lookup_cons]
      cases number == g.1
      · exact ih
      · rfl
  rw [Match.group?, if_neg hnumber, hm, hlookup, Reached.captured]

/-- What anchored patterns find is a match from the beginning of the text. -/
theorem exists_leads_of_find? (hordered : ∀ p ∈ ps, p.isOrdered) {m : Match}
    (h : (anchored ps).find? text = some m) :
    ∃ r : Reached, (anchored ps).Leads { cursor := .start text } r ∧ m.groups = r.groups := by
  obtain ⟨at_, hat, hmatch⟩ := List.exists_of_findSome?_eq_some h
  obtain ⟨r, hhead, rfl⟩ := Option.map_eq_some_iff.1 hmatch
  obtain ⟨r₀, hr₀, hleads⟩ := exists_of_mem_ends (isOrdered_anchored hordered)
    (List.mem_of_mem_head? hhead)
  obtain rfl : r₀ = _ := List.mem_singleton.1 hr₀
  -- only the first place has no character before it
  obtain rfl := Cursor.eq_start_of_mem_following hat (leads_anchored_iff.1 hleads).1
  exact ⟨r, hleads, rfl⟩

/-- What anchored patterns find is the whole text, with groups that they capture. -/
theorem exists_captures_of_find? (hordered : ∀ p ∈ ps, p.isOrdered) (hfree : ∀ p ∈ ps, p.isFree)
    {m : Match} (h : (anchored ps).find? text = some m) :
    ∃ caps, (seqAll ps).Captures text caps ∧
      ∀ number, number ≠ 0 → m.group? number = caps.lookup number := by
  obtain ⟨r, hleads, hgroups⟩ := exists_leads_of_find? hordered h
  obtain ⟨-, hbody, hrest⟩ := leads_anchored_iff.1 hleads
  obtain ⟨read, caps, hcaps, hreads⟩ := hbody.exists_captures (isFree_seqAll hfree)
  -- nothing is left after the last place, so all of the text has been read
  have hwhole : read = text := by
    refine hreads.stands.eq_of_length_le ?_
    rwa [hreads.cursor_eq, Cursor.rest_after, List.drop_eq_nil_iff] at hrest
  have hcaptured : r.captured = caps := by
    rw [hreads.captured_eq]
    exact List.append_nil caps
  exact ⟨caps, hwhole ▸ hcaps, fun number hnumber => hcaptured ▸ group?_eq_lookup hgroups hnumber⟩

/-- Anchored patterns are found in a text that they capture. -/
theorem exists_find?_of_captures (hordered : ∀ p ∈ ps, p.isOrdered)
    (h : (seqAll ps).Captures text caps) : ∃ m, (anchored ps).find? text = some m := by
  obtain ⟨r, hbody, hreads⟩ :=
    h.exists_leads (r := { cursor := .start text }) (List.prefix_refl text)
  have hrest : r.cursor.rest = [] := by
    rw [hreads.cursor_eq, Cursor.rest_after]
    exact List.drop_length
  obtain ⟨_, -, hfind⟩ := exists_find?_eq_some (isOrdered_anchored hordered)
    (leads_anchored_iff.2 ⟨rfl, hbody, hrest⟩)
  exact ⟨_, hfind⟩

end Anchored

end Pattern
end Gleaner
