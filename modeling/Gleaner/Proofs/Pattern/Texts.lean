import Gleaner.Proofs.Pattern.Complete
import Gleaner.Proofs.Unicode.Classes

/-!
# The texts of plain patterns

A pattern without conditions and groups matches some texts, wherever these stand. A match of it
leads from a place to the one after such a text, and nothing else changes.

## Main definitions

* `Cursor.after`, `Reached.after`: the place after a text.
* `Pattern.Accepts`: the texts that a plain pattern matches.
* `Pattern.isPlain`: a pattern without conditions and groups.

## Main results

* `leads_iff_of_isPlain`: a match of a plain pattern reads one of its texts.
* `accepts_repetition_set_iff`, `accepts_literal_iff`, …: the texts of the patterns that dates and
  numbers are read by.
-/

namespace Gleaner

open Unicode (CodeRanges)

/-! ### The place after a text -/

/-- The place after a text that stands at a place. -/
def Cursor.after (at_ : Cursor) : List Char → Cursor
  | [] => at_
  | c :: cs => (at_.next c (at_.rest.drop 1)).after cs

namespace Cursor

variable {at_ : Cursor} {text more : List Char}

/-- After two texts is after the second one, after the first. -/
theorem after_append (at_ : Cursor) (text more : List Char) :
    at_.after (text ++ more) = (at_.after text).after more := by
  induction text generalizing at_ with
  | nil => rfl
  | cons c text ih => exact ih _

/-- The index counts the characters of the text. -/
@[simp]
theorem index_after (at_ : Cursor) (text : List Char) :
    (at_.after text).index = at_.index + text.length := by
  induction text generalizing at_ with
  | nil => rfl
  | cons c text ih =>
    rw [after, ih, List.length_cons]
    simp only [next]
    omega

/-- What follows the text is left. -/
@[simp]
theorem rest_after (at_ : Cursor) (text : List Char) :
    (at_.after text).rest = at_.rest.drop text.length := by
  induction text generalizing at_ with
  | nil => rfl
  | cons c text ih =>
    rw [after, ih, List.length_cons]
    simp only [next, List.drop_drop]
    rw [Nat.add_comm]

/-- The text between a place and the one after a text that stands there is this text. -/
theorem textTo_after (h : text <+: at_.rest) : at_.textTo (at_.after text) = text := by
  rw [textTo, index_after, Nat.add_sub_cancel_left]
  exact (List.prefix_iff_eq_take.1 h).symm

end Cursor

namespace Pattern

/-- The place after a text, with what the groups have matched. -/
def Reached.after (r : Reached) (text : List Char) : Reached :=
  { r with cursor := r.cursor.after text }

/-- After two texts is after the second one, after the first. -/
theorem Reached.after_append (r : Reached) (text more : List Char) :
    r.after (text ++ more) = (r.after text).after more := by
  simp [Reached.after, Cursor.after_append]

/-- The place after nothing is the place. -/
@[simp]
theorem Reached.after_nil (r : Reached) : r.after [] = r := rfl

/-- The place is the one after the text. -/
@[simp]
theorem Reached.cursor_after (r : Reached) (text : List Char) :
    (r.after text).cursor = r.cursor.after text := rfl

/-! ### Texts -/

/-- The texts that a plain pattern matches. -/
def Accepts : Pattern → List Char → Prop
  | .empty => fun text => text = []
  | .set chars => fun text => ∃ c, chars.contains c ∧ text = [c]
  | .assertion _ => fun _ => False
  | .seq p q => fun text => ∃ first second, p.Accepts first ∧ q.Accepts second ∧
      text = first ++ second
  | .alt p q => fun text => p.Accepts text ∨ q.Accepts text
  | .repetition p least most _ => fun text => ∃ parts : List (List Char),
      p.Allows least most parts.length ∧ (∀ part ∈ parts, p.Accepts part) ∧ text = parts.flatten
  | .group _ _ => fun _ => False

/-- Whether a pattern has no conditions and no groups. -/
def isPlain : Pattern → Bool
  | .empty => true
  | .set _ => true
  | .assertion _ => false
  | .seq p q => p.isPlain && q.isPlain
  | .alt p q => p.isPlain && q.isPlain
  | .repetition p _ _ _ => p.isPlain
  | .group _ _ => false

/-- A prefix of what follows a text, after the text, is one more piece of the whole. -/
theorem append_prefix_iff {text more whole : List Char} :
    text ++ more <+: whole ↔ text <+: whole ∧ more <+: whole.drop text.length := by
  constructor
  · rintro ⟨tail, rfl⟩
    refine ⟨⟨more ++ tail, by simp⟩, ⟨tail, ?_⟩⟩
    rw [List.append_assoc, List.drop_left]
  · rintro ⟨⟨tail, rfl⟩, ⟨tail', hmore⟩⟩
    rw [List.drop_left] at hmore
    exact ⟨tail', by rw [List.append_assoc, hmore]⟩

/-- Rounds of matches that read texts read them one after another. -/
theorem rounds_iff {p : Pattern} (h : ∀ {r r' : Reached}, p.Leads r r' ↔
      ∃ text, p.Accepts text ∧ text <+: r.cursor.rest ∧ r' = r.after text)
    {n : Nat} {r r' : Reached} :
    Rounds p.Leads n r r' ↔ ∃ parts : List (List Char), parts.length = n ∧
      (∀ part ∈ parts, p.Accepts part) ∧ parts.flatten <+: r.cursor.rest ∧
      r' = r.after parts.flatten := by
  induction n generalizing r with
  | zero => simp [Rounds]
  | succ n ih =>
    constructor
    · rintro ⟨between, hfirst, hlater⟩
      obtain ⟨part, hpart, hpre, rfl⟩ := h.1 hfirst
      obtain ⟨parts, rfl, hparts, hpre', rfl⟩ := ih.1 hlater
      refine ⟨part :: parts, rfl, List.forall_mem_cons.2 ⟨hpart, hparts⟩, ?_, ?_⟩
      · exact append_prefix_iff.2 ⟨hpre, by simpa using hpre'⟩
      · rw [List.flatten_cons, Reached.after_append]
    · rintro ⟨parts, hlength, hparts, hpre, rfl⟩
      obtain ⟨part, parts, rfl⟩ := List.exists_cons_of_length_eq_add_one hlength
      rw [List.forall_mem_cons] at hparts
      rw [List.flatten_cons, append_prefix_iff] at hpre
      refine ⟨r.after part, h.2 ⟨part, hparts.1, hpre.1, rfl⟩,
        ih.2 ⟨parts, Nat.succ.inj hlength, hparts.2, ?_, ?_⟩⟩
      · simpa using hpre.2
      · rw [List.flatten_cons, Reached.after_append]

/-- A match of a plain pattern reads one of its texts, and no match does more. -/
theorem leads_iff_of_isPlain {p : Pattern} (hp : p.isPlain) {r r' : Reached} :
    p.Leads r r' ↔ ∃ text, p.Accepts text ∧ text <+: r.cursor.rest ∧ r' = r.after text := by
  induction p generalizing r r' with
  | empty => simp [Leads, Accepts]
  | set chars =>
    rw [leads_set_iff]
    constructor
    · rintro ⟨c, cs, hrest, hc, rfl⟩
      refine ⟨[c], ⟨c, hc, rfl⟩, ⟨cs, by rw [hrest]; rfl⟩, ?_⟩
      simp [Reached.after, Cursor.after, hrest]
    · rintro ⟨_, ⟨c, hc, rfl⟩, ⟨cs, hrest⟩, rfl⟩
      refine ⟨c, cs, hrest.symm, hc, ?_⟩
      simp [Reached.after, Cursor.after, ← hrest]
  | assertion a => cases hp
  | seq p q ihp ihq =>
    rw [isPlain, Bool.and_eq_true] at hp
    constructor
    · rintro ⟨between, hfirst, hsecond⟩
      obtain ⟨first, hacc, hpre, rfl⟩ := (ihp hp.1).1 hfirst
      obtain ⟨second, hacc', hpre', rfl⟩ := (ihq hp.2).1 hsecond
      refine ⟨first ++ second, ⟨first, second, hacc, hacc', rfl⟩, ?_, ?_⟩
      · exact append_prefix_iff.2 ⟨hpre, by simpa using hpre'⟩
      · rw [Reached.after_append]
    · rintro ⟨_, ⟨first, second, hacc, hacc', rfl⟩, hpre, rfl⟩
      obtain ⟨hpre, hpre'⟩ := append_prefix_iff.1 hpre
      refine ⟨r.after first, (ihp hp.1).2 ⟨first, hacc, hpre, rfl⟩,
        (ihq hp.2).2 ⟨second, hacc', ?_, ?_⟩⟩
      · simpa using hpre'
      · rw [Reached.after_append]
  | alt p q ihp ihq =>
    rw [isPlain, Bool.and_eq_true] at hp
    change p.Leads r r' ∨ q.Leads r r' ↔ _
    rw [ihp hp.1, ihq hp.2]
    simp only [Accepts, or_and_right, exists_or]
  | repetition p least most greedy ih =>
    -- the texts of the rounds are the parts of the text of the repetition
    constructor
    · rintro ⟨n, hn, hrounds⟩
      obtain ⟨parts, rfl, hparts, hpre, rfl⟩ := (rounds_iff (ih hp)).1 hrounds
      exact ⟨parts.flatten, ⟨parts, hn, hparts, rfl⟩, hpre, rfl⟩
    · rintro ⟨_, ⟨parts, hn, hparts, rfl⟩, hpre, rfl⟩
      exact ⟨parts.length, hn, (rounds_iff (ih hp)).2 ⟨parts, rfl, hparts, hpre, rfl⟩⟩
  | group number p => cases hp

/-! ### The texts of some patterns -/

section Texts

variable {chars : CodeRanges} {text : List Char}

/-- Single characters one after another. -/
theorem exists_eq_map_singleton {parts : List (List Char)}
    (h : ∀ part ∈ parts, (set chars).Accepts part) :
    ∃ cs : List Char, parts = cs.map (fun c => [c]) ∧ ∀ c ∈ cs, chars.contains c := by
  induction parts with
  | nil => exact ⟨[], rfl, fun _ h => absurd h List.not_mem_nil⟩
  | cons part parts ih =>
    rw [List.forall_mem_cons] at h
    obtain ⟨⟨c, hc, rfl⟩, hparts⟩ := h
    obtain ⟨cs, rfl, hcs⟩ := ih hparts
    exact ⟨c :: cs, rfl, List.forall_mem_cons.2 ⟨hc, hcs⟩⟩

/-- The texts of a repeated set are those of its members whose length is within the bounds. -/
theorem accepts_repetition_set_iff {least : Nat} {most : Option Nat} {greedy : Bool} :
    (repetition (set chars) least most greedy).Accepts text ↔
      (∀ c ∈ text, chars.contains c) ∧ least ≤ text.length ∧ ∀ m ∈ most, text.length ≤ m := by
  have hflatten (cs : List Char) : (cs.map fun c => [c]).flatten = cs := by
    rw [← List.flatMap_def, List.flatMap_singleton']
  constructor
  · rintro ⟨parts, hallows, hparts, rfl⟩
    obtain ⟨cs, rfl, hcs⟩ := exists_eq_map_singleton hparts
    rw [List.length_map] at hallows
    rw [hflatten]
    exact ⟨hcs, hallows⟩
  · rintro ⟨hmem, hbounds⟩
    refine ⟨text.map fun c => [c], ?_, List.forall_mem_map.2 fun c hc => ⟨c, hmem c hc, rfl⟩,
      (hflatten text).symm⟩
    rw [List.length_map]
    exact hbounds

/-- The texts of a fixed number of digits are as many decimal digits. -/
theorem accepts_exactly_digit_iff {n : Nat} :
    (exactly n digit).Accepts text ↔ text.all Unicode.isDecimal ∧ text.length = n := by
  rw [exactly, digit, accepts_repetition_set_iff, List.all_eq_true]
  simp only [Unicode.contains_decimalNumber, Option.mem_some_iff, forall_eq']
  constructor
  · exact fun ⟨hdigits, hleast, hmost⟩ => ⟨hdigits, Nat.le_antisymm hmost hleast⟩
  · exact fun ⟨hdigits, hlength⟩ => ⟨hdigits, hlength.ge, hlength.le⟩

/-- What may be missing is matched once or not at all. -/
theorem allows_optional_iff {p : Pattern} {n : Nat} (hp : p.usesText) :
    p.Allows 0 (some 1) n ↔ n ≤ 1 := by
  simp [Allows, clippedLeast, clippedMost, hp]

/-- The empty text and the texts of a pattern are those of the pattern that may be missing. -/
theorem accepts_optional_iff {p : Pattern} (hp : p.usesText) :
    p.optional.Accepts text ↔ text = [] ∨ p.Accepts text := by
  constructor
  · rintro ⟨parts, hallows, hparts, rfl⟩
    have hle : parts.length ≤ 1 := (allows_optional_iff hp).1 hallows
    rcases parts with _ | ⟨part, _ | ⟨other, more⟩⟩
    · exact .inl rfl
    · exact .inr (by simpa using hparts)
    · simp at hle
  · rintro (rfl | h)
    · exact ⟨[], (allows_optional_iff hp).2 (Nat.zero_le 1), fun _ h => absurd h List.not_mem_nil,
        rfl⟩
    · exact ⟨[text], (allows_optional_iff hp).2 le_rfl, List.forall_mem_singleton.2 h, by simp⟩

/-- The texts of patterns one after another. -/
theorem accepts_seqAll_cons_iff {p : Pattern} {rest : List Pattern} :
    (seqAll (p :: rest)).Accepts text ↔
      ∃ first second, p.Accepts first ∧ (seqAll rest).Accepts second ∧ text = first ++ second := by
  cases rest with
  | nil => simp [seqAll, Accepts]
  | cons q rest => rfl

/-- A literal has one text. -/
theorem accepts_literal_iff {lit : List Char} : (literal lit).Accepts text ↔ text = lit := by
  have hchar (c : Char) (text : List Char) : (char c).Accepts text ↔ text = [c] := by
    simp [char, Accepts, Unicode.contains_ofChar]
  induction lit generalizing text with
  | nil => rfl
  | cons c lit ih =>
    rw [literal, List.map_cons, accepts_seqAll_cons_iff, ← literal]
    simp [hchar, ih]

end Texts

/-! ### Patterns one after another -/

section SeqAll

variable {p : Pattern} {r r' : Reached}

/-- A match of patterns one after another is a match of the first one and then of the others. -/
theorem leads_seqAll_cons_iff {rest : List Pattern} :
    (seqAll (p :: rest)).Leads r r' ↔
      ∃ between, p.Leads r between ∧ (seqAll rest).Leads between r' := by
  cases rest with
  | nil =>
    constructor
    · exact fun h => ⟨r', h, rfl⟩
    · rintro ⟨between, h, rfl⟩
      exact h
  | cons q rest => rfl

/-- Ordered patterns one after another are ordered. -/
theorem isOrdered_seqAll {ps : List Pattern} (h : ∀ p ∈ ps, p.isOrdered) :
    (seqAll ps).isOrdered := by
  induction ps with
  | nil => rfl
  | cons p rest ih =>
    rw [List.forall_mem_cons] at h
    cases rest with
    | nil => exact h.1
    | cons q rest => exact Bool.and_eq_true_iff.2 ⟨h.1, ih h.2⟩

/-- Plain patterns one after another are plain. -/
theorem isPlain_seqAll {ps : List Pattern} (h : ∀ p ∈ ps, p.isPlain) : (seqAll ps).isPlain := by
  induction ps with
  | nil => rfl
  | cons p rest ih =>
    rw [List.forall_mem_cons] at h
    cases rest with
    | nil => exact h.1
    | cons q rest => exact Bool.and_eq_true_iff.2 ⟨h.1, ih h.2⟩

end SeqAll

end Pattern
end Gleaner
