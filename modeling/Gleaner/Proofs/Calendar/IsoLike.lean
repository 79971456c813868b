import Gleaner.Proofs.Calendar.Rendering
import Gleaner.Proofs.Pattern.Captures

/-!
# Dates that look like ISO 8601 are read in one way

The fields of such a date may be missing, and a blank can stand between the fields of the date as
well as before the time. Still a text has only one reading: the year has four digits, every other
field begins after a mark that is no digit, and the first colon is the one after the hour. So the
groups of a match are those of any reading, and an offset at the end adds its own group and changes
no other.

## Main definitions

* `IsNumeral`: decimal digits, as many as a field has.
* `optionalField`: a mark and a field with what comes after it, all of which may be missing.
* `Trails`: a pattern with one reading for each text, which begins with a mark.
* `fields`: the date and the time without an offset.

## Main results

* `trails_optionalField`: an optional field before patterns with one reading has one reading.
* `captures_fields_unique`: the date and the time of a text have one reading.
* `exists_captures_of_find?`: the groups of a match without an offset are those of the reading.
* `exists_find?_zulu`: with `Z` at the end there is a match with the same groups and this offset.
* `read?_zulu`: such a date means the same with `Z` at the end.
-/

namespace Gleaner

/-! ### Where a text is cut -/

section Cut

variable {P : Char → Prop} {xs xs' ys ys' : List Char}

/-- A text is cut in one way before the first character that is not of some kind. -/
theorem append_inj_of_head (h : xs ++ ys = xs' ++ ys') (hxs : ∀ x ∈ xs, P x)
    (hxs' : ∀ x ∈ xs', P x) (hys : ∀ y ∈ ys.head?, ¬P y) (hys' : ∀ y ∈ ys'.head?, ¬P y) :
    xs = xs' ∧ ys = ys' := by
  rcases List.append_eq_append_iff.1 h with ⟨left, rfl, rfl⟩ | ⟨left, rfl, rfl⟩
  · cases left with
    | nil => simp
    | cons c left => exact absurd (hxs' c (by simp)) (hys c rfl)
  · cases left with
    | nil => simp
    | cons c left => exact absurd (hxs c (by simp)) (hys' c rfl)

/-- A text is cut in one way after the last character that is not of some kind. -/
theorem append_inj_of_getLast (h : xs ++ ys = xs' ++ ys') (hys : ∀ y ∈ ys, P y)
    (hys' : ∀ y ∈ ys', P y) (hxs : ∀ x ∈ xs.getLast?, ¬P x) (hxs' : ∀ x ∈ xs'.getLast?, ¬P x) :
    xs = xs' ∧ ys = ys' := by
  have hreverse : ys.reverse ++ xs.reverse = ys'.reverse ++ xs'.reverse := by
    rw [← List.reverse_append, h, List.reverse_append]
  obtain ⟨hright, hleft⟩ := append_inj_of_head (P := P) hreverse (by simpa using hys)
    (by simpa using hys') (by simpa using hxs) (by simpa using hxs')
  exact ⟨List.reverse_injective hleft, List.reverse_injective hright⟩

end Cut

namespace Calendar.IsoLike

open Pattern
open Unicode (CodeRanges isDecimal)

/-! ### Fields with a mark before them -/

/-- Decimal digits, at least and at most so many. -/
def IsNumeral (least : Nat) (most : Option Nat) (cs : List Char) : Prop :=
  (∀ c ∈ cs, isDecimal c) ∧ least ≤ cs.length ∧ ∀ m ∈ most, cs.length ≤ m

/-- Digits of a fixed number have this length. -/
theorem IsNumeral.length_eq {n : Nat} {cs : List Char} (h : IsNumeral n (some n) cs) :
    cs.length = n :=
  Nat.le_antisymm (h.2.2 n rfl) h.2.1

/-- The pattern of decimal digits. -/
def numeral (least : Nat) (most : Option Nat) : Pattern := .repetition .digit least most true

/-- Repeated digits accept digits. -/
theorem accepts_numeral_iff {least : Nat} {most : Option Nat} {cs : List Char} :
    (numeral least most).Accepts cs ↔ IsNumeral least most cs := by
  rw [numeral, digit, accepts_repetition_set_iff]
  simp only [Unicode.contains_decimalNumber, IsNumeral]

/-- A mark, a field of digits and what comes after it, all of which may be missing. -/
def optionalField (marks : CodeRanges) (number least : Nat) (most : Option Nat)
    (more : List Pattern) : Pattern :=
  optional (seqAll (.set marks :: .group number (numeral least most) :: more))

section OptionalField

variable {marks : CodeRanges} {number least : Nat} {most : Option Nat} {more : List Pattern}
  {text : List Char} {caps : Captured}

/-- What an optional field captures. -/
theorem captures_optionalField_iff :
    (optionalField marks number least most more).Captures text caps ↔ (text = [] ∧ caps = []) ∨
      ∃ mark digits rest caps', marks.contains mark ∧ IsNumeral least most digits ∧
        (seqAll more).Captures rest caps' ∧ text = mark :: (digits ++ rest) ∧
        caps = caps' ++ [(number, digits)] := by
  have huses : (seqAll (.set marks :: .group number (numeral least most) :: more)).usesText := rfl
  rw [optionalField, captures_optional_iff huses]
  refine or_congr_right ?_
  simp only [captures_seqAll_cons_iff, captures_group_iff (p := numeral least most) rfl,
    captures_iff_of_isPlain (p := .set marks) rfl, accepts_numeral_iff]
  constructor
  · rintro ⟨_, _, _, _, ⟨⟨mark, hmark, rfl⟩, rfl⟩,
      ⟨digits, _, rest, caps', ⟨hdigits, rfl⟩, hrest, rfl, rfl⟩, rfl, rfl⟩
    exact ⟨mark, digits, rest, caps', hmark, hdigits, hrest, rfl, List.append_nil _⟩
  · rintro ⟨mark, digits, rest, caps', hmark, hdigits, hrest, rfl, rfl⟩
    exact ⟨[mark], [], _, _, ⟨⟨mark, hmark, rfl⟩, rfl⟩,
      ⟨digits, _, rest, caps', ⟨hdigits, rfl⟩, hrest, rfl, rfl⟩, rfl, (List.append_nil _).symm⟩

/-- A text that consists of fields with marks before them. -/
structure IsTail (marks text : List Char) : Prop where
  /-- There are only digits and marks. -/
  mem : ∀ c ∈ text, isDecimal c ∨ c ∈ marks
  /-- The text begins with a mark. -/
  head : ∀ c ∈ text.head?, c ∈ marks
  /-- The text ends with a digit. -/
  getLast : ∀ c ∈ text.getLast?, isDecimal c

/-- A pattern with one reading for each text, which consists of fields with marks before them. -/
structure Trails (marks : List Char) (p : Pattern) : Prop where
  /-- The texts consist of fields with marks before them. -/
  isTail : ∀ {text caps}, p.Captures text caps → IsTail marks text
  /-- A text has one reading. -/
  unique : ∀ {text caps caps'}, p.Captures text caps → p.Captures text caps' → caps = caps'

/-- Marks are no digits if none of them is one. -/
theorem not_isDecimal_of_all {marks : List Char} (h : marks.all fun c => !isDecimal c) :
    ∀ c ∈ marks, ¬isDecimal c := by
  simpa using h

/-- The empty pattern has one text. -/
theorem trails_nil (marks : List Char) : Trails marks (seqAll []) where
  isTail := by
    rintro _ _ ⟨rfl, rfl⟩
    exact ⟨by simp, by simp, by simp⟩
  unique := by
    rintro _ _ _ ⟨-, rfl⟩ ⟨-, rfl⟩
    rfl

/-- An optional field before a pattern with one reading has one reading, as its digits end at the
next mark. -/
theorem trails_optionalField {allMarks : List Char}
    (hmarks : ∀ c, marks.contains c → c ∈ allMarks) (hdecimal : ∀ c ∈ allMarks, ¬isDecimal c)
    (hleast : 1 ≤ least) (hmore : Trails allMarks (seqAll more)) :
    Trails allMarks (optionalField marks number least most more) where
  isTail := by
    intro text caps h
    rcases captures_optionalField_iff.1 h with ⟨rfl, -⟩ |
      ⟨mark, digits, rest, caps', hmark, hdigits, hrest, rfl, -⟩
    · exact ⟨by simp, by simp, by simp⟩
    · have htail := hmore.isTail hrest
      refine ⟨fun c hc => ?_, by simpa using hmarks mark hmark, fun c hc => ?_⟩
      · rcases List.mem_cons.1 hc with rfl | hc
        · exact .inr (hmarks c hmark)
        · rcases List.mem_append.1 hc with hc | hc
          · exact .inl (hdigits.1 c hc)
          · exact htail.mem c hc
      · -- the last character is that of the digits, if nothing comes after them
        have hne : digits ≠ [] := List.length_pos_iff.1 (hleast.trans hdigits.2.1)
        rw [← List.singleton_append, List.getLast?_append_of_ne_nil _ (by simp [hne]),
          List.getLast?_append, Option.mem_def, Option.or_eq_some_iff] at hc
        rcases hc with hc | ⟨-, hc⟩
        · exact htail.getLast c hc
        · exact hdigits.1 c (List.mem_of_getLast? hc)
  unique := by
    intro text caps caps' h h'
    rcases captures_optionalField_iff.1 h with ⟨rfl, rfl⟩ |
      ⟨mark, digits, rest, caps₁, -, hdigits, hrest, rfl, rfl⟩ <;>
      rcases captures_optionalField_iff.1 h' with ⟨htext, rfl⟩ |
        ⟨mark', digits', rest', caps₁', -, hdigits', hrest', htext, rfl⟩
    · rfl
    · cases htext
    · cases htext
    · -- the digits end where the next mark stands
      obtain ⟨rfl, rfl⟩ := append_inj_of_head (P := fun c => isDecimal c) (List.cons.inj htext).2
        hdigits.1 hdigits'.1 (fun c hc => hdecimal c ((hmore.isTail hrest).head c hc))
        (fun c hc => hdecimal c ((hmore.isTail hrest').head c hc))
      rw [hmore.unique hrest hrest']

end OptionalField

/-! ### The date and the time -/

/-- What may stand before a month or a day. -/
def dateMarks : List Char := ['-', '/', ' ']

/-- What may stand before a second or a fraction. -/
def clockMarks : List Char := [':', '.']

/-- What may stand before an hour, any number of times. -/
def gapMarks : List Char := ['T', 't', ' ']

/-- A second and a fraction of it, both of which may be missing. -/
def secondAndFraction : Pattern :=
  optionalField (.ofChar ':') 6 2 (some 2) [optionalField (.ofChars ['.', ':']) 7 1 none []]

/-- A date and a time. -/
def fields : List Pattern := [.group 1 (.exactly 4 .digit), monthAndDay, time]

/-- An offset, which may be missing. -/
def zone : Pattern := .optional (.group 8 (offsetPattern ['Z', 'z']))

/-- The shape is a date and a time, blanks and an offset. -/
theorem shape_eq : shape = anchored (fields ++ [.many .blank, zone]) := rfl

/-- A month and a day have one reading. -/
theorem trails_monthAndDay : Trails dateMarks monthAndDay := by
  have hmarks : ∀ c, (CodeRanges.ofChars dateMarks).contains c → c ∈ dateMarks := fun _ =>
    Unicode.mem_of_contains_ofChars
  -- from the inside out: the day, and then the month before it
  have hday : Trails dateMarks (seqAll [optionalField (.ofChars dateMarks) 3 1 (some 2) []]) :=
    trails_optionalField hmarks (not_isDecimal_of_all (by decide)) le_rfl (trails_nil dateMarks)
  exact trails_optionalField hmarks (not_isDecimal_of_all (by decide)) le_rfl hday

/-- A second and a fraction have one reading. -/
theorem trails_secondAndFraction : Trails clockMarks secondAndFraction := by
  have hcolon : ∀ c, (CodeRanges.ofChar ':').contains c → c ∈ clockMarks := by
    rintro c hc
    rw [Unicode.contains_ofChar] at hc
    simp [hc, clockMarks]
  have hmarks : ∀ c, (CodeRanges.ofChars ['.', ':']).contains c → c ∈ clockMarks := by
    intro c hc
    have hmem := Unicode.mem_of_contains_ofChars hc
    simpa [clockMarks, or_comm] using hmem
  have hfraction :
      Trails clockMarks (seqAll [optionalField (.ofChars ['.', ':']) 7 1 none []]) :=
    trails_optionalField hmarks (not_isDecimal_of_all (by decide)) le_rfl (trails_nil clockMarks)
  exact trails_optionalField hcolon (not_isDecimal_of_all (by decide)) (by decide) hfraction

variable {cs text : List Char} {caps : Captured}

/-- What a time captures. -/
theorem captures_time_iff :
    time.Captures text caps ↔ (text = [] ∧ caps = []) ∨ ∃ gap hour minute rest caps',
      ((∀ c ∈ gap, (CodeRanges.ofChars gapMarks).contains c) ∧ 1 ≤ gap.length) ∧
      IsNumeral 1 (some 2) hour ∧ IsNumeral 2 (some 2) minute ∧
      secondAndFraction.Captures rest caps' ∧
      text = gap ++ (hour ++ ':' :: (minute ++ rest)) ∧
      caps = caps' ++ [(5, minute), (4, hour)] := by
  have htime : time = optional (seqAll [.some₁ (.set (.ofChars gapMarks)),
      .group 4 (numeral 1 (some 2)), colon, .group 5 (numeral 2 (some 2)), secondAndFraction]) :=
    rfl
  have hcolon {text : List Char} : colon.Accepts text ↔ text = [':'] := by
    simp [colon, char, Accepts]
  have hgap {text : List Char} : (some₁ (.set (.ofChars gapMarks))).Accepts text ↔
      (∀ c ∈ text, (CodeRanges.ofChars gapMarks).contains c) ∧ 1 ≤ text.length := by
    rw [some₁, accepts_repetition_set_iff]
    simp
  have hlast {text : List Char} {caps : Captured} :
      (seqAll [secondAndFraction]).Captures text caps ↔ secondAndFraction.Captures text caps :=
    Iff.rfl
  rw [htime, captures_optional_iff rfl]
  refine or_congr_right ?_
  simp only [captures_seqAll_cons_iff (_ :: _), hlast,
    captures_group_iff (p := numeral _ _) rfl, captures_iff_of_isPlain (p := colon) rfl,
    captures_iff_of_isPlain (p := some₁ (.set _)) rfl, accepts_numeral_iff, hcolon, hgap]
  constructor
  · rintro ⟨gap, _, _, _, ⟨hgap, rfl⟩, ⟨hour, _, _, _, ⟨hhour, rfl⟩,
      ⟨_, _, _, _, ⟨rfl, rfl⟩, ⟨minute, _, rest, caps', ⟨hminute, rfl⟩, hrest, rfl, rfl⟩, rfl, rfl⟩,
      rfl, rfl⟩, rfl, rfl⟩
    exact ⟨gap, hour, minute, rest, caps', hgap, hhour, hminute, hrest, rfl, by simp⟩
  · rintro ⟨gap, hour, minute, rest, caps', hgap, hhour, hminute, hrest, rfl, rfl⟩
    exact ⟨gap, [], _, _, ⟨hgap, rfl⟩, ⟨hour, _, _, _, ⟨hhour, rfl⟩,
      ⟨[':'], [], _, _, ⟨rfl, rfl⟩, ⟨minute, _, rest, caps', ⟨hminute, rfl⟩, hrest, rfl, rfl⟩,
        rfl, rfl⟩, rfl, rfl⟩, rfl, by simp⟩

/-- What a date and a time capture. -/
theorem captures_fields_iff :
    (seqAll fields).Captures cs caps ↔ ∃ year date caps₁ clock caps₂,
      IsNumeral 4 (some 4) year ∧ monthAndDay.Captures date caps₁ ∧ time.Captures clock caps₂ ∧
      cs = year ++ (date ++ clock) ∧ caps = caps₂ ++ (caps₁ ++ [(1, year)]) := by
  have hlast {text : List Char} {caps : Captured} :
      (seqAll [time]).Captures text caps ↔ time.Captures text caps := Iff.rfl
  have hyear {text : List Char} {caps : Captured} :
      (Pattern.group 1 (.exactly 4 .digit)).Captures text caps ↔
        IsNumeral 4 (some 4) text ∧ caps = [(1, text)] := by
    rw [captures_group_iff rfl, ← accepts_numeral_iff]
    rfl
  rw [fields]
  simp only [captures_seqAll_cons_iff (_ :: _), hlast, hyear]
  constructor
  · rintro ⟨year, _, _, _, ⟨hyear, rfl⟩, ⟨date, caps₁, clock, caps₂, hdate, hclock, rfl, rfl⟩, rfl,
      rfl⟩
    exact ⟨year, date, caps₁, clock, caps₂, hyear, hdate, hclock, rfl, List.append_assoc ..⟩
  · rintro ⟨year, date, caps₁, clock, caps₂, hyear, hdate, hclock, rfl, rfl⟩
    exact ⟨year, _, _, _, ⟨hyear, rfl⟩, ⟨date, caps₁, clock, caps₂, hdate, hclock, rfl, rfl⟩, rfl,
      (List.append_assoc ..).symm⟩

/-- A date and a time end with a digit. -/
theorem exists_getLast?_of_captures (h : (seqAll fields).Captures cs caps) :
    ∃ c, cs.getLast? = some c ∧ isDecimal c := by
  obtain ⟨year, date, caps₁, clock, caps₂, hyear, hdate, hclock, rfl, -⟩ :=
    captures_fields_iff.1 h
  have hnumeral {least : Nat} {most : Option Nat} {cs : List Char} (hleast : 1 ≤ least)
      (h : IsNumeral least most cs) : ∃ c, cs.getLast? = some c ∧ isDecimal c := by
    have hne : cs ≠ [] := List.length_pos_iff.1 (hleast.trans h.2.1)
    exact ⟨_, List.getLast?_eq_some_getLast hne, h.1 _ (List.getLast_mem hne)⟩
  -- the last field that is there ends the text
  have hends {text more : List Char} {marks : List Char}
      (htext : ∃ c, text.getLast? = some c ∧ isDecimal c) (hmore : IsTail marks more) :
      ∃ c, (text ++ more).getLast? = some c ∧ isDecimal c := by
    rw [List.getLast?_append]
    cases hlast : more.getLast? with
    | none => simpa using htext
    | some c => exact ⟨c, rfl, hmore.getLast c hlast⟩
  rcases captures_time_iff.1 hclock with ⟨rfl, -⟩ |
    ⟨gap, hour, minute, rest, caps', -, -, hminute, hrest, rfl, -⟩
  · rw [List.append_nil]
    exact hends (hnumeral (by decide) hyear) (trails_monthAndDay.isTail hdate)
  · obtain ⟨c, hlast, hc⟩ :=
      hends (hnumeral (by decide) hminute) (trails_secondAndFraction.isTail hrest)
    refine ⟨c, ?_, hc⟩
    have happend : year ++ (date ++ (gap ++ (hour ++ ':' :: (minute ++ rest)))) =
        year ++ (date ++ (gap ++ (hour ++ [':']))) ++ (minute ++ rest) := by simp
    rw [happend, List.getLast?_append, hlast, Option.some_or]

/-- A date after its year, and the hour after it. -/
structure IsFront (date gap hour : List Char) : Prop where
  /-- The month and the day have marks before them. -/
  date_tail : IsTail dateMarks date
  /-- There are only marks before the hour. -/
  gap_mem : ∀ c ∈ gap, (CodeRanges.ofChars gapMarks).contains c
  /-- There is a mark before the hour. -/
  gap_ne : 1 ≤ gap.length
  /-- The hour consists of digits. -/
  hour_mem : ∀ c ∈ hour, isDecimal c

namespace IsFront

variable {date date' gap gap' hour hour' : List Char}

/-- No mark before an hour is a digit. -/
theorem not_isDecimal_of_mem (h : IsFront date gap hour) {c : Char} (hc : c ∈ gap) :
    ¬isDecimal c :=
  not_isDecimal_of_all (by decide) c (Unicode.mem_of_contains_ofChars (h.gap_mem c hc))

/-- There is no colon up to the hour. -/
theorem ne_colon (h : IsFront date gap hour) : ∀ c ∈ date ++ gap ++ hour, c ≠ ':' := by
  rintro c hc rfl
  rcases List.mem_append.1 hc with hc | hc
  · rcases List.mem_append.1 hc with hc | hc
    · exact absurd (h.date_tail.mem _ hc) (by decide)
    · exact absurd (h.gap_mem _ hc) (by decide)
  · exact absurd (h.hour_mem _ hc) (by decide)

/-- Up to the hour there is one reading: the digits at the end are the hour, and the marks before
them are the gap. -/
theorem unique (h : IsFront date gap hour) (h' : IsFront date' gap' hour')
    (htext : date ++ gap ++ hour = date' ++ gap' ++ hour') :
    date = date' ∧ gap = gap' ∧ hour = hour' := by
  have hgapLast {date gap hour : List Char} (h : IsFront date gap hour) :
      ∀ c ∈ (date ++ gap).getLast?, ¬isDecimal c := by
    intro c hc
    rw [List.getLast?_append_of_ne_nil _ (List.length_pos_iff.1 h.gap_ne)] at hc
    exact h.not_isDecimal_of_mem (List.mem_of_getLast? hc)
  have hgap {date gap hour : List Char} (h : IsFront date gap hour) : ∀ c ∈ gap, ¬isDecimal c :=
    fun _ => h.not_isDecimal_of_mem
  have hdateLast {date gap hour : List Char} (h : IsFront date gap hour) :
      ∀ c ∈ date.getLast?, ¬¬isDecimal c :=
    fun c hc => not_not_intro (h.date_tail.getLast c hc)
  obtain ⟨hfront, hhour⟩ :=
    append_inj_of_getLast htext h.hour_mem h'.hour_mem (hgapLast h) (hgapLast h')
  obtain ⟨hdate, hgap⟩ :=
    append_inj_of_getLast hfront (hgap h) (hgap h') (hdateLast h) (hdateLast h')
  exact ⟨hdate, hgap, hhour⟩

end IsFront

/-- The date and the time of a text have one reading. -/
theorem captures_fields_unique {caps' : Captured} (h : (seqAll fields).Captures cs caps)
    (h' : (seqAll fields).Captures cs caps') : caps = caps' := by
  obtain ⟨year, date, caps₁, clock, caps₂, hyear, hdate, hclock, rfl, rfl⟩ :=
    captures_fields_iff.1 h
  obtain ⟨year', date', caps₁', clock', caps₂', hyear', hdate', hclock', htext, rfl⟩ :=
    captures_fields_iff.1 h'
  obtain ⟨rfl, hlater⟩ := List.append_inj htext (hyear.length_eq.trans hyear'.length_eq.symm)
  have htail := trails_monthAndDay.isTail hdate
  have htail' := trails_monthAndDay.isTail hdate'
  -- a date without a time has no colon
  have hcolon {date : List Char} (htail : IsTail dateMarks date) : ':' ∉ date := fun hmem =>
    absurd (htail.mem _ hmem) (by decide)
  rcases captures_time_iff.1 hclock with ⟨rfl, rfl⟩ |
    ⟨gap, hour, minute, rest, caps₃, hgap, hhour, hminute, hrest, rfl, rfl⟩ <;>
    rcases captures_time_iff.1 hclock' with ⟨rfl, rfl⟩ |
      ⟨gap', hour', minute', rest', caps₃', hgap', hhour', hminute', hrest', rfl, rfl⟩
  · obtain rfl : date = date' := by simpa using hlater
    rw [trails_monthAndDay.unique hdate hdate']
  · refine absurd ?_ (hcolon htail)
    rw [List.append_nil] at hlater
    simp [hlater]
  · refine absurd ?_ (hcolon htail')
    rw [List.append_nil] at hlater
    simp [← hlater]
  · -- the first colon comes after the hour
    have hfront : IsFront date gap hour := ⟨htail, hgap.1, hgap.2, hhour.1⟩
    have hfront' : IsFront date' gap' hour' := ⟨htail', hgap'.1, hgap'.2, hhour'.1⟩
    have hcut : date ++ gap ++ hour ++ ':' :: (minute ++ rest) =
        date' ++ gap' ++ hour' ++ ':' :: (minute' ++ rest') := by simpa using hlater
    obtain ⟨hbefore, hafter⟩ := append_inj_of_head (P := (· ≠ ':')) hcut hfront.ne_colon
      hfront'.ne_colon (by simp) (by simp)
    obtain ⟨rfl, rfl, rfl⟩ := hfront.unique hfront' hbefore
    obtain ⟨rfl, rfl⟩ := List.append_inj (List.cons.inj hafter).2
      (hminute.length_eq.trans hminute'.length_eq.symm)
    rw [trails_monthAndDay.unique hdate hdate', trails_secondAndFraction.unique hrest hrest']

/-- After the first colon of a date and a time there are only digits and the marks of seconds. -/
theorem mem_of_captures_of_cut (h : (seqAll fields).Captures cs caps) {front back : List Char}
    (hcut : cs = front ++ ':' :: back) (hfront : ':' ∉ front) :
    ∀ c ∈ back, isDecimal c ∨ c ∈ clockMarks := by
  obtain ⟨year, date, caps₁, clock, caps₂, hyear, hdate, hclock, rfl, rfl⟩ :=
    captures_fields_iff.1 h
  have htail := trails_monthAndDay.isTail hdate
  have hyearColon : ∀ c ∈ year, c ≠ ':' := by
    rintro c hc rfl
    exact absurd (hyear.1 _ hc) (by decide)
  rcases captures_time_iff.1 hclock with ⟨rfl, rfl⟩ |
    ⟨gap, hour, minute, rest, caps₃, hgap, hhour, hminute, hrest, rfl, rfl⟩
  · -- a date without a time has no colon
    have hmem : ':' ∈ year ++ date := by
      rw [List.append_nil] at hcut
      simp [hcut]
    rcases List.mem_append.1 hmem with hmem | hmem
    · exact absurd rfl (hyearColon _ hmem)
    · exact absurd (htail.mem _ hmem) (by decide)
  · have hbefore : IsFront date gap hour := ⟨htail, hgap.1, hgap.2, hhour.1⟩
    have hcut' : year ++ (date ++ gap ++ hour) ++ ':' :: (minute ++ rest) =
        front ++ ':' :: back := by simpa using hcut
    have hne : ∀ c ∈ year ++ (date ++ gap ++ hour), c ≠ ':' := fun c hc =>
      (List.mem_append.1 hc).elim (hyearColon c) (hbefore.ne_colon c)
    obtain ⟨-, hafter⟩ := append_inj_of_head (P := (· ≠ ':')) hcut' hne
      (fun c hc heq => hfront (heq ▸ hc)) (by simp) (by simp)
    rw [← (List.cons.inj hafter).2]
    intro c hc
    rcases List.mem_append.1 hc with hc | hc
    · exact .inl (hminute.1 c hc)
    · exact (trails_secondAndFraction.isTail hrest).mem c hc

/-! ### The shape -/

/-- What blanks and an offset after a date and a time capture. -/
theorem captures_shape_iff :
    (seqAll (fields ++ [.many .blank, zone])).Captures text caps ↔ ∃ cs caps₁ blanks offset caps₂,
      (seqAll fields).Captures cs caps₁ ∧ IsBlankText blanks ∧
      ((offset = [] ∧ caps₂ = []) ∨
        (offsetPattern ['Z', 'z']).Accepts offset ∧ caps₂ = [(8, offset)]) ∧
      text = cs ++ (blanks ++ offset) ∧ caps = caps₂ ++ caps₁ := by
  have hzone {text : List Char} {caps : Captured} : (seqAll [zone]).Captures text caps ↔
      (text = [] ∧ caps = []) ∨
        (offsetPattern ['Z', 'z']).Accepts text ∧ caps = [(8, text)] := by
    change zone.Captures text caps ↔ _
    rw [zone, captures_optional_iff rfl, captures_group_iff rfl]
  rw [captures_seqAll_append_iff]
  simp only [captures_seqAll_cons_iff (_ :: _), hzone,
    captures_iff_of_isPlain (p := many .blank) rfl, accepts_many_blank_iff]
  constructor
  · rintro ⟨cs, caps₁, _, _, hcs, ⟨blanks, _, offset, caps₂, ⟨hblanks, rfl⟩, hoffset, rfl, rfl⟩,
      rfl, rfl⟩
    exact ⟨cs, caps₁, blanks, offset, caps₂, hcs, hblanks, hoffset, rfl, by simp⟩
  · rintro ⟨cs, caps₁, blanks, offset, caps₂, hcs, hblanks, hoffset, rfl, rfl⟩
    exact ⟨cs, caps₁, _, _, hcs, ⟨blanks, [], offset, caps₂, ⟨hblanks, rfl⟩, hoffset, rfl, rfl⟩,
      rfl, by simp⟩

/-- The patterns of the shape are ordered and have no conditions. -/
theorem isOrdered_and_isFree_of_mem :
    ∀ p ∈ fields ++ [.many .blank, zone], p.isOrdered ∧ p.isFree := by
  decide

/-- A match of the shape captures the whole text, with the groups of the match. -/
theorem exists_captures_shape {m : Match} (hm : shape.find? text = some m) :
    ∃ caps, (seqAll (fields ++ [.many .blank, zone])).Captures text caps ∧
      ∀ number, number ≠ 0 → m.group? number = caps.lookup number :=
  Pattern.exists_captures_of_find? (fun p hp => (isOrdered_and_isFree_of_mem p hp).1)
    (fun p hp => (isOrdered_and_isFree_of_mem p hp).2) hm

/-- Blanks do not end with a digit. -/
theorem eq_nil_of_isBlankText {blanks : List Char} {c : Char} (hblanks : IsBlankText blanks)
    (hlast : (cs ++ blanks).getLast? = some c) (hc : isDecimal c) : blanks = [] := by
  by_contra hne
  rw [List.getLast?_append_of_ne_nil _ hne] at hlast
  rw [Unicode.isDecimal_of_isBlank (hblanks c (List.mem_of_getLast? hlast))] at hc
  cases hc

/-- The groups of a match without an offset are those of the date and the time. -/
theorem exists_captures_of_find? {m : Match} (htrim : IsTrimmed cs)
    (hm : shape.find? cs = some m) (hoffset : m.group? 8 = none) :
    ∃ caps, (seqAll fields).Captures cs caps ∧
      ∀ number, number ≠ 0 → m.group? number = caps.lookup number := by
  obtain ⟨caps, hcaps, hgroups⟩ := exists_captures_shape hm
  obtain ⟨core, caps₁, blanks, offset, caps₂, hcore, hblanks, ⟨rfl, rfl⟩ | ⟨-, rfl⟩, rfl, rfl⟩ :=
    captures_shape_iff.1 hcaps
  · rw [List.append_nil] at htrim
    obtain rfl := htrim.eq_nil_of_append hblanks
    exact ⟨_, by simpa using hcore, hgroups⟩
  · rw [hgroups 8 (by decide)] at hoffset
    cases hoffset

/-- An offset after which a text ends with `Z` is `Z`. -/
theorem eq_zulu_of_accepts {offset : List Char}
    (hacc : (offsetPattern ['Z', 'z']).Accepts offset)
    (hlast : (text ++ offset).getLast? = some 'Z') : offset = ['Z'] := by
  rcases Layout.accepts_offsetPattern_iff.1 hacc with ⟨c, -, rfl⟩ |
    ⟨sign, hours, colon, minutes, -, -, -, ⟨hdigits, hlength⟩, rfl⟩
  · simpa using hlast
  · exfalso
    have hne : minutes ≠ [] := List.length_pos_iff.1 (hlength ▸ Nat.two_pos)
    simp only [← List.append_assoc] at hlast
    rw [List.getLast?_append_of_ne_nil _ hne] at hlast
    exact absurd (List.all_eq_true.1 hdigits _ (List.mem_of_getLast? hlast)) (by decide)

/-- With `Z` at the end of a date and a time there is a match with their groups and this offset. -/
theorem exists_find?_zulu (h : (seqAll fields).Captures cs caps) :
    ∃ m, shape.find? (cs ++ ['Z']) = some m ∧
      ∀ number, number ≠ 0 → m.group? number = ((8, ['Z']) :: caps).lookup number := by
  have hzulu : (offsetPattern ['Z', 'z']).Accepts ['Z'] := .inl ⟨'Z', by decide, rfl⟩
  obtain ⟨m, hm⟩ := exists_find?_of_captures (fun p hp => (isOrdered_and_isFree_of_mem p hp).1)
    (captures_shape_iff.2 ⟨cs, caps, [], ['Z'], [(8, ['Z'])], h, by decide, .inr ⟨hzulu, rfl⟩, rfl,
      rfl⟩)
  rw [List.nil_append, ← shape_eq] at hm
  obtain ⟨caps', hcaps', hgroups⟩ := exists_captures_shape hm
  obtain ⟨core, caps₁, blanks, offset, caps₂, hcore, hblanks, hoffset, htext, rfl⟩ :=
    captures_shape_iff.1 hcaps'
  have hlast : (core ++ blanks ++ offset).getLast? = some 'Z' := by
    rw [List.append_assoc, ← htext, List.getLast?_concat]
  obtain ⟨c, hc, hdecimal⟩ := exists_getLast?_of_captures h
  obtain ⟨d, hd, hdecimal'⟩ := exists_getLast?_of_captures hcore
  refine ⟨m, hm, ?_⟩
  rcases hoffset with ⟨rfl, rfl⟩ | ⟨hacc, rfl⟩
  · -- without an offset the text would end with a digit or a blank, and not with `Z`
    exfalso
    rw [List.append_nil, List.getLast?_append, hd] at hlast
    rcases Option.or_eq_some_iff.1 hlast with hlast | ⟨-, hlast⟩
    · exact absurd (hblanks _ (List.mem_of_getLast? hlast)) (by decide)
    · obtain rfl := Option.some.inj hlast
      exact absurd hdecimal' (by decide)
  · -- the offset is `Z`, and before it there is the date without blanks
    obtain rfl := eq_zulu_of_accepts hacc hlast
    rw [← List.append_assoc] at htext
    obtain rfl := List.append_cancel_right htext
    obtain rfl := eq_nil_of_isBlankText hblanks hc hdecimal
    rw [List.append_nil] at h
    rw [captures_fields_unique h hcore]
    exact hgroups

/-- A date and a time mean the same with `Z` at the end. -/
theorem read?_zulu {m : Match} (htrim : IsTrimmed cs) (hm : shape.find? cs = some m)
    (hoffset : m.group? 8 = none) : read? (cs ++ ['Z']) = read? cs := by
  obtain ⟨caps, hcaps, hgroups⟩ := exists_captures_of_find? htrim hm hoffset
  obtain ⟨m', hm', hgroups'⟩ := exists_find?_zulu hcaps
  have hgroup (number : Nat) (hnumber : number ≠ 0 ∧ number ≠ 8) :
      m'.group? number = m.group? number := by
    rw [hgroups number hnumber.1, hgroups' number hnumber.1, List.lookup_cons,
      beq_eq_false_iff_ne.2 hnumber.2]
  have hnumberOf (number missing : Nat) (hnumber : number ≠ 0 ∧ number ≠ 8) :
      numberOf m' number missing = numberOf m number missing := by
    rw [numberOf, numberOf, hgroup number hnumber]
  have hzone : m'.group? 8 = some ['Z'] := hgroups' 8 (by decide)
  have hnone : offsetSeconds? ['Z'] = some 0 := by decide
  simp (disch := decide) only [read?, hm, hm', hoffset, hzone, hnone, hgroup 7, hnumberOf,
    Option.bind_eq_bind, Option.bind_some]

end Calendar.IsoLike
end Gleaner
