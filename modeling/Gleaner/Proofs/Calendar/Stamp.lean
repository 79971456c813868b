import Gleaner.Coerce.Date
import Gleaner.Proofs.Calendar.IsoLike

/-!
# Times without an offset are universal time

A date that looks like ISO 8601 and has no offset means what it means with `Z` at the end, although
with `Z` it may be a date of RFC 3339, which another reader reads. The two readers agree on all
fields but one: RFC 3339 has a second 60, the leap second, and the other reader has none.

## Main definitions

* `Stamp`: the fields of a date and a time in RFC 3339.

## Main results

* `Rfc3339.exists_stamp_of_read?`: what RFC 3339 reads is a stamp and a zone.
* `Stamp.captures_fields`: a stamp is a date that looks like ISO 8601.
* `Stamp.map_epochMillis_eq`: the two readers give a stamp the same milliseconds.
* `readInstant_zulu_iff`: a time without an offset means the same with `Z` at the end, but for leap
  seconds.
-/

namespace Gleaner.Calendar

open Pattern (Captured seqAll)
open Unicode (isDecimal)

/-! ### What scanners read -/

/-- Digits of ASCII, so many. -/
def IsDigits (n : Nat) (cs : List Char) : Prop := (∀ c ∈ cs, isDigit c) ∧ cs.length = n

/-- Digits of ASCII are a field of as many digits. -/
theorem IsDigits.isNumeral {n least : Nat} {most : Option Nat} {cs : List Char}
    (h : IsDigits n cs) (hleast : least ≤ n) (hmost : ∀ m ∈ most, n ≤ m) :
    IsoLike.IsNumeral least most cs :=
  ⟨fun c hc => Unicode.isDecimal_of_isDigit (h.1 c hc), h.2 ▸ hleast, h.2 ▸ hmost⟩

namespace Scan

variable {cs rest : List Char}

/-- A number is scanned from its digits. -/
theorem exists_of_number {least most n : Nat} (h : number least most cs = some (n, rest)) :
    ∃ ds, cs = ds ++ rest ∧ (∀ c ∈ ds, isDigit c) ∧ least ≤ ds.length ∧ ds.length ≤ most ∧
      n = ofDigits ds := by
  let ds := (cs.take most).takeWhile isDigit
  have hprefix : ds <+: cs := (List.takeWhile_prefix _).trans (List.take_prefix most cs)
  rw [number] at h
  split at h
  · cases h
  · rename_i hlength
    simp only [Option.some.injEq, Prod.mk.injEq] at h
    obtain ⟨rfl, rfl⟩ := h
    refine ⟨ds, ?_, fun c hc => List.mem_takeWhile_imp hc, Nat.le_of_not_lt hlength, ?_, rfl⟩
    · exact (List.prefix_iff_eq_append.1 hprefix).symm
    · exact ((List.takeWhile_prefix _).length_le).trans (List.length_take_le most cs)

/-- A number in a range is scanned from its digits. -/
theorem exists_of_numberIn {width low high n : Nat}
    (h : numberIn width width low high cs = some (n, rest)) :
    ∃ ds, cs = ds ++ rest ∧ IsDigits width ds ∧ n = ofDigits ds := by
  obtain ⟨ds, hcs, hds, hleast, hmost, hn⟩ := exists_of_number (Option.filter_eq_some_iff.1 h).1
  exact ⟨ds, hcs, ⟨hds, Nat.le_antisymm hmost hleast⟩, hn⟩

/-- A character is scanned from itself. -/
theorem eq_cons_of_char {c : Char} (h : char c cs = some rest) : cs = c :: rest := by
  cases cs with
  | nil => cases h
  | cons d cs =>
    rw [char] at h
    split at h
    · rename_i hd
      rw [hd, Option.some.inj h]
    · cases h

end Scan

/-! ### Stamps -/

/-- The fields of a date and a time in RFC 3339, as digits. -/
structure Stamp where
  /-- The year. -/
  year : List Char
  /-- The month. -/
  month : List Char
  /-- The day. -/
  day : List Char
  /-- What stands between the date and the time. -/
  mark : Char
  /-- The hour. -/
  hour : List Char
  /-- The minute. -/
  minute : List Char
  /-- The second. -/
  second : List Char
  /-- The fraction of the second; without digits it is missing. -/
  fraction : List Char

namespace Stamp

/-- The fields are digits, as many as each has, with a mark between the date and the time. -/
structure IsWritten (s : Stamp) : Prop where
  /-- The year has four digits. -/
  year : IsDigits 4 s.year
  /-- The month has two digits. -/
  month : IsDigits 2 s.month
  /-- The day has two digits. -/
  day : IsDigits 2 s.day
  /-- The mark is one of those that may stand before an hour. -/
  mark : s.mark ∈ IsoLike.gapMarks
  /-- The hour has two digits. -/
  hour : IsDigits 2 s.hour
  /-- The minute has two digits. -/
  minute : IsDigits 2 s.minute
  /-- The second has two digits. -/
  second : IsDigits 2 s.second
  /-- The fraction has any number of digits. -/
  fraction : ∀ c ∈ s.fraction, isDigit c

/-- The fraction with its point, if there is one. -/
def fractionText (s : Stamp) : List Char :=
  if s.fraction = [] then [] else '.' :: s.fraction

/-- The text of the time. -/
def clockText (s : Stamp) : List Char :=
  s.hour ++ ':' :: (s.minute ++ ':' :: (s.second ++ s.fractionText))

/-- The text. -/
def text (s : Stamp) : List Char :=
  s.year ++ '-' :: (s.month ++ '-' :: (s.day ++ s.mark :: s.clockText))

/-- The date. -/
def date (s : Stamp) : Date := ⟨ofDigits s.year, ofDigits s.month, ofDigits s.day⟩

/-- The nanoseconds of the fraction; digits beyond the ninth do not count. -/
def nanos (s : Stamp) : Nat :=
  ofDigits (s.fraction.take 9) * 10 ^ (9 - (s.fraction.take 9).length)

/-- The groups of a date that looks like ISO 8601. -/
def captured (s : Stamp) : Captured :=
  (if s.fraction = [] then [] else [(7, s.fraction)]) ++
    [(6, s.second), (5, s.minute), (4, s.hour), (3, s.day), (2, s.month), (1, s.year)]

end Stamp

namespace Rfc3339

variable {cs rest : List Char}

/-- A fraction is a point and digits, or nothing. -/
theorem exists_of_fraction {nanos : Nat} (h : fraction cs = some (nanos, rest)) :
    ∃ ds, (∀ c ∈ ds, isDigit c) ∧ cs = (if ds = [] then [] else '.' :: ds) ++ rest ∧
      nanos = ofDigits (ds.take 9) * 10 ^ (9 - (ds.take 9).length) := by
  unfold fraction at h
  split at h
  · rename_i cs
    simp only [Option.ite_none_left_eq_some, List.isEmpty_iff, Option.some.injEq,
      Prod.mk.injEq] at h
    obtain ⟨hne, rfl, rfl⟩ := h
    refine ⟨cs.takeWhile isDigit, fun c hc => List.mem_takeWhile_imp hc, ?_, rfl⟩
    rw [if_neg hne, List.cons_append, List.takeWhile_append_dropWhile]
  · simp only [Option.some.injEq, Prod.mk.injEq] at h
    obtain ⟨rfl, rfl⟩ := h
    exact ⟨[], by simp, rfl, rfl⟩

/-- What a zone begins with. -/
def zoneMarks : List Char := ['Z', 'z', '+', '-', '−']

/-- A zone begins with a letter or a sign. -/
theorem exists_of_zone {offset : Int} (h : zone cs = some (offset, rest)) :
    ∃ c more, cs = c :: more ∧ c ∈ zoneMarks := by
  unfold zone at h
  split at h
  · exact ⟨'Z', _, rfl, by decide⟩
  · exact ⟨'z', _, rfl, by decide⟩
  · obtain ⟨⟨negative, more⟩, hsign, -⟩ := Option.bind_eq_some_iff.1 h
    cases cs with
    | nil => cases hsign
    | cons c cs =>
      refine ⟨c, cs, rfl, ?_⟩
      by_contra hc
      simp only [zoneMarks, List.mem_cons, List.not_mem_nil, or_false, not_or] at hc
      simp [Scan.sign, hc] at hsign

/-- What stands between the date and the time is one of the marks before an hour. -/
theorem exists_of_mark
    (h : (Scan.char 'T' cs <|> Scan.char 't' cs <|> Scan.char ' ' cs) = some rest) :
    ∃ c ∈ IsoLike.gapMarks, cs = c :: rest := by
  simp only [Option.orElse_eq_orElse, Option.orElse_eq_or, Option.or_eq_some_iff] at h
  rcases h with h | ⟨-, h | ⟨-, h⟩⟩
  · exact ⟨'T', by decide, Scan.eq_cons_of_char h⟩
  · exact ⟨'t', by decide, Scan.eq_cons_of_char h⟩
  · exact ⟨' ', by decide, Scan.eq_cons_of_char h⟩

/-- What RFC 3339 reads is a stamp and a zone. -/
theorem exists_stamp_of_read? {t : Instant} (h : read? cs = some t) :
    ∃ s : Stamp, ∃ zoneText offset, s.IsWritten ∧ cs = s.text ++ zoneText ∧
      zone zoneText = some (offset, []) ∧
      Scan.instant s.date (ofDigits s.hour) (ofDigits s.minute) (ofDigits s.second) s.nanos offset =
        some t := by
  simp only [read?, Option.bind_eq_bind, Option.bind_eq_some_iff, Prod.exists] at h
  obtain ⟨year, _, hyear, _, hdash, month, _, hmonth, _, hdash', day, _, hday, _, hmark, hour, _,
    hhour, _, hcolon, minute, _, hminute, _, hcolon', second, _, hsecond, nanos, _, hfraction,
    offset, zoneRest, hzone, hinstant⟩ := h
  -- each scanner has read one field, and has left the rest of the text to the next
  obtain ⟨year, rfl, hyearDigits, hleast, hmost, rfl⟩ := Scan.exists_of_number hyear
  obtain rfl := Scan.eq_cons_of_char hdash
  obtain ⟨month, rfl, hmonthDigits, rfl⟩ := Scan.exists_of_numberIn hmonth
  obtain rfl := Scan.eq_cons_of_char hdash'
  obtain ⟨day, rfl, hdayDigits, rfl⟩ := Scan.exists_of_numberIn hday
  obtain ⟨mark, hmarkMem, rfl⟩ := exists_of_mark hmark
  obtain ⟨hour, rfl, hhourDigits, rfl⟩ := Scan.exists_of_numberIn hhour
  obtain rfl := Scan.eq_cons_of_char hcolon
  obtain ⟨minute, rfl, hminuteDigits, rfl⟩ := Scan.exists_of_numberIn hminute
  obtain rfl := Scan.eq_cons_of_char hcolon'
  obtain ⟨second, rfl, hsecondDigits, rfl⟩ := Scan.exists_of_numberIn hsecond
  obtain ⟨ds, hds, rfl, rfl⟩ := exists_of_fraction hfraction
  rw [Option.ite_none_right_eq_some, List.isEmpty_iff] at hinstant
  obtain ⟨rfl, hinstant⟩ := hinstant
  have hwritten : Stamp.IsWritten ⟨year, month, day, mark, hour, minute, second, ds⟩ :=
    ⟨⟨hyearDigits, Nat.le_antisymm hmost hleast⟩, hmonthDigits, hdayDigits, hmarkMem, hhourDigits,
      hminuteDigits, hsecondDigits, hds⟩
  refine ⟨_, _, offset, hwritten, ?_, hzone, hinstant⟩
  simp [Stamp.text, Stamp.clockText, Stamp.fractionText]

end Rfc3339

/-! ### Stamps look like ISO 8601 -/

namespace Stamp

open IsoLike

variable {s : Stamp}

/-- The month and the day of a stamp are those of a date that looks like ISO 8601. -/
theorem captures_monthAndDay (h : s.IsWritten) :
    monthAndDay.Captures ('-' :: (s.month ++ '-' :: s.day)) [(3, s.day), (2, s.month)] := by
  have hday : (seqAll [optionalField (.ofChars dateMarks) 3 1 (some 2) []]).Captures
      ('-' :: s.day) [(3, s.day)] :=
    captures_optionalField_iff.2 (.inr ⟨'-', s.day, [], [], by decide,
      h.day.isNumeral (by decide) (by simp), ⟨rfl, rfl⟩, by simp, rfl⟩)
  exact captures_optionalField_iff.2 (.inr ⟨'-', s.month, _, _, by decide,
    h.month.isNumeral (by decide) (by simp), hday, rfl, rfl⟩)

/-- The second and the fraction of a stamp are those of a date that looks like ISO 8601. -/
theorem captures_secondAndFraction (h : s.IsWritten) :
    secondAndFraction.Captures (':' :: (s.second ++ s.fractionText))
      ((if s.fraction = [] then [] else [(7, s.fraction)]) ++ [(6, s.second)]) := by
  have hfraction : (seqAll [optionalField (.ofChars ['.', ':']) 7 1 none []]).Captures
      s.fractionText (if s.fraction = [] then [] else [(7, s.fraction)]) := by
    refine captures_optionalField_iff.2 ?_
    rw [fractionText]
    split
    · exact .inl ⟨rfl, rfl⟩
    · rename_i hne
      exact .inr ⟨'.', s.fraction, [], [], by decide,
        ⟨fun c hc => Unicode.isDecimal_of_isDigit (h.fraction c hc), List.length_pos_iff.2 hne,
          by simp⟩, ⟨rfl, rfl⟩, by simp, rfl⟩
  exact captures_optionalField_iff.2 (.inr ⟨':', s.second, _, _, by decide,
    h.second.isNumeral (by decide) (by simp), hfraction, rfl, rfl⟩)

/-- A stamp is a date that looks like ISO 8601. -/
theorem captures_fields (h : s.IsWritten) : (seqAll fields).Captures s.text s.captured := by
  have hmark : ∀ c ∈ [s.mark], (Unicode.CodeRanges.ofChars gapMarks).contains c := by
    have hall : gapMarks.all (Unicode.CodeRanges.ofChars gapMarks).contains := by decide
    simpa using List.all_eq_true.1 hall s.mark h.mark
  have htime : time.Captures (s.mark :: s.clockText)
      ((if s.fraction = [] then [] else [(7, s.fraction)]) ++ [(6, s.second)] ++
        [(5, s.minute), (4, s.hour)]) :=
    captures_time_iff.2 (.inr ⟨[s.mark], s.hour, s.minute, _, _, ⟨hmark, by simp⟩,
      h.hour.isNumeral (by decide) (by simp), h.minute.isNumeral (by decide) (by simp),
      captures_secondAndFraction h, rfl, rfl⟩)
  refine captures_fields_iff.2 ⟨s.year, _, _, _, _, h.year.isNumeral (by decide) (by simp),
    captures_monthAndDay h, htime, ?_, ?_⟩
  · simp [text]
  · simp [captured]

/-- All groups of a stamp but that of the fraction are there. -/
theorem lookup_captured (s : Stamp) {number : Nat} (hnumber : number ≠ 7) :
    s.captured.lookup number =
      [(6, s.second), (5, s.minute), (4, s.hour), (3, s.day), (2, s.month), (1, s.year)].lookup
        number := by
  rw [captured]
  split
  · rfl
  · rw [List.singleton_append, List.lookup_cons, beq_eq_false_iff_ne.2 hnumber]

/-- The group of a fraction without digits is missing. -/
theorem getD_lookup_captured (s : Stamp) : (s.captured.lookup 7).getD [] = s.fraction := by
  rw [captured]
  split
  · rename_i hnone
    exact hnone.symm
  · rfl

/-- The reader of dates that look like ISO 8601 reads the fields of a stamp. -/
theorem isoLike_read?_eq {m : Match} (h : s.IsWritten)
    (hm : IsoLike.shape.find? s.text = some m)
    (hgroups : ∀ number, number ≠ 0 → m.group? number = s.captured.lookup number) :
    IsoLike.read? s.text =
      (Instant.secondOfDay? (ofDigits s.hour) (ofDigits s.minute) (ofDigits s.second)).bind
        fun time => Instant.ofLocal? s.date time (millis s.fraction * 1000000) 0 := by
  have hread {n : Nat} {cs : List Char} (hcs : IsDigits n cs) (hn : 0 < n) :
      readNat? cs = some (ofDigits cs) :=
    readNat?_of_forall hcs.1 (List.length_pos_iff.1 (hcs.2 ▸ hn))
  have hgroup (number : Nat) (hnumber : number ≠ 0 ∧ number ≠ 7) : m.group? number =
      [(6, s.second), (5, s.minute), (4, s.hour), (3, s.day), (2, s.month), (1, s.year)].lookup
        number := (hgroups number hnumber.1).trans (s.lookup_captured hnumber.2)
  have hfraction : (m.group? 7).getD [] = s.fraction := by
    rw [hgroups 7 (by decide), getD_lookup_captured]
  simp (disch := decide) only [IsoLike.read?, numberOf, hm, hgroup, hfraction, List.lookup_cons,
    Nat.reduceBEq, hread h.year, hread h.month, hread h.day, hread h.hour, hread h.minute,
    hread h.second, Option.bind_eq_bind, Option.bind_some]
  rfl

/-- The milliseconds of a stamp are the first three digits of its nanoseconds. -/
theorem nanos_div (h : s.IsWritten) :
    s.nanos / 1000000 = millis s.fraction ∧ s.nanos < 1000000000 := by
  -- the fraction brought to nine digits
  let nine := s.fraction.take 9 ++ List.replicate (9 - (s.fraction.take 9).length) '0'
  have hlength : nine.length = 9 := by
    simp only [nine, List.length_append, List.length_replicate, List.length_take]
    omega
  have hdigits : ∀ c ∈ nine, isDigit c := by
    intro c hc
    rcases List.mem_append.1 hc with hc | hc
    · exact h.fraction c (List.mem_of_mem_take hc)
    · rw [List.eq_of_mem_replicate hc]
      decide
  have hnanos : s.nanos = ofDigits nine := by
    rw [nanos, ofDigits_append, ofDigits_replicate_zero, List.length_replicate, Nat.add_zero,
      Nat.mul_comm]
  have hthree : (s.fraction ++ ['0', '0', '0']).take 3 = nine.take 3 := by
    simp only [nine]
    rcases s.fraction with _ | ⟨a, _ | ⟨b, _ | ⟨c, rest⟩⟩⟩ <;> rfl
  have hmillis : millis s.fraction = ofDigits (nine.take 3) := by
    rw [millis, hthree, readNat?_of_forall (fun c hc => hdigits c (List.mem_of_mem_take hc))
      (List.length_pos_iff.1 (by rw [List.length_take, hlength]; decide)), Option.getD_some]
  have hparts : ofDigits nine = 1000000 * ofDigits (nine.take 3) + ofDigits (nine.drop 3) := by
    have happend := ofDigits_append (nine.take 3) (nine.drop 3)
    rwa [List.take_append_drop, List.length_drop, hlength] at happend
  have hlater : ofDigits (nine.drop 3) < 1000000 := by
    have hlater : ∀ c ∈ nine.drop 3, isDigit c := fun c hc => hdigits c (List.mem_of_mem_drop hc)
    have hlt := ofDigits_lt hlater
    rwa [List.length_drop, hlength] at hlt
  have hall : ofDigits nine < 1000000000 := by
    have hlt := ofDigits_lt hdigits
    rwa [hlength] at hlt
  rw [hnanos, hmillis]
  omega

end Stamp

/-! ### The other readers -/

namespace Scan

/-- A decimal digit is no letter, so it is its own lower case. -/
theorem lower_of_isDecimal {c : Char} (h : isDecimal c) : lower c = c := by
  rw [lower, if_neg]
  intro hletter
  simp only [Bool.and_eq_true, decide_eq_true_eq, Char.le_def, UInt32.le_iff_toNat_le] at hletter
  have hfirst : 65 ≤ c.toNat := hletter.1
  have hlast : c.toNat ≤ 90 := hletter.2
  rw [isDecimal, if_pos (by omega), Unicode.isDigit_iff_toNat] at h
  omega

/-- A text that begins with a decimal digit begins with no blank. -/
theorem trimStart_of_isDecimal {c : Char} (h : isDecimal c) (cs : List Char) :
    trimStart (c :: cs) = c :: cs := by
  have hblank : isBlank c = false := by
    rw [← Bool.not_eq_true]
    intro hblank
    rw [Unicode.isDecimal_of_isBlank hblank] at h
    cases h
  simp [trimStart, hblank]

end Scan

namespace Rfc2822

/-- A text that begins with a decimal digit begins with no weekday. -/
theorem leadingWeekday_of_isDecimal {c : Char} (h : isDecimal c) (cs : List Char) :
    leadingWeekday (c :: cs) = some (none, c :: cs) := by
  have hheads : weekdays.all fun word => word.toList.head?.all fun letter => !isDecimal letter := by
    decide
  have hlengths : ∀ word ∈ weekdays, word.length ≠ 0 := by decide
  have hword : Scan.wordOf weekdays (c :: cs) = none := by
    rw [Scan.wordOf, List.findSome?_eq_none_iff]
    rintro ⟨word, i⟩ hmem
    have hword : word ∈ weekdays := List.fst_mem_of_mem_zipIdx hmem
    refine if_neg fun heq => ?_
    have hhead : word.toList.head? = some c := by
      rw [← heq, List.head?_map, List.head?_take, if_neg (hlengths word hword), List.head?_cons,
        Option.map_some, Scan.lower_of_isDecimal h]
    have hnone := List.all_eq_true.1 hheads word hword
    rw [hhead, Option.all_some, h] at hnone
    cases hnone
  rw [leadingWeekday, hword]

/-- A text that begins with four decimal digits is no date of RFC 2822. -/
theorem read?_eq_none {year : List Char} (hyear : IsoLike.IsNumeral 4 (some 4) year)
    (rest : List Char) : read? (year ++ rest) = none := by
  obtain ⟨a, b, c, d, rfl⟩ : ∃ a b c d, year = [a, b, c, d] := by
    have hlength := hyear.length_eq
    rcases year with _ | ⟨a, _ | ⟨b, _ | ⟨c, _ | ⟨d, _ | ⟨e, year⟩⟩⟩⟩⟩ <;> simp at hlength
    exact ⟨a, b, c, d, rfl⟩
  have hdecimal := hyear.1
  simp only [List.forall_mem_cons] at hdecimal
  obtain ⟨ha, hb, hc, -, -⟩ := hdecimal
  have hspace {c : Char} (h : isDecimal c) (cs : List Char) : Scan.space (c :: cs) = none := by
    simp [Scan.space, Scan.trimStart_of_isDecimal h]
  -- after one digit or two there is another one, and no blank
  have hday {day : Nat} {cs : List Char}
      (hday : Scan.numberIn 1 2 1 31 ([a, b, c, d] ++ rest) = some (day, cs)) :
      Scan.space cs = none := by
    obtain ⟨ds, htext, -, hleast, hmost, -⟩ :=
      Scan.exists_of_number (Option.filter_eq_some_iff.1 hday).1
    rcases ds with _ | ⟨x, _ | ⟨y, _ | ⟨z, ds⟩⟩⟩
    · simp at hleast
    · obtain rfl : b :: c :: d :: rest = cs := (List.cons.inj htext).2
      exact hspace hb _
    · obtain rfl : c :: d :: rest = cs := (List.cons.inj (List.cons.inj htext).2).2
      exact hspace hc _
    · simp at hmost
  have htrim : trimStart ([a, b, c, d] ++ rest) = [a, b, c, d] ++ rest :=
    Scan.trimStart_of_isDecimal ha _
  have hweekday : leadingWeekday ([a, b, c, d] ++ rest) = some (none, [a, b, c, d] ++ rest) :=
    leadingWeekday_of_isDecimal ha _
  rw [read?, htrim, hweekday, Option.bind_eq_bind, Option.bind_some]
  dsimp only
  rw [htrim]
  refine Option.bind_eq_none_iff.2 ?_
  rintro ⟨day, cs⟩ hscan
  rw [hday hscan, Option.bind_eq_bind, Option.bind_none]

end Rfc2822

namespace Instant

variable {date : Date} {second nanos nanos' : Nat} {offset : Int} {t : Instant}

/-- The instant of a wall clock time has its nanoseconds. -/
theorem nanos_of_ofLocal? (h : ofLocal? date second nanos offset = some t) : t.nanos = nanos := by
  rw [ofLocal?, Option.ite_none_right_eq_some] at h
  have hparts := h.2
  rw [ofParts?] at hparts
  split at hparts
  · rw [← Option.some.inj hparts]
  · cases hparts

/-- Wall clock times with the same milliseconds are instants with the same milliseconds. -/
theorem map_epochMillis_ofLocal? (h : nanos / 1000000 = nanos' / 1000000)
    (hnanos : nanos < 1000000000) (hnanos' : nanos' < 1000000000) :
    (ofLocal? date second nanos offset).map epochMillis =
      (ofLocal? date second nanos' offset).map epochMillis := by
  have hparts (day : Int) (second : Nat) :
      (ofParts? day second nanos).map epochMillis =
        (ofParts? day second nanos').map epochMillis := by
    simp only [ofParts?, hnanos, hnanos', true_or, and_true]
    split
    · simp [epochMillis, epochSeconds, millis, h]
    · rfl
  rw [ofLocal?, ofLocal?]
  split
  · exact hparts _ _
  · rfl

end Instant

namespace Stamp

variable {s : Stamp} {caps : Captured}

/-- A stamp with a zone is no date without an offset: after the first colon of such a date there are
only digits and the marks of seconds. -/
theorem not_captures_append (h : s.IsWritten) {c : Char} (hc : c ∈ Rfc3339.zoneMarks)
    (more : List Char) : ¬(seqAll IsoLike.fields).Captures (s.text ++ c :: more) caps := by
  intro hcaps
  let front := s.year ++ '-' :: (s.month ++ '-' :: (s.day ++ s.mark :: s.hour))
  -- the first colon is the one after the hour
  have hcut : s.text ++ c :: more =
      front ++ ':' :: (s.minute ++ ':' :: (s.second ++ s.fractionText ++ c :: more)) := by
    simp [front, text, clockText]
  have hcolon {n : Nat} {cs : List Char} (hcs : IsDigits n cs) : ':' ∉ cs := fun hmem =>
    absurd (hcs.1 _ hmem) (by decide)
  have hmark : s.mark ≠ ':' := fun heq => absurd (heq ▸ h.mark) (by decide)
  have hfront : ':' ∉ front := by
    simp [front, hcolon h.year, hcolon h.month, hcolon h.day, hcolon h.hour, hmark.symm]
  have hnone : ∀ c ∈ Rfc3339.zoneMarks, ¬(isDecimal c ∨ c ∈ IsoLike.clockMarks) := by
    simp only [Rfc3339.zoneMarks, List.forall_mem_cons]
    refine ⟨by decide, by decide, by decide, by decide, ?_, by simp⟩
    rw [Unicode.isDecimal_minus]
    decide
  exact hnone c hc (IsoLike.mem_of_captures_of_cut hcaps hcut hfront c (by simp))

/-- The two readers agree on a stamp, but for second 60, which is a leap second to one of them and
unknown to the other. -/
theorem map_epochMillis_eq {t : Instant} {m : Match} (h : s.IsWritten)
    (hcaps : (seqAll IsoLike.fields).Captures s.text caps)
    (hm : IsoLike.shape.find? s.text = some m)
    (hgroups : ∀ number, number ≠ 0 → m.group? number = caps.lookup number)
    (ht : Scan.instant s.date (ofDigits s.hour) (ofDigits s.minute) (ofDigits s.second) s.nanos 0 =
      some t) :
    if t.nanos < 1000000000 then
      (IsoLike.read? s.text).map Instant.epochMillis = some t.epochMillis
    else IsoLike.read? s.text = none := by
  obtain ⟨hnanos, hlt⟩ := nanos_div h
  have hread := isoLike_read?_eq h hm fun number hnumber => by
    rw [hgroups number hnumber, IsoLike.captures_fields_unique hcaps (captures_fields h)]
  rw [hread]
  by_cases hleap : ofDigits s.second = 60
  · -- to RFC 3339 this is second 59 with more than 999 milliseconds
    simp only [Scan.instant, Scan.leapSecond, if_pos hleap] at ht
    obtain ⟨time, -, hlocal⟩ := Option.bind_eq_some_iff.1 ht
    have hnanos := Instant.nanos_of_ofLocal? hlocal
    rw [if_neg (by omega), hleap]
    have hnone : Instant.secondOfDay? (ofDigits s.hour) (ofDigits s.minute) 60 = none :=
      if_neg (by omega)
    rw [hnone, Option.bind_none]
  · simp only [Scan.instant, Scan.leapSecond, if_neg hleap] at ht
    obtain ⟨time, htime, hlocal⟩ := Option.bind_eq_some_iff.1 ht
    rw [if_pos (Instant.nanos_of_ofLocal? hlocal ▸ hlt), htime, Option.bind_some]
    have hmillis : IsoLike.millis s.fraction * 1000000 / 1000000 = s.nanos / 1000000 := by omega
    rw [Instant.map_epochMillis_ofLocal? hmillis (by omega) hlt, hlocal, Option.map_some]

end Stamp

/-- RFC 3339 does not read a date without an offset, and reads it with `Z` as a stamp at no
offset. -/
theorem exists_stamp_of_captures {cs : List Char} {caps : Captured}
    (hcaps : (seqAll IsoLike.fields).Captures cs caps) :
    Rfc3339.read? cs = none ∧ ∀ t, Rfc3339.read? (cs ++ ['Z']) = some t →
      ∃ s : Stamp, s.IsWritten ∧ cs = s.text ∧
        Scan.instant s.date (ofDigits s.hour) (ofDigits s.minute) (ofDigits s.second) s.nanos 0 =
          some t := by
  -- what is left of a zone that is cut off by the end of the date would be a part of the date
  have hcut {more zoneText : List Char} {offset : Int} {s : Stamp} (hs : s.IsWritten)
      (htext : cs ++ more = s.text ++ zoneText)
      (hzone : Rfc3339.zone zoneText = some (offset, [])) :
      ∃ left, s.text = cs ++ left ∧ more = left ++ zoneText := by
    rcases List.append_eq_append_iff.1 htext with ⟨left, htext, hmore⟩ | ⟨left, rfl, hzoneText⟩
    · exact ⟨left, htext, hmore⟩
    · obtain ⟨c, rest, rfl, hc⟩ := Rfc3339.exists_of_zone hzone
      cases left with
      | nil => exact ⟨[], by simp, by simpa using hzoneText.symm⟩
      | cons d left =>
        obtain rfl : c = d := (List.cons.inj hzoneText).1
        exact absurd hcaps (Stamp.not_captures_append hs hc left)
  constructor
  · rw [Option.eq_none_iff_forall_ne_some]
    intro t ht
    obtain ⟨s, zoneText, offset, hs, htext, hzone, -⟩ := Rfc3339.exists_stamp_of_read? ht
    rw [← List.append_nil cs] at htext
    obtain ⟨left, -, hleft⟩ := hcut hs htext hzone
    obtain ⟨c, rest, rfl, -⟩ := Rfc3339.exists_of_zone hzone
    simp at hleft
  · intro t ht
    obtain ⟨s, zoneText, offset, hs, htext, hzone, hinstant⟩ := Rfc3339.exists_stamp_of_read? ht
    obtain ⟨left, hstamp, hleft⟩ := hcut hs htext hzone
    obtain ⟨c, rest, rfl, -⟩ := Rfc3339.exists_of_zone hzone
    obtain ⟨rfl, hZ⟩ : left = [] ∧ c :: rest = ['Z'] := by
      cases left with
      | nil => exact ⟨rfl, hleft.symm⟩
      | cons d left => simp at hleft
    rw [hZ] at hzone
    obtain rfl : 0 = offset := (Prod.mk.inj (Option.some.inj hzone)).1
    exact ⟨s, hs, by simpa using hstamp.symm, hinstant⟩

/-- Milliseconds are below a thousand. -/
theorem IsoLike.millis_lt (ds : List Char) : IsoLike.millis ds < 1000 := by
  rw [IsoLike.millis, readNat?]
  split
  · decide
  · rename_i hdigits
    have hall : ∀ c ∈ (ds ++ ['0', '0', '0']).take 3, isDigit c := by
      simp only [Bool.or_eq_true, not_or, Bool.not_eq_true', Bool.not_eq_false,
        List.all_eq_true] at hdigits
      exact hdigits.2
    calc ofDigits ((ds ++ ['0', '0', '0']).take 3)
        < 10 ^ ((ds ++ ['0', '0', '0']).take 3).length := ofDigits_lt hall
      _ ≤ 10 ^ 3 := Nat.pow_le_pow_right (by decide) (List.length_take_le 3 _)

/-- What is read from a date that looks like ISO 8601 is no leap second. -/
theorem IsoLike.nanos_lt_of_read? {cs : List Char} {t : Instant} (h : IsoLike.read? cs = some t) :
    t.nanos < 1000000000 := by
  simp only [IsoLike.read?, Option.bind_eq_bind, Option.bind_eq_some_iff] at h
  obtain ⟨m, -, year, -, month, -, day, -, hour, -, minute, -, second, -, time, -, h⟩ := h
  obtain ⟨offset, hlocal⟩ : ∃ offset, Instant.ofLocal? ⟨year, month, day⟩ time
      (IsoLike.millis ((m.group? 7).getD []) * 1000000) offset = some t := by
    split at h
    · obtain ⟨offset, -, hlocal⟩ := Option.bind_eq_some_iff.1 h
      exact ⟨offset, hlocal⟩
    · exact ⟨0, h⟩
  have hmillis := IsoLike.millis_lt ((m.group? 7).getD [])
  rw [Instant.nanos_of_ofLocal? hlocal]
  omega

section Zulu

variable {cs : List Char} {caps : Captured} {m : Match}

/-- A text that begins with a date and a time begins with a year of four digits. -/
theorem rfc2822_read?_of_captures (hcaps : (seqAll IsoLike.fields).Captures cs caps)
    (more : List Char) : Rfc2822.read? (cs ++ more) = none := by
  obtain ⟨year, date, _, clock, _, hyear, -, -, rfl, -⟩ := IsoLike.captures_fields_iff.1 hcaps
  rw [List.append_assoc]
  exact Rfc2822.read?_eq_none hyear _

/-- Without an offset a date that looks like ISO 8601 is read by no other reader. -/
theorem readInstant?_of_captures {text : List Char}
    (hcaps : (seqAll IsoLike.fields).Captures (trim text) caps) :
    readInstant? text = IsoLike.read? (trim text) := by
  have hnone := (exists_stamp_of_captures hcaps).1
  have hnone' : Rfc2822.read? (trim text) = none := by
    simpa using rfc2822_read?_of_captures hcaps []
  simp [readInstant?, hnone, hnone']

/-- With `Z` at the end a date that looks like ISO 8601 is read as one of RFC 3339, or else as
without `Z`. -/
theorem readInstant?_append_zulu (htrim : IsTrimmed cs) (hm : IsoLike.shape.find? cs = some m)
    (hoffset : m.group? 8 = none) :
    readInstant? (cs ++ ['Z']) = (Rfc3339.read? (cs ++ ['Z'])).or (IsoLike.read? cs) := by
  obtain ⟨caps, hcaps, -⟩ := IsoLike.exists_captures_of_find? htrim hm hoffset
  have hne : cs ≠ [] := by
    rintro rfl
    obtain ⟨c, hc, -⟩ := IsoLike.exists_getLast?_of_captures hcaps
    cases hc
  have htrim' : trim (cs ++ ['Z']) = cs ++ ['Z'] := htrim.append (by decide) hne (by decide)
  simp [readInstant?, htrim', rfc2822_read?_of_captures hcaps ['Z'],
    IsoLike.read?_zulu htrim hm hoffset]

end Zulu

/-- **Times without an offset are universal time.** A text that looks like ISO 8601 and has no
offset is read as with `Z` at the end, to the millisecond or not at all, just when with `Z` it is no
leap second. A leap second is read with `Z` only. -/
theorem readInstant_zulu_iff (text : List Char) (m : Match)
    (hm : IsoLike.shape.find? (trim text) = some m) (hoffset : m.group? 8 = none) :
    ((readInstant? text).map Instant.epochMillis =
        (readInstant? (trim text ++ ['Z'])).map Instant.epochMillis ↔
      ∀ t ∈ readInstant? (trim text ++ ['Z']), t.nanos < 1000000000) ∧
    ∀ t ∈ readInstant? (trim text ++ ['Z']), 1000000000 ≤ t.nanos → readInstant? text = none := by
  have htrim : IsTrimmed (trim text) := trim_idem text
  obtain ⟨caps, hcaps, hgroups⟩ := IsoLike.exists_captures_of_find? htrim hm hoffset
  rw [readInstant?_of_captures hcaps, readInstant?_append_zulu htrim hm hoffset]
  cases hread : Rfc3339.read? (trim text ++ ['Z']) with
  | none =>
    -- the same reader reads both texts, and it knows no leap seconds
    have hlt : ∀ t ∈ IsoLike.read? (trim text), t.nanos < 1000000000 := fun t ht =>
      IsoLike.nanos_lt_of_read? ht
    rw [Option.none_or]
    exact ⟨⟨fun _ => hlt, fun _ => rfl⟩, fun t ht hleap => absurd (hlt t ht) (Nat.not_lt.2 hleap)⟩
  | some t =>
    -- the text is a stamp, on which the two readers agree but for leap seconds
    obtain ⟨s, hs, heq, hinstant⟩ := (exists_stamp_of_captures hcaps).2 t hread
    rw [heq] at hm hcaps
    have hagree := Stamp.map_epochMillis_eq hs hcaps hm hgroups hinstant
    rw [← heq] at hagree
    simp only [Option.some_or, Option.mem_def, Option.some.injEq, forall_eq', Option.map_some]
    by_cases hlt : t.nanos < 1000000000
    · rw [if_pos hlt] at hagree
      exact ⟨⟨fun _ => hlt, fun _ => hagree⟩, fun hleap => absurd hlt (Nat.not_lt.2 hleap)⟩
    · rw [if_neg hlt] at hagree
      rw [hagree]
      exact ⟨⟨fun h => absurd h (by simp), fun h => absurd h hlt⟩, fun _ => rfl⟩

/-- A morning with half a second and blanks around it. -/
def morning : List Char := " 2020-01-02 03:04:05.5\n".toList

/-- The morning is the same with `Z` at the end, though another reader reads it then. -/
theorem readInstant_zulu_iff_morning :
    ∃ m, IsoLike.shape.find? (trim morning) = some m ∧ m.group? 8 = none ∧
      (Rfc3339.read? (trim morning ++ ['Z'])).isSome ∧
      (readInstant? morning).map Instant.epochMillis =
        (readInstant? (trim morning ++ ['Z'])).map Instant.epochMillis := by
  have hfind : (IsoLike.shape.find? (trim morning)).map (fun m => m.group? 8) = some none := by
    decide +kernel
  have hother : (Rfc3339.read? (trim morning ++ ['Z'])).isSome := by decide +kernel
  have hplain : ∀ t ∈ readInstant? (trim morning ++ ['Z']), t.nanos < 1000000000 := by
    decide +kernel
  obtain ⟨m, hm, hoffset⟩ := Option.map_eq_some_iff.1 hfind
  exact ⟨m, hm, hoffset, hother, (readInstant_zulu_iff morning m hm hoffset).1.2 hplain⟩

/-- The leap second at the end of 2016, without an offset. -/
def secondSixty : List Char := "2016-12-31T23:59:60".toList

/-- The leap second is read with `Z` at the end, and not without an offset. -/
theorem readInstant_secondSixty :
    (IsoLike.shape.find? (trim secondSixty)).map (fun m => m.group? 8) = some none ∧
      readInstant? secondSixty = none ∧
      (readInstant? (trim secondSixty ++ ['Z'])).map Instant.epochMillis = some 1483228800000 := by
  refine ⟨?_, ?_, ?_⟩ <;> decide +kernel

end Gleaner.Calendar
