import Gleaner.Coerce.Date
import Gleaner.Proofs.Calendar.Rendering
import Gleaner.Proofs.Number.Whole
import Gleaner.Proofs.Text.Trim

/-!
# Standard forms of instants are read back

An instant can be written as the ISO 8601 text with milliseconds, and as the number of milliseconds
from the beginning of 1970. Either is read back as the instant, if it shows the instant in full.

## Main results

* `Scan.number_paddedDigits`: a number of a fixed width is scanned as it was written.
* `Rfc3339.read?_iso`, `readInstant?_iso`: the ISO text is read back.
* `Instant.natAbs_epochMillis_lt`: the milliseconds of every instant are exact as a double.
* `Instant.ofEpochMillis?_epochMillis`, `Instant.ofEpochDouble?_epochMillis`: they are read back.
-/

namespace Gleaner.Calendar

/-- The nanoseconds of an instant that milliseconds show in full. -/
theorem Instant.IsShowable.millis_mul {t : Instant} (ht : t.IsShowable) :
    t.millis * 1000000 = t.nanos := by
  have hwhole := ht.nanos_mod
  rw [Instant.millis]
  omega

/-! ### The ISO text -/

namespace Scan

variable {width n : Nat}

/-- A number that has been written in a fixed width is scanned with this width. -/
theorem number_paddedDigits (hwidth : 0 < width) (hn : n < 10 ^ width) (rest : List Char) :
    number width width (paddedDigits width n ++ rest) = some (n, rest) := by
  have hlength := length_paddedDigits hwidth hn
  have htake : (paddedDigits width n ++ rest).take width = paddedDigits width n :=
    List.take_left' hlength
  have hdigits : (paddedDigits width n).takeWhile isDigit = paddedDigits width n :=
    List.takeWhile_eq_self_iff.2 fun _ => isDigit_of_mem_paddedDigits
  simp [number, htake, hdigits, hlength, ofDigits_paddedDigits]

/-- A number in a range that has been written in a fixed width is scanned with both. -/
theorem numberIn_paddedDigits {low high : Nat} (hwidth : 0 < width) (hn : n < 10 ^ width)
    (hlow : low ≤ n) (hhigh : n ≤ high) (rest : List Char) :
    numberIn width width low high (paddedDigits width n ++ rest) = some (n, rest) := by
  simp [numberIn, number_paddedDigits hwidth hn, hlow, hhigh]

/-- A character is scanned in front of a text. -/
@[simp]
theorem char_cons_self (c : Char) (rest : List Char) : char c (c :: rest) = some rest := by
  rw [char, if_pos rfl]

/-- The date and the time of an instant that they show in full give it back. -/
theorem instant_parts {t : Instant} (ht : t.IsShowable) :
    instant ⟨t.date.year.toNat, t.date.month, t.date.day⟩ t.hour t.minute t.secondOfMinute
      (t.millis * 1000000) 0 = some t := by
  have hsecond := t.secondOfMinute_lt
  have hleap (nanos : Nat) : leapSecond t.secondOfMinute nanos = (t.secondOfMinute, nanos) := by
    rw [leapSecond, if_neg (by omega)]
  rw [instant]
  simp only [hleap, Instant.secondOfDay?_parts, Option.bind_eq_bind, Option.bind_some,
    Int.toNat_of_nonneg ht.year_nonneg, ht.millis_mul]
  exact t.ofLocal?_date

end Scan

namespace Instant

/-- The second of the minute in the ISO text, which counts a leap second as one of its own. -/
def isoSecond (t : Instant) : Nat :=
  if 1000000000 ≤ t.nanos then t.secondOfMinute + 1 else t.secondOfMinute

/-- The milliseconds in the ISO text; those of a leap second begin at 0 again. -/
def isoMillis (t : Instant) : Nat :=
  (if 1000000000 ≤ t.nanos then t.nanos - 1000000000 else t.nanos) / 1000000

theorem isoSecond_of_lt {t : Instant} (h : t.nanos < 1000000000) :
    t.isoSecond = t.secondOfMinute :=
  if_neg (Nat.not_le.2 h)

theorem isoMillis_of_lt {t : Instant} (h : t.nanos < 1000000000) : t.isoMillis = t.millis := by
  rw [isoMillis, if_neg (Nat.not_le.2 h), millis]

/-- The ISO text of an instant whose year has four digits. -/
theorem iso_eq {t : Instant} (hyear : 0 ≤ t.date.year) (hyear' : t.date.year ≤ 9999) :
    t.iso = paddedDigits 4 t.date.year.toNat ++ '-' :: (paddedDigits 2 t.date.month ++
      '-' :: (paddedDigits 2 t.date.day ++ 'T' :: (paddedDigits 2 t.hour ++
      ':' :: (paddedDigits 2 t.minute ++ ':' :: (paddedDigits 2 t.isoSecond ++
      '.' :: (paddedDigits 3 t.isoMillis ++ ['Z'])))))) := by
  simp [iso, yearText, hyear, hyear', isoSecond, isoMillis]

/-- The ISO text of an instant that it shows in full. -/
theorem IsShowable.iso_eq {t : Instant} (ht : t.IsShowable) :
    t.iso = paddedDigits 4 t.date.year.toNat ++ '-' :: (paddedDigits 2 t.date.month ++
      '-' :: (paddedDigits 2 t.date.day ++ 'T' :: (paddedDigits 2 t.hour ++
      ':' :: (paddedDigits 2 t.minute ++ ':' :: (paddedDigits 2 t.secondOfMinute ++
      '.' :: (paddedDigits 3 t.millis ++ ['Z'])))))) := by
  rw [Instant.iso_eq ht.year_nonneg ht.year_le, isoSecond_of_lt ht.nanos_lt,
    isoMillis_of_lt ht.nanos_lt]

end Instant

namespace Rfc3339

/-- Milliseconds in three digits are the fraction in front of a zone. -/
theorem fraction_paddedDigits {millis : Nat} (h : millis < 1000) (rest : List Char) :
    fraction ('.' :: (paddedDigits 3 millis ++ 'Z' :: rest)) =
      some (millis * 1000000, 'Z' :: rest) := by
  have hdigits : ∀ c ∈ paddedDigits 3 millis, isDigit c = true := fun _ =>
    isDigit_of_mem_paddedDigits
  have hlength : (paddedDigits 3 millis).length = 3 := length_paddedDigits (by decide) h
  have htake : (paddedDigits 3 millis ++ 'Z' :: rest).takeWhile isDigit = paddedDigits 3 millis := by
    rw [List.takeWhile_append_of_pos hdigits, List.takeWhile_cons_of_neg (by decide),
      List.append_nil]
  have hdrop : (paddedDigits 3 millis ++ 'Z' :: rest).dropWhile isDigit = 'Z' :: rest := by
    rw [List.dropWhile_append_of_pos hdigits, List.dropWhile_cons_of_neg (by decide)]
  have hcounted : (paddedDigits 3 millis).take 9 = paddedDigits 3 millis :=
    List.take_of_length_le (by omega)
  have hnonempty : (paddedDigits 3 millis).isEmpty = false := by simp [paddedDigits_ne_nil]
  simp [fraction, htake, hdrop, hcounted, hnonempty, hlength, ofDigits_paddedDigits]

/-- The ISO text of an instant is read back, if it shows the instant in full. -/
theorem read?_iso {t : Instant} (ht : t.IsShowable) : read? t.iso = some t := by
  obtain ⟨hfirst, hlast, hone, -⟩ := t.isValid_date
  have hyear : t.date.year.toNat < 10 ^ 4 := by
    have := ht.year_le
    omega
  -- each field but the year is scanned with two digits and its own bounds
  have hscan {low high n : Nat} (hlow : low ≤ n) (hhigh : n ≤ high) (htwo : high < 10 ^ 2)
      (rest : List Char) : Scan.numberIn 2 2 low high (paddedDigits 2 n ++ rest) = some (n, rest) :=
    Scan.numberIn_paddedDigits Nat.two_pos (hhigh.trans_lt htwo) hlow hhigh rest
  have hmonth := hscan hfirst hlast (by decide)
  have hday := hscan hone t.day_le (by decide)
  have hhour := hscan (Nat.zero_le _) (Nat.le_of_lt_succ t.hour_lt) (by decide)
  have hminute := hscan (Nat.zero_le _) (Nat.le_of_lt_succ t.minute_lt) (by decide)
  have hsecond := hscan (Nat.zero_le _) t.secondOfMinute_lt.le (by decide)
  have hmillis : t.millis < 1000 := by
    have hnanos := ht.nanos_lt
    rw [Instant.millis]
    omega
  -- one step for each scanner, which leaves the rest of the text to the next
  rw [ht.iso_eq]
  refine Option.bind_eq_some_iff.2 ⟨_, Scan.number_paddedDigits (by decide) hyear _, ?_⟩
  refine Option.bind_eq_some_iff.2 ⟨_, Scan.char_cons_self '-' _, ?_⟩
  refine Option.bind_eq_some_iff.2 ⟨_, hmonth _, ?_⟩
  refine Option.bind_eq_some_iff.2 ⟨_, Scan.char_cons_self '-' _, ?_⟩
  refine Option.bind_eq_some_iff.2 ⟨_, hday _, ?_⟩
  refine Option.bind_eq_some_iff.2 ⟨_, rfl, ?_⟩
  refine Option.bind_eq_some_iff.2 ⟨_, hhour _, ?_⟩
  refine Option.bind_eq_some_iff.2 ⟨_, Scan.char_cons_self ':' _, ?_⟩
  refine Option.bind_eq_some_iff.2 ⟨_, hminute _, ?_⟩
  refine Option.bind_eq_some_iff.2 ⟨_, Scan.char_cons_self ':' _, ?_⟩
  refine Option.bind_eq_some_iff.2 ⟨_, hsecond _, ?_⟩
  refine Option.bind_eq_some_iff.2 ⟨_, fraction_paddedDigits hmillis _, ?_⟩
  refine Option.bind_eq_some_iff.2 ⟨_, rfl, ?_⟩
  exact Scan.instant_parts ht

end Rfc3339

/-- There are no blanks in an ISO text. -/
theorem isTrimmed_iso {t : Instant} (ht : t.IsShowable) : IsTrimmed t.iso := by
  have hdigits {width n : Nat} {c : Char} (h : c ∈ paddedDigits width n) : isBlank c = false :=
    Unicode.isBlank_of_isDigit (isDigit_of_mem_paddedDigits h)
  refine .of_forall fun c hc => ?_
  -- every character is one of a field or a separator
  rw [ht.iso_eq] at hc
  simp only [List.mem_append, List.mem_cons, List.not_mem_nil, or_false] at hc
  rcases hc with h | rfl | h | rfl | h | rfl | h | rfl | h | rfl | h | rfl | h | rfl <;>
    first | exact hdigits h | decide

/-- The ISO text of an instant is read back by the first of the standard formats. -/
theorem readInstant?_iso {t : Instant} (ht : t.IsShowable) : readInstant? t.iso = some t := by
  have htrim : trim t.iso = t.iso := isTrimmed_iso ht
  rw [readInstant?]
  simp only [htrim, Rfc3339.read?_iso ht, Option.orElse_eq_orElse, Option.orElse_some]

/-! ### The milliseconds from 1970 -/

namespace Instant

variable {t : Instant}

/-- The milliseconds of every instant are exact as a double. -/
theorem natAbs_epochMillis_lt (t : Instant) : t.epochMillis.natAbs < 9007199254740992 := by
  have hfirst : firstDay = -96465292 := by decide
  have hlast : lastDay = 95026236 := by decide
  obtain ⟨hday, hday'⟩ := t.day_mem
  have hsecond := t.second_lt
  have hnanos := t.nanos_lt
  rw [epochMillis, epochSeconds, millis]
  omega

/-- The milliseconds of an instant give it back, if they show it in full. -/
theorem ofEpochMillis?_epochMillis (ht : t.IsShowable) :
    ofEpochMillis? t.epochMillis = some t := by
  have hnanos := ht.nanos_lt
  have hwhole := ht.nanos_mod
  have hsecond := t.second_lt
  -- before 1970 the second and the millisecond are counted from the beginning of the day
  have hseconds : t.epochMillis / 1000 = t.day * 86400 + t.second := by
    rw [epochMillis, epochSeconds, millis]
    omega
  have hmillis : (t.epochMillis % 1000 * 1000000).toNat = t.nanos := by
    rw [epochMillis, epochSeconds, millis]
    omega
  have hday : (t.day * 86400 + t.second) / 86400 = t.day := by omega
  have hofDay : ((t.day * 86400 + t.second) % 86400).toNat = t.second := by omega
  rw [ofEpochMillis?]
  simp only [hseconds, hmillis, hday, hofDay, ofParts?_parts]

/-- They do so as a double. -/
theorem ofEpochDouble?_epochMillis (ht : t.IsShowable) :
    ofEpochDouble? (.ofInt t.epochMillis) = some t := by
  have hexact := t.natAbs_epochMillis_lt
  rw [ofEpochDouble?, if_pos (Double.isFinite_ofInt hexact), Double.round_ofInt hexact,
    Double.toSignedWord_ofInt hexact, ofEpochMillis?_epochMillis ht]

end Instant

end Gleaner.Calendar
