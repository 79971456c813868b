import Gleaner.Calendar.Instant
import Mathlib.Order.Monotone.Basic

/-!
# Days and civil dates

The year of a day of an era is found by one division, with corrections for the leap days before the
day. That it is the right one is checked at the beginning and end of each year of an era; the days
between are in the same year because the division is monotone.

## Main definitions

* `Date.yearStart`: the number of days of an era before a year of it.
* `Date.yearAt`: the year of an era that a day of it is in.

## Main results

* `Date.yearStart_yearAt_le`, `Date.lt_yearStart_yearAt`: the year that a day is in.
* `Date.toDays_ofDays`: the date of a day stands for this day.
* `Date.isValid_ofDays`: the calendar has the date of a day.
* `Instant.secondOfDay?_parts`, `Instant.ofLocal?_date`: an instant is the one of its date and of
  the parts of its time.
-/

namespace Gleaner.Calendar

namespace Date

/-- The number of days of an era before a year of it. -/
def yearStart (year : Nat) : Nat := 365 * year + year / 4 - year / 100

/-- The year of an era that a day of it is in. -/
def yearAt (day : Nat) : Nat := (day - day / 1460 + day / 36524 - day / 146096) / 365

/-! ### The years of an era -/

/-- A later day is in no earlier year. -/
theorem yearAt_mono {a b : Nat} (h : a ≤ b) : yearAt a ≤ yearAt b := by
  have hera (n : Nat) : n / 146096 = n / 36524 / 4 := by rw [Nat.div_div_eq_div_mul]
  have hcentury : a / 36524 ≤ b / 36524 := Nat.div_le_div_right h
  refine Nat.div_le_div_right ?_
  rw [hera, hera]
  generalize a / 36524 = m at *
  generalize b / 36524 = n at *
  omega

/-- The first day of a year is in it, and the day before in the year before. -/
theorem yearAt_yearStart : ∀ year < 400, yearAt (yearStart year) = year ∧
    (0 < year → yearAt (yearStart year - 1) = year - 1) := by
  decide +kernel

variable {day : Nat}

/-- An era has 400 years. -/
theorem yearAt_lt (h : day < 146097) : yearAt day < 400 :=
  calc yearAt day ≤ yearAt 146096 := yearAt_mono (Nat.le_of_lt_succ h)
    _ < 400 := by decide

/-- The year of a day has begun. -/
theorem yearStart_yearAt_le (h : day < 146097) : yearStart (yearAt day) ≤ day := by
  by_contra hbefore
  have hpositive : 0 < yearAt day := by
    by_contra hzero
    rw [Nat.eq_zero_of_not_pos hzero] at hbefore
    exact hbefore (Nat.zero_le day)
  -- a day before the year would be in the year before
  have hprevious : yearAt day ≤ yearAt day - 1 :=
    calc yearAt day ≤ yearAt (yearStart (yearAt day) - 1) := yearAt_mono (by omega)
      _ = yearAt day - 1 := (yearAt_yearStart _ (yearAt_lt h)).2 hpositive
  omega

/-- The year after that of a day has not begun. -/
theorem lt_yearStart_yearAt (h : yearAt day < 399) : day < yearStart (yearAt day + 1) := by
  by_contra hafter
  have hnext : yearAt day + 1 ≤ yearAt day :=
    calc yearAt day + 1 = yearAt (yearStart (yearAt day + 1)) :=
          (yearAt_yearStart _ (by omega)).1.symm
      _ ≤ yearAt day := yearAt_mono (by omega)
  omega

/-- A March year has 366 days if the next civil year is a leap year, and else 365. -/
theorem yearStart_succ : ∀ year < 399, yearStart (year + 1) =
    yearStart year + if (year + 1) % 4 = 0 ∧ (year + 1) % 100 ≠ 0 then 366 else 365 := by
  decide +kernel

/-- A year has at most 366 days, and as many only if the next civil year is a leap year. -/
theorem day_of_year_le (h : day < 146097) :
    day - yearStart (yearAt day) ≤ 365 ∧ (day - yearStart (yearAt day) = 365 →
      (yearAt day + 1) % 4 = 0 ∧ ((yearAt day + 1) % 100 ≠ 0 ∨ (yearAt day + 1) % 400 = 0)) := by
  have hstart := yearStart_yearAt_le h
  have hlt := yearAt_lt h
  by_cases hlast : yearAt day < 399
  · have hnext := lt_yearStart_yearAt hlast
    rw [yearStart_succ _ hlast] at hnext
    split at hnext <;> omega
  · have hyear : yearAt day = 399 := by omega
    have hfirst : yearStart 399 = 145731 := rfl
    rw [hyear, hfirst]
    omega

/-! ### The days of a year -/

/-- The month and the day of the month of a day of a March year. The last day of a leap year is the
29 February of the civil year after it. -/
theorem month_and_day : ∀ dayOfYear < 366,
    let month := (5 * dayOfYear + 2) / 153
    let day := dayOfYear - (153 * month + 2) / 5 + 1
    let civil := if month < 10 then month + 3 else month - 9
    1 ≤ civil ∧ civil ≤ 12 ∧ 1 ≤ day ∧ day ≤ daysInMonth (if dayOfYear = 365 then 0 else 1) civil ∧
      (153 * month + 2) / 5 ≤ dayOfYear ∧ (civil + 9) % 12 = month ∧ (civil ≤ 2 ↔ 10 ≤ month) := by
  decide +kernel

/-- Only February depends on the year, and a leap year makes it longer. -/
theorem daysInMonth_le {year year' : Int} (h : isLeapYear year → isLeapYear year')
    (month : Nat) : daysInMonth year month ≤ daysInMonth year' month := by
  rw [daysInMonth, daysInMonth]
  split
  · cases hyear : isLeapYear year with
    | false => simp; split <;> decide
    | true => rw [h hyear]
  · exact Nat.le_refl _

/-! ### Dates -/

/-- The parts that the date of a day is made of: the era, the day of the era, and the day of its
year. -/
theorem ofDays_eq (days : Int) :
    ∃ (era : Int) (day : Nat), day < 146097 ∧ days + 719468 = era * 146097 + day ∧
      let dayOfYear := day - yearStart (yearAt day)
      let month := (5 * dayOfYear + 2) / 153
      let civil := if month < 10 then month + 3 else month - 9
      ofDays days = ⟨(if civil ≤ 2 then (yearAt day : Int) + era * 400 + 1
        else yearAt day + era * 400), civil, dayOfYear - (153 * month + 2) / 5 + 1⟩ := by
  obtain ⟨day, hday⟩ : ∃ day : Nat,
      (days + 719468) - (days + 719468) / 146097 * 146097 = day :=
    ⟨_, (Int.toNat_of_nonneg (by omega)).symm⟩
  have hlt : day < 146097 := by omega
  refine ⟨(days + 719468) / 146097, day, hlt, by omega, ?_⟩
  have hyear : ((day : Int) - day / 1460 + day / 36524 - day / 146096) / 365 = yearAt day := by
    rw [yearAt]
    omega
  have hstart := yearStart_yearAt_le hlt
  have hyearStart : 365 * (yearAt day : Int) + (yearAt day : Int) / 4 - (yearAt day : Int) / 100 =
      yearStart (yearAt day) := by
    rw [yearStart]
    omega
  obtain ⟨dayOfYear, hdayOfYear⟩ : ∃ dayOfYear, day - yearStart (yearAt day) = dayOfYear :=
    ⟨_, rfl⟩
  have hdayOfYear' : (day : Int) - yearStart (yearAt day) = dayOfYear := by omega
  have hmonth : (5 * (dayOfYear : Int) + 2) / 153 = ((5 * dayOfYear + 2) / 153 : Nat) := by omega
  obtain ⟨-, -, -, -, hfirst, -, -⟩ :=
    month_and_day dayOfYear (by have := (day_of_year_le hlt).1; omega)
  simp only [ofDays, hday, hyear, hyearStart, hdayOfYear, hdayOfYear', hmonth] at hfirst ⊢
  generalize (5 * dayOfYear + 2) / 153 = month at hfirst ⊢
  have hcast : (month : Int) < 10 ↔ month < 10 := by omega
  by_cases hbefore : month < 10
  · simp only [hcast, hbefore, ↓reduceIte, Date.mk.injEq]
    refine ⟨?_, ?_, ?_⟩ <;> omega
  · simp only [hcast, hbefore, ↓reduceIte, Date.mk.injEq]
    refine ⟨?_, ?_, ?_⟩ <;> omega

/-- The days of a date by its March year, which is the one before for January and February. -/
theorem toDays_eq (era : Int) {year : Nat} (hyear : year < 400) (month day : Nat) :
    toDays ⟨if month ≤ 2 then (year : Int) + era * 400 + 1 else year + era * 400, month, day⟩ =
      era * 146097 + yearStart year + ((153 * ((month + 9) % 12) + 2) / 5 : Nat) + day - 1 -
        719468 := by
  have hmarch : (if month ≤ 2 then
      (if month ≤ 2 then (year : Int) + era * 400 + 1 else year + era * 400) - 1
      else if month ≤ 2 then (year : Int) + era * 400 + 1 else year + era * 400) =
      year + era * 400 := by
    split <;> omega
  have hera : ((year : Int) + era * 400) / 400 = era := by omega
  have hyearStart :
      (yearStart year : Int) = year * 365 + (year : Int) / 4 - (year : Int) / 100 := by
    rw [yearStart]
    omega
  simp only [toDays, hmarch, hera, hyearStart]
  rw [show (year : Int) + era * 400 - era * 400 = year by omega]
  omega

/-- The date of a day stands for this day. -/
theorem toDays_ofDays (days : Int) : (ofDays days).toDays = days := by
  obtain ⟨era, day, hday, hdays, hdate⟩ := ofDays_eq days
  have hstart := yearStart_yearAt_le hday
  obtain ⟨-, -, -, -, hfirst, hmonth, -⟩ := month_and_day (day - yearStart (yearAt day))
    (Nat.lt_succ_of_le (day_of_year_le hday).1)
  rw [hdate, toDays_eq era (yearAt_lt hday), hmonth]
  omega

/-- The calendar has the date of a day. -/
theorem isValid_ofDays (days : Int) : (ofDays days).IsValid := by
  obtain ⟨era, day, hday, -, hdate⟩ := ofDays_eq days
  obtain ⟨hle, hleap⟩ := day_of_year_le hday
  obtain ⟨hfirst, hlast, hone, hdays, -, -, hearly⟩ :=
    month_and_day (day - yearStart (yearAt day)) (Nat.lt_succ_of_le hle)
  rw [hdate]
  refine ⟨hfirst, hlast, hone, hdays.trans (daysInMonth_le (fun h => ?_) _)⟩
  -- the year 0 is a leap year and the year 1 is not
  by_cases hlong : day - yearStart (yearAt day) = 365
  · obtain ⟨hfour, hhundred⟩ := hleap hlong
    simp only [hlong] at hearly ⊢
    simp [isLeapYear]
    omega
  · rw [if_neg hlong] at h
    cases h

end Date

/-- A week has seven days. -/
theorem weekday_lt (days : Int) : weekday days < 7 := by
  rw [weekday]
  omega

/-! ### The parts of an instant -/

namespace Instant

variable (t : Instant)

/-- The date of an instant is in the calendar. -/
theorem isValid_date : t.date.IsValid := Date.isValid_ofDays t.day

/-- A month has at most 31 days. -/
theorem day_le : t.date.day ≤ 31 := by
  have hlast := t.isValid_date.2.2.2
  have hdays (year : Int) (month : Nat) : daysInMonth year month ≤ 31 := by
    rw [daysInMonth]
    split
    · split <;> decide
    · split <;> decide
  exact hlast.trans (hdays _ _)

/-- A day has 24 hours. -/
theorem hour_lt : t.hour < 24 := by
  have := t.second_lt
  rw [hour]
  omega

/-- An hour has 60 minutes. -/
theorem minute_lt : t.minute < 60 := Nat.mod_lt _ (by decide)

/-- A minute has 60 seconds. -/
theorem secondOfMinute_lt : t.secondOfMinute < 60 := Nat.mod_lt _ (by decide)

/-- The parts of the time give the second of the day. -/
theorem secondOfDay?_parts :
    Instant.secondOfDay? t.hour t.minute t.secondOfMinute = some t.second := by
  rw [secondOfDay?, if_pos ⟨t.hour_lt, t.minute_lt, t.secondOfMinute_lt⟩, hour, minute,
    secondOfMinute]
  congr 1
  omega

/-- The date and the time give the instant. -/
theorem ofLocal?_date : Instant.ofLocal? t.date t.second t.nanos 0 = some t := by
  have hday : t.date.toDays = t.day := Date.toDays_ofDays t.day
  have hsecond := t.second_lt
  have hnoon : (t.second : Int) / 86400 = 0 := by omega
  have hsame : ((t.second : Int) % 86400).toNat = t.second := by omega
  rw [ofLocal?, if_pos ⟨t.isValid_date, by decide, hsecond⟩]
  simp only [Int.sub_zero, hday, hnoon, hsame, Int.add_zero, ofParts?_parts]

end Instant

end Gleaner.Calendar
