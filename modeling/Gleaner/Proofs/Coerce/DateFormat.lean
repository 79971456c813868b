import Gleaner.Proofs.Calendar.Standard

/-!
# Formats that keep a date

Written as text without a layout, as a date or as a number, a value still stands for the date that
it was written from. So a second format makes of it what it would have made of the date itself.

## Main definitions

* `Coerce.machineFormats`: the formats that are no layouts.

## Main results

* `Coerce.readDate?_writeDate`: what these formats write stands for the date.
* `Coerce.date_date`: writing in such a format and then in any other is writing in the other.
-/

namespace Gleaner.Coerce

open Calendar (Instant Layout)

variable {t : Instant}

/-- The formats that are no layouts. -/
def machineFormats : List (Option String) :=
  [none, some "iso", some "date", some "dayjs", some "timestamp"]

/-- What is written without a layout stands for the date that it was written from. -/
theorem readDate?_writeDate (ht : t.IsShowable) {format : Option String}
    (hformat : format ∈ machineFormats) : readDate? [] (writeDate format t) = some t := by
  have hiso : readDate? [] (.string (.ofList t.iso)) = some t := by
    rw [readDate?, String.toList_ofList]
    exact Calendar.readInstant?_iso ht
  have hnumber : readDate? [] (.number (.ofInt t.epochMillis)) = some t :=
    Instant.ofEpochDouble?_epochMillis ht
  simp only [machineFormats, List.mem_cons, List.not_mem_nil, or_false] at hformat
  -- the formats `date` and `dayjs` keep the date as it is, so there is nothing to read
  rcases hformat with rfl | rfl | rfl | rfl | rfl
  · exact hiso
  · exact hiso
  · rfl
  · rfl
  · exact hnumber

/-- A value that stands for a date is written as the date. -/
theorem date_of_readDate? {o : DateOptions} {raw : Value} (h : readDate? o.layouts raw = some t) :
    date o raw = writeDate o.format t := by
  rw [date, h]
  rfl

/-- **Formats without a layout lose nothing.** A date with four digits of a year, whole milliseconds
and no leap second, written in such a format and then read and written in any format, is as if
written in the second format at once. The ISO text and the number of milliseconds are read back as
the date, and a value that stands for it is not changed by writing it by default again. -/
theorem date_date (ht : t.IsShowable) {o o' : DateOptions} (hformat : o.format ∈ machineFormats)
    (hlayouts : o'.layouts = []) :
    date o' (date o (.date t)) = date o' (.date t) ∧
      Calendar.readInstant? t.iso = some t ∧
      Instant.ofEpochDouble? (.ofInt t.epochMillis) = some t ∧
      ∀ raw, readDate? [] raw = some t → date {} (date {} raw) = date {} raw := by
  refine ⟨?_, Calendar.readInstant?_iso ht, Instant.ofEpochDouble?_epochMillis ht, fun raw h => ?_⟩
  · have hwritten : readDate? o'.layouts (writeDate o.format t) = some t := by
      rw [hlayouts]
      exact readDate?_writeDate ht hformat
    calc date o' (date o (.date t)) = date o' (writeDate o.format t) := rfl
      _ = writeDate o'.format t := date_of_readDate? hwritten
      _ = date o' (.date t) := rfl
  · have hraw : date {} raw = writeDate none t := date_of_readDate? h
    rw [hraw]
    exact date_of_readDate? (readDate?_writeDate ht List.mem_cons_self)

/-- The last millisecond before 1970. -/
def lastMoment : Instant where
  day := -1
  second := 86399
  nanos := 999000000
  day_mem := by decide
  second_lt := by decide
  nanos_lt := by decide

/-- Dates as numbers. -/
def asNumber : DateOptions := { format := some "timestamp" }

/-- Dates in a layout that leaves out most of the time. -/
def inShort : DateOptions := { format := some "D.M.YY SSS" }

/-- The last millisecond before 1970 is the number -1, and is written in a layout from this. -/
theorem date_date_lastMoment :
    lastMoment.IsShowable ∧ asNumber.format ∈ machineFormats ∧ inShort.layouts = [] ∧
      date asNumber (.date lastMoment) = .number (.ofInt (-1)) ∧
      date inShort (date asNumber (.date lastMoment)) = .string "31.12.69 999" := by
  have hshowable : lastMoment.IsShowable := ⟨by decide, by decide, by decide, by decide⟩
  have hformat : asNumber.format ∈ machineFormats := by decide
  have hmillis : lastMoment.epochMillis = -1 := by decide
  have hnumber : date asNumber (.date lastMoment) = .number (.ofInt (-1)) := by
    rw [← hmillis]
    rfl
  have hcompile : Layout.compile "D.M.YY SSS".toList =
      [.day, .literal ['.'], .month, .literal ['.'], .shortYear, .literal [' '], .millis] := by
    cbv
  have hrender : Layout.render [.day, .literal ['.'], .month, .literal ['.'], .shortYear,
      .literal [' '], .millis] lastMoment = "31.12.69 999".toList := by
    decide +kernel
  have hshort : date inShort (.date lastMoment) = .string "31.12.69 999" :=
    calc date inShort (.date lastMoment)
        = .string (.ofList ((Layout.compile "D.M.YY SSS".toList).render lastMoment)) := by
          simp [date, readDate?, writeDate, inShort]
      _ = .string "31.12.69 999" := by rw [hcompile, hrender, String.ofList_toList]
  obtain ⟨hwritten, -⟩ := date_date hshowable hformat (show inShort.layouts = [] from rfl)
  exact ⟨hshowable, hformat, rfl, hnumber, hwritten.trans hshort⟩

end Gleaner.Coerce
