import Gleaner.Proofs.Coerce.DateFormat

/-!
# The ISO text as a layout

There is a layout with the fields of the ISO 8601 text. It renders this text for every instant but a
leap second: the ISO text shows it as second 60, while the tokens show second 59 with more than 999
milliseconds.

## Main definitions

* `Coerce.isoLayout`: the layout.

## Main results

* `Layout.render_isoTokens`: what the tokens of the layout render.
* `Coerce.writeDate_isoLayout_eq_iff`: the layout renders the ISO text just when the second is no
  leap second.
-/

namespace Gleaner

namespace Calendar

variable {t : Instant}

namespace Instant

/-- A leap second follows the last second of a minute. -/
theorem secondOfMinute_of_leap (h : 1000000000 ≤ t.nanos) : t.secondOfMinute = 59 := by
  have hnanos := t.nanos_lt
  rw [secondOfMinute]
  omega

/-- The ISO text has three digits for the milliseconds. -/
theorem isoMillis_lt (t : Instant) : t.isoMillis < 1000 := by
  have hnanos := t.nanos_lt
  rw [isoMillis]
  split <;> omega

end Instant

namespace Layout

/-- The tokens of the ISO text. -/
def isoTokens : Layout :=
  [.year, .literal ['-'], .paddedMonth, .literal ['-'], .paddedDay, .literal ['T'], .paddedHour,
    .literal [':'], .paddedMinute, .literal [':'], .paddedSecond, .literal ['.'], .millis,
    .literal ['Z']]

/-- What the tokens of the ISO text render. -/
theorem render_isoTokens (hyear : 0 ≤ t.date.year) :
    isoTokens.render t = paddedDigits 4 t.date.year.toNat ++ '-' :: (paddedDigits 2 t.date.month ++
      '-' :: (paddedDigits 2 t.date.day ++ 'T' :: (paddedDigits 2 t.hour ++
      ':' :: (paddedDigits 2 t.minute ++ ':' :: (paddedDigits 2 t.secondOfMinute ++
      '.' :: (paddedDigits 3 t.millis ++ ['Z'])))))) := by
  have hnatAbs : t.date.year.natAbs = t.date.year.toNat := by omega
  simp [render, isoTokens, renderToken, paddedInt, Int.not_lt.2 hyear, hnatAbs]

/-- Three digits show the milliseconds just when the second is no leap second. -/
theorem length_renderToken_millis_iff (t : Instant) :
    (renderToken t .millis).length = 3 ↔ t.nanos < 1000000000 := by
  have hfits : (digits t.millis).length ≤ 3 ↔ t.millis < 10 ^ 3 :=
    length_digits_le_iff (by decide)
  rw [renderToken, paddedDigits, length_padLeft]
  rw [Instant.millis] at hfits ⊢
  omega

/-- The tokens of the ISO text render it just when the second is no leap second. -/
theorem render_isoTokens_eq_iso_iff (hyear : 0 ≤ t.date.year) (hyear' : t.date.year ≤ 9999) :
    isoTokens.render t = t.iso ↔ t.nanos < 1000000000 := by
  rw [render_isoTokens hyear, Instant.iso_eq hyear hyear']
  constructor
  · intro heq
    by_contra hleap
    rw [Nat.not_lt] at hleap
    -- both texts are the same up to the second, which has two digits on both sides
    have hsecond : (paddedDigits 2 t.secondOfMinute).length = 2 :=
      length_paddedDigits Nat.two_pos (t.secondOfMinute_lt.trans (by decide))
    have hsecond' : (paddedDigits 2 t.isoSecond).length = 2 := by
      refine length_paddedDigits Nat.two_pos ?_
      rw [Instant.isoSecond, if_pos hleap, Instant.secondOfMinute_of_leap hleap]
      decide
    have hmillis : (paddedDigits 3 t.isoMillis).length = 3 :=
      length_paddedDigits (by decide) t.isoMillis_lt
    have hmillis' : (paddedDigits 3 t.millis).length ≠ 3 := fun h =>
      Nat.not_lt.2 hleap ((length_renderToken_millis_iff t).1 h)
    have hlength := congrArg List.length heq
    simp only [List.length_append, List.length_cons, List.length_nil] at hlength
    omega
  · intro hplain
    rw [Instant.isoSecond_of_lt hplain, Instant.isoMillis_of_lt hplain]

end Layout

end Calendar

namespace Coerce

open Calendar (Instant Layout)

/-- The layout of the ISO text. -/
def isoLayout : String := "YYYY-MM-DDTHH:mm:ss.SSS[Z]"

/-- The tokens of the layout. -/
theorem compile_isoLayout : Layout.compile isoLayout.toList = Layout.isoTokens := by
  cbv

/-- A date in the layout of the ISO text. -/
theorem writeDate_isoLayout (t : Instant) :
    writeDate (some isoLayout) t = .string (.ofList (Layout.isoTokens.render t)) := by
  simp [writeDate, isoLayout, ← compile_isoLayout]

/-- **The layout of the ISO text and leap seconds.** A date whose year has four digits is written in
the layout of the ISO text as it is written as an ISO text, just when it is no leap second. Then and
only then are there three digits for the milliseconds; in a leap second the layout shows second 59,
while the ISO text shows second 60. -/
theorem writeDate_isoLayout_eq_iff (t : Instant) (hyear : 0 ≤ t.date.year)
    (hyear' : t.date.year ≤ 9999) :
    (writeDate (some isoLayout) t = writeDate (some "iso") t ↔ t.nanos < 1000000000) ∧
      ((Layout.renderToken t .millis).length = 3 ↔ t.nanos < 1000000000) ∧
      (1000000000 ≤ t.nanos →
        Layout.renderToken t .paddedSecond = ['5', '9'] ∧ t.isoSecond = 60) := by
  refine ⟨?_, Layout.length_renderToken_millis_iff t, fun hleap => ?_⟩
  · have hiso : writeDate (some "iso") t = .string (.ofList t.iso) := rfl
    rw [writeDate_isoLayout, hiso, Value.string.injEq, String.ofList_inj,
      Layout.render_isoTokens_eq_iso_iff hyear hyear']
  · have hsecond := Instant.secondOfMinute_of_leap hleap
    rw [Layout.renderToken, Instant.isoSecond, if_pos hleap, hsecond]
    exact ⟨by decide, rfl⟩

/-- The last nanosecond before 1970. -/
def lastNanosecond : Instant := { lastMoment with nanos := 999999999, nanos_lt := by decide }

/-- The last nanosecond before 1970 is written alike in both ways. -/
theorem writeDate_isoLayout_eq_iff_lastNanosecond :
    0 ≤ lastNanosecond.date.year ∧ lastNanosecond.date.year ≤ 9999 ∧
      lastNanosecond.nanos < 1000000000 ∧
      writeDate (some isoLayout) lastNanosecond = writeDate (some "iso") lastNanosecond := by
  have hyear : 0 ≤ lastNanosecond.date.year := by decide
  have hyear' : lastNanosecond.date.year ≤ 9999 := by decide
  have hnanos : lastNanosecond.nanos < 1000000000 := by decide
  exact ⟨hyear, hyear', hnanos,
    (writeDate_isoLayout_eq_iff lastNanosecond hyear hyear').1.2 hnanos⟩

/-- The leap second at the end of 2016. -/
def leapSecond : Instant :=
  { lastMoment with day := 17166, nanos := 1000000000, day_mem := by decide, nanos_lt := by decide }

/-- The leap second at the end of 2016 is written as the 1000th millisecond of second 59. -/
theorem date_isoLayout_leapSecond :
    date { format := some isoLayout } (.string "2016-12-31T23:59:60Z") =
        .string "2016-12-31T23:59:59.1000Z" ∧
      date { format := some "iso" } (.string "2016-12-31T23:59:60Z") =
        .string "2016-12-31T23:59:60.000Z" := by
  have hread : readDate? [] (.string "2016-12-31T23:59:60Z") = some leapSecond := by
    decide +kernel
  have htokens : Layout.isoTokens.render leapSecond = "2016-12-31T23:59:59.1000Z".toList := by
    decide +kernel
  have hiso : leapSecond.iso = "2016-12-31T23:59:60.000Z".toList := by
    decide +kernel
  constructor
  · calc date { format := some isoLayout } (.string "2016-12-31T23:59:60Z")
        = writeDate (some isoLayout) leapSecond := date_of_readDate? hread
      _ = .string "2016-12-31T23:59:59.1000Z" := by
        rw [writeDate_isoLayout, htokens, String.ofList_toList]
  · calc date { format := some "iso" } (.string "2016-12-31T23:59:60Z")
        = writeDate (some "iso") leapSecond := date_of_readDate? hread
      _ = .string (.ofList leapSecond.iso) := rfl
      _ = .string "2016-12-31T23:59:60.000Z" := by rw [hiso, String.ofList_toList]

end Coerce
end Gleaner
