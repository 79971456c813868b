import Gleaner.Proofs.Calendar.Rendering

/-!
# What a layout renders it reads back

A layout that shows the date and the time of an instant down to milliseconds, and that keeps its
fields apart, reads back what it has rendered. The text is split where its tokens have been written,
each token's text gives the field that it shows, and the fields of a date and a time determine the
instant.

## Main definitions

* `Layout.IsComplete`: a layout that shows all of an instant.
* `Fields.put`: the fields with the one that a token shows.
* `Part`: a part of the date or the time that is shown in one way only.

## Main results

* `isMerged_compile`: no two literals of a compiled layout are neighbours.
* `take_renderToken`: the text of a token gives the field that it shows.
* `instant?_foldl_put`: the fields that a complete layout shows determine the instant.
* `read_render_compile`: a layout reads back what it renders.
-/

namespace Gleaner.Calendar.Layout

variable {t : Instant} {layout : Layout}

/-! ### Compiled layouts -/

/-- A token that is read from a run of one character is a field. -/
theorem isField_of_ofRun? {c : Char} {run width : Nat} {token : Token}
    (h : Token.ofRun? c run = some (token, width)) : token.isField := by
  unfold Token.ofRun? at h
  split at h <;> (repeat' split at h) <;> cases h <;> rfl

/-- A field in front of a layout brings no literals together. -/
theorem isMerged_cons_of_isField {token : Token} (htoken : token.isField) (h : IsMerged layout) :
    IsMerged (token :: layout) := by
  cases layout with
  | nil => exact .singleton _
  | cons next rest => exact .cons_cons (.inl htoken) h

/-- A literal in front of a layout becomes part of a literal that is there. -/
theorem isMerged_consLiteral (text : List Char) (h : IsMerged layout) :
    IsMerged (consLiteral text layout) := by
  cases layout with
  | nil => exact .singleton _
  | cons token rest =>
    cases token with
    | literal more =>
      cases rest with
      | nil => exact .singleton _
      | cons next rest => exact .cons_cons (List.isChain_cons_cons.1 h).1 h.of_cons
    | _ => exact .cons_cons (.inr rfl) h

/-- No two literals of a compiled layout are neighbours. -/
theorem isMerged_compile (p : List Char) : IsMerged (compile p) := by
  fun_induction compile p with
  | case1 => exact .nil
  | case2 c rest hbracket ih => exact isMerged_consLiteral _ ih
  | case3 c rest hplain token width hrun ih =>
    exact isMerged_cons_of_isField (isField_of_ofRun? hrun) ih
  | case4 c rest hplain hrun ih => exact isMerged_consLiteral _ ih

/-! ### Complete layouts -/

/-- A layout that shows all of an instant: its date, its time down to milliseconds, and whether it
is after noon where only the hour of a clock is shown. The year is not shown in short, and the time
from 1970 is not shown. -/
structure IsComplete (layout : Layout) : Prop where
  /-- The year is shown with four digits. -/
  year : .year ∈ layout
  /-- The month is shown. -/
  month : .month ∈ layout ∨ .paddedMonth ∈ layout ∨ .shortMonthName ∈ layout ∨ .monthName ∈ layout
  /-- The day is shown. -/
  day : .day ∈ layout ∨ .paddedDay ∈ layout
  /-- The hour is shown. -/
  hour : .hour ∈ layout ∨ .paddedHour ∈ layout ∨ .hour12 ∈ layout ∨ .paddedHour12 ∈ layout
  /-- The minute is shown. -/
  minute : .minute ∈ layout ∨ .paddedMinute ∈ layout
  /-- The second is shown. -/
  second : .second ∈ layout ∨ .paddedSecond ∈ layout
  /-- The milliseconds are shown. -/
  millis : .millis ∈ layout
  /-- The half of the day is shown where the hour of a clock is. -/
  meridiem : .hour12 ∈ layout ∨ .paddedHour12 ∈ layout →
    .meridiem ∈ layout ∨ .lowerMeridiem ∈ layout
  /-- The year is not shown in short, and the time from 1970 is not shown. -/
  civil : ∀ token ∈ layout, token.isCivil

/-! ### Fields -/

/-- The fields with the one that a token shows for an instant. -/
def Fields.put (t : Instant) (fields : Fields) : Token → Fields
  | .year => { fields with year := some t.date.year.toNat }
  | .month | .paddedMonth | .shortMonthName | .monthName =>
    { fields with month := some t.date.month }
  | .day | .paddedDay => { fields with day := some t.date.day }
  | .hour | .paddedHour => { fields with hour := some t.hour }
  | .hour12 | .paddedHour12 => { fields with hour := some (clockHour t.hour) }
  | .minute | .paddedMinute => { fields with minute := some t.minute }
  | .second | .paddedSecond => { fields with second := some t.secondOfMinute }
  | .millis => { fields with millis := some t.millis }
  | .meridiem | .lowerMeridiem => { fields with afternoon := some (decide (12 ≤ t.hour)) }
  | .offset | .compactOffset => { fields with offset := some 0 }
  | _ => fields

/-- The names of months are read back, also from their first three letters. -/
theorem monthOfName?_nameOfMonth : ∀ month < 12,
    monthOfName? (nameOfMonth (month + 1)) = some (month + 1) ∧
      monthOfName? ((nameOfMonth (month + 1)).take 3) = some (month + 1) := by
  decide +kernel

/-- The text of a token gives the field that it shows. -/
theorem take_renderToken {token : Token} (ht : t.IsShowable) (hcivil : token.isCivil)
    (fields : Fields) : fields.take token (renderToken t token) = some (fields.put t token) := by
  have hmonth : monthOfName? (nameOfMonth t.date.month) = some t.date.month ∧
      monthOfName? ((nameOfMonth t.date.month).take 3) = some t.date.month := by
    obtain ⟨hfirst, hlast, -⟩ := t.isValid_date
    have := monthOfName?_nameOfMonth (t.date.month - 1) (by omega)
    rwa [Nat.sub_add_cancel hfirst] at this
  cases token with
  | year => rw [renderToken_year ht, Fields.take, readNat?_paddedDigits]; rfl
  | shortMonthName => rw [renderToken, Fields.take, hmonth.2]; rfl
  | monthName => rw [renderToken, Fields.take, hmonth.1]; rfl
  | meridiem | lowerMeridiem =>
    by_cases h : t.hour < 12
    · simp only [renderToken, h, if_true, Fields.take, Fields.put, Nat.not_le.2 h, decide_false]
      rfl
    · simp only [renderToken, h, if_false, Fields.take, Fields.put, Nat.not_lt.1 h, decide_true]
      rfl
  | month | day | hour | hour12 | minute | second =>
    rw [renderToken, Fields.take, readNat?_digits]; rfl
  | paddedMonth | paddedDay | paddedHour | paddedHour12 | paddedMinute | paddedSecond | millis =>
    rw [renderToken, Fields.take, readNat?_paddedDigits]; rfl
  | offset | compactOffset => rfl
  | weekday | minWeekdayName | shortWeekdayName | weekdayName | literal text => rfl
  | shortYear | epochSeconds | epochMillis => cases hcivil

/-- The texts of the tokens of a layout give the fields that they show. -/
theorem takeTexts_map_renderToken (ht : t.IsShowable) (hcivil : ∀ token ∈ layout, token.isCivil)
    (fields : Fields) :
    takeTexts layout (layout.map (renderToken t)) fields =
      some (layout.foldl (Fields.put t) fields) := by
  induction layout generalizing fields with
  | nil => rfl
  | cons token rest ih =>
    rw [List.forall_mem_cons] at hcivil
    rw [List.map_cons, takeTexts, take_renderToken ht hcivil.1, Option.bind_some, ih hcivil.2,
      List.foldl_cons]

/-- What each token leaves alone or sets to one value has this value in the end, if it had it in the
beginning or a token sets it. -/
theorem foldl_put_eq {α : Type} (read : Fields → α) {value : α} {fields : Fields}
    (hstep : ∀ token ∈ layout, ∀ fields : Fields,
      read (fields.put t token) = value ∨ read (fields.put t token) = read fields)
    (h : read fields = value ∨
      ∃ token ∈ layout, ∀ fields : Fields, read (fields.put t token) = value) :
    read (layout.foldl (Fields.put t) fields) = value := by
  induction layout generalizing fields with
  | nil => simpa using h
  | cons token rest ih =>
    rw [List.forall_mem_cons] at hstep
    -- after the first token, either the value is there or a later token sets it
    refine ih hstep.2 ?_
    rcases h with h | ⟨other, hother, h⟩
    · rcases hstep.1 fields with hset | hkeep
      · exact .inl hset
      · exact .inl (hkeep.trans h)
    · rcases List.mem_cons.1 hother with rfl | hother
      · exact .inl (h fields)
      · exact .inr ⟨other, hother, h⟩

/-- A part of the date or the time that is shown in one way only. -/
inductive Part where
  | year
  | month
  | day
  | minute
  | second
  | millis
  deriving DecidableEq

/-- The part that a token shows. -/
def Part.ofToken? : Token → Option Part
  | .year => some .year
  | .month | .paddedMonth | .shortMonthName | .monthName => some .month
  | .day | .paddedDay => some .day
  | .minute | .paddedMinute => some .minute
  | .second | .paddedSecond => some .second
  | .millis => some .millis
  | _ => none

/-- A part of fields. -/
def Part.ofFields? (fields : Fields) : Part → Option Nat
  | .year => fields.year
  | .month => fields.month
  | .day => fields.day
  | .minute => fields.minute
  | .second => fields.second
  | .millis => fields.millis

/-- A part of an instant. -/
def Part.ofInstant (t : Instant) : Part → Nat
  | .year => t.date.year.toNat
  | .month => t.date.month
  | .day => t.date.day
  | .minute => t.minute
  | .second => t.secondOfMinute
  | .millis => t.millis

/-- A token sets the part that it shows, and leaves the others alone. -/
theorem ofFields?_put (part : Part) (token : Token) (fields : Fields) :
    part.ofFields? (fields.put t token) =
      if Part.ofToken? token = some part then some (part.ofInstant t)
      else part.ofFields? fields := by
  cases part <;> cases token <;> rfl

/-- The fields that a layout shows have the parts that its tokens show. -/
theorem ofFields?_foldl_put {part : Part} {token : Token} (htoken : token ∈ layout)
    (hpart : Part.ofToken? token = some part) :
    part.ofFields? (layout.foldl (Fields.put t) {}) = some (part.ofInstant t) := by
  refine foldl_put_eq part.ofFields? (fun other _ fields => ?_)
    (.inr ⟨token, htoken, fun fields => by rw [ofFields?_put, if_pos hpart]⟩)
  rw [ofFields?_put]
  split
  · exact .inl rfl
  · exact .inr rfl

/-- The hour of a clock and the half of the day give the hour of the day, and the half of the day
does not change the hour of the day itself. -/
theorem fullHour_clockHour {hour : Nat} (h : hour < 24) :
    fullHour (some (decide (12 ≤ hour))) (clockHour hour) = hour ∧
      fullHour (some (decide (12 ≤ hour))) hour = hour := by
  decide +revert

/-- The fields that a complete layout shows have the hour of the day. -/
theorem fullHour_foldl_put (h : layout.IsComplete) :
    let fields := layout.foldl (Fields.put t) {}
    fullHour fields.afternoon (fields.hour.getD 0) = t.hour := by
  have hclock := fullHour_clockHour t.hour_lt
  -- with the half of the day, the last hour that is shown may be that of a clock or that of the day
  by_cases hmeridiem : .meridiem ∈ layout ∨ .lowerMeridiem ∈ layout
  · have hafternoon : (layout.foldl (Fields.put t) {}).afternoon = some (decide (12 ≤ t.hour)) :=
      foldl_put_eq Fields.afternoon
        (fun token _ _ => by cases token <;> first | exact .inl rfl | exact .inr rfl)
        (.inr (by rcases hmeridiem with h | h <;> exact ⟨_, h, fun _ => rfl⟩))
    have hhour : fullHour (some (decide (12 ≤ t.hour)))
        ((layout.foldl (Fields.put t) {}).hour.getD 0) = t.hour :=
      foldl_put_eq (fun fields => fullHour (some (decide (12 ≤ t.hour))) (fields.hour.getD 0))
        (fun token _ _ => by
          cases token <;> first | exact .inl hclock.1 | exact .inl hclock.2 | exact .inr rfl)
        (.inr (by
          rcases h.hour with h | h | h | h <;>
            first | exact ⟨_, h, fun _ => hclock.1⟩ | exact ⟨_, h, fun _ => hclock.2⟩))
    simp only [hafternoon, hhour]
  · -- without the half of the day, the hour that is shown is that of the day
    have hno := mt h.meridiem hmeridiem
    have hafternoon : (layout.foldl (Fields.put t) {}).afternoon = none := by
      refine foldl_put_eq Fields.afternoon (fun token htoken _ => ?_) (.inl rfl)
      cases token with
      | meridiem => exact absurd (.inl htoken) hmeridiem
      | lowerMeridiem => exact absurd (.inr htoken) hmeridiem
      | _ => exact .inr rfl
    have hhour : (layout.foldl (Fields.put t) {}).hour.getD 0 = t.hour := by
      refine foldl_put_eq (fun fields => fields.hour.getD 0) (fun token htoken _ => ?_) (.inr ?_)
      · cases token with
        | hour | paddedHour => exact .inl rfl
        | hour12 => exact absurd (.inl htoken) hno
        | paddedHour12 => exact absurd (.inr htoken) hno
        | _ => exact .inr rfl
      · rcases h.hour with h | h | h | h
        · exact ⟨_, h, fun _ => rfl⟩
        · exact ⟨_, h, fun _ => rfl⟩
        · exact absurd (.inl h) hno
        · exact absurd (.inr h) hno
    simp only [hafternoon, hhour, fullHour]

/-- The fields that a complete layout shows determine the instant. -/
theorem instant?_foldl_put (ht : t.IsShowable) (h : layout.IsComplete) :
    (layout.foldl (Fields.put t) {}).instant? = some t := by
  let fields := layout.foldl (Fields.put t) {}
  have hepoch : fields.epochMillis = none :=
    foldl_put_eq Fields.epochMillis (fun token _ _ => by cases token <;> exact .inr rfl) (.inl rfl)
  have hyear : fields.year = some t.date.year.toNat := ofFields?_foldl_put h.year rfl
  have hmonth : fields.month = some t.date.month := by
    rcases h.month with h | h | h | h <;> exact ofFields?_foldl_put h rfl
  have hday : fields.day = some t.date.day := by
    rcases h.day with h | h <;> exact ofFields?_foldl_put h rfl
  have hminute : fields.minute = some t.minute := by
    rcases h.minute with h | h <;> exact ofFields?_foldl_put h rfl
  have hsecond : fields.second = some t.secondOfMinute := by
    rcases h.second with h | h <;> exact ofFields?_foldl_put h rfl
  have hmillis : fields.millis = some t.millis := ofFields?_foldl_put h.millis rfl
  have hoffset : fields.offset.getD 0 = 0 :=
    foldl_put_eq (fun fields => fields.offset.getD 0)
      (fun token _ _ => by cases token <;> first | exact .inl rfl | exact .inr rfl) (.inl rfl)
  have hhour : fullHour fields.afternoon (fields.hour.getD 0) = t.hour := fullHour_foldl_put h
  have hdate : (⟨t.date.year.toNat, t.date.month, t.date.day⟩ : Date) = t.date := by
    rw [Int.toNat_of_nonneg ht.year_nonneg]
  have hnanos : t.millis * 1000000 = t.nanos := by
    have := ht.nanos_mod
    rw [Instant.millis]
    omega
  -- the time from 1970 is not shown, so the date and the time decide
  calc fields.instant? = Instant.ofLocal? ⟨t.date.year.toNat, t.date.month, t.date.day⟩ t.second
        (t.millis * 1000000) 0 := by
        simp only [Fields.instant?, hepoch, hyear, hmonth, hday, hminute, hsecond, hmillis,
          hoffset, hhour, Option.getD_some]
        rw [Instant.secondOfDay?_parts]
        rfl
    _ = some t := by rw [hdate, hnanos, t.ofLocal?_date]

/-- A layout that shows all of an instant and keeps its fields apart reads back what it renders,
unless its pattern is too large to be read by. -/
theorem read_render_compile (p : List Char) (ht : t.IsShowable)
    (hcomplete : (compile p).IsComplete) (hsep : isSeparated (compile p))
    (hfits : (compile p).pattern.fits) :
    (compile p).read? ((compile p).render t) = some t := by
  rw [read?_render_eq ht hcomplete.civil (isMerged_compile p) hsep hfits,
    takeTexts_map_renderToken ht hcomplete.civil, Option.bind_some,
    instant?_foldl_put ht hcomplete]

/-- Half past seven in the evening of 5 March 2021. -/
def evening : Instant where
  day := 18691
  second := 70207
  nanos := 250000000
  day_mem := by decide
  second_lt := by decide
  nanos_lt := by decide

/-- A layout with names, text in brackets and the hour of a clock. -/
def clockLayout : List Char := "dddd, MMM D YYYY [at] h:mm:ss.SSS A Z".toList

/-- The tokens of the layout. -/
theorem compile_clockLayout : compile clockLayout =
    [.weekdayName, .literal [',', ' '], .shortMonthName, .literal [' '], .day, .literal [' '],
      .year, .literal [' ', 'a', 't', ' '], .hour12, .literal [':'], .paddedMinute, .literal [':'],
      .paddedSecond, .literal ['.'], .millis, .literal [' '], .meridiem, .literal [' '],
      .offset] := by
  cbv

/-- The evening is read back from what that layout renders. -/
theorem read_render_compile_evening :
    evening.IsShowable ∧ (compile clockLayout).IsComplete ∧ isSeparated (compile clockLayout) ∧
      (compile clockLayout).pattern.fits ∧
      (compile clockLayout).read? ((compile clockLayout).render evening) = some evening := by
  have hshowable : evening.IsShowable := ⟨by decide, by decide, by decide, by decide⟩
  have hcomplete : (compile clockLayout).IsComplete := by
    rw [compile_clockLayout]
    constructor <;> decide
  have hsep : isSeparated (compile clockLayout) := by
    rw [compile_clockLayout]
    decide
  have hfits : (compile clockLayout).pattern.fits := by
    rw [compile_clockLayout]
    decide +kernel
  exact ⟨hshowable, hcomplete, hsep, hfits,
    read_render_compile clockLayout hshowable hcomplete hsep hfits⟩

end Gleaner.Calendar.Layout
