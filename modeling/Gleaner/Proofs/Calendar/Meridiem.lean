import Gleaner.Proofs.Calendar.Captured
import Gleaner.Proofs.Calendar.Civil

/-!
# The halves of the day

A layout can show the hour of a clock and the half of the day. A text in such a layout is read as a
time before noon just when it says AM and its hour is at most twelve. A text that says AM and has an
hour from thirteen on is read too, as the afternoon hour that it has.

## Main definitions

* `Layout.ShowsHalf`: a layout with the hour and the half of the day of a local time.
* `Layout.IsAM`: a text that is AM, in capitals or not.

## Main results

* `fullHour_lt_twelve_iff`: which hours and halves are before noon.
* `hour_of_instant?`: a local time has the hour that its fields say.
* `hour_lt_twelve_iff`: the half of the day that is read, and the hours that contradict it.
-/

namespace Gleaner.Calendar

namespace Token

/-- Whether a token shows the year. -/
def isYear : Token → Bool
  | .year | .shortYear => true
  | _ => false

/-- Whether a token shows the hour, of the day or of a clock. -/
def isHour : Token → Bool
  | .hour | .paddedHour | .hour12 | .paddedHour12 => true
  | _ => false

/-- Whether a token shows the half of the day. -/
def isMeridiem : Token → Bool
  | .meridiem | .lowerMeridiem => true
  | _ => false

/-- Whether a token shows the offset from universal time. -/
def isOffset : Token → Bool
  | .offset | .compactOffset => true
  | _ => false

/-- Whether a token shows the time from 1970. -/
def isEpoch : Token → Bool
  | .epochSeconds | .epochMillis => true
  | _ => false

/-- Hours are fields. -/
theorem isField_of_isHour (token : Token) (h : token.isHour) : token.isField := by
  cases token <;> first | rfl | cases h

/-- Halves of the day are fields. -/
theorem isField_of_isMeridiem (token : Token) (h : token.isMeridiem) : token.isField := by
  cases token <;> first | rfl | cases h

end Token

namespace Instant

variable {date : Date} {hour minute second nanos time : Nat} {t : Instant}

/-- A wall clock without an offset shows universal time. -/
theorem second_of_ofLocal? (h : ofLocal? date time nanos 0 = some t) : t.second = time := by
  rw [ofLocal?, Option.ite_none_right_eq_some] at h
  obtain ⟨⟨-, -, htime⟩, hparts⟩ := h
  simp only [Int.sub_zero, ofParts?] at hparts
  split at hparts
  · rw [← Option.some.inj hparts]
    show ((time : Int) % 86400).toNat = time
    omega
  · cases hparts

/-- The second of the day of an hour is in this hour. -/
theorem div_of_secondOfDay? (h : secondOfDay? hour minute second = some time) :
    time / 3600 = hour := by
  rw [secondOfDay?, Option.ite_none_right_eq_some] at h
  obtain ⟨⟨-, hminute, hsecond⟩, htime⟩ := h
  rw [← Option.some.inj htime]
  omega

end Instant

namespace Layout

/-! ### Fields -/

section Fields

variable {token : Token} {text : List Char} {fields fields' : Fields} {t : Instant}

/-- A token that does not show the hour, the half of the day, the offset or the time from 1970
leaves it as it is. -/
theorem take_keeps (h : fields.take token text = some fields') :
    (token.isHour = false → fields'.hour = fields.hour) ∧
      (token.isMeridiem = false → fields'.afternoon = fields.afternoon) ∧
      (token.isOffset = false → fields'.offset = fields.offset) ∧
      (token.isEpoch = false → fields'.epochMillis = fields.epochMillis) := by
  cases token with
  | meridiem | lowerMeridiem =>
    obtain rfl := Option.some.inj h
    refine ⟨fun _ => rfl, ?_, fun _ => rfl, fun _ => rfl⟩
    intro hkind
    cases hkind
  | weekday | minWeekdayName | shortWeekdayName | weekdayName | literal =>
    obtain rfl := Option.some.inj h
    exact ⟨fun _ => rfl, fun _ => rfl, fun _ => rfl, fun _ => rfl⟩
  | _ =>
    -- what the text says goes into one field, and the token is of the kind of this field
    obtain ⟨_, -, rfl⟩ := Option.map_eq_some_iff.1 h
    refine ⟨?_, ?_, ?_, ?_⟩ <;> intro hkind <;> first | rfl | cases hkind

/-- An hour is the number that its digits spell. -/
theorem hour_of_take (hkind : token.isHour) (h : fields.take token text = some fields') :
    ∃ hour, readNat? text = some hour ∧ fields'.hour = some hour := by
  have hmap : fields.take token text =
      (readNat? text).map fun hour => { fields with hour := some hour } := by
    cases token <;> first | rfl | cases hkind
  obtain ⟨hour, hread, rfl⟩ := Option.map_eq_some_iff.1 (hmap ▸ h)
  exact ⟨hour, hread, rfl⟩

/-- It is after noon where the text says PM. -/
theorem afternoon_of_take (hkind : token.isMeridiem) (h : fields.take token text = some fields') :
    fields'.afternoon = some (text.map Scan.lower == ['p', 'm']) := by
  cases token <;> cases hkind <;> exact Option.some.inj h ▸ rfl

/-- A local time has the hour that its fields say. -/
theorem hour_of_instant? (hepoch : fields.epochMillis = none) (hoffset : fields.offset = none)
    (h : fields.instant? = some t) :
    t.hour = fullHour fields.afternoon (fields.hour.getD 0) := by
  simp only [Fields.instant?, hepoch, hoffset, Option.getD_none] at h
  obtain ⟨year, -, h⟩ := Option.bind_eq_some_iff.1 h
  obtain ⟨time, htime, hlocal⟩ := Option.bind_eq_some_iff.1 h
  calc t.hour = time / 3600 := by rw [Instant.hour, Instant.second_of_ofLocal? hlocal]
    _ = fullHour fields.afternoon (fields.hour.getD 0) := Instant.div_of_secondOfDay? htime

/-- Of several hours the last one counts. -/
theorem hour_of_takeAll {captured : List (Token × List Char)} {clock : Token}
    {digits : List Char}
    (hclock : captured.reverse.find? (fun c => c.1.isHour) = some (clock, digits))
    (h : fields.takeAll captured = some fields') :
    ∃ hour, readNat? digits = some hour ∧ fields'.hour = some hour := by
  obtain ⟨hkind, after, before, hsplit, hafter⟩ := List.find?_eq_some_iff_append.1 hclock
  -- seen from the end, the hour stands in front of texts that are no hours
  have hwhole : captured = before.reverse ++ (clock, digits) :: after.reverse := by
    rw [← List.reverse_reverse captured, hsplit, List.reverse_append, List.reverse_cons,
      List.append_assoc, List.singleton_append]
  rw [hwhole] at h
  obtain ⟨earlier, later, htake, heq⟩ :=
    exists_take_of_takeAll (fun hkind htake => (take_keeps htake).1 hkind)
      (fun c hc => by simpa using hafter c (List.mem_reverse.1 hc)) h
  obtain ⟨hour, hread, hlater⟩ := hour_of_take hkind htake
  exact ⟨hour, hread, heq.trans hlater⟩

/-- The only text for the half of the day counts. -/
theorem afternoon_of_takeAll {captured : List (Token × List Char)} {word : List Char}
    (hword : captured.filter (fun c => c.1.isMeridiem) = [(token, word)])
    (h : fields.takeAll captured = some fields') :
    fields'.afternoon = some (word.map Scan.lower == ['p', 'm']) := by
  obtain ⟨before, after, rfl, -, hkind, hafter⟩ := List.filter_eq_cons_iff.1 hword
  obtain ⟨earlier, later, htake, heq⟩ :=
    exists_take_of_takeAll (fun hkind htake => (take_keeps htake).2.1 hkind)
      (fun c hc => Bool.eq_false_iff.2 (List.filter_eq_nil_iff.1 hafter c hc)) h
  exact heq.trans (afternoon_of_take hkind htake)

/-- An hour is before noon if it is in the first half of the day and on a clock. -/
theorem fullHour_lt_twelve_iff (afternoon : Bool) (hour : Nat) :
    fullHour (some afternoon) hour < 12 ↔ afternoon = false ∧ hour ≤ 12 := by
  cases afternoon with
  | true =>
    simp only [fullHour, Bool.true_eq_false, false_and, iff_false]
    split <;> omega
  | false =>
    simp only [fullHour, true_and]
    split <;> omega

end Fields

/-! ### Halves of the day -/

/-- A layout that shows the hour and, in one place, the half of the day, of a day of a year. It
shows neither the offset nor the time from 1970. -/
structure ShowsHalf (layout : Layout) : Prop where
  /-- The year is shown. -/
  year : ∃ token ∈ layout, token.isYear
  /-- The hour is shown. -/
  hour : ∃ token ∈ layout, token.isHour
  /-- The half of the day is shown once. -/
  meridiem : layout.countP Token.isMeridiem = 1
  /-- The offset and the time from 1970 are not shown. -/
  isLocal : ∀ token ∈ layout, token.isOffset = false ∧ token.isEpoch = false

/-- A text that is AM, in capitals or not. -/
def IsAM (word : List Char) : Prop := word.map Scan.lower = ['a', 'm']

instance (word : List Char) : Decidable (IsAM word) := inferInstanceAs (Decidable (_ = _))

/-- What a token for the half of the day accepts is AM or PM. -/
theorem isAM_iff_of_accepts {token : Token} {word : List Char} (hkind : token.isMeridiem)
    (h : (fieldPattern token).Accepts word) :
    IsAM word ↔ (word.map Scan.lower == ['p', 'm']) = false := by
  have hpattern : fieldPattern token =
      .seq (.anyOf ['A', 'a', 'P', 'p']) (.anyOf ['M', 'm']) := by
    cases token <;> first | rfl | cases hkind
  rw [hpattern] at h
  obtain ⟨_, _, ⟨first, hfirst, rfl⟩, ⟨second, hsecond, rfl⟩, rfl⟩ := h
  have hfirst : first ∈ ['A', 'a', 'P', 'p'] := Unicode.mem_of_contains_ofChars hfirst
  have hsecond : second ∈ ['M', 'm'] := Unicode.mem_of_contains_ofChars hsecond
  simp only [List.mem_cons, List.not_mem_nil, or_false] at hfirst hsecond
  rcases hfirst with rfl | rfl | rfl | rfl <;> rcases hsecond with rfl | rfl <;> decide

/-- What a text in a layout says: a word for the half of the day, and an hour, the last one of
several. -/
def Says (layout : Layout) (text word : List Char) (hour : Nat) : Prop :=
  ∃ captured token clock digits, layout.captured? text = some captured ∧
    captured.filter (fun c => c.1.isMeridiem) = [(token, word)] ∧
    captured.reverse.find? (fun c => c.1.isHour) = some (clock, digits) ∧
    readNat? digits = some hour

variable {layout : Layout} {text : List Char} {t : Instant}

/-- **The halves of the day.** A text in a layout that shows the half of the day is read as a time
before noon just when it says AM and the last hour that it has is at most twelve. So the time that
is read is in the half that the text says, unless it says AM and has an hour from thirteen on. -/
theorem hour_lt_twelve_iff (hlayout : layout.ShowsHalf) (h : layout.read? text = some t) :
    ∃ word hour, layout.Says text word hour ∧ (t.hour < 12 ↔ IsAM word ∧ hour ≤ 12) ∧
      ((t.hour < 12 ↔ IsAM word) ↔ ¬(IsAM word ∧ 12 < hour)) := by
  obtain ⟨fields, hfields, hinstant⟩ := exists_fields_of_read? h
  obtain ⟨captured, hcaptured, htake⟩ := exists_captured_of_fields? hfields
  -- one text says the half of the day
  have hone : (captured.filter fun c => c.1.isMeridiem).length = 1 := by
    rw [← List.countP_eq_length_filter, countP_captured Token.isField_of_isMeridiem hcaptured,
      hlayout.meridiem]
  obtain ⟨⟨token, word⟩, hword⟩ := List.length_eq_one_iff.1 hone
  have hafternoon := afternoon_of_takeAll hword htake
  -- and some text is an hour, so there is a last one
  have hpos : 0 < captured.countP fun c => c.1.isHour := by
    rw [countP_captured Token.isField_of_isHour hcaptured]
    exact List.countP_pos_iff.2 hlayout.hour
  obtain ⟨c, hc, hkind⟩ := List.countP_pos_iff.1 hpos
  have hlast : (captured.reverse.find? fun c => c.1.isHour).isSome :=
    List.find?_isSome.2 ⟨c, List.mem_reverse.2 hc, hkind⟩
  obtain ⟨⟨clock, digits⟩, hclock⟩ := Option.isSome_iff_exists.1 hlast
  obtain ⟨hour, hread, hhour⟩ := hour_of_takeAll hclock htake
  -- nothing says that the clock does not show universal time
  have hlocal (c : Token × List Char) (hc : c ∈ captured) :=
    hlayout.isLocal c.1 (mem_layout_of_mem_captured hcaptured hc)
  have hoffset : fields.offset = none :=
    read_takeAll_of_forall (fun hkind htake => (take_keeps htake).2.2.1 hkind)
      (fun c hc => (hlocal c hc).1) htake
  have hepoch : fields.epochMillis = none :=
    read_takeAll_of_forall (fun hkind htake => (take_keeps htake).2.2.2 hkind)
      (fun c hc => (hlocal c hc).2) htake
  obtain ⟨hmem, hmeridiem⟩ : (token, word) ∈ captured ∧ token.isMeridiem :=
    List.mem_filter.1 (hword ▸ List.mem_singleton_self (token, word))
  have hbefore : t.hour < 12 ↔ IsAM word ∧ hour ≤ 12 := by
    rw [hour_of_instant? hepoch hoffset hinstant, hafternoon, hhour, Option.getD_some,
      fullHour_lt_twelve_iff,
      isAM_iff_of_accepts hmeridiem (accepts_of_mem_captured hcaptured hmem)]
  have hsays : layout.Says text word hour :=
    ⟨captured, token, clock, digits, hcaptured, hword, hclock, hread⟩
  refine ⟨word, hour, hsays, hbefore, ?_⟩
  rw [hbefore]
  by_cases ham : IsAM word
  · simp only [ham, true_and, iff_true, Nat.not_lt]
  · simp only [ham, false_and, not_false_iff]

/-- A layout with the hour of a clock. -/
def wordLayout : List Char := "D MMMM YYYY h:mm a".toList

/-- The tokens of the layout. -/
theorem compile_wordLayout : compile wordLayout =
    [.day, .literal [' '], .monthName, .literal [' '], .year, .literal [' '], .hour12,
      .literal [':'], .paddedMinute, .literal [' '], .lowerMeridiem] := by
  cbv

/-- Five past midnight on 7 March 2021. -/
def pastMidnight : Instant where
  day := 18693
  second := 300
  nanos := 0
  day_mem := by decide
  second_lt := by decide
  nanos_lt := by decide

/-- The hour after midnight is twelve on a clock, and before noon. -/
theorem hour_lt_twelve_iff_pastMidnight :
    (compile wordLayout).ShowsHalf ∧
      (compile wordLayout).read? "7 March 2021 12:05 Am".toList = some pastMidnight ∧
      ∃ word hour, (compile wordLayout).Says "7 March 2021 12:05 Am".toList word hour ∧
        (pastMidnight.hour < 12 ↔ IsAM word ∧ hour ≤ 12) ∧
        ((pastMidnight.hour < 12 ↔ IsAM word) ↔ ¬(IsAM word ∧ 12 < hour)) := by
  have hlayout : (compile wordLayout).ShowsHalf := by
    rw [compile_wordLayout]
    constructor <;> decide
  have hread : (compile wordLayout).read? "7 March 2021 12:05 Am".toList = some pastMidnight := by
    rw [compile_wordLayout]
    decide +kernel
  exact ⟨hlayout, hread, hour_lt_twelve_iff hlayout hread⟩

/-- A layout with the hour of a clock after a date in digits. -/
def digitLayout : List Char := "YYYY-MM-DD h A".toList

/-- The tokens of the layout. -/
theorem compile_digitLayout : compile digitLayout =
    [.year, .literal ['-'], .paddedMonth, .literal ['-'], .paddedDay, .literal [' '], .hour12,
      .literal [' '], .meridiem] := by
  cbv

/-- Thirteen o'clock on 2 January 2020. -/
def thirteenHours : Instant where
  day := 18263
  second := 46800
  nanos := 0
  day_mem := by decide
  second_lt := by decide
  nanos_lt := by decide

/-- A text that says AM is read as a time after noon, if its hour is thirteen. -/
theorem not_hour_lt_twelve_thirteenAM :
    (compile digitLayout).ShowsHalf ∧
      (compile digitLayout).read? "2020-01-02 13 AM".toList = some thirteenHours ∧
      (compile digitLayout).Says "2020-01-02 13 AM".toList "AM".toList 13 ∧
      IsAM "AM".toList ∧ ¬thirteenHours.hour < 12 := by
  have hlayout : (compile digitLayout).ShowsHalf := by
    rw [compile_digitLayout]
    constructor <;> decide
  have hread : (compile digitLayout).read? "2020-01-02 13 AM".toList = some thirteenHours := by
    rw [compile_digitLayout]
    decide +kernel
  have hcaptured : (compile digitLayout).captured? "2020-01-02 13 AM".toList =
      some [(.year, "2020".toList), (.paddedMonth, "01".toList), (.paddedDay, "02".toList),
        (.hour12, "13".toList), (.meridiem, "AM".toList)] := by
    rw [compile_digitLayout]
    decide +kernel
  refine ⟨hlayout, hread, ?_, by decide, by decide⟩
  exact ⟨_, .meridiem, .hour12, "13".toList, hcaptured, by decide, by decide, by decide⟩

end Layout
end Gleaner.Calendar
