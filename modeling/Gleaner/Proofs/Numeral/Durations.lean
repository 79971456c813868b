import Gleaner.Proofs.Number.Remainder
import Gleaner.Proofs.Number.Shortest
import Gleaner.Proofs.Numeral.WholeNumbers

/-!
# Durations

A number of seconds is written as hours, minutes and seconds. Hours and minutes are integer
quotients of doubles, which are exact, and so is what is left for the seconds. Only the seconds are
rounded, and nothing is carried over to the minutes: the last half of a second of each minute is
written as second 60.

What is written of a whole number of seconds is read back as this number. A negative duration is
written with a minus in front, but no sign is expected in front of the hours when a text with colons
is read. So no negative duration is read back.

## Main definitions

* `Numeral.clock`, `Numeral.IsClock`: hours, minutes and seconds as a text.
* `Magnitude.secondsNat`: the seconds above the last full minute.

## Main results

* `Numeral.writeDuration_finite`: the hours, the minutes and the seconds that are written.
* `Numeral.isClock_write_iff`: the numbers of seconds whose fields are in range.
* `Numeral.readDuration?_clock`: clocks are read.
* `Numeral.read?_of_mem_colon`: a text with a colon is a duration or no number.
* `Numeral.read?_write_duration`: the whole numbers of seconds that are read back.
-/

namespace Gleaner

variable {a : Magnitude} {k hours minutes seconds : Nat} {negative : Bool}
  {c : Char} {cs rest ending pattern : List Char}

/-- The seconds above the last full minute, rounded to a whole number. -/
def Magnitude.secondsNat (a : Magnitude) : Nat :=
  (2 * (a.units % (60 * unitsPerOne)) + unitsPerOne) / (2 * unitsPerOne)

/-- These are 60 at most. -/
theorem Magnitude.secondsNat_le (a : Magnitude) : a.secondsNat ≤ 60 := by
  have hpos := unitsPerOne_pos
  have hmod : a.units % (60 * unitsPerOne) < 60 * unitsPerOne := Nat.mod_lt _ (by omega)
  rw [secondsNat, ← Nat.lt_succ_iff, Nat.div_lt_iff_lt_mul (by omega)]
  generalize unitsPerOne = one at hmod ⊢
  omega

/-- They are less before the last half of a second. -/
theorem Magnitude.secondsNat_le_iff (a : Magnitude) :
    a.secondsNat ≤ 59 ↔ 2 * (a.units % (60 * unitsPerOne)) < 119 * unitsPerOne := by
  have hpos := unitsPerOne_pos
  rw [secondsNat, ← Nat.lt_succ_iff, Nat.div_lt_iff_lt_mul (by omega)]
  generalize a.units % (60 * unitsPerOne) = r
  generalize unitsPerOne = one
  omega

/-- The seconds of a whole number are those that are left of it. -/
theorem Magnitude.secondsNat_of_units (ha : a.units = k * unitsPerOne) :
    a.secondsNat = k % 60 := by
  have hpos := unitsPerOne_pos
  have htwice : 2 * (k % 60 * unitsPerOne) = 2 * unitsPerOne * (k % 60) := by
    rw [Nat.mul_comm (k % 60), Nat.mul_assoc]
  rw [secondsNat, ha, Nat.mul_mod_mul_right, htwice, Nat.mul_add_div (by omega),
    Nat.div_eq_of_lt (by omega), Nat.add_zero]

namespace Numeral

/-! ### Clocks -/

/-- Hours, minutes and seconds as a text, the minutes and the seconds with two digits. -/
def clock (hours minutes seconds : Nat) : List Char :=
  digits hours ++ ':' :: (paddedDigits 2 minutes ++ ':' :: paddedDigits 2 seconds)

/-- A minus, where there is one. -/
def minusIf (negative : Bool) : Sign := if negative then .minus else .none

/-- A text that has hours, minutes and seconds after a minus or without one, and no more than 59
minutes and 59 seconds. -/
def IsClock (cs : List Char) : Prop :=
  ∃ negative hours minutes seconds, minutes ≤ 59 ∧ seconds ≤ 59 ∧
    cs = (minusIf negative).around (clock hours minutes seconds)

/-- A clock ends with its seconds. -/
theorem around_clock (negative : Bool) (hours minutes seconds : Nat) :
    (minusIf negative).around (clock hours minutes seconds) =
      (minusIf negative).around (digits hours ++ ':' :: paddedDigits 2 minutes) ++
        ':' :: paddedDigits 2 seconds := by
  cases negative <;> simp [minusIf, Sign.around, clock]

/-- The seconds of a clock are found in its text. -/
theorem isClock_around_clock_iff (hminutes : minutes ≤ 59) (hseconds : seconds < 100) :
    IsClock ((minusIf negative).around (clock hours minutes seconds)) ↔ seconds ≤ 59 := by
  constructor
  · rintro ⟨otherSign, otherHours, otherMinutes, others, -, hothers, htext⟩
    have hlength :
        (':' :: paddedDigits 2 seconds).length = (':' :: paddedDigits 2 others).length := by
      rw [List.length_cons, List.length_cons, length_paddedDigits (by decide) hseconds,
        length_paddedDigits (by decide) (by omega)]
    rw [around_clock, around_clock] at htext
    have hdigits := (List.cons.inj (List.append_inj' htext hlength).2).2
    -- two digits are two digits of one number only
    have hvalue := congrArg ofDigits hdigits
    rw [ofDigits_paddedDigits, ofDigits_paddedDigits] at hvalue
    omega
  · intro hle
    exact ⟨negative, hours, minutes, seconds, hminutes, hle, rfl⟩

/-! ### Writing -/

/-- A natural number is written by its digits. -/
theorem plainText_ofNat (h : k < 9007199254740992) : plainText (.ofNat k) = digits k := by
  rw [Double.ofNat_eq h, plainText]
  split
  next hzero =>
    rw [(Magnitude.units_eq_zero_iff (Magnitude.units_whole h)).1 hzero]
    rfl
  next hunits =>
    have hpos : 0 < k := by
      refine Nat.pos_of_ne_zero fun hk => hunits ?_
      exact (Magnitude.units_eq_zero_iff (Magnitude.units_whole h)).2 hk
    exact Magnitude.positional_shortest_of_units (Magnitude.units_whole h) h hpos .up

/-- **Writing a duration.** The hours and the minutes are integer quotients, and the seconds are
rounded. -/
theorem writeDuration_finite (ha : a.floorNat < 9007199254740991) (s : Bool) :
    writeDuration (.finite s a) = (minusIf ((Double.finite s a).less 0)).around
      (clock (a.floorNat / 3600) (a.floorNat % 3600 / 60) a.secondsNat) := by
  have hsafe : a.floorNat < 9007199254740992 := Nat.lt_succ_of_lt ha
  have habs : (Double.finite s a).abs = .finite false a := rfl
  -- the hours and what is left of them
  have hhours : (Double.finite false a / 3600).floor = .ofNat (a.floorNat / 3600) :=
    Double.floor_div_ofNat ha (by decide) (by decide)
  obtain ⟨b, hb, hrest⟩ := Double.exists_sub_floor_mul hsafe (y := 3600) (by decide) (by decide)
  have hafterHours :
      Double.finite false a - .ofNat (a.floorNat / 3600) * 3600 = .finite false b := hrest
  have hbfloor : b.floorNat = a.floorNat % 3600 := Magnitude.floorNat_of_units_eq_mod hb
  -- the minutes and what is left of them
  have hminutes : (Double.finite false b / 60).floor = .ofNat (b.floorNat / 60) :=
    Double.floor_div_ofNat (by omega) (by decide) (by decide)
  obtain ⟨c, hc, hrest⟩ :=
    Double.exists_sub_floor_mul (a := b) (y := 60) (by omega) (by decide) (by decide)
  have hafterMinutes :
      Double.finite false b - .ofNat (b.floorNat / 60) * 60 = .finite false c := hrest
  -- a full hour is a number of full minutes, so nothing of the hours is left in the seconds
  have hunits : c.units = a.units % (60 * unitsPerOne) := by
    rw [hc, hb]
    exact Nat.mod_mod_of_dvd _ (Nat.mul_dvd_mul_right (by decide) _)
  have hseconds : (Double.finite false c).round = .ofNat a.secondsNat := by
    rw [Magnitude.secondsNat, ← hunits]
    rfl
  have hword := a.secondsNat_le
  rw [writeDuration]
  simp only [habs, hhours, hafterHours, hminutes, hafterMinutes, hseconds]
  rw [plainText_ofNat (by omega), (Double.isNat_ofNat (by omega)).toWord_eq (by omega),
    (Double.isNat_ofNat (by omega)).toWord_eq (by omega), hbfloor]
  cases (Double.finite s a).less 0 <;> simp [minusIf, Sign.around, clock]

/-- A pattern with a colon asks for a duration. -/
theorem write_of_mem_colon (h : ':' ∈ pattern) (x : Double) : write x pattern = writeDuration x := by
  rw [write, if_pos (List.contains_iff_mem.2 h)]

/-- **Fields in range.** The hours and the minutes that are written are those of the number of
seconds, but its seconds are rounded up to 60 where at most half a second is missing at the full
minute. All fields are in range for just the other numbers. This holds as far as all integers are
doubles. -/
theorem isClock_write_iff (hpattern : ':' ∈ pattern) (ha : a.floorNat < 9007199254740991)
    (s : Bool) :
    (∃ seconds ≤ 60, write (.finite s a) pattern = (minusIf ((Double.finite s a).less 0)).around
      (clock (a.floorNat / 3600) (a.floorNat % 3600 / 60) seconds)) ∧
    (IsClock (write (.finite s a) pattern) ↔
      2 * (a.units % (60 * unitsPerOne)) < 119 * unitsPerOne) := by
  have hle := a.secondsNat_le
  rw [write_of_mem_colon hpattern, writeDuration_finite ha,
    isClock_around_clock_iff (by omega) (by omega), a.secondsNat_le_iff]
  exact ⟨⟨_, hle, rfl⟩, Iff.rfl⟩

/-- 3599.25 seconds. -/
def almostAnHour : Magnitude := ⟨14397 * Nat.pow 2 1072, by decide +kernel⟩

/-- Three quarters of a second before the full hour all fields are in range. -/
theorem isClock_write_almostAnHour :
    ':' ∈ "00:00:00".toList ∧ almostAnHour.floorNat < 9007199254740991 ∧
      write (.finite true almostAnHour) "00:00:00".toList = "-0:59:59".toList ∧
      IsClock (write (.finite true almostAnHour) "00:00:00".toList) := by
  have hpattern : ':' ∈ "00:00:00".toList := by decide
  have hsafe : almostAnHour.floorNat < 9007199254740991 := by decide +kernel
  have hbefore : 2 * (almostAnHour.units % (60 * unitsPerOne)) < 119 * unitsPerOne := by
    decide +kernel
  refine ⟨hpattern, hsafe, by decide +kernel, ?_⟩
  exact (isClock_write_iff hpattern hsafe true).2.2 hbefore

/-- Half a second before the full minute is written as second 60. -/
theorem not_isClock_write_halfBeforeMinute :
    (Double.ofRatio false 119 2).abs.less (.ofNat 2147483648) ∧
      write (.ofRatio false 119 2) "00:00:00".toList = "0:00:60".toList ∧
      ¬IsClock (write (.ofRatio false 119 2) "00:00:00".toList) := by
  have htext : write (.ofRatio false 119 2) "00:00:00".toList = "0:00:60".toList := by
    decide +kernel
  have hclock : "0:00:60".toList = (minusIf false).around (clock 0 0 60) := by decide
  refine ⟨by decide +kernel, htext, ?_⟩
  rw [htext, hclock, isClock_around_clock_iff (by decide) (by decide)]
  decide

/-! ### Reading -/

/-- Digits are a run of digits. -/
theorem isDigitRun_of_forall (h : ∀ c ∈ cs, isDigit c) (hne : cs ≠ []) : isDigitRun cs := by
  simpa [isDigitRun, hne] using fun c hc => Unicode.isDecimal_of_isDigit (h c hc)

/-- Digits of a duration are the number that they spell. -/
theorem durationPart_of_forall (h : ∀ c ∈ cs, isDigit c) (hne : cs ≠ []) :
    durationPart cs = .ofNat (ofDigits cs) := by
  have hvalue := Decimal.toDouble_mul_pow_ten (ofDigits cs) 0
  rw [Nat.pow_zero, Nat.mul_one] at hvalue
  rw [durationPart, Decimal.read?_of_forall h hne]
  exact hvalue

/-- No colon and no point is among digits. -/
theorem not_mem_of_forall_isDigit (h : ∀ c ∈ cs, isDigit c) (hc : isDigit c = false) : c ∉ cs :=
  fun hmem => by simp [h c hmem] at hc

/-- **Reading a duration.** Hours, minutes and seconds are read as the seconds that they are. -/
theorem readDuration?_clock (h : hours * 3600 + minutes * 60 + seconds < 9007199254740992) :
    readDuration? (clock hours minutes seconds) =
      some (.ofNat (hours * 3600 + minutes * 60 + seconds)) := by
  have hhours : ∀ c ∈ digits hours, isDigit c := fun c => isDigit_of_mem_digits
  have hpadded (n : Nat) : ∀ c ∈ paddedDigits 2 n, isDigit c := fun c => isDigit_of_mem_paddedDigits
  have hcut : cutAt ':' (clock hours minutes seconds) =
      [digits hours, paddedDigits 2 minutes, paddedDigits 2 seconds] := by
    rw [clock, cutAt_append (not_mem_of_forall_isDigit hhours rfl),
      cutAt_append (not_mem_of_forall_isDigit (hpadded minutes) rfl),
      cutAt_of_not_mem (not_mem_of_forall_isDigit (hpadded seconds) rfl)]
  have hruns : isDigitRun (digits hours) && isDigitRun (paddedDigits 2 minutes) &&
      isSecondsPart (paddedDigits 2 seconds) := by
    rw [isSecondsPart, cutAt_of_not_mem (not_mem_of_forall_isDigit (hpadded seconds) rfl),
      isDigitRun_of_forall hhours (digits_ne_nil _),
      isDigitRun_of_forall (hpadded minutes) (paddedDigits_ne_nil 2 _)]
    exact isDigitRun_of_forall (hpadded seconds) (paddedDigits_ne_nil 2 _)
  have hhoursProduct : Double.ofNat hours * 3600 = .ofNat (hours * 3600) :=
    Double.ofNat_mul_ofNat (by omega) (by decide)
  have hminutesProduct : Double.ofNat minutes * 60 = .ofNat (minutes * 60) :=
    Double.ofNat_mul_ofNat (by omega) (by decide)
  have hsmall : hours * 3600 + minutes * 60 < 9007199254740992 :=
    Nat.lt_of_le_of_lt (Nat.le_add_right _ seconds) h
  have hfull := Double.ofNat_add_ofNat hsmall
  rw [readDuration?, hcut]
  dsimp only
  rw [if_pos hruns, durationPart_of_forall hhours (digits_ne_nil _),
    durationPart_of_forall (hpadded _) (paddedDigits_ne_nil 2 _),
    durationPart_of_forall (hpadded _) (paddedDigits_ne_nil 2 _), ofDigits_digits,
    ofDigits_paddedDigits, ofDigits_paddedDigits, hhoursProduct, hminutesProduct, hfull,
    Double.ofNat_add_ofNat h]

/-- A minus in front of the hours makes them no digits. -/
theorem readDuration?_minus_clock (hours minutes seconds : Nat) :
    readDuration? ('-' :: clock hours minutes seconds) = none := by
  have hhours : ':' ∉ '-' :: digits hours := by
    have hdigits : ':' ∉ digits hours :=
      not_mem_of_forall_isDigit (fun _ => isDigit_of_mem_digits) rfl
    simpa using hdigits
  have hpadded (n : Nat) : ':' ∉ paddedDigits 2 n :=
    not_mem_of_forall_isDigit (fun _ => isDigit_of_mem_paddedDigits) rfl
  have hcut : cutAt ':' ('-' :: clock hours minutes seconds) =
      ['-' :: digits hours, paddedDigits 2 minutes, paddedDigits 2 seconds] := by
    rw [clock, ← List.cons_append, cutAt_append hhours, cutAt_append (hpadded minutes),
      cutAt_of_not_mem (hpadded seconds)]
  have hrun : isDigitRun ('-' :: digits hours) = false := rfl
  rw [readDuration?, hcut]
  dsimp only
  rw [hrun, Bool.false_and, Bool.false_and, if_neg Bool.false_ne_true]

/-! ### Texts with a colon -/

/-- What is left before an ending. -/
theorem eq_append_of_stripEnding? (h : stripEnding? ending cs = some rest) :
    cs = rest ++ ending := by
  unfold stripEnding? at h
  split at h
  next hsuffix =>
    obtain ⟨before, rfl⟩ := List.isSuffixOf_iff_suffix.1 hsuffix
    have hstripped := stripEnding?_append before ending
    rw [stripEnding?, if_pos hsuffix, h] at hstripped
    rw [Option.some.inj hstripped]
  next => cases h

/-- What is left before one of some units. -/
theorem exists_eq_append_of_stripUnit? {list : List String} {i : Nat}
    (h : stripUnit? list cs = some (rest, i)) : ∃ unit ∈ list, cs = rest ++ unit.toList := by
  obtain ⟨⟨unit, j⟩, hmem, hstrip⟩ := List.exists_of_findSome?_eq_some h
  obtain ⟨before, hbefore, heq⟩ := Option.map_eq_some_iff.1 hstrip
  cases heq
  exact ⟨unit, List.fst_mem_of_mem_zipIdx hmem, eq_append_of_stripEnding? hbefore⟩

/-- What is left before an ordinal ending. -/
theorem exists_eq_append_of_stripOrdinal? (h : stripOrdinal? cs = some rest) :
    ∃ unit ∈ ordinalEndings, cs = rest ++ unit.toList := by
  obtain ⟨unit, hmem, hstrip⟩ := List.exists_of_findSome?_eq_some h
  exact ⟨unit, hmem, eq_append_of_stripEnding? (Option.filter_eq_some_iff.1 hstrip).1⟩

/-- What is left before an abbreviation. -/
theorem exists_eq_append_of_stripAbbreviation? {power : Nat}
    (h : stripAbbreviation? cs = some (rest, power)) :
    ∃ abbreviation ∈ abbreviations, cs = rest ++ [abbreviation.1] := by
  obtain ⟨abbreviation, hmem, hstrip⟩ := List.exists_of_findSome?_eq_some h
  obtain ⟨before, hbefore, heq⟩ := Option.map_eq_some_iff.1 hstrip
  cases heq
  exact ⟨abbreviation, hmem, eq_append_of_stripEnding? hbefore⟩

/-- No unit has a colon, so it is left to the number. -/
theorem exists_eq_append_of_splitUnit (cs : List Char) :
    ∃ unit, cs = (splitUnit cs).1 ++ unit ∧ ':' ∉ unit := by
  have hbinary : ∀ u ∈ binaryBytes.drop 1, ':' ∉ u.toList := by decide
  have hdecimal : ∀ u ∈ decimalBytes.drop 1, ':' ∉ u.toList := by decide
  have hordinal : ∀ u ∈ ordinalEndings, ':' ∉ u.toList := by decide
  have habbreviation : ∀ a ∈ abbreviations, ':' ∉ [a.1] := by decide
  unfold splitUnit
  split
  next h => exact ⟨_, eq_append_of_stripEnding? h, by decide⟩
  next =>
  split
  next h =>
    obtain ⟨unit, hmem, heq⟩ := exists_eq_append_of_stripUnit? h
    exact ⟨_, heq, hbinary unit hmem⟩
  next =>
  split
  next h =>
    obtain ⟨unit, hmem, heq⟩ := exists_eq_append_of_stripUnit? h
    exact ⟨_, heq, hdecimal unit hmem⟩
  next =>
  split
  next h => exact ⟨_, eq_append_of_stripEnding? h, by decide⟩
  next =>
  split
  next h =>
    obtain ⟨unit, hmem, heq⟩ := exists_eq_append_of_stripOrdinal? h
    exact ⟨_, heq, hordinal unit hmem⟩
  next =>
  split
  next h =>
    obtain ⟨unit, hmem, heq⟩ := exists_eq_append_of_stripAbbreviation? h
    exact ⟨_, heq, habbreviation unit hmem⟩
  next => exact ⟨[], (List.append_nil cs).symm, List.not_mem_nil⟩

/-- A text with a colon spells no number of its own. -/
theorem magnitude?_of_mem_colon (h : ':' ∈ cs) : magnitude? cs = none := by
  obtain ⟨unit, hunit, hplain⟩ := exists_eq_append_of_splitUnit (cs.filter (!isIgnored ·))
  -- neither the filter nor the unit takes the colon away, and it is no figure
  have hkept : ':' ∈ cs.filter (!isIgnored ·) := List.mem_filter.2 ⟨h, by decide⟩
  rw [hunit] at hkept
  have hbody : ':' ∈ (splitUnit (cs.filter (!isIgnored ·))).1 :=
    (List.mem_append.1 hkept).resolve_right hplain
  have hall :
      (splitUnit (cs.filter (!isIgnored ·))).1.all (fun c => isDigit c || c = '.') = false :=
    List.all_eq_false.2 ⟨':', hbody, by decide⟩
  rw [magnitude?]
  dsimp only
  rw [hall, Bool.and_false, if_neg Bool.false_ne_true]

/-- **Texts with a colon.** A text with a colon is a duration or no number: no sign, no currency
sign and no unit helps. -/
theorem read?_of_mem_colon (h : ':' ∈ bare cs) : read? cs = readDuration? (bare cs) := by
  rw [read?_eq_or (List.ne_nil_of_mem h), magnitude?_of_mem_colon h, Option.map_none,
    Option.or_none]

/-- A clock with its sign is left as it is. -/
theorem bare_around_clock (negative : Bool) (hours minutes seconds : Nat) :
    bare ((minusIf negative).around (clock hours minutes seconds)) =
      (minusIf negative).around (clock hours minutes seconds) := by
  have hclock {c : Char} (hc : c ∈ clock hours minutes seconds) : isDigit c ∨ c = ':' := by
    simp only [clock, List.mem_append, List.mem_cons] at hc
    rcases hc with hc | rfl | hc | rfl | hc
    · exact .inl (isDigit_of_mem_digits hc)
    · exact .inr rfl
    · exact .inl (isDigit_of_mem_paddedDigits hc)
    · exact .inr rfl
    · exact .inl (isDigit_of_mem_paddedDigits hc)
  have hplain : ∀ c ∈ (minusIf negative).around (clock hours minutes seconds),
      isBlank c = false ∧ isQuote c = false := by
    intro c hc
    rcases Sign.mem_around hc with hc | hc
    · rcases hclock hc with hdigit | rfl
      · have hquote : c ∉ "'\"".toList := not_mem_of_isDigit hdigit (by decide)
        exact ⟨Unicode.isBlank_of_isDigit hdigit, by simpa [isQuote] using hquote⟩
      · decide
    · have hall : "+-()".toList.all (fun c => !isBlank c && !isQuote c) = true := by decide
      simpa using List.all_eq_true.1 hall c hc
  exact bare_eq (.of_forall fun c hc => (hplain c hc).1) fun c hc => (hplain c hc).2

/-- A clock without a sign is read, and one with a minus is not. -/
theorem read?_around_clock (h : hours * 3600 + minutes * 60 + seconds < 9007199254740992)
    (negative : Bool) :
    read? ((minusIf negative).around (clock hours minutes seconds)) =
      if negative then none else some (.ofNat (hours * 3600 + minutes * 60 + seconds)) := by
  have hcolon : ':' ∈ clock hours minutes seconds := by simp [clock]
  have hbare := bare_around_clock negative hours minutes seconds
  cases negative with
  | false =>
    rw [read?_of_mem_colon (hbare.symm ▸ hcolon), hbare]
    exact readDuration?_clock h
  | true =>
    rw [read?_of_mem_colon (hbare.symm ▸ List.mem_cons_of_mem '-' hcolon), hbare]
    exact readDuration?_minus_clock hours minutes seconds

/-- **Durations.** Of the whole numbers of seconds just those that are not negative are read back
from the duration that is written of them, however many digits the hours have. -/
theorem read?_write_duration {n : Int} (hpattern : ':' ∈ pattern)
    (hn : n.natAbs < 9007199254740991) :
    read? (write (.ofInt n) pattern) = (if n < 0 then none else some (.ofInt n)) ∧
      Coerce.number {} (.string (.ofList (write (.ofInt n) pattern))) =
        if n < 0 then .null else .number (.ofInt n) := by
  obtain ⟨a, ha⟩ := Magnitude.exists_units_eq (k := n.natAbs) (by omega)
  have hfloor : a.floorNat = n.natAbs := by
    rw [Magnitude.floorNat, ha, Nat.mul_div_cancel _ unitsPerOne_pos]
  have hsign : (Double.finite (n < 0) a).less 0 = decide (n < 0) := by
    have hunits := Magnitude.units_eq_zero_iff ha
    rw [Bool.eq_iff_iff, Double.less_zero_iff, ne_eq, hunits, decide_eq_true_eq]
    omega
  have hread : read? (write (.ofInt n) pattern) = if n < 0 then none else some (.ofInt n) := by
    rw [write_of_mem_colon hpattern, Double.ofInt_of_units ha,
      writeDuration_finite (hfloor.symm ▸ hn), hsign, hfloor, Magnitude.secondsNat_of_units ha]
    have hparts :
        n.natAbs / 3600 * 3600 + n.natAbs % 3600 / 60 * 60 + n.natAbs % 60 = n.natAbs := by
      omega
    have hwhole := Double.ofNat_of_units ha
    rw [read?_around_clock (by omega), hparts, hwhole]
    by_cases hnegative : n < 0 <;> simp [hnegative]
  refine ⟨hread, ?_⟩
  rw [number_ofList, hread]
  split <;> rfl

/-- The longest duration within 32 bits is read back. -/
theorem read?_write_longestDuration :
    ':' ∈ "00:00:00".toList ∧ (2147483647 : Int).natAbs < 9007199254740991 ∧
      write (.ofInt 2147483647) "00:00:00".toList = "596523:14:07".toList ∧
      read? "596523:14:07".toList = some (.ofInt 2147483647) ∧
      Coerce.number {} (.string "596523:14:07") = .number (.ofInt 2147483647) := by
  have hpattern : ':' ∈ "00:00:00".toList := by decide
  have hn : (2147483647 : Int).natAbs < 9007199254740991 := by decide
  have htext : write (.ofInt 2147483647) "00:00:00".toList = "596523:14:07".toList := by
    decide +kernel
  obtain ⟨hread, hnumber⟩ := read?_write_duration hpattern hn
  rw [htext, if_neg (by decide)] at hread hnumber
  exact ⟨hpattern, hn, htext, hread, hnumber⟩

/-- The shortest negative duration is not read back. -/
theorem not_read?_write_minusOneSecond :
    write (.ofInt (-1)) "00:00:00".toList = "-0:00:01".toList ∧
      ¬∀ n : Int, n.natAbs < 2147483648 →
        read? (write (.ofInt n) "00:00:00".toList) = some (.ofInt n) := by
  have htext : write (.ofInt (-1)) "00:00:00".toList = "-0:00:01".toList := by decide +kernel
  refine ⟨htext, fun hall => ?_⟩
  have hread := hall (-1) (by decide)
  have hnone : read? "-0:00:01".toList = none := by decide +kernel
  rw [htext, hnone] at hread
  cases hread

end Numeral

end Gleaner
