import Gleaner.Proofs.Numeral.Durations

/-!
# Signs of written numbers

The sign of a negative number is written around the text of the number without its sign. It is left
out where all digits that are shown are zeros, because a number that is rounded to zero is neither
negative nor positive.

A duration has its minus in any case, whatever its digits are. So a negative duration of less than
half a second is written as zero with a minus, and this is the one exception.

## Main definitions

* `Numeral.shownDigits`: the digits that are written of a number.
* `Numeral.negativeSign`: how a negative number is told apart.
* `Numeral.IsSignedAsShown`: a number is told apart as negative where digits other than zero are
  shown.

## Main results

* `Decimal.showsNonzero_positional`: a decimal number in positions.
* `Numeral.Style.write_eq_around_abs`: the sign around the text of the size.
* `Numeral.showsNonzero_writeDuration`: durations from half a second on show a digit.
* `Numeral.isSignedAsShown_iff`: the numbers that are told apart as they are shown.
-/

namespace Gleaner

variable {a : Magnitude} {x : Double} {pattern : List Char}

/-- A decimal number in positions shows a digit other than zero unless it is zero. -/
theorem Decimal.showsNonzero_positional (d : Decimal) :
    Numeral.showsNonzero d.positional ↔ d.coefficient ≠ 0 := by
  rcases d.positional_cases with ⟨-, htext⟩ | ⟨-, whole, fraction, htext, hdigits, -⟩
  · have hpow : 10 ^ d.exponent.toNat ≠ 0 := (Nat.pow_pos (by decide)).ne'
    rw [htext, Numeral.showsNonzero_digits]
    exact not_congr (Nat.mul_eq_zero.trans (or_iff_left hpow))
  · -- the point between the digits shows nothing
    have hpoint : Numeral.showsNonzero ('.' :: fraction) = Numeral.showsNonzero fraction := rfl
    rw [htext, Numeral.showsNonzero_append, hpoint, ← Numeral.showsNonzero_append, hdigits,
      Numeral.showsNonzero_paddedDigits]

/-- An absolute value is not below zero. -/
theorem Double.less_abs_zero (s : Bool) (a : Magnitude) :
    (Double.finite s a).abs.less 0 = false := by
  rw [Bool.eq_false_iff, abs, Ne, less_zero_iff]
  simp

namespace Numeral

/-- The digits that are written of a number: those of a duration, or the number in front of its
unit. -/
def shownDigits (pattern : List Char) (x : Double) : List Char :=
  if pattern.contains ':' then writeDuration x.abs else (Style.ofPattern pattern).number x

/-- How a negative number is told apart: by the parentheses of the pattern or by a minus, and a
duration always by a minus. -/
def negativeSign (pattern : List Char) : Sign :=
  if pattern.contains '(' && !pattern.contains ':' then .parentheses else .minus

/-- A number is written as its absolute value, with the sign of a negative number around it just
where it is negative and a digit other than zero is shown. -/
def IsSignedAsShown (pattern : List Char) (x : Double) : Prop :=
  write x pattern =
    (if x.less 0 && showsNonzero (shownDigits pattern x) then negativeSign pattern
      else .none).around (write x.abs pattern)

instance (pattern : List Char) (x : Double) : Decidable (IsSignedAsShown pattern x) :=
  inferInstanceAs (Decidable (_ = _))

/-! ### Numbers in a style -/

namespace Style

variable {style : Style}

/-- An absolute value is not below zero, so it has no sign where there is no plus. -/
theorem sign_abs (hplus : style.plus = false) (s : Bool) (a : Magnitude) :
    style.sign (Double.finite s a).abs = .none := by
  have hless := Double.less_abs_zero s a
  rw [sign, hless, hplus, Bool.false_and, Bool.false_and, if_neg Bool.false_ne_true,
    if_neg Bool.false_ne_true]

/-- An absolute value is written without a sign where there is no plus. -/
theorem write_abs (hplus : style.plus = false) (s : Bool) (a : Magnitude) :
    style.write (Double.finite s a).abs = style.body (.finite s a) := by
  have hbody : style.body (Double.finite s a).abs = style.body (.finite s a) := rfl
  rw [write_eq, sign_abs hplus, hbody]
  rfl

/-- **The sign around the size.** Where there is no plus, a number is written as its absolute value
with a sign around it. -/
theorem write_eq_around_abs (hplus : style.plus = false) (s : Bool) (a : Magnitude) :
    style.write (.finite s a) =
      (style.sign (.finite s a)).around (style.write (Double.finite s a).abs) := by
  rw [write_abs hplus, write_eq]

/-- There are no digits in a unit or in an ordinal ending. -/
theorem showsNonzero_split (suffix : Suffix) (x : Double) :
    showsNonzero (suffix.split x).2 = false := by
  have hunit (units : List String) (h : units.all (fun unit => !showsNonzero unit.toList) = true)
      (n : Nat) : showsNonzero (units.getD n "").toList = false := by
    rw [List.getD_eq_getElem?_getD]
    cases hunit : units[n]? with
    | none => rfl
    | some unit => simpa using List.all_eq_true.1 h unit (List.mem_of_getElem? hunit)
  have hletters : abbreviations.all (fun entry => !showsNonzero [entry.1]) = true := by decide
  have hendings : ordinalEndings.all (fun ending => !showsNonzero ending.toList) = true := by decide
  unfold Suffix.split
  split
  · rfl
  · rfl
  · generalize scaleDown 1024 8 x = scaled
    exact hunit binaryBytes (by decide) _
  · generalize scaleDown 1000 8 x = scaled
    exact hunit decimalBytes (by decide) _
  · split
    next letter power hfound =>
      have hmem := List.mem_reverse.1 (List.mem_of_find?_eq_some hfound)
      simpa using List.all_eq_true.1 hletters _ hmem
    next => rfl
  · simpa using List.all_eq_true.1 hendings _ (ordinalEnding_mem _)

/-- What stands around the number in a text has no digits. -/
theorem showsNonzero_body (style : Style) (x : Double) :
    showsNonzero (style.body x) = showsNonzero (style.number x) := by
  have hspace (spaced : Bool) : showsNonzero (spaceIf spaced) = false := by cases spaced <;> rfl
  have hsuffix := showsNonzero_split style.suffix x.abs
  have hending : showsNonzero (style.ending x) = false := by
    rw [ending]
    split
    · exact hsuffix
    · exact hsuffix
  have hsign : showsNonzero ['$'] = false := rfl
  have hcons (cs : List Char) : showsNonzero ('$' :: cs) = showsNonzero cs := rfl
  unfold body
  split
  · split
    · simp only [List.cons_append, hcons, showsNonzero_append, hspace, hending, Bool.false_or,
        Bool.or_false]
    · simp only [showsNonzero_append, hspace, hending, hsign, Bool.or_false]
  · rw [showsNonzero_append, hending, Bool.or_false]

/-- A style has the plus and the parentheses of its pattern. -/
theorem ofPattern_marks (pattern : List Char) :
    (ofPattern pattern).plus = pattern.contains '+' ∧
      (ofPattern pattern).parentheses = pattern.contains '(' :=
  ⟨rfl, rfl⟩

end Style

/-! ### Durations -/

/-- A clock shows a digit other than zero unless all of its fields are zero. -/
theorem showsNonzero_clock (hours minutes seconds : Nat) :
    showsNonzero (clock hours minutes seconds) ↔ hours ≠ 0 ∨ minutes ≠ 0 ∨ seconds ≠ 0 := by
  have hcolon (cs : List Char) : showsNonzero (':' :: cs) = showsNonzero cs := rfl
  rw [clock, showsNonzero_append, hcolon, showsNonzero_append, hcolon, Bool.or_eq_true,
    Bool.or_eq_true, showsNonzero_digits, showsNonzero_paddedDigits, showsNonzero_paddedDigits]

/-- A number that is not zero shows this in its shortest text. -/
theorem showsNonzero_plainText (h : a.units ≠ 0) : showsNonzero (plainText (.finite false a)) := by
  rw [plainText, if_neg h, Decimal.showsNonzero_positional]
  intro hzero
  -- a decimal number without digits would be read as zero
  have hread := a.toDouble_shortest .up false
  rw [Decimal.toDouble, hzero, Nat.zero_mul, Double.ofRatio, Nat.zero_mul,
    Double.ofUnits_zero false (Magnitude.pow_ten_pos _)] at hread
  injection hread with _ ha
  rw [← ha] at h
  exact h rfl

/-- From an hour on the hours are not zero. -/
theorem showsNonzero_writeDuration_of_hours (h : 3600 ≤ a.floorNat) (s : Bool) :
    showsNonzero (writeDuration (.finite s a)) := by
  have habs : (Double.finite s a).abs = .finite false a := rfl
  have hunits : 3600 * unitsPerOne ≤ a.units := (Nat.le_div_iff_mul_le unitsPerOne_pos).1 h
  obtain ⟨b, hb, hfloor⟩ := Double.exists_floor_eq (a.divNat 3600 (by decide))
  have hhours : (Double.finite false a / 3600).floor = .finite false b := by
    rw [← hfloor, ← Double.finite_div_ofNat a (by decide) (by decide)]
    rfl
  have hpos : b.units ≠ 0 := by
    have hquotient : unitsPerOne ≤ (a.divNat 3600 (by decide)).units :=
      Magnitude.unitsPerOne_le_roundUnits (by decide) hunits
    have hone : 0 < (a.divNat 3600 (by decide)).floorNat :=
      Nat.div_pos hquotient unitsPerOne_pos
    rw [hb]
    exact Nat.mul_ne_zero hone.ne' unitsPerOne_pos.ne'
  rw [writeDuration]
  simp only [habs, hhours, showsNonzero_append, showsNonzero_plainText hpos, Bool.or_true,
    Bool.true_or]

/-- The fields of a duration of less than an hour are zero below half a second. -/
theorem fields_ne_zero_iff (h : a.floorNat < 3600) :
    a.floorNat / 3600 ≠ 0 ∨ a.floorNat % 3600 / 60 ≠ 0 ∨ a.secondsNat ≠ 0 ↔
      unitsPerOne ≤ 2 * a.units := by
  have hpos := unitsPerOne_pos
  have hseconds : a.secondsNat = 0 ↔ 2 * (a.units % (60 * unitsPerOne)) < unitsPerOne := by
    rw [Magnitude.secondsNat, Nat.div_eq_zero_iff, or_iff_right (by omega)]
    omega
  rcases Nat.lt_or_ge a.floorNat 60 with hminute | hminute
  · have hunits : a.units % (60 * unitsPerOne) = a.units :=
      Nat.mod_eq_of_lt (Magnitude.floorNat_lt_iff.1 hminute)
    rw [hunits] at hseconds
    omega
  · have hunits : 60 * unitsPerOne ≤ a.units := (Nat.le_div_iff_mul_le hpos).1 hminute
    exact iff_of_true (.inr (.inl (by omega))) (by omega)

/-- **Durations that are shown.** A duration shows a digit other than zero from half a second on. -/
theorem showsNonzero_writeDuration (a : Magnitude) :
    showsNonzero (writeDuration (.finite false a)) ↔ unitsPerOne ≤ 2 * a.units := by
  -- below an hour all fields are known exactly; from there on the hours alone are enough
  rcases Nat.lt_or_ge a.floorNat 3600 with hsmall | hlarge
  · have hless : (Double.finite false a).less 0 = false := Double.less_abs_zero false a
    have hnone (cs : List Char) : (minusIf false).around cs = cs := rfl
    rw [writeDuration_finite (by omega), hless, hnone, showsNonzero_clock, fields_ne_zero_iff hsmall]
  · refine iff_of_true (showsNonzero_writeDuration_of_hours hlarge false) ?_
    have hunits : 3600 * unitsPerOne ≤ a.units :=
      (Nat.le_div_iff_mul_le unitsPerOne_pos).1 hlarge
    omega

/-- The minus of a duration stands in front of the duration of the absolute value. -/
theorem writeDuration_eq_around_abs (habs : x.abs.abs = x.abs) (hless : x.abs.less 0 = false) :
    writeDuration x = (minusIf (x.less 0)).around (writeDuration x.abs) := by
  rw [writeDuration, writeDuration, hless, habs]
  cases x.less 0 <;> simp [minusIf, Sign.around]

/-! ### The rule -/

/-- A text with a minus is another text. -/
theorem around_minusIf_inj {cs : List Char} {b c : Bool} :
    (minusIf b).around cs = (minusIf c).around cs ↔ b = c := by
  cases b <;> cases c <;> simp [minusIf, Sign.around]

/-- A duration is told apart as it is shown unless it is negative and shows zeros only. -/
theorem isSignedAsShown_duration_iff (hcolon : ':' ∈ pattern) (habs : x.abs.abs = x.abs)
    (hless : x.abs.less 0 = false) :
    IsSignedAsShown pattern x ↔ (x.less 0 → showsNonzero (writeDuration x.abs)) := by
  have hcontains : pattern.contains ':' = true := List.contains_iff_mem.2 hcolon
  have hdigits : shownDigits pattern x = writeDuration x.abs := if_pos hcontains
  have hsign : negativeSign pattern = .minus := by
    rw [negativeSign, hcontains, Bool.not_true, Bool.and_false, if_neg Bool.false_ne_true]
  have hminus (b : Bool) : (if b then Sign.minus else .none) = minusIf b := rfl
  rw [IsSignedAsShown, write_of_mem_colon hcolon, write_of_mem_colon hcolon, hdigits, hsign, hminus,
    writeDuration_eq_around_abs habs hless, around_minusIf_inj]
  cases x.less 0 <;> simp

/-- In a style every number is told apart as it is shown. -/
theorem isSignedAsShown_of_not_mem_colon (hcolon : ':' ∉ pattern) (hplus : '+' ∉ pattern)
    (s : Bool) (a : Magnitude) :
    IsSignedAsShown pattern (.finite s a) ∧
      showsNonzero (shownDigits pattern (.finite s a)) =
        showsNonzero (write (Double.finite s a).abs pattern) := by
  have hcontains : pattern.contains ':' = false := by simpa using hcolon
  obtain ⟨hplusMark, hparentheses⟩ := Style.ofPattern_marks pattern
  have hnoPlus : (Style.ofPattern pattern).plus = false := by
    rw [hplusMark]
    simpa using hplus
  have hwrite (x : Double) : write x pattern = (Style.ofPattern pattern).write x := by
    rw [write, hcontains, if_neg Bool.false_ne_true]
  have hdigits : shownDigits pattern (.finite s a) =
      (Style.ofPattern pattern).number (.finite s a) := by
    rw [shownDigits, hcontains, if_neg Bool.false_ne_true]
  have hsign : negativeSign pattern =
      if (Style.ofPattern pattern).parentheses then .parentheses else .minus := by
    rw [negativeSign, hcontains, hparentheses, Bool.not_false, Bool.and_true]
  constructor
  · rw [IsSignedAsShown, hwrite, hwrite, Style.write_eq_around_abs hnoPlus, hdigits, hsign,
      Style.sign, hnoPlus, Bool.false_and, if_neg Bool.false_ne_true]
  · rw [hdigits, hwrite, Style.write_abs hnoPlus, Style.showsNonzero_body]

/-- **Signs.** By every pattern without a plus each number is told apart as negative where it is
negative and shows a digit other than zero, with one exception: a negative duration of less than
half a second has a minus in front of nothing but zeros. Units, ordinal endings and the currency sign
show no digits. -/
theorem isSignedAsShown_iff (hplus : '+' ∉ pattern) (s : Bool) (a : Magnitude) :
    (IsSignedAsShown pattern (.finite s a) ↔
      ¬(':' ∈ pattern ∧ (Double.finite s a).less 0 ∧ 2 * a.units < unitsPerOne)) ∧
    showsNonzero (shownDigits pattern (.finite s a)) =
      showsNonzero (write (Double.finite s a).abs pattern) := by
  by_cases hcolon : ':' ∈ pattern
  · have habs : (Double.finite s a).abs = .finite false a := rfl
    have hdigits : shownDigits pattern (.finite s a) = writeDuration (.finite false a) :=
      if_pos (List.contains_iff_mem.2 hcolon)
    constructor
    · rw [isSignedAsShown_duration_iff hcolon rfl (Double.less_abs_zero s a), habs,
        showsNonzero_writeDuration]
      simp [hcolon]
    · rw [hdigits, habs, write_of_mem_colon hcolon]
  · obtain ⟨hsigned, hshown⟩ := isSignedAsShown_of_not_mem_colon hcolon hplus s a
    exact ⟨iff_of_true hsigned fun h => hcolon h.1, hshown⟩

/-- One half. -/
def half : Magnitude := ⟨Nat.pow 2 1073, by decide +kernel⟩

/-- Half a second less than zero is shown as a second with a minus, parentheses or not. -/
theorem isSignedAsShown_minusHalfASecond :
    '+' ∉ "(00:00:00)".toList ∧
      write (.finite true half) "(00:00:00)".toList = "-0:00:01".toList ∧
      IsSignedAsShown "(00:00:00)".toList (.finite true half) := by
  have hplus : '+' ∉ "(00:00:00)".toList := by decide
  have hshown : ¬2 * half.units < unitsPerOne := by decide +kernel
  refine ⟨hplus, by decide +kernel, ?_⟩
  exact (isSignedAsShown_iff hplus true half).1.2 fun h => hshown h.2.2

/-- A quarter of a second less than zero is shown as zero with a minus. -/
theorem not_isSignedAsShown_minusQuarterOfASecond :
    '+' ∉ "00:00:00".toList ∧
      write (.ofRatio true 1 4) "00:00:00".toList = "-0:00:00".toList ∧
      shownDigits "00:00:00".toList (.ofRatio true 1 4) = "0:00:00".toList ∧
      ¬IsSignedAsShown "00:00:00".toList (.ofRatio true 1 4) := by
  decide +kernel

end Numeral

end Gleaner
