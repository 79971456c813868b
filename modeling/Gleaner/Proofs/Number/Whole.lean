import Gleaner.Number.Shortest

/-!
# Integers as doubles

An integer below 2⁵³ is a double. Rounding it to a whole number does not change it, and it comes
back as the signed word that it is.

## Main definitions

* `Magnitude.whole`: a natural number below 2⁵³ as a magnitude.
* `Double.dropZeroSign`: a number, with positive zero for the two zeros.
* `Double.IsNat`: a number that is a natural number.

## Main results

* `Magnitude.exists_units_eq`: natural numbers up to 2⁵³ are magnitudes.
* `Double.ofInt_eq`: the double nearest to such an integer is that integer.
* `Double.round_ofInt`, `Double.toSignedWord_ofInt`: it is rounded to itself and read as itself.
* `Double.ofInt_toSignedWord`: a double that is such an integer comes back from it, a zero without
  its sign.
-/

namespace Gleaner

/-- A number below 2⁵³ has a representable number of units. -/
theorem representable_mul_unitsPerOne {k : Nat} (h : k < 9007199254740992) :
    Representable (k * unitsPerOne) := by
  have hlimit : 53 + unitExponent ≤ limitExponent := by decide
  have hexponent : 52 ≤ unitExponent := by decide
  unfold Representable unitLimit unitsPerOne
  -- the powers are too large to be computed, so their exponents become variables
  generalize unitExponent = one at hlimit hexponent ⊢
  generalize limitExponent = limit at hlimit ⊢
  by_cases hzero : k = 0
  · rw [hzero, Nat.zero_mul]
    exact ⟨Nat.two_pow_pos limit, Nat.dvd_zero _⟩
  constructor
  · calc k * 2 ^ one < 2 ^ 53 * 2 ^ one := (Nat.mul_lt_mul_right (Nat.two_pow_pos one)).2 h
      _ = 2 ^ (53 + one) := (Nat.pow_add ..).symm
      _ ≤ 2 ^ limit := Nat.pow_le_pow_right Nat.two_pos hlimit
  · have hlog := log2_le_of_lt h
    rw [slack, Magnitude.log2_mul_two_pow one hzero]
    exact Nat.dvd_mul_left_of_dvd (Nat.pow_dvd_pow 2 (by omega)) k

namespace Magnitude

variable {k : Nat} (h : k < 9007199254740992)

/-- A natural number below 2⁵³ as a magnitude. -/
def whole (k : Nat) (h : k < 9007199254740992) : Magnitude :=
  ⟨k * unitsPerOne, representable_mul_unitsPerOne h⟩

theorem units_whole : (whole k h).units = k * unitsPerOne := rfl

/-- Its integer part is the number itself. -/
theorem floorNat_whole : (whole k h).floorNat = k := Nat.mul_div_cancel k unitsPerOne_pos

/-- The nearest integer is the number itself. -/
theorem roundNat_whole : (whole k h).roundNat = k := by
  have hpos := unitsPerOne_pos
  rw [roundNat, units_whole]
  generalize unitsPerOne = one at hpos
  have htwice : 2 * (k * one) = 2 * one * k := by rw [Nat.mul_comm k, Nat.mul_assoc]
  rw [htwice, Nat.mul_add_div (by omega), Nat.div_eq_of_lt (by omega), Nat.add_zero]

/-- A power of two in range has a representable number of units. -/
theorem representable_two_pow_mul {m : Nat} (h : m + unitExponent < limitExponent) :
    Representable (Nat.pow 2 m * unitsPerOne) := by
  have hpow : Nat.pow 2 m * unitsPerOne = 2 ^ (m + unitExponent) := (Nat.pow_add ..).symm
  rw [hpow]
  unfold Representable unitLimit
  generalize m + unitExponent = e at h ⊢
  generalize limitExponent = limit at h ⊢
  refine ⟨Nat.pow_lt_pow_right (by decide) h, ?_⟩
  rw [slack, Nat.log2_two_pow]
  exact Nat.pow_dvd_pow 2 (Nat.sub_le e 52)

/-- Zero is the only magnitude without units. -/
theorem eq_zero_of_units {a : Magnitude} (h : a.units = 0) : a = .zero := by
  cases a
  exact (mk.injEq ..).mpr h

/-- Every natural number up to 2⁵³ is a magnitude. -/
theorem exists_units_eq {k : Nat} (h : k ≤ 9007199254740992) :
    ∃ a : Magnitude, a.units = k * unitsPerOne := by
  rcases Nat.lt_or_eq_of_le h with h | h
  · exact ⟨whole k h, rfl⟩
  · have hk : k = Nat.pow 2 53 := h
    rw [hk]
    exact ⟨⟨_, representable_two_pow_mul (by decide)⟩, rfl⟩

end Magnitude

namespace Double

/-- The double nearest to an integer that is one. -/
theorem ofInt_of_units {n : Int} {a : Magnitude} (ha : a.units = n.natAbs * unitsPerOne) :
    ofInt n = .finite (n < 0) a := by
  rw [ofInt, ofRatio, ← ha, ofUnits_units]

variable {n : Int} (h : n.natAbs < 9007199254740992)

/-- The double nearest to an integer below 2⁵³ is that integer. -/
theorem ofInt_eq : ofInt n = .finite (n < 0) (.whole n.natAbs h) :=
  ofInt_of_units (Magnitude.units_whole h)

include h

/-- It is finite. -/
theorem isFinite_ofInt : (ofInt n).isFinite := by
  rw [ofInt_eq h, isFinite]

/-- It is rounded to itself. -/
theorem round_ofInt : (ofInt n).round = ofInt n := by
  rw [ofInt_eq h, round, Magnitude.roundNat_whole, ← ofInt_eq h, ofInt]

/-- As a signed word it is the integer. -/
theorem toSignedWord_ofInt : (ofInt n).toSignedWord = n := by
  have hlimit : 9007199254740992 < signedWordLimit := by decide
  rw [ofInt_eq h, toSignedWord, toIntWithin, Magnitude.floorNat_whole]
  simp only [decide_eq_true_eq]
  split <;> omega

end Double

/-! ### Doubles that are integers below 2⁵³ -/

namespace Double

variable {x : Double}

/-- A double that is an integer below 2⁵³ is one of the whole magnitudes with a sign. -/
theorem exists_whole_of_isSafeInteger (h : x.isSafeInteger) :
    ∃ (s : Bool) (k : Nat) (hk : k < 9007199254740992), x = .finite s (.whole k hk) := by
  cases x with
  | nan | infinite => cases h
  | finite s a =>
    simp only [isSafeInteger, Magnitude.isInteger, Bool.and_eq_true, beq_iff_eq,
      decide_eq_true_eq] at h
    obtain ⟨hinteger, hle⟩ := h
    have hmax : maxSafeInteger = 9007199254740991 := by decide
    have hk : a.floorNat < 9007199254740992 := by omega
    have hunits : a.units = a.floorNat * unitsPerOne :=
      (Nat.div_mul_cancel (Nat.dvd_of_mod_eq_zero hinteger)).symm
    refine ⟨s, a.floorNat, hk, ?_⟩
    cases a
    simp only [Magnitude.whole, finite.injEq, Magnitude.mk.injEq, true_and]
    exact hunits

/-- Such a double is finite. -/
theorem isFinite_of_isSafeInteger (h : x.isSafeInteger) : x.isFinite := by
  obtain ⟨s, k, hk, rfl⟩ := exists_whole_of_isSafeInteger h
  rfl

/-- A whole magnitude with a sign is read as a signed word. -/
theorem toSignedWord_whole (s : Bool) {k : Nat} (hk : k < 9007199254740992) :
    (finite s (.whole k hk)).toSignedWord = if s then -(k : Int) else k := by
  have hlimit : 9007199254740992 < signedWordLimit := by decide
  rw [toSignedWord, toIntWithin, Magnitude.floorNat_whole]
  split <;> omega

/-- The number, with positive zero for the two zeros. -/
def dropZeroSign (x : Double) : Double := if x.isZero then zero else x

/-- A finite number keeps its sign unless it is zero. -/
theorem dropZeroSign_finite (s : Bool) (a : Magnitude) :
    (finite s a).dropZeroSign = finite (s && a.units ≠ 0) a := by
  by_cases hunits : a.units = 0
  · obtain rfl := Magnitude.eq_zero_of_units hunits
    simp [dropZeroSign, isZero, zero, hunits]
  · simp [dropZeroSign, isZero, hunits]

/-- An integer below 2⁵³ comes back from its signed word, a zero without its sign. -/
theorem ofInt_toSignedWord (h : x.isSafeInteger) : ofInt x.toSignedWord = x.dropZeroSign := by
  obtain ⟨s, k, hk, rfl⟩ := exists_whole_of_isSafeInteger h
  have habs : (if s then -(k : Int) else k).natAbs = k := by split <;> omega
  have hzero : (finite s (.whole k hk)).isZero = decide (k = 0) := by
    have hunits : k * unitsPerOne = 0 ↔ k = 0 :=
      Nat.mul_eq_zero.trans (or_iff_left (Nat.ne_of_gt unitsPerOne_pos))
    simp only [isZero, Magnitude.units_whole, Bool.beq_eq_decide_eq, hunits]
  rw [toSignedWord_whole, ofInt_eq (habs.symm ▸ hk), dropZeroSign, hzero]
  simp only [habs, decide_eq_true_eq]
  by_cases hk0 : k = 0
  · subst hk0
    simp [zero, Magnitude.whole, Magnitude.zero]
  · have hsign : decide ((if s then -(k : Int) else k) < 0) = s := by
      cases s <;> simp
      omega
    rw [if_neg hk0, hsign]

/-- Other doubles are no zeros. -/
theorem dropZeroSign_of_not_isSafeInteger (h : ¬x.isSafeInteger) : x.dropZeroSign = x := by
  refine if_neg fun hzero => h ?_
  cases x with
  | nan | infinite => cases hzero
  | finite s a =>
    have hunits : a.units = 0 := by simpa [isZero] using hzero
    simp [isSafeInteger, Magnitude.isInteger, Magnitude.floorNat, hunits]

/-- A zero without its sign has no sign to lose. -/
theorem dropZeroSign_dropZeroSign (x : Double) : x.dropZeroSign.dropZeroSign = x.dropZeroSign := by
  by_cases hzero : x.isZero
  · have hdropped : x.dropZeroSign = zero := if_pos hzero
    rw [hdropped]
    rfl
  · have hkept : x.dropZeroSign = x := if_neg hzero
    rw [hkept, hkept]

/-- The zeros are finite with and without a sign. -/
theorem isFinite_dropZeroSign (x : Double) : x.dropZeroSign.isFinite = x.isFinite := by
  cases x with
  | nan | infinite => rfl
  | finite s a =>
    rw [dropZeroSign]
    split <;> rfl

/-- The two zeros are equal as numbers. -/
theorem equals_dropZeroSign (h : x.isFinite) : x.dropZeroSign.equals x := by
  cases x with
  | nan | infinite => cases h
  | finite s a =>
    rw [dropZeroSign]
    split
    next hzero =>
      have hunits : a.units = 0 := by simpa [isZero] using hzero
      have hsigned : signedUnits s a = 0 := by cases s <;> simp [signedUnits, hunits]
      have hplus : signedUnits false .zero = 0 := rfl
      simp [zero, equals, order, hsigned, hplus]
    next => simp [equals, order]

end Double

/-! ### Doubles that are natural numbers -/

/-- The number is a natural number; zero may have either sign. -/
def Double.IsNat (x : Double) (n : Nat) : Prop :=
  ∃ (s : Bool) (a : Magnitude), x = .finite s a ∧ a.units = n * unitsPerOne ∧ (s → n = 0)

namespace Double

variable {x : Double} {n : Nat}

/-- A natural number is not below zero. -/
theorem IsNat.atMost_zero (h : x.IsNat n) : atMost 0 x := by
  obtain ⟨s, a, rfl, hunits, hsign⟩ := h
  have hzero : ofNat 0 = .finite false .zero := by
    rw [ofNat, ofRatio, Nat.zero_mul]
    exact ofUnits_units false .zero
  have hsigned : signedUnits s a = a.units := by
    cases s with
    | false => rfl
    | true => simp [signedUnits, hunits, hsign rfl]
  have hle : signedUnits false .zero ≤ signedUnits s a := by
    rw [hsigned]
    exact Int.natCast_nonneg a.units
  change atMost (ofNat 0) _ = true
  rw [hzero, atMost, order]
  -- of the three outcomes only the last one would refuse the number
  cases hcompare : compare (signedUnits false .zero) (signedUnits s a) with
  | lt | eq => rfl
  | gt => exact absurd hle (Int.not_le.2 (Int.compare_eq_gt.1 hcompare))

/-- A natural number within a word is read as itself. -/
theorem IsNat.toWord_eq (h : x.IsNat n) (hword : n < 18446744073709551616) : x.toWord = n := by
  obtain ⟨s, a, rfl, hunits, hsign⟩ := h
  have hlimit : 2 * signedWordLimit = 18446744073709551616 := by decide
  have hfloor : a.floorNat = n := by
    rw [Magnitude.floorNat, hunits, Nat.mul_div_cancel n unitsPerOne_pos]
  rw [toWord, toIntWithin, hfloor, hlimit]
  cases s with
  | false =>
    simp only [Bool.false_eq_true, ↓reduceIte]
    omega
  | true =>
    -- only zero has a minus sign, and then no sign is left
    obtain rfl : n = 0 := hsign rfl
    decide

/-- The natural numbers below 2⁵³ are the doubles nearest to them. -/
theorem isNat_ofNat (h : n < 9007199254740992) : (ofNat n).IsNat n :=
  ⟨false, .whole n h, ofUnits_units false (.whole n h), rfl, fun hs => absurd hs Bool.false_ne_true⟩

end Double

end Gleaner
