import Gleaner.Proofs.Number.Remainder
import Gleaner.Proofs.Numeral.Patterns
import Gleaner.Proofs.Numeral.Places
import Mathlib.Data.List.Infix

/-!
# Numbers in front of a unit

A number with a unit is first divided by the unit that is chosen for it, which leaves it below the
next unit if there is one. Only then it is rounded to the places of the pattern. So it is written
below the next unit unless it is at most half of the last place away from it: such a number is
written as the next unit, but with the smaller one.

## Main definitions

* `Magnitude.IsClearlyBelow`: the magnitude is more than half of the last place below a bound.
* `Numeral.Suffix.Scales`: the suffixes with units, with the ratio of neighbouring units and the
  largest one.
* `Numeral.Suffix.Descends`: letters for powers of ten that go down by thousands.
* `Numeral.writtenValue?`: the number that is written with commas or without them.

## Main results

* `Numeral.exists_scaleDown_eq`: a number is divided until it is below the base.
* `Numeral.Suffix.Descends.exists_abbreviated_eq`: the letter that leaves less than a thousand.
* `Numeral.Suffix.Scales.exists_split_eq`: in front of its unit a number is below the next unit.
* `Numeral.exists_scales_ofPattern`: patterns with the marker of a unit.
* `Numeral.Places.exists_writtenValue?_eq`: where rounding reaches a bound.
* `Numeral.writtenValue?_number_lt_iff`: the numbers that are written below the next unit.
-/

namespace Gleaner

variable {a b : Magnitude} {k n base : Nat} {pattern : List Char}

/-! ### Division by a unit -/

/-- A natural number is at most a magnitude when its units are. -/
theorem Double.atMost_finite (hk : k < 9007199254740992) (a : Magnitude) :
    (ofNat k).atMost (.finite false a) = decide (k * unitsPerOne ≤ a.units) := by
  have hwhole : signedUnits false (.whole k hk) = ((k * unitsPerOne : Nat) : Int) := rfl
  have hunits : signedUnits false a = (a.units : Int) := rfl
  rw [ofNat_eq hk, atMost, order, hwhole, hunits]
  -- the units of a natural number are too many to be computed
  generalize k * unitsPerOne = n
  rcases Nat.lt_trichotomy n a.units with hlt | heq | hgt
  · rw [Int.compare_eq_lt.2 (by omega), decide_eq_true hlt.le]
  · rw [Int.compare_eq_eq.2 (by omega), decide_eq_true heq.le]
  · rw [Int.compare_eq_gt.2 (by omega), decide_eq_false hgt.not_ge]

/-- A number below a multiple of a natural number is below it after the division. -/
theorem Magnitude.units_divNat_lt (hn : 0 < n) (hbase : 0 < base)
    (hsmall : base * n ≤ 9007199254740992) (h : a.units < base * n * unitsPerOne) :
    (a.divNat n hn).units < base * unitsPerOne := by
  have hlarge : 9007199254740992 < base * unitsPerOne :=
    Nat.lt_of_lt_of_le lt_unitsPerOne (Nat.le_mul_of_pos_left _ hbase)
  have hrange : a.units < 9007199254740992 * unitsPerOne :=
    Nat.lt_of_lt_of_le h (Nat.mul_le_mul_right _ hsmall)
  have hquotient : (a.divNat n hn).units = roundUnits a.units n := rfl
  -- the base is a magnitude, so the quotient is below it before it is rounded
  rw [hquotient, roundUnits_lt_iff a.representable hn (dvd_mul_unitsPerOne hrange base) hlarge,
    Nat.mul_right_comm]
  exact h

/-- The magnitude is more than half of the last of so many places below a bound. -/
def Magnitude.IsClearlyBelow (a : Magnitude) (bound places : Nat) : Prop :=
  2 * (a.units * 10 ^ places) + unitsPerOne < 2 * (bound * 10 ^ places * unitsPerOne)

instance (a : Magnitude) (bound places : Nat) : Decidable (a.IsClearlyBelow bound places) :=
  inferInstanceAs (Decidable (_ < _))

namespace Numeral

/-- **Division by the base.** A number is divided until it is below the base or no step is left. -/
theorem exists_scaleDown_eq (hpos : 0 < base) (hsmall : base < 9007199254740992) (steps : Nat)
    (a : Magnitude) :
    ∃ b n, scaleDown (.ofNat base) steps (.finite false a) = (.finite false b, n) ∧ n ≤ steps ∧
      (n < steps → b.units < base * unitsPerOne) := by
  -- the loop stops below the base or with all steps taken, whatever number it is started with
  induction steps generalizing a with
  | zero => exact ⟨a, 0, rfl, le_rfl, fun h => absurd h (Nat.lt_irrefl 0)⟩
  | succ steps ih =>
    rw [scaleDown, Double.atMost_finite hsmall]
    by_cases hle : base * unitsPerOne ≤ a.units
    · obtain ⟨b, n, hscaled, hsteps, hbelow⟩ := ih (a.divNat base hpos)
      rw [if_pos (decide_eq_true hle), Double.finite_div_ofNat a hpos hsmall, hscaled]
      exact ⟨b, n + 1, rfl, Nat.succ_le_succ hsteps, fun h => hbelow (Nat.lt_of_succ_lt_succ h)⟩
    · rw [if_neg (by simpa using hle)]
      exact ⟨a, 0, rfl, Nat.zero_le _, fun _ => Nat.lt_of_not_le hle⟩

namespace Suffix

/-- The suffixes with units: how many of one unit are the next one, and the largest unit. -/
inductive Scales : Suffix → Nat → List Char → Prop where
  /-- Byte units by powers of 1024. -/
  | binaryBytes : Scales .binaryBytes 1024 "YiB".toList
  /-- Byte units by powers of 1000. -/
  | decimalBytes : Scales .decimalBytes 1000 "YB".toList
  /-- Letters for powers of a thousand. -/
  | abbreviation : Scales .abbreviation 1000 "t".toList

/-- Letters for powers of ten below a bound: each power is a thousandth of the bound before it, and
below the last bound, a thousand, there is no letter. -/
inductive Descends : Nat → List (Char × Nat) → Prop where
  /-- There is no letter below a thousand. -/
  | nil : Descends 3 []
  /-- One more letter in front. -/
  | cons {letter : Char} {power : Nat} {letters : List (Char × Nat)} :
    Descends power letters → Descends (power + 3) ((letter, power) :: letters)

/-- A number divided by the power of ten of a letter, and the letter, if there is one. -/
def abbreviated (x : Double) : Option (Char × Nat) → Double × List Char
  | some (letter, power) => (x / .ofNat (Nat.pow 10 power), [letter])
  | .none => (x, [])

/-- Whether the power of ten of a letter is at most a number. -/
def reaches (x : Double) (entry : Char × Nat) : Bool :=
  (Double.ofNat (Nat.pow 10 entry.2)).atMost x

/-- The letter of the first power that is at most the number is taken, from the largest on. -/
theorem split_abbreviation (x : Double) :
    abbreviation.split x = abbreviated x (abbreviations.reverse.find? (reaches x)) := by
  unfold split
  dsimp only
  split
  next letter power hfound =>
    have hreached : abbreviations.reverse.find? (reaches x) = some (letter, power) := hfound
    rw [hreached]
    rfl
  next hmissing =>
    have hnone : abbreviations.reverse.find? (reaches x) = Option.none := hmissing
    rw [hnone]
    rfl

/-- The powers of ten that have a letter are in range. -/
theorem pow_ten_lt {power : Nat} (h : power ≤ 12) : 10 ^ power < 9007199254740992 :=
  Nat.lt_of_le_of_lt (Nat.pow_le_pow_right (by decide) h) (by decide)

/-- Powers of ten are compared with a number by its units. -/
theorem reaches_iff {power : Nat} (h : power ≤ 12) (letter : Char) (a : Magnitude) :
    reaches (.finite false a) (letter, power) ↔ 10 ^ power * unitsPerOne ≤ a.units := by
  have hatMost : reaches (.finite false a) (letter, power) =
      decide (10 ^ power * unitsPerOne ≤ a.units) := Double.atMost_finite (pow_ten_lt h) a
  rw [hatMost, decide_eq_true_iff]

/-- **Choice of a letter.** A number below the bound of the letters is divided by the power of one
of them, or by none, so that it is below a thousand. -/
theorem Descends.exists_abbreviated_eq {top : Nat} {letters : List (Char × Nat)}
    (h : Descends top letters) (htop : top ≤ 15) (hbelow : a.units < 10 ^ top * unitsPerOne) :
    ∃ b unit, abbreviated (.finite false a) (letters.find? (reaches (.finite false a))) =
        (.finite false b, unit) ∧ b.units < 1000 * unitsPerOne := by
  have hthousand : 10 ^ 3 = 1000 := by decide
  induction h with
  | nil =>
    rw [hthousand] at hbelow
    exact ⟨a, [], rfl, hbelow⟩
  | @cons letter power letters _ ih =>
    have hpower : power ≤ 12 := by omega
    have hpos : 0 < 10 ^ power := Nat.pow_pos (by decide)
    by_cases hle : 10 ^ power * unitsPerOne ≤ a.units
    · have hsmall : 1000 * 10 ^ power ≤ 9007199254740992 :=
        Nat.le_trans (Nat.mul_le_mul_left 1000 (Nat.pow_le_pow_right (by decide) hpower))
          (by decide)
      -- the bound is a thousand times the power that the number is divided by
      rw [Nat.pow_add, Nat.mul_comm (10 ^ power), hthousand] at hbelow
      rw [List.find?_cons_of_pos ((reaches_iff hpower letter a).2 hle)]
      exact ⟨a.divNat (10 ^ power) hpos, [letter],
        Prod.ext (Double.finite_div_ofNat a hpos (pow_ten_lt hpower)) rfl,
        Magnitude.units_divNat_lt hpos (by decide) hsmall hbelow⟩
    · -- the power is the bound of the letters after it
      rw [List.find?_cons_of_neg (hle ∘ (reaches_iff hpower letter a).1)]
      exact ih (by omega) (Nat.lt_of_not_le hle)

/-- A number in front of any letter but the largest one is below a thousand. -/
theorem exists_split_abbreviation (a : Magnitude) :
    ∃ b unit, abbreviation.split (.finite false a) = (.finite false b, unit) ∧
      (unit ≠ ['t'] → b.units < 1000 * unitsPerOne) := by
  have hreverse : abbreviations.reverse = ('t', 12) :: [('b', 9), ('m', 6), ('k', 3)] := rfl
  have hdescends : Descends 12 [('b', 9), ('m', 6), ('k', 3)] := .cons (.cons (.cons .nil))
  rw [split_abbreviation, hreverse]
  by_cases hle : 10 ^ 12 * unitsPerOne ≤ a.units
  · rw [List.find?_cons_of_pos ((reaches_iff le_rfl 't' a).2 hle)]
    have hpos : 0 < 10 ^ 12 := by decide
    exact ⟨a.divNat (10 ^ 12) hpos, ['t'],
      Prod.ext (Double.finite_div_ofNat a hpos (pow_ten_lt le_rfl)) rfl, fun h => absurd rfl h⟩
  · rw [List.find?_cons_of_neg (hle ∘ (reaches_iff le_rfl 't' a).1)]
    obtain ⟨b, unit, hscaled, hbelow⟩ :=
      hdescends.exists_abbreviated_eq (by decide) (Nat.lt_of_not_le hle)
    exact ⟨b, unit, hscaled, fun _ => hbelow⟩

/-- The number in front of a byte unit is below the base unless all steps are taken. -/
theorem exists_split_bytes {suffix : Suffix} {units : List String} (hpos : 0 < base)
    (hsmall : base < 9007199254740992)
    (hsplit : ∀ x, suffix.split x = ((scaleDown (.ofNat base) 8 x).1,
      (units.getD (scaleDown (.ofNat base) 8 x).2 "").toList)) (a : Magnitude) :
    ∃ b unit, suffix.split (.finite false a) = (.finite false b, unit) ∧
      (unit ≠ (units.getD 8 "").toList → b.units < base * unitsPerOne) := by
  obtain ⟨b, n, hscaled, hsteps, hbelow⟩ := exists_scaleDown_eq hpos hsmall 8 a
  refine ⟨b, (units.getD n "").toList, by rw [hsplit, hscaled], fun hunit => hbelow ?_⟩
  -- all steps are taken only to the largest unit
  refine Nat.lt_of_le_of_ne hsteps ?_
  rintro rfl
  exact hunit rfl

/-- **In front of a unit.** A number in front of any but the largest unit is below the next one. -/
theorem Scales.exists_split_eq {suffix : Suffix} {largest : List Char}
    (h : suffix.Scales base largest) (a : Magnitude) :
    ∃ b unit, suffix.split (.finite false a) = (.finite false b, unit) ∧
      (unit ≠ largest → b.units < base * unitsPerOne) := by
  cases h with
  | binaryBytes =>
    have hbase : (1024 : Double) = .ofNat 1024 := rfl
    have hsplit (x : Double) : Suffix.binaryBytes.split x = ((scaleDown (.ofNat 1024) 8 x).1,
        (Numeral.binaryBytes.getD (scaleDown (.ofNat 1024) 8 x).2 "").toList) := by
      unfold split
      rw [← hbase]
    exact exists_split_bytes (by decide) (by decide) hsplit a
  | decimalBytes =>
    have hbase : (1000 : Double) = .ofNat 1000 := rfl
    have hsplit (x : Double) : Suffix.decimalBytes.split x = ((scaleDown (.ofNat 1000) 8 x).1,
        (Numeral.decimalBytes.getD (scaleDown (.ofNat 1000) 8 x).2 "").toList) := by
      unfold split
      rw [← hbase]
    exact exists_split_bytes (by decide) (by decide) hsplit a
  | abbreviation => exact exists_split_abbreviation a

end Suffix

/-! ### Patterns with a unit -/

/-- The suffix of a pattern is looked for after signs, parentheses and the currency sign are taken
out. What has none of these and no space in it still occurs there. -/
theorem exists_suffix_ofPattern (pattern : List Char) :
    ∃ rest, (Style.ofPattern pattern).suffix = (takeSuffix rest).1 ∧ rest.Sublist pattern ∧
      ∀ marker : List Char, (∀ c ∈ marker, c ∉ "()+$ ".toList) → marker <:+: pattern →
        marker <:+: rest := by
  let bare := pattern.filter fun c => c ≠ '(' && c ≠ ')' && c ≠ '+'
  have hsublist : bare.Sublist pattern := List.filter_sublist
  have hbare (marker : List Char) (hmarks : ∀ c ∈ marker, c ∉ "()+$ ".toList)
      (h : marker <:+: pattern) : marker <:+: bare := by
    have hkept : marker.filter (fun c => c ≠ '(' && c ≠ ')' && c ≠ '+') = marker := by
      refine List.filter_eq_self.2 fun c hc => ?_
      have hmark : ¬c = '(' ∧ ¬c = ')' ∧ ¬c = '+' ∧ ¬c = '$' ∧ ¬c = ' ' := by
        simpa using hmarks c hc
      simp [hmark]
    rw [← hkept]
    exact h.filter _
  unfold Style.ofPattern
  dsimp only
  cases htaken : takeMarker? ['$'] bare with
  | none => exact ⟨bare, rfl, hsublist, hbare⟩
  | some m =>
    refine ⟨m.rest, rfl, (rest_sublist htaken).trans hsublist, fun marker hmarks h => ?_⟩
    have hdollar : '$' ∉ marker := fun hmem => hmarks _ hmem (by decide)
    have hspace : ' ' ∉ marker := fun hmem => hmarks _ hmem (by decide)
    exact infix_rest htaken hdollar hspace (hbare marker hmarks h)

/-- The marker of a unit is found where there is no percent sign. -/
theorem exists_scales_takeSuffix {rest : List Char} (hpercent : '%' ∉ rest)
    (hmarker : 'a' ∈ rest ∨ 'b' ∈ rest) :
    ∃ base largest, (takeSuffix rest).1.Scales base largest ∧
      ("ib".toList <:+: rest → base = 1024) ∧ ('i' ∉ rest → base = 1000) := by
  have htaken : takeMarker? "%".toList rest = none := takeMarker?_of_not_mem hpercent []
  rw [takeSuffix, suffixMarkers]
  simp only [List.findSome?_cons, htaken, Option.map_none]
  cases hbinary : takeMarker? "ib".toList rest with
  | some m =>
    refine ⟨1024, _, .binaryBytes, fun _ => rfl, fun hmissing => ?_⟩
    have hnone : takeMarker? "ib".toList rest = none := takeMarker?_of_not_mem hmissing ['b']
    rw [hbinary] at hnone
    cases hnone
  | none =>
    have hnotBinary : ¬"ib".toList <:+: rest := by
      intro hoccurs
      obtain ⟨m, hm⟩ := exists_takeMarker?_eq_some hoccurs
      rw [hbinary] at hm
      cases hm
    by_cases hb : 'b' ∈ rest
    · obtain ⟨m, hdecimal⟩ := exists_takeMarker?_eq_some ((List.singleton_infix_iff _ _).2 hb)
      have htaken : takeMarker? "b".toList rest = some m := hdecimal
      simp only [htaken]
      exact ⟨1000, _, .decimalBytes, fun hoccurs => absurd hoccurs hnotBinary, fun _ => rfl⟩
    · obtain ⟨m, habbreviation⟩ :=
        exists_takeMarker?_eq_some ((List.singleton_infix_iff _ _).2 (hmarker.resolve_right hb))
      have hmissing : takeMarker? "b".toList rest = none := takeMarker?_of_not_mem hb []
      have htaken : takeMarker? "a".toList rest = some m := habbreviation
      simp only [hmissing, htaken]
      exact ⟨1000, _, .abbreviation, fun hoccurs => absurd hoccurs hnotBinary, fun _ => rfl⟩

/-- **The suffix of a pattern.** A pattern with the marker of a unit and without a percent sign
scales numbers, by 1024 for binary units and by a thousand for all others. -/
theorem exists_scales_ofPattern (hpercent : '%' ∉ pattern)
    (hmarker : 'a' ∈ pattern ∨ 'b' ∈ pattern) :
    ∃ base largest, (Style.ofPattern pattern).suffix.Scales base largest ∧
      ("ib".toList <:+: pattern → base = 1024) ∧ ('i' ∉ pattern → base = 1000) := by
  obtain ⟨rest, hsuffix, hsublist, hoccurs⟩ := exists_suffix_ofPattern pattern
  have hkept {c : Char} (hc : ∀ d ∈ [c], d ∉ "()+$ ".toList) (h : c ∈ pattern) : c ∈ rest :=
    (List.singleton_infix_iff _ _).1 (hoccurs [c] hc ((List.singleton_infix_iff _ _).2 h))
  obtain ⟨base, largest, hscales, hbinary, hdecimal⟩ :=
    exists_scales_takeSuffix (fun h => hpercent (hsublist.subset h))
      (hmarker.imp (hkept (by simp)) (hkept (by simp)))
  rw [hsuffix]
  exact ⟨base, largest, hscales, fun h => hbinary (hoccurs _ (by simp) h),
    fun h => hdecimal fun hmem => h (hsublist.subset hmem)⟩

/-- A pattern does not ask for more places than it allows. -/
theorem least_le_most_ofPattern (pattern : List Char) :
    (Style.ofPattern pattern).places.least ≤ (Style.ofPattern pattern).places.most :=
  Places.least_le_most_placesOf _

/-! ### Rounding to places -/

/-- The number that is written with commas or without them. -/
def writtenValue? (cs : List Char) : Option ℚ :=
  (Decimal.read? (cs.filter (· ≠ ','))).map Decimal.value

/-- **Rounding below a bound.** A number below an even bound is not written above it. It is written
below it just when it is more than half of the last place away from it. -/
theorem Places.exists_writtenValue?_eq {p : Places} (hp : p.least ≤ p.most) (heven : base % 2 = 0)
    (a : Magnitude) :
    ∃ q, writtenValue? (p.write (.finite false a)) = some q ∧
      (a.units < base * unitsPerOne → q ≤ base ∧ (q < base ↔ a.IsClearlyBelow base p.most)) := by
  obtain ⟨d, hread, hvalue⟩ := exists_read?_write_eq hp a
  refine ⟨d.value, by rw [writtenValue?, hread, Option.map_some], fun hbelow => ?_⟩
  have hpow : (0 : ℚ) < 10 ^ p.most := pow_pos (by norm_num) _
  -- both are multiples of the last place, and the bound is an even one, to which ties are rounded
  rw [hvalue]
  constructor
  · have hscaled : a.units * 10 ^ p.most ≤ base * 10 ^ p.most * unitsPerOne := by
      rw [Nat.mul_right_comm]
      exact Nat.mul_le_mul_right _ hbelow.le
    rw [div_le_iff₀ hpow]
    exact_mod_cast Magnitude.nearestDiv_le_of_le unitsPerOne_pos hscaled
  · have hbound : base * 10 ^ p.most % 2 = 0 := by
      rw [Nat.mul_mod, heven, Nat.zero_mul, Nat.zero_mod]
    rw [div_lt_iff₀ hpow, Magnitude.IsClearlyBelow,
      ← Magnitude.nearestDiv_lt_iff_of_even unitsPerOne_pos hbound]
    exact_mod_cast Iff.rfl

/-- The ratio of neighbouring units is even. -/
theorem Suffix.Scales.even {suffix : Suffix} {largest : List Char}
    (h : suffix.Scales base largest) : base % 2 = 0 := by
  cases h <;> rfl

/-- **Numbers in front of a unit.** By a pattern with the marker of a unit every number is written
with a unit. In front of any but the largest one it is not written above the next unit, and it is
written below this just when it is more than half of the last place away from it. -/
theorem writtenValue?_number_lt_iff (hcolon : ':' ∉ pattern) (hpercent : '%' ∉ pattern)
    (hmarker : 'a' ∈ pattern ∨ 'b' ∈ pattern) (s : Bool) (a : Magnitude) :
    write (.finite s a) pattern =
      ((Style.ofPattern pattern).sign (.finite s a)).around
        ((Style.ofPattern pattern).body (.finite s a)) ∧
    ∃ base largest, (Style.ofPattern pattern).suffix.Scales base largest ∧
      ("ib".toList <:+: pattern → base = 1024) ∧ ('i' ∉ pattern → base = 1000) ∧
      ∃ b unit q,
        (Style.ofPattern pattern).suffix.split (Double.finite s a).abs = (.finite false b, unit) ∧
        writtenValue? ((Style.ofPattern pattern).number (.finite s a)) = some q ∧
        (unit ≠ largest → q ≤ base ∧
          (q < base ↔ b.IsClearlyBelow base (Style.ofPattern pattern).places.most)) := by
  have hcontains : pattern.contains ':' = false := by simpa using hcolon
  have habs : (Double.finite s a).abs = .finite false a := rfl
  constructor
  · rw [write, hcontains, if_neg Bool.false_ne_true, Style.write_eq]
  obtain ⟨base, largest, hscales, hbinary, hdecimal⟩ := exists_scales_ofPattern hpercent hmarker
  obtain ⟨b, unit, hsplit, hbelow⟩ := hscales.exists_split_eq a
  obtain ⟨q, hq, hrounded⟩ :=
    Places.exists_writtenValue?_eq (least_le_most_ofPattern pattern) hscales.even b
  refine ⟨base, largest, hscales, hbinary, hdecimal, b, unit, q, hsplit, ?_,
    fun hunit => hrounded (hbelow hunit)⟩
  rw [Style.number, habs, hsplit]
  exact hq

/-- One sixteenth less than 1024. -/
def almost1024 : Magnitude := ⟨16383 * Nat.pow 2 1070, by decide +kernel⟩

/-- A number of kibibytes that is far enough below a mebibyte for one place. -/
theorem writtenValue?_number_lt_almostAMebibyte :
    ':' ∉ "0,0.0 ib".toList ∧ '%' ∉ "0,0.0 ib".toList ∧ 'b' ∈ "0,0.0 ib".toList ∧
      write (.finite true (.whole 1048512 (by decide))) "0,0.0 ib".toList =
        "-1,023.9 KiB".toList ∧
      ∃ q, writtenValue? ((Style.ofPattern "0,0.0 ib".toList).number
        (.finite true (.whole 1048512 (by decide)))) = some q ∧ q < 1024 := by
  have hcolon : ':' ∉ "0,0.0 ib".toList := by decide
  have hpercent : '%' ∉ "0,0.0 ib".toList := by decide
  have hmarker : 'b' ∈ "0,0.0 ib".toList := by decide
  refine ⟨hcolon, hpercent, hmarker, by decide +kernel, ?_⟩
  obtain ⟨-, base, largest, hscales, -, -, b, unit, q, hsplit, hq, hrounded⟩ :=
    writtenValue?_number_lt_iff hcolon hpercent (.inr hmarker) true (.whole 1048512 (by decide))
  have hsuffix : (Style.ofPattern "0,0.0 ib".toList).suffix = .binaryBytes := by decide +kernel
  have hscaled : Suffix.binaryBytes.split (Double.finite true (.whole 1048512 (by decide))).abs =
      (.finite false almost1024, "KiB".toList) := by decide +kernel
  rw [hsuffix] at hscales hsplit
  rw [hscaled] at hsplit
  obtain ⟨hnumber, rfl⟩ := Prod.mk.inj hsplit
  obtain rfl := (Double.finite.inj hnumber).2
  cases hscales
  exact ⟨q, hq, (hrounded (by decide)).2.2 (by decide +kernel)⟩

/-- A little less than a thousand bytes is written as a thousand, but in bytes. -/
theorem not_writtenValue?_number_lt_almostAThousand :
    ':' ∉ "0b".toList ∧ '%' ∉ "0b".toList ∧ 'b' ∈ "0b".toList ∧
      write (.ofRatio false 9999 10) "0b".toList = "1000B".toList ∧
      ((Style.ofPattern "0b".toList).suffix.split (.ofRatio false 9999 10)).2 = "B".toList ∧
      ∃ q, writtenValue? ((Style.ofPattern "0b".toList).number (.ofRatio false 9999 10)) = some q ∧
        ¬q < 1000 := by
  have hnumber : (Style.ofPattern "0b".toList).number (.ofRatio false 9999 10) =
      "1000".toList := by decide +kernel
  have hread : Decimal.read? ("1000".toList.filter (· ≠ ',')) = some ⟨1000, 0⟩ := by decide +kernel
  refine ⟨by decide, by decide, by decide, by decide +kernel, by decide +kernel, 1000, ?_,
    lt_irrefl _⟩
  rw [hnumber, writtenValue?, hread, Option.map_some, Decimal.value]
  norm_num

end Numeral

end Gleaner
