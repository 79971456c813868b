import Gleaner.Proofs.Numeral.Durations
import Gleaner.Proofs.Numeral.Patterns
import Gleaner.Proofs.Numeral.Places

/-!
# Ordinal numbers

An ordinal number is written as digits with an ending, and the two come from the number apart. Both
are those of the nearest integer, but where two integers are equally near the digits are those of
the even one, and the ending is that of the larger one. So the ending may not belong to the digits
half above an even number: two and a half is written with the digit of two and the ending of three.

## Main definitions

* `Magnitude.nearestNat`: the nearest integer, and the even one of two.
* `Magnitude.IsHalfAboveEven`: numbers half above an even one.
* `Numeral.ordinalPattern`: the patterns of ordinal numbers.
* `Numeral.IsOrdinal`: digits with their own ending.

## Main results

* `Magnitude.roundNat_of_isHalfAboveEven`: where the two nearest integers differ.
* `Numeral.ordinalEnding_eq_succ_iff`: even numbers with the ending of the next number.
* `Numeral.write_ordinalPattern`: the digits and the ending that are written.
* `Numeral.isOrdinal_around_iff`: the ending that belongs to digits.
* `Numeral.isOrdinal_write_iff`: the numbers that are written with their own ending.
-/

namespace Gleaner

variable {a : Magnitude} {grouped negative : Bool} {m n k : Nat}

/-! ### The nearest integers -/

/-- The nearest integer, a half to the even one. -/
def Magnitude.nearestNat (a : Magnitude) : Nat := nearestDiv a.units unitsPerOne

/-- The magnitude is one half more than an even number. -/
def Magnitude.IsHalfAboveEven (a : Magnitude) : Prop :=
  2 * (a.units % unitsPerOne) = unitsPerOne ∧ a.floorNat % 2 = 0

instance (a : Magnitude) : Decidable a.IsHalfAboveEven :=
  inferInstanceAs (Decidable (_ ∧ _))

namespace Magnitude

/-- The nearest integer, the larger one of two, by what is left above the integer part. -/
theorem roundNat_eq_ite (a : Magnitude) :
    a.roundNat = if 2 * (a.units % unitsPerOne) < unitsPerOne then a.floorNat
      else a.floorNat + 1 := by
  have hpos := unitsPerOne_pos
  have hrest := Nat.mod_lt a.units hpos
  have hsplit : 2 * a.units + unitsPerOne =
      2 * unitsPerOne * a.floorNat + (2 * (a.units % unitsPerOne) + unitsPerOne) := by
    rw [floorNat, Nat.mul_assoc, ← Nat.add_assoc, ← Nat.mul_add, Nat.div_add_mod]
  rw [roundNat, hsplit, Nat.mul_add_div (by omega)]
  split
  next hbelow => rw [Nat.div_eq_of_lt (by omega), Nat.add_zero]
  next habove => rw [Nat.div_eq_of_lt_le (k := 1) (by omega) (by omega)]

/-- The nearest integer, the even one of two, by what is left above the integer part. -/
theorem nearestNat_eq_ite (a : Magnitude) :
    a.nearestNat = if 2 * (a.units % unitsPerOne) < unitsPerOne then a.floorNat
      else if unitsPerOne < 2 * (a.units % unitsPerOne) then a.floorNat + 1
      else a.floorNat + a.floorNat % 2 := rfl

/-- Half above an even number this number is the nearest one that is even. -/
theorem nearestNat_of_isHalfAboveEven (h : a.IsHalfAboveEven) : a.nearestNat = a.floorNat := by
  obtain ⟨hhalf, heven⟩ := h
  rw [nearestNat_eq_ite, hhalf, if_neg (Nat.lt_irrefl _), if_neg (Nat.lt_irrefl _), heven,
    Nat.add_zero]

/-- Half above an even number the next number is the nearest one that is larger. -/
theorem roundNat_of_isHalfAboveEven (h : a.IsHalfAboveEven) :
    a.roundNat = a.nearestNat + 1 := by
  rw [nearestNat_of_isHalfAboveEven h, roundNat_eq_ite, if_neg h.1.not_lt]

/-- Everywhere else the nearest integers are the same. -/
theorem roundNat_of_not_isHalfAboveEven (h : ¬a.IsHalfAboveEven) : a.roundNat = a.nearestNat := by
  rw [roundNat_eq_ite, nearestNat_eq_ite]
  rcases Nat.lt_trichotomy (2 * (a.units % unitsPerOne)) unitsPerOne with hlt | heq | hgt
  · rw [if_pos hlt, if_pos hlt]
  · have hodd : a.floorNat % 2 = 1 := Nat.mod_two_ne_zero.1 fun heven => h ⟨heq, heven⟩
    rw [if_neg heq.not_lt, if_neg heq.not_lt, if_neg heq.not_gt, hodd]
  · rw [if_neg hgt.not_gt, if_neg hgt.not_gt, if_pos hgt]

/-- The nearest integer of a number below 2⁵³. -/
theorem roundNat_le (h : a.floorNat < 9007199254740992) : a.roundNat ≤ 9007199254740992 := by
  rw [roundNat_eq_ite]
  split <;> omega

end Magnitude

namespace Numeral

/-! ### Endings -/

/-- The ending depends on the last two digits. -/
theorem ordinalEnding_mod (n : Nat) : ordinalEnding (n % 100) = ordinalEnding n := by
  have hlast : n % 100 % 10 = n % 10 := Nat.mod_mod_of_dvd n (by decide)
  simp only [ordinalEnding, Nat.mod_mod, hlast]

/-- The even numbers that have the ending of the next number. -/
theorem ordinalEnding_eq_succ_iff (heven : n % 2 = 0) :
    ordinalEnding n = ordinalEnding (n + 1) ↔
      ¬((n % 10 = 0 ∨ n % 10 = 2) ∧ n % 100 ≠ 10 ∧ n % 100 ≠ 12) := by
  have hall : ∀ r < 100, r % 2 = 0 → (ordinalEnding r = ordinalEnding (r + 1) ↔
      ¬((r % 10 = 0 ∨ r % 10 = 2) ∧ r ≠ 10 ∧ r ≠ 12)) := by decide
  -- neither the ending nor the step to the next number leaves the last two digits of an even one
  have hrest := hall (n % 100) (Nat.mod_lt n (by decide)) (by omega)
  have hnext : (n + 1) % 100 = n % 100 + 1 := by omega
  rw [Nat.mod_mod_of_dvd n (by decide), ← hnext, ordinalEnding_mod, ordinalEnding_mod] at hrest
  exact hrest

/-! ### Written ordinal numbers -/

/-- The patterns of ordinal numbers, with groups of thousands or without them. -/
def ordinalPattern (grouped : Bool) : List Char :=
  if grouped then "0,0o".toList else "0o".toList

/-- A text that is a number with the ending of this number after a minus or without one. -/
def IsOrdinal (grouped : Bool) (cs : List Char) : Prop :=
  ∃ negative m, cs = (minusIf negative).around (wholeDigits grouped m ++ (ordinalEnding m).toList)

/-- The style of such a pattern. -/
theorem ofPattern_ordinalPattern (grouped : Bool) :
    Style.ofPattern (ordinalPattern grouped) =
      ⟨false, false, none, .ordinal, false, ⟨grouped, 0, 0⟩⟩ := by
  cases grouped with
  | false => exact WholePattern.ofPattern_text ⟨false, .ordinal, none, .none⟩
  | true => exact WholePattern.ofPattern_text ⟨true, .ordinal, none, .none⟩

/-- Without places the nearest integer is written. -/
theorem Places.write_whole (grouped : Bool) (a : Magnitude) :
    (⟨grouped, 0, 0⟩ : Places).write (.finite false a) = wholeDigits grouped a.nearestNat := by
  have hfixed : fixedText (.finite false a) 0 = digits a.nearestNat ++ pointed [] := by
    rw [Magnitude.nearestNat, ← Nat.mul_one a.units]
    exact (List.append_nil _).symm
  rw [Places.write_of_fixedText ⟨grouped, 0, 0⟩ (fun _ => isDigit_of_mem_digits) hfixed]
  exact List.append_nil _

/-- The ending is that of the nearest integer, the larger one of two. -/
theorem split_ordinal (h : a.floorNat < 9007199254740992) :
    Suffix.ordinal.split (.finite false a) =
      (.finite false a, (ordinalEnding a.roundNat).toList) := by
  have hle := Magnitude.roundNat_le h
  have hword : a.roundNat < 18446744073709551616 := Nat.lt_of_le_of_lt hle (by decide)
  obtain ⟨b, hb⟩ := Magnitude.exists_units_eq hle
  have hround : (Double.finite false a).round = .ofNat a.roundNat := rfl
  have hnat : (Double.ofNat a.roundNat).IsNat a.roundNat :=
    ⟨false, b, Double.ofNat_of_units hb, hb, fun hs => absurd hs Bool.false_ne_true⟩
  have hsplit (x : Double) :
      Suffix.ordinal.split x = (x, (ordinalEnding x.round.toWord).toList) := rfl
  rw [hsplit, hround, hnat.toWord_eq hword]

/-- **Writing an ordinal number.** The digits are those of the nearest integer, the even one of two,
and the ending is that of the nearest integer, the larger one of two. -/
theorem write_ordinalPattern (h : a.floorNat < 9007199254740992) (s grouped : Bool) :
    write (.finite s a) (ordinalPattern grouped) =
      (minusIf ((Double.finite s a).less 0 && decide (a.nearestNat ≠ 0))).around
        (wholeDigits grouped a.nearestNat ++ (ordinalEnding a.roundNat).toList) := by
  have hcolon : (ordinalPattern grouped).contains ':' = false := by cases grouped <;> rfl
  have habs : (Double.finite s a).abs = .finite false a := rfl
  have hshows : showsNonzero (wholeDigits grouped a.nearestNat) = decide (a.nearestNat ≠ 0) :=
    Bool.eq_iff_iff.2 ((showsNonzero_wholeDigits _ _).trans decide_eq_true_iff.symm)
  rw [write, hcolon, if_neg Bool.false_ne_true, ofPattern_ordinalPattern, Style.write_eq]
  simp only [Style.sign, Style.body, Style.number, Style.ending, habs, split_ordinal h,
    Places.write_whole, hshows, Bool.false_and, Bool.false_eq_true, if_false]
  rfl

/-- Digits with an ending are taken apart by their characters. -/
theorem filter_around_ordinal {p : Char → Bool} (hminus : p '-' = false) (negative : Bool)
    (cs ending : List Char) :
    ((minusIf negative).around (cs ++ ending)).filter p = cs.filter p ++ ending.filter p := by
  cases negative <;> simp [minusIf, Sign.around, hminus]

/-- Whether a character belongs neither to the digits nor to the sign. -/
def isLetter (c : Char) : Bool := !isDigit c && c ≠ ',' && c ≠ '-'

/-- There are no letters among digits. -/
theorem filter_isLetter_wholeDigits (grouped : Bool) (k : Nat) :
    (wholeDigits grouped k).filter isLetter = [] := by
  refine List.filter_eq_nil_iff.2 fun c hc => ?_
  rcases mem_wholeDigits hc with hdigit | rfl
  · simp [isLetter, hdigit]
  · decide

/-- **The ending of digits.** Digits with an ending are an ordinal number just when it is the
ending of the number that the digits spell. -/
theorem isOrdinal_around_iff :
    IsOrdinal grouped
        ((minusIf negative).around (wholeDigits grouped n ++ (ordinalEnding k).toList)) ↔
      ordinalEnding n = ordinalEnding k := by
  have hendings : ordinalEndings.all (fun ending => ending.toList.filter isDigit = [] ∧
      ending.toList.filter isLetter = ending.toList) = true := by decide
  have hending (k : Nat) := List.all_eq_true.1 hendings _ (ordinalEnding_mem k)
  simp only [decide_eq_true_eq] at hending
  constructor
  · rintro ⟨other, m, htext⟩
    -- the digits determine the number, and the letters are its ending
    have hdigits := congrArg (List.filter isDigit) htext
    have hletters := congrArg (List.filter isLetter) htext
    rw [filter_around_ordinal rfl, filter_around_ordinal rfl, filter_wholeDigits rfl fun _ h => h,
      filter_wholeDigits rfl fun _ h => h, (hending k).1, (hending m).1, List.append_nil,
      List.append_nil] at hdigits
    rw [filter_around_ordinal rfl, filter_around_ordinal rfl, filter_isLetter_wholeDigits,
      filter_isLetter_wholeDigits, (hending k).2, (hending m).2, List.nil_append, List.nil_append]
      at hletters
    have hnumber : n = m := by rw [← ofDigits_digits n, hdigits, ofDigits_digits]
    rw [hnumber]
    exact (String.toList_inj.1 hletters).symm
  · intro heq
    exact ⟨negative, n, by rw [heq]⟩

/-- **Ordinal numbers.** Numbers below 2⁵³ are written with an ending that belongs to the digits,
unless they are half above an even number whose ending is not that of the next number. -/
theorem isOrdinal_write_iff (h : a.floorNat < 9007199254740992) (s grouped : Bool) :
    write (.finite s a) (ordinalPattern grouped) =
      (minusIf ((Double.finite s a).less 0 && decide (a.nearestNat ≠ 0))).around
        (wholeDigits grouped a.nearestNat ++ (ordinalEnding a.roundNat).toList) ∧
    (IsOrdinal grouped (write (.finite s a) (ordinalPattern grouped)) ↔
      ¬(a.IsHalfAboveEven ∧ (a.floorNat % 10 = 0 ∨ a.floorNat % 10 = 2) ∧
        a.floorNat % 100 ≠ 10 ∧ a.floorNat % 100 ≠ 12)) := by
  have hwrite := write_ordinalPattern h s grouped
  refine ⟨hwrite, ?_⟩
  rw [hwrite, isOrdinal_around_iff]
  by_cases hhalf : a.IsHalfAboveEven
  · rw [Magnitude.roundNat_of_isHalfAboveEven hhalf, Magnitude.nearestNat_of_isHalfAboveEven hhalf,
      ordinalEnding_eq_succ_iff hhalf.2]
    simp only [hhalf, true_and]
  · rw [Magnitude.roundNat_of_not_isHalfAboveEven hhalf]
    exact iff_of_true rfl fun hboth => hhalf hboth.1

/-- One half more than 1112. -/
def halfAbove1112 : Magnitude := ⟨2225 * Nat.pow 2 1073, by decide +kernel⟩

/-- Half above an even number whose ending is that of the next number the ending is right. -/
theorem isOrdinal_write_halfAbove1112 :
    halfAbove1112.floorNat < 9007199254740992 ∧ halfAbove1112.IsHalfAboveEven ∧
      write (.finite true halfAbove1112) "0,0o".toList = "-1,112th".toList ∧
      IsOrdinal true (write (.finite true halfAbove1112) "0,0o".toList) := by
  have hsafe : halfAbove1112.floorNat < 9007199254740992 := by decide +kernel
  have hending : halfAbove1112.floorNat % 100 = 12 := by decide +kernel
  refine ⟨hsafe, by decide +kernel, by decide +kernel, ?_⟩
  exact (isOrdinal_write_iff hsafe true true).2.2 fun h => h.2.2.2 hending

/-- Half above two the ending is that of three. -/
theorem not_isOrdinal_write_halfAboveTwo :
    (Double.ofRatio false 5 2).abs.less (.ofNat 9007199254740992) ∧
      write (.ofRatio false 5 2) "0o".toList = "2rd".toList ∧
      ¬IsOrdinal false (write (.ofRatio false 5 2) "0o".toList) := by
  have htext : write (.ofRatio false 5 2) "0o".toList = "2rd".toList := by decide +kernel
  have hordinal : "2rd".toList =
      (minusIf false).around (wholeDigits false 2 ++ (ordinalEnding 3).toList) := by decide
  refine ⟨by decide +kernel, htext, ?_⟩
  rw [htext, hordinal, isOrdinal_around_iff]
  decide

end Numeral

end Gleaner
