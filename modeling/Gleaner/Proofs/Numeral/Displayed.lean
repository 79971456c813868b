import Gleaner.Proofs.Number.Decimal
import Gleaner.Proofs.Number.Display
import Gleaner.Proofs.Number.Shortest
import Gleaner.Proofs.Numeral.WholeNumbers

/-!
# Displayed numbers are read back

A finite number is displayed by figures, after a minus sign where it is negative. No figure is taken
for a quotation mark, a colon, a unit or a character without a part in the number. So the decimal
number that is read is the one that was written, and the double nearest to it is the number itself.

## Main results

* `Numeral.spells_positional`: decimal numbers in positions are figures that end with a digit.
* `Numeral.exists_display_eq`: the sign and the figures of a displayed number.
* `Numeral.read?_display`: displayed numbers are read back.
-/

namespace Gleaner.Numeral

variable {a : Magnitude} {ds : List Char} {d : Decimal} {x : Double}

/-- A decimal number in positions is made of figures and ends with a digit. -/
theorem spells_positional (d : Decimal) :
    Spells d.positional ⟨d.coefficient * 10 ^ d.exponent.toNat, min d.exponent 0⟩ where
  figures c hc := isFigure_iff.2 (Decimal.mem_positional hc)
  ends := by
    rcases d.positional_cases with ⟨-, htext⟩ | ⟨hneg, whole, fraction, htext, hdigits, hplaces⟩
    · rw [htext]
      exact getLast?_any_isDigit (fun _ => isDigit_of_mem_digits) (digits_ne_nil _)
    · -- the point is in front of at least one digit
      have hfraction : ∀ c ∈ fraction, isDigit c := by
        intro c hc
        have hmem : c ∈ whole ++ fraction := List.mem_append_right whole hc
        rw [hdigits] at hmem
        exact isDigit_of_mem_paddedDigits hmem
      have hne : fraction ≠ [] := by
        rintro rfl
        rw [List.length_nil] at hplaces
        omega
      have hlast : (whole ++ '.' :: fraction).getLast? = fraction.getLast? := by
        rw [List.getLast?_append, List.getLast?_cons_of_ne_nil hne,
          List.getLast?_eq_some_getLast hne, Option.some_or]
      rw [htext, hlast]
      exact getLast?_any_isDigit hfraction hne
  read := Decimal.read?_positional d

/-- A displayed number is made of figures with a sign, and they spell a decimal number that is
rounded to it. -/
theorem exists_display_eq (s : Bool) (a : Magnitude) :
    ∃ (sign : Sign) (ds : List Char) (d : Decimal), (Double.finite s a).display = sign.around ds ∧
      sign.isNegative = (s && decide (a.units ≠ 0)) ∧ Spells ds d ∧
      d.toDouble false = .finite false a := by
  obtain ⟨body, hdisplay, hbody⟩ := Double.display_finite s a
  -- the shortest decimal is rounded to the number, and the digits of an integer are exact
  have hspells : ∃ d, Spells body d ∧ d.toDouble false = .finite false a := by
    rcases hbody with rfl | ⟨n, -, hunits, rfl⟩
    · refine ⟨_, spells_positional _, ?_⟩
      rw [Decimal.toDouble_unscaled, Magnitude.toDouble_shortest]
    · have hspells := spells_digits_zeroPlaces n 0
      have hzero : zeroPlaces 0 = [] := rfl
      rw [hzero, List.append_nil] at hspells
      exact ⟨_, hspells, by rw [Decimal.toDouble_mul_pow_ten, Double.ofNat_of_units hunits]⟩
  obtain ⟨d, hspells, hvalue⟩ := hspells
  by_cases hnegative : s && a.units ≠ 0
  · refine ⟨.minus, body, d, ?_, hnegative.symm, hspells, hvalue⟩
    rw [hdisplay, if_pos hnegative]
    rfl
  · refine ⟨.none, body, d, ?_, (Bool.eq_false_iff.2 hnegative).symm, hspells, hvalue⟩
    rw [hdisplay, if_neg hnegative]
    rfl

/-- Figures with a sign are read as the number that they spell. -/
theorem read?_around_of_spells (h : Spells ds d) (s : Sign) :
    read? (s.around ds) = some (if s.isNegative then -d.toDouble false else d.toDouble false) := by
  have hunit : splitUnit ('0' :: []) = (['0'], .ten 0) := rfl
  have hfilter : ds.filter (!isIgnored ·) = ds ++ [] := by rw [h.filter_eq, List.append_nil]
  rw [read?_around s h.isUnsigned, magnitude?_of_figures h hunit hfilter, Scale.apply,
    Decimal.scale, Int.add_zero, Option.map_some]

/-- **Displayed numbers are read back.** The text of a finite number is read as this number, zero
without its sign, and so is a value that holds the text. -/
theorem read?_display (h : x.isFinite) :
    read? x.display = some x.dropZeroSign ∧
      Coerce.number {} (.string (Value.number x).display) = .number x.dropZeroSign := by
  have hread : read? x.display = some x.dropZeroSign := by
    cases x with
    | nan | infinite => cases h
    | finite s a =>
      obtain ⟨sign, ds, d, hdisplay, hsign, hspells, hvalue⟩ := exists_display_eq s a
      rw [hdisplay, read?_around_of_spells hspells, hvalue, hsign, Double.dropZeroSign_finite]
      cases s && decide (a.units ≠ 0) <;> rfl
  refine ⟨hread, ?_⟩
  have hdisplay : (Value.number x).display = .ofList x.display := rfl
  rw [hdisplay, number_ofList, hread, Option.map_some, Option.getD_some]

/-- The negative number nearest to zero. -/
def nearestBelowZero : Double := .finite true ⟨1, representable_of_lt (by decide)⟩

/-- It is displayed by 324 places, and these are read back. -/
theorem read?_display_nearestBelowZero :
    nearestBelowZero.isFinite ∧
      nearestBelowZero.display = "-0.".toList ++ List.replicate 323 '0' ++ ['5'] ∧
      read? ("-0.".toList ++ List.replicate 323 '0' ++ ['5']) = some nearestBelowZero ∧
      Coerce.number {} (.string (Value.number nearestBelowZero).display) =
        .number nearestBelowZero := by
  have hdisplay : nearestBelowZero.display = "-0.".toList ++ List.replicate 323 '0' ++ ['5'] := by
    decide +kernel
  have hsign : nearestBelowZero.dropZeroSign = nearestBelowZero := rfl
  obtain ⟨hread, hnumber⟩ := read?_display (x := nearestBelowZero) rfl
  rw [hdisplay, hsign] at hread
  rw [hsign] at hnumber
  exact ⟨rfl, hdisplay, hread, hnumber⟩

end Gleaner.Numeral
