import Gleaner.Proofs.Number.Digits
import Gleaner.Proofs.Number.Exact
import Gleaner.Proofs.Text.Trim
import Mathlib.Data.Rat.Lemmas
import Mathlib.Algebra.Order.Field.Rat
import Mathlib.Algebra.Field.Rat

/-!
# Decimal numbers and their text

Digits with at most one point among them spell a decimal number, and a decimal number is written in
positions by just such a text. The double that it stands for is the one nearest to its value.

## Main definitions

* `Decimal.value`: the rational number that a decimal number is.
* `Double.nearest`: the double nearest to a rational number.

## Main results

* `Decimal.read?_of_forall`, `Decimal.read?_point`: the decimal number that a text spells.
* `Decimal.exists_pointBefore_eq`: where the point is put.
* `Decimal.read?_positional`: a decimal number is read back.
* `Decimal.toDouble_eq_nearest`: a decimal number becomes the double nearest to its value.
-/

namespace Gleaner

variable {ds whole fraction : List Char} {places d : Nat}

namespace Decimal

/-! ### Digits and a point -/

/-- Digits alone spell a natural number. -/
theorem read?_of_forall (h : ∀ c ∈ ds, isDigit c) (hne : ds ≠ []) :
    read? ds = some ⟨ofDigits ds, 0⟩ := by
  rw [read?, List.dropWhile_eq_nil_iff.2 h, List.takeWhile_eq_self_iff.2 h]
  dsimp only
  rw [readNat?_of_forall h hne, Option.map_some]

/-- Digits on both sides of a point spell one number, in as many places as follow the point. -/
theorem read?_point (hwhole : ∀ c ∈ whole, isDigit c) (hfraction : ∀ c ∈ fraction, isDigit c)
    (hne : whole ++ fraction ≠ []) :
    read? (whole ++ '.' :: fraction) =
      some ⟨ofDigits (whole ++ fraction), -(fraction.length : Int)⟩ := by
  have hhead : ∀ c ∈ ('.' :: fraction).head?, isDigit c = false := by
    intro c hc
    cases hc
    decide
  obtain ⟨htake, hdrop⟩ := takeWhile_append_of_head hwhole hhead
  have hread := readNat?_of_forall (List.forall_mem_append.2 ⟨hwhole, hfraction⟩) hne
  rw [read?, htake, hdrop]
  dsimp only
  rw [if_pos rfl, hread, Option.map_some]

/-! ### Decimal numbers in positions -/

/-- The point is put in front of the last digits, with zeros before them where they are too few. -/
theorem exists_pointBefore_eq (hpos : 0 < places) (cs : List Char) :
    ∃ whole fraction, pointBefore places cs = whole ++ '.' :: fraction ∧
      whole ++ fraction = padLeft (places + 1) '0' cs ∧ fraction.length = places := by
  have hlength := length_padLeft (places + 1) '0' cs
  refine ⟨_, _, if_neg hpos.ne', List.take_append_drop _ _, ?_⟩
  rw [List.length_drop, hlength]
  omega

/-- A decimal number in positions is digits alone, or digits with a point in front of the places
after the decimal exponent. -/
theorem positional_cases (d : Decimal) :
    (0 ≤ d.exponent ∧ d.positional = digits (d.coefficient * 10 ^ d.exponent.toNat)) ∨
      (d.exponent < 0 ∧ ∃ whole fraction, d.positional = whole ++ '.' :: fraction ∧
        whole ++ fraction = paddedDigits (fraction.length + 1) d.coefficient ∧
        d.exponent = -(fraction.length : Int)) := by
  rcases Int.lt_or_le d.exponent 0 with hneg | hnonneg
  · have hpos : 0 < (-d.exponent).toNat := by omega
    obtain ⟨whole, fraction, hpoint, hdigits, hlength⟩ :=
      exists_pointBefore_eq hpos (digits (d.coefficient * Nat.pow 10 d.exponent.toNat))
    have hup : d.exponent.toNat = 0 := by omega
    refine .inr ⟨hneg, whole, fraction, hpoint, ?_, by omega⟩
    rw [hdigits, hlength, hup, paddedDigits]
    exact congrArg (fun n => padLeft _ '0' (digits n)) (Nat.mul_one _)
  · have hplaces : (-d.exponent).toNat = 0 := by omega
    refine .inl ⟨hnonneg, ?_⟩
    rw [positional, hplaces]
    rfl

/-- A decimal number in positions is read back, with the digits that it is written with. -/
theorem read?_positional (d : Decimal) :
    read? d.positional =
      some ⟨d.coefficient * 10 ^ d.exponent.toNat, min d.exponent 0⟩ := by
  rcases d.positional_cases with ⟨hnonneg, htext⟩ | ⟨hneg, whole, fraction, htext, hdigits, hplaces⟩
  · have hexponent : min d.exponent 0 = 0 := by omega
    rw [htext, read?_of_forall (fun _ => isDigit_of_mem_digits) (digits_ne_nil _),
      ofDigits_digits, hexponent]
  · have hall : ∀ c ∈ whole ++ fraction, isDigit c := by
      intro c hc
      rw [hdigits] at hc
      exact isDigit_of_mem_paddedDigits hc
    have hne : whole ++ fraction ≠ [] := by
      rw [hdigits]
      exact paddedDigits_ne_nil _ _
    obtain ⟨hwhole, hfraction⟩ := List.forall_mem_append.1 hall
    have hup : d.exponent.toNat = 0 := by omega
    have hexponent : min d.exponent 0 = -(fraction.length : Int) := by omega
    rw [htext, read?_point hwhole hfraction hne, hdigits, ofDigits_paddedDigits, hup,
      Nat.pow_zero, Nat.mul_one, hexponent]

/-- The double of a decimal number does not depend on whether zeros are written. -/
theorem toDouble_unscaled (s : Bool) (d : Decimal) :
    (⟨d.coefficient * 10 ^ d.exponent.toNat, min d.exponent 0⟩ : Decimal).toDouble s =
      d.toDouble s := by
  have hup : (min d.exponent 0).toNat = 0 := by omega
  have hdown : (-min d.exponent 0).toNat = (-d.exponent).toNat := by omega
  simp only [toDouble, hup, hdown, Nat.pow_eq, Nat.pow_zero, Nat.mul_one]

end Decimal

/-! ### The nearest double -/

namespace Double

/-- The double nearest to a rational number. -/
def nearest (q : ℚ) : Double := ofRatio (q < 0) q.num.natAbs q.den

/-- The double nearest to a quotient is the double nearest to the rational number that it is. -/
theorem ofRatio_eq_nearest (n : Nat) (hd : 0 < d) : ofRatio false n d = nearest (n / d) := by
  have hnonneg : (0 : ℚ) ≤ n / d := div_nonneg (Nat.cast_nonneg n) (Nat.cast_nonneg d)
  have hsign : decide ((n / d : ℚ) < 0) = false := decide_eq_false (not_lt.2 hnonneg)
  have hcross : n * (n / d : ℚ).den = (n / d : ℚ).num.natAbs * d := by
    have hvalue : ((n / d : ℚ).num : ℚ) / (n / d : ℚ).den = n / d := Rat.num_div_den _
    have hden : ((n / d : ℚ).den : ℚ) ≠ 0 := Nat.cast_ne_zero.2 (Rat.den_nz _)
    have hd' : (d : ℚ) ≠ 0 := Nat.cast_ne_zero.2 hd.ne'
    have hnum : (((n / d : ℚ).num.natAbs : Int) : ℚ) = (n / d : ℚ).num := by
      rw [Int.natAbs_of_nonneg (Rat.num_nonneg.2 hnonneg)]
    rw [div_eq_div_iff hden hd', ← hnum] at hvalue
    exact_mod_cast hvalue.symm
  rw [nearest, hsign]
  -- both are the same quotient with a common denominator
  calc ofRatio false n d
      = ofUnits false (n * (n / d : ℚ).den * unitsPerOne) (d * (n / d : ℚ).den) := by
        rw [ofRatio, ← ofUnits_mul_mul _ _ _ (n / d : ℚ).den_pos, Nat.mul_right_comm]
    _ = ofUnits false ((n / d : ℚ).num.natAbs * unitsPerOne * d) ((n / d : ℚ).den * d) := by
        rw [hcross, Nat.mul_right_comm, Nat.mul_comm d]
    _ = ofRatio false (n / d : ℚ).num.natAbs (n / d : ℚ).den := by
        rw [ofUnits_mul_mul _ _ _ hd, ofRatio]

/-- The double nearest to a natural number. -/
theorem ofNat_eq_nearest (n : Nat) : ofNat n = nearest n := by
  rw [ofNat, ofRatio_eq_nearest n Nat.one_pos, Nat.cast_one, div_one]

end Double

namespace Decimal

/-- The rational number that a decimal number is. -/
def value (d : Decimal) : ℚ := d.coefficient * 10 ^ d.exponent

/-- A power of ten multiplies the value. -/
theorem value_scale (d : Decimal) (power : Int) : (d.scale power).value = d.value * 10 ^ power := by
  rw [value, scale, value, zpow_add₀ (by norm_num), mul_assoc]

/-- **Decimal numbers as doubles.** A decimal number becomes the double nearest to its value. -/
theorem toDouble_eq_nearest (d : Decimal) : d.toDouble false = .nearest d.value := by
  have hpos : 0 < Nat.pow 10 (-d.exponent).toNat := Nat.pow_pos (by decide)
  have hexponent : d.exponent = (d.exponent.toNat : Int) - ((-d.exponent).toNat : Int) := by omega
  rw [toDouble, Double.ofRatio_eq_nearest _ hpos, value]
  congr 1
  conv_rhs => rw [hexponent, zpow_sub₀ (by norm_num), zpow_natCast, zpow_natCast]
  rw [Nat.pow_eq, Nat.pow_eq]
  push_cast
  rw [mul_div_assoc]

end Decimal

end Gleaner
