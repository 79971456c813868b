import Gleaner.Proofs.Number.Whole
import Mathlib.Tactic.Ring

/-!
# Products and quotients of whole numbers

Numbers below 2⁵³ are doubles, so the only rounding in their product or quotient is that of the
exact result.

## Main results

* `Double.ofNat_mul_ofNat`: the product is the double nearest to the exact product.
* `Double.ofNat_div_ofNat`: the quotient is the double nearest to the exact quotient.
* `Double.isFinite_ofNat_mul`: the product is in the range of doubles.
-/

namespace Gleaner

/-! ### Rounding -/

/-- A quotient is rounded in the same way when both of its sides are multiplied. -/
theorem nearestDiv_mul_mul (n d : Nat) {c : Nat} (hc : 0 < c) :
    nearestDiv (n * c) (d * c) = nearestDiv n d := by
  unfold nearestDiv
  dsimp only
  rw [Nat.mul_div_mul_right n d hc, Nat.mul_mod_mul_right, ← Nat.mul_assoc]
  simp only [Nat.mul_lt_mul_right hc]

namespace Magnitude

/-- A quotient of units is rounded in the same way when both of its sides are multiplied. -/
theorem roundUnits_mul_mul (n d : Nat) {c : Nat} (hc : 0 < c) :
    roundUnits (n * c) (d * c) = roundUnits n d := by
  unfold roundUnits
  dsimp only
  rw [Nat.mul_div_mul_right n d hc, Nat.mul_right_comm, nearestDiv_mul_mul _ _ hc]

/-- Rounding at most doubles a number of units. -/
theorem roundUnits_le (n : Nat) : roundUnits n 1 ≤ 2 * n := by
  by_cases hn : n = 0
  · subst hn
    simp [roundUnits, nearestDiv]
  have hslack : Nat.pow 2 (slack n) ≤ n :=
    (Nat.pow_le_pow_right (by decide) (Nat.sub_le _ _)).trans (Nat.log2_self_le hn)
  unfold roundUnits
  dsimp only
  rw [Nat.div_one, Nat.one_mul]
  calc nearestDiv n (Nat.pow 2 (slack n)) * Nat.pow 2 (slack n)
      ≤ (n / Nat.pow 2 (slack n) + 1) * Nat.pow 2 (slack n) :=
        Nat.mul_le_mul_right _ (nearestDiv_le _ _)
    _ = n / Nat.pow 2 (slack n) * Nat.pow 2 (slack n) + Nat.pow 2 (slack n) := Nat.succ_mul _ _
    _ ≤ n + n := Nat.add_le_add (Nat.div_mul_le_self _ _) hslack
    _ = 2 * n := (Nat.two_mul n).symm

/-- The product of two numbers below 2⁵³ is in range. -/
theorem roundUnits_mul_lt {m n : Nat} (hm : m < 9007199254740992) (hn : n < 9007199254740992) :
    roundUnits (m * n * unitsPerOne) 1 < unitLimit := by
  have hexponents : 107 + unitExponent ≤ limitExponent := by decide
  have hproduct : m * n < 9007199254740992 * 9007199254740992 := Nat.mul_lt_mul'' hm hn
  refine Nat.lt_of_le_of_lt (roundUnits_le _) ?_
  unfold unitLimit unitsPerOne
  -- the powers are too large to be computed, so their exponents become variables
  generalize unitExponent = one at hexponents ⊢
  generalize limitExponent = limit at hexponents ⊢
  calc 2 * (m * n * 2 ^ one) = 2 * (m * n) * 2 ^ one := (Nat.mul_assoc ..).symm
    _ < 2 ^ 107 * 2 ^ one := (Nat.mul_lt_mul_right (Nat.two_pow_pos one)).2 (by omega)
    _ = 2 ^ (107 + one) := (Nat.pow_add ..).symm
    _ ≤ 2 ^ limit := Nat.pow_le_pow_right Nat.two_pos hexponents

end Magnitude

namespace Double

/-- A quotient of units is the same double when both of its sides are multiplied. -/
theorem ofUnits_mul_mul (negative : Bool) (n d : Nat) {c : Nat} (hc : 0 < c) :
    ofUnits negative (n * c) (d * c) = ofUnits negative n d := by
  have hround := Magnitude.roundUnits_mul_mul n d hc
  unfold ofUnits Magnitude.ofUnits?
  simp only [hround]

/-- Nothing divided by a number is zero. -/
theorem ofUnits_zero (negative : Bool) {d : Nat} (hd : 0 < d) :
    ofUnits negative 0 d = .finite negative .zero := by
  have hscaled := ofUnits_mul_mul negative 0 1 hd
  rw [Nat.zero_mul, Nat.one_mul] at hscaled
  rw [hscaled]
  exact ofUnits_units negative .zero

/-- Rounding does not depend on the sign. -/
theorem neg_ofUnits (negative : Bool) (n d : Nat) :
    -ofUnits negative n d = ofUnits (!negative) n d := by
  unfold ofUnits
  cases Magnitude.ofUnits? n d <;> rfl

/-- Nor does the double nearest to a quotient. -/
theorem neg_ofRatio (negative : Bool) (n d : Nat) :
    -ofRatio negative n d = ofRatio (!negative) n d := by
  rw [ofRatio, ofRatio, neg_ofUnits]

/-- A product of finite numbers with the same sign. -/
theorem finite_mul_finite (a b : Magnitude) :
    finite false a * finite false b = ofUnits false (a.units * b.units) unitsPerOne := rfl

/-- A quotient of finite numbers with the same sign, where it is not a division by zero. -/
theorem finite_div_finite (a b : Magnitude) (h : b.units ≠ 0) :
    finite false a / finite false b = ofUnits false (a.units * unitsPerOne) b.units :=
  if_neg h

variable {m n : Nat} (hm : m < 9007199254740992) (hn : n < 9007199254740992)

/-- A natural number below 2⁵³ is a double. -/
theorem ofNat_eq : ofNat m = .finite false (.whole m hm) := by
  rw [ofNat, ofRatio]
  exact ofUnits_units false (.whole m hm)

include hm hn

/-- The product of two numbers below 2⁵³ is the double nearest to the exact product. -/
theorem ofNat_mul_ofNat : ofNat m * ofNat n = ofNat (m * n) := by
  have hunits : m * unitsPerOne * (n * unitsPerOne) = m * n * unitsPerOne * unitsPerOne := by
    generalize unitsPerOne = one
    ring
  calc ofNat m * ofNat n
      = ofUnits false (m * unitsPerOne * (n * unitsPerOne)) unitsPerOne := by
        rw [ofNat_eq hm, ofNat_eq hn, finite_mul_finite, Magnitude.units_whole,
          Magnitude.units_whole]
    _ = ofUnits false (m * n * unitsPerOne * unitsPerOne) (1 * unitsPerOne) := by
        rw [hunits, Nat.one_mul]
    _ = ofNat (m * n) := by rw [ofUnits_mul_mul _ _ _ unitsPerOne_pos, ofNat, ofRatio]

/-- The product is in the range of doubles. -/
theorem isFinite_ofNat_mul : (ofNat (m * n)).isFinite := by
  rw [ofNat, ofRatio, ofUnits, Magnitude.ofUnits?, dif_pos (Magnitude.roundUnits_mul_lt hm hn)]
  rfl

/-- The quotient of two numbers below 2⁵³ is the double nearest to the exact quotient. -/
theorem ofNat_div_ofNat (hpos : 0 < n) : ofNat m / ofNat n = ofRatio false m n := by
  have hne : (Magnitude.whole n hn).units ≠ 0 := by
    rw [Magnitude.units_whole]
    exact Nat.mul_ne_zero hpos.ne' unitsPerOne_pos.ne'
  calc ofNat m / ofNat n
      = ofUnits false (m * unitsPerOne * unitsPerOne) (n * unitsPerOne) := by
        rw [ofNat_eq hm, ofNat_eq hn, finite_div_finite _ _ hne, Magnitude.units_whole,
          Magnitude.units_whole]
    _ = ofRatio false m n := by rw [ofUnits_mul_mul _ _ _ unitsPerOne_pos, ofRatio]

end Double

end Gleaner
