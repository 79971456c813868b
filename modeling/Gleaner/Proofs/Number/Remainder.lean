import Gleaner.Proofs.Number.Exact
import Gleaner.Proofs.Number.Rounding
import Mathlib.Order.Basic

/-!
# Integer quotients and remainders of doubles

A double divided by a natural number is rounded, but that does not change the integer part of the
quotient. What is left of the double above a natural number has no more bits than the double, so it
is a double, and the difference is exact.

## Main definitions

* `Magnitude.divNat`: the quotient of a magnitude and a natural number.

## Main results

* `Magnitude.roundUnits_div_unitsPerOne`: the integer part of a rounded quotient.
* `Magnitude.two_pow_le_roundUnits`: quotients are not rounded below a power of two.
* `Magnitude.exists_units_eq_mod`: the remainder of a magnitude is a magnitude.
* `Double.floor_div_ofNat`: the integer part of a quotient of doubles.
* `Double.finite_add_finite`, `Double.finite_sub_ofNat`, `Double.ofNat_add_ofNat`: exact sums and
  differences.
* `Double.exists_sub_floor_mul`: what is left above a multiple.
-/

namespace Gleaner

variable {a b c : Magnitude} {k m n y : Nat}

/-- There are more units in one than a significand can count. -/
theorem lt_unitsPerOne : 9007199254740992 < unitsPerOne := by
  have h : 53 < unitExponent := by decide
  unfold unitsPerOne
  -- the power is too large to be computed, so its exponent becomes a variable
  generalize unitExponent = one at h ⊢
  calc 9007199254740992 = 2 ^ 53 := by decide
    _ < 2 ^ one := Nat.pow_lt_pow_right (by decide) h

namespace Magnitude

/-- A magnitude is below a natural number when its integer part is. -/
theorem floorNat_lt_iff : a.floorNat < k ↔ a.units < k * unitsPerOne :=
  Nat.div_lt_iff_lt_mul unitsPerOne_pos

/-- **Integer quotients.** Rounding the quotient of a magnitude and a natural number does not change
the integer part of the quotient. -/
theorem roundUnits_div_unitsPerOne (ha : a.floorNat < 9007199254740992) (hy : 0 < y) :
    roundUnits a.units y / unitsPerOne = a.floorNat / y := by
  -- the two are below the same natural numbers
  refine eq_of_forall_gt_iff fun bound => ?_
  rcases Nat.eq_zero_or_pos bound with rfl | hbound
  · exact iff_of_false (Nat.not_lt_zero _) (Nat.not_lt_zero _)
  · have hlarge : 9007199254740992 < bound * unitsPerOne :=
      Nat.lt_of_lt_of_le lt_unitsPerOne (Nat.le_mul_of_pos_left _ hbound)
    have hdvd := dvd_mul_unitsPerOne (floorNat_lt_iff.1 ha) bound
    rw [Nat.div_lt_iff_lt_mul unitsPerOne_pos, roundUnits_lt_iff a.representable hy hdvd hlarge,
      Nat.div_lt_iff_lt_mul hy, floorNat_lt_iff, Nat.mul_right_comm]

/-- A magnitude leaves fewer bits unused than there are. -/
theorem pow_slack_dvd_unitLimit (a : Magnitude) : 2 ^ slack a.units ∣ unitLimit := by
  have hrange := a.representable.1
  unfold unitLimit at hrange ⊢
  -- the power is too large to be computed, so its exponent becomes a variable
  generalize limitExponent = limit at hrange ⊢
  rcases Nat.eq_zero_or_pos a.units with hzero | hpos
  · rw [hzero]
    exact Nat.one_dvd _
  · have hlog := (Nat.log2_lt hpos.ne').2 hrange
    exact Nat.pow_dvd_pow 2 (Nat.le_of_lt (Nat.lt_of_le_of_lt (Nat.sub_le _ _) hlog))

/-- A quotient of a magnitude and a natural number is in range. -/
theorem roundUnits_lt_unitLimit (a : Magnitude) (hy : 0 < y) :
    roundUnits a.units y < unitLimit := by
  rw [roundUnits_lt_iff a.representable hy a.pow_slack_dvd_unitLimit lt_unitLimit]
  exact Nat.lt_of_lt_of_le a.representable.1 (Nat.le_mul_of_pos_right _ hy)

/-- The quotient of a magnitude and a natural number as a magnitude. -/
def divNat (a : Magnitude) (y : Nat) (hy : 0 < y) : Magnitude :=
  ⟨roundUnits a.units y, a.roundUnits_lt_unitLimit hy, dvd_roundUnits _ _⟩

/-- A quotient that is not below a power of two is not rounded below it. -/
theorem two_pow_le_roundUnits (hy : 0 < y) (h : y * 2 ^ k ≤ n) : 2 ^ k ≤ roundUnits n y := by
  have hpow : 0 < 2 ^ slack (n / y) := Nat.two_pow_pos _
  have hquotient : 2 ^ k ≤ n / y := (Nat.le_div_iff_mul_le hy).2 (by rwa [Nat.mul_comm])
  have hne : n / y ≠ 0 := (Nat.lt_of_lt_of_le (Nat.two_pow_pos k) hquotient).ne'
  have hlog : k ≤ (n / y).log2 := (Nat.le_log2 hne).2 hquotient
  -- the leading bit of the quotient is among those that are kept
  obtain ⟨j, hj⟩ := Nat.exists_eq_add_of_le (show slack (n / y) ≤ (n / y).log2 from Nat.sub_le _ _)
  have hkept : 2 ^ j ≤ n / y / 2 ^ slack (n / y) := by
    rw [Nat.le_div_iff_mul_le hpow, Nat.mul_comm, ← Nat.pow_add, ← hj]
    exact Nat.log2_self_le hne
  calc 2 ^ k ≤ 2 ^ (n / y).log2 := Nat.pow_le_pow_right Nat.two_pos hlog
    _ = 2 ^ j * 2 ^ slack (n / y) := by rw [Nat.mul_comm, ← Nat.pow_add, ← hj]
    _ ≤ n / y / 2 ^ slack (n / y) * 2 ^ slack (n / y) := Nat.mul_le_mul_right _ hkept
    _ ≤ roundUnits n y := by
      rw [Nat.div_div_eq_div_mul]
      exact Nat.mul_le_mul_right _ (le_nearestDiv _ _)

/-- A quotient that is not below one is not rounded below it. -/
theorem unitsPerOne_le_roundUnits (hy : 0 < y) (h : y * unitsPerOne ≤ n) :
    unitsPerOne ≤ roundUnits n y := by
  unfold unitsPerOne at h ⊢
  -- the power is too large to be computed, so its exponent becomes a variable
  generalize unitExponent = one at h ⊢
  exact two_pow_le_roundUnits hy h

/-- The integer part of a magnitude is a magnitude. -/
theorem exists_units_eq_floorNat (a : Magnitude) :
    ∃ b : Magnitude, b.units = a.floorNat * unitsPerOne := by
  rcases Nat.lt_or_ge a.floorNat 9007199254740992 with hsmall | hlarge
  · exact ⟨whole _ hsmall, rfl⟩
  · -- a larger magnitude has no fractional part
    have hunits : 9007199254740992 * unitsPerOne ≤ a.units :=
      (Nat.le_div_iff_mul_le unitsPerOne_pos).1 hlarge
    have hdvd : unitsPerOne ∣ a.units := by
      refine Nat.dvd_trans ?_ a.representable.2
      unfold unitsPerOne at hunits ⊢
      generalize unitExponent = one at hunits ⊢
      have hpos : 0 < a.units :=
        Nat.lt_of_lt_of_le (Nat.mul_pos (by decide) (Nat.two_pow_pos one)) hunits
      have hlog : 53 + one ≤ a.units.log2 := by
        rw [Nat.le_log2 hpos.ne', Nat.pow_add]
        exact hunits
      refine Nat.pow_dvd_pow 2 ?_
      rw [slack]
      omega
    exact ⟨a, (Nat.div_mul_cancel hdvd).symm⟩

/-- What is left of a magnitude above a natural number is a magnitude. -/
theorem exists_units_add_eq (ha : a.floorNat < 9007199254740992) (hk : k ≤ a.floorNat) :
    ∃ b : Magnitude, b.units + k * unitsPerOne = a.units := by
  have hle : k * unitsPerOne ≤ a.units := (Nat.le_div_iff_mul_le unitsPerOne_pos).1 hk
  have hsub : a.units - k * unitsPerOne ≤ a.units := Nat.sub_le _ _
  have hdvd : 2 ^ slack a.units ∣ a.units - k * unitsPerOne :=
    Nat.dvd_sub a.representable.2 (dvd_mul_unitsPerOne (floorNat_lt_iff.1 ha) k)
  refine ⟨⟨a.units - k * unitsPerOne, Nat.lt_of_le_of_lt hsub a.representable.1, ?_⟩,
    Nat.sub_add_cancel hle⟩
  exact (Nat.pow_dvd_pow 2 (slack_mono hsub)).trans hdvd

/-- The integer part of what is left. -/
theorem floorNat_of_units_add (h : b.units + k * unitsPerOne = a.units) :
    b.floorNat + k = a.floorNat := by
  rw [floorNat, floorNat, ← h, Nat.add_mul_div_right _ _ unitsPerOne_pos]

/-- **Remainders.** The remainder of a magnitude divided by a natural number is a magnitude. -/
theorem exists_units_eq_mod (ha : a.floorNat < 9007199254740992) (hy : 0 < y) :
    ∃ b : Magnitude, b.units = a.units % (y * unitsPerOne) ∧
      b.units + a.floorNat / y * y * unitsPerOne = a.units := by
  obtain ⟨b, hb⟩ := exists_units_add_eq ha (Nat.div_mul_le_self a.floorNat y)
  have hsmall : b.units < y * unitsPerOne := by
    have hfloor := floorNat_of_units_add hb
    have hsplit := Nat.mod_add_div' a.floorNat y
    have hmod := Nat.mod_lt a.floorNat hy
    rw [← floorNat_lt_iff]
    omega
  refine ⟨b, ?_, hb⟩
  calc b.units = b.units % (y * unitsPerOne) := (Nat.mod_eq_of_lt hsmall).symm
    _ = (b.units + a.floorNat / y * (y * unitsPerOne)) % (y * unitsPerOne) :=
        (Nat.add_mul_mod_self_right ..).symm
    _ = a.units % (y * unitsPerOne) := by rw [← Nat.mul_assoc, hb]

/-- The integer part of a remainder is the remainder of the integer part. -/
theorem floorNat_of_units_eq_mod (h : b.units = a.units % (y * unitsPerOne)) :
    b.floorNat = a.floorNat % y := by
  rw [floorNat, h, Nat.mul_comm, Nat.mod_mul_right_div_self, floorNat]

end Magnitude

namespace Double

/-- A sum of finite numbers that is a magnitude is exact. -/
theorem finite_add_finite {s : Bool} (h : (a.units : Int) + signedUnits s b = c.units) :
    finite false a + finite s b = finite false c := by
  have hsum : signedUnits false a + signedUnits s b = c.units := h
  change add _ _ = _
  rw [add, hsum]
  split
  next hzero =>
    obtain rfl := Magnitude.eq_zero_of_units (Int.natCast_eq_zero.1 hzero)
    rfl
  next =>
    have hsign : decide ((c.units : Int) < 0) = false :=
      decide_eq_false (Int.not_lt.2 (Int.natCast_nonneg _))
    rw [hsign, Int.natAbs_natCast, ofUnits_units]

/-- The difference to a natural number that leaves a magnitude is exact. -/
theorem finite_sub_ofNat (hk : k < 9007199254740992) (h : b.units + k * unitsPerOne = a.units) :
    finite false a - ofNat k = finite false b := by
  have hunits : (a.units : Int) + signedUnits true (.whole k hk) = b.units := by
    rw [signedUnits, if_pos rfl, Magnitude.units_whole]
    omega
  rw [ofNat_eq hk]
  exact finite_add_finite hunits

/-- The sum of two numbers is exact below 2⁵³. -/
theorem ofNat_add_ofNat (h : m + n < 9007199254740992) : ofNat m + ofNat n = ofNat (m + n) := by
  have hm : m < 9007199254740992 := Nat.lt_of_le_of_lt (Nat.le_add_right m n) h
  have hn : n < 9007199254740992 := Nat.lt_of_le_of_lt (Nat.le_add_left n m) h
  rw [ofNat_eq hm, ofNat_eq hn, ofNat_eq h]
  refine finite_add_finite ?_
  rw [signedUnits, if_neg Bool.false_ne_true, Magnitude.units_whole, Magnitude.units_whole,
    Magnitude.units_whole, Nat.add_mul, Int.natCast_add]

/-- A number divided by a natural number is the rounded quotient. -/
theorem finite_div_ofNat (a : Magnitude) (hy : 0 < y) (hsmall : y < 9007199254740992) :
    finite false a / ofNat y = finite false (a.divNat y hy) := by
  have hne : (Magnitude.whole y hsmall).units ≠ 0 := by
    rw [Magnitude.units_whole]
    exact Nat.mul_ne_zero hy.ne' unitsPerOne_pos.ne'
  have hquotient : finite false a / ofNat y = ofUnits false a.units y := by
    rw [ofNat_eq hsmall, finite_div_finite _ _ hne, Magnitude.units_whole,
      ofUnits_mul_mul _ _ _ unitsPerOne_pos]
  have hrange := a.roundUnits_lt_unitLimit hy
  rw [hquotient]
  simp only [ofUnits, Magnitude.ofUnits?, hrange, ↓reduceDIte, Magnitude.divNat]

/-- The integer part of a number is finite. -/
theorem exists_floor_eq (a : Magnitude) :
    ∃ b : Magnitude, b.units = a.floorNat * unitsPerOne ∧
      (finite false a).floor = finite false b := by
  obtain ⟨b, hb⟩ := a.exists_units_eq_floorNat
  refine ⟨b, hb, ?_⟩
  rw [floor, if_neg Bool.false_ne_true, ofRatio, ← hb, ofUnits_units]

/-- The integer part of a number divided by a natural number is the integer quotient. -/
theorem floor_div_ofNat (ha : a.floorNat < 9007199254740991) (hy : 0 < y)
    (hsmall : y < 9007199254740992) :
    (finite false a / ofNat y).floor = ofNat (a.floorNat / y) := by
  have hfloor : (a.divNat y hy).floorNat = a.floorNat / y :=
    Magnitude.roundUnits_div_unitsPerOne (Nat.lt_succ_of_lt ha) hy
  rw [finite_div_ofNat a hy hsmall, floor, if_neg Bool.false_ne_true, hfloor, ofNat]

/-- What is left of a number above the multiple of a natural number is the remainder. -/
theorem exists_sub_floor_mul (ha : a.floorNat < 9007199254740992) (hy : 0 < y)
    (hsmall : y < 9007199254740992) :
    ∃ b : Magnitude, b.units = a.units % (y * unitsPerOne) ∧
      finite false a - ofNat (a.floorNat / y) * ofNat y = finite false b := by
  obtain ⟨b, hb, hsum⟩ := Magnitude.exists_units_eq_mod ha hy
  have hmultiple : a.floorNat / y * y < 9007199254740992 :=
    Nat.lt_of_le_of_lt (Nat.div_mul_le_self _ _) ha
  have hquotient : a.floorNat / y < 9007199254740992 :=
    Nat.lt_of_le_of_lt (Nat.div_le_self _ _) ha
  refine ⟨b, hb, ?_⟩
  rw [ofNat_mul_ofNat hquotient hsmall, finite_sub_ofNat hmultiple hsum]

end Double

end Gleaner
