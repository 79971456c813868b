/-!
# Finite magnitudes of binary floating point

A magnitude is a natural number of units `2⁻¹⁰⁷⁴` with at most 53 significant bits, so that
every operation on it is arithmetic of natural numbers followed by one rounding.

## Main statements

- `Magnitude.ofRatio?` rounds a quotient of naturals to the nearest magnitude, a tie to the even
  one, and has no answer exactly when the rounded quotient is out of range.
- `Magnitude.ofUnits_units` : a magnitude is not changed by rounding.
-/

namespace Gleaner

/-- The quotient `n / d` rounded to the nearest natural number, a tie to the even neighbour. -/
def nearestDiv (n d : Nat) : Nat :=
  let q := n / d
  let r := n % d
  if 2 * r < d then q else if d < 2 * r then q + 1 else q + q % 2

theorem nearestDiv_one (n : Nat) : nearestDiv n 1 = n := by
  simp [nearestDiv, Nat.mod_one]

theorem le_nearestDiv (n d : Nat) : n / d ≤ nearestDiv n d := by
  unfold nearestDiv
  dsimp only
  split
  · exact Nat.le_refl _
  · split <;> omega

theorem nearestDiv_le (n d : Nat) : nearestDiv n d ≤ n / d + 1 := by
  unfold nearestDiv
  dsimp only
  split
  · omega
  · split <;> omega

/-- An exact quotient is its own rounding. -/
theorem nearestDiv_mul_left (q d : Nat) (hd : 0 < d) : nearestDiv (q * d) d = q := by
  unfold nearestDiv
  simp [Nat.mul_mod_left, Nat.mul_div_left q hd, hd]

/-- The exponent of the smallest unit, as a power of two below one. -/
def unitExponent : Nat := 1074

/-- The number of units in one. -/
def unitsPerOne : Nat := Nat.pow 2 unitExponent

/-- The power of two that is the first out of range, counted in units. -/
def limitExponent : Nat := 2098

/-- The first number of units that is out of range. -/
@[irreducible] def unitLimit : Nat := Nat.pow 2 limitExponent

theorem unitsPerOne_pos : 0 < unitsPerOne := by
  unfold unitsPerOne
  generalize unitExponent = k
  exact Nat.two_pow_pos k

/-- The number of low bits that a number of units of this size cannot use. -/
def slack (units : Nat) : Nat := units.log2 - 52

/-- A number of units is representable when it is in range and has at most 53 significant bits. -/
def Representable (units : Nat) : Prop :=
  units < unitLimit ∧ Nat.pow 2 (slack units) ∣ units

instance (units : Nat) : Decidable (Representable units) :=
  inferInstanceAs (Decidable (_ ∧ _))

/-- A finite non-negative binary floating-point number. -/
structure Magnitude where
  /-- The number of units `2⁻¹⁰⁷⁴`. -/
  units : Nat
  /-- At most 53 significant bits, and in range. -/
  representable : Representable units
  deriving DecidableEq

theorem dvd_of_log2_le {u : Nat} (h : u.log2 ≤ 52) : Nat.pow 2 (slack u) ∣ u := by
  simp [slack, Nat.sub_eq_zero_of_le h]

theorem log2_le_of_lt {u : Nat} (h : u < 9007199254740992) : u.log2 ≤ 52 := by
  by_cases hu : u = 0
  · simp [hu]
  · have := (Nat.log2_lt hu).2 (show u < 2 ^ 53 from h)
    omega

theorem lt_unitLimit : 9007199254740992 < unitLimit := by
  have h : 53 < limitExponent := by decide
  unfold unitLimit
  generalize limitExponent = k at h
  calc 9007199254740992 = 2 ^ 53 := by decide
    _ < 2 ^ k := Nat.pow_lt_pow_right (by decide) h

theorem representable_of_lt {u : Nat} (h : u < 9007199254740992) : Representable u :=
  ⟨Nat.lt_trans h lt_unitLimit, dvd_of_log2_le (log2_le_of_lt h)⟩

namespace Magnitude

/-- The quotient `n / d` of units rounded to 53 significant bits, range not considered. -/
def roundUnits (n d : Nat) : Nat :=
  let shift := slack (n / d)
  nearestDiv n (d * Nat.pow 2 shift) * Nat.pow 2 shift

theorem log2_mul_two_pow {m : Nat} (k : Nat) (h : m ≠ 0) :
    (m * Nat.pow 2 k).log2 = m.log2 + k := by
  simp only [Nat.pow_eq]
  have hne : m * 2 ^ k ≠ 0 := Nat.mul_ne_zero h (Nat.ne_of_gt (Nat.two_pow_pos k))
  apply Nat.le_antisymm
  · apply Nat.lt_succ_iff.1
    apply (Nat.log2_lt hne).2
    have h₁ : m < 2 ^ (m.log2 + 1) := Nat.lt_log2_self
    calc m * 2 ^ k < 2 ^ (m.log2 + 1) * 2 ^ k := (Nat.mul_lt_mul_right (Nat.two_pow_pos k)).2 h₁
      _ = 2 ^ (m.log2 + k + 1) := by rw [← Nat.pow_add]; congr 1; omega
  · apply (Nat.le_log2 hne).2
    rw [Nat.pow_add]
    exact Nat.mul_le_mul_right _ (Nat.log2_self_le h)

theorem dvd_roundUnits (n d : Nat) : Nat.pow 2 (slack (roundUnits n d)) ∣ roundUnits n d := by
  unfold roundUnits
  generalize hq : n / d = q
  generalize hs : slack q = s
  simp only [Nat.pow_eq]
  generalize hr : nearestDiv n (d * 2 ^ s) = r
  have hdiv : n / (d * 2 ^ s) = q / 2 ^ s := by rw [← Nat.div_div_eq_div_mul, hq]
  have hle : r ≤ 2 ^ 53 := by
    have h₁ : r ≤ q / 2 ^ s + 1 := by rw [← hr, ← hdiv]; exact nearestDiv_le _ _
    have h₂ : q / 2 ^ s < 2 ^ 53 := by
      rw [Nat.div_lt_iff_lt_mul (Nat.two_pow_pos s), ← Nat.pow_add]
      by_cases h0 : q = 0
      · rw [h0]; exact Nat.two_pow_pos _
      · apply (Nat.log2_lt h0).1
        rw [← hs, slack]
        omega
    omega
  by_cases h0 : r = 0
  · simp [h0]
  have hlog2 : (r * 2 ^ s).log2 = r.log2 + s := log2_mul_two_pow s h0
  rw [slack, hlog2]
  by_cases h53 : r = 2 ^ 53
  · rw [h53, Nat.log2_two_pow, ← Nat.pow_add]
    exact Nat.pow_dvd_pow 2 (by omega)
  · have hlog : r.log2 ≤ 52 := log2_le_of_lt (by omega)
    exact Nat.dvd_mul_left_of_dvd (Nat.pow_dvd_pow 2 (by omega)) r

/-- The magnitude nearest to `n / d` units, a tie going to the even one; nothing when that is
out of range. -/
def ofUnits? (n d : Nat) : Option Magnitude :=
  if h : roundUnits n d < unitLimit then some ⟨roundUnits n d, h, dvd_roundUnits n d⟩ else none

/-- A representable number of units is its own rounding. -/
theorem roundUnits_of_representable {u : Nat} (h : Representable u) : roundUnits u 1 = u := by
  obtain ⟨k, hk⟩ := h.2
  rw [Nat.pow_eq] at hk
  have hdiv : u / 1 = u := Nat.div_one u
  unfold roundUnits
  rw [hdiv]
  simp only [Nat.pow_eq]
  rw [Nat.one_mul]
  conv => lhs; lhs; lhs; rw [hk, Nat.mul_comm]
  rw [nearestDiv_mul_left _ _ (Nat.two_pow_pos _), Nat.mul_comm, ← hk]

/-- A magnitude is not changed by rounding. -/
theorem ofUnits?_units (a : Magnitude) : ofUnits? a.units 1 = some a := by
  have h := roundUnits_of_representable a.representable
  simp [ofUnits?, h, a.representable.1]

/-- The magnitude nearest to the quotient `n / d`; nothing when it is out of range. -/
def ofRatio? (n d : Nat) : Option Magnitude :=
  ofUnits? (n * unitsPerOne) d

/-- The magnitude zero. -/
def zero : Magnitude := ⟨0, representable_of_lt (by decide)⟩

instance : Inhabited Magnitude := ⟨zero⟩

/-- The integer part. -/
def floorNat (a : Magnitude) : Nat := a.units / unitsPerOne

/-- Whether there is no fractional part. -/
def isInteger (a : Magnitude) : Bool := a.units % unitsPerOne == 0

/-- The smallest integer not below the magnitude. -/
def ceilNat (a : Magnitude) : Nat :=
  if a.isInteger then a.floorNat else a.floorNat + 1

/-- The nearest integer, a half away from zero. -/
def roundNat (a : Magnitude) : Nat :=
  (2 * a.units + unitsPerOne) / (2 * unitsPerOne)

/-- The distance to the next larger magnitude, in units. -/
def spacing (a : Magnitude) : Nat := Nat.pow 2 (slack a.units)

end Magnitude
end Gleaner
