import Gleaner.Proofs.Number.Digits
import Gleaner.Proofs.Number.Exact
import Gleaner.Proofs.Number.Rounding

/-!
# The shortest decimal reads back

The search for the fewest digits tries the points of one grid after the other and takes none that
is outside of the rounding interval. So what it finds is rounded to the magnitude again, and so is
the exact decimal that stands in for a search without an answer.

The only whole number in the rounding interval of a whole number below 2⁵³ is this number itself.
So it is written by its own digits.

## Main results

* `Magnitude.RoundingInterval.contains_iff`: decimals within a rounding interval.
* `Magnitude.toDouble_shortest`: the shortest decimal is rounded to its magnitude.
* `Magnitude.positional_shortest_of_units`: whole numbers are written by their digits.
-/

namespace Gleaner

variable {a : Magnitude} {d : Decimal} {tie : Tie} {exponent : Int} {k : Nat}

namespace Magnitude

/-! ### Decimals in the rounding interval -/

/-- The denominator of a decimal is not zero. -/
theorem pow_ten_pos (k : Nat) : 0 < Nat.pow 10 k := Nat.pow_pos (by decide)

/-- A decimal lies in a rounding interval as the quotient that it is. -/
theorem RoundingInterval.contains_iff {i : RoundingInterval} :
    i.contains d ↔ i.Holds (d.coefficient * Nat.pow 10 d.exponent.toNat * unitsPerOne)
      (Nat.pow 10 (-d.exponent).toNat) := by
  have hquarters : d.coefficient * (4 * unitsPerOne * Nat.pow 10 d.exponent.toNat) =
      4 * (d.coefficient * Nat.pow 10 d.exponent.toNat * unitsPerOne) := by
    generalize unitsPerOne = one
    ring
  unfold contains gridScale
  dsimp only
  rw [hquarters]
  generalize d.coefficient * Nat.pow 10 d.exponent.toNat * unitsPerOne = n
  generalize Nat.pow 10 (-d.exponent).toNat = den
  constructor
  · intro h
    split at h
    next hclosed =>
      simp only [Bool.and_eq_true, decide_eq_true_eq] at h
      exact ⟨h.1, h.2, fun hopen => by simp [hclosed] at hopen⟩
    next =>
      simp only [Bool.and_eq_true, decide_eq_true_eq] at h
      exact ⟨h.1.le, h.2.le, fun _ => h⟩
  · rintro ⟨hlow, hhigh, hinside⟩
    split
    next => simp [hlow, hhigh]
    next hopen => simpa using hinside (by simpa using hopen)

/-- A quotient that is rounded to a magnitude is the double with that magnitude. -/
theorem ofUnits_of_roundUnits {n d : Nat} (h : roundUnits n d = a.units) (s : Bool) :
    Double.ofUnits s n d = .finite s a := by
  simp only [Double.ofUnits, ofUnits?, h, a.representable.1, ↓reduceDIte]

/-- A decimal in the rounding interval of a magnitude is rounded to it. -/
theorem toDouble_of_contains (h : a.roundingInterval.contains d) (s : Bool) :
    d.toDouble s = .finite s a := by
  rw [Decimal.toDouble, Double.ofRatio]
  refine ofUnits_of_roundUnits (roundUnits_of_holds (pow_ten_pos _) ?_) s
  exact RoundingInterval.contains_iff.1 h

/-- The exact decimal is rounded to its magnitude. -/
theorem toDouble_exactDecimal (a : Magnitude) (s : Bool) :
    a.exactDecimal.toDouble s = .finite s a := by
  have hup : (-(unitExponent : Int)).toNat = 0 := by omega
  have hdown : (-(-(unitExponent : Int))).toNat = unitExponent := by omega
  have hten : Nat.pow 5 unitExponent * unitsPerOne = Nat.pow 10 unitExponent := by
    unfold unitsPerOne
    generalize unitExponent = k
    exact (Nat.mul_pow 5 2 k).symm
  rw [Decimal.toDouble, exactDecimal]
  dsimp only
  rw [hup, hdown, Double.ofRatio]
  calc Double.ofUnits s (a.units * Nat.pow 5 unitExponent * Nat.pow 10 0 * unitsPerOne)
        (Nat.pow 10 unitExponent)
      = Double.ofUnits s (a.units * Nat.pow 10 unitExponent) (1 * Nat.pow 10 unitExponent) := by
        rw [← hten]
        simp only [Nat.pow_eq, Nat.pow_zero, Nat.mul_one, Nat.one_mul, Nat.mul_assoc]
    _ = .finite s a := by rw [Double.ofUnits_mul_mul _ _ _ (pow_ten_pos _), Double.ofUnits_units]

/-! ### The search -/

/-- What is found on a grid is one of its points, and lies in the rounding interval. -/
theorem contains_of_nearestOnGrid? (h : a.nearestOnGrid? tie exponent = some d) :
    d.exponent = exponent ∧ a.roundingInterval.contains d := by
  unfold nearestOnGrid? at h
  dsimp only at h
  split at h
  next hlower hupper =>
    rw [Bool.and_eq_true] at hlower
    rw [← Option.some.inj h]
    split
    · exact ⟨rfl, hupper⟩
    · exact ⟨rfl, hlower.1⟩
  next hlower _ =>
    rw [Bool.and_eq_true] at hlower
    rw [← Option.some.inj h]
    exact ⟨rfl, hlower.1⟩
  next hupper =>
    rw [← Option.some.inj h]
    exact ⟨rfl, hupper⟩
  next => cases h

/-- **The shortest decimal reads back.** It is rounded to the magnitude that it is written for. -/
theorem toDouble_shortest (tie : Tie) (a : Magnitude) (s : Bool) :
    (a.shortest tie).toDouble s = .finite s a := by
  unfold shortest
  cases hfound : (List.range 19).findSome? fun (step : Nat) =>
    a.nearestOnGrid? tie (a.topExponent - step) with
  | none => exact toDouble_exactDecimal a s
  | some d =>
    obtain ⟨step, -, hgrid⟩ := List.exists_of_findSome?_eq_some hfound
    exact toDouble_of_contains (contains_of_nearestOnGrid? hgrid).2 s

/-! ### Whole numbers -/

/-- A search through the first natural numbers finds something up to the first place where there
is something. -/
theorem exists_findSome?_range {α : Type} {f : Nat → Option α} {m n : Nat} (hm : m < n)
    (h : (f m).isSome) : ∃ j ≤ m, ∃ x, f j = some x ∧ (List.range n).findSome? f = some x := by
  obtain ⟨rest, rfl⟩ := Nat.exists_eq_add_of_le (Nat.succ_le_of_lt hm)
  have hfound : ((List.range (m + 1)).findSome? f).isSome :=
    List.findSome?_isSome_iff.2 ⟨m, List.mem_range.2 (Nat.lt_succ_self m), h⟩
  obtain ⟨x, hx⟩ := Option.isSome_iff_exists.1 hfound
  obtain ⟨j, hj, hfj⟩ := List.exists_of_findSome?_eq_some hx
  refine ⟨j, Nat.le_of_lt_succ (List.mem_range.1 hj), x, hfj, ?_⟩
  rw [List.range_add, List.findSome?_append, hx, Option.some_or]

section Whole

variable (ha : a.units = k * unitsPerOne)

include ha

/-- The grid of the whole numbers has a point in the rounding interval of a whole number. -/
theorem isSome_nearestOnGrid? (hpos : 0 < k) (tie : Tie) : (a.nearestOnGrid? tie 0).isSome := by
  have hunits : 0 < a.units := by
    rw [ha]
    exact Nat.mul_pos hpos unitsPerOne_pos
  have hscale : gridScale 0 = (4 * unitsPerOne, 1) := by
    simp only [gridScale, Int.toNat_zero, Int.neg_zero, Nat.pow_eq, Nat.pow_zero, Nat.mul_one]
  have hbelow : 4 * a.units / (4 * unitsPerOne) = k := by
    rw [ha, Nat.mul_div_mul_left _ _ (by decide), Nat.mul_div_cancel k unitsPerOne_pos]
  have hlower : a.roundingInterval.contains ⟨k, 0⟩ := by
    rw [RoundingInterval.contains_iff]
    simp only [Int.toNat_zero, Int.neg_zero, Nat.pow_eq, Nat.pow_zero, Nat.mul_one, ← ha]
    exact holds_units hunits
  unfold nearestOnGrid?
  simp only [hscale, Nat.mul_one, hbelow, hlower, bne_iff_ne.2 hpos.ne', Bool.and_self]
  split <;> simp_all

/-- The first grid that is tried is above the digits of the number. -/
theorem topExponent_of_units (hpos : 0 < k) : a.topExponent = (digits k).length := by
  have hscaled (n : Nat) : a.units * Nat.pow 10 n / unitsPerOne = k * 10 ^ n := by
    rw [ha, Nat.mul_right_comm]
    exact Nat.mul_div_cancel _ unitsPerOne_pos
  have hlength (n : Nat) :
      (digits (a.units * Nat.pow 10 n / unitsPerOne)).length = (digits k).length + n := by
    rw [hscaled, digits_mul_pow_ten hpos, List.length_append, List.length_replicate]
  simp only [topExponent, hlength]
  omega

variable (hk : k < 9007199254740992)

include hk

/-- The only whole number in the rounding interval of one below 2⁵³ is this number. -/
theorem coefficient_of_contains (h : a.roundingInterval.contains d) (hexponent : 0 ≤ d.exponent) :
    d.coefficient * Nat.pow 10 d.exponent.toNat = k := by
  obtain ⟨hlow, hhigh, -⟩ := RoundingInterval.contains_iff.1 h
  obtain ⟨hbelow, habove⟩ := a.roundingInterval_bounds
  have hden : Nat.pow 10 (-d.exponent).toNat = 1 := by
    rw [Int.toNat_of_nonpos (by omega)]
  have hspacing : a.spacing ≤ unitsPerOne := by
    have hsize : a.units < 9007199254740992 * unitsPerOne := by
      rw [ha]
      exact (Nat.mul_lt_mul_right unitsPerOne_pos).2 hk
    have hdvd := dvd_mul_unitsPerOne hsize 1
    rw [Nat.one_mul] at hdvd
    exact Nat.le_of_dvd unitsPerOne_pos hdvd
  have hpos := unitsPerOne_pos
  rw [hden, Nat.mul_one] at hlow hhigh
  rw [habove] at hhigh
  rw [ha] at hbelow hhigh
  generalize d.coefficient * Nat.pow 10 d.exponent.toNat = m at hlow hhigh ⊢
  generalize unitsPerOne = one at *
  -- another whole number would be one or more away, and the bounds are at most a half away
  rcases Nat.lt_trichotomy m k with hlt | heq | hgt
  · have hsucc : m * one + one ≤ k * one := by
      rw [← Nat.succ_mul]
      exact Nat.mul_le_mul_right one hlt
    omega
  · exact heq
  · have hsucc : k * one + one ≤ m * one := by
      rw [← Nat.succ_mul]
      exact Nat.mul_le_mul_right one hgt
    omega

/-- **Whole numbers.** The shortest decimal of a whole number below 2⁵³ is written by the digits of
this number. -/
theorem positional_shortest_of_units (hpos : 0 < k) (tie : Tie) :
    (a.shortest tie).positional = digits k := by
  have htop := topExponent_of_units ha hpos
  have hlength : (digits k).length ≤ 16 := (length_digits_le_iff (by decide)).2 (by omega)
  have hwhole : (a.nearestOnGrid? tie (a.topExponent - (digits k).length)).isSome := by
    rw [htop, Int.sub_self]
    exact isSome_nearestOnGrid? ha hpos tie
  -- the search ends at the grid of the whole numbers or before
  obtain ⟨step, hstep, d, hgrid, hfound⟩ :=
    exists_findSome?_range (f := fun step : Nat => a.nearestOnGrid? tie (a.topExponent - step))
      (n := 19) (by omega) hwhole
  obtain ⟨hexponent, hcontains⟩ := contains_of_nearestOnGrid? hgrid
  have hnonneg : 0 ≤ d.exponent := by omega
  have hplaces : (-d.exponent).toNat = 0 := by omega
  rw [shortest, hfound, Option.getD_some, Decimal.positional, hplaces,
    coefficient_of_contains ha hk hcontains hnonneg]
  rfl

end Whole

end Magnitude

end Gleaner
