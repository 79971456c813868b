import Gleaner.Number.Shortest
import Gleaner.Proofs.Number.Digits

/-!
# The characters and the length of numbers that are displayed

A finite number is displayed by digits, at most one point and a minus sign, without an exponent. So
its text can be long, but there is a bound for all numbers: whatever decimal the search for the
fewest digits comes to, its exponent and its coefficient are within bounds.

## Main results

* `Decimal.mem_positional`, `Double.mem_display`, `Double.count_display_le`: the characters of the
  text.
* `Magnitude.coefficient_of_nearestOnGrid?`, `Magnitude.shortest_bounds`: how large the shortest
  decimal can be.
* `Double.length_display_le`: how long the text can be.
-/

namespace Gleaner

variable {c : Char} {cs : List Char} {places : Nat}

/-! ### Decimal numbers in positions -/

namespace Decimal

/-- Nothing but a point and zeros comes to the digits. -/
theorem mem_pointBefore (h : c ∈ pointBefore places cs) : c ∈ cs ∨ c = '0' ∨ c = '.' := by
  have hpadded {d : Char} (hd : d ∈ padLeft (places + 1) '0' cs) : d ∈ cs ∨ d = '0' :=
    (List.mem_append.1 hd).symm.imp_right List.eq_of_mem_replicate
  unfold pointBefore at h
  dsimp only at h
  split at h
  · exact .inl h
  · rcases List.mem_append.1 h with hwhole | hfraction
    · exact (hpadded (List.mem_of_mem_take hwhole)).imp_right .inl
    · rcases List.mem_cons.1 hfraction with hpoint | hfraction
      · exact .inr (.inr hpoint)
      · exact (hpadded (List.mem_of_mem_drop hfraction)).imp_right .inl

/-- The digits get no more than a point and the zeros up to it. -/
theorem length_pointBefore_le (places : Nat) (cs : List Char) :
    (pointBefore places cs).length ≤ cs.length + places + 2 := by
  unfold pointBefore
  dsimp only
  split
  · omega
  · rw [List.length_append, List.length_cons, List.length_take, List.length_drop, length_padLeft]
    omega

/-- One point at most comes to the digits. -/
theorem count_pointBefore_le (h : '.' ∉ cs) : (pointBefore places cs).count '.' ≤ 1 := by
  have hpadded : '.' ∉ padLeft (places + 1) '0' cs := by
    intro hmem
    rcases List.mem_append.1 hmem with hzero | hmem
    · exact absurd (List.eq_of_mem_replicate hzero) (by decide)
    · exact h hmem
  unfold pointBefore
  dsimp only
  split
  · rw [List.count_eq_zero.2 h]
    exact Nat.zero_le 1
  · refine Nat.le_of_eq ?_
    rw [List.count_append, List.count_cons_self,
      List.count_eq_zero.2 fun hmem => hpadded (List.mem_of_mem_take hmem),
      List.count_eq_zero.2 fun hmem => hpadded (List.mem_of_mem_drop hmem)]

/-- The point is no digit. -/
theorem point_not_mem_digits (n : Nat) : '.' ∉ digits n :=
  fun h => absurd (isDigit_of_mem_digits h) (by decide)

/-- A decimal number in positions has digits and a point at most. -/
theorem mem_positional {d : Decimal} (h : c ∈ d.positional) : isDigit c ∨ c = '.' := by
  rcases mem_pointBefore h with hdigit | rfl | hpoint
  · exact .inl (isDigit_of_mem_digits hdigit)
  · exact .inl (by decide)
  · exact .inr hpoint

/-- A decimal number in positions has one point at most. -/
theorem count_positional_le (d : Decimal) : d.positional.count '.' ≤ 1 :=
  count_pointBefore_le (point_not_mem_digits _)

/-- A decimal number in positions has at least one digit. -/
theorem positional_ne_nil (d : Decimal) : d.positional ≠ [] := by
  have hdigits := digits_ne_nil (d.coefficient * Nat.pow 10 d.exponent.toNat)
  unfold positional pointBefore
  dsimp only
  split
  · exact hdigits
  · exact List.append_ne_nil_of_right_ne_nil _ (List.cons_ne_nil _ _)

/-- How long a decimal number in positions can be. -/
theorem length_positional_le {d : Decimal} {p q : Nat} (hlow : -(p : Int) ≤ d.exponent)
    (hhigh : d.exponent ≤ q) (hpos : 0 < places) (hcoefficient : d.coefficient < 10 ^ places) :
    d.positional.length ≤ places + q + p + 2 := by
  have hdigits : d.coefficient * 10 ^ d.exponent.toNat < 10 ^ (places + q) := by
    rw [Nat.pow_add]
    refine Nat.mul_lt_mul_of_lt_of_le hcoefficient ?_ (Nat.pow_pos (by decide))
    exact Nat.pow_le_pow_right (by decide) (by omega)
  have hlength := (length_digits_le_iff (by omega)).2 hdigits
  have hpoint := length_pointBefore_le (-d.exponent).toNat
    (digits (d.coefficient * 10 ^ d.exponent.toNat))
  have hpositional : d.positional =
      pointBefore (-d.exponent).toNat (digits (d.coefficient * 10 ^ d.exponent.toNat)) := rfl
  rw [hpositional]
  omega

end Decimal

/-! ### The shortest decimal -/

namespace Magnitude

variable {a : Magnitude} {tie : Tie} {exponent : Int} {d : Decimal}

/-- A power of two bounds the units, and so does a power of ten. -/
theorem units_lt_pow_ten (a : Magnitude) : a.units < 10 ^ limitExponent := by
  have hunits := a.representable.1
  unfold unitLimit at hunits
  -- the powers are too large to be computed, so their exponent becomes a variable
  generalize limitExponent = k at hunits ⊢
  exact Nat.lt_of_lt_of_le hunits (Nat.pow_le_pow_left (by decide) k)

/-- The nearest point of a grid is on the grid and not far from the magnitude. -/
theorem coefficient_of_nearestOnGrid? (h : a.nearestOnGrid? tie exponent = some d) :
    d.exponent = exponent ∧ d.coefficient ≤ 4 * a.units * 10 ^ (-exponent).toNat + 1 := by
  have hbelow : 4 * a.units * (gridScale exponent).2 / (gridScale exponent).1 ≤
      4 * a.units * 10 ^ (-exponent).toNat := Nat.div_le_self _ _
  unfold nearestOnGrid? at h
  dsimp only at h
  split at h
  · rw [← Option.some.inj h]
    split
    · exact ⟨rfl, Nat.succ_le_succ hbelow⟩
    · exact ⟨rfl, Nat.le_succ_of_le hbelow⟩
  · rw [← Option.some.inj h]
    exact ⟨rfl, Nat.le_succ_of_le hbelow⟩
  · rw [← Option.some.inj h]
    exact ⟨rfl, Nat.succ_le_succ hbelow⟩
  · cases h

/-- A bound for a number times a power of at most ten. -/
theorem mul_pow_lt {u b m k : Nat} (hu : u < 10 ^ m) (hb : b ≤ 10) :
    u * Nat.pow b k < 10 ^ (m + k) := by
  rw [Nat.pow_add]
  exact Nat.mul_lt_mul_of_lt_of_le hu (Nat.pow_le_pow_left hb k) (Nat.pow_pos (by decide))

/-- The place of the leading digit is between two limits. -/
theorem topExponent_bounds (a : Magnitude) :
    -350 < a.topExponent ∧ a.topExponent ≤ limitExponent := by
  have hunits := mul_pow_lt (k := 350) a.units_lt_pow_ten (Nat.le_refl 10)
  have hscaled : a.units * Nat.pow 10 350 / unitsPerOne < 10 ^ (limitExponent + 350) :=
    Nat.lt_of_le_of_lt (Nat.div_le_self _ _) hunits
  -- only how many digits the scaled number has matters, so it becomes a variable
  obtain ⟨n, hn, htop⟩ : ∃ n < 10 ^ (limitExponent + 350),
      a.topExponent = ((digits n).length : Int) - 350 := ⟨_, hscaled, by rw [topExponent]⟩
  have hlength := (length_digits_le_iff (by decide)).2 hn
  have hpos := List.length_pos_iff.2 (digits_ne_nil n)
  omega

/-- How large the coefficient on a grid can be. -/
theorem four_mul_lt_pow_ten {u k m n : Nat} (hu : u < 10 ^ m) (hk : k < n) :
    4 * u * 10 ^ k + 1 < 10 ^ (m + n) := by
  have hpos : 0 < 10 ^ k := Nat.pow_pos (by decide)
  have hsucc : (u + 1) * 10 ^ k ≤ 10 ^ m * 10 ^ k := Nat.mul_le_mul_right _ hu
  rw [Nat.succ_mul] at hsucc
  calc 4 * u * 10 ^ k + 1 < 10 * (10 ^ m * 10 ^ k) := by
        rw [Nat.mul_assoc]
        omega
    _ = 10 ^ (m + (k + 1)) := by rw [Nat.pow_add, Nat.pow_succ, Nat.mul_comm 10, Nat.mul_assoc]
    _ ≤ 10 ^ (m + n) := Nat.pow_le_pow_right (by decide) (Nat.add_le_add_left hk m)

/-- The bounds of the shortest decimal. They also hold of the exact decimal that stands in for a
search without an answer. -/
theorem shortest_bounds (tie : Tie) (a : Magnitude) :
    -(unitExponent : Int) ≤ (a.shortest tie).exponent ∧
      (a.shortest tie).exponent ≤ limitExponent ∧
      (a.shortest tie).coefficient < 10 ^ (limitExponent + unitExponent) := by
  have hunit : unitExponent = 1074 := rfl
  have hlimit : limitExponent = 2098 := rfl
  -- the search goes through the grids below the leading digit, and may find nothing
  unfold shortest
  cases hfound : (List.range 19).findSome? fun (step : Nat) =>
    a.nearestOnGrid? tie (a.topExponent - step) with
  | none =>
    have hexponent : a.exactDecimal.exponent = -(unitExponent : Int) := rfl
    rw [Option.getD_none, hexponent]
    exact ⟨Int.le_refl _, by omega, mul_pow_lt a.units_lt_pow_ten (by decide)⟩
  | some d =>
    obtain ⟨step, hstep, hgrid⟩ := List.exists_of_findSome?_eq_some hfound
    obtain ⟨hexponent, hcoefficient⟩ := coefficient_of_nearestOnGrid? hgrid
    have htop := a.topExponent_bounds
    rw [List.mem_range] at hstep
    rw [Option.getD_some]
    refine ⟨by omega, by omega, Nat.lt_of_le_of_lt hcoefficient ?_⟩
    exact four_mul_lt_pow_ten a.units_lt_pow_ten (by omega)

end Magnitude

/-! ### The text of a number -/

namespace Double

/-- What a finite number is displayed by: the digits of the integer that it is or a decimal number
in positions, after a minus sign where it is negative. -/
theorem display_finite (s : Bool) (a : Magnitude) :
    ∃ body, (finite s a).display = (if s && a.units ≠ 0 then '-' :: body else body) ∧
      (body = (a.shortest .up).positional ∨
        ∃ n < 10 ^ 21, a.units = n * unitsPerOne ∧ body = digits n) := by
  by_cases hinteger : a.isInteger ∧ a.floorNat < Nat.pow 10 21
  · have hunits : a.units = a.floorNat * unitsPerOne :=
      (Nat.div_mul_cancel (Nat.dvd_of_mod_eq_zero (beq_iff_eq.1 hinteger.1))).symm
    exact ⟨digits a.floorNat, by simp [display, hinteger], .inr ⟨_, hinteger.2, hunits, rfl⟩⟩
  · exact ⟨(a.shortest .up).positional, by simp [display, hinteger], .inl rfl⟩

/-- A number is displayed by at least one character. -/
theorem display_ne_nil (x : Double) : x.display ≠ [] := by
  cases x with
  | nan => decide
  | infinite s => cases s <;> decide
  | finite s a =>
    obtain ⟨body, hdisplay, hbody⟩ := display_finite s a
    have hne : body ≠ [] := by
      rcases hbody with rfl | ⟨n, -, -, rfl⟩
      · exact Decimal.positional_ne_nil _
      · exact digits_ne_nil n
    rw [hdisplay]
    split
    · exact List.cons_ne_nil _ _
    · exact hne

/-- A finite number is displayed by digits, points and minus signs. -/
theorem mem_display {x : Double} (hx : x.isFinite) (h : c ∈ x.display) :
    isDigit c ∨ c = '.' ∨ c = '-' := by
  cases x with
  | nan | infinite => cases hx
  | finite s a =>
    obtain ⟨body, hdisplay, hbody⟩ := display_finite s a
    have hmem (h : c ∈ body) : isDigit c ∨ c = '.' ∨ c = '-' := by
      rcases hbody with rfl | ⟨n, -, -, rfl⟩
      · exact (Decimal.mem_positional h).imp_right .inl
      · exact .inl (isDigit_of_mem_digits h)
    rw [hdisplay] at h
    split at h
    · exact (List.mem_cons.1 h).elim (fun hminus => .inr (.inr hminus)) hmem
    · exact hmem h

/-- The text of a number has one point at most. -/
theorem count_display_le (x : Double) : x.display.count '.' ≤ 1 := by
  cases x with
  | nan => decide
  | infinite s => cases s <;> decide
  | finite s a =>
    obtain ⟨body, hdisplay, hbody⟩ := display_finite s a
    have hcount : body.count '.' ≤ 1 := by
      rcases hbody with rfl | ⟨n, -, -, rfl⟩
      · exact Decimal.count_positional_le _
      · rw [List.count_eq_zero.2 (Decimal.point_not_mem_digits n)]
        exact Nat.zero_le 1
    rw [hdisplay]
    split
    · rwa [List.count_cons_of_ne (by decide)]
    · exact hcount

/-- The text of a number is shorter than some limit. -/
theorem length_display_le (x : Double) : x.display.length ≤ 6400 := by
  cases x with
  | nan => decide
  | infinite s => cases s <;> decide
  | finite s a =>
    obtain ⟨body, hdisplay, hbody⟩ := display_finite s a
    have hlength : body.length ≤ 6399 := by
      rcases hbody with rfl | ⟨n, hn, -, rfl⟩
      · obtain ⟨hlow, hhigh, hcoefficient⟩ := a.shortest_bounds .up
        have hpositional := Decimal.length_positional_le hlow hhigh (by decide) hcoefficient
        have hunit : unitExponent = 1074 := rfl
        have hlimit : limitExponent = 2098 := rfl
        omega
      · have hdigits := (length_digits_le_iff (by decide)).2 hn
        omega
    rw [hdisplay]
    split
    · exact Nat.succ_le_succ hlength
    · exact Nat.le_succ_of_le hlength

end Double

end Gleaner
