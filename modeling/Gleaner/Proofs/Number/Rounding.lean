import Gleaner.Number.Shortest
import Mathlib.Tactic.Ring

/-!
# Which quotients are rounded to a magnitude

A quotient of units is rounded to a magnitude when it lies in the rounding interval of the
magnitude: at most half of the spacing away from it, and only a quarter of it below a power of two.
The bounds themselves are rounded to the magnitude that has an even significand.

Rounding keeps the order of numbers, but it may make two numbers equal. A magnitude divided by a
natural number does not become a natural number that way: the quotient is too far away from it.

## Main definitions

* `Magnitude.RoundingInterval.Holds`: quotients within a rounding interval.

## Main results

* `nearestDiv_eq`: quotients near a natural number are rounded to it.
* `Representable.exists_significand`: numbers of units by their significands.
* `Magnitude.roundUnits_of_holds`: quotients in the rounding interval are rounded to the magnitude.
* `Magnitude.nearestDiv_lt_iff_of_even`: quotients that are rounded to less than a bound.
* `Magnitude.roundUnits_lt_iff`: a quotient and its rounding are below the same bounds.
-/

namespace Gleaner

variable {n d m k q r u : Nat}

/-! ### The nearest natural number -/

/-- A quotient is rounded by what is left over of it. -/
theorem nearestDiv_mul_add (hr : r < d) :
    nearestDiv (q * d + r) d =
      if 2 * r < d then q else if d < 2 * r then q + 1 else q + q % 2 := by
  have hsplit : r + d * q = q * d + r := by rw [Nat.add_comm, Nat.mul_comm]
  obtain ⟨hdiv, hmod⟩ := (Nat.div_mod_unique (Nat.zero_lt_of_lt hr)).2 ⟨hsplit, hr⟩
  simp only [nearestDiv, hdiv, hmod]

/-- A quotient that is at most half of one away from a natural number is rounded to it. At a half
the number has to be even. -/
theorem nearestDiv_eq (hd : 0 < d) (hlow : 2 * (m * d) ≤ 2 * n + d)
    (hhigh : 2 * n ≤ 2 * (m * d) + d)
    (hodd : m % 2 = 1 → 2 * (m * d) < 2 * n + d ∧ 2 * n < 2 * (m * d) + d) :
    nearestDiv n d = m := by
  rcases Nat.lt_or_ge n (m * d) with hlt | hle
  · -- the quotient lies between the number before and this one, in the upper half
    obtain ⟨q, rfl⟩ : ∃ q, m = q + 1 := by
      refine Nat.exists_eq_succ_of_ne_zero fun hm => ?_
      rw [hm, Nat.zero_mul] at hlt
      exact Nat.not_lt_zero n hlt
    have hsucc : (q + 1) * d = q * d + d := Nat.succ_mul q d
    rw [hsucc] at hlow hhigh hodd hlt
    obtain ⟨r, rfl⟩ : ∃ r, n = q * d + r := Nat.exists_eq_add_of_le (by omega)
    rw [nearestDiv_mul_add (by omega), if_neg (by omega)]
    split
    next => rfl
    next => omega
  · obtain ⟨r, rfl⟩ := Nat.exists_eq_add_of_le hle
    rw [nearestDiv_mul_add (by omega)]
    split
    next => rfl
    next => rw [if_neg (by omega)]; omega

/-! ### Significands -/

/-- A number of at most 53 bits and `k` more leaves at most `k` bits unused. -/
theorem slack_le (h : q < 9007199254740992 * 2 ^ k) : slack q ≤ k := by
  rcases Nat.eq_zero_or_pos q with rfl | hq
  · exact Nat.zero_le k
  · have hlog : q.log2 < 53 + k := by
      rw [Nat.log2_lt hq.ne', Nat.pow_add]
      exact h
    rw [slack]
    omega

/-- A number of just as many bits leaves `k` bits unused. -/
theorem slack_eq (hscaled : k = 0 ∨ 4503599627370496 * 2 ^ k ≤ q)
    (hsize : q < 9007199254740992 * 2 ^ k) : slack q = k := by
  refine Nat.le_antisymm (slack_le hsize) ?_
  rcases hscaled with rfl | hle
  · exact Nat.zero_le _
  · have hpos : 0 < q := Nat.lt_of_lt_of_le (Nat.mul_pos (by decide) (Nat.two_pow_pos k)) hle
    have hlog : 52 + k ≤ q.log2 := by
      rw [Nat.le_log2 hpos.ne', Nat.pow_add]
      exact hle
    rw [slack]
    omega

/-- A smaller number leaves no more bits unused. -/
theorem slack_mono {v : Nat} (h : u ≤ v) : slack u ≤ slack v := by
  rcases Nat.eq_zero_or_pos u with rfl | hu
  · exact Nat.zero_le _
  · have hv : v ≠ 0 := by omega
    have hlog : u.log2 ≤ v.log2 :=
      (Nat.le_log2 hv).2 (Nat.le_trans (Nat.log2_self_le hu.ne') h)
    exact Nat.sub_le_sub_right hlog 52

/-- A number below 2⁵³ leaves no bits unused above the point. -/
theorem dvd_mul_unitsPerOne (h : u < 9007199254740992 * unitsPerOne) (n : Nat) :
    2 ^ slack u ∣ n * unitsPerOne := by
  unfold unitsPerOne at h ⊢
  -- the power is too large to be computed, so its exponent becomes a variable
  generalize unitExponent = one at h ⊢
  exact (Nat.pow_dvd_pow 2 (slack_le h)).mul_left n

/-- A representable number of units is a significand of at most 53 bits, of all 53 where it is
scaled. -/
theorem Representable.exists_significand (h : Representable u) :
    ∃ m, u = m * 2 ^ slack u ∧ m < 9007199254740992 ∧ (slack u = 0 ∨ 4503599627370496 ≤ m) := by
  obtain ⟨m, hm⟩ := h.2
  rw [Nat.pow_eq, Nat.mul_comm] at hm
  rcases Nat.eq_zero_or_pos u with hu | hu
  · exact ⟨0, by rw [hu, Nat.zero_mul], by decide, .inl (by rw [hu]; rfl)⟩
  · have hne : u ≠ 0 := Nat.ne_of_gt hu
    have hpos : 0 < 2 ^ slack u := Nat.two_pow_pos _
    refine ⟨m, hm, ?_, ?_⟩
    · have hlt : m * 2 ^ slack u < 2 ^ 53 * 2 ^ slack u := by
        rw [← hm, ← Nat.pow_add, ← Nat.log2_lt hne, slack]
        omega
      exact Nat.lt_of_mul_lt_mul_right hlt
    · rcases Nat.eq_zero_or_pos (slack u) with hzero | hslack
      · exact .inl hzero
      · have hle : 2 ^ 52 * 2 ^ slack u ≤ m * 2 ^ slack u := by
          rw [← hm, ← Nat.pow_add, ← Nat.le_log2 hne]
          rw [slack] at hslack ⊢
          omega
        exact .inr (Nat.le_of_mul_le_mul_right hle hpos)

namespace Magnitude

variable {a : Magnitude}

/-- A quotient of units near a multiple of `2 ^ k` is rounded to it, if `k` is the number of bits
that a quotient of its size cannot use. -/
theorem roundUnits_eq (hd : 0 < d) (hscaled : k = 0 ∨ 4503599627370496 * (d * 2 ^ k) ≤ n)
    (hsize : n < 9007199254740992 * (d * 2 ^ k)) (hlow : 2 * (m * (d * 2 ^ k)) ≤ 2 * n + d * 2 ^ k)
    (hhigh : 2 * n ≤ 2 * (m * (d * 2 ^ k)) + d * 2 ^ k)
    (hodd : m % 2 = 1 → 2 * (m * (d * 2 ^ k)) < 2 * n + d * 2 ^ k ∧
      2 * n < 2 * (m * (d * 2 ^ k)) + d * 2 ^ k) :
    roundUnits n d = m * 2 ^ k := by
  have hslack : slack (n / d) = k := by
    refine slack_eq (hscaled.imp_right fun hle => ?_) ?_
    · rw [Nat.le_div_iff_mul_le hd, Nat.mul_assoc, Nat.mul_comm (2 ^ k)]
      exact hle
    · rw [Nat.div_lt_iff_lt_mul hd, Nat.mul_assoc, Nat.mul_comm (2 ^ k)]
      exact hsize
  have hnear : nearestDiv n (d * 2 ^ k) = m :=
    nearestDiv_eq (Nat.mul_pos hd (Nat.two_pow_pos k)) hlow hhigh hodd
  simp only [roundUnits, hslack, Nat.pow_eq, hnear]

/-- Below a power of two a quotient can use one bit more, so that only a quarter of the spacing is
rounded up to it. -/
theorem roundUnits_below_power (hd : 0 < d) (hk : 0 < k)
    (hlow : 4 * (4503599627370496 * (d * 2 ^ k)) ≤ 4 * n + d * 2 ^ k)
    (hlt : n < 4503599627370496 * (d * 2 ^ k)) :
    roundUnits n d = 4503599627370496 * 2 ^ k := by
  obtain ⟨j, rfl⟩ := Nat.exists_eq_add_one_of_ne_zero hk.ne'
  have hhalf : d * 2 ^ (j + 1) = 2 * (d * 2 ^ j) := by ring
  rw [hhalf] at hlow hlt
  have hround : roundUnits n d = 9007199254740992 * 2 ^ j := by
    refine roundUnits_eq hd (.inr ?_) ?_ ?_ ?_ fun hodd => ?_ <;> omega
  rw [hround]
  ring

/-! ### The rounding interval -/

/-- The rounding interval by the significand. Below the smallest significand that is scaled, the
interval is half as wide. -/
theorem exists_roundingInterval_eq (a : Magnitude) :
    ∃ m k, a.units = m * 2 ^ k ∧ m < 9007199254740992 ∧ (k = 0 ∨ 4503599627370496 ≤ m) ∧
      a.roundingInterval =
        ⟨4 * (m * 2 ^ k) - if 0 < k ∧ m = 4503599627370496 then 2 ^ k else 2 * 2 ^ k,
          4 * (m * 2 ^ k) + 2 * 2 ^ k, m % 2 = 0⟩ := by
  obtain ⟨m, hunits, hm, hk⟩ := a.representable.exists_significand
  have hpos : 0 < 2 ^ slack a.units := Nat.two_pow_pos _
  have hdiv : a.units / 2 ^ slack a.units = m := Nat.div_eq_of_eq_mul_left hpos hunits
  have hscaled : 1 < 2 ^ slack a.units ↔ 0 < slack a.units := by simp [Nat.pos_iff_ne_zero]
  have hpower : a.units = 4503599627370496 * 2 ^ slack a.units ↔ m = 4503599627370496 := by
    conv_lhs => lhs; rw [hunits]
    exact Nat.mul_left_inj hpos.ne'
  refine ⟨m, slack a.units, hunits, hm, hk, ?_⟩
  simp only [roundingInterval, spacing, Nat.pow_eq, Nat.reducePow, hdiv, hscaled, hpower, ← hunits]

/-- Whether a quotient `n / d` of units lies in a rounding interval. -/
structure RoundingInterval.Holds (i : RoundingInterval) (n d : Nat) : Prop where
  /-- It is not below the interval. -/
  low_le : i.low * d ≤ 4 * n
  /-- It is not above the interval. -/
  le_high : 4 * n ≤ i.high * d
  /-- It is no bound that does not belong to the interval. -/
  inside : i.closed = false → i.low * d < 4 * n ∧ 4 * n < i.high * d

/-- The bounds of the rounding interval are at most half of the spacing away. -/
theorem roundingInterval_bounds (a : Magnitude) :
    4 * a.units ≤ a.roundingInterval.low + 2 * a.spacing ∧
      a.roundingInterval.high = 4 * a.units + 2 * a.spacing := by
  refine ⟨?_, rfl⟩
  rw [roundingInterval]
  dsimp only
  split <;> omega

/-- A magnitude lies within its own rounding interval. -/
theorem holds_units (h : 0 < a.units) : a.roundingInterval.Holds a.units 1 := by
  have hspacing : 0 < a.spacing := Nat.two_pow_pos _
  have hlow : a.roundingInterval.low < 4 * a.units := by
    rw [roundingInterval]
    dsimp only
    split <;> omega
  have hhigh := a.roundingInterval_bounds.2
  exact ⟨by omega, by omega, fun _ => by omega⟩

/-- **The rounding interval.** Quotients in the rounding interval of a magnitude are rounded to
it. -/
theorem roundUnits_of_holds (hd : 0 < d) (h : a.roundingInterval.Holds n d) :
    roundUnits n d = a.units := by
  obtain ⟨m, k, hunits, hm, hk, hinterval⟩ := a.exists_roundingInterval_eq
  obtain ⟨hlow, hhigh, hinside⟩ := h
  simp only [hinterval, decide_eq_false_iff_not] at hlow hhigh hinside
  rw [hunits]
  -- all bounds are multiples of the same denominator
  have hpos : 0 < d * 2 ^ k := Nat.mul_pos hd (Nat.two_pow_pos k)
  have hwhole : 4 * (m * 2 ^ k) * d = 4 * (m * (d * 2 ^ k)) := by ring
  have htwice : 2 * 2 ^ k * d = 2 * (d * 2 ^ k) := by ring
  have honce : 2 ^ k * d = d * 2 ^ k := Nat.mul_comm _ _
  rw [Nat.add_mul, hwhole, htwice] at hhigh hinside
  rw [Nat.sub_mul, hwhole] at hlow hinside
  have hsignificand : m * (d * 2 ^ k) + d * 2 ^ k ≤ 9007199254740992 * (d * 2 ^ k) := by
    rw [← Nat.succ_mul]
    exact Nat.mul_le_mul_right _ hm
  by_cases hbinade : (0 < k ∧ m = 4503599627370496) ∧ n < m * (d * 2 ^ k)
  · obtain ⟨⟨hscaled, rfl⟩, hlt⟩ := hbinade
    rw [if_pos ⟨hscaled, rfl⟩, honce] at hlow
    exact roundUnits_below_power hd hscaled (by omega) hlt
  · have hscaled : k = 0 ∨ 4503599627370496 * (d * 2 ^ k) ≤ n := by
      by_contra hsmall
      push Not at hsmall
      obtain ⟨hk0, hn⟩ := hsmall
      -- the quotient is below all significands with 53 bits, so it is below that of the magnitude
      have hle : 4503599627370496 ≤ m := hk.resolve_left hk0
      have hunit : 4503599627370496 * (d * 2 ^ k) ≤ m * (d * 2 ^ k) := Nat.mul_le_mul_right _ hle
      have hne : m ≠ 4503599627370496 :=
        fun hm => hbinade ⟨⟨Nat.pos_of_ne_zero hk0, hm⟩, Nat.lt_of_lt_of_le hn hunit⟩
      have hnext : (4503599627370496 + 1) * (d * 2 ^ k) ≤ m * (d * 2 ^ k) :=
        Nat.mul_le_mul_right _ (Nat.lt_of_le_of_ne hle (Ne.symm hne))
      rw [if_neg fun h => hne h.2, htwice] at hlow
      omega
    have hbelow : (if 0 < k ∧ m = 4503599627370496 then 2 ^ k else 2 * 2 ^ k) * d ≤
        2 * (d * 2 ^ k) := by
      split <;> omega
    refine roundUnits_eq hd hscaled ?_ ?_ ?_ fun hodd => ?_
    · omega
    · omega
    · omega
    · have := hinside (by omega)
      omega

/-! ### Rounding and order -/

/-- Rounding does not take a quotient far up. -/
theorem two_mul_nearestDiv_le (hd : 0 < d) : 2 * (nearestDiv n d * d) ≤ 2 * n + d := by
  have hr : n % d < d := Nat.mod_lt n hd
  have hsucc : (n / d + 1) * d = n / d * d + d := Nat.succ_mul _ d
  rw [← Nat.div_add_mod' n d, nearestDiv_mul_add hr]
  split
  next => omega
  next =>
    split
    next => omega
    next =>
      rcases Nat.mod_two_eq_zero_or_one (n / d) with heven | hodd
      · rw [heven, Nat.add_zero]
        omega
      · rw [hodd]
        omega

/-- A quotient is not rounded above a natural number that is not below it. -/
theorem nearestDiv_le_of_le (hd : 0 < d) (h : n ≤ m * d) : nearestDiv n d ≤ m := by
  have hbound := two_mul_nearestDiv_le (n := n) hd
  by_contra hlt
  have hsucc : (m + 1) * d ≤ nearestDiv n d * d := Nat.mul_le_mul_right d (Nat.lt_of_not_le hlt)
  rw [Nat.succ_mul] at hsucc
  omega

/-- A quotient is rounded to less than an even natural number just when it is more than half of one
below it. -/
theorem nearestDiv_lt_iff_of_even (hd : 0 < d) (hm : m % 2 = 0) :
    nearestDiv n d < m ↔ 2 * n + d < 2 * (m * d) := by
  constructor
  · intro hlt
    by_contra hnear
    rcases Nat.lt_or_ge n (m * d) with hbelow | habove
    · -- so near below an even number a quotient is rounded up to it
      have hround : nearestDiv n d = m :=
        nearestDiv_eq hd (by omega) (by omega) fun hodd => by omega
      exact hlt.ne hround
    · have hdiv : m ≤ n / d := (Nat.le_div_iff_mul_le hd).2 habove
      exact hlt.not_ge (hdiv.trans (le_nearestDiv n d))
  · intro hfar
    have hbound := two_mul_nearestDiv_le (n := n) hd
    exact Nat.lt_of_mul_lt_mul_right (a := d) (by omega)

/-- A quotient that is close to a large bound has more than 53 bits. -/
theorem slack_div_pos {c y : Nat} (hy : 0 < y) (hlarge : 9007199254740992 < c)
    (hclose : 2 * (c * y) ≤ 2 * u + y) : 0 < slack (u / y) := by
  obtain ⟨e, rfl⟩ : ∃ e, c = e + 1 := Nat.exists_eq_add_one_of_ne_zero (by omega)
  have hsucc : (e + 1) * y = e * y + y := Nat.succ_mul e y
  have hquotient : e ≤ u / y := (Nat.le_div_iff_mul_le hy).2 (by omega)
  have hlog : 53 ≤ (u / y).log2 := by
    rw [Nat.le_log2 (by omega)]
    omega
  rw [slack]
  omega

/-- A number has as many bits as a quotient of it and the divisor together, or one more. -/
theorem add_log2_le_log2 {y : Nat} (hy : 0 < y) (h : 0 < slack (u / y)) :
    52 + slack (u / y) + y.log2 ≤ u.log2 := by
  have hne : u / y ≠ 0 := by
    intro hzero
    rw [hzero] at h
    exact absurd h (by decide)
  have hquotient : 2 ^ (52 + slack (u / y)) ≤ u / y := by
    rw [← Nat.le_log2 hne]
    rw [slack] at h ⊢
    omega
  have hne' : u ≠ 0 := fun hu => hne (by rw [hu, Nat.zero_div])
  rw [Nat.le_log2 hne', Nat.pow_add]
  calc 2 ^ (52 + slack (u / y)) * 2 ^ y.log2 ≤ u / y * y :=
        Nat.mul_le_mul hquotient (Nat.log2_self_le hy.ne')
    _ ≤ u := Nat.div_mul_le_self u y

/-- **Rounded quotients and order.** A magnitude divided by a natural number is below a bound just
when it is after rounding, if the bound is large and leaves as many bits unused as the magnitude. -/
theorem roundUnits_lt_iff {b y : Nat} (ha : Representable u) (hy : 0 < y) (hb : 2 ^ slack u ∣ b)
    (hlarge : 9007199254740992 < b) : roundUnits u y < b ↔ u < b * y := by
  have hslack : slack (u / y) ≤ slack u := slack_mono (Nat.div_le_self u y)
  obtain ⟨c, hc⟩ := (Nat.pow_dvd_pow 2 hslack).trans hb
  have hpos : 0 < 2 ^ slack (u / y) := Nat.two_pow_pos _
  have hunit : 0 < y * 2 ^ slack (u / y) := Nat.mul_pos hy hpos
  have hround : roundUnits u y =
      nearestDiv u (y * 2 ^ slack (u / y)) * 2 ^ slack (u / y) := by
    simp only [roundUnits, Nat.pow_eq]
  have hbound : b * y = c * (y * 2 ^ slack (u / y)) := by
    rw [hc]
    ring
  rw [hround, hbound]
  conv_lhs => rw [hc, Nat.mul_comm (2 ^ slack (u / y)), Nat.mul_lt_mul_right hpos]
  constructor
  · intro hlt
    by_contra hle
    have hdiv : c ≤ u / (y * 2 ^ slack (u / y)) :=
      (Nat.le_div_iff_mul_le hunit).2 (Nat.le_of_not_lt hle)
    exact absurd hlt (Nat.not_lt.2 (hdiv.trans (le_nearestDiv _ _)))
  · intro hlt
    by_contra hge
    -- if the bound were reached, the quotient would have to be close to it
    have hclose : 2 * (c * (y * 2 ^ slack (u / y))) ≤ 2 * u + y * 2 ^ slack (u / y) :=
      (Nat.mul_le_mul_left 2 (Nat.mul_le_mul_right _ (Nat.le_of_not_lt hge))).trans
        (two_mul_nearestDiv_le hunit)
    -- but a magnitude below the bound is at least one of its own units away from it
    have hgap : 2 ^ slack u ≤ c * (y * 2 ^ slack (u / y)) - u := by
      refine Nat.le_of_dvd (by omega) (Nat.dvd_sub ?_ ha.2)
      rw [← hbound]
      exact hb.mul_right y
    have hbits : slack u < y.log2 + slack (u / y) := by
      have hpow : 2 ^ (slack u + 1) < 2 ^ (y.log2 + 1 + slack (u / y)) :=
        calc 2 ^ (slack u + 1) = 2 * 2 ^ slack u := Nat.pow_succ'
          _ ≤ y * 2 ^ slack (u / y) := by omega
          _ < 2 ^ (y.log2 + 1) * 2 ^ slack (u / y) :=
            (Nat.mul_lt_mul_right hpos).2 Nat.lt_log2_self
          _ = 2 ^ (y.log2 + 1 + slack (u / y)) := (Nat.pow_add ..).symm
      have hlt := (Nat.pow_lt_pow_iff_right (by decide)).1 hpow
      omega
    -- so few bits would be left only for a quotient that is not rounded at all
    have hscaled : 0 < slack (u / y) := by
      refine Nat.pos_of_ne_zero fun hzero => ?_
      rw [hzero, Nat.pow_zero] at hc hclose
      rw [Nat.one_mul] at hc
      rw [Nat.mul_one] at hclose
      have hcontra := slack_div_pos hy (hc ▸ hlarge) hclose
      omega
    have hlog := add_log2_le_log2 hy hscaled
    rw [slack] at hbits
    omega

end Magnitude

end Gleaner
