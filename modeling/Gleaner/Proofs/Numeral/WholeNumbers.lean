import Gleaner.Proofs.Number.Decimal
import Gleaner.Proofs.Numeral.Writing

/-!
# Whole numbers are read back

In a style without a unit of its own, a number without a fractional part is written by all of its
digits. Commas, the currency sign, spaces and the marks of the sign take no part when the text is
read, and zeros after the point and an ordinal ending do not change the number. So the number comes
back.

## Main results

* `Decimal.read?_pointed`: digits with a point among them.
* `Decimal.read?_digits_zeroPlaces`, `Decimal.toDouble_mul_pow_ten`: digits with zeros after the
  point spell the number without them.
* `Double.less_zero_iff`: the numbers below zero.
* `Numeral.Style.core_of_units`, `Numeral.Style.body_spec`: what is left of a text when it is read.
* `Numeral.Style.read?_write_of_units`: numbers without a fractional part are read back.
-/

namespace Gleaner

variable {k m : Nat} {a : Magnitude} {c : Char}

/-! ### Zeros after the point -/

/-- The characters of a point with zeros. -/
theorem mem_zeroPlaces (h : c ∈ zeroPlaces m) : isDigit c ∨ c = '.' := by
  unfold zeroPlaces at h
  split at h
  · cases h
  · rcases List.mem_cons.1 h with rfl | h
    · exact .inr rfl
    · rw [List.eq_of_mem_replicate h]
      exact .inl (by decide)

namespace Decimal

/-- Digits with a point among them are read by their places. -/
theorem read?_pointed {whole fraction : List Char} (hwhole : ∀ c ∈ whole, isDigit c)
    (hfraction : ∀ c ∈ fraction, isDigit c) (hne : whole ≠ []) :
    read? (whole ++ pointed fraction) =
      some ⟨ofDigits (whole ++ fraction), -(fraction.length : Int)⟩ := by
  cases fraction with
  | nil =>
    have hpoint : pointed [] = [] := rfl
    rw [hpoint, List.append_nil, read?_of_forall hwhole hne]
    rfl
  | cons c fraction =>
    exact read?_point hwhole hfraction (List.append_ne_nil_of_left_ne_nil hne _)

/-- Digits with zeros after the point are read with these zeros. -/
theorem read?_digits_zeroPlaces (k m : Nat) :
    read? (digits k ++ zeroPlaces m) = some ⟨k * 10 ^ m, -(m : Int)⟩ := by
  have hdigits : ∀ c ∈ digits k, isDigit c := fun c => isDigit_of_mem_digits
  have hzeros : ∀ c ∈ List.replicate m '0', isDigit c := by
    intro c hc
    rw [List.eq_of_mem_replicate hc]
    decide
  rw [← pointed_replicate, read?_pointed hdigits hzeros (digits_ne_nil k), ofDigits_append,
    ofDigits_digits, ofDigits_replicate_zero, List.length_replicate, Nat.add_zero, Nat.mul_comm]

/-- The zeros do not count. -/
theorem toDouble_mul_pow_ten (k m : Nat) :
    (⟨k * 10 ^ m, -(m : Int)⟩ : Decimal).toDouble false = .ofNat k := by
  have hup : (-(m : Int)).toNat = 0 := by omega
  have hdown : (-(-(m : Int))).toNat = m := by omega
  rw [toDouble, hup, hdown, Double.ofRatio, Double.ofNat, Double.ofRatio]
  calc Double.ofUnits false (k * 10 ^ m * Nat.pow 10 0 * unitsPerOne) (Nat.pow 10 m)
      = Double.ofUnits false (k * unitsPerOne * 10 ^ m) (1 * 10 ^ m) := by
        simp only [Nat.pow_eq]
        rw [Nat.pow_zero, Nat.mul_one, Nat.one_mul, Nat.mul_right_comm]
    _ = Double.ofUnits false (k * unitsPerOne) 1 :=
        Double.ofUnits_mul_mul _ _ _ (Nat.pow_pos (by decide))

end Decimal

/-- A whole number is zero when its units are. -/
theorem Magnitude.units_eq_zero_iff (ha : a.units = k * unitsPerOne) : a.units = 0 ↔ k = 0 := by
  rw [ha, Nat.mul_eq_zero]
  exact or_iff_left (Nat.ne_of_gt unitsPerOne_pos)

namespace Double

/-- A whole number is the double nearest to it. -/
theorem ofNat_of_units (ha : a.units = k * unitsPerOne) : ofNat k = .finite false a := by
  rw [ofNat, ofRatio, ← ha, ofUnits_units]

/-- A whole number with the sign that it has unless it is zero. -/
theorem dropZeroSign_of_units (ha : a.units = k * unitsPerOne) (s : Bool) :
    (finite s a).dropZeroSign = if k = 0 then .finite false a else .finite s a := by
  have hzero : ofNat 0 = zero := ofNat_of_units (a := .zero) (Nat.zero_mul _).symm
  simp only [dropZeroSign, isZero, beq_iff_eq, Magnitude.units_eq_zero_iff ha]
  split
  next hk =>
    subst hk
    exact hzero.symm.trans (ofNat_of_units ha)
  next => rfl

/-- The numbers below zero. -/
theorem less_zero_iff {s : Bool} : (finite s a).less 0 ↔ s ∧ a.units ≠ 0 := by
  have hzero : (0 : Double) = .finite false (.whole 0 (by decide)) := ofNat_eq (by decide)
  have hunits : signedUnits false (.whole 0 (by decide)) = 0 := by
    rw [signedUnits, Magnitude.units_whole, Nat.zero_mul]
    rfl
  rw [less, hzero, order, hunits, beq_iff_eq, Option.some_inj, Int.compare_eq_lt, signedUnits]
  cases s with
  | false => simp
  | true =>
    simp
    omega

end Double

namespace Numeral

/-! ### Characters of whole numbers -/

/-- A whole number with zeros after the point is made of figures and ends with a digit. -/
theorem spells_digits_zeroPlaces (k m : Nat) :
    Spells (digits k ++ zeroPlaces m) ⟨k * 10 ^ m, -(m : Int)⟩ where
  figures c hc := by
    rw [isFigure_iff]
    exact (List.mem_append.1 hc).elim (fun hc => .inl (isDigit_of_mem_digits hc)) mem_zeroPlaces
  ends := by
    cases m with
    | zero =>
      have hzero : zeroPlaces 0 = [] := rfl
      rw [hzero, List.append_nil]
      exact getLast?_any_isDigit (fun _ => isDigit_of_mem_digits) (digits_ne_nil k)
    | succ m =>
      have hlast : (zeroPlaces (m + 1)).getLast? = some '0' := by
        simp [zeroPlaces, List.getLast?_cons, List.getLast?_replicate]
      rw [List.getLast?_append, hlast]
      rfl
  read := Decimal.read?_digits_zeroPlaces k m

/-- A space is no mark. -/
theorem isMark_of_mem_spaceIf (spaced : Bool) : ∀ c ∈ spaceIf spaced, isMark c = false := by
  cases spaced <;> simp [spaceIf, isMark]

/-- A space takes no part in the number. -/
theorem filter_spaceIf (spaced : Bool) : (spaceIf spaced).filter (!isIgnored ·) = [] := by
  cases spaced <;> rfl

/-- The ending of an ordinal number is one of the four. -/
theorem ordinalEnding_mem (n : Nat) : ordinalEnding n ∈ ordinalEndings := by
  unfold ordinalEnding
  repeat' split
  all_goals decide

/-- An ordinal ending is a unit that does not change the number. -/
theorem splitUnit_ordinalEnding (n : Nat) :
    splitUnit ('0' :: (ordinalEnding n).toList) = (['0'], .ten 0) := by
  have hall : ordinalEndings.all
      (fun ending => splitUnit ('0' :: ending.toList) = (['0'], .ten 0)) = true := by decide
  simpa using List.all_eq_true.1 hall _ (ordinalEnding_mem n)

/-- An ordinal ending has no sign, and each of its characters counts. -/
theorem isUnsigned_ordinalEnding (n : Nat) :
    IsUnsigned (ordinalEnding n).toList ∧
      (ordinalEnding n).toList.filter (!isIgnored ·) = (ordinalEnding n).toList := by
  have hall : ordinalEndings.all (fun ending => ending != "" && ending.toList.all
      fun c => !isBlank c && !isMark c && !isIgnored c) = true := by decide
  have hending := List.all_eq_true.1 hall _ (ordinalEnding_mem n)
  simp only [Bool.and_eq_true, bne_iff_ne, List.all_eq_true, Bool.not_eq_true'] at hending
  obtain ⟨hne, hchars⟩ := hending
  refine ⟨.of_forall (by simpa using hne) fun c hc => (hchars c hc).1, ?_⟩
  exact List.filter_eq_self.2 fun c hc => by simp [(hchars c hc).2]

/-- Without a unit of its own a number is written as it is, with an ordinal ending or nothing. -/
theorem Suffix.split_of_plain {suffix : Suffix} (h : suffix = .none ∨ suffix = .ordinal)
    (x : Double) :
    ∃ ending, suffix.split x = (x, ending) ∧
      (ending = [] ∨ ∃ n, ending = (ordinalEnding n).toList) := by
  rcases h with rfl | rfl
  · exact ⟨[], rfl, .inl rfl⟩
  · exact ⟨_, rfl, .inr ⟨x.round.toWord, rfl⟩⟩

/-! ### Whole numbers in a style -/

/-- The digits of a whole number and zeros after the point have no sign. -/
theorem isUnsigned_number (grouped : Bool) (k m : Nat) :
    IsUnsigned (wholeDigits grouped k ++ zeroPlaces m) := by
  refine .of_forall (List.append_ne_nil_of_left_ne_nil (wholeDigits_ne_nil grouped k) _) ?_
  intro c hc
  have hcases : isDigit c ∨ c = ',' ∨ c = '.' := by
    rcases List.mem_append.1 hc with hc | hc
    · exact (mem_wholeDigits hc).imp_right .inl
    · exact (mem_zeroPlaces hc).imp_right .inr
  rcases hcases with hdigit | rfl | rfl
  · exact ⟨Unicode.isBlank_of_isDigit hdigit, isMark_of_isDigit hdigit⟩
  · decide
  · decide

/-- Without the commas these are digits and zeros after the point. -/
theorem filter_number (grouped : Bool) (k m : Nat) :
    (wholeDigits grouped k ++ zeroPlaces m).filter (!isIgnored ·) = digits k ++ zeroPlaces m := by
  have hzeros : (zeroPlaces m).filter (!isIgnored ·) = zeroPlaces m := by
    refine List.filter_eq_self.2 fun c hc => ?_
    rcases mem_zeroPlaces hc with hdigit | rfl
    · rw [isIgnored_of_isDigit hdigit]
      rfl
    · decide
  rw [List.filter_append, hzeros,
    filter_wholeDigits (by decide) fun c hdigit => by rw [isIgnored_of_isDigit hdigit]; rfl]

namespace Style

variable {style : Style} {s : Bool}

/-- The currency sign takes no part in the number. -/
theorem body_spec {x : Double} (hcore : IsUnsigned (style.number x ++ style.ending x)) :
    IsUnsigned (style.body x) ∧ (style.body x).filter (!isIgnored ·) =
      (style.number x ++ style.ending x).filter (!isIgnored ·) := by
  have hsign : IsUnsigned ['$'] := .of_forall (List.cons_ne_nil _ _) (by simp; decide)
  have hsignFilter : ['$'].filter (!isIgnored ·) = [] := rfl
  unfold body
  rcases style.currency with _ | ⟨_ | _, spaced⟩
  · exact ⟨hcore, rfl⟩
  · -- the currency sign is at the end
    have htrailing := hcore.append_between hsign (isMark_of_mem_spaceIf spaced)
    simp only [Bool.false_eq_true, if_false, List.append_assoc] at htrailing ⊢
    refine ⟨htrailing, ?_⟩
    simp only [List.filter_append, filter_spaceIf, hsignFilter, List.append_nil]
  · -- the currency sign is at the start
    have hleading := hsign.append_between hcore (isMark_of_mem_spaceIf spaced)
    simp only [if_true, List.append_assoc, List.cons_append, List.nil_append] at hleading ⊢
    refine ⟨hleading, ?_⟩
    have hcons (cs : List Char) :
        ('$' :: cs).filter (!isIgnored ·) = cs.filter (!isIgnored ·) := rfl
    simp only [hcons, List.filter_append, filter_spaceIf, List.nil_append]

section Shown

variable (hsuffix : style.suffix = .none ∨ style.suffix = .ordinal)
  (ha : a.units = k * unitsPerOne)

include hsuffix ha

/-- The number and the ending of a whole number, in a style that shows it as it is. -/
theorem core_of_units (s : Bool) :
    IsUnsigned (style.number (.finite s a) ++ style.ending (.finite s a)) ∧
      ∃ unit, splitUnit ('0' :: unit) = (['0'], .ten 0) ∧
        (style.number (.finite s a) ++ style.ending (.finite s a)).filter (!isIgnored ·) =
          digits k ++ zeroPlaces (min style.places.least style.places.most) ++ unit := by
  obtain ⟨suffix, hsplit, hcases⟩ := Suffix.split_of_plain hsuffix (Double.finite s a).abs
  have habs : (Double.finite s a).abs = .finite false a := rfl
  have hnumber : style.number (.finite s a) = wholeDigits style.places.grouped k ++
      zeroPlaces (min style.places.least style.places.most) := by
    rw [number, hsplit, habs, style.places.write_of_units ha]
  have hunsigned := isUnsigned_number style.places.grouped k
    (min style.places.least style.places.most)
  rw [List.filter_append, hnumber, filter_number]
  rcases hcases with rfl | ⟨n, rfl⟩
  · have hending : style.ending (.finite s a) = [] := by
      rw [ending, hsplit]
      simp
    rw [hending, List.append_nil]
    exact ⟨hunsigned, [], rfl, rfl⟩
  · -- the space before the ending is left out when the text is read
    obtain ⟨hordinal, hfilter⟩ := isUnsigned_ordinalEnding n
    have hending : style.ending (.finite s a) =
        spaceIf style.suffixSpaced ++ (ordinalEnding n).toList := by
      have hfilled : (ordinalEnding n).toList.isEmpty = false :=
        Bool.eq_false_iff.2 fun hempty => hordinal.ne_nil (List.isEmpty_iff.1 hempty)
      rw [ending, hsplit]
      dsimp only
      rw [hfilled]
      cases style.suffixSpaced <;> rfl
    rw [hending, List.filter_append, filter_spaceIf, hfilter]
    exact ⟨hunsigned.append_between hordinal (isMark_of_mem_spaceIf _), _,
      splitUnit_ordinalEnding n, rfl⟩

/-- The sign of a whole number that is shown as it is. -/
theorem isNegative_sign : (style.sign (.finite s a)).isNegative = (s && decide (k ≠ 0)) := by
  have hunits : a.units ≠ 0 ↔ k ≠ 0 := not_congr (Magnitude.units_eq_zero_iff ha)
  obtain ⟨suffix, hsplit, -⟩ := Suffix.split_of_plain hsuffix (Double.finite s a).abs
  have hnumber : style.number (.finite s a) = style.places.write (.finite false a) := by
    rw [number, hsplit]
    rfl
  rw [sign]
  by_cases hnegative : s ∧ k ≠ 0
  · -- a digit that is not zero is shown, so the number keeps its sign
    have hless : (Double.finite s a).less 0 :=
      Double.less_zero_iff.2 ⟨hnegative.1, hunits.2 hnegative.2⟩
    have hshown := showsNonzero_of_units style.places ha hnegative.2
    rw [hnumber, hless, hshown]
    cases style.parentheses <;> simp [Sign.isNegative, hnegative]
  · have hless : (Double.finite s a).less 0 = false := by
      rw [Bool.eq_false_iff, Ne, Double.less_zero_iff, hunits]
      exact hnegative
    have hfalse : (s && decide (k ≠ 0)) = false := by simpa using hnegative
    rw [hless, hfalse, Bool.false_and, if_neg Bool.false_ne_true]
    split <;> rfl

/-- **Whole numbers are read back.** A number without a fractional part that is written in a style
without a unit of its own is read back as that number, zero without its sign: whatever the groups,
the places, the currency sign, the ordinal ending and the sign are. -/
theorem read?_write_of_units (s : Bool) :
    read? (style.write (.finite s a)) = some (Double.finite s a).dropZeroSign := by
  obtain ⟨hcore, unit, hunit, hfilter⟩ := core_of_units hsuffix ha s
  obtain ⟨hbody, hbodyFilter⟩ := body_spec hcore
  have hmagnitude : magnitude? (style.body (.finite s a)) = some (.finite false a) := by
    rw [magnitude?_of_figures (spells_digits_zeroPlaces _ _) hunit (hbodyFilter.trans hfilter),
      Scale.apply, Decimal.scale, Int.add_zero, Decimal.toDouble_mul_pow_ten,
      Double.ofNat_of_units ha]
  rw [write_eq, read?_around _ hbody, hmagnitude, isNegative_sign hsuffix ha, Option.map_some,
    Double.dropZeroSign_of_units ha]
  by_cases hk : k = 0
  · simp [hk]
  · cases s
    · simp [hk]
    · simp [hk]
      rfl

end Shown

end Style

end Numeral

end Gleaner
