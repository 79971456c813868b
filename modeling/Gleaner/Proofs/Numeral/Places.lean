import Gleaner.Proofs.Numeral.WholeNumbers
import Mathlib.Data.List.Basic

/-!
# Grouped and trimmed digits

A number is first written with all the places that a pattern allows. Then commas are put between the
digits of its integer part, and zeros are taken from its end as far as the pattern allows this. Both
can be undone: without the commas and with the zeros the text is the one with all places, so the two
are the same decimal number.

## Main definitions

* `Numeral.IsGrouped`: digits in groups of three, the first of which may be shorter.
* `Numeral.Places.Shows`: what the digits before and after the point have to be.

## Main results

* `Decimal.exists_pointBefore_digits_eq`: a number with a fixed number of places.
* `Numeral.isGrouped_groupThousands`: thousands are grouped.
* `Numeral.eq_trimZeros_append`: what is taken from the end.
* `Numeral.Places.exists_kept_eq`: which digits are written.
* `Numeral.Places.exists_write_eq`: what is written is grouped and trimmed.
* `Numeral.Places.write_placesOf`: the same by the text of a pattern.
* `Numeral.Places.exists_read?_write_eq`: the decimal number that is written.
-/

namespace Gleaner

variable {c : Char} {cs whole fraction : List Char}

/-! ### Fixed numbers of places -/

namespace Decimal

/-- A natural number as a decimal number: its digits, with zeros in front of them where they are too
few for a digit before the point. -/
theorem exists_pointBefore_digits_eq (places n : Nat) :
    ∃ whole fraction, pointBefore places (digits n) = whole ++ pointed fraction ∧
      (∀ c ∈ whole, isDigit c) ∧ (∀ c ∈ fraction, isDigit c) ∧ whole ≠ [] ∧
      fraction.length = places ∧ ofDigits (whole ++ fraction) = n := by
  rcases Nat.eq_zero_or_pos places with rfl | hpos
  · refine ⟨digits n, [], (List.append_nil _).symm, fun c => isDigit_of_mem_digits,
      List.forall_mem_nil _, digits_ne_nil n, rfl, ?_⟩
    rw [List.append_nil, ofDigits_digits]
  · obtain ⟨whole, fraction, htext, hdigits, hlength⟩ := exists_pointBefore_eq hpos (digits n)
    have hpadded : whole ++ fraction = paddedDigits (places + 1) n := hdigits
    have hfraction : fraction.isEmpty = false := by
      rw [List.isEmpty_eq_false_iff, ← List.length_pos_iff]
      omega
    have hall : ∀ c ∈ whole ++ fraction, isDigit c := by
      intro c hc
      rw [hpadded] at hc
      exact isDigit_of_mem_paddedDigits hc
    refine ⟨whole, fraction, ?_, (List.forall_mem_append.1 hall).1,
      (List.forall_mem_append.1 hall).2, ?_, hlength, ?_⟩
    · rw [htext, pointed, hfraction, if_neg Bool.false_ne_true]
    · -- more digits than follow the point are written
      rintro rfl
      have htotal := length_padLeft (places + 1) '0' (digits n)
      rw [← hdigits, List.nil_append] at htotal
      omega
    · rw [hpadded, ofDigits_paddedDigits]

end Decimal

namespace Numeral

/-! ### Groups of three -/

/-- Groups of three digits with a comma in front of each. -/
inductive Triples : List Char → Prop where
  /-- No group. -/
  | nil : Triples []
  /-- One more group in front. -/
  | cons {x y z : Char} {rest : List Char} :
    isDigit x → isDigit y → isDigit z → Triples rest → Triples (',' :: x :: y :: z :: rest)

/-- Digits in groups of three that are separated by commas, the first group being of one digit, of
two or of three. -/
def IsGrouped (cs : List Char) : Prop :=
  ∃ first rest, cs = first ++ rest ∧ (∀ c ∈ first, isDigit c) ∧
    1 ≤ first.length ∧ first.length ≤ 3 ∧ Triples rest

/-- Grouping leaves in the first group what the groups of three do not take. -/
theorem exists_groupThousands_eq (h : ∀ c ∈ cs, isDigit c) (hne : cs ≠ []) :
    ∃ first rest, groupThousands cs = first ++ rest ∧ (∀ c ∈ first, isDigit c) ∧
      first.length = (cs.length - 1) % 3 + 1 ∧ Triples rest := by
  induction cs with
  | nil => exact absurd rfl hne
  | cons c cs ih =>
    obtain ⟨hc, hcs⟩ := List.forall_mem_cons.1 h
    by_cases hnil : cs = []
    · subst hnil
      exact ⟨[c], [], rfl, h, rfl, .nil⟩
    have hpos : 0 < cs.length := List.length_pos_iff.2 hnil
    obtain ⟨first, rest, hgroups, hfirst, hlength, htriples⟩ := ih hcs hnil
    by_cases hfull : cs.length % 3 = 0
    · -- the first group of the other digits is full, so that a new one begins
      have hthree : first.length = 3 := by omega
      obtain ⟨x, y, z, rfl⟩ := List.length_eq_three.1 hthree
      simp only [List.forall_mem_cons] at hfirst
      refine ⟨[c], ',' :: x :: y :: z :: rest, ?_, ?_, ?_, ?_⟩
      · rw [groupThousands, hgroups]
        simp [hfull, hnil]
      · simpa using hc
      · simp only [List.length_cons, List.length_nil]
        omega
      · exact .cons hfirst.1 hfirst.2.1 hfirst.2.2.1 htriples
    · refine ⟨c :: first, rest, ?_, List.forall_mem_cons.2 ⟨hc, hfirst⟩, ?_, htriples⟩
      · rw [groupThousands, hgroups]
        simp [hfull]
      · simp only [List.length_cons]
        omega

/-- **Thousands are grouped.** -/
theorem isGrouped_groupThousands (h : ∀ c ∈ cs, isDigit c) (hne : cs ≠ []) :
    IsGrouped (groupThousands cs) := by
  obtain ⟨first, rest, hgroups, hfirst, hlength, htriples⟩ := exists_groupThousands_eq h hne
  exact ⟨first, rest, hgroups, hfirst, by omega, by omega, htriples⟩

/-! ### Zeros at the end -/

/-- A text ends with some zeros after another character, or with zeros alone. -/
theorem exists_append_zeros (cs : List Char) :
    ∃ front, cs = front ++ List.replicate (cs.reverse.takeWhile (· = '0')).length '0' ∧
      front.getLast? ≠ some '0' := by
  refine ⟨(cs.reverse.dropWhile (· = '0')).reverse, ?_, ?_⟩
  · have hzeros : ∀ c ∈ cs.reverse.takeWhile (· = '0'), c = '0' := by
      intro c hc
      simpa using List.mem_takeWhile_imp hc
    have hsplit := congrArg List.reverse
      (List.takeWhile_append_dropWhile (p := (· = '0')) (l := cs.reverse))
    rw [List.reverse_append, List.reverse_reverse, List.eq_replicate_of_mem hzeros,
      List.reverse_replicate] at hsplit
    exact hsplit.symm
  · intro hlast
    rw [List.getLast?_reverse] at hlast
    have hstop := List.head?_dropWhile_not (p := fun c : Char => decide (c = '0')) cs.reverse
    rw [hlast] at hstop
    simp at hstop

/-- **What is taken from the end.** Only zeros are taken away, and none of the characters that have
to stay. If more than these stay, the last one is no zero. -/
theorem eq_trimZeros_append {least : Nat} (h : least ≤ cs.length) :
    cs = trimZeros least cs ++ List.replicate (cs.length - (trimZeros least cs).length) '0' ∧
      least ≤ (trimZeros least cs).length ∧
      (least < (trimZeros least cs).length → (trimZeros least cs).getLast? ≠ some '0') := by
  obtain ⟨front, hcs, hlast⟩ := exists_append_zeros cs
  generalize hzeros : (cs.reverse.takeWhile (· = '0')).length = zeros at hcs
  have hlength : cs.length = front.length + zeros := by
    rw [hcs, List.length_append, List.length_replicate]
  have htrim : trimZeros least cs = front ++ List.replicate (least - front.length) '0' := by
    have hcut : max least (cs.length - zeros) = front.length + (least - front.length) := by omega
    have hkept : min (least - front.length) zeros = least - front.length := by omega
    rw [trimZeros, hzeros, hcut, hcs, List.take_length_add_append, List.take_replicate, hkept]
  have hkept : (trimZeros least cs).length = front.length + (least - front.length) := by
    rw [htrim, List.length_append, List.length_replicate]
  refine ⟨?_, by omega, fun hmore => ?_⟩
  · have hrest : zeros = (least - front.length) + (cs.length - (trimZeros least cs).length) := by
      omega
    rw [htrim, List.append_assoc, List.replicate_append_replicate, ← htrim, ← hrest]
    exact hcs
  · -- what has to stay is already there without the zeros
    have hnone : least - front.length = 0 := by omega
    rw [htrim, hnone, List.replicate_zero, List.append_nil]
    exact hlast

/-! ### Written digits -/

namespace Places

variable {p : Places} {a : Magnitude}

/-- What the digits before and after the point have to be, if a number is grouped and trimmed only
and `fixed` is its text with all places. -/
structure Shows (p : Places) (fixed whole fraction : List Char) : Prop where
  /-- As many places are written as there have to be. -/
  least_le : p.least ≤ fraction.length
  /-- No more places are written than there may be. -/
  le_most : fraction.length ≤ p.most
  /-- A place that need not be written is not a zero at the end. -/
  trimmed : p.least < fraction.length → fraction.getLast? ≠ some '0'
  /-- All places are digits. -/
  digits : ∀ c ∈ fraction, isDigit c
  /-- There is a digit before the point. -/
  ne_nil : whole ≠ []
  /-- Commas separate groups of thousands. -/
  grouped : p.grouped → IsGrouped whole
  /-- There are no commas where thousands are not grouped. -/
  ungrouped : p.grouped = false → ∀ c ∈ whole, isDigit c
  /-- Without the commas and with the zeros that are missing this is the text with all places. -/
  fixed_eq : whole.filter (· ≠ ',') ++
    pointed (fraction ++ List.replicate (p.most - fraction.length) '0') = fixed

/-- Without commas the digits before the point are as they were. -/
theorem filter_grouped (h : ∀ c ∈ whole, isDigit c) (grouped : Bool) :
    (if grouped then groupThousands whole else whole).filter (· ≠ ',') = whole := by
  have hnoComma : whole.filter (· ≠ ',') = whole := by
    refine List.filter_eq_self.2 fun c hc => ?_
    have hcomma : c ∉ [','] := not_mem_of_isDigit (h c hc) (by decide)
    simpa using hcomma
  split
  · rw [filter_groupThousands (by decide), hnoComma]
  · exact hnoComma

/-- There are no commas after the point. -/
theorem filter_pointed (h : ∀ c ∈ fraction, isDigit c) :
    (pointed fraction).filter (· ≠ ',') = pointed fraction := by
  refine List.filter_eq_self.2 fun c hc => ?_
  have hpoint : isDigit c ∨ c = '.' := by
    unfold pointed at hc
    split at hc
    · cases hc
    · exact (List.mem_cons.1 hc).symm.imp_left (h c)
  rcases hpoint with hdigit | rfl
  · have hcomma : c ∉ [','] := not_mem_of_isDigit hdigit (by decide)
    simpa using hcomma
  · decide

/-- What is written of a number comes from its text with all places: of the digits after the point
some are kept, and the ones that are missing are zeros. -/
theorem exists_kept_eq (hp : p.least ≤ p.most) (a : Magnitude) :
    ∃ whole kept missing,
      a.fixedText p.most = whole ++ pointed (kept ++ List.replicate missing '0') ∧
      p.write (.finite false a) =
        (if p.grouped then groupThousands whole else whole) ++ pointed kept ∧
      (∀ c ∈ whole, isDigit c) ∧ (∀ c ∈ kept, isDigit c) ∧ whole ≠ [] ∧
      p.least ≤ kept.length ∧ kept.length + missing = p.most ∧
      (p.least < kept.length → kept.getLast? ≠ some '0') ∧
      10 ^ missing * ofDigits (whole ++ kept) =
        nearestDiv (a.units * Nat.pow 10 p.most) unitsPerOne := by
  obtain ⟨whole, fraction, hfixed, hwhole, hfraction, hne, hlength, hvalue⟩ :=
    Decimal.exists_pointBefore_digits_eq p.most
      (nearestDiv (a.units * Nat.pow 10 p.most) unitsPerOne)
  obtain ⟨hzeros, hleast, htrimmed⟩ := eq_trimZeros_append (hp.trans_eq hlength.symm)
  have hwrite := p.write_of_fixedText hwhole (x := .finite false a) hfixed
  generalize trimZeros p.least fraction = kept at hzeros hleast htrimmed hwrite
  generalize fraction.length - kept.length = missing at hzeros
  subst hzeros
  rw [List.length_append, List.length_replicate] at hlength
  rw [← List.append_assoc, ofDigits_append, ofDigits_replicate_zero, List.length_replicate,
    Nat.add_zero] at hvalue
  exact ⟨whole, kept, missing, hfixed, hwrite, hwhole, (List.forall_mem_append.1 hfraction).1, hne,
    hleast, hlength, htrimmed, hvalue⟩

/-- **Grouped and trimmed digits.** What is written of a number differs from its text with all
places only by commas between groups of thousands and by zeros that are missing at the end. -/
theorem exists_write_eq (hp : p.least ≤ p.most) (a : Magnitude) :
    ∃ whole fraction, p.write (.finite false a) = whole ++ pointed fraction ∧
      p.Shows (a.fixedText p.most) whole fraction := by
  obtain ⟨whole, kept, missing, hfixed, hwrite, hwhole, hkept, hne, hleast, hmost, htrimmed, -⟩ :=
    exists_kept_eq hp a
  refine ⟨_, kept, hwrite, ?_⟩
  exact {
    least_le := hleast
    le_most := by omega
    trimmed := htrimmed
    digits := hkept
    ne_nil := by
      split
      · exact groupThousands_ne_nil hne
      · exact hne
    grouped := fun hgrouped => by
      rw [if_pos hgrouped]
      exact isGrouped_groupThousands hwhole hne
    ungrouped := fun hungrouped => by
      rw [hungrouped, if_neg Bool.false_ne_true]
      exact hwhole
    fixed_eq := by
      rw [filter_grouped hwhole, ← hmost, Nat.add_sub_cancel_left]
      exact hmost ▸ hfixed.symm }

/-- **The decimal number that is written.** Without its commas the text is read as the multiple of
the last place that is nearest to the number. -/
theorem exists_read?_write_eq (hp : p.least ≤ p.most) (a : Magnitude) :
    ∃ d, Decimal.read? ((p.write (.finite false a)).filter (· ≠ ',')) = some d ∧
      d.value = nearestDiv (a.units * 10 ^ p.most) unitsPerOne / 10 ^ p.most := by
  obtain ⟨whole, kept, missing, -, hwrite, hwhole, hkept, hne, -, hmost, -, hvalue⟩ :=
    exists_kept_eq hp a
  refine ⟨⟨ofDigits (whole ++ kept), -(kept.length : Int)⟩, ?_, ?_⟩
  · rw [hwrite, List.filter_append, filter_grouped hwhole, filter_pointed hkept,
      Decimal.read?_pointed hwhole hkept hne]
  · -- the zeros that are missing stand for a power of ten on both sides of the fraction
    have hpow : (10 : ℚ) ^ missing ≠ 0 := pow_ne_zero _ (by norm_num)
    rw [Nat.pow_eq] at hvalue
    rw [Decimal.value, ← hvalue, ← hmost]
    push_cast
    rw [zpow_neg, zpow_natCast, ← div_eq_mul_inv, pow_add, mul_comm ((10 : ℚ) ^ kept.length),
      mul_div_mul_left _ _ hpow]

/-- A pattern does not ask for more places than it allows. -/
theorem least_le_most_placesOf (pattern : List Char) :
    (placesOf pattern).least ≤ (placesOf pattern).most := by
  unfold placesOf
  dsimp only
  split
  · exact le_rfl
  · dsimp only
    split <;> omega

/-- A pattern with a comma groups thousands. -/
theorem grouped_placesOf (pattern : List Char) :
    (placesOf pattern).grouped = pattern.contains ',' := by
  unfold placesOf
  dsimp only
  split <;> rfl

/-- Of the four places that are allowed the last two are zeros that need not be written. -/
example : (placesOf "0,0.00[00]".toList).write (.ofRatio false 2469135 2) =
    "1,234,567.50".toList := by
  decide +kernel

end Places

end Numeral

end Gleaner
