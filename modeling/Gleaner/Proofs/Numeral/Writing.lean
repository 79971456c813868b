import Gleaner.Numeral.Write
import Gleaner.Proofs.Number.Digits
import Gleaner.Proofs.Number.Whole
import Gleaner.Proofs.Numeral.Reading
import Gleaner.Proofs.Unicode.Classes

/-!
# Writing whole numbers

A whole number is written by its digits, with or without commas, and a number of zeros after a
point. The currency sign and the ending stand around this, and the sign around it all.

## Main definitions

* `pointed`, `zeroPlaces`: a point with digits or with zeros after it, or nothing.
* `Numeral.Style.body`, `Numeral.Style.sign`: what is written of a number, and its sign.

## Main results

* `Magnitude.fixedText_of_units`: a whole number with a fixed number of places.
* `Numeral.filter_groupThousands`: the digits between the commas.
* `Numeral.Places.write_of_fixedText`: the text of a number is cut at the point.
* `Numeral.Places.write_of_units`: the digits that are written of a whole number.
* `Numeral.showsNonzero_iff`: digits show one other than zero unless they spell zero.
* `Numeral.Style.write_eq`: a number is written as its body with its sign around it.
-/

namespace Gleaner

variable {k m : Nat} {a : Magnitude}

/-! ### Fixed numbers of places -/

/-- A point with the digits after it, or nothing where there are none. -/
def pointed (fraction : List Char) : List Char :=
  if fraction.isEmpty then [] else '.' :: fraction

/-- A point and a number of zeros, or nothing for none. -/
def zeroPlaces (m : Nat) : List Char := if m = 0 then [] else '.' :: List.replicate m '0'

/-- Zeros after a point. -/
theorem pointed_replicate (m : Nat) : pointed (List.replicate m '0') = zeroPlaces m := by
  unfold pointed zeroPlaces
  rw [List.isEmpty_replicate]
  simp only [decide_eq_true_eq]

/-- The digits of a multiple of a power of ten, which are padded only if the number is zero. -/
theorem padLeft_digits_mul_pow_ten (k m : Nat) :
    padLeft (m + 1) '0' (digits (k * 10 ^ m)) = digits k ++ List.replicate m '0' := by
  rcases Nat.eq_zero_or_pos k with rfl | hk
  · -- the one digit of zero is the last of the zeros, and the padding gives the others
    rw [Nat.zero_mul]
    exact List.replicate_succ'.symm.trans List.replicate_succ
  · have hlength : m + 1 ≤ (digits (k * 10 ^ m)).length := by
      have hpos := List.length_pos_iff.2 (digits_ne_nil k)
      rw [digits_mul_pow_ten hk, List.length_append, List.length_replicate]
      omega
    rw [padLeft, Nat.sub_eq_zero_of_le hlength, List.replicate_zero, List.nil_append,
      digits_mul_pow_ten hk]

/-- A point is put before the zeros. -/
theorem Decimal.pointBefore_digits_mul_pow_ten (k m : Nat) :
    Decimal.pointBefore m (digits (k * 10 ^ m)) = digits k ++ zeroPlaces m := by
  unfold pointBefore zeroPlaces
  split
  next hzero => rw [hzero, Nat.pow_zero, Nat.mul_one, List.append_nil]
  next =>
    dsimp only
    rw [padLeft_digits_mul_pow_ten, List.length_append, List.length_replicate, Nat.add_sub_cancel,
      List.take_left, List.drop_left]

/-- A whole number with a fixed number of places has zeros there. -/
theorem Magnitude.fixedText_of_units (ha : a.units = k * unitsPerOne) (m : Nat) :
    a.fixedText m = digits k ++ zeroPlaces m := by
  have hexact : nearestDiv (a.units * Nat.pow 10 m) unitsPerOne = k * 10 ^ m := by
    rw [ha, Nat.mul_right_comm]
    exact nearestDiv_mul_left _ _ unitsPerOne_pos
  rw [fixedText, hexact, Decimal.pointBefore_digits_mul_pow_ten]

namespace Numeral

variable {c : Char} {cs : List Char} {p : Char → Bool}

/-! ### Groups of thousands -/

/-- Only commas come to the digits. -/
theorem mem_groupThousands (h : c ∈ groupThousands cs) : c ∈ cs ∨ c = ',' := by
  induction cs with
  | nil => cases h
  | cons d cs ih =>
    rw [groupThousands] at h
    split at h
    all_goals simp only [List.mem_cons] at h ⊢
    · rcases h with h | h | h
      · exact .inl (.inl h)
      · exact .inr h
      · exact (ih h).imp_left .inr
    · rcases h with h | h
      · exact .inl (.inl h)
      · exact (ih h).imp_left .inr

/-- Characters without the comma are kept as they are. -/
theorem filter_groupThousands (hcomma : p ',' = false) (cs : List Char) :
    (groupThousands cs).filter p = cs.filter p := by
  induction cs with
  | nil => rfl
  | cons c cs ih =>
    rw [groupThousands]
    split
    · simp [List.filter_cons, hcomma, ih]
    · simp [List.filter_cons, ih]

/-- A text that is not empty stays so. -/
theorem groupThousands_ne_nil (h : cs ≠ []) : groupThousands cs ≠ [] := by
  cases cs with
  | nil => exact absurd rfl h
  | cons c cs =>
    rw [groupThousands]
    split <;> exact List.cons_ne_nil _ _

/-! ### The digits of a whole number -/

/-- The digits of a whole number, in groups or not. -/
def wholeDigits (grouped : Bool) (k : Nat) : List Char :=
  if grouped then groupThousands (digits k) else digits k

/-- The characters of these digits. -/
theorem mem_wholeDigits {grouped : Bool} (h : c ∈ wholeDigits grouped k) : isDigit c ∨ c = ',' := by
  unfold wholeDigits at h
  split at h
  · exact (mem_groupThousands h).imp_left isDigit_of_mem_digits
  · exact .inl (isDigit_of_mem_digits h)

/-- There is at least one digit. -/
theorem wholeDigits_ne_nil (grouped : Bool) (k : Nat) : wholeDigits grouped k ≠ [] := by
  unfold wholeDigits
  split
  · exact groupThousands_ne_nil (digits_ne_nil k)
  · exact digits_ne_nil k

/-- Without the commas these are the digits. -/
theorem filter_wholeDigits (hcomma : p ',' = false) (hdigit : ∀ c, isDigit c → p c)
    (grouped : Bool) (k : Nat) : (wholeDigits grouped k).filter p = digits k := by
  have hall : (digits k).filter p = digits k :=
    List.filter_eq_self.2 fun c hc => hdigit c (isDigit_of_mem_digits hc)
  unfold wholeDigits
  split
  · rw [filter_groupThousands hcomma, hall]
  · exact hall

/-- Zeros at the end are trimmed down to the least number of places. -/
theorem trimZeros_replicate (least m : Nat) :
    trimZeros least (List.replicate m '0') = List.replicate (min least m) '0' := by
  have hzeros : ((List.replicate m '0').reverse.takeWhile (· = '0')) = List.replicate m '0' := by
    rw [List.reverse_replicate, List.takeWhile_replicate, if_pos (by decide)]
  rw [trimZeros, hzeros, List.length_replicate, Nat.sub_self, Nat.max_zero,
    List.take_replicate]

/-- The digits of a text with a point are cut at the point. -/
theorem Places.write_of_fixedText (places : Places) {whole fraction : List Char}
    (hwhole : ∀ c ∈ whole, isDigit c) {x : Double}
    (h : fixedText x places.most = whole ++ pointed fraction) :
    places.write x = (if places.grouped then groupThousands whole else whole) ++
      pointed (trimZeros places.least fraction) := by
  have hdigits : ∀ c ∈ whole, decide (c ≠ '.') = true := by
    intro c hc
    have hpoint : c ∉ ['.'] := not_mem_of_isDigit (hwhole c hc) (by decide)
    simpa using hpoint
  have hhead : ∀ c ∈ (pointed fraction).head?, decide (c ≠ '.') = false := by
    unfold pointed
    split <;> simp
  have hdrop : (pointed fraction).drop 1 = fraction := by
    cases fraction <;> rfl
  obtain ⟨hbefore, hafter⟩ := takeWhile_append_of_head hdigits hhead
  rw [write, h, hbefore, hafter, hdrop, pointed]
  split
  · rw [List.append_nil]
  · rfl

/-- A whole number is written by its digits and as many zeros as there have to be. -/
theorem Places.write_of_units (places : Places) (ha : a.units = k * unitsPerOne) :
    places.write (.finite false a) =
      wholeDigits places.grouped k ++ zeroPlaces (min places.least places.most) := by
  have hfixed : fixedText (.finite false a) places.most =
      digits k ++ pointed (List.replicate places.most '0') := by
    rw [pointed_replicate]
    exact Magnitude.fixedText_of_units ha places.most
  rw [places.write_of_fixedText (fun _ => isDigit_of_mem_digits) hfixed, trimZeros_replicate,
    pointed_replicate]
  rfl

/-! ### Digits other than zero -/

/-- A text shows a digit other than zero where one of its parts does. -/
theorem showsNonzero_append (cs ds : List Char) :
    showsNonzero (cs ++ ds) = (showsNonzero cs || showsNonzero ds) := List.any_append

/-- Only digits matter for this. -/
theorem showsNonzero_filter (cs : List Char) : showsNonzero (cs.filter isDigit) = showsNonzero cs := by
  have hdigit (c : Char) : (isDigit c && ('1' ≤ c && c ≤ '9')) = ('1' ≤ c && c ≤ '9') := by
    have hzero : '0' ≤ '1' := by decide
    by_cases hone : '1' ≤ c
    · simp [isDigit, hone, Char.le_trans hzero hone]
    · simp [hone]
  rw [showsNonzero, List.any_filter]
  simp only [hdigit]
  rfl

/-- Digits show one other than zero just when the number that they spell is not zero. -/
theorem showsNonzero_iff (h : ∀ c ∈ cs, isDigit c) : showsNonzero cs ↔ ofDigits cs ≠ 0 := by
  induction cs with
  | nil => simp [showsNonzero, ofDigits]
  | cons c cs ih =>
    obtain ⟨hc, hcs⟩ := List.forall_mem_cons.1 h
    have hfirst : ('1' ≤ c && c ≤ '9') = true ↔ ofDigits [c] ≠ 0 := by
      have hbounds := Unicode.isDigit_iff_toNat.1 hc
      have hone : ('1' : Char).val.toNat = 49 := rfl
      have hnine : ('9' : Char).val.toNat = 57 := rfl
      have hzero : '0'.toNat = 48 := rfl
      have hval : c.val.toNat = c.toNat := rfl
      simp only [Bool.and_eq_true, decide_eq_true_eq, Char.le_def, UInt32.le_iff_toNat_le, ofDigits,
        List.foldl_cons, List.foldl_nil, digitValue]
      omega
    have hvalue : ofDigits (c :: cs) = 10 ^ cs.length * ofDigits [c] + ofDigits cs :=
      ofDigits_append [c] cs
    have hpow : 10 ^ cs.length ≠ 0 := (Nat.pow_pos (by decide)).ne'
    have hshows : showsNonzero (c :: cs) = (('1' ≤ c && c ≤ '9') || showsNonzero cs) := rfl
    rw [hshows, Bool.or_eq_true, hfirst, ih hcs, hvalue]
    simp only [ne_eq, Nat.add_eq_zero_iff, Nat.mul_eq_zero, hpow, false_or, not_and_or]

/-- The digits of a number show this unless it is zero. -/
theorem showsNonzero_digits (k : Nat) : showsNonzero (digits k) ↔ k ≠ 0 := by
  rw [showsNonzero_iff fun c => isDigit_of_mem_digits, ofDigits_digits]

/-- Zeros in front of the digits do not matter. -/
theorem showsNonzero_paddedDigits (width k : Nat) : showsNonzero (paddedDigits width k) ↔ k ≠ 0 := by
  rw [showsNonzero_iff fun c => isDigit_of_mem_paddedDigits, ofDigits_paddedDigits]

/-- Nor do the commas between them. -/
theorem showsNonzero_wholeDigits (grouped : Bool) (k : Nat) :
    showsNonzero (wholeDigits grouped k) ↔ k ≠ 0 := by
  rw [← showsNonzero_filter, filter_wholeDigits (by decide) fun _ hdigit => hdigit,
    showsNonzero_digits]

/-- A whole number that is not zero shows this. -/
theorem showsNonzero_of_units (places : Places) (ha : a.units = k * unitsPerOne) (hk : k ≠ 0) :
    showsNonzero (places.write (.finite false a)) := by
  rw [places.write_of_units ha, showsNonzero_append, Bool.or_eq_true]
  exact .inl ((showsNonzero_wholeDigits places.grouped k).2 hk)

/-! ### The body and the sign -/

/-- A space, where there is one. -/
def spaceIf (spaced : Bool) : List Char := if spaced then [' '] else []

namespace Style

variable {style : Style}

/-- The number in front of the ending. -/
def number (style : Style) (x : Double) : List Char :=
  style.places.write (style.suffix.split x.abs).1

/-- The ending with the space before it. -/
def ending (style : Style) (x : Double) : List Char :=
  let suffix := (style.suffix.split x.abs).2
  if style.suffixSpaced && !suffix.isEmpty then ' ' :: suffix else suffix

/-- What is written of a number apart from its sign. -/
def body (style : Style) (x : Double) : List Char :=
  match style.currency with
  | some ⟨leading, spaced⟩ =>
    if leading then '$' :: spaceIf spaced ++ style.number x ++ style.ending x
    else style.number x ++ style.ending x ++ spaceIf spaced ++ ['$']
  | none => style.number x ++ style.ending x

/-- How the sign of a number is written. -/
def sign (style : Style) (x : Double) : Sign :=
  if x.less 0 && showsNonzero (style.number x) then
    if style.parentheses then .parentheses else .minus
  else if style.plus && Double.less 0 x then .plus else .none

/-- **A number in a style.** A number is written as its body with its sign around it. -/
theorem write_eq (style : Style) (x : Double) :
    style.write x = (style.sign x).around (style.body x) := by
  have hwrite : style.write x =
      if x.less 0 && showsNonzero (style.number x) then
        if style.parentheses then '(' :: style.body x ++ [')'] else '-' :: style.body x
      else if style.plus && Double.less 0 x then '+' :: style.body x
      else style.body x := rfl
  rw [hwrite, sign]
  split
  · split <;> rfl
  · split <;> rfl

end Style

end Numeral

end Gleaner
