import Gleaner.Number.Decimal
import Mathlib.Algebra.Group.Nat.Defs

/-!
# Decimal digits are read back

## Main results

* `isDigit_of_mem_digits`, `isDigit_of_mem_paddedDigits`: only digits are written.
* `length_digits_le_iff`, `length_paddedDigits`: how many there are.
* `digits_mul_pow_ten`: the digits of a multiple of a power of ten.
* `ofDigits_append`, `ofDigits_lt`: the number that digits spell, by parts and by their length.
* `readNat?_digits`, `readNat?_paddedDigits`: what is written is read back.
-/

namespace Gleaner

variable {c : Char} {n width : Nat}

/-- The digits of ASCII, as core has them. -/
theorem isDigit_iff : isDigit c = true ↔ c.isDigit = true := by
  simp [isDigit, Char.isDigit, Char.le_def]

/-- Only digits are written. -/
theorem isDigit_of_mem_digits (h : c ∈ digits n) : isDigit c :=
  isDigit_iff.2 (Nat.isDigit_of_mem_toDigits (by decide) (by decide) h)

/-- A digit is not among other characters. -/
theorem not_mem_of_isDigit {cs : List Char} (h : isDigit c)
    (hcs : cs.all (fun d => !isDigit d) = true) : c ∉ cs :=
  fun hc => by simpa [h] using List.all_eq_true.1 hcs c hc

/-- There is at least one digit. -/
theorem digits_ne_nil (n : Nat) : digits n ≠ [] := Nat.toDigits_ne_nil

/-- How many digits a number has. -/
theorem length_digits_le_iff (h : 0 < width) : (digits n).length ≤ width ↔ n < 10 ^ width :=
  Nat.length_toDigits_le_iff (by decide) h

/-- Multiplied by a power of ten, a number has zeros after its digits. -/
theorem digits_mul_pow_ten {k : Nat} (hk : 0 < k) (m : Nat) :
    digits (k * 10 ^ m) = digits k ++ List.replicate m '0' := by
  induction m with
  | zero => rw [Nat.pow_zero, Nat.mul_one, List.replicate_zero, List.append_nil]
  | succ m ih =>
    have hpos : 0 < k * 10 ^ m := Nat.mul_pos hk (Nat.pow_pos (by decide))
    calc digits (k * 10 ^ (m + 1)) = digits (10 * (k * 10 ^ m) + 0) := by
          rw [Nat.pow_succ, ← Nat.mul_assoc, Nat.mul_comm, Nat.add_zero]
      _ = digits (k * 10 ^ m) ++ digits 0 :=
          (Nat.toDigits_append_toDigits (by decide) hpos (by decide)).symm
      _ = digits k ++ (List.replicate m '0' ++ ['0']) := by rw [ih, List.append_assoc]; rfl
      _ = digits k ++ List.replicate (m + 1) '0' := by rw [List.replicate_succ']

/-- Only digits are written, also in front of a number. -/
theorem isDigit_of_mem_paddedDigits (h : c ∈ paddedDigits width n) : isDigit c := by
  rcases List.mem_append.1 h with h | h
  · rw [List.eq_of_mem_replicate h]
    decide
  · exact isDigit_of_mem_digits h

/-- There is at least one digit. -/
theorem paddedDigits_ne_nil (width n : Nat) : paddedDigits width n ≠ [] := by
  simp [paddedDigits, padLeft, digits_ne_nil]

/-- A number that fits in a width is brought to it. -/
theorem length_paddedDigits (hwidth : 0 < width) (h : n < 10 ^ width) :
    (paddedDigits width n).length = width := by
  rw [paddedDigits, length_padLeft]
  exact Nat.max_eq_left ((length_digits_le_iff hwidth).2 h)

/-- The number that digits spell, as core has it. -/
theorem ofDigits_eq (cs : List Char) : ofDigits cs = Nat.ofDigitChars 10 cs 0 := by
  rw [Nat.ofDigitChars_eq_foldl]
  rfl

/-- The number that digits spell, by parts. -/
theorem ofDigits_append (cs more : List Char) :
    ofDigits (cs ++ more) = 10 ^ more.length * ofDigits cs + ofDigits more := by
  rw [ofDigits_eq, Nat.ofDigitChars_append, Nat.ofDigitChars_eq_ofDigitChars_zero, ofDigits_eq,
    ofDigits_eq]

/-- Digits spell a number below the power of ten of their length. -/
theorem ofDigits_lt {cs : List Char} (h : ∀ c ∈ cs, isDigit c) :
    ofDigits cs < 10 ^ cs.length := by
  induction cs with
  | nil => decide
  | cons c cs ih =>
    rw [List.forall_mem_cons] at h
    have hvalue : ofDigits [c] ≤ 9 := by
      have hdigit := (Char.isDigit_iff_toNat.1 (isDigit_iff.1 h.1)).2
      have hnine : '9'.toNat = '0'.toNat + 9 := rfl
      simp only [ofDigits, List.foldl_cons, List.foldl_nil, digitValue]
      omega
    calc ofDigits (c :: cs) = 10 ^ cs.length * ofDigits [c] + ofDigits cs := ofDigits_append [c] cs
      _ < 10 ^ cs.length * ofDigits [c] + 10 ^ cs.length := Nat.add_lt_add_left (ih h.2) _
      _ = 10 ^ cs.length * (ofDigits [c] + 1) := (Nat.mul_succ _ _).symm
      _ ≤ 10 ^ cs.length * 10 := Nat.mul_le_mul_left _ (Nat.succ_le_succ hvalue)

/-- Zeros spell nothing. -/
theorem ofDigits_replicate_zero (n : Nat) : ofDigits (List.replicate n '0') = 0 := by
  rw [ofDigits_eq, Nat.ofDigitChars_replicate_zero, Nat.mul_zero]

/-- Digits are read as the number that they spell. -/
theorem readNat?_of_forall {cs : List Char} (h : ∀ c ∈ cs, isDigit c) (hne : cs ≠ []) :
    readNat? cs = some (ofDigits cs) := by
  rw [readNat?, if_neg (by simpa [hne] using h)]

/-- The digits of a number spell it. -/
theorem ofDigits_digits (n : Nat) : ofDigits (digits n) = n := by
  rw [ofDigits_eq, digits, Nat.ofDigitChars_ten_toDigits]

/-- The digits of a number spell it, also with zeros in front of them. -/
theorem ofDigits_paddedDigits (width n : Nat) : ofDigits (paddedDigits width n) = n := by
  rw [ofDigits_eq, paddedDigits, padLeft, Nat.ofDigitChars_append, Nat.ofDigitChars_replicate_zero,
    Nat.mul_zero, digits, Nat.ofDigitChars_ten_toDigits]

/-- A number is read back from its digits with zeros in front of them. -/
theorem readNat?_paddedDigits (width n : Nat) : readNat? (paddedDigits width n) = some n := by
  rw [readNat?_of_forall (fun _ => isDigit_of_mem_paddedDigits) (paddedDigits_ne_nil width n),
    ofDigits_paddedDigits]

/-- A number is read back from its digits. -/
theorem readNat?_digits (n : Nat) : readNat? (digits n) = some n := by
  have hunpadded : paddedDigits 0 n = digits n := by simp [paddedDigits, padLeft]
  rw [← hunpadded, readNat?_paddedDigits]

end Gleaner
