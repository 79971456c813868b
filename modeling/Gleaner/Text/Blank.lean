/-!
# Blank characters

The white space of Unicode, and texts without it at their ends.

## Main statements

- `trim_idem` : a trimmed text has nothing left to trim.
-/

namespace Gleaner

/-- Whether a character is white space. -/
def isBlank (c : Char) : Bool :=
  let n := c.toNat
  (9 ≤ n && n ≤ 13) || n == 0x20 || n == 0x85 || n == 0xA0 || n == 0x1680 ||
    (0x2000 ≤ n && n ≤ 0x200A) || n == 0x2028 || n == 0x2029 || n == 0x202F || n == 0x205F ||
    n == 0x3000

/-- Every character that core counts as white space is blank. -/
theorem isBlank_of_isWhitespace {c : Char} (h : c.isWhitespace) : isBlank c := by
  simp only [Char.isWhitespace, Bool.or_eq_true, decide_eq_true_eq] at h
  rcases h with ((h | h) | h) | h <;> subst h <;> decide

/-- A text without the blanks at its start. -/
def trimStart (cs : List Char) : List Char := cs.dropWhile isBlank

/-- A text without the blanks at its end. -/
def trimEnd : List Char → List Char
  | [] => []
  | c :: cs =>
    match trimEnd cs with
    | [] => if isBlank c then [] else [c]
    | rest => c :: rest

/-- A text without the blanks at both ends. -/
def trim (cs : List Char) : List Char := trimEnd (trimStart cs)

theorem trimEnd_eq_nil_iff {cs : List Char} : trimEnd cs = [] ↔ ∀ c ∈ cs, isBlank c := by
  induction cs with
  | nil => simp [trimEnd]
  | cons c cs ih =>
    rw [trimEnd]
    split
    · rename_i h
      have := ih.1 h
      by_cases hc : isBlank c <;> simp [hc]
      exact this
    · rename_i h
      have hne : trimEnd cs ≠ [] := by simpa using h
      constructor
      · intro h'
        simp at h'
      · intro h'
        exact absurd (ih.2 fun d hd => h' d (List.mem_cons_of_mem c hd)) hne

/-- Trimming the end leaves a text whose last character, if any, is not blank. -/
theorem trimEnd_trimEnd (cs : List Char) : trimEnd (trimEnd cs) = trimEnd cs := by
  induction cs with
  | nil => rfl
  | cons c cs ih =>
    rw [trimEnd]
    split
    · by_cases hc : isBlank c <;> simp [hc, trimEnd]
    · rename_i h
      rw [trimEnd, ih]
      split
      · rename_i h'
        exact absurd h' (by simpa using h)
      · rfl

theorem trimStart_trimStart (cs : List Char) : trimStart (trimStart cs) = trimStart cs := by
  induction cs with
  | nil => rfl
  | cons c cs ih =>
    by_cases hc : isBlank c
    · simpa [trimStart, hc] using ih
    · simp [trimStart, hc]

theorem trimStart_trimEnd_of_trimStart {cs : List Char} (h : trimStart cs = cs) :
    trimStart (trimEnd cs) = trimEnd cs := by
  cases cs with
  | nil => rfl
  | cons c cs =>
    by_cases hc : isBlank c
    · have hlen := congrArg List.length h
      have hle : (trimStart cs).length ≤ cs.length := (List.dropWhile_suffix isBlank).length_le
      simp only [trimStart, List.dropWhile_cons_of_pos hc, List.length_cons] at hlen hle
      omega
    · rw [trimEnd]
      split <;> simp [hc, trimStart]

/-- A trimmed text has nothing left to trim. -/
theorem trim_idem (cs : List Char) : trim (trim cs) = trim cs := by
  unfold trim
  rw [trimStart_trimEnd_of_trimStart (trimStart_trimStart cs), trimEnd_trimEnd]

end Gleaner
