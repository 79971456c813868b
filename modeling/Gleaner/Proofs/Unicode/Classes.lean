import Gleaner.Unicode.Classes

/-!
# Classes of characters

What the classes have to do with one another: the white space that the set of blanks lists, the
decimal digits within ASCII, and that no blank is a character of words.

## Main definitions

* `CodeRanges.Avoids`: a set that has none of some code points.

## Main results

* `CodeRanges.avoids_unionAll`: a union avoids what its sets avoid.
* `contains_whiteSpace`: the set of blanks has exactly the blanks.
* `contains_decimalNumber`: the set of decimal digits has exactly the decimal digits.
* `isWord_of_isBlank`, `isDecimal_of_isBlank`, `contains_asciiLetters_of_isBlank`: no blank is a
  character of words, a decimal digit or a letter of ASCII.
* `isBlank_of_isDigit`: no digit is a blank.
-/

namespace Gleaner.Unicode

namespace CodeRanges

/-- No range of the set has any of some code points. -/
def Avoids (s : CodeRanges) (codes : List Nat) : Prop :=
  ∀ range ∈ s.ranges, ∀ code ∈ codes, code < range.1 ∨ range.2 < code

instance (s : CodeRanges) (codes : List Nat) : Decidable (s.Avoids codes) :=
  inferInstanceAs (Decidable (∀ range ∈ s.ranges, ∀ code ∈ codes, code < range.1 ∨ range.2 < code))

variable {s t : CodeRanges} {codes : List Nat}

/-- A code point inside of some ranges is in one of them. -/
theorem exists_of_isInside {code : Nat} {ranges : List (Nat × Nat)} (h : isInside code ranges) :
    ∃ range ∈ ranges, range.1 ≤ code ∧ code ≤ range.2 := by
  induction ranges with
  | nil => cases h
  | cons range rest ih =>
    simp only [isInside, Bool.and_eq_true, Bool.or_eq_true, decide_eq_true_eq] at h
    rcases h.2 with hle | hrest
    · exact ⟨range, List.mem_cons_self, h.1, hle⟩
    · obtain ⟨other, hother, hin⟩ := ih hrest
      exact ⟨other, List.mem_cons_of_mem _ hother, hin⟩

/-- A set does not contain what it avoids. -/
theorem Avoids.containsCode_eq_false (h : s.Avoids codes) {code : Nat} (hcode : code ∈ codes) :
    s.containsCode code = false := by
  rw [← Bool.not_eq_true]
  intro hin
  obtain ⟨range, hrange, hfirst, hlast⟩ := exists_of_isInside hin
  rcases h range hrange code hcode with hlt | hlt <;> omega

/-- A merged list has no ranges but those of the two lists. -/
theorem mem_mergeRanges {fuel : Nat} {xs ys : List (Nat × Nat)} {range : Nat × Nat}
    (h : range ∈ mergeRanges fuel xs ys) : range ∈ xs ∨ range ∈ ys := by
  induction fuel generalizing xs ys with
  | zero => cases h
  | succ fuel ih =>
    cases xs with
    | nil => exact .inr h
    | cons x xs =>
      cases ys with
      | nil => exact .inl h
      | cons y ys =>
        rw [mergeRanges] at h
        split at h
        · rcases List.mem_cons.1 h with rfl | h
          · exact .inl List.mem_cons_self
          · exact (ih h).imp_left (List.mem_cons_of_mem _)
        · rcases List.mem_cons.1 h with rfl | h
          · exact .inr List.mem_cons_self
          · exact (ih h).imp_right (List.mem_cons_of_mem _)

/-- Joining ranges that touch does not put a code point into them. -/
theorem avoids_joinRanges {range : Nat × Nat} {rest : List (Nat × Nat)}
    (h : Avoids ⟨range :: rest⟩ codes) : Avoids ⟨joinRanges range rest⟩ codes := by
  induction rest generalizing range with
  | nil => exact h
  | cons next rest ih =>
    obtain ⟨hrange, hnext, hrest⟩ :
        (∀ code ∈ codes, code < range.1 ∨ range.2 < code) ∧
          (∀ code ∈ codes, code < next.1 ∨ next.2 < code) ∧ Avoids ⟨rest⟩ codes := by
      simpa only [Avoids, List.forall_mem_cons] using h
    rw [joinRanges]
    split
    next htouch =>
      refine ih (List.forall_mem_cons.2 ⟨fun code hcode => ?_, hrest⟩)
      -- the two ranges touch, so no code point lies between them
      have hr := hrange code hcode
      have hn := hnext code hcode
      change code < range.1 ∨ max range.2 next.2 < code
      omega
    next => exact List.forall_mem_cons.2 ⟨hrange, ih (List.forall_mem_cons.2 ⟨hnext, hrest⟩)⟩

/-- A union avoids what both sets avoid. -/
theorem Avoids.union (hs : s.Avoids codes) (ht : t.Avoids codes) : (s.union t).Avoids codes := by
  have hmerged : Avoids
      ⟨mergeRanges (s.ranges.length + t.ranges.length) s.ranges t.ranges⟩ codes := by
    intro range hrange
    rcases mem_mergeRanges hrange with h | h
    · exact hs range h
    · exact ht range h
  rw [CodeRanges.union]
  cases hranges : mergeRanges (s.ranges.length + t.ranges.length) s.ranges t.ranges with
  | nil => exact fun range h => absurd h List.not_mem_nil
  | cons range rest => exact avoids_joinRanges (hranges ▸ hmerged)

/-- A union of several sets avoids what all of them avoid. -/
theorem avoids_unionAll {sets : List CodeRanges} (h : ∀ s ∈ sets, s.Avoids codes) :
    (unionAll sets).Avoids codes := by
  have hfold (acc : CodeRanges) (hacc : acc.Avoids codes) :
      (sets.foldl CodeRanges.union acc).Avoids codes := by
    induction sets generalizing acc with
    | nil => exact hacc
    | cons s rest ih =>
      rw [List.forall_mem_cons] at h
      exact ih h.2 _ (hacc.union h.1)
  exact hfold empty fun range hrange => absurd hrange List.not_mem_nil

end CodeRanges

/-! ### Single characters, ASCII digits and ASCII letters -/

/-- The digits of ASCII are those from `0` to `9`. -/
theorem isDigit_iff_toNat {c : Char} : isDigit c = true ↔ 48 ≤ c.toNat ∧ c.toNat ≤ 57 := by
  have hzero : ('0' : Char).val.toNat = 48 := rfl
  have hnine : ('9' : Char).val.toNat = 57 := rfl
  have hval : c.val.toNat = c.toNat := rfl
  simp only [isDigit, Bool.and_eq_true, decide_eq_true_eq, Char.le_def, UInt32.le_iff_toNat_le]
  omega

/-- The set of one character has that character and no other. -/
@[simp]
theorem contains_ofChar {c d : Char} : (CodeRanges.ofChar c).contains d = true ↔ d = c := by
  rw [CodeRanges.contains, CodeRanges.ofChar, CodeRanges.ofCode_contains, Char.toNat_inj]

/-- The set of some characters has no other characters. -/
theorem mem_of_contains_ofChars {cs : List Char} {c : Char}
    (h : (CodeRanges.ofChars cs).contains c = true) : c ∈ cs := by
  refine Decidable.byContradiction fun hc => ?_
  have havoids : (CodeRanges.ofChars cs).Avoids [c.toNat] := by
    refine CodeRanges.avoids_unionAll (List.forall_mem_map.2 fun d hd => ?_)
    have hne : c.toNat ≠ d.toNat := fun heq => hc (Char.toNat_inj.1 heq ▸ hd)
    simp only [CodeRanges.Avoids, CodeRanges.ofChar, CodeRanges.ofCode, CodeRanges.between,
      List.mem_singleton, forall_eq]
    omega
  rw [CodeRanges.contains, havoids.containsCode_eq_false (List.mem_singleton_self _)] at h
  cases h

/-- The set of the letters of ASCII has those from `A` to `Z` and from `a` to `z`. -/
theorem contains_asciiLetters {c : Char} :
    asciiLetters.contains c = true ↔
      65 ≤ c.toNat ∧ c.toNat ≤ 90 ∨ 97 ≤ c.toNat ∧ c.toNat ≤ 122 := by
  have hranges : asciiLetters.ranges = [(65, 90), (97, 122)] := by decide
  simp only [CodeRanges.contains, CodeRanges.containsCode, hranges, CodeRanges.isInside,
    Bool.and_eq_true, Bool.or_eq_true, decide_eq_true_eq, Bool.false_eq_true, or_false]
  omega

/-! ### White space -/

/-- The ranges of white space. -/
theorem ranges_whiteSpace : Property.whiteSpace.ranges =
    [(0x9, 0xD), (0x20, 0x20), (0x85, 0x85), (0xA0, 0xA0), (0x1680, 0x1680), (0x2000, 0x200A),
      (0x2028, 0x2029), (0x202F, 0x202F), (0x205F, 0x205F), (0x3000, 0x3000)] := by
  unfold Property.whiteSpace CodeRanges.ofLines wordsOfLines
  rw [List.flatMap_cons, List.flatMap_nil, String.toList_ofList]
  decide +kernel

/-- The set of blanks has exactly the blanks. -/
theorem contains_whiteSpace (c : Char) : Property.whiteSpace.contains c = isBlank c := by
  rw [Bool.eq_iff_iff]
  simp only [CodeRanges.contains, CodeRanges.containsCode, ranges_whiteSpace, CodeRanges.isInside,
    isBlank, Bool.and_eq_true, Bool.or_eq_true, decide_eq_true_eq, beq_iff_eq, Bool.false_eq_true,
    or_false]
  omega

/-! ### Decimal digits -/

/-- The ranges of decimal digits begin with those of ASCII; the next ones are Arabic. -/
theorem ranges_decimalNumber : ∃ rest,
    Category.decimalNumber.ranges = (0x30, 0x39) :: (0x660, 0x669) :: rest := by
  refine ⟨Category.decimalNumber.ranges.drop 2, ?_⟩
  unfold Category.decimalNumber CodeRanges.ofLines wordsOfLines
  repeat rw [List.flatMap_cons]
  repeat rw [String.toList_ofList]
  rfl

/-- The set of decimal digits has exactly the decimal digits. -/
theorem contains_decimalNumber (c : Char) : Category.decimalNumber.contains c = isDecimal c := by
  rw [isDecimal]
  split
  next hascii =>
    obtain ⟨rest, hrest⟩ := ranges_decimalNumber
    rw [Bool.eq_iff_iff]
    simp only [CodeRanges.contains, CodeRanges.containsCode, hrest, CodeRanges.isInside,
      isDigit_iff_toNat, Bool.and_eq_true, Bool.or_eq_true, decide_eq_true_eq]
    omega
  next => rfl

/-! ### Characters of words -/

/-- The blanks beyond ASCII. -/
def farBlanks : List Nat :=
  [0x85, 0xA0, 0x1680, 0x2000, 0x2001, 0x2002, 0x2003, 0x2004, 0x2005, 0x2006, 0x2007, 0x2008,
    0x2009, 0x200A, 0x2028, 0x2029, 0x202F, 0x205F, 0x3000]

/-- A blank beyond ASCII is one of the list. -/
theorem mem_farBlanks {c : Char} (h : isBlank c) (hfar : ¬c.toNat < 128) :
    c.toNat ∈ farBlanks := by
  simp only [isBlank, Bool.or_eq_true, Bool.and_eq_true, decide_eq_true_eq, beq_iff_eq] at h
  simp only [farBlanks, List.mem_cons, List.not_mem_nil, or_false]
  omega

/-- No blank beyond ASCII is a character of words. -/
theorem avoids_wordRanges : wordRanges.Avoids farBlanks := by
  refine CodeRanges.avoids_unionAll ?_
  unfold Property.alphabetic Category.nonspacingMark Category.spacingMark Category.enclosingMark
    Category.decimalNumber Category.connectorPunctuation Property.joinControl
  simp only [CodeRanges.ofLines, wordsOfLines, List.flatMap_cons, List.flatMap_nil]
  repeat rw [String.toList_ofList]
  decide +kernel

/-- No blank of ASCII is a character of words. -/
theorem isAsciiWord_of_isBlank {c : Char} (h : isBlank c) (hascii : c.toNat < 128) :
    isAsciiWord c = false := by
  have hcases : c.toNat = 9 ∨ c.toNat = 10 ∨ c.toNat = 11 ∨ c.toNat = 12 ∨ c.toNat = 13 ∨
      c.toNat = 32 := by
    simp only [isBlank, Bool.or_eq_true, Bool.and_eq_true, decide_eq_true_eq, beq_iff_eq] at h
    omega
  have hofNat (n : Nat) (hn : c.toNat = n) : c = Char.ofNat n := by rw [← hn, Char.ofNat_toNat]
  rcases hcases with hn | hn | hn | hn | hn | hn <;> rw [hofNat _ hn] <;> decide

/-- No blank is a character of words. -/
theorem isWord_of_isBlank {c : Char} (h : isBlank c) : isWord c = false := by
  rw [isWord]
  split
  next hascii => exact isAsciiWord_of_isBlank h hascii
  next hfar => exact avoids_wordRanges.containsCode_eq_false (mem_farBlanks h hfar)

/-! ### Digits, letters and blanks -/

/-- The digits of ASCII are decimal digits. -/
theorem isDecimal_of_isDigit {c : Char} (h : isDigit c) : isDecimal c := by
  have hascii : c.toNat < 128 := Nat.lt_of_le_of_lt (isDigit_iff_toNat.1 h).2 (by decide)
  rw [isDecimal, if_pos hascii, h]

/-- No blank beyond ASCII is a decimal digit. -/
theorem avoids_decimalNumber : Category.decimalNumber.Avoids farBlanks := by
  unfold Category.decimalNumber CodeRanges.ofLines wordsOfLines
  repeat rw [List.flatMap_cons]
  repeat rw [String.toList_ofList]
  decide +kernel

/-- The typographic minus is no decimal digit. -/
theorem isDecimal_minus : isDecimal '−' = false := by
  have havoids : Category.decimalNumber.Avoids [0x2212] := by
    unfold Category.decimalNumber CodeRanges.ofLines wordsOfLines
    repeat rw [List.flatMap_cons]
    repeat rw [String.toList_ofList]
    decide +kernel
  exact havoids.containsCode_eq_false (List.mem_singleton_self _)

/-- No blank is a decimal digit. -/
theorem isDecimal_of_isBlank {c : Char} (h : isBlank c) : isDecimal c = false := by
  by_cases hascii : c.toNat < 128
  · rw [isDecimal, if_pos hascii, ← Bool.not_eq_true]
    intro hdigit
    have hword := isAsciiWord_of_isBlank h hascii
    simp [isAsciiWord, hdigit] at hword
  · rw [isDecimal, if_neg hascii]
    exact avoids_decimalNumber.containsCode_eq_false (mem_farBlanks h hascii)

/-- No blank is a letter of ASCII. -/
theorem contains_asciiLetters_of_isBlank {c : Char} (h : isBlank c) :
    asciiLetters.contains c = false := by
  rw [← Bool.not_eq_true, contains_asciiLetters]
  simp only [isBlank, Bool.and_eq_true, Bool.or_eq_true, decide_eq_true_eq, beq_iff_eq] at h
  omega

/-- No digit of ASCII is a blank. -/
theorem isBlank_of_isDigit {c : Char} (h : isDigit c) : isBlank c = false := by
  rw [isDigit_iff_toNat] at h
  simp only [isBlank, Bool.or_eq_false_iff, Bool.and_eq_false_iff, decide_eq_false_iff_not,
    beq_eq_false_iff_ne]
  omega

end Gleaner.Unicode
