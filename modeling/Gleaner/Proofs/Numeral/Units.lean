import Gleaner.Proofs.Number.Decimal
import Gleaner.Proofs.Numeral.Reading

/-!
# Numbers with a unit

A numeral is digits with commas among them and at most one point. A unit may follow it, also after
blanks. Units overlap: `B` ends `KB` and `KiB`, and `t` ends `st`. So what each of them multiplies
the number by depends on the order in which they are looked for, and this is the table of it.

A power of ten is joined to the number before it is rounded. A power of 1024 multiplies the rounded
number.

## Main definitions

* `Numeral.IsNumeral`, `Numeral.valueOf`: numerals and the rational numbers that they are.
* `Numeral.units`: the units and their scales.
* `Numeral.Scale.factor`, `Numeral.Scale.round`: what a scale multiplies a number by, and how the
  product is rounded.

## Main results

* `Numeral.IsNumeral.exists_spells`: the figures of a numeral spell its number.
* `Numeral.Scale.apply_eq`: a scale multiplies by its factor.
* `Numeral.read?_around_append_blanks`: blanks at the end do not count.
* `Numeral.read?_around_unit`: the number that a numeral with a unit and a sign is read as.
-/

namespace Gleaner.Numeral

variable {c : Char} {cs blanks : List Char}

/-! ### Numerals -/

/-- Digits with commas anywhere among them and at most one point, with a digit at the end. -/
structure IsNumeral (cs : List Char) : Prop where
  /-- There are only digits, commas and points. -/
  chars : ∀ c ∈ cs, isDigit c ∨ c = ',' ∨ c = '.'
  /-- There is one point at most. -/
  points : cs.count '.' ≤ 1
  /-- A digit is the last character. -/
  ends : cs.getLast?.any isDigit

/-- The rational number that a numeral is: all of its digits, divided by ten for each digit after
the point. -/
def valueOf (cs : List Char) : ℚ :=
  ofDigits (cs.filter isDigit) / 10 ^ ((cs.dropWhile (· ≠ '.')).filter isDigit).length

/-- The value of a numeral with two digits after the point. -/
example : valueOf "1,234.50".toList = 2469 / 2 := by decide +kernel

namespace IsNumeral

/-- A numeral is cut at its point, or has none. -/
theorem point_cases (h : IsNumeral cs) :
    '.' ∉ cs ∨ ∃ whole fraction, cs = whole ++ '.' :: fraction ∧ '.' ∉ whole ∧ '.' ∉ fraction := by
  by_cases hpoint : '.' ∈ cs
  · obtain ⟨whole, fraction, rfl, hwhole⟩ := List.eq_append_cons_of_mem hpoint
    have hcount := h.points
    rw [List.count_append, List.count_cons_self, List.count_eq_zero.2 hwhole] at hcount
    exact .inr ⟨whole, fraction, rfl, hwhole, List.count_eq_zero.1 (by omega)⟩
  · exact .inl hpoint

/-- No character of a text without a point is one. -/
theorem ne_point (h : '.' ∉ cs) : ∀ c ∈ cs, decide (c ≠ '.') = true :=
  fun _ hc => decide_eq_true (ne_of_mem_of_not_mem hc h)

/-- Without a point the figures are digits. -/
theorem filter_isFigure (h : '.' ∉ cs) : cs.filter isFigure = cs.filter isDigit := by
  refine List.filter_congr fun c hc => ?_
  have hne : c ≠ '.' := ne_of_mem_of_not_mem hc h
  simp [isFigure, hne]

/-- The last figure of a numeral is its last digit. -/
theorem getLast?_filter_isFigure (h : IsNumeral cs) :
    (cs.filter isFigure).getLast?.any isDigit := by
  obtain ⟨c, hc, hdigit⟩ := (Option.any_eq_true _ _).1 h.ends
  obtain ⟨before, rfl⟩ := List.getLast?_eq_some_iff.1 hc
  have hfigure : [c].filter isFigure = [c] := List.filter_eq_self.2 (by simp [isFigure, hdigit])
  rw [List.filter_append, hfigure, List.getLast?_concat]
  exact hdigit

/-- **Numerals.** The figures of a numeral spell a decimal number with the value of the numeral. -/
theorem exists_spells (h : IsNumeral cs) :
    ∃ d, Spells (cs.filter isFigure) d ∧ d.value = valueOf cs := by
  have hfigures : ∀ c ∈ cs.filter isFigure, isFigure c := fun c hc => (List.mem_filter.1 hc).2
  have hdigits (ds : List Char) : ∀ c ∈ ds.filter isDigit, isDigit c :=
    fun c hc => (List.mem_filter.1 hc).2
  have hne : cs.filter isFigure ≠ [] := by
    intro hnil
    have hlast := h.getLast?_filter_isFigure
    rw [hnil] at hlast
    cases hlast
  rcases h.point_cases with hpoint | ⟨whole, fraction, rfl, hwhole, hfraction⟩
  · have hread := Decimal.read?_of_forall (hdigits cs) (filter_isFigure hpoint ▸ hne)
    rw [← filter_isFigure hpoint] at hread
    refine ⟨_, ⟨hfigures, h.getLast?_filter_isFigure, hread⟩, ?_⟩
    rw [valueOf, List.dropWhile_eq_nil_iff.2 (ne_point hpoint), Decimal.value,
      filter_isFigure hpoint, List.filter_nil, List.length_nil, zpow_zero, pow_zero, mul_one,
      div_one]
  · -- the commas go on both sides of the point, and the point stays
    have hsplit : (whole ++ '.' :: fraction).filter isFigure =
        whole.filter isDigit ++ '.' :: fraction.filter isDigit := by
      rw [List.filter_append, filter_isFigure hwhole, List.filter_cons_of_pos (by decide),
        filter_isFigure hfraction]
    have hall : (whole ++ '.' :: fraction).filter isDigit =
        whole.filter isDigit ++ fraction.filter isDigit := by
      rw [List.filter_append, List.filter_cons_of_neg (by decide)]
    have hsome : whole.filter isDigit ++ fraction.filter isDigit ≠ [] := by
      intro hnil
      obtain ⟨c, hc, hdigit⟩ := (Option.any_eq_true _ _).1 h.ends
      have hmem := List.mem_filter.2 ⟨List.mem_of_mem_getLast? hc, hdigit⟩
      rw [hall, hnil] at hmem
      cases hmem
    have hread := Decimal.read?_point (hdigits whole) (hdigits fraction) hsome
    rw [← hsplit] at hread
    refine ⟨_, ⟨hfigures, h.getLast?_filter_isFigure, hread⟩, ?_⟩
    have hdrop : (whole ++ '.' :: fraction).dropWhile (· ≠ '.') = '.' :: fraction :=
      (takeWhile_append_of_head (ne_point hwhole) (by simp)).2
    rw [valueOf, hdrop, hall, List.filter_cons_of_neg (by decide), Decimal.value, zpow_neg,
      zpow_natCast, div_eq_mul_inv]

/-- A numeral has no sign. -/
theorem isUnsigned (h : IsNumeral cs) : IsUnsigned cs := by
  have hne : cs ≠ [] := by
    intro hnil
    have hends := h.ends
    rw [hnil] at hends
    cases hends
  refine .of_forall hne fun c hc => ?_
  rcases h.chars c hc with hdigit | rfl | rfl
  · exact ⟨Unicode.isBlank_of_isDigit hdigit, isMark_of_isDigit hdigit⟩
  · decide
  · decide

/-- The commas take no part in the number. -/
theorem filter_eq (h : IsNumeral cs) : cs.filter (!isIgnored ·) = cs.filter isFigure := by
  refine List.filter_congr fun c hc => ?_
  rcases h.chars c hc with hdigit | rfl | rfl
  · rw [isIgnored_of_isDigit hdigit, isFigure_iff.2 (.inl hdigit)]
    rfl
  · decide
  · decide

end IsNumeral

/-! ### Units -/

/-- The units, and what each of them multiplies a number by. -/
def units : List (String × Scale) :=
  [("", .ten 0), ("%", .ten (-2)), ("B", .ten 0),
    ("KB", .ten 3), ("MB", .ten 6), ("GB", .ten 9), ("TB", .ten 12),
    ("PB", .ten 15), ("EB", .ten 18), ("ZB", .ten 21), ("YB", .ten 24),
    ("KiB", .binary 1), ("MiB", .binary 2), ("GiB", .binary 3), ("TiB", .binary 4),
    ("PiB", .binary 5), ("EiB", .binary 6), ("ZiB", .binary 7), ("YiB", .binary 8),
    ("k", .ten 3), ("m", .ten 6), ("b", .ten 9), ("t", .ten 12),
    ("st", .ten 0), ("nd", .ten 0), ("rd", .ten 0), ("th", .ten 0)]

namespace Scale

/-- The number that a scale multiplies by. -/
def factor : Scale → ℚ
  | ten power => 10 ^ power
  | binary power => 1024 ^ power

/-- The double for a number times the factor of a scale. A power of ten is rounded together with the
number, and a power of 1024 multiplies the double nearest to it. -/
def round (scale : Scale) (q : ℚ) : Double :=
  match scale with
  | ten _ => .nearest (q * scale.factor)
  | binary _ => .nearest q * .nearest scale.factor

/-- **Scales.** A scale multiplies a decimal number by its factor. -/
theorem apply_eq (scale : Scale) (d : Decimal) : scale.apply d = scale.round d.value := by
  cases scale with
  | ten power => rw [apply, Decimal.toDouble_eq_nearest, Decimal.value_scale, round, factor]
  | binary power =>
    rw [apply, Decimal.toDouble_eq_nearest, Double.ofNat_eq_nearest, round, factor, Nat.pow_eq,
      Nat.cast_pow]
    rfl

end Scale

variable {unit : String} {scale : Scale}

/-- A unit is found whatever the figures in front of it are. -/
theorem splitUnit_unit (h : (unit, scale) ∈ units) :
    splitUnit ('0' :: unit.toList) = (['0'], scale) := by
  have hall : units.all (fun u => splitUnit ('0' :: u.1.toList) = (['0'], u.2)) = true := by decide
  simpa using List.all_eq_true.1 hall _ h

/-- The characters of a unit are no blanks and no marks, and they take part in the number. -/
theorem unit_spec (h : (unit, scale) ∈ units) :
    (∀ c ∈ unit.toList, isBlank c = false ∧ isMark c = false) ∧
      unit.toList.filter (!isIgnored ·) = unit.toList := by
  have hall : units.all (fun u => u.1.toList.all
      fun c => !isBlank c && !isMark c && !isIgnored c) = true := by decide
  have hunit := List.all_eq_true.1 hall _ h
  simp only [List.all_eq_true, Bool.and_eq_true, Bool.not_eq_true'] at hunit
  refine ⟨fun c hc => (hunit c hc).1, List.filter_eq_self.2 fun c hc => ?_⟩
  rw [(hunit c hc).2]
  rfl

/-! ### Blanks -/

/-- No blank is a mark. -/
theorem isMark_of_isBlank (h : isBlank c) : isMark c = false := by
  by_contra hmark
  have hblank : "+-():'\"".toList.all (fun d => !isBlank d) = true := by decide
  have hmem : c ∈ "+-():'\"".toList :=
    List.contains_iff_mem.1 (Bool.eq_true_of_not_eq_false hmark)
  have hnot := List.all_eq_true.1 hblank c hmem
  simp [h] at hnot

/-- Blanks take no part in the number. -/
theorem filter_blanks (h : IsBlankText blanks) : blanks.filter (!isIgnored ·) = [] := by
  refine List.filter_eq_nil_iff.2 fun c hc => ?_
  simp [isIgnored, h c hc]

/-- Blanks at the end of a text without a sign do not count, whether the text gets a sign or stands
in parentheses. -/
theorem read?_around_append_blanks (s : Sign) (h : IsUnsigned cs) (hblanks : IsBlankText blanks) :
    read? (s.around (cs ++ blanks)) =
      (magnitude? cs).map fun x => if s.isNegative then -x else x := by
  have htrim (sign : List Char) : read? (sign ++ (cs ++ blanks)) = read? (sign ++ cs) := by
    have hbare : bare (sign ++ (cs ++ blanks)) = bare (sign ++ cs) := by
      rw [← List.append_assoc, bare, trim_append hblanks, bare]
    rw [read?, hbare, read?]
  cases s with
  | none => exact (htrim []).trans (read?_around .none h)
  | plus => exact (htrim ['+']).trans (read?_around .plus h)
  | minus => exact (htrim ['-']).trans (read?_around .minus h)
  | parentheses =>
    -- here the blanks are not at the end, and stay until the filters
    have hplain : ∀ c ∈ cs ++ blanks, isMark c = false := fun c hc =>
      (List.mem_append.1 hc).elim (h.plain c) fun hc => isMark_of_isBlank (hblanks c hc)
    have hfilter : (cs ++ blanks).filter (!isIgnored ·) = cs.filter (!isIgnored ·) := by
      rw [List.filter_append, filter_blanks hblanks, List.append_nil]
    have hmagnitude : magnitude? (cs ++ blanks) = magnitude? cs := by
      rw [magnitude?, hfilter, magnitude?]
    rw [read?_around_of_plain _ (List.append_ne_nil_of_left_ne_nil h.ne_nil _) hplain
      (Sign.isTrimmed_parentheses _), hmagnitude]

/-! ### Numerals with a unit -/

/-- The number of a numeral with a unit. -/
theorem magnitude?_unit (hcs : IsNumeral cs) (hblanks : IsBlankText blanks)
    (hunit : (unit, scale) ∈ units) :
    magnitude? (cs ++ (blanks ++ unit.toList)) = some (scale.round (valueOf cs)) := by
  obtain ⟨d, hspells, hvalue⟩ := hcs.exists_spells
  have hfilter : (cs ++ (blanks ++ unit.toList)).filter (!isIgnored ·) =
      cs.filter isFigure ++ unit.toList := by
    rw [List.filter_append, List.filter_append, hcs.filter_eq, filter_blanks hblanks,
      (unit_spec hunit).2, List.nil_append]
  rw [magnitude?_of_figures hspells (splitUnit_unit hunit) hfilter, Scale.apply_eq, hvalue]

/-- **Numerals with a unit.** A numeral with a unit is read as its number times the factor of the
unit, also with blanks between them. With a minus in front or in parentheses it is the negation of
this. -/
theorem read?_around_unit (s : Sign) (hcs : IsNumeral cs) (hblanks : IsBlankText blanks)
    (hunit : (unit, scale) ∈ units) :
    read? (s.around (cs ++ (blanks ++ unit.toList))) =
      some (if s.isNegative then -scale.round (valueOf cs) else scale.round (valueOf cs)) := by
  by_cases hempty : unit.toList = []
  · -- without a unit the blanks are at the end of the text
    have hnoBlanks : IsBlankText [] := by decide
    have hmagnitude := magnitude?_unit hcs hnoBlanks hunit
    rw [hempty, List.nil_append, List.append_nil] at hmagnitude
    rw [hempty, List.append_nil, read?_around_append_blanks s hcs.isUnsigned hblanks, hmagnitude,
      Option.map_some]
  · have hunsigned : IsUnsigned (cs ++ (blanks ++ unit.toList)) :=
      hcs.isUnsigned.append_between (.of_forall hempty (unit_spec hunit).1)
        fun c hc => isMark_of_isBlank (hblanks c hc)
    rw [read?_around s hunsigned, magnitude?_unit hcs hblanks hunit, Option.map_some]

/-- A numeral with a binary unit in parentheses. -/
theorem read?_around_unit_kibibytes :
    IsNumeral "1,234.5".toList ∧ IsBlankText [' '] ∧ ("KiB", Scale.binary 1) ∈ units ∧
      read? "(1,234.5 KiB)".toList = some (.ofInt (-1264128)) := by
  have hchars : "1,234.5".toList.all (fun c => isDigit c || c = ',' || c = '.') = true := by decide
  have hcs : IsNumeral "1,234.5".toList := by
    refine ⟨fun c hc => ?_, by decide, by decide⟩
    simpa [or_assoc] using List.all_eq_true.1 hchars c hc
  have hblanks : IsBlankText [' '] := by decide
  have hunit : ("KiB", Scale.binary 1) ∈ units := by decide
  have hround : -(Scale.binary 1).round (valueOf "1,234.5".toList) = .ofInt (-1264128) := by
    decide +kernel
  have hread := read?_around_unit .parentheses hcs hblanks hunit
  exact ⟨hcs, hblanks, hunit, hread.trans (congrArg some hround)⟩

end Gleaner.Numeral
