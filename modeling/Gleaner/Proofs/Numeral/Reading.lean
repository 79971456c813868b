import Gleaner.Coerce.Scalar
import Gleaner.Numeral.Read
import Gleaner.Proofs.Number.Digits
import Gleaner.Proofs.Number.Exact
import Gleaner.Proofs.Text.Trim
import Gleaner.Proofs.Unicode.Classes

/-!
# Reading numerals

A numeral is read in steps. Outer blanks and quotation marks go first, then durations are told
apart by their colons. What is left has a sign, or parentheses for one, and characters that take no
part in the number. Without these it is digits and a unit.

## Main definitions

* `Numeral.magnitude?`: the number of a text without its sign.
* `Numeral.IsUnsigned`: texts without a sign, a colon or quotation marks.
* `Numeral.Sign`: how the sign of a number is written.
* `Numeral.isFigure`: digits and points.
* `Numeral.Spells`: figures and the decimal number that they spell.
* `Numeral.unit?`: the unit at the end of a text.

## Main results

* `Numeral.read?_around_of_plain`, `Numeral.read?_around`: the sign of a text and the number of the
  rest are read apart.
* `Numeral.stripEnding?_figures`: an ending after figures does not depend on them.
* `Numeral.splitUnit_append`: neither does the unit.
* `Numeral.magnitude?_of_figures`: the number of figures with a unit.
-/

namespace Gleaner.Numeral

variable {c separator : Char} {cs ds unit : List Char}

/-! ### Quotation marks and colons -/

/-- A text keeps characters of other classes at its ends. -/
theorem stripBoth_eq {p : Char → Bool} (h : ∀ c ∈ cs, p c = false) : stripBoth p cs = cs := by
  have hstart {ds : List Char} (h : ∀ c ∈ ds, p c = false) : ds.dropWhile p = ds := by
    cases ds with
    | nil => rfl
    | cons d ds => simp [h d List.mem_cons_self]
  have hend : cs.reverse.dropWhile p = cs.reverse :=
    hstart fun c hc => h c (List.mem_reverse.1 hc)
  rw [stripBoth, hstart h, hend, List.reverse_reverse]

/-- A trimmed text without quotation marks is left as it is. -/
theorem bare_eq (htrim : IsTrimmed cs) (hquote : ∀ c ∈ cs, isQuote c = false) : bare cs = cs := by
  have hcs : trim cs = cs := htrim
  rw [bare, hcs, stripBoth_eq hquote, hcs]

/-- A text is in one piece where the separator is not in it. -/
theorem cutAt_of_not_mem (h : separator ∉ cs) : cutAt separator cs = [cs] := by
  induction cs with
  | nil => rfl
  | cons c cs ih =>
    rw [List.mem_cons, not_or] at h
    rw [cutAt, if_neg (Ne.symm h.1), ih h.2]

/-- The first piece of a text ends at the first separator. -/
theorem cutAt_append (h : separator ∉ cs) (rest : List Char) :
    cutAt separator (cs ++ separator :: rest) = cs :: cutAt separator rest := by
  induction cs with
  | nil => rw [List.nil_append, cutAt, if_pos rfl]
  | cons c cs ih =>
    rw [List.mem_cons, not_or] at h
    rw [List.cons_append, cutAt, if_neg (Ne.symm h.1), ih h.2]

/-- There is no duration without a colon. -/
theorem readDuration?_of_not_mem (h : ':' ∉ cs) : readDuration? cs = none := by
  rw [readDuration?, cutAt_of_not_mem h]

/-! ### The number and its sign -/

/-- The number that a text spells apart from its sign. -/
def magnitude? (cs : List Char) : Option Double :=
  let (body, scale) := splitUnit (cs.filter (!isIgnored ·))
  if body.any isDigit && body.all fun c => isDigit c || c = '.' then
    (Decimal.read? body).map scale.apply
  else none

/-- Without outer blanks and quotation marks, a text is read as a duration or as a number with a
sign. -/
theorem read?_eq_or (hne : bare cs ≠ []) :
    read? cs = (readDuration? (bare cs)).or
      ((magnitude? (bare cs)).map fun x => if isNegative (bare cs) then -x else x) := by
  have hfilled : ¬(bare cs).isEmpty := by rwa [List.isEmpty_iff]
  rw [read?]
  dsimp only
  rw [if_neg hfilled]
  cases readDuration? (bare cs) with
  | some seconds => rfl
  | none =>
    dsimp only [magnitude?]
    rw [Option.none_or]
    split
    · rw [Option.map_map]
      rfl
    · rfl

/-- The number of a text with its sign, where there is nothing to strip and no duration. -/
theorem read?_eq (hbare : bare cs = cs) (hne : cs ≠ []) (hcolon : ':' ∉ cs) :
    read? cs = (magnitude? cs).map fun x => if isNegative cs then -x else x := by
  rw [read?_eq_or (hbare.symm ▸ hne), hbare, readDuration?_of_not_mem hcolon, Option.none_or]

/-- Signs, parentheses, colons and quotation marks. -/
def isMark (c : Char) : Bool := "+-():'\"".toList.contains c

/-- A text without a sign: it is trimmed, and no sign, parenthesis, colon or quotation mark is in
it. -/
structure IsUnsigned (cs : List Char) : Prop where
  /-- It is not empty. -/
  ne_nil : cs ≠ []
  /-- It has no blanks at its ends. -/
  trimmed : IsTrimmed cs
  /-- It has no marks. -/
  plain : ∀ c ∈ cs, isMark c = false

namespace IsUnsigned

/-- A text without blanks and marks has no sign. -/
theorem of_forall (hne : cs ≠ []) (h : ∀ c ∈ cs, isBlank c = false ∧ isMark c = false) :
    IsUnsigned cs :=
  ⟨hne, .of_forall fun c hc => (h c hc).1, fun c hc => (h c hc).2⟩

/-- Two texts without a sign have none together, also with characters between them that are no
marks. -/
theorem append_between {more between : List Char} (hcs : IsUnsigned cs) (hmore : IsUnsigned more)
    (hbetween : ∀ c ∈ between, isMark c = false) : IsUnsigned (cs ++ (between ++ more)) where
  ne_nil := List.append_ne_nil_of_left_ne_nil hcs.ne_nil _
  trimmed := hcs.trimmed.append_between hmore.trimmed hcs.ne_nil hmore.ne_nil between
  plain c hc := by
    rcases List.mem_append.1 hc with hc | hc
    · exact hcs.plain c hc
    · exact (List.mem_append.1 hc).elim (hbetween c) (hmore.plain c)

/-- A mark is not in the text. -/
theorem not_mem (h : IsUnsigned cs) (hc : isMark c) : c ∉ cs :=
  fun hmem => by simp [h.plain c hmem] at hc

end IsUnsigned

/-- How the sign of a number is written. -/
inductive Sign where
  /-- Not at all. -/
  | none
  /-- By a plus in front. -/
  | plus
  /-- By a minus in front. -/
  | minus
  /-- By parentheses for a minus. -/
  | parentheses
  deriving DecidableEq

namespace Sign

/-- The sign with the text that it is the sign of. -/
def around : Sign → List Char → List Char
  | none, cs => cs
  | plus, cs => '+' :: cs
  | minus, cs => '-' :: cs
  | parentheses, cs => '(' :: cs ++ [')']

/-- Whether the sign stands for a negative number. -/
def isNegative : Sign → Bool
  | none | plus => false
  | minus | parentheses => true

variable {s : Sign}

/-- The characters of a text with a sign. -/
theorem mem_around (h : c ∈ s.around cs) : c ∈ cs ∨ c ∈ "+-()".toList := by
  cases s with
  | none => exact .inl h
  | plus | minus =>
    rcases List.mem_cons.1 h with rfl | h
    · exact .inr (by decide)
    · exact .inl h
  | parentheses =>
    rcases List.mem_cons.1 h with rfl | h
    · exact .inr (by decide)
    · rcases List.mem_append.1 h with h | h
      · exact .inl h
      · rw [List.mem_singleton.1 h]
        exact .inr (by decide)

/-- A sign is not empty. -/
theorem around_ne_nil (hne : cs ≠ []) : s.around cs ≠ [] := by
  cases s with
  | none => exact hne
  | plus | minus | parentheses => exact List.cons_ne_nil _ _

/-- A sign takes no part in the number. -/
theorem magnitude?_around (s : Sign) (cs : List Char) :
    magnitude? (s.around cs) = magnitude? cs := by
  have hfilter : (s.around cs).filter (!isIgnored ·) = cs.filter (!isIgnored ·) := by
    cases s with
    | none => rfl
    | plus | minus => rfl
    | parentheses =>
      have hclose : [')'].filter (!isIgnored ·) = [] := rfl
      rw [around, List.filter_append, hclose, List.append_nil]
      rfl
  rw [magnitude?, hfilter, magnitude?]

/-- Parentheses are no blanks, so the text in them may have some at its ends. -/
theorem isTrimmed_parentheses (cs : List Char) : IsTrimmed (parentheses.around cs) := by
  have hopen : IsTrimmed ['('] := by decide
  have hclose : IsTrimmed [')'] := by decide
  exact hopen.append_between hclose (List.cons_ne_nil _ _) (List.cons_ne_nil _ _) cs

/-- A text with a sign is trimmed. -/
theorem isTrimmed_around (h : IsUnsigned cs) : IsTrimmed (s.around cs) := by
  have hplus : IsTrimmed ['+'] := by decide
  have hminus : IsTrimmed ['-'] := by decide
  cases s with
  | none => exact h.trimmed
  | plus => exact hplus.append h.trimmed (List.cons_ne_nil _ _) h.ne_nil
  | minus => exact hminus.append h.trimmed (List.cons_ne_nil _ _) h.ne_nil
  | parentheses => exact isTrimmed_parentheses cs

/-- The sign of a text is found again. -/
theorem isNegative_around (hplain : ∀ c ∈ cs, isMark c = false) :
    Numeral.isNegative (s.around cs) = s.isNegative := by
  have hmissing {c : Char} (hc : isMark c) : c ∉ cs := fun hmem => by simp [hplain c hmem] at hc
  have hcount : cs.count '-' = 0 := List.count_eq_zero.2 (hmissing (by decide))
  have hhead : cs.head? ≠ some '(' :=
    fun hhead => hmissing (by decide) (List.mem_of_mem_head? hhead)
  cases s with
  | none => simp [around, Numeral.isNegative, isNegative, hcount, hhead]
  | plus => simp [around, Numeral.isNegative, isNegative, hcount]
  | minus => simp [around, Numeral.isNegative, isNegative, hcount]
  | parentheses =>
    have hlast : ('(' :: cs ++ [')']).getLast? = some ')' := List.getLast?_concat
    rw [around, Numeral.isNegative, hlast]
    simp [isNegative]

end Sign

/-- **Reading a signed number.** The sign of a text and the number of the rest are read apart. -/
theorem read?_around_of_plain (s : Sign) (hne : cs ≠ []) (hplain : ∀ c ∈ cs, isMark c = false)
    (htrim : IsTrimmed (s.around cs)) :
    read? (s.around cs) = (magnitude? cs).map fun x => if s.isNegative then -x else x := by
  -- the only marks in the text are signs and parentheses
  have hother {c : Char} (hmark : isMark c) (hsign : c ∉ "+-()".toList) : c ∉ s.around cs := by
    intro hc
    rcases Sign.mem_around hc with hmem | hmem
    · simp [hplain c hmem] at hmark
    · exact hsign hmem
  have hquote : ∀ c ∈ s.around cs, isQuote c = false := by
    intro c hc
    by_contra hquote
    have hcases : c = '\'' ∨ c = '"' := by
      simpa [isQuote, or_iff_not_imp_left] using hquote
    rcases hcases with rfl | rfl
    · exact hother (by decide) (by decide) hc
    · exact hother (by decide) (by decide) hc
  have hcolon : ':' ∉ s.around cs := hother (by decide) (by decide)
  rw [read?_eq (bare_eq htrim hquote) (Sign.around_ne_nil hne) hcolon,
    Sign.magnitude?_around, Sign.isNegative_around hplain]

/-- The same for a text that is trimmed without its sign. -/
theorem read?_around (s : Sign) (h : IsUnsigned cs) :
    read? (s.around cs) = (magnitude? cs).map fun x => if s.isNegative then -x else x :=
  read?_around_of_plain s h.ne_nil h.plain (Sign.isTrimmed_around h)

/-! ### Figures -/

/-- Whether a character is one of the digits or the point. -/
def isFigure (c : Char) : Bool := isDigit c || c = '.'

/-- Digits are no marks. -/
theorem isMark_of_isDigit (h : isDigit c) : isMark c = false := by
  rw [isMark, Bool.eq_false_iff, Ne, List.contains_iff_mem]
  exact not_mem_of_isDigit h (by decide)

/-- Digits take part in the number. -/
theorem isIgnored_of_isDigit (h : isDigit c) : isIgnored c = false := by
  have hother : c ∉ "-+(),$€£¥".toList := not_mem_of_isDigit h (by decide)
  have hblank := Unicode.isBlank_of_isDigit h
  simpa [isIgnored, isCurrency, hblank, and_assoc] using hother

/-- A figure is a digit or the point. -/
theorem isFigure_iff : isFigure c ↔ isDigit c ∨ c = '.' := by simp [isFigure]

/-- The last of some digits is a digit. -/
theorem getLast?_any_isDigit (h : ∀ c ∈ ds, isDigit c) (hne : ds ≠ []) :
    ds.getLast?.any isDigit := by
  rw [List.getLast?_eq_some_getLast hne]
  exact h _ (List.getLast_mem hne)

/-- Figures that end with a digit, and the decimal number that they spell. -/
structure Spells (ds : List Char) (d : Decimal) : Prop where
  /-- There are only figures. -/
  figures : ∀ c ∈ ds, isFigure c
  /-- A digit is the last of them. -/
  ends : ds.getLast?.any isDigit
  /-- The number is read from them. -/
  read : Decimal.read? ds = some d

namespace Spells

variable {d : Decimal}

/-- Some of the figures are digits. -/
theorem any_isDigit (h : Spells ds d) : ds.any isDigit = true := by
  obtain ⟨c, hc, hdigit⟩ := (Option.any_eq_true _ _).1 h.ends
  exact List.any_eq_true.2 ⟨c, List.mem_of_mem_getLast? hc, hdigit⟩

/-- Figures have no sign. -/
theorem isUnsigned (h : Spells ds d) : IsUnsigned ds := by
  have hne : ds ≠ [] := by
    intro hnil
    have hends := h.ends
    rw [hnil] at hends
    cases hends
  refine .of_forall hne fun c hc => ?_
  rcases isFigure_iff.1 (h.figures c hc) with hdigit | rfl
  · exact ⟨Unicode.isBlank_of_isDigit hdigit, isMark_of_isDigit hdigit⟩
  · decide

/-- Figures take part in the number. -/
theorem filter_eq (h : Spells ds d) : ds.filter (!isIgnored ·) = ds := by
  refine List.filter_eq_self.2 fun c hc => ?_
  rcases isFigure_iff.1 (h.figures c hc) with hdigit | rfl
  · rw [isIgnored_of_isDigit hdigit]
    rfl
  · decide

end Spells

/-! ### Units -/

/-- An ending without figures. -/
def HasNoFigure (cs : List Char) : Prop := cs.all (fun c => !isFigure c) = true

instance (cs : List Char) : Decidable (HasNoFigure cs) := inferInstanceAs (Decidable (_ = true))

/-- The first result of a function in terms of that of another. -/
theorem findSome?_map_of_forall {α β : Type} {f g : α → Option β} {k : β → β} {l : List α}
    (h : ∀ a ∈ l, f a = (g a).map k) : l.findSome? f = (l.findSome? g).map k := by
  induction l with
  | nil => rfl
  | cons a l ih =>
    rw [List.forall_mem_cons] at h
    rw [List.findSome?_cons, List.findSome?_cons, h.1, ih h.2]
    cases g a <;> rfl

/-- The text before an ordinal ending, where the text is taken to follow a digit. -/
def ordinalAfterDigit? (cs : List Char) : Option (List Char) :=
  ordinalEndings.findSome? fun ending =>
    (stripEnding? ending.toList cs).filter (·.getLast?.all isDigit)

/-- The text before a unit and the scale of the unit, by a way to find ordinal endings. -/
def unit? (ordinal? : List Char → Option (List Char)) (cs : List Char) :
    Option (List Char × Scale) :=
  ((stripEnding? ['%'] cs).map fun rest => (rest, .ten (-2))).or <|
  ((stripUnit? (binaryBytes.drop 1) cs).map fun p => (p.1, .binary (p.2 + 1))).or <|
  ((stripUnit? (decimalBytes.drop 1) cs).map fun p => (p.1, .ten ((p.2 + 1) * 3))).or <|
  ((stripEnding? ['B'] cs).map fun rest => (rest, .ten 0)).or <|
  ((ordinal? cs).map fun rest => (rest, .ten 0)).or <|
  (stripAbbreviation? cs).map fun p => (p.1, .ten p.2)

/-- A text is split at its unit, or has none. -/
theorem splitUnit_eq (cs : List Char) :
    splitUnit cs = (unit? stripOrdinal? cs).getD (cs, .ten 0) := by
  unfold splitUnit unit?
  repeat' split
  all_goals simp_all

section Endings

variable (hds : ∀ c ∈ ds, isFigure c)

include hds

/-- The ending of a text that begins with figures is that of the rest. -/
theorem stripEnding?_figures {ending : List Char} (hending : HasNoFigure ending)
    (unit : List Char) :
    stripEnding? ending (ds ++ unit) = (stripEnding? ending unit).map (ds ++ ·) := by
  by_cases hunit : ending <:+ unit
  · obtain ⟨rest, rfl⟩ := hunit
    rw [← List.append_assoc, stripEnding?_append, stripEnding?_append, Option.map_some]
  · have hnone : ¬ending <:+ ds ++ unit := by
      intro hsuffix
      rcases List.suffix_or_suffix_of_suffix hsuffix (List.suffix_append ds unit) with h | h
      · exact hunit h
      · -- the ending would have to begin with a figure
        obtain ⟨before, rfl⟩ := h
        obtain ⟨rest, hrest⟩ := hsuffix
        have hbefore : rest ++ before = ds :=
          List.append_cancel_right ((List.append_assoc ..).trans hrest)
        cases before with
        | nil => exact hunit List.suffix_rfl
        | cons c before =>
          have hfigure : isFigure c := hds c (by simp [← hbefore])
          have hplain := List.all_eq_true.1 hending c (by simp)
          simp [hfigure] at hplain
    rw [stripEnding?, if_neg (by simpa using hnone), stripEnding?, if_neg (by simpa using hunit),
      Option.map_none]

/-- The same for the first of a list of units. -/
theorem stripUnit?_figures {units : List String} (hunits : ∀ u ∈ units, HasNoFigure u.toList)
    (unit : List Char) :
    stripUnit? units (ds ++ unit) = (stripUnit? units unit).map fun p => (ds ++ p.1, p.2) := by
  refine findSome?_map_of_forall fun ⟨u, i⟩ hentry => ?_
  have hu := hunits u (List.fst_mem_of_mem_zipIdx hentry)
  simp only [stripEnding?_figures hds hu, Option.map_map]
  rfl

/-- The same for abbreviations. -/
theorem stripAbbreviation?_figures (unit : List Char) :
    stripAbbreviation? (ds ++ unit) =
      (stripAbbreviation? unit).map fun p => (ds ++ p.1, p.2) := by
  refine findSome?_map_of_forall fun ⟨letter, power⟩ hentry => ?_
  have hletter : HasNoFigure [letter] := by
    have hall : abbreviations.all (fun a => !isFigure a.1) = true := by decide
    simpa [HasNoFigure] using List.all_eq_true.1 hall _ hentry
  simp only [stripEnding?_figures hds hletter, Option.map_map]
  rfl

/-- The same for ordinal endings, which are endings where a digit is before them. -/
theorem stripOrdinal?_figures (hlast : ds.getLast?.any isDigit) (unit : List Char) :
    stripOrdinal? (ds ++ unit) = (ordinalAfterDigit? unit).map (ds ++ ·) := by
  refine findSome?_map_of_forall fun ending hentry => ?_
  have hending : HasNoFigure ending.toList := by
    have hall : ordinalEndings.all (fun e => e.toList.all fun c => !isFigure c) = true := by decide
    exact List.all_eq_true.1 hall _ hentry
  rw [stripEnding?_figures hds hending]
  cases stripEnding? ending.toList unit with
  | none => rfl
  | some rest =>
    have hdigit : (ds ++ rest).getLast?.any isDigit = rest.getLast?.all isDigit := by
      rw [List.getLast?_append]
      cases rest.getLast? with
      | none => exact hlast
      | some c => rfl
    simp only [Option.map_some, Option.filter_some, hdigit]
    split <;> rfl

/-- What follows figures is split in the same way whatever the figures are. -/
theorem unit?_figures (hlast : ds.getLast?.any isDigit) (unit : List Char) :
    unit? stripOrdinal? (ds ++ unit) =
      (unit? ordinalAfterDigit? unit).map fun p => (ds ++ p.1, p.2) := by
  have hpercent : HasNoFigure ['%'] := by decide
  have hbytes : HasNoFigure ['B'] := by decide
  have hbinary : ∀ u ∈ binaryBytes.drop 1, HasNoFigure u.toList := by decide
  have hdecimal : ∀ u ∈ decimalBytes.drop 1, HasNoFigure u.toList := by decide
  simp only [unit?, stripEnding?_figures hds hpercent, stripEnding?_figures hds hbytes,
    stripUnit?_figures hds hbinary, stripUnit?_figures hds hdecimal,
    stripOrdinal?_figures hds hlast, stripAbbreviation?_figures hds, Option.map_or, Option.map_map]
  rfl

/-- So it is enough to split it after a zero. -/
theorem splitUnit_append {scale : Scale} (hlast : ds.getLast?.any isDigit)
    (hunit : splitUnit ('0' :: unit) = (['0'], scale)) : splitUnit (ds ++ unit) = (ds, scale) := by
  have hfigure : ∀ c ∈ ['0'], isFigure c := List.forall_mem_singleton.2 (by decide)
  have hzero : unit? stripOrdinal? ('0' :: unit) = _ := unit?_figures hfigure (by decide) unit
  rw [splitUnit_eq, hzero] at hunit
  rw [splitUnit_eq, unit?_figures hds hlast]
  cases hsplit : unit? ordinalAfterDigit? unit with
  | none =>
    rw [hsplit] at hunit
    cases hunit
    rw [List.append_nil]
    rfl
  | some p =>
    obtain ⟨rest, scale⟩ := p
    rw [hsplit] at hunit
    cases hunit
    exact congrArg (·, _) (List.append_nil ds)

end Endings

/-- The number of a text that is made of figures and a unit, once the characters that take no part
in it are left out. -/
theorem magnitude?_of_figures {scale : Scale} {d : Decimal} (h : Spells ds d)
    (hunit : splitUnit ('0' :: unit) = (['0'], scale))
    (hfilter : cs.filter (!isIgnored ·) = ds ++ unit) : magnitude? cs = some (scale.apply d) := by
  have hall : ds.all (fun c => isDigit c || c = '.') = true := List.all_eq_true.2 h.figures
  rw [magnitude?, hfilter, splitUnit_append h.figures h.ends hunit]
  dsimp only
  rw [h.any_isDigit, hall, h.read]
  rfl

/-! ### Values -/

/-- A text is the number that is read from it, where nothing else is asked for. -/
theorem number_ofList (cs : List Char) :
    Coerce.number {} (.string (.ofList cs)) = ((read? cs).map Value.number).getD .null := by
  rw [Coerce.number, Coerce.readNumber?, String.toList_ofList]
  cases read? cs <;> rfl

end Gleaner.Numeral
