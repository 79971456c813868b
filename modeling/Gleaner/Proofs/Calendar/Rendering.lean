import Gleaner.Proofs.Calendar.Civil
import Gleaner.Proofs.Calendar.Reading
import Gleaner.Proofs.Number.Digits
import Mathlib.Data.List.Forall2

/-!
# A rendered text is split in one way

The text that a layout renders is split by the same layout at the places where its tokens have been
written, and nowhere else: a field of a fixed width cannot move its end, and any other one stops at
the separator after it.

## Main definitions

* `Instant.IsShowable`: an instant that four digits of a year and milliseconds show in full.
* `Token.Extent`: what decides where the text of a token ends.
* `Layout.isSeparated`: a layout whose fields are kept apart by separators.
* `Layout.IsMerged`: a layout without neighbouring literals.

## Main results

* `Layout.accepts_renderToken`: a token accepts what it renders.
* `Layout.pieces_eq_of_isSplit`: the only split of a rendered text is the one it was made from.
* `Layout.read?_render_eq`: a rendered text is read from the texts of its tokens.
-/

namespace Gleaner.Calendar

open Pattern
open Unicode (asciiLetters isDecimal)

/-- An instant that can be shown in full: the year has four digits, the milliseconds are whole, and
the second is no leap second. -/
structure Instant.IsShowable (t : Instant) : Prop where
  /-- The year has no sign. -/
  year_nonneg : 0 ≤ t.date.year
  /-- The year has at most four digits. -/
  year_le : t.date.year ≤ 9999
  /-- The second is no leap second. -/
  nanos_lt : t.nanos < 1000000000
  /-- The milliseconds are whole. -/
  nanos_mod : t.nanos % 1000000 = 0

/-- A clock shows the hours from 1 to 12. -/
theorem Layout.clockHour_mem (hour : Nat) : 1 ≤ clockHour hour ∧ clockHour hour ≤ 12 := by
  rw [clockHour]
  split <;> omega

/-! ### Where texts of tokens end -/

namespace Token

/-- What decides where the text of a token ends. -/
inductive Extent where
  /-- The text is always the same. -/
  | literal (text : List Char)
  /-- The text has so many characters. -/
  | fixed (width : Nat)
  /-- The text is one digit or two. -/
  | number
  /-- The text is letters. -/
  | name
  /-- The text is an offset. -/
  | offset
  /-- The text is a number of any length. -/
  | epoch

/-- What decides where the text of a token ends. -/
def extent : Token → Extent
  | .literal text => .literal text
  | .year => .fixed 4
  | .shortYear | .paddedMonth | .paddedDay | .meridiem | .lowerMeridiem => .fixed 2
  | .millis => .fixed 3
  | .weekday => .fixed 1
  | .month | .day | .hour | .paddedHour | .hour12 | .paddedHour12 | .minute | .paddedMinute
  | .second | .paddedSecond => .number
  | .shortMonthName | .monthName | .minWeekdayName | .shortWeekdayName | .weekdayName => .name
  | .offset | .compactOffset => .offset
  | .epochSeconds | .epochMillis => .epoch

/-- Whether a token is a field, and no literal. -/
def isField : Token → Bool
  | .literal _ => false
  | _ => true

/-- Whether a token is neither the short year nor the time from 1970. -/
def isCivil : Token → Bool
  | .shortYear | .epochSeconds | .epochMillis => false
  | _ => true

end Token

/-- Whether a character keeps fields apart: it is neither a letter nor a digit of ASCII. -/
def isSeparator (c : Char) : Bool := !(isDigit c || asciiLetters.contains c)

/-- Blanks keep fields apart. -/
theorem isSeparator_of_isBlank {c : Char} (h : isBlank c) : isSeparator c := by
  have hdigit : isDigit c = false := by
    rw [← Bool.not_eq_true]
    intro hdigit
    have := Unicode.isDecimal_of_isBlank h
    rw [Unicode.isDecimal_of_isDigit hdigit] at this
    cases this
  simp [isSeparator, hdigit, Unicode.contains_asciiLetters_of_isBlank h]

/-- A digit keeps nothing apart. -/
theorem isSeparator_of_isDigit {c : Char} (h : isDigit c) : isSeparator c = false := by
  simp [isSeparator, h]

/-- A letter keeps nothing apart. -/
theorem isSeparator_of_letter {c : Char} (h : asciiLetters.contains c) :
    isSeparator c = false := by
  simp [isSeparator, h]

/-- What keeps nothing apart is in ASCII. -/
theorem toNat_lt_of_isSeparator {c : Char} (h : isSeparator c = false) : c.toNat < 128 := by
  rw [isSeparator, Bool.not_eq_false', Bool.or_eq_true, Unicode.isDigit_iff_toNat,
    Unicode.contains_asciiLetters] at h
  omega

namespace Layout

variable {t : Instant} {token : Token} {piece : List Char}

/-! ### What tokens accept -/

/-- The texts of a token of fixed width have this width. -/
theorem length_of_accepts {width : Nat} (h : token.extent = .fixed width)
    (hacc : (fieldPattern token).Accepts piece) : piece.length = width := by
  have hletters {first second : List Char}
      (hacc : (seq (anyOf first) (anyOf second)).Accepts piece) : piece.length = 2 := by
    obtain ⟨_, _, ⟨c, -, rfl⟩, ⟨d, -, rfl⟩, rfl⟩ := hacc
    rfl
  have hdigit (hacc : digit.Accepts piece) : piece.length = 1 := by
    obtain ⟨c, -, rfl⟩ := hacc
    rfl
  cases token <;> cases h <;>
    first
    | exact (accepts_exactly_digit_iff.1 hacc).2
    | exact hletters hacc
    | exact hdigit hacc

/-- The texts of a short number are one digit or two. -/
theorem accepts_number_iff (h : token.extent = .number) :
    (fieldPattern token).Accepts piece ↔
      (∀ c ∈ piece, isDecimal c) ∧ 1 ≤ piece.length ∧ piece.length ≤ 2 := by
  have hpattern : fieldPattern token = .repetition .digit 1 (some 2) true := by
    cases token <;> first | rfl | cases h
  rw [hpattern, digit, accepts_repetition_set_iff]
  simp [Unicode.contains_decimalNumber]

/-- The texts of a name are letters, at least one. -/
theorem accepts_name_iff (h : token.extent = .name) :
    (fieldPattern token).Accepts piece ↔
      (∀ c ∈ piece, asciiLetters.contains c) ∧ 1 ≤ piece.length := by
  have hpattern : fieldPattern token = lettersPattern := by
    cases token <;> first | rfl | cases h
  rw [hpattern, lettersPattern, some₁, accepts_repetition_set_iff]
  simp

/-- The texts of an offset are the letters for none, and a sign, two digits, perhaps a colon, and two
more digits. -/
theorem accepts_offsetPattern_iff {zulu : List Char} :
    (offsetPattern zulu).Accepts piece ↔ (anyOf zulu).Accepts piece ∨
      ∃ sign hours colon minutes, (anyOf ['+', '-']).Accepts sign ∧
        (hours.all isDecimal ∧ hours.length = 2) ∧ (colon = [] ∨ colon = [':']) ∧
        (minutes.all isDecimal ∧ minutes.length = 2) ∧
        piece = sign ++ (hours ++ (colon ++ minutes)) := by
  have hcolon {text : List Char} :
      (optional (char ':')).Accepts text ↔ text = [] ∨ text = [':'] := by
    rw [accepts_optional_iff rfl]
    simp [char, Accepts]
  rw [offsetPattern]
  change _ ∨ _ ↔ _
  refine or_congr_right ?_
  simp only [accepts_seqAll_cons_iff, accepts_exactly_digit_iff, hcolon]
  constructor
  · rintro ⟨sign, _, hsign, ⟨hours, _, hhours, ⟨colon, _, hcolon,
      ⟨minutes, _, hminutes, rfl, rfl⟩, rfl⟩, rfl⟩, rfl⟩
    exact ⟨sign, hours, colon, minutes, hsign, hhours, hcolon, hminutes, by rw [List.append_nil]⟩
  · rintro ⟨sign, hours, colon, minutes, hsign, hhours, hcolon, hminutes, rfl⟩
    exact ⟨sign, _, hsign, ⟨hours, _, hhours, ⟨colon, _, hcolon,
      ⟨minutes, [], hminutes, rfl, (List.append_nil minutes).symm⟩, rfl⟩, rfl⟩, rfl⟩

/-! ### What tokens render -/

/-- The names of months are letters, at least three. -/
theorem nameOfMonth_letters : ∀ month < 12, 3 ≤ (nameOfMonth (month + 1)).length ∧
    (nameOfMonth (month + 1)).all asciiLetters.contains := by
  decide +kernel

/-- The names of weekdays are letters, at least three. -/
theorem nameOfWeekday_letters : ∀ weekday < 7, 3 ≤ (nameOfWeekday weekday).length ∧
    (nameOfWeekday weekday).all asciiLetters.contains := by
  decide +kernel

/-- A short number is rendered as one digit or two. -/
theorem renderToken_number (t : Instant) (h : token.extent = .number) :
    (∀ c ∈ renderToken t token, isDigit c) ∧ 1 ≤ (renderToken t token).length ∧
      (renderToken t token).length ≤ 2 := by
  have hplain {n : Nat} (hn : n < 100) :
      (∀ c ∈ digits n, isDigit c) ∧ 1 ≤ (digits n).length ∧ (digits n).length ≤ 2 :=
    ⟨fun _ => isDigit_of_mem_digits, List.length_pos_iff.2 (digits_ne_nil n),
      (length_digits_le_iff Nat.two_pos).2 hn⟩
  have hpadded {n : Nat} (hn : n < 100) :
      (∀ c ∈ paddedDigits 2 n, isDigit c) ∧ 1 ≤ (paddedDigits 2 n).length ∧
        (paddedDigits 2 n).length ≤ 2 := by
    rw [length_paddedDigits Nat.two_pos hn]
    exact ⟨fun _ => isDigit_of_mem_paddedDigits, by decide, by decide⟩
  have hmonth := t.isValid_date.2.1
  have hday := t.day_le
  have hhour := t.hour_lt
  have hclock := (clockHour_mem t.hour).2
  have hminute := t.minute_lt
  have hsecond := t.secondOfMinute_lt
  cases token <;> cases h <;> first | exact hplain (by omega) | exact hpadded (by omega)

/-- A name is rendered as letters, at least one. -/
theorem renderToken_name (t : Instant) (h : token.extent = .name) :
    (∀ c ∈ renderToken t token, asciiLetters.contains c) ∧ 1 ≤ (renderToken t token).length := by
  have hmonth : 3 ≤ (nameOfMonth t.date.month).length ∧
      (nameOfMonth t.date.month).all asciiLetters.contains := by
    obtain ⟨hfirst, hlast, -⟩ := t.isValid_date
    have := nameOfMonth_letters (t.date.month - 1) (by omega)
    rwa [Nat.sub_add_cancel hfirst] at this
  have hweekday := nameOfWeekday_letters _ (weekday_lt t.day)
  have htake {name : List Char} {n : Nat} (hn : 1 ≤ n)
      (hname : 3 ≤ name.length ∧ name.all asciiLetters.contains) :
      (∀ c ∈ name.take n, asciiLetters.contains c) ∧ 1 ≤ (name.take n).length :=
    ⟨fun c hc => List.all_eq_true.1 hname.2 c (List.mem_of_mem_take hc), by
      rw [List.length_take]
      omega⟩
  have hwhole {name : List Char}
      (hname : 3 ≤ name.length ∧ name.all asciiLetters.contains) :
      (∀ c ∈ name, asciiLetters.contains c) ∧ 1 ≤ name.length :=
    ⟨List.all_eq_true.1 hname.2, (by decide : 1 ≤ 3).trans hname.1⟩
  cases token <;> cases h <;>
    first
    | exact htake (by decide) hmonth
    | exact hwhole hmonth
    | exact htake (by decide) hweekday
    | exact hwhole hweekday

/-- A year with four digits is rendered as these. -/
theorem renderToken_year (ht : t.IsShowable) :
    renderToken t .year = paddedDigits 4 t.date.year.toNat := by
  rw [renderToken, paddedInt, if_neg (Int.not_lt.2 ht.year_nonneg)]
  congr 1
  have := ht.year_nonneg
  omega

/-- A token of fixed width accepts what it renders. -/
theorem accepts_renderToken_of_fixed {width : Nat} (ht : t.IsShowable) (hcivil : token.isCivil)
    (h : token.extent = .fixed width) : (fieldPattern token).Accepts (renderToken t token) := by
  have hdigits {width n : Nat} (hwidth : 0 < width) (hn : n < 10 ^ width) :
      (exactly width digit).Accepts (paddedDigits width n) := by
    rw [accepts_exactly_digit_iff, List.all_eq_true]
    exact ⟨fun c hc => Unicode.isDecimal_of_isDigit (isDigit_of_mem_paddedDigits hc),
      length_paddedDigits hwidth hn⟩
  cases token with
  | year =>
    have := ht.year_le
    rw [renderToken_year ht]
    exact hdigits (by decide) (by omega)
  | paddedMonth => exact hdigits Nat.two_pos (t.isValid_date.2.1.trans_lt (by decide))
  | paddedDay => exact hdigits Nat.two_pos (t.day_le.trans_lt (by decide))
  | millis =>
    have := ht.nanos_lt
    exact hdigits (by decide) (by rw [Instant.millis]; omega)
  | weekday =>
    -- the number of a weekday is below ten
    have hlength := (length_digits_le_iff Nat.one_pos).2
      ((weekday_lt t.day).trans (by decide : 7 < 10 ^ 1))
    obtain ⟨c, hc⟩ := List.length_eq_one_iff.1
      (Nat.le_antisymm hlength (List.length_pos_iff.2 (digits_ne_nil _)))
    refine ⟨c, ?_, hc⟩
    rw [Unicode.contains_decimalNumber]
    exact Unicode.isDecimal_of_isDigit (isDigit_of_mem_digits (hc ▸ List.mem_singleton_self c))
  | meridiem | lowerMeridiem =>
    rw [renderToken]
    split
    · exact ⟨_, _, ⟨_, by decide, rfl⟩, ⟨_, by decide, rfl⟩, rfl⟩
    · exact ⟨_, _, ⟨_, by decide, rfl⟩, ⟨_, by decide, rfl⟩, rfl⟩
  | shortYear => cases hcivil
  | _ => cases h

/-- A token accepts what it renders. -/
theorem accepts_renderToken (ht : t.IsShowable) (hcivil : token.isCivil) :
    (fieldPattern token).Accepts (renderToken t token) := by
  cases hextent : token.extent with
  | literal text =>
    cases token <;> cases hextent
    exact accepts_literal_iff.2 rfl
  | number =>
    obtain ⟨hall, hlength⟩ := renderToken_number t hextent
    exact (accepts_number_iff hextent).2
      ⟨fun c hc => Unicode.isDecimal_of_isDigit (hall c hc), hlength⟩
  | name => exact (accepts_name_iff hextent).2 (renderToken_name t hextent)
  | epoch => cases token <;> first | cases hextent; cases hcivil | cases hextent
  | offset =>
    have hsplit (colon : List Char) (hcolon : colon = [] ∨ colon = [':']) :
        (offsetPattern ['Z']).Accepts (['+'] ++ (['0', '0'] ++ (colon ++ ['0', '0']))) :=
      accepts_offsetPattern_iff.2 (.inr ⟨['+'], ['0', '0'], colon, ['0', '0'],
        ⟨'+', by decide, rfl⟩, by decide, hcolon, by decide, rfl⟩)
    cases token <;> cases hextent
    · exact hsplit [':'] (.inr rfl)
    · exact hsplit [] (.inl rfl)
  | fixed width => exact accepts_renderToken_of_fixed ht hcivil hextent

/-- A field is rendered as a text that begins with a character of ASCII and with no blank. -/
theorem exists_renderToken_eq_cons (ht : t.IsShowable) (hcivil : token.isCivil)
    (hfield : token.isField) :
    ∃ c cs, renderToken t token = c :: cs ∧ isBlank c = false ∧ c.toNat < 128 := by
  have hshown {text : List Char} (hne : text ≠ [])
      (htext : ∀ c ∈ text, isSeparator c = false) :
      ∃ c cs, text = c :: cs ∧ isBlank c = false ∧ c.toNat < 128 := by
    obtain ⟨c, cs, rfl⟩ := List.exists_cons_of_ne_nil hne
    have hc := htext c List.mem_cons_self
    refine ⟨c, cs, rfl, ?_, toNat_lt_of_isSeparator hc⟩
    rw [← Bool.not_eq_true]
    intro hblank
    rw [isSeparator_of_isBlank hblank] at hc
    cases hc
  have hpadded (width n : Nat) : ∃ c cs, paddedDigits width n = c :: cs ∧ isBlank c = false ∧
      c.toNat < 128 :=
    hshown (paddedDigits_ne_nil width n) fun _ hc =>
      isSeparator_of_isDigit (isDigit_of_mem_paddedDigits hc)
  cases hextent : token.extent with
  | literal text => cases token <;> cases hextent; cases hfield
  | number =>
    obtain ⟨hall, hlength, -⟩ := renderToken_number t hextent
    exact hshown (List.length_pos_iff.1 hlength) fun c hc => isSeparator_of_isDigit (hall c hc)
  | name =>
    obtain ⟨hall, hlength⟩ := renderToken_name t hextent
    exact hshown (List.length_pos_iff.1 hlength) fun c hc => isSeparator_of_letter (hall c hc)
  | offset => cases token <;> cases hextent <;> exact ⟨'+', _, rfl, by decide, by decide⟩
  | epoch => cases token <;> first | cases hextent; cases hcivil | cases hextent
  | fixed width =>
    cases token with
    | year => exact renderToken_year ht ▸ hpadded 4 _
    | paddedMonth | paddedDay | millis => exact hpadded _ _
    | weekday =>
      exact hshown (digits_ne_nil _) fun _ hc => isSeparator_of_isDigit (isDigit_of_mem_digits hc)
    | meridiem | lowerMeridiem =>
      rw [renderToken]
      split <;> exact ⟨_, _, rfl, by decide, by decide⟩
    | shortYear => cases hcivil
    | _ => cases hextent

/-! ### Separated layouts -/

/-- Whether a layout begins with text whose first character is a separator. -/
def beginsWithSeparator : Layout → Bool
  | .literal (c :: _) :: _ => isSeparator c
  | _ => false

/-- Whether every two fields of a layout that follow one another are kept apart by text whose first
character is a separator. -/
def isSeparated : Layout → Bool
  | [] => true
  | token :: rest =>
    (!(token.isField && rest.any Token.isField) || beginsWithSeparator rest) && isSeparated rest

/-- No two literals of the layout are neighbours. -/
def IsMerged (layout : Layout) : Prop := layout.IsChain fun a b => a.isField ∨ b.isField

/-- The text that a layout begins with. -/
theorem exists_of_beginsWithSeparator {layout : Layout} (h : beginsWithSeparator layout) :
    ∃ c text rest, layout = .literal (c :: text) :: rest ∧ isSeparator c := by
  match layout with
  | .literal (c :: text) :: rest => exact ⟨c, text, rest, rfl, h⟩

section Split

variable {layout rest : Layout} {pieces : List (List Char)} {after : List Char}

/-- The text of a layout is that of its first token and of the others. -/
theorem render_cons (token : Token) (rest : Layout) (t : Instant) :
    render (token :: rest) t = renderToken t token ++ render rest t := rfl

/-- Texts of literals alone are as they are rendered. -/
theorem flatten_eq_render
    (hpieces : layout.AcceptsAll pieces)
    (h : layout.any Token.isField = false) (t : Instant) : pieces.flatten = render layout t := by
  induction hpieces with
  | nil => rfl
  | @cons token piece rest pieces hpiece _ ih =>
    rw [List.any_cons, Bool.or_eq_false_iff] at h
    cases token with
    | literal text =>
      rw [List.flatten_cons, render_cons, ih h.2, accepts_literal_iff.1 hpiece, renderToken]
    | _ => cases h.1

/-- What is moved past a text from one side to the other is the same but for its order. -/
theorem perm_of_append_eq_append {text later earlier : List Char}
    (h : text ++ later = earlier ++ text) : later.Perm earlier :=
  (List.perm_append_left_iff text).1 (h ▸ List.perm_append_comm)

/-- A text of a field can end earlier than rendered only in front of a separator. -/
theorem isSeparator_of_flatten_eq {c : Char} {cs : List Char}
    (hrest : rest.any Token.isField = false ∨ beginsWithSeparator rest)
    (hpieces : rest.AcceptsAll pieces)
    (hafter : IsBlankText after) (h : pieces.flatten ++ after = c :: cs ++ render rest t) :
    isSeparator c := by
  rcases hrest with hnone | hsep
  · -- only literals follow, so what they are moved by comes from the blanks after them
    rw [flatten_eq_render hpieces hnone t] at h
    have hc : c ∈ after := (perm_of_append_eq_append h).mem_iff.2 List.mem_cons_self
    exact isSeparator_of_isBlank (hafter c hc)
  · obtain ⟨d, text, tail, rfl, hd⟩ := exists_of_beginsWithSeparator hsep
    obtain ⟨_, pieces, hpiece, -, rfl⟩ := List.forall₂_cons_left_iff.1 hpieces
    rw [accepts_literal_iff.1 hpiece] at h
    obtain rfl : d = c := (List.cons.inj h).1
    exact hd

/-- A text of a field can end later than rendered only past a separator. -/
theorem isSeparator_of_render_eq {c : Char} (cs : List Char)
    (hrest : rest.any Token.isField = false ∨ beginsWithSeparator rest)
    (hpieces : rest.AcceptsAll pieces)
    (h : render rest t = c :: cs ++ (pieces.flatten ++ after)) : isSeparator c := by
  rcases hrest with hnone | hsep
  · -- only literals follow, and there is no room to move them
    rw [flatten_eq_render hpieces hnone t] at h
    have := congrArg List.length h
    simp only [List.length_append, List.length_cons] at this
    omega
  · obtain ⟨d, text, tail, rfl, hd⟩ := exists_of_beginsWithSeparator hsep
    obtain rfl : d = c := (List.cons.inj h).1
    exact hd

/-- A text of a field does not end one decimal digit later than rendered: a literal that is moved
by one character is the same character throughout, and so is the next field's first one. -/
theorem isDecimal_of_render_eq {c : Char} (ht : t.IsShowable)
    (hcivil : ∀ token ∈ rest, token.isCivil) (hmerged : IsMerged rest)
    (hrest : rest.any Token.isField = false ∨ beginsWithSeparator rest)
    (hpieces : rest.AcceptsAll pieces)
    (h : render rest t = c :: (pieces.flatten ++ after)) : isDecimal c = false := by
  have hc : isSeparator c := isSeparator_of_render_eq [] hrest hpieces h
  rcases hrest with hnone | hsep
  · rw [flatten_eq_render hpieces hnone t] at h
    have := congrArg List.length h
    simp only [List.length_append, List.length_cons] at this
    omega
  · obtain ⟨d, text, tail, rfl, -⟩ := exists_of_beginsWithSeparator hsep
    obtain ⟨_, pieces, hpiece, -, rfl⟩ := List.forall₂_cons_left_iff.1 hpieces
    rw [accepts_literal_iff.1 hpiece, render_cons, renderToken, List.cons_append] at h
    obtain ⟨rfl, hmoved⟩ := List.cons.inj h
    rw [List.flatten_cons, List.append_assoc] at hmoved
    -- the moved literal ends with the first character of what comes after it
    cases tail with
    | nil =>
      have := congrArg List.length hmoved
      simp [render] at this
      omega
    | cons token tail =>
      have hfield : token.isField := by
        simpa [Token.isField] using (List.isChain_cons_cons.1 hmerged).1
      obtain ⟨e, cs, htoken, -, hascii⟩ :=
        exists_renderToken_eq_cons ht (hcivil token (by simp)) hfield
      have hmoved' : (text ++ [e]) ++ (cs ++ render tail t) =
          ([d] ++ text) ++ (pieces.flatten ++ after) := by
        rw [render_cons, htoken] at hmoved
        simpa using hmoved
      have hpre : text ++ [e] = [d] ++ text := List.append_inj_left hmoved' (by simp)
      obtain rfl : e = d := by simpa using perm_of_append_eq_append hpre
      -- a decimal digit of ASCII is no separator
      rw [isDecimal, if_pos hascii, ← Bool.not_eq_true]
      intro hdigit
      rw [isSeparator_of_isDigit hdigit] at hc
      cases hc

/-- The text of an offset ends where it has been rendered to end. -/
theorem piece_eq_of_offset {more later : List Char} (h : token.extent = .offset)
    (hacc : (fieldPattern token).Accepts piece)
    (htext : piece ++ more = renderToken t token ++ later) : piece = renderToken t token := by
  have hpattern : fieldPattern token = offsetPattern ['Z'] := by
    cases token <;> first | rfl | cases h
  have hrendered : renderToken t token = ['+', '0', '0', ':', '0', '0'] ∨
      renderToken t token = ['+', '0', '0', '0', '0'] := by
    cases token <;> first | exact .inl rfl | exact .inr rfl | cases h
  rw [hpattern, accepts_offsetPattern_iff] at hacc
  rcases hacc with ⟨c, hc, rfl⟩ | ⟨_, hours, colon, minutes, ⟨c, -, rfl⟩, ⟨-, hhours⟩, hcolon,
    ⟨hminutes, hlength⟩, rfl⟩
  · -- the letter for no offset is not rendered
    exfalso
    obtain rfl : c = '+' := by
      rcases hrendered with hrendered | hrendered <;> rw [hrendered] at htext <;>
        exact (List.cons.inj htext).1
    exact absurd hc (by decide)
  · obtain ⟨h₁, h₂, rfl⟩ := List.length_eq_two.1 hhours
    obtain ⟨m₁, m₂, rfl⟩ := List.length_eq_two.1 hlength
    rcases hcolon with rfl | rfl <;> rcases hrendered with hrendered | hrendered <;>
      rw [hrendered] at htext ⊢
    · -- the colon that has been rendered is no digit
      exfalso
      obtain rfl : m₁ = ':' := by
        simp only [List.cons_append, List.nil_append, List.cons.injEq] at htext
        exact htext.2.2.2.1
      exact absurd (List.all_eq_true.1 hminutes ':' List.mem_cons_self) (by decide)
    · exact List.append_inj_left htext rfl
    · exact List.append_inj_left htext rfl
    · simp at htext

/-- What comes after a field is no field, or it begins with a separator. -/
theorem beginsWithSeparator_of_isSeparated (hsep : isSeparated (token :: rest))
    (hfield : token.isField) : rest.any Token.isField = false ∨ beginsWithSeparator rest := by
  rw [isSeparated, Bool.and_eq_true, hfield, Bool.true_and] at hsep
  cases hany : rest.any Token.isField with
  | false => exact .inl rfl
  | true => exact .inr (by simpa [hany] using hsep.1)

/-- The text of a field in which nothing is a separator ends where it has been rendered to end, or
after a separator. -/
theorem piece_eq_or_exists (hsep : isSeparated (token :: rest)) (hfield : token.isField)
    (htoken : ∀ c ∈ renderToken t token, isSeparator c = false)
    (hpieces : rest.AcceptsAll pieces)
    (hafter : IsBlankText after)
    (h : piece ++ (pieces.flatten ++ after) = renderToken t token ++ render rest t) :
    piece = renderToken t token ∨ ∃ c cs, piece = renderToken t token ++ c :: cs ∧
      isSeparator c ∧ render rest t = c :: cs ++ (pieces.flatten ++ after) := by
  have hrest := beginsWithSeparator_of_isSeparated hsep hfield
  rcases List.append_eq_append_iff.1 h with ⟨left, hw, hmore⟩ | ⟨left, hpiece, hlater⟩
  · -- a text that ends too early leaves a character that is no separator
    cases left with
    | nil => exact .inl (by rw [hw, List.append_nil])
    | cons c cs =>
      have hc := isSeparator_of_flatten_eq hrest hpieces hafter hmore
      rw [htoken c (by simp [hw])] at hc
      cases hc
  · cases left with
    | nil => exact .inl (by rw [hpiece, List.append_nil])
    | cons c cs =>
      exact .inr ⟨c, cs, hpiece, isSeparator_of_render_eq cs hrest hpieces hlater, hlater⟩

/-- The text of a token ends where it has been rendered to end. -/
theorem piece_eq (ht : t.IsShowable) (hcivil : ∀ other ∈ token :: rest, other.isCivil)
    (hmerged : IsMerged (token :: rest)) (hsep : isSeparated (token :: rest))
    (hacc : (fieldPattern token).Accepts piece)
    (hpieces : rest.AcceptsAll pieces)
    (hafter : IsBlankText after)
    (h : piece ++ (pieces.flatten ++ after) = renderToken t token ++ render rest t) :
    piece = renderToken t token := by
  rw [List.forall_mem_cons] at hcivil
  cases hextent : token.extent with
  | literal text =>
    cases token <;> cases hextent
    exact accepts_literal_iff.1 hacc
  | fixed width =>
    exact List.append_inj_left h ((length_of_accepts hextent hacc).trans
      (length_of_accepts hextent (accepts_renderToken ht hcivil.1)).symm)
  | offset => exact piece_eq_of_offset hextent hacc h
  | epoch => cases token <;> first | cases hextent; cases hcivil.1 | cases hextent
  | name =>
    have hfield : token.isField := by cases token <;> first | rfl | cases hextent
    have hrendered := (renderToken_name t hextent).1
    rcases piece_eq_or_exists hsep hfield (fun c hc => isSeparator_of_letter (hrendered c hc))
      hpieces hafter h with heq | ⟨c, cs, hpiece, hc, -⟩
    · exact heq
    · have hletter := ((accepts_name_iff hextent).1 hacc).1 c (by simp [hpiece])
      rw [isSeparator_of_letter hletter] at hc
      cases hc
  | number =>
    have hfield : token.isField := by cases token <;> first | rfl | cases hextent
    obtain ⟨hdigits, -, hmost⟩ := (accepts_number_iff hextent).1 hacc
    obtain ⟨hrendered, hleast, -⟩ := renderToken_number t hextent
    rcases piece_eq_or_exists hsep hfield (fun c hc => isSeparator_of_isDigit (hrendered c hc))
      hpieces hafter h with heq | ⟨c, cs, hpiece, -, hlater⟩
    · exact heq
    · -- one digit has been rendered, so that just one other can follow it
      obtain rfl : cs = [] := by
        rw [hpiece, List.length_append, List.length_cons] at hmost
        exact List.length_eq_zero_iff.1 (by omega)
      have hc := isDecimal_of_render_eq ht hcivil.2 hmerged.of_cons
        (beginsWithSeparator_of_isSeparated hsep hfield) hpieces hlater
      rw [hdigits c (by simp [hpiece])] at hc
      cases hc

/-- Texts of tokens that stand one after another as rendered are those that have been rendered. -/
theorem pieces_eq (ht : t.IsShowable) (hcivil : ∀ token ∈ layout, token.isCivil)
    (hmerged : IsMerged layout) (hsep : isSeparated layout)
    (hpieces : layout.AcceptsAll pieces)
    (hafter : IsBlankText after) (h : pieces.flatten ++ after = render layout t) :
    pieces = layout.map (renderToken t) := by
  induction hpieces with
  | nil => rfl
  | @cons token piece rest pieces hpiece hrest ih =>
    rw [List.flatten_cons, List.append_assoc, render_cons] at h
    obtain rfl := piece_eq ht hcivil hmerged hsep hpiece hrest hafter h
    rw [isSeparated, Bool.and_eq_true] at hsep
    rw [List.map_cons, ih (fun other hother => hcivil other (List.mem_cons_of_mem _ hother))
      hmerged.of_cons hsep.2 (List.append_cancel_left h)]

/-- However a layout splits a text, this begins with at least as many blanks as the layout
renders. -/
theorem length_blanks_render_le (ht : t.IsShowable) (hcivil : ∀ token ∈ layout, token.isCivil)
    (hpieces : layout.AcceptsAll pieces)
    (after : List Char) :
    ((render layout t).takeWhile isBlank).length ≤
      ((pieces.flatten ++ after).takeWhile isBlank).length := by
  induction hpieces with
  | nil => exact Nat.zero_le _
  | @cons token piece rest pieces hpiece hrest ih =>
    rw [List.forall_mem_cons] at hcivil
    rw [render_cons, List.flatten_cons, List.append_assoc]
    cases hfield : token.isField with
    | false =>
      cases token with
      | literal text =>
        rw [accepts_literal_iff.1 hpiece, renderToken]
        -- blanks of a literal count on both sides, and a literal of blanks passes on the count
        rw [List.takeWhile_append, List.takeWhile_append]
        split
        · simpa using ih hcivil.2
        · exact le_rfl
      | _ => cases hfield
    | true =>
      obtain ⟨c, cs, htoken, hc, -⟩ := exists_renderToken_eq_cons ht hcivil.1 hfield
      simp [htoken, hc]

/-- The only split of a rendered text is the one that it has been made from. -/
theorem pieces_eq_of_isSplit {before : List Char} (ht : t.IsShowable)
    (hcivil : ∀ token ∈ layout, token.isCivil) (hmerged : IsMerged layout)
    (hsep : isSeparated layout)
    (h : layout.IsSplit (render layout t) before pieces after) :
    pieces = layout.map (renderToken t) := by
  have hle := length_blanks_render_le ht hcivil h.pieces_accepted after
  -- blanks in front would be more blanks than have been rendered
  rw [h.text_eq, List.takeWhile_append_of_pos h.before_blank, List.length_append] at hle
  obtain rfl : before = [] := List.length_eq_zero_iff.1 (by omega)
  exact pieces_eq ht hcivil hmerged hsep h.pieces_accepted h.after_blank h.text_eq.symm

/-- A rendered text is split into what its tokens have rendered. -/
theorem isSplit_render (ht : t.IsShowable) (hcivil : ∀ token ∈ layout, token.isCivil) :
    layout.IsSplit (render layout t) [] (layout.map (renderToken t)) [] where
  before_blank := fun _ h => absurd h List.not_mem_nil
  pieces_accepted :=
    List.forall₂_map_right_iff.2 (List.forall₂_same.2 fun token htoken =>
      accepts_renderToken ht (hcivil token htoken))
  after_blank := fun _ h => absurd h List.not_mem_nil
  text_eq := by rw [List.nil_append, List.append_nil, render, List.flatMap_def]

/-- A rendered text is read from what its tokens have rendered. -/
theorem read?_render_eq (ht : t.IsShowable) (hcivil : ∀ token ∈ layout, token.isCivil)
    (hmerged : IsMerged layout) (hsep : isSeparated layout) (hfits : layout.pattern.fits) :
    layout.read? (render layout t) =
      (takeTexts layout (layout.map (renderToken t)) {}).bind Fields.instant? := by
  obtain ⟨before, pieces, after, hsplit, hread⟩ :=
    exists_read?_eq hfits (isSplit_render ht hcivil)
  rw [hread, pieces_eq_of_isSplit ht hcivil hmerged hsep hsplit]

end Split

end Layout
end Gleaner.Calendar
