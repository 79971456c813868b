import Gleaner.Json.Number
import Gleaner.Proofs.Number.Digits
import Gleaner.Proofs.Number.Exact
import Gleaner.Proofs.Text.Trim

/-!
# Written number literals

A number literal is digits without a leading zero, perhaps with a minus sign in front, a point with
digits after it, and an exponent. This is said here without the reader, as a relation between the
parts of a literal and its text, and the reader accepts just these texts.

The reader takes an integer of 64 bits as it is. Of other literals it takes the digits into a word
and scales it by a power of ten. Where both are doubles this rounds only once, and the literal
stands for the double nearest to the decimal number that it writes; longer literals may be off in
the last place.

## Main definitions

* `IsDigits`: one digit or more.
* `WritesInt`, `WritesExponent`, `WritesFraction`: the texts of the parts of a literal.
* `Writes`: the texts of a literal.
* `Literal.decimal`: the decimal number that a literal writes, but for its sign.
* `Literal.IsWord`, `Literal.IsShort`, `Literal.RoundsOnce`: literals whose number is rounded once.

## Main results

* `readLiteral_eq_some_iff`: the reader accepts the texts of literals and no others.
* `Literal.RoundsOnce.toNumber?_eq`: such a literal stands for the nearest double.
-/

namespace Gleaner.Json.Number

/-- One digit or more. -/
def IsDigits (cs : List Char) : Prop := cs ≠ [] ∧ ∀ c ∈ cs, isDigit c

instance (cs : List Char) : Decidable (IsDigits cs) :=
  decidable_of_iff (!cs.isEmpty && cs.all isDigit) (by simp [IsDigits])

/-- An integer as it is written in an exponent: digits, perhaps with a sign. -/
inductive WritesInt : Int → List Char → Prop
  /-- There need not be a sign. -/
  | unsigned {ds : List Char} : IsDigits ds → WritesInt (ofDigits ds) ds
  /-- A plus sign may be written. -/
  | plus {ds : List Char} : IsDigits ds → WritesInt (ofDigits ds) ('+' :: ds)
  /-- A minus sign. -/
  | minus {ds : List Char} : IsDigits ds → WritesInt (-(ofDigits ds : Int)) ('-' :: ds)

/-- The exponent of a literal as it is written, if there is one. -/
inductive WritesExponent : Option Int → List Char → Prop
  /-- There is no exponent. -/
  | absent : WritesExponent none []
  /-- A letter and an integer. -/
  | present {mark : Char} {e : Int} {cs : List Char} :
      mark = 'e' ∨ mark = 'E' → WritesInt e cs → WritesExponent (some e) (mark :: cs)

/-- The digits of the fraction of a literal as they are written, if there are any. -/
inductive WritesFraction : Option (List Char) → List Char → Prop
  /-- There is no fraction. -/
  | absent : WritesFraction none []
  /-- A point and digits. -/
  | present {ds : List Char} : IsDigits ds → WritesFraction (some ds) ('.' :: ds)

/-- A literal as it is written. -/
inductive Writes : Literal → List Char → Prop
  /-- Perhaps a minus sign, digits that begin with a zero only if this is the only one, and then
  the fraction and the exponent. -/
  | literal (negative : Bool) {whole : List Char} {fraction : Option (List Char)}
      {exponent : Option Int} {point power : List Char} :
      IsDigits whole → (whole.head? = some '0' → whole = ['0']) →
      WritesFraction fraction point → WritesExponent exponent power →
      Writes ⟨negative, whole, fraction, exponent⟩
        ((if negative then ['-'] else []) ++ (whole ++ (point ++ power)))

/-! ### Digits -/

section Digits

variable {ds rest : List Char}

/-- The digits at the start of a text, if there are any. -/
theorem isDigits_takeWhile (h : (rest.takeWhile isDigit).isEmpty = false) :
    IsDigits (rest.takeWhile isDigit) :=
  ⟨by simpa using h, fun _ hc => List.mem_takeWhile_imp hc⟩

/-- The first of some digits is a digit. -/
theorem IsDigits.exists_cons (h : IsDigits ds) : ∃ c cs, ds = c :: cs ∧ isDigit c := by
  obtain ⟨c, cs, rfl⟩ := List.exists_cons_of_ne_nil h.1
  exact ⟨c, cs, rfl, h.2 c List.mem_cons_self⟩

end Digits

/-! ### The parts of a literal -/

section Parts

variable {cs rest : List Char}

/-- No sign is read where a digit stands. -/
theorem readMinus_of_isDigit {c : Char} (hc : isDigit c) (cs : List Char) :
    readMinus (c :: cs) = (false, c :: cs) := by
  unfold readMinus
  split
  next heq =>
    cases heq
    cases hc
  next => rfl

/-- A minus sign is read, if there is one. -/
theorem readMinus_append {ds : List Char} (negative : Bool) (h : IsDigits ds) (rest : List Char) :
    readMinus ((if negative then ['-'] else []) ++ (ds ++ rest)) = (negative, ds ++ rest) := by
  cases negative with
  | true => rfl
  | false =>
    obtain ⟨c, cs, rfl, hc⟩ := h.exists_cons
    exact readMinus_of_isDigit hc _

/-- What is left where a minus sign has been read. -/
theorem append_snd_readMinus (cs : List Char) :
    (if (readMinus cs).1 then ['-'] else []) ++ (readMinus cs).2 = cs := by
  unfold readMinus
  split <;> rfl

/-- What is read as a fraction has been written as one. -/
theorem exists_writesFraction {fraction : Option (List Char)}
    (h : readFractionPart cs = some (fraction, rest)) :
    ∃ point, WritesFraction fraction point ∧ cs = point ++ rest := by
  unfold readFractionPart at h
  split at h
  next digits =>
    dsimp only at h
    split at h
    next => cases h
    next hne =>
      cases h
      refine ⟨_, .present (isDigits_takeWhile (by simpa using hne)), ?_⟩
      rw [List.cons_append, List.takeWhile_append_dropWhile]
  next =>
    cases h
    exact ⟨[], .absent, rfl⟩

/-- A written fraction is read, where neither a point nor a digit follows it. -/
theorem readFractionPart_append {fraction : Option (List Char)} {point : List Char}
    (h : WritesFraction fraction point)
    (hrest : ∀ c ∈ rest.head?, isDigit c = false ∧ c ≠ '.') :
    readFractionPart (point ++ rest) = some (fraction, rest) := by
  cases h with
  | absent =>
    rw [List.nil_append]
    unfold readFractionPart
    split
    next => exact absurd rfl (hrest '.' rfl).2
    next => rfl
  | @present ds hds =>
    obtain ⟨htake, hdrop⟩ := takeWhile_append_of_head hds.2 fun c hc => (hrest c hc).1
    have hne : ds.isEmpty = false := by simpa using hds.1
    simp [readFractionPart, htake, hdrop, hne]

/-- Digits up to the end of the text are read as the number that they spell, with its sign. -/
theorem map_readNat?_eq_some_iff {negative : Bool} {ds : List Char} {e : Int} :
    (readNat? (ds.takeWhile isDigit)).map (fun n : Nat =>
        (if negative then -(n : Int) else n, ds.dropWhile isDigit)) = some (e, []) ↔
      IsDigits ds ∧ e = if negative then -(ofDigits ds : Int) else ofDigits ds := by
  simp only [Option.map_eq_some_iff, Prod.mk.injEq]
  constructor
  · rintro ⟨n, hn, rfl, hrest⟩
    have htake : ds.takeWhile isDigit = ds :=
      List.takeWhile_eq_self_iff.2 (List.dropWhile_eq_nil_iff.1 hrest)
    rw [htake, readNat?] at hn
    split at hn
    next => cases hn
    next hne =>
      simp only [Bool.or_eq_true, not_or, List.isEmpty_iff, Bool.not_eq_true', Bool.not_eq_false,
        List.all_eq_true] at hne
      exact ⟨hne, by rw [Option.some.inj hn]⟩
  · rintro ⟨hds, rfl⟩
    have htake : ds.takeWhile isDigit = ds := List.takeWhile_eq_self_iff.2 hds.2
    exact ⟨ofDigits ds, by rw [htake, readNat?_of_forall hds.2 hds.1], rfl,
      List.dropWhile_eq_nil_iff.2 hds.2⟩

/-- No digits begin with another character. -/
theorem not_isDigits_cons {c : Char} (hc : isDigit c = false) : ¬IsDigits (c :: cs) := by
  intro h
  rw [h.2 c List.mem_cons_self] at hc
  cases hc

/-- Integers are read up to the end of the text just where they have been written. -/
theorem readExponent_eq_some_iff {e : Int} :
    readExponent cs = some (e, []) ↔ WritesInt e cs := by
  by_cases hplus : ∃ ds, cs = '+' :: ds
  · obtain ⟨ds, rfl⟩ := hplus
    refine (@map_readNat?_eq_some_iff false ds e).trans ⟨?_, ?_⟩
    · rintro ⟨hds, rfl⟩
      exact .plus hds
    · rintro (hds | hds)
      · exact absurd hds (not_isDigits_cons (by decide))
      · exact ⟨hds, rfl⟩
  by_cases hminus : ∃ ds, cs = '-' :: ds
  · obtain ⟨ds, rfl⟩ := hminus
    refine (@map_readNat?_eq_some_iff true ds e).trans ⟨?_, ?_⟩
    · rintro ⟨hds, rfl⟩
      exact .minus hds
    · rintro (hds | _ | hds)
      · exact absurd hds (not_isDigits_cons (by decide))
      · exact ⟨hds, rfl⟩
  · -- without a sign all of the text has to be digits
    have hread : readExponent cs = (readNat? (cs.takeWhile isDigit)).map fun n : Nat =>
        (if false then -(n : Int) else n, cs.dropWhile isDigit) := by
      have hnone : readMinus cs = (false, cs) := by
        unfold readMinus
        split
        next rest => exact absurd ⟨rest, rfl⟩ hminus
        next => rfl
      unfold readExponent
      split
      next heq =>
        split at heq
        next rest => exact absurd ⟨rest, rfl⟩ hplus
        next =>
          rw [hnone] at heq
          cases heq
          rfl
    rw [hread, map_readNat?_eq_some_iff]
    constructor
    · rintro ⟨hds, rfl⟩
      exact .unsigned hds
    · rintro (hds | hds | hds)
      · exact ⟨hds, rfl⟩
      · exact absurd ⟨_, rfl⟩ hplus
      · exact absurd ⟨_, rfl⟩ hminus

/-- Exponents are read up to the end of the text just where they have been written. -/
theorem readExponentPart_eq_some_iff {exponent : Option Int} :
    readExponentPart cs = some (exponent, []) ↔ WritesExponent exponent cs := by
  cases cs with
  | nil =>
    constructor
    · intro h
      cases h
      exact .absent
    · rintro ⟨⟩
      rfl
  | cons c rest =>
    rw [readExponentPart]
    constructor
    · intro h
      split at h
      next hmark =>
        obtain ⟨⟨e, tail⟩, he, heq⟩ := Option.map_eq_some_iff.1 h
        cases heq
        exact .present (by simpa using hmark) (readExponent_eq_some_iff.1 he)
      next => cases h
    · rintro (_ | ⟨hmark, he⟩)
      rw [if_pos (by simpa using hmark), readExponent_eq_some_iff.2 he]
      rfl

/-- Neither a point nor a digit begins an exponent. -/
theorem WritesExponent.head_ne {exponent : Option Int} (h : WritesExponent exponent cs) :
    ∀ c ∈ cs.head?, isDigit c = false ∧ c ≠ '.' := by
  rintro c hc
  cases h with
  | absent => cases hc
  | present hmark =>
    cases hc
    rcases hmark with rfl | rfl <;> decide

/-- No digit begins a fraction and what follows it. -/
theorem WritesFraction.head_isDigit {fraction : Option (List Char)} {point : List Char}
    (h : WritesFraction fraction point) (hrest : ∀ c ∈ rest.head?, isDigit c = false) :
    ∀ c ∈ (point ++ rest).head?, isDigit c = false := by
  cases h with
  | absent => exact hrest
  | present =>
    rintro c ⟨⟩
    decide

end Parts

/-! ### Literals -/

/-- Digits with a leading zero are the zero alone. -/
theorem leading_zero_iff {whole : List Char} :
    (whole.length > 1 && whole.head? == some '0') = false ↔
      (whole.head? = some '0' → whole = ['0']) := by
  rcases whole with _ | ⟨c, _ | ⟨d, more⟩⟩
  · simp
  · simp
  · simp

/-- **Number literals.** A text is read as a literal just when it has been written as one. -/
theorem readLiteral_eq_some_iff {cs : List Char} {l : Literal} :
    readLiteral cs = some (l, []) ↔ Writes l cs := by
  constructor
  · intro h
    rw [← append_snd_readMinus cs]
    unfold readLiteral at h
    split at h
    next negative body hminus =>
    rw [hminus]
    dsimp only at h
    split at h
    next => cases h
    next hwhole =>
      simp only [Bool.or_eq_true, not_or, Bool.not_eq_true] at hwhole
      obtain ⟨⟨fraction, rest⟩, hfraction, h⟩ := Option.bind_eq_some_iff.1 h
      obtain ⟨⟨exponent, tail⟩, hexponent, h⟩ := Option.bind_eq_some_iff.1 h
      cases h
      obtain ⟨point, hpoint, hbody⟩ := exists_writesFraction hfraction
      have hpower := readExponentPart_eq_some_iff.1 hexponent
      have hliteral := Writes.literal negative (isDigits_takeWhile hwhole.1)
        (leading_zero_iff.1 hwhole.2) hpoint hpower
      rwa [← hbody, List.takeWhile_append_dropWhile] at hliteral
  · rintro ⟨negative, hwhole, hzero, hpoint, hpower⟩
    have hrest := hpoint.head_isDigit fun c hc => (hpower.head_ne c hc).1
    obtain ⟨htake, hdrop⟩ := takeWhile_append_of_head hwhole.2 hrest
    rw [readLiteral, readMinus_append negative hwhole]
    dsimp only
    rw [htake, hdrop, leading_zero_iff.2 hzero, Bool.or_false, if_neg (by simpa using hwhole.1),
      readFractionPart_append hpoint hpower.head_ne, Option.bind_eq_bind, Option.bind_some,
      readExponentPart_eq_some_iff.2 hpower]
    rfl

/-! ### Literals that are rounded once -/

/-- The decimal number that a literal writes, but for its sign. -/
def Literal.decimal (l : Literal) : Decimal where
  coefficient := ofDigits (l.whole ++ l.fraction.getD [])
  exponent := l.exponent.getD 0 - (l.fraction.getD []).length

/-- A literal for an integer of 64 bits. -/
structure Literal.IsWord (l : Literal) : Prop where
  /-- There is no fraction. -/
  fraction_eq : l.fraction = none
  /-- There is no exponent. -/
  exponent_eq : l.exponent = none
  /-- The digits spell a number below 2⁶⁴. -/
  whole_lt : ofDigits l.whole < 18446744073709551616

/-- A literal whose digits and whose power of ten are doubles. -/
structure Literal.IsShort (l : Literal) : Prop where
  /-- The digits spell a number below 2⁵³. -/
  coefficient_lt : l.decimal.coefficient < 9007199254740992
  /-- The power of ten is below 2⁵³, or else its inverse is. -/
  exponent_le : l.decimal.exponent.natAbs ≤ 15
  /-- The exponent is written as a number below 2³¹. -/
  written_lt : (l.exponent.getD 0).natAbs < 2147483648

instance (l : Literal) : Decidable l.IsShort :=
  decidable_of_iff (l.decimal.coefficient < 9007199254740992 ∧ l.decimal.exponent.natAbs ≤ 15 ∧
      (l.exponent.getD 0).natAbs < 2147483648)
    ⟨fun ⟨hcoefficient, hexponent, hwritten⟩ => ⟨hcoefficient, hexponent, hwritten⟩,
      fun h => ⟨h.coefficient_lt, h.exponent_le, h.written_lt⟩⟩

/-- A literal whose number is rounded once, when it becomes a double. -/
def Literal.RoundsOnce (l : Literal) : Prop := l.IsWord ∨ l.IsShort

/-- Digits that spell a number of 64 bits are all taken. -/
theorem takeWord_eq {n : Nat} {cs : List Char}
    (h : 10 ^ cs.length * n + ofDigits cs < 18446744073709551616) :
    takeWord n cs = (10 ^ cs.length * n + ofDigits cs, []) := by
  induction cs generalizing n with
  | nil => simp [takeWord, ofDigits]
  | cons c cs ih =>
    have hnext : 10 ^ (c :: cs).length * n + ofDigits (c :: cs) =
        10 ^ cs.length * (10 * n + digitValue c) + ofDigits cs := by
      have hcons : ofDigits (c :: cs) = 10 ^ cs.length * digitValue c + ofDigits cs := by
        simpa [ofDigits] using ofDigits_append [c] cs
      rw [hcons, List.length_cons, Nat.pow_succ, Nat.mul_add, Nat.mul_assoc, Nat.add_assoc]
    rw [hnext] at h ⊢
    -- the digits up to this one spell no more than all of them
    have hfits : 10 * n + digitValue c < Nat.pow 2 64 :=
      calc 10 * n + digitValue c ≤ 10 ^ cs.length * (10 * n + digitValue c) :=
            Nat.le_mul_of_pos_left _ (Nat.pow_pos (by decide))
        _ ≤ 10 ^ cs.length * (10 * n + digitValue c) + ofDigits cs := Nat.le_add_right _ _
        _ < Nat.pow 2 64 := h
    rw [takeWord, if_pos hfits, ih h]

/-- The digits before the point and after it are taken together. -/
theorem takeWord_append {whole digits : List Char}
    (h : ofDigits (whole ++ digits) < 18446744073709551616) :
    takeWord 0 whole = (ofDigits whole, []) ∧
      takeWord (ofDigits whole) digits = (ofDigits (whole ++ digits), []) := by
  rw [ofDigits_append] at h ⊢
  have hwhole : ofDigits whole ≤ 10 ^ digits.length * ofDigits whole :=
    Nat.le_mul_of_pos_left _ (Nat.pow_pos (by decide))
  constructor
  · simpa using @takeWord_eq 0 whole (by omega)
  · exact takeWord_eq h

/-- A small power of ten is a double. -/
theorem pow_ten_lt {k : Nat} (h : k ≤ 15) : 10 ^ k < 9007199254740992 :=
  Nat.lt_of_le_of_lt (Nat.pow_le_pow_right (by decide) h) (by decide)

/-- Digits and a power of ten that both are doubles make the double nearest to their product or
quotient. -/
theorem fromParts_eq {significand : Nat} {exponent : Int} (negative : Bool)
    (hsignificand : significand < 9007199254740992) (hexponent : exponent.natAbs ≤ 15) :
    fromParts negative significand exponent =
      some ((Decimal.mk significand exponent).toDouble negative) := by
  have hpower := pow_ten_lt hexponent
  have hsign (n d : Nat) :
      (if negative then -Double.ofRatio false n d else Double.ofRatio false n d) =
        Double.ofRatio negative n d := by
    cases negative with
    | true => rw [if_pos rfl, Double.neg_ofRatio, Bool.not_false]
    | false => rw [if_neg Bool.false_ne_true]
  rw [fromParts, scaleByTen, if_pos (by omega), Nat.pow_eq, Decimal.toDouble]
  dsimp only
  by_cases hpos : 0 ≤ exponent
  · obtain ⟨k, rfl⟩ := Int.eq_ofNat_of_zero_le hpos
    have hfinite := Double.isFinite_ofNat_mul hsignificand hpower
    rw [if_pos hpos, Double.ofNat_mul_ofNat hsignificand hpower, if_pos hfinite, Option.map_some,
      Double.ofNat, hsign]
    simp
  · obtain ⟨k, rfl⟩ := Int.exists_eq_neg_ofNat (by omega : exponent ≤ 0)
    rw [if_neg hpos, Double.ofNat_div_ofNat hsignificand hpower (Nat.pow_pos (by decide)),
      Option.map_some, hsign]
    simp

/-- A short literal is the double nearest to the decimal number that it writes. -/
theorem Literal.IsShort.toDouble?_eq {l : Literal} (h : l.IsShort) :
    l.toDouble? = some (l.decimal.toDouble l.negative) := by
  obtain ⟨hwhole, hdigits⟩ := takeWord_append (Nat.lt_trans h.coefficient_lt (by decide))
  have hparts := fromParts_eq l.negative h.coefficient_lt h.exponent_le
  have hwritten : (l.exponent.getD 0).natAbs < Nat.pow 2 31 := h.written_lt
  rcases l with ⟨negative, whole, _ | digits, exponent⟩
  · rw [← hparts]
    simp only [Literal.toDouble?, hwhole, if_pos hwritten, decimal, Option.getD_none,
      List.append_nil, List.length_nil, Int.ofNat_zero, Int.add_zero]
  · rw [← hparts]
    simp only [Option.getD_some] at hdigits
    simp only [Literal.toDouble?, hwhole, hdigits, if_pos hwritten, decimal, Option.getD_some,
      List.length_nil, Int.ofNat_zero, Int.add_zero, Nat.sub_zero]

/-- A literal for an integer of 64 bits stands for the double nearest to it; a minus sign in front
of zeros makes the negative zero. -/
theorem Literal.IsWord.toNumber?_eq {l : Literal} (h : l.IsWord) :
    l.toNumber?.map Json.Number.toDouble = some (l.decimal.toDouble l.negative) := by
  have hword : (l.fraction.isNone && l.exponent.isNone &&
      decide (ofDigits l.whole < Nat.pow 2 64)) = true := by
    rw [h.fraction_eq, h.exponent_eq]
    exact decide_eq_true h.whole_lt
  have hdecimal : l.decimal.toDouble l.negative =
      Double.ofRatio l.negative (ofDigits l.whole) 1 := by
    simp [Decimal.toDouble, decimal, h.fraction_eq, h.exponent_eq]
  rw [toNumber?, if_pos hword, hdecimal]
  generalize ofDigits l.whole = n
  cases l.negative with
  | false =>
    have hsign : ¬(n : Int) < 0 := by omega
    rw [if_pos (by decide), Option.map_some, Json.Number.toDouble, Double.ofInt,
      Int.natAbs_natCast, decide_eq_false hsign]
  | true =>
    rw [if_neg (by decide)]
    split
    next =>
      rw [Option.map_some, Json.Number.toDouble, Double.ofNat, Double.neg_ofRatio, Bool.not_false]
    next hne =>
      simp only [Bool.or_eq_true, decide_eq_true_eq, not_or] at hne
      have hsign : -(n : Int) < 0 := by omega
      rw [Option.map_some, Json.Number.toDouble, Double.ofInt, Int.natAbs_neg,
        Int.natAbs_natCast, decide_eq_true hsign]

/-- **Literals that are rounded once.** An integer of 64 bits or a short literal stands for the
double nearest to the decimal number that it writes. -/
theorem Literal.RoundsOnce.toNumber?_eq {l : Literal} (h : l.RoundsOnce) :
    l.toNumber?.map Json.Number.toDouble = some (l.decimal.toDouble l.negative) := by
  by_cases hword : l.IsWord
  · exact hword.toNumber?_eq
  · have hreal : ¬(l.fraction.isNone && l.exponent.isNone &&
        decide (ofDigits l.whole < Nat.pow 2 64)) = true := by
      simp only [Bool.and_eq_true, Option.isNone_iff_eq_none, decide_eq_true_eq]
      exact fun ⟨⟨hfraction, hexponent⟩, hwhole⟩ => hword ⟨hfraction, hexponent, hwhole⟩
    rw [toNumber?, if_neg hreal, (h.resolve_left hword).toDouble?_eq, Option.map_some,
      Option.map_some, Json.Number.toDouble]

end Gleaner.Json.Number
