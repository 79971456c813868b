import Gleaner.Proofs.Numeral.WholeNumbers

/-!
# Patterns for whole numbers

A pattern for whole numbers is a zero, with a comma where thousands are grouped. A point with zeros
or the marker of an ordinal ending follows it, a currency sign stands before or after it, and a plus
and parentheses around it. What is written by such a pattern is read back as the same number.

## Main definitions

* `Numeral.WholePattern`: the patterns for whole numbers, with their `text` and their `style`.

## Main results

* `Numeral.takeMarker?_append`: a marker is taken out with the spaces beside it.
* `Numeral.rest_sublist`, `Numeral.infix_rest`: what is left of the pattern.
* `Numeral.WholePattern.ofPattern_text`: the style that is read from the text of a pattern.
* `Numeral.WholePattern.read?_write_text`: numbers without a fractional part are read back.
* `Numeral.WholePattern.read?_write_ofInt`: integers up to 2⁵³ are read back.
-/

namespace Gleaner.Numeral

variable {c : Char} {cs ds : List Char}

/-! ### Taking out markers -/

section Markers

variable {before after : List Char}

/-- What is not in a text does not occur in it. -/
theorem indexOf?_of_not_mem (h : c ∉ cs) (ds : List Char) : indexOf? (c :: ds) cs = none := by
  induction cs with
  | nil => rfl
  | cons d cs ih =>
    rw [List.mem_cons, not_or] at h
    have hfirst : (c :: ds).isPrefixOf (d :: cs) = false := by
      rw [List.isPrefixOf_cons_cons, beq_false_of_ne h.1, Bool.false_and]
    rw [indexOf?, if_neg (by simp [hfirst]), ih h.2]
    rfl

/-- A character occurs first where it is not before. -/
theorem indexOf?_append (h : c ∉ before) (after : List Char) :
    indexOf? [c] (before ++ c :: after) = some before.length := by
  induction before with
  | nil => simp [indexOf?]
  | cons d before ih =>
    rw [List.mem_cons, not_or] at h
    have hfirst : [c].isPrefixOf (d :: (before ++ c :: after)) = false := by
      rw [List.isPrefixOf_cons_cons, beq_false_of_ne h.1, Bool.false_and]
    rw [List.cons_append, indexOf?, if_neg (by simp [hfirst]), ih h.2]
    rfl

/-- A marker is taken out with one space on each side of it. -/
theorem takeMarker?_append (hc : c ≠ ' ') (hbefore : c ∉ before)
    (hlast : before.getLast? ≠ some ' ') (hhead : after.head? ≠ some ' ') (l r : Bool) :
    takeMarker? [c] (before ++ spaceIf l ++ c :: (spaceIf r ++ after)) =
      some ⟨before.length, l || r, before ++ after⟩ := by
  have hmem : c ∉ before ++ spaceIf l := by
    cases l <;> simp [spaceIf, hbefore, hc]
  have htake : (before ++ spaceIf l ++ c :: (spaceIf r ++ after)).take
      (before ++ spaceIf l).length = before ++ spaceIf l := List.take_left
  have hdrop : (before ++ spaceIf l ++ c :: (spaceIf r ++ after)).drop
      ((before ++ spaceIf l).length + [c].length) = spaceIf r ++ after := by
    rw [← List.drop_drop, List.drop_left]
    rfl
  rw [takeMarker?, indexOf?_append hmem, Option.map_some]
  dsimp only
  rw [htake, hdrop]
  have hspaceBefore : (before ++ spaceIf l).getLast? = some ' ' ↔ l = true := by
    cases l <;> simp [spaceIf, hlast]
  have hspaceAfter : (spaceIf r ++ after).head? = some ' ' ↔ r = true := by
    cases r <;> simp [spaceIf, hhead]
  simp only [hspaceBefore, hspaceAfter]
  cases l <;> cases r <;> simp [spaceIf]

/-- The first of a character is taken out of a text that has it, with one space on each side. -/
theorem exists_takeMarker?_eq (h : c ∈ cs) :
    ∃ before after m, cs = before ++ c :: after ∧ takeMarker? [c] cs = some m ∧
      m.rest = (if before.getLast? = some ' ' then before.dropLast else before) ++
        (if after.head? = some ' ' then after.drop 1 else after) := by
  obtain ⟨before, after, rfl, hbefore⟩ := List.eq_append_cons_of_mem h
  have htake : (before ++ c :: after).take before.length = before := List.take_left
  have hdrop : (before ++ c :: after).drop (before.length + [c].length) = after := by
    rw [← List.drop_drop, List.drop_left]
    rfl
  refine ⟨before, after, _, rfl, by rw [takeMarker?, indexOf?_append hbefore, Option.map_some], ?_⟩
  dsimp only
  rw [htake, hdrop]

/-- What occurs in a text is found in it. -/
theorem exists_indexOf?_eq (h : ds <:+: cs) : ∃ n, indexOf? ds cs = some n := by
  induction cs with
  | nil =>
    rw [List.infix_nil.1 h]
    exact ⟨0, rfl⟩
  | cons c cs ih =>
    rw [indexOf?]
    split
    · exact ⟨0, rfl⟩
    next hfirst =>
      have hrest : ds <:+: cs := (List.infix_cons_iff.1 h).resolve_left fun hstart =>
        hfirst (List.isPrefixOf_iff_prefix.2 hstart)
      obtain ⟨n, hn⟩ := ih hrest
      exact ⟨n + 1, by rw [hn]; rfl⟩

/-- A marker that occurs in a pattern is taken out of it. -/
theorem exists_takeMarker?_eq_some (h : ds <:+: cs) : ∃ m, takeMarker? ds cs = some m := by
  obtain ⟨n, hn⟩ := exists_indexOf?_eq h
  exact ⟨_, by rw [takeMarker?, hn, Option.map_some]⟩

/-- A marker is missing where its first character is. -/
theorem takeMarker?_of_not_mem (h : c ∉ cs) (ds : List Char) : takeMarker? (c :: ds) cs = none := by
  rw [takeMarker?, indexOf?_of_not_mem h ds]
  rfl

/-- What does not have a character does not begin with it, unless it is empty. -/
theorem eq_nil_of_prefix_cons (hc : c ∉ ds) (h : ds <+: c :: after) : ds = [] := by
  cases ds with
  | nil => rfl
  | cons d ds => exact absurd (.inl (List.cons_prefix_cons.1 h).1.symm) (hc ∘ List.mem_cons.2)

/-- What does not have a character occurs before it or after it. -/
theorem infix_before_or_after (hc : c ∉ ds) (h : ds <:+: before ++ c :: after) :
    ds <:+: before ∨ ds <:+: after := by
  rcases List.infix_append_iff.1 h with hbefore | hafter | ⟨ending, start, rfl, hending, hstart⟩
  · exact .inl hbefore
  · refine (List.infix_cons_iff.1 hafter).imp_left fun hstart => ?_
    rw [eq_nil_of_prefix_cons hc hstart]
    exact List.nil_infix
  · -- the part from the character on is empty
    rw [List.mem_append, not_or] at hc
    rw [eq_nil_of_prefix_cons hc.2 hstart, List.append_nil]
    exact .inl hending.isInfix

/-- What has no spaces still occurs in a text without the space at its end. -/
theorem infix_dropLast_space (hspace : ' ' ∉ ds) (h : ds <:+: cs) :
    ds <:+: if cs.getLast? = some ' ' then cs.dropLast else cs := by
  split
  next hlast =>
    obtain ⟨front, rfl⟩ := List.getLast?_eq_some_iff.1 hlast
    rw [List.dropLast_concat]
    refine (infix_before_or_after hspace h).elim id fun hnil => ?_
    rw [List.infix_nil.1 hnil]
    exact List.nil_infix
  next => exact h

/-- So it does in a text without the space at its start. -/
theorem infix_drop_space (hspace : ' ' ∉ ds) (h : ds <:+: cs) :
    ds <:+: if cs.head? = some ' ' then cs.drop 1 else cs := by
  split
  next hhead =>
    obtain ⟨rest, rfl⟩ := List.head?_eq_some_iff.1 hhead
    have hsplit : ds <:+: [] ∨ ds <:+: rest := infix_before_or_after hspace h
    refine hsplit.elim (fun hnil => ?_) id
    rw [List.infix_nil.1 hnil]
    exact List.nil_infix
  next => exact h

/-- Nothing comes to a pattern where a marker is taken out. -/
theorem rest_sublist {m : Marked} (h : takeMarker? ds cs = some m) : m.rest.Sublist cs := by
  obtain ⟨index, -, rfl⟩ := Option.map_eq_some_iff.1 h
  dsimp only
  have hbefore : (if (cs.take index).getLast? = some ' ' then (cs.take index).dropLast
      else cs.take index).Sublist (cs.take index) := by
    split
    · exact List.dropLast_sublist _
    · exact .refl _
  have hafter : (if (cs.drop (index + ds.length)).head? = some ' '
      then (cs.drop (index + ds.length)).drop 1 else cs.drop (index + ds.length)).Sublist
      (cs.drop index) := by
    rw [← List.drop_drop]
    split
    · exact (List.drop_sublist _ _).trans (List.drop_sublist _ _)
    · exact List.drop_sublist _ _
  simpa using hbefore.append hafter

/-- What has neither the marker nor a space in it still occurs where the marker is taken out. -/
theorem infix_rest {m : Marked} (h : takeMarker? [c] cs = some m) (hc : c ∉ ds)
    (hspace : ' ' ∉ ds) (hds : ds <:+: cs) : ds <:+: m.rest := by
  have hmem : c ∈ cs := by
    by_contra hnone
    rw [takeMarker?_of_not_mem hnone []] at h
    cases h
  obtain ⟨before, after, taken, rfl, htaken, hrest⟩ := exists_takeMarker?_eq hmem
  obtain rfl := Option.some.inj (h.symm.trans htaken)
  rw [hrest]
  rcases infix_before_or_after hc hds with hbefore | hafter
  · exact (infix_dropLast_space hspace hbefore).trans (List.prefix_append _ _).isInfix
  · exact (infix_drop_space hspace hafter).trans (List.suffix_append _ _).isInfix

end Markers

/-! ### Patterns -/

/-- What follows the zero of a pattern. -/
inductive Tail where
  /-- Nothing. -/
  | none
  /-- A point and a number of zeros. -/
  | zeros (n : Nat)
  /-- The marker of an ordinal ending. -/
  | ordinal
  deriving DecidableEq

/-- What stands around a pattern. -/
inductive Frame where
  /-- Nothing. -/
  | none
  /-- A plus in front. -/
  | plus
  /-- Parentheses. -/
  | parentheses
  /-- Parentheses with a plus inside. -/
  | plusInside
  /-- Parentheses with a plus in front. -/
  | plusOutside
  deriving DecidableEq

/-- A pattern for numbers without fractions. -/
structure WholePattern where
  /-- Whether thousands are grouped. -/
  grouped : Bool
  /-- What follows the zero. -/
  tail : Tail
  /-- Where the currency sign stands, if there is one. -/
  currency : Option Currency
  /-- What stands around it all. -/
  frame : Frame
  deriving DecidableEq

/-- The point and the zeros. -/
def Tail.point : Tail → List Char
  | zeros n => '.' :: List.replicate n '0'
  | none | ordinal => []

/-- The marker. -/
def Tail.marker : Tail → List Char
  | ordinal => ['o']
  | none | zeros _ => []

/-- The number of zeros after the point. -/
def Tail.places : Tail → Nat
  | zeros n => n
  | none | ordinal => 0

/-- The suffix that a tail asks for. -/
def Tail.suffix : Tail → Suffix
  | ordinal => .ordinal
  | none | zeros _ => .none

/-- The text with what stands around it. -/
def Frame.around : Frame → List Char → List Char
  | none, cs => cs
  | plus, cs => '+' :: cs
  | parentheses, cs => '(' :: cs ++ [')']
  | plusInside, cs => '(' :: '+' :: cs ++ [')']
  | plusOutside, cs => '+' :: '(' :: cs ++ [')']

/-- Whether there is a plus. -/
def Frame.hasPlus : Frame → Bool
  | plus | plusInside | plusOutside => true
  | none | parentheses => false

/-- Whether there are parentheses. -/
def Frame.hasParentheses : Frame → Bool
  | parentheses | plusInside | plusOutside => true
  | none | plus => false

namespace WholePattern

/-- The zero of a pattern, with the point and the zeros after it. -/
def core (p : WholePattern) : List Char :=
  (if p.grouped then "0,0".toList else "0".toList) ++ p.tail.point

/-- The zero with what follows it. -/
def digitsText (p : WholePattern) : List Char := p.core ++ p.tail.marker

/-- The pattern inside of its frame. -/
def inner (p : WholePattern) : List Char :=
  match p.currency with
  | some ⟨true, spaced⟩ => '$' :: (spaceIf spaced ++ p.digitsText)
  | some ⟨false, spaced⟩ => p.digitsText ++ spaceIf spaced ++ ['$']
  | none => p.digitsText

/-- The text of the pattern. -/
def text (p : WholePattern) : List Char := p.frame.around p.inner

/-- The style that the pattern describes. -/
def style (p : WholePattern) : Style where
  parentheses := p.frame.hasParentheses
  plus := p.frame.hasPlus
  currency := p.currency
  suffix := p.tail.suffix
  suffixSpaced := false
  places := ⟨p.grouped, p.tail.places, p.tail.places⟩

variable {p : WholePattern}

/-- The characters of a text that has no others. -/
theorem mem_of_all (h : c ∈ cs) (hall : cs.all (ds.contains ·) = true) : c ∈ ds :=
  List.contains_iff_mem.1 (List.all_eq_true.1 hall c h)

/-- The characters of the zero and the zeros. -/
theorem mem_core (h : c ∈ p.core) : c ∈ "0,.".toList := by
  rcases List.mem_append.1 h with h | h
  · split at h
    · exact mem_of_all h (by decide)
    · exact mem_of_all h (by decide)
  · cases htail : p.tail with
    | none | ordinal =>
      rw [htail] at h
      cases h
    | zeros n =>
      rw [htail] at h
      rcases List.mem_cons.1 h with rfl | h
      · decide
      · rw [List.eq_of_mem_replicate h]
        decide

/-- A zero comes first. -/
theorem exists_core_eq (p : WholePattern) : ∃ rest, p.core = '0' :: rest := by
  unfold core
  split
  · exact ⟨_, rfl⟩
  · exact ⟨_, rfl⟩

/-- The characters of the zero and what follows it. -/
theorem mem_digitsText (h : c ∈ p.digitsText) : c ∈ "0,.o".toList := by
  rcases List.mem_append.1 h with h | h
  · exact mem_of_all (mem_core h) (by decide)
  · unfold Tail.marker at h
    split at h
    · exact mem_of_all h (by decide)
    · cases h
    · cases h

/-- The characters inside of the frame. -/
theorem mem_inner (h : c ∈ p.inner) : c ∈ "0,.o$ ".toList := by
  have hcases : c ∈ p.digitsText ∨ c ∈ "$ ".toList := by
    unfold inner at h
    rcases hcurrency : p.currency with _ | ⟨_ | _, _ | _⟩ <;> rw [hcurrency] at h <;>
      simp [spaceIf] at h ⊢ <;> tauto
  rcases hcases with h | h
  · exact mem_of_all (mem_digitsText h) (by decide)
  · exact mem_of_all h (by decide)

/-- What stands around the pattern says which signs there are, and is left out then. -/
theorem frame_around (p : WholePattern) :
    p.text.contains '(' = p.frame.hasParentheses ∧ p.text.contains '+' = p.frame.hasPlus ∧
      p.text.contains ':' = false ∧
      p.text.filter (fun c => c ≠ '(' && c ≠ ')' && c ≠ '+') = p.inner := by
  -- none of the characters that are looked for or left out is inside of the frame
  have hmissing {c : Char} (hc : c ∉ "0,.o$ ".toList) : c ∉ p.inner := fun h => hc (mem_inner h)
  have hopen := hmissing (c := '(') (by decide)
  have hclose := hmissing (c := ')') (by decide)
  have hplus := hmissing (c := '+') (by decide)
  have hcolon := hmissing (c := ':') (by decide)
  have hkept : ∀ c ∈ p.inner, (c ≠ '(' ∧ c ≠ ')') ∧ c ≠ '+' := fun c hc =>
    ⟨⟨fun h => hopen (h ▸ hc), fun h => hclose (h ▸ hc)⟩, fun h => hplus (h ▸ hc)⟩
  unfold text
  cases p.frame <;>
    simpa [Frame.around, Frame.hasParentheses, Frame.hasPlus, List.filter_append, hopen, hplus,
      hcolon] using hkept

/-- The currency sign is taken out first. -/
theorem takeMarker?_inner (p : WholePattern) :
    takeMarker? ['$'] p.inner =
      p.currency.map fun currency =>
        ⟨if currency.leading then 0 else p.digitsText.length, currency.spaced, p.digitsText⟩ := by
  have hsign : '$' ∉ p.digitsText := fun h => absurd (mem_digitsText h) (by decide)
  have hspace : ' ' ∉ p.digitsText := fun h => absurd (mem_digitsText h) (by decide)
  unfold inner
  rcases p.currency with _ | ⟨_ | _, spaced⟩
  · rw [takeMarker?, indexOf?_of_not_mem hsign []]
    rfl
  · have hend : ([] : List Char).head? ≠ some ' ' := by simp
    have htrailing := takeMarker?_append (by decide) hsign
      (fun h => hspace (List.mem_of_getLast? h)) hend spaced false
    simpa [spaceIf] using htrailing
  · have hstart : '$' ∉ ([] : List Char) := List.not_mem_nil
    have hleading := takeMarker?_append (by decide) hstart (by simp)
      (fun h => hspace (List.mem_of_mem_head? h)) false spaced
    simpa [spaceIf] using hleading

/-- Then the marker of the suffix. -/
theorem takeSuffix_digitsText (p : WholePattern) :
    takeSuffix p.digitsText = (p.tail.suffix, false, p.core) := by
  -- all markers are tried in turn, and only the ordinal one can be there
  have hnone {c : Char} (marker : List Char) (hc : c ∉ "0,.o".toList) :
      takeMarker? (c :: marker) p.digitsText = none := by
    rw [takeMarker?, indexOf?_of_not_mem (fun h => hc (mem_digitsText h)) marker]
    rfl
  have hpercent : takeMarker? "%".toList p.digitsText = none := hnone [] (by decide)
  have hbinary : takeMarker? "ib".toList p.digitsText = none := hnone ['b'] (by decide)
  have hbytes : takeMarker? "b".toList p.digitsText = none := hnone [] (by decide)
  have habbreviation : takeMarker? "a".toList p.digitsText = none := hnone [] (by decide)
  have hordinal : takeMarker? "o".toList p.digitsText =
      if p.tail = .ordinal then some ⟨p.core.length, false, p.core⟩ else none := by
    split
    next htail =>
      have hmarker : 'o' ∉ p.core := fun h => absurd (mem_core h) (by decide)
      have hspace : p.core.getLast? ≠ some ' ' :=
        fun h => absurd (mem_core (List.mem_of_getLast? h)) (by decide)
      have hend : ([] : List Char).head? ≠ some ' ' := by simp
      have htaken := takeMarker?_append (by decide) hmarker hspace hend false false
      simpa [digitsText, htail, Tail.marker, spaceIf] using htaken
    next htail =>
      have hmarker : p.digitsText = p.core := by
        unfold digitsText Tail.marker
        split
        · contradiction
        · rw [List.append_nil]
        · rw [List.append_nil]
      have hmissing : 'o' ∉ p.core := fun h => absurd (mem_core h) (by decide)
      rw [hmarker, takeMarker?]
      exact congrArg (Option.map _) (indexOf?_of_not_mem hmissing [])
  simp only [takeSuffix, suffixMarkers, List.findSome?_cons, List.findSome?_nil, hpercent, hbinary,
    hbytes, habbreviation, hordinal, Option.map_none]
  cases htail : p.tail with
  | none | zeros => simp [Tail.suffix, digitsText, htail, Tail.marker]
  | ordinal => simp [Tail.suffix]

/-- The rest says how many digits there are. -/
theorem placesOf_core (p : WholePattern) :
    placesOf p.core = ⟨p.grouped, p.tail.places, p.tail.places⟩ := by
  have hpoint : ',' ∉ p.tail.point := by
    cases p.tail <;> simp [Tail.point]
  have hgrouped : p.core.contains ',' = p.grouped := by
    unfold core
    cases p.grouped <;> simp [hpoint]
  have hzero : ∀ c ∈ if p.grouped then "0,0".toList else "0".toList, decide (c ≠ '.') = true := by
    cases p.grouped <;> simp
  unfold placesOf
  rw [hgrouped]
  cases htail : p.tail with
  | none | ordinal =>
    have hcore : p.core = if p.grouped then "0,0".toList else "0".toList := by
      rw [core, htail]
      exact List.append_nil _
    rw [hcore, List.dropWhile_eq_nil_iff.2 hzero]
    rfl
  | zeros n =>
    have hhead : ∀ c ∈ ('.' :: List.replicate n '0').head?, decide (c ≠ '.') = false := by simp
    obtain ⟨htake, hdrop⟩ := takeWhile_append_of_head hzero hhead
    have hcore : p.core = (if p.grouped then "0,0".toList else "0".toList) ++
        '.' :: List.replicate n '0' := by rw [core, htail]; rfl
    have hlast : (if p.grouped then "0,0".toList else "0".toList).getLast? ≠ some '[' := by
      cases p.grouped <;> simp
    have hfixed : (List.replicate n '0').takeWhile (· ≠ '[') = List.replicate n '0' := by simp
    have hoptional : (List.replicate n '0').dropWhile (· ≠ '[') = [] := by simp
    rw [hcore, hdrop, htake]
    dsimp only
    rw [hfixed, hoptional, List.count_replicate_self, if_neg hlast]
    rfl

/-- **The style of a pattern for whole numbers.** Each part of the pattern is found again. -/
theorem ofPattern_text (p : WholePattern) : Style.ofPattern p.text = p.style := by
  obtain ⟨hparentheses, hplus, -, hinner⟩ := p.frame_around
  obtain ⟨rest, hrest⟩ := p.exists_core_eq
  have hfirst : firstDigitPlace p.digitsText = 0 := by
    rw [firstDigitPlace, digitsText, hrest]
    rfl
  have hlength : ¬p.digitsText.length ≤ 0 := by simp [digitsText, hrest]
  have htaken := p.takeMarker?_inner
  rw [Style.ofPattern, hparentheses, hplus, hinner]
  rcases hcurrency : p.currency with _ | ⟨leading, spaced⟩
  · have hnone : p.inner = p.digitsText := by simp [inner, hcurrency]
    rw [hcurrency, Option.map_none] at htaken
    rw [htaken]
    dsimp only
    rw [hnone, takeSuffix_digitsText]
    dsimp only
    rw [placesOf_core, style, hcurrency]
  · rw [hcurrency, Option.map_some] at htaken
    rw [htaken]
    dsimp only
    rw [takeSuffix_digitsText]
    dsimp only
    rw [placesOf_core, style, hcurrency, hfirst]
    cases leading <;> simp [hlength]

/-- A number without a fractional part that is written by such a pattern is read back, zero without
its sign. -/
theorem read?_write_text (p : WholePattern) {a : Magnitude} {k : Nat}
    (ha : a.units = k * unitsPerOne) (s : Bool) :
    read? (write (.finite s a) p.text) = some (Double.finite s a).dropZeroSign := by
  obtain ⟨-, -, hcolon, -⟩ := p.frame_around
  have hsuffix : p.style.suffix = .none ∨ p.style.suffix = .ordinal := by
    unfold style Tail.suffix
    cases p.tail <;> simp
  rw [write, hcolon, if_neg Bool.false_ne_true, ofPattern_text]
  exact Style.read?_write_of_units hsuffix ha s

/-- Amounts with two places, where parentheses stand for a minus. -/
def accounting : WholePattern where
  grouped := true
  tail := .zeros 2
  currency := some ⟨true, true⟩
  frame := .parentheses

/-- What is read back from such a pattern. -/
example : write (.ofInt (-1234567)) accounting.text = "($ 1,234,567.00)".toList := by
  decide +kernel

end WholePattern

end Gleaner.Numeral
