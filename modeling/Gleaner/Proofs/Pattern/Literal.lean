import Gleaner.Pattern.Syntax

/-!
# Texts that are patterns for themselves

A text without operators is a pattern for itself, unless it is so long that its programs leave the
limit. The program that reads it forward is the larger one: it has a state for each byte and six
states besides.

The notation is read in the same way where a character stands for a set of characters, as the dot
does. A text of such characters is a sequence of sets. With one dot, it is a pattern whenever its
length is well within the limit.

## Main definitions

* `Regex.isOperator`: the characters that have a meaning of their own.
* `Regex.StandsFor`: characters that stand for a set wherever they are read.
* `Regex.dotted`: what characters stand for where the dot is the only operator.
* `longestLiteral`: how many bytes a text may have.

## Main results

* `Pattern.shape_literal`: the shape of a literal is its bytes.
* `Program.isWithinLimit_bytes_iff`, `Pattern.fits_literal_iff`: how long a literal may be.
* `Regex.read_ofSets`: a text whose characters stand for sets is read character by character.
* `Regex.compileWith?_of_standsFor`: what such a text is compiled to.
* `Regex.compileWith?_of_plain`: what a text without operators is compiled to.
* `Regex.exists_compileWith?_dotted`: a text with one dot is a pattern.
-/

namespace Gleaner

/-- The bytes of the longest text that is a pattern for itself. -/
def longestLiteral : Nat := 327673

/-! ### The bytes of a text -/

namespace Unicode

/-- There are as many last bytes as have been asked for. -/
theorem length_trailing (n code : Nat) : (trailing n code).length = n := by
  induction n with
  | zero => rfl
  | succ n ih => rw [trailing, List.length_cons, ih]

/-- The number of bytes that encode a code point. -/
theorem length_encode (code : Nat) : (encode code).length = encodedLength code := by
  unfold encode encodedLength
  by_cases hone : code ≤ 0x7F
  · simp [hone]
  by_cases htwo : code ≤ 0x7FF
  · simp [hone, htwo, length_trailing]
  by_cases hthree : code ≤ 0xFFFF
  · simp [hone, htwo, hthree, length_trailing]
  · simp [hone, htwo, hthree, length_trailing]

/-- Core counts the bytes of a character in the same way. -/
theorem encodedLength_toNat (c : Char) : encodedLength c.toNat = c.utf8Size := by
  simp only [encodedLength, Char.utf8Size, UInt32.le_iff_toNat_le]
  rfl

/-- The bytes of a text. -/
def bytes (cs : List Char) : List Nat := cs.flatMap fun c => encode c.toNat

/-- The bytes of a text, by its first character. -/
theorem length_bytes_cons (c : Char) (cs : List Char) :
    (bytes (c :: cs)).length = c.utf8Size + (bytes cs).length := by
  rw [bytes, List.flatMap_cons, List.length_append, length_encode, encodedLength_toNat, bytes]

/-- Core counts the bytes of a text in the same way. -/
theorem length_bytes (cs : List Char) :
    (bytes cs).length = (String.ofList cs).utf8ByteSize := by
  induction cs with
  | nil => rfl
  | cons c cs ih =>
    rw [length_bytes_cons, ih, String.ofList_cons, String.utf8ByteSize_append,
      String.utf8ByteSize_singleton]

/-- A character has at most four bytes. -/
theorem length_bytes_le (cs : List Char) : (bytes cs).length ≤ 4 * cs.length := by
  induction cs with
  | nil => exact Nat.le_refl 0
  | cons c cs ih =>
    have hfour := c.utf8Size_le_four
    rw [length_bytes_cons, List.length_cons]
    omega

end Unicode

/-! ### The size of its programs -/

namespace Program

/-- Growth in two steps is growth in one step: the limit is only passed once. -/
theorem Size.grow?_bind_grow? (z : Size) (states held states' held' : Nat) :
    (z.grow? states held).bind (·.grow? states' held') =
      z.grow? (states + states') (held + held') := by
  unfold grow?
  dsimp only
  by_cases h : (Size.mk (z.states + states) (z.held + held)).bytes ≤ limit
  · rw [if_pos h, Option.bind_some]
    simp only [Nat.add_assoc]
  · have hlarger :
        ¬(Size.mk (z.states + (states + states')) (z.held + (held + held'))).bytes ≤ limit := by
      simp only [bytes, stateBytes] at h ⊢
      omega
    rw [if_neg h, if_neg hlarger, Option.bind_none]

/-- The size of the program that reads a text forward. -/
theorem size?_forward_bytes (text : List Nat) :
    size? .forward (.bytes text) = (Size.mk 0 0).grow? (text.length + 6) 16 := by
  have hsteps : size? .forward (.bytes text) =
      (((((Size.mk 0 0).grow? 3 16).bind (·.grow? 1 0)).bind (·.grow? text.length 0)).bind
        (·.grow? 1 0)).bind (·.grow? 1 0) := by
    simp [size?, isAnchored, Shape.extent, Shape.Extent.ofLength, Shape.Extent.bounded, draft,
      Draft.group, Draft.chain, rangeBytes, linkBytes, Option.bind_assoc]
  rw [hsteps]
  simp only [Size.grow?_bind_grow?]
  congr 1
  omega

/-- The size of the program that reads a text backward. -/
theorem size?_backward_bytes (text : List Nat) :
    size? .backward (.bytes text) = (Size.mk 0 0).grow? (text.length + 4) 16 := by
  have hsteps : size? .backward (.bytes text) =
      (((Size.mk 0 0).grow? 3 16).bind (·.grow? text.length 0)).bind (·.grow? 1 0) := by
    simp [size?, isAnchored, Shape.extent, Shape.Extent.ofLength, Shape.Extent.bounded, draft,
      Draft.chain, rangeBytes, linkBytes, Option.bind_assoc]
  rw [hsteps]
  simp only [Size.grow?_bind_grow?]
  congr 1
  omega

/-- A program may be of a size just when its bytes are within the limit. -/
theorem isSome_grow?_iff (states held : Nat) :
    ((Size.mk 0 0).grow? states held).isSome = true ↔ 32 * states + held ≤ 10485760 := by
  unfold Size.grow?
  dsimp only
  split <;> simp_all [Size.bytes, stateBytes, limit]

/-- How long a text may be. -/
theorem isWithinLimit_bytes_iff (text : List Nat) :
    isWithinLimit (.bytes text) = true ↔ text.length ≤ longestLiteral := by
  rw [isWithinLimit, Bool.and_eq_true, size?_forward_bytes, size?_backward_bytes,
    isSome_grow?_iff, isSome_grow?_iff, longestLiteral]
  omega

end Program

namespace Pattern

open Unicode (CodeRanges encode bytes)

/-- The shape of one character is its bytes. -/
theorem shapes_char (c : Char) : (char c).shapes = [.bytes (encode c.toNat)] := by
  simp [char, shapes, Shape.ofSet, CodeRanges.single?, CodeRanges.ofChar, CodeRanges.ofCode,
    CodeRanges.between]

/-- The shape of a literal is its bytes: texts that meet are one. -/
theorem shapes_literal (c : Char) (cs : List Char) :
    (literal (c :: cs)).shapes = [.bytes (bytes (c :: cs))] := by
  induction cs generalizing c with
  | nil => simpa [literal, seqAll, bytes] using shapes_char c
  | cons d cs ih =>
    change [(Shape.either (char c).shapes).append (.either (literal (d :: cs)).shapes)] = _
    rw [ih d, shapes_char]
    rfl

/-- The shape of a literal is its bytes. -/
theorem shape_literal {cs : List Char} (h : cs ≠ []) : (literal cs).shape = .bytes (bytes cs) := by
  obtain ⟨c, cs, rfl⟩ := List.exists_cons_of_ne_nil h
  rw [shape, shapes_literal]
  rfl

/-- The bound on the bytes of the programs for one character. -/
theorem roughBytes_char (c : Char) : (char c).roughBytes = 360 := by
  simp [char, roughBytes, CodeRanges.ofChar, CodeRanges.ofCode, CodeRanges.between,
    roughRangeBytes]

/-- The bound on the bytes of the programs for a literal. -/
theorem roughBytes_literal (c : Char) (cs : List Char) :
    (literal (c :: cs)).roughBytes = 460 * cs.length + 360 := by
  induction cs generalizing c with
  | nil => exact roughBytes_char c
  | cons d cs ih =>
    change (char c).roughBytes + (literal (d :: cs)).roughBytes + 100 = _
    rw [ih d, roughBytes_char, List.length_cons]
    omega

/-- How long a literal may be. -/
theorem fits_literal_iff {cs : List Char} (h : cs ≠ []) :
    (literal cs).fits = true ↔ (String.ofList cs).utf8ByteSize ≤ longestLiteral := by
  rw [fits, Bool.or_eq_true, decide_eq_true_iff, shape_literal h,
    Program.isWithinLimit_bytes_iff, ← Unicode.length_bytes]
  -- where the bound is within the limit the text is much shorter than it may be
  refine or_iff_right_of_imp fun hrough => ?_
  have hbytes := Unicode.length_bytes_le cs
  obtain ⟨c, cs, rfl⟩ := List.exists_cons_of_ne_nil h
  rw [roughBytes_literal, Program.limit] at hrough
  rw [List.length_cons] at hbytes
  rw [longestLiteral]
  omega

end Pattern

/-! ### Sequences of sets -/

namespace Pattern

open Unicode (CodeRanges)

/-- The bound on the bytes of the programs for one more pattern in a sequence. -/
theorem roughBytes_seqAll_cons_le (p : Pattern) (ps : List Pattern) :
    (seqAll (p :: ps)).roughBytes ≤ p.roughBytes + 100 + (seqAll ps).roughBytes := by
  cases ps with
  | nil => exact Nat.le_trans (Nat.le_add_right _ 100) (Nat.le_add_right _ _)
  | cons q ps =>
    change p.roughBytes + (seqAll (q :: ps)).roughBytes + 100 ≤ _
    omega

/-- A sequence of sets is no list of alternatives. -/
theorem setApart_seqAll (sets : List CodeRanges) :
    (seqAll (sets.map .set)).setApart = seqAll (sets.map .set) := by
  rcases sets with _ | ⟨s, _ | ⟨t, sets⟩⟩ <;> rfl

end Pattern

/-! ### Its notation -/

namespace Regex

open Unicode (CodeRanges)

/-- Whether the notation gives a character a meaning of its own. -/
def isOperator (c : Char) : Bool := "\\.+*?()|[\x7b^$".toList.contains c

/-- What has been read of a text whose characters each stand for a set. -/
def Open.ofSets (done : List CodeRanges) : Open :=
  ⟨[], (done.map fun s => some ⟨.set s, 0⟩).reverse⟩

/-- One more set. -/
theorem Open.push_ofSets (done : List CodeRanges) (s : CodeRanges) :
    (Open.ofSets done).push (.set s) 0 = .ofSets (done ++ [s]) := by
  simp [ofSets, push]

/-- Wherever the character is read, it stands for one character of a set. -/
def StandsFor (c : Char) (s : CodeRanges) : Prop :=
  ∀ (fuel levels : Nat) (seen : Seen) (o : Open) (rest : List Char),
    read (fuel + 1) levels {} seen o (c :: rest) =
      read fuel levels {} seen (o.push (.set s) 0) rest

/-- A character without a meaning of its own stands for itself. -/
theorem standsFor_ofChar {c : Char} (h : isOperator c = false) : StandsFor c (.ofChar c) := by
  intro fuel levels seen o rest
  have hskip : skip {} (c :: rest) = c :: rest := rfl
  rw [read, hskip]
  split
  case h_14 heq =>
    cases heq
    rfl
  -- all other cases are those of an operator, but for the end of the text
  all_goals
    rename_i heq
    cases heq
    try cases h

/-- The dot stands for every character but the end of a line. -/
theorem standsFor_dot : StandsFor '.' (CodeRanges.ofChar '\n').complement :=
  fun _ _ _ _ _ => rfl

/-- A text whose characters stand for sets is read character by character. -/
theorem read_ofSets {sets : Char → CodeRanges} {cs : List Char}
    (h : ∀ c ∈ cs, StandsFor c (sets c)) {fuel : Nat} (hfuel : cs.length < fuel) (levels : Nat)
    (seen : Seen) (done : List CodeRanges) :
    read fuel levels {} seen (.ofSets done) cs =
      some ((Open.ofSets (done ++ cs.map sets)).part, seen, []) := by
  induction cs generalizing fuel done with
  | nil =>
    obtain ⟨fuel, rfl⟩ := Nat.exists_eq_add_one.2 hfuel
    rw [List.map_nil, List.append_nil]
    rfl
  | cons c cs ih =>
    rw [List.forall_mem_cons] at h
    obtain ⟨fuel, rfl⟩ := Nat.exists_eq_add_one.2 (Nat.zero_lt_of_lt hfuel)
    rw [h.1, Open.push_ofSets, ih h.2 (Nat.succ_lt_succ_iff.1 hfuel), List.append_assoc]
    rfl

/-- Parts without parts of their own make at most one level. -/
theorem depthOf_le_one {depths : List Nat} (h : ∀ d ∈ depths, d = 0) : depthOf depths ≤ 1 := by
  have hdeepest : depths.foldl Nat.max 0 = 0 := by
    induction depths with
    | nil => rfl
    | cons d depths ih =>
      rw [List.forall_mem_cons] at h
      rw [List.foldl_cons, h.1]
      exact ih h.2
  unfold depthOf
  dsimp only
  rw [hdeepest]
  split <;> decide

/-- The part that a text makes whose characters stand for sets. -/
theorem part_ofSets (sets : List CodeRanges) :
    (Open.ofSets sets).part =
      ⟨.seqAll (sets.map .set), depthOf (sets.map fun _ => 0)⟩ := by
  have hclose : (Open.ofSets sets).close =
      ⟨[⟨.seqAll (sets.map .set), depthOf (sets.map fun _ => 0)⟩], []⟩ := by
    simp [Open.close, Open.ofSets, List.filterMap_map, Function.comp_def]
  rw [Open.part, hclose]
  simp [Pattern.altAll, Pattern.setApart_seqAll, depthOf]

/-- A text whose characters stand for sets is the sequence of these sets, and it is no pattern where
that is too large. -/
theorem compileWith?_of_standsFor {sets : Char → CodeRanges} {cs : List Char}
    (h : ∀ c ∈ cs, StandsFor c (sets c)) :
    compileWith? {} cs =
      if (Pattern.seqAll ((cs.map sets).map .set)).fits then
        some ⟨.seqAll ((cs.map sets).map .set), []⟩
      else none := by
  have hread : read (2 * cs.length + 2) nestLimit {} {} {} cs =
      some ((Open.ofSets (cs.map sets)).part, {}, []) :=
    read_ofSets h (by omega) nestLimit {} []
  have hdepth : depthOf ((cs.map sets).map fun _ => 0) ≤ nestLimit :=
    Nat.le_trans (depthOf_le_one (by simp)) (by decide)
  rw [compileWith?, hread, part_ofSets]
  dsimp only
  rw [decide_eq_true hdepth, Bool.true_and]

/-- **Texts without operators.** Such a text is the pattern that matches exactly this text, and it
is no pattern where it is too long. -/
theorem compileWith?_of_plain {cs : List Char} (h : ∀ c ∈ cs, isOperator c = false)
    (hne : cs ≠ []) :
    compileWith? {} cs =
      if (String.ofList cs).utf8ByteSize ≤ longestLiteral then some ⟨.literal cs, []⟩
      else none := by
  have hliteral : Pattern.seqAll ((cs.map .ofChar).map .set) = .literal cs := by
    rw [List.map_map]
    rfl
  rw [compileWith?_of_standsFor fun c hc => standsFor_ofChar (h c hc), hliteral]
  simp only [Pattern.fits_literal_iff hne]

/-! ### Texts with a dot -/

section Dotted

variable {c : Char} {cs : List Char}

/-- What a character stands for where the dot is the only operator. -/
def dotted (c : Char) : CodeRanges :=
  if c = '.' then (CodeRanges.ofChar '\n').complement else .ofChar c

theorem standsFor_dotted (h : isOperator c = false ∨ c = '.') : StandsFor c (dotted c) := by
  unfold dotted
  split
  next hdot =>
    rw [hdot]
    exact standsFor_dot
  next hdot => exact standsFor_ofChar (h.resolve_right hdot)

/-- The bound on the bytes of the programs for one character. -/
theorem roughBytes_dotted (c : Char) :
    (Pattern.set (dotted c)).roughBytes = if c = '.' then 3720 else 360 := by
  unfold dotted
  split
  · decide
  · exact Pattern.roughBytes_char c

/-- The bound on the bytes of the programs for a text with dots. -/
theorem roughBytes_dotted_le (cs : List Char) :
    (Pattern.seqAll ((cs.map dotted).map .set)).roughBytes ≤
      460 * cs.length + 3360 * cs.count '.' + 100 := by
  induction cs with
  | nil => exact Nat.le_refl 100
  | cons c cs ih =>
    refine Nat.le_trans (Pattern.roughBytes_seqAll_cons_le _ _) ?_
    rw [List.length_cons, roughBytes_dotted]
    by_cases hdot : c = '.'
    · rw [if_pos hdot, hdot, List.count_cons_self]
      omega
    · rw [if_neg hdot, List.count_cons_of_ne hdot]
      omega

/-- A text is a pattern where its only operator is one dot and it is not too long. -/
theorem exists_compileWith?_dotted (h : ∀ c ∈ cs, isOperator c = false ∨ c = '.')
    (hdots : cs.count '.' ≤ 1) (hlength : cs.length ≤ 20000) :
    ∃ r, compileWith? {} cs = some r := by
  have hfits : (Pattern.seqAll ((cs.map dotted).map .set)).fits = true := by
    have hrough := roughBytes_dotted_le cs
    rw [Pattern.fits, Bool.or_eq_true, decide_eq_true_iff]
    left
    rw [Program.limit]
    omega
  rw [compileWith?_of_standsFor fun c hc => standsFor_dotted (h c hc), if_pos hfits]
  exact ⟨_, rfl⟩

end Dotted

end Regex

end Gleaner
