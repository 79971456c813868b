import Gleaner.Unicode.Case
import Mathlib.Logic.Basic
import Mathlib.Tactic.SplitIfs

/-!
# Case mappings are stable

What a case mapping gives is left alone by the same mapping. For single characters this is a
property of the tables: no row begins where another one leads. For texts it follows, although one
character can become several and a capital sigma becomes what its neighbours ask for: no text in
lower case has a capital sigma.

The tables have more than a thousand code points, too many to be looked up one by one in a proof.
So the code points that a table maps and those that it leads to are each collected as the bits of
one natural number.

## Main definitions

* `bitsOf`: code points as the bits of a number.
* `sources`, `images`: the code points that a table maps, and those that it leads to.
* `IsLower`, `IsUpper`: characters that are their own lowercase or uppercase form.

## Main results

* `not_mem_of_bitsOf`: sets without a common bit are disjoint.
* `isLower_of_mem_lowerChar`, `isUpper_of_mem_upperChar`: a mapping leaves alone what it gives.
* `lower_eq_self_iff`, `lower_lower`: the texts in lower case, and that mapping a text gives one.
* `eq_space_of_mem_upperChar`, `space_mem_of_mem_lowerAfter`: a space comes from a space only.
-/

namespace Gleaner.Unicode

variable {c d : Char} {cs before : List Char}

/-! ### Sets of code points as bits -/

/-- The number whose bits are the given code points. -/
def bitsOf (codes : List Nat) : Nat := codes.foldr (fun code bits => bits ||| 1 <<< code) 0

theorem testBit_bitsOf {codes : List Nat} {code : Nat} :
    (bitsOf codes).testBit code = true ↔ code ∈ codes := by
  induction codes with
  | nil => simp [bitsOf]
  | cons first codes ih =>
    have hbit : (1 <<< first).testBit code = true ↔ code = first := by
      rw [Nat.testBit_shiftLeft, Bool.and_eq_true, decide_eq_true_iff,
        Nat.testBit_one_eq_true_iff_self_eq_zero]
      omega
    rw [bitsOf, List.foldr_cons, Nat.testBit_or, Bool.or_eq_true, ← bitsOf, ih, hbit,
      List.mem_cons, or_comm]

/-- Without a common bit there is no common code point. -/
theorem not_mem_of_bitsOf {xs ys : List Nat} (h : bitsOf xs &&& bitsOf ys = 0) {code : Nat}
    (hx : code ∈ xs) : code ∉ ys := by
  intro hy
  have hcommon : (bitsOf xs &&& bitsOf ys).testBit code = true := by
    rw [Nat.testBit_and, testBit_bitsOf.2 hx, testBit_bitsOf.2 hy, Bool.and_self]
  rw [h, Nat.zero_testBit] at hcommon
  cases hcommon

/-! ### Tables -/

/-- The code points of a run. -/
def CaseRun.codes (run : CaseRun) : List Nat :=
  (List.range run.count).map fun k => run.first + k * run.step

/-- The code points that a table maps. -/
def sources (runs : List CaseRun) (sequences : List (Nat × List Nat)) : List Nat :=
  runs.flatMap CaseRun.codes ++ sequences.map (·.1)

/-- The code points that a table leads to. A number that is no code point stands for the first
one. -/
def images (runs : List CaseRun) (sequences : List (Nat × List Nat)) : List Nat :=
  0 :: runs.flatMap (fun run => run.codes.map run.map) ++ sequences.flatMap (·.2)

theorem CaseRun.mem_codes {run : CaseRun} {code : Nat} (h : run.contains code) :
    code ∈ run.codes := by
  simp only [contains, Bool.and_eq_true, decide_eq_true_eq, beq_iff_eq] at h
  obtain ⟨⟨hfirst, hlast⟩, hstep⟩ := h
  obtain ⟨k, hk⟩ := Nat.dvd_of_mod_eq_zero hstep
  have hcode : run.first + k * run.step = code := by
    rw [Nat.mul_comm] at hk
    omega
  refine List.mem_map.2 ⟨k, List.mem_range.2 ?_, hcode⟩
  apply Nat.lt_of_mul_lt_mul_right (a := run.step)
  omega

/-- A number that can be a code point is that of its character. -/
theorem toNat_ofNat {code : Nat} (h : code.isValidChar) : (Char.ofNat code).toNat = code := by
  rw [Char.ofNat, dif_pos h]
  rfl

/-- The code point of a character that is given by a number is that number or the first one. -/
theorem toNat_ofNat_mem {codes : List Nat} {code : Nat} (h : code ∈ codes) :
    (Char.ofNat code).toNat ∈ 0 :: codes := by
  by_cases hvalid : code.isValidChar
  · rw [toNat_ofNat hvalid]
    exact List.mem_cons_of_mem 0 h
  · have hzero : (Char.ofNat code).toNat = 0 := by simp [Char.ofNat, hvalid]
    rw [hzero]
    exact List.mem_cons_self

section Table

variable {runs : List CaseRun} {sequences : List (Nat × List Nat)}

/-- A character that the table does not map stands for itself. -/
theorem mapBy_of_not_mem (h : c.toNat ∉ sources runs sequences) :
    mapBy runs sequences c = [c] := by
  rw [sources, List.mem_append, not_or] at h
  obtain ⟨hruns, hsequences⟩ := h
  have hrun : runs.find? (·.contains c.toNat) = none := by
    refine List.find?_eq_none.2 fun run hrun hcontains => hruns ?_
    exact List.mem_flatMap.2 ⟨run, hrun, CaseRun.mem_codes hcontains⟩
  have hrow : sequences.find? (·.1 == c.toNat) = none := by
    refine List.find?_eq_none.2 fun row hrow heq => hsequences ?_
    exact List.mem_map.2 ⟨row, hrow, beq_iff_eq.1 heq⟩
  simp only [mapBy, hrun, hrow]

/-- What a character is mapped to stands among the images, unless it is the character itself. -/
theorem mem_images_of_mem_mapBy (h : d ∈ mapBy runs sequences c) :
    d.toNat ∈ images runs sequences ∨ mapBy runs sequences c = [c] ∧ d = c := by
  unfold mapBy at h ⊢
  dsimp only at h ⊢
  cases hrun : runs.find? (·.contains c.toNat) with
  | some run =>
    have hcontains : run.contains c.toNat := by simpa using List.find?_some hrun
    have himage : run.map c.toNat ∈ runs.flatMap fun run => run.codes.map run.map :=
      List.mem_flatMap.2 ⟨run, List.mem_of_find?_eq_some hrun,
        List.mem_map_of_mem (CaseRun.mem_codes hcontains)⟩
    rw [hrun] at h
    rw [List.mem_singleton.1 h]
    exact .inl (List.mem_append_left _ (toNat_ofNat_mem himage))
  | none =>
    rw [hrun] at h
    cases hrow : sequences.find? (·.1 == c.toNat) with
    | some row =>
      rw [hrow] at h
      obtain ⟨code, hcode, rfl⟩ := List.mem_map.1 h
      have himage : code ∈ sequences.flatMap (·.2) :=
        List.mem_flatMap.2 ⟨row, List.mem_of_find?_eq_some hrow, hcode⟩
      refine .inl ?_
      rcases List.mem_cons.1 (toNat_ofNat_mem himage) with hzero | hmem
      · rw [hzero]
        exact List.mem_cons_self
      · exact List.mem_append_right _ hmem
    | none =>
      rw [hrow] at h
      exact .inr ⟨rfl, List.mem_singleton.1 h⟩

/-- A character is mapped to at least one. -/
theorem mapBy_ne_nil (h : ∀ row ∈ sequences, row.2 ≠ []) : mapBy runs sequences c ≠ [] := by
  unfold mapBy
  dsimp only
  cases runs.find? (·.contains c.toNat) with
  | some run => exact List.cons_ne_nil _ _
  | none =>
    cases hrow : sequences.find? (·.1 == c.toNat) with
    | some row => simpa [charsOf] using h row (List.mem_of_find?_eq_some hrow)
    | none => exact List.cons_ne_nil _ _

end Table

/-! ### Single characters -/

/-- The character is its own lowercase form. -/
def IsLower (c : Char) : Prop := lowerChar c = [c]

/-- The character is its own uppercase form. -/
def IsUpper (c : Char) : Prop := upperChar c = [c]

instance (c : Char) : Decidable (IsLower c) := inferInstanceAs (Decidable (lowerChar c = [c]))

instance (c : Char) : Decidable (IsUpper c) := inferInstanceAs (Decidable (upperChar c = [c]))

/-- The code points that are mapped to lower case, and the space. -/
def lowerSources : List Nat :=
  ' '.toNat :: List.range' 'A'.toNat 26 ++ sources lowerRuns lowerSequences

/-- The code points that characters are mapped to in lower case. -/
def lowerImages : List Nat := List.range' 'a'.toNat 26 ++ images lowerRuns lowerSequences

/-- The code points that are mapped to upper case, and the space. -/
def upperSources : List Nat :=
  ' '.toNat :: List.range' 'a'.toNat 26 ++ sources upperRuns upperSequences

/-- The code points that characters are mapped to in upper case. -/
def upperImages : List Nat := List.range' 'A'.toNat 26 ++ images upperRuns upperSequences

/-- No character is mapped to one that has another lowercase form. -/
theorem bitsOf_lower : bitsOf lowerSources &&& bitsOf lowerImages = 0 := by decide +kernel

/-- No character is mapped to one that has another uppercase form. -/
theorem bitsOf_upper : bitsOf upperSources &&& bitsOf upperImages = 0 := by decide +kernel

/-- The capitals of ASCII, by their code points. -/
theorem capital_iff : ('A' ≤ c && c ≤ 'Z') = true ↔ c.toNat ∈ List.range' 'A'.toNat 26 := by
  have hfirst : ('A' : Char).val.toNat = 65 := rfl
  have hlast : ('Z' : Char).val.toNat = 90 := rfl
  have hval : c.val.toNat = c.toNat := rfl
  have hA : ('A' : Char).toNat = 65 := rfl
  simp only [Bool.and_eq_true, decide_eq_true_eq, Char.le_def, UInt32.le_iff_toNat_le,
    List.mem_range'_1]
  omega

/-- The small letters of ASCII, by their code points. -/
theorem small_iff : ('a' ≤ c && c ≤ 'z') = true ↔ c.toNat ∈ List.range' 'a'.toNat 26 := by
  have hfirst : ('a' : Char).val.toNat = 97 := rfl
  have hlast : ('z' : Char).val.toNat = 122 := rfl
  have hval : c.val.toNat = c.toNat := rfl
  have ha : ('a' : Char).toNat = 97 := rfl
  simp only [Bool.and_eq_true, decide_eq_true_eq, Char.le_def, UInt32.le_iff_toNat_le,
    List.mem_range'_1]
  omega

/-- What is not mapped to lower case is in lower case. -/
theorem isLower_of_not_mem (h : c.toNat ∉ lowerSources) : IsLower c := by
  rw [lowerSources, List.mem_append, List.mem_cons, not_or, not_or] at h
  obtain ⟨⟨-, hcapital⟩, htable⟩ := h
  unfold IsLower lowerChar
  split
  · rw [if_neg (capital_iff.not.2 hcapital)]
  · exact mapBy_of_not_mem htable

/-- What is not mapped to upper case is in upper case. -/
theorem isUpper_of_not_mem (h : c.toNat ∉ upperSources) : IsUpper c := by
  rw [upperSources, List.mem_append, List.mem_cons, not_or, not_or] at h
  obtain ⟨⟨-, hsmall⟩, htable⟩ := h
  unfold IsUpper upperChar
  split
  · rw [if_neg (small_iff.not.2 hsmall)]
  · exact mapBy_of_not_mem htable

/-- A character is mapped to lower case or is there. -/
theorem mem_lowerImages (h : d ∈ lowerChar c) : d.toNat ∈ lowerImages ∨ IsLower c ∧ d = c := by
  rw [lowerImages, List.mem_append]
  unfold IsLower
  unfold lowerChar at h ⊢
  split_ifs at h ⊢ with hascii hcapital
  · have hrange := List.mem_range'_1.1 (capital_iff.1 hcapital)
    have hvalid : (c.toNat + 32).isValidChar := .inl (by omega)
    rw [List.mem_singleton.1 h, toNat_ofNat hvalid, List.mem_range'_1]
    simp only [Char.reduceToNat] at hrange ⊢
    omega
  · exact .inr ⟨rfl, List.mem_singleton.1 h⟩
  · exact (mem_images_of_mem_mapBy h).imp_left .inr

/-- A character is mapped to upper case or is there. -/
theorem mem_upperImages (h : d ∈ upperChar c) : d.toNat ∈ upperImages ∨ IsUpper c ∧ d = c := by
  rw [upperImages, List.mem_append]
  unfold IsUpper
  unfold upperChar at h ⊢
  split_ifs at h ⊢ with hascii hsmall
  · have hrange := List.mem_range'_1.1 (small_iff.1 hsmall)
    have hvalid : (c.toNat - 32).isValidChar := .inl (by omega)
    rw [List.mem_singleton.1 h, toNat_ofNat hvalid, List.mem_range'_1]
    simp only [Char.reduceToNat] at hrange ⊢
    omega
  · exact .inr ⟨rfl, List.mem_singleton.1 h⟩
  · exact (mem_images_of_mem_mapBy h).imp_left .inr

/-- Mapping a character to lower case gives characters in lower case. -/
theorem isLower_of_mem_lowerChar (h : d ∈ lowerChar c) : IsLower d := by
  rcases mem_lowerImages h with himage | ⟨hlower, rfl⟩
  · exact isLower_of_not_mem fun hsource => not_mem_of_bitsOf bitsOf_lower hsource himage
  · exact hlower

/-- Mapping a character to upper case gives characters in upper case. -/
theorem isUpper_of_mem_upperChar (h : d ∈ upperChar c) : IsUpper d := by
  rcases mem_upperImages h with himage | ⟨hupper, rfl⟩
  · exact isUpper_of_not_mem fun hsource => not_mem_of_bitsOf bitsOf_upper hsource himage
  · exact hupper

/-- Only a space is mapped to a space in lower case. -/
theorem eq_space_of_mem_lowerChar (h : ' ' ∈ lowerChar c) : c = ' ' := by
  rcases mem_lowerImages h with himage | ⟨-, heq⟩
  · exact absurd himage (not_mem_of_bitsOf bitsOf_lower List.mem_cons_self)
  · exact heq.symm

/-- Only a space is mapped to a space in upper case. -/
theorem eq_space_of_mem_upperChar (h : ' ' ∈ upperChar c) : c = ' ' := by
  rcases mem_upperImages h with himage | ⟨-, heq⟩
  · exact absurd himage (not_mem_of_bitsOf bitsOf_upper List.mem_cons_self)
  · exact heq.symm

/-- A character has an uppercase form. -/
theorem upperChar_ne_nil (c : Char) : upperChar c ≠ [] := by
  unfold upperChar
  split_ifs
  · exact List.cons_ne_nil _ _
  · exact List.cons_ne_nil _ _
  · exact mapBy_ne_nil (by decide)

/-! ### Texts -/

/-- A text that is mapped to lower case has only characters in lower case. -/
theorem isLower_of_mem_lowerAfter (h : d ∈ lowerAfter before cs) : IsLower d := by
  induction cs generalizing before with
  | nil => cases h
  | cons c cs ih =>
    rw [lowerAfter, List.mem_append] at h
    rcases h with hmapped | hrest
    · split_ifs at hmapped with hsigma hfinal
      -- both forms of a small sigma are in lower case
      · rw [List.mem_singleton.1 hmapped]
        decide +kernel
      · rw [List.mem_singleton.1 hmapped]
        decide +kernel
      · exact isLower_of_mem_lowerChar hmapped
    · exact ih hrest

/-- A text of characters in lower case is left alone. -/
theorem lowerAfter_of_forall (h : ∀ c ∈ cs, IsLower c) : lowerAfter before cs = cs := by
  induction cs generalizing before with
  | nil => rfl
  | cons c cs ih =>
    rw [List.forall_mem_cons] at h
    -- a capital sigma has no mapping of its own there, but it is not in lower case either
    have hsigma : c ≠ 'Σ' := by
      rintro rfl
      exact absurd h.1 (by decide +kernel)
    rw [lowerAfter, if_neg hsigma, h.1, ih h.2]
    rfl

/-- The texts in lower case are those of characters in lower case. -/
theorem lower_eq_self_iff : lower cs = cs ↔ ∀ c ∈ cs, IsLower c := by
  constructor
  · intro h c hc
    rw [← h] at hc
    exact isLower_of_mem_lowerAfter hc
  · exact lowerAfter_of_forall

/-- Mapping a text to lower case gives a text in lower case. -/
theorem lower_lower (cs : List Char) : lower (lower cs) = lower cs :=
  lower_eq_self_iff.2 fun _ => isLower_of_mem_lowerAfter

/-- Mapping a text to lower case makes no space. -/
theorem space_mem_of_mem_lowerAfter (h : ' ' ∈ lowerAfter before cs) : ' ' ∈ cs := by
  induction cs generalizing before with
  | nil => cases h
  | cons c cs ih =>
    rw [lowerAfter, List.mem_append] at h
    rcases h with hmapped | hrest
    · split_ifs at hmapped with hsigma hfinal
      · exact absurd (List.mem_singleton.1 hmapped) (by decide)
      · exact absurd (List.mem_singleton.1 hmapped) (by decide)
      · rw [eq_space_of_mem_lowerChar hmapped]
        exact List.mem_cons_self
    · exact List.mem_cons_of_mem c (ih hrest)

end Gleaner.Unicode
