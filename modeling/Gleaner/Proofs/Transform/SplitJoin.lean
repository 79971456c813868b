import Gleaner.Proofs.Pattern.Literal
import Gleaner.Proofs.Pattern.Split
import Gleaner.Transform.Builtin

/-!
# Splitting and joining

A text that is split at a separator without operators comes back when the pieces are joined with
that separator. A separator can be too long to be a pattern. Then splitting fails, whatever the
text.

## Main definitions

* `occurrences`: how often a text occurs in another, from left to right and without overlaps.

## Main results

* `CutAt.intercalate_eq`, `CutAt.not_infix`, `CutAt.length_eq`: the pieces of a text.
* `Builtin.split_string`: a text split at a separator without operators.
* `Builtin.join_split`: joining the pieces gives the text back.
-/

namespace Gleaner

/-- How often a text occurs in another: from left to right, each time after the end of the
occurrence before. -/
def occurrences (p : List Char) : List Char → Nat
  | [] => 0
  | c :: cs =>
    if p <+: c :: cs then occurrences p (cs.drop (p.length - 1)) + 1 else occurrences p cs
termination_by text => text.length
decreasing_by
  · rw [List.length_drop, List.length_cons]
    omega
  · exact Nat.lt_succ_self cs.length

/-! ### The pieces of a text -/

section CutAt

variable {p text : List Char} {pieces : List (List Char)}

/-- Where a text does not occur. -/
theorem occurrences_eq_zero (h : ¬p <:+: text) : occurrences p text = 0 := by
  induction text with
  | nil => rw [occurrences]
  | cons c text ih =>
    rw [occurrences, if_neg fun hp => h hp.isInfix, ih (not_infix_of_cons h)]

/-- The first occurrence and those after its end. -/
theorem occurrences_leftmost (hne : p ≠ []) {before : List Char} (h : ¬p <:+: before ++ p.dropLast)
    (rest : List Char) : occurrences p (before ++ (p ++ rest)) = occurrences p rest + 1 := by
  induction before with
  | nil =>
    obtain ⟨c, p, rfl⟩ := List.exists_cons_of_ne_nil hne
    rw [List.nil_append, List.cons_append, occurrences, if_pos ⟨rest, rfl⟩, List.length_cons,
      Nat.add_sub_cancel, List.drop_left]
  | cons c before ih =>
    rw [List.cons_append, occurrences, ← List.cons_append,
      if_neg (not_prefix_of_leftmost hne h rest), ih (not_infix_of_cons h)]

/-- There is at least one piece. -/
theorem CutAt.ne_nil (h : CutAt p text pieces) : pieces ≠ [] := by
  cases h <;> simp

/-- The pieces make up the text, with the separator between them. -/
theorem CutAt.intercalate_eq (h : CutAt p text pieces) : p.intercalate pieces = text := by
  induction h with
  | last => exact List.intercalate_singleton
  | next _ hrest ih =>
    rw [List.intercalate_cons_of_ne_nil hrest.ne_nil, ih, List.append_assoc]

/-- The separator does not occur in a piece. -/
theorem CutAt.not_infix (h : CutAt p text pieces) : ∀ piece ∈ pieces, ¬p <:+: piece := by
  induction h with
  | last hp => simpa using hp
  | @next before _ _ hleft _ ih =>
    -- an occurrence within a piece would end before the one that ends the piece
    refine List.forall_mem_cons.2 ⟨fun hp => hleft ?_, ih⟩
    exact hp.trans (List.prefix_append before p.dropLast).isInfix

/-- There is one piece more than there are occurrences. -/
theorem CutAt.length_eq (hne : p ≠ []) (h : CutAt p text pieces) :
    pieces.length = occurrences p text + 1 := by
  induction h with
  | last hp => rw [occurrences_eq_zero hp, List.length_singleton]
  | next hleft _ ih => rw [List.length_cons, ih, occurrences_leftmost hne hleft]

end CutAt

namespace Builtin

/-! ### Splitting and joining -/

section SplitJoin

variable {s p : String}

/-- A text as an argument. -/
theorem argText?_string (p : String) : argText? [.string p] 0 = some p := by
  simp [argText?, arg?, Value.isNull, Value.display, Value.displayChars]

/-- A separator without operators is a pattern for itself, unless it is too long. -/
theorem compile_of_plain (hne : p ≠ "") (hplain : ∀ c ∈ p.toList, Regex.isOperator c = false) :
    compile "split" p "" =
      if p.utf8ByteSize ≤ longestLiteral then .ok ⟨.literal p.toList, []⟩
      else .error ⟨"split", .invalidPattern⟩ := by
  have hread := Regex.compileWith?_of_plain hplain (by simpa using hne)
  have hflags : ({ ignoreCase := "".toList.contains 'i', multiLine := "".toList.contains 'm',
                   dotAll := "".toList.contains 's' } : Regex.Flags) = {} := rfl
  rw [String.ofList_toList] at hread
  rw [compile, hflags, hread]
  by_cases hlength : p.utf8ByteSize ≤ longestLiteral
  · rw [if_pos hlength, if_pos hlength]
  · rw [if_neg hlength, if_neg hlength]

/-- A text is split at a separator without operators into the pieces between its occurrences. -/
theorem split_string (hne : p ≠ "") (hplain : ∀ c ∈ p.toList, Regex.isOperator c = false)
    (s : String) :
    split (.string s) [.string p] =
      if p.utf8ByteSize ≤ longestLiteral then
        .ok (.array (((Pattern.literal p.toList).split s.toList).map fun piece =>
          .string (.ofList piece)))
      else .error ⟨"split", .invalidPattern⟩ := by
  have hsplit : split (.string s) [.string p] =
      (compile "split" p "").bind fun r =>
        .ok (.array ((r.pattern.split s.toList).map fun piece => .string (.ofList piece))) := by
    rw [split, argText?_string]
    rfl
  rw [hsplit, compile_of_plain hne hplain]
  split <;> rfl

/-- Texts are joined with the separator between them. -/
theorem join_strings (p : String) (pieces : List (List Char)) :
    join (.array (pieces.map fun piece => .string (.ofList piece))) [.string p] =
      .ok (.string (.ofList (p.toList.intercalate pieces))) := by
  rw [join, argText?_string]
  simp [Value.displayPart, Value.isNull, Value.displayChars, Value.joinChars, Function.comp_def]

/-- The letter `a` has one byte. -/
theorem utf8ByteSize_replicate (n : Nat) :
    (String.ofList (List.replicate n 'a')).utf8ByteSize = n := by
  induction n with
  | zero => rfl
  | succ n ih =>
    rw [List.replicate_succ, String.ofList_cons, String.utf8ByteSize_append, ih,
      String.utf8ByteSize_singleton, Nat.add_comm]
    rfl

end SplitJoin

/-- **Splitting and joining.** A text is split at a separator without operators into pieces that do
not contain the separator, one more of them than it has occurrences, and joined with the separator
they are the text again. If the separator is too long to be a pattern, no text is split at it. -/
theorem join_split {p : String} (hne : p ≠ "")
    (hplain : ∀ c ∈ p.toList, Regex.isOperator c = false) (s : String) :
    (p.utf8ByteSize ≤ longestLiteral →
      ∃ pieces : List String,
        split (.string s) [.string p] = .ok (.array (pieces.map .string)) ∧
        (∀ piece ∈ pieces, ¬p.toList <:+: piece.toList) ∧
        pieces.length = occurrences p.toList s.toList + 1 ∧
        join (.array (pieces.map .string)) [.string p] = .ok (.string s)) ∧
    (longestLiteral < p.utf8ByteSize →
      split (.string s) [.string p] = .error ⟨"split", .invalidPattern⟩) := by
  have hne' : p.toList ≠ [] := by simpa using hne
  have hcut := Pattern.cutAt_split hne' s.toList
  constructor
  · intro hlength
    refine ⟨((Pattern.literal p.toList).split s.toList).map .ofList, ?_, ?_, ?_, ?_⟩
    · rw [split_string hne hplain, if_pos hlength, List.map_map]
      rfl
    · simpa using hcut.not_infix
    · rw [List.length_map, hcut.length_eq hne']
    · rw [List.map_map]
      exact (join_strings p _).trans (by rw [hcut.intercalate_eq, String.ofList_toList])
  · intro hlength
    rw [split_string hne hplain, if_neg (Nat.not_le.2 hlength)]

/-- A separator that overlaps itself, at both ends of the text. -/
theorem join_split_overlapping :
    ∃ pieces : List String,
      split (.string "aabaaa") [.string "aa"] = .ok (.array (pieces.map .string)) ∧
      (∀ piece ∈ pieces, ¬"aa".toList <:+: piece.toList) ∧ pieces.length = 3 ∧
      join (.array (pieces.map .string)) [.string "aa"] = .ok (.string "aabaaa") := by
  have hcount : occurrences "aa".toList "aabaaa".toList = 2 := by cbv
  have hplain : ∀ c ∈ "aa".toList, Regex.isOperator c = false := by simp [Regex.isOperator]
  have h := (@join_split "aa" (by decide) hplain "aabaaa").1 (by decide)
  rwa [hcount] at h

/-- No text is split at half a million letters. -/
theorem split_half_million :
    ¬∀ s p : String, p ≠ "" → (∀ c ∈ p.toList, Regex.isMeta c = false) →
      ∃ pieces : List String,
        split (.string s) [.string p] = .ok (.array (pieces.map .string)) ∧
        (∀ piece ∈ pieces, ¬p.toList <:+: piece.toList) ∧
        pieces.length = occurrences p.toList s.toList + 1 ∧
        join (.array (pieces.map .string)) [.string p] = .ok (.string s) := by
  intro h
  obtain ⟨p, hp⟩ : ∃ p, p = String.ofList (List.replicate 500000 'a') := ⟨_, rfl⟩
  -- from here on the separator is a variable, and only its letters and its size are used
  have hletter : ∀ c ∈ p.toList, c = 'a' := by
    rw [hp, String.toList_ofList]
    exact fun c hc => List.eq_of_mem_replicate hc
  have hsize : p.utf8ByteSize = 500000 := by rw [hp, utf8ByteSize_replicate]
  have hne : p ≠ "" := by
    rintro rfl
    cases hsize
  have hplain : ∀ c ∈ p.toList, Regex.isOperator c = false := fun c hc => by
    rw [hletter c hc]
    rfl
  have hmeta : ∀ c ∈ p.toList, Regex.isMeta c = false := fun c hc => by
    rw [hletter c hc]
    rfl
  obtain ⟨pieces, hsplit, -⟩ := h "x" p hne hmeta
  rw [split_string hne hplain, hsize, if_neg (by decide)] at hsplit
  cases hsplit

end Builtin

end Gleaner
