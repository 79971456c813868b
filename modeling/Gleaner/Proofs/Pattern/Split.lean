import Gleaner.Proofs.Pattern.Texts

/-!
# Texts cut at a literal

A text is cut at the leftmost place where a literal stands, and then what follows it is cut in the
same way. This is said here without the search, as a relation between a text and its pieces, and the
pieces between the matches of the literal are these.

## Main definitions

* `CutAt`: a text and its pieces between the occurrences of another.

## Main results

* `Pattern.matchAt?_literal`: a literal matches where its text stands.
* `Pattern.findFrom?_literal_of_not_infix`, `Pattern.findFrom?_literal_of_leftmost`: where a literal
  is found.
* `Pattern.cutAt_split`: a text is split at a literal into the pieces that it is cut into.
-/

namespace Gleaner

/-- A text cut at the occurrences of another, from left to right: its pieces between them. -/
inductive CutAt (p : List Char) : List Char → List (List Char) → Prop
  /-- A text without occurrences is one piece. -/
  | last {text : List Char} : ¬p <:+: text → CutAt p text [text]
  /-- A piece ends at the first occurrence: no other one ends before it does. -/
  | next {before rest : List Char} {pieces : List (List Char)} :
      ¬p <:+: before ++ p.dropLast → CutAt p rest pieces →
      CutAt p (before ++ (p ++ rest)) (before :: pieces)

/-! ### The leftmost occurrence -/

section Leftmost

variable {p before rest text : List Char} {c : Char}

/-- An occurrence that is not the first one does not stand at the beginning. -/
theorem not_prefix_of_leftmost (hne : p ≠ []) (h : ¬p <:+: c :: before ++ p.dropLast)
    (rest : List Char) : ¬p <+: c :: before ++ (p ++ rest) := by
  intro hp
  have hfront : c :: before ++ p.dropLast <+: c :: before ++ (p ++ rest) :=
    (List.prefix_append_right_inj _).2
      ((List.dropLast_prefix p).trans (List.prefix_append p rest))
  have hlength : p.length ≤ (c :: before ++ p.dropLast).length := by
    have hpos := List.length_pos_of_ne_nil hne
    simp only [List.length_append, List.length_cons, List.length_dropLast]
    omega
  exact h (List.prefix_of_prefix_length_le hp hfront hlength).isInfix

/-- Without its first character a text has no occurrences that it did not have. -/
theorem not_infix_of_cons (h : ¬p <:+: c :: text) : ¬p <:+: text :=
  fun hp => h (List.infix_cons_iff.2 (.inr hp))

/-- A text that occurs in another has a first occurrence there. -/
theorem exists_leftmost (hne : p ≠ []) (h : p <:+: text) :
    ∃ before rest, text = before ++ (p ++ rest) ∧ ¬p <:+: before ++ p.dropLast := by
  have hshort : ¬p <:+: p.dropLast := fun hp => by
    have hle := hp.length_le
    have hpos := List.length_pos_of_ne_nil hne
    rw [List.length_dropLast] at hle
    omega
  induction text with
  | nil => exact absurd (List.infix_nil.1 h) hne
  | cons c text ih =>
    by_cases hp : p <+: c :: text
    · obtain ⟨rest, hrest⟩ := hp
      exact ⟨[], rest, hrest.symm, hshort⟩
    · obtain ⟨before, rest, rfl, hleft⟩ := ih ((List.infix_cons_iff.1 h).resolve_left hp)
      refine ⟨c :: before, rest, rfl, fun hlater => ?_⟩
      -- one that ends earlier stands at the start, where there is none, or in the rest
      rcases List.infix_cons_iff.1 hlater with hfirst | hlater
      · have hfront : c :: (before ++ p.dropLast) <+: c :: (before ++ (p ++ rest)) := by
          simpa using (List.dropLast_prefix p).trans (List.prefix_append p rest)
        exact hp (hfirst.trans hfront)
      · exact hleft hlater

end Leftmost

namespace Pattern

variable {p : List Char}

/-! ### Where a literal matches -/

/-- A character leads to the place after it, where it stands. -/
theorem ends_char (c : Char) (r : Reached) :
    (char c).ends [r] = if [c] <+: r.cursor.rest then [r.after [c]] else [] := by
  have hends : (char c).ends [r] = (advance? (.ofChar c) r).toList := by
    change [r].filterMap _ = _
    cases h : advance? (.ofChar c) r <;> simp [h]
  rw [hends, advance?]
  cases hrest : r.cursor.rest with
  | nil => simp
  | cons d rest =>
    by_cases hd : d = c
    · subst hd
      simp [Unicode.contains_ofChar, Reached.after, Cursor.after, hrest]
    · have hd' : ¬c = d := fun h => hd h.symm
      simp [Unicode.contains_ofChar, hd, hd']

/-- A literal leads to the place after its text, where this stands. -/
theorem ends_literal (p : List Char) (r : Reached) :
    (literal p).ends [r] = if p <+: r.cursor.rest then [r.after p] else [] := by
  induction p generalizing r with
  | nil => simp [literal, seqAll, ends]
  | cons c p ih =>
    cases p with
    | nil => exact ends_char c r
    | cons d p =>
      have hseq : literal (c :: d :: p) = .seq (char c) (literal (d :: p)) := rfl
      have hstarts : [c] ++ d :: p <+: r.cursor.rest ↔
          [c] <+: r.cursor.rest ∧ d :: p <+: r.cursor.rest.drop 1 := append_prefix_iff
      rw [List.singleton_append] at hstarts
      rw [hseq, ends, ends_char]
      by_cases hc : [c] <+: r.cursor.rest
      · rw [if_pos hc]
        dsimp only
        rw [ih, Reached.cursor_after, Cursor.rest_after]
        simp only [hstarts, hc, true_and]
        rfl
      · rw [if_neg hc, if_neg fun h => hc (hstarts.1 h).1]

/-- A literal matches at a place where its text stands. -/
theorem matchAt?_literal (p : List Char) (at_ : Cursor) :
    (literal p).matchAt? at_ = if p <+: at_.rest then some ⟨⟨at_, at_.after p⟩, []⟩ else none := by
  rw [matchAt?, ends_literal]
  split <;> rfl

/-! ### Where a literal is found -/

/-- At the end of a text a match is found only there. -/
theorem findFrom?_of_nil (q : Pattern) {at_ : Cursor} (h : at_.rest = []) :
    q.findFrom? at_ = q.matchAt? at_ := by
  obtain ⟨index, previous, rest⟩ := at_
  cases h
  simp [findFrom?, Cursor.following, Cursor.following.go]

/-- A match that is not at a place is found from the next one on. -/
theorem findFrom?_of_cons {q : Pattern} {at_ : Cursor} {c : Char} {cs : List Char}
    (h : at_.rest = c :: cs) (hnone : q.matchAt? at_ = none) :
    q.findFrom? at_ = q.findFrom? (at_.next c cs) := by
  obtain ⟨index, previous, rest⟩ := at_
  cases h
  rw [findFrom?, Cursor.following, Cursor.following.go, List.findSome?_cons, hnone]
  rfl

/-- A match at a place is found from there on. -/
theorem findFrom?_of_matchAt? {q : Pattern} {at_ : Cursor} {m : Match}
    (h : q.matchAt? at_ = some m) : q.findFrom? at_ = some m := by
  obtain ⟨later, hlater⟩ := at_.exists_following_eq
  rw [findFrom?, hlater, List.findSome?_cons, h]

/-- Where its text does not occur a literal is not found. -/
theorem findFrom?_literal_of_not_infix {at_ : Cursor} (h : ¬p <:+: at_.rest) :
    (literal p).findFrom? at_ = none := by
  have hnone : (literal p).matchAt? at_ = none := by
    rw [matchAt?_literal, if_neg fun hp => h hp.isInfix]
  cases hrest : at_.rest with
  | nil => rw [findFrom?_of_nil _ hrest, hnone]
  | cons c cs =>
    rw [hrest] at h
    rw [findFrom?_of_cons hrest hnone]
    exact findFrom?_literal_of_not_infix (not_infix_of_cons h)
termination_by at_.rest.length
decreasing_by
  rw [hrest]
  exact Nat.lt_succ_self cs.length

/-- A literal is found at the first occurrence of its text. -/
theorem findFrom?_literal_of_leftmost (hne : p ≠ []) {before rest : List Char} {at_ : Cursor}
    (hrest : at_.rest = before ++ (p ++ rest)) (hleft : ¬p <:+: before ++ p.dropLast) :
    (literal p).findFrom? at_ = some ⟨⟨at_.after before, (at_.after before).after p⟩, []⟩ := by
  induction before generalizing at_ with
  | nil =>
    refine findFrom?_of_matchAt? ?_
    rw [matchAt?_literal, if_pos ⟨rest, hrest.symm⟩]
    rfl
  | cons c before ih =>
    have hnone : (literal p).matchAt? at_ = none := by
      rw [matchAt?_literal, hrest, if_neg (not_prefix_of_leftmost hne hleft rest)]
    rw [findFrom?_of_cons hrest hnone, ih rfl (not_infix_of_cons hleft), Cursor.after, hrest]
    rfl

/-! ### The pieces between the matches -/

/-- The pieces from a place on are those that the rest of the text is cut into. -/
theorem cutAt_pieces (hne : p ≠ []) {fuel : Nat} {at_ : Cursor} (hfuel : at_.rest.length < fuel)
    (lastStop : Option Nat) :
    CutAt p at_.rest (pieces at_ ((literal p).matchesFrom fuel lastStop at_)) := by
  induction fuel generalizing at_ lastStop with
  | zero => exact absurd hfuel (Nat.not_lt_zero _)
  | succ fuel ih =>
    by_cases hp : p <:+: at_.rest
    · obtain ⟨before, rest, hrest, hleft⟩ := exists_leftmost hne hp
      have hpos := List.length_pos_of_ne_nil hne
      have hfind := findFrom?_literal_of_leftmost hne hrest hleft
      have hbefore : at_.textTo (at_.after before) = before :=
        Cursor.textTo_after ⟨p ++ rest, hrest.symm⟩
      have hafter : ((at_.after before).after p).rest = rest := by simp [hrest]
      have hnotEmpty : (Match.mk ⟨at_.after before, (at_.after before).after p⟩ []).isEmpty
          = false := by
        simpa [Match.isEmpty] using hne
      have hless : ((at_.after before).after p).rest.length < fuel := by
        rw [hrest, List.length_append, List.length_append] at hfuel
        rw [hafter]
        omega
      have hlater := ih hless (some ((at_.after before).after p).index)
      rw [hafter] at hlater
      -- the match is not empty, so the search goes on right after it
      rw [matchesFrom, hfind]
      dsimp only
      rw [hnotEmpty, Bool.false_and, if_neg Bool.false_ne_true, pieces, hbefore, hrest]
      exact .next hleft hlater
    · rw [matchesFrom, findFrom?_literal_of_not_infix hp]
      exact .last hp

/-- A text is split at a literal into the pieces that it is cut into. -/
theorem cutAt_split (hne : p ≠ []) (text : List Char) : CutAt p text ((literal p).split text) := by
  have hfuel : (Cursor.start text).rest.length < 2 * text.length + 2 := by
    change text.length < _
    omega
  exact cutAt_pieces hne hfuel none

end Pattern

end Gleaner
