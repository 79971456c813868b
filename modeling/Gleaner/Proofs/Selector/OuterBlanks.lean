import Gleaner.Proofs.Selector.Omission
import Gleaner.Proofs.Transform.Arguments

/-!
# Blanks around a selector string

Blanks in front of a selector string mean nothing. Blanks after it belong to its last segment, and
there they mean something in two places. An attribute that no pipe follows is refused with them, and
so is the query then. In a transform they become part of a quote that is left open.

## Main definitions

* `TransformSpec.LeavesOpen`: a written transform that leaves a quote open.
* `Selector.parts`: the query and the attribute of a leading segment.

## Main results

* `TransformSpec.read_append_blanks_iff`: blanks after a transform.
* `Selector.parts_blanks_append`, `Selector.parts_append_blanks_iff`: blanks around a leading
  segment.
* `Selector.ofText_outerBlanks`: blanks around a selector string.
-/

namespace Gleaner

/-! ### Transforms with blanks after them -/

namespace TransformSpec

/-- A written transform that opens a quote after its first colon and does not close it. -/
def LeavesOpen (spec : List Char) : Prop :=
  ∃ args, spec.dropWhile (· ≠ ':') = ':' :: args ∧ EndsInQuotes args

variable {spec name blanks : List Char}

/-- What a name and a colon begin leaves a quote open where the arguments do. -/
theorem leavesOpen_append_colon_iff (h : ':' ∉ name) (args : List Char) :
    LeavesOpen (name ++ ':' :: args) ↔ EndsInQuotes args := by
  rw [LeavesOpen, (takeWhile_append_colon h args).2]
  simp

/-- Without a colon there is no quote to leave open. -/
theorem not_leavesOpen_of_not_mem (h : ':' ∉ spec) : ¬LeavesOpen spec := by
  rintro ⟨args, hargs, -⟩
  have hmem : ':' ∈ spec.dropWhile (· ≠ ':') := by rw [hargs]; exact List.mem_cons_self
  exact h ((List.dropWhile_suffix _).mem hmem)

/-- Blanks after a transform mean something just when it leaves a quote open. -/
theorem read_append_blanks_iff (hblanks : IsBlankText blanks) :
    read (spec ++ blanks) = read spec ↔ blanks = [] ∨ ¬LeavesOpen spec := by
  by_cases hcolon : ':' ∈ spec
  · obtain ⟨name, args, rfl, hname⟩ := List.eq_append_cons_of_mem hcolon
    rw [List.append_assoc, List.cons_append, read_append_colon hname, read_append_colon hname,
      TransformSpec.mk.injEq, leavesOpen_append_colon_iff hname]
    exact (and_iff_right rfl).trans (readArgs_append_blanks_iff hblanks)
  · have hblanks' : ':' ∉ blanks := by
      intro hmem
      have hblank : isBlank ':' := hblanks ':' hmem
      cases hblank
    have htrim : trim (spec ++ blanks) = trim spec :=
      trim_append_append (List.forall_mem_nil _) hblanks spec
    rw [read_of_not_mem (by simp [hcolon, hblanks']), read_of_not_mem hcolon, htrim]
    exact iff_of_true rfl (.inr (not_leavesOpen_of_not_mem hcolon))

end TransformSpec

namespace Selector

/-! ### Leading segments with blanks around them -/

/-- The query of a leading segment, unless it is empty, and the attribute. -/
def parts (leading : List Char) : Option String × Option String :=
  match readLeading leading with
  | some (query, attr) =>
    ((some (String.ofList query)).filter (!·.isEmpty), attr.map String.ofList)
  | none => (none, none)

/-- The query and the attribute of a selector string are those of its leading segment. -/
theorem query_attr_eq {raw leading : List Char} {rest : List (List Char)}
    (h : segments raw = leading :: rest) :
    ((read raw).query, (read raw).attr) = parts leading := by
  rw [read_of_segments h, parts]
  by_cases hnil : leading = []
  · subst hnil
    rfl
  · rw [if_neg hnil]
    cases readLeading leading <;> rfl

section Leading

variable {leading blanks : List Char}

/-- No at sign is blank. -/
theorem at_not_mem (h : IsBlankText blanks) : '@' ∉ blanks := by
  intro hmem
  have hblank : isBlank '@' := h '@' hmem
  cases hblank

/-- A leading segment is read without the blanks in front of it. -/
theorem readLeading_blanks_append (h : IsBlankText blanks) (leading : List Char) :
    readLeading (blanks ++ leading) = readLeading leading := by
  have htrim (query : List Char) : trim (blanks ++ query) = trim query := by
    rw [trim, trimStart_append h, ← trim]
  by_cases hat : '@' ∈ leading
  · obtain ⟨query, rest, rfl, hquery⟩ := List.eq_append_cons_of_mem hat
    have hquery' : '@' ∉ blanks ++ query := by simp [at_not_mem h, hquery]
    rw [← List.append_assoc, readLeading_append hquery', readLeading_append hquery, htrim]
  · have hat' : '@' ∉ blanks ++ leading := by simp [at_not_mem h, hat]
    rw [readLeading_of_not_mem hat', readLeading_of_not_mem hat, htrim]

/-- Blanks in front of a leading segment mean nothing. -/
theorem parts_blanks_append (h : IsBlankText blanks) (leading : List Char) :
    parts (blanks ++ leading) = parts leading := by
  rw [parts, readLeading_blanks_append h, ← parts]

/-- What follows an at sign is no name where blanks are at its end. -/
theorem not_isName_append_blanks {rest : List Char} (h : IsBlankText blanks) (hne : blanks ≠ []) :
    ¬(trimStart (rest ++ blanks) ≠ [] ∧ ∀ c ∈ trimStart (rest ++ blanks), isNameChar c) := by
  obtain ⟨c, hc⟩ := List.exists_mem_of_ne_nil blanks hne
  rw [trimStart_append_blanks h]
  split
  next => exact fun hname => hname.1 rfl
  next =>
    intro hname
    have hc' := hname.2 c (List.mem_append_right _ hc)
    rw [isNameChar_of_isBlank (h c hc)] at hc'
    cases hc'

/-- Blanks after a leading segment mean something just when it has an attribute. -/
theorem parts_append_blanks_iff (h : IsBlankText blanks) :
    parts (leading ++ blanks) = parts leading ↔ blanks = [] ∨ (parts leading).2 = none := by
  by_cases hne : blanks = []
  · simp [hne]
  by_cases hat : '@' ∈ leading
  · obtain ⟨query, rest, rfl, hquery⟩ := List.eq_append_cons_of_mem hat
    -- with a blank at its end the attribute is no name, so that the whole segment is refused
    have hrefused : parts (query ++ '@' :: rest ++ blanks) = (none, none) := by
      rw [parts, List.append_assoc, List.cons_append, readLeading_append hquery,
        if_neg (not_isName_append_blanks h hne)]
    rw [hrefused, parts, readLeading_append hquery]
    split
    next hread =>
      split at hread
      next => cases hread; simp [hne]
      next => cases hread
    next => simp
  · have hat' : '@' ∉ leading ++ blanks := by simp [at_not_mem h, hat]
    have htrim : trim (leading ++ blanks) = trim leading :=
      trim_append_append (List.forall_mem_nil _) h leading
    rw [parts, readLeading_of_not_mem hat', htrim, parts, readLeading_of_not_mem hat]
    simp

end Leading

/-! ### Blanks around the pieces -/

section Cut

variable {raw first last blanks : List Char} {rest front : List (List Char)}

/-- Blanks in front of a text belong to its first piece. -/
theorem CutAtPipes.blanks_append (h : CutAtPipes raw first rest) (hblanks : IsBlankText blanks) :
    CutAtPipes (blanks ++ raw) (blanks ++ first) rest := by
  have hnone := noPipe_of_isBlankText hblanks
  cases h with
  | whole hfirst => exact .whole (hnone.append hfirst)
  | pipe hfirst hne hmore => simpa using CutAtPipes.pipe (hnone.append hfirst) hne hmore

/-- Blanks after a text belong to its last piece, which may be its first one. -/
theorem CutAtPipes.append_blanks (h : CutAtPipes raw first rest) (hblanks : IsBlankText blanks) :
    (rest = [] → CutAtPipes (raw ++ blanks) (first ++ blanks) []) ∧
      ∀ front last, rest = front ++ [last] →
        CutAtPipes (raw ++ blanks) first (front ++ [last ++ blanks]) := by
  induction h with
  | whole hfirst =>
    refine ⟨fun _ => .whole (hfirst.append (noPipe_of_isBlankText hblanks)), fun _ _ h => ?_⟩
    simp at h
  | @pipe first more next rest hfirst hne hmore ih =>
    refine ⟨fun h => absurd h (List.cons_ne_nil _ _), fun front last hlast => ?_⟩
    -- the pipe stays one: blanks put no equals sign behind it
    have hhead : (more ++ blanks).head? ≠ some '=' := by
      rw [List.head?_append]
      cases hm : more.head? with
      | none => exact head?_ne_of_isBlankText hblanks
      | some c => simpa [hm] using hne
    rw [List.append_assoc, List.cons_append]
    cases front with
    | nil =>
      obtain ⟨rfl, rfl⟩ : next = last ∧ rest = [] := by simpa using hlast
      exact .pipe hfirst hhead (ih.1 rfl)
    | cons piece front =>
      obtain ⟨rfl, hrest⟩ : next = piece ∧ rest = front ++ [last] := by simpa using hlast
      exact .pipe hfirst hhead (ih.2 front last hrest)

/-- The segments of a text that is one piece. -/
theorem CutAtPipes.segments_whole (h : CutAtPipes raw first []) : segments raw = [first] :=
  h.segments_eq

/-- The segments of a text with pipes: only the last one is not trimmed at its end. -/
theorem CutAtPipes.segments_pipes (h : CutAtPipes raw first (front ++ [last])) :
    segments raw = trimEnd first :: (front.map trim ++ [trimStart last]) := by
  rw [h.segments_eq, leadingOf, if_neg (by simp), List.map_append,
    trimAllButLast_append _ (by simp), List.map_map]
  rfl

end Cut

/-! ### Blanks around a selector string -/

section OuterBlanks

variable {raw before after first last : List Char} {front : List (List Char)}

/-- Blanks around a text without pipes are blanks around its leading segment. -/
theorem parts_outerBlanks_whole_iff (hbefore : IsBlankText before) (hafter : IsBlankText after) :
    parts (before ++ first ++ after) = parts first ↔ after = [] ∨ (parts first).2 = none := by
  rw [List.append_assoc, parts_blanks_append hbefore, parts_append_blanks_iff hafter]

/-- Before a pipe blanks around a leading segment mean nothing. -/
theorem parts_trimEnd_blanks_append (hbefore : IsBlankText before) :
    parts (trimEnd (before ++ first)) = parts (trimEnd first) := by
  by_cases hnil : trimEnd first = []
  · -- a piece of nothing but blanks has no query, however many they are
    have hblank : IsBlankText (before ++ first) :=
      List.forall_mem_append.2 ⟨hbefore, trimEnd_eq_nil_iff.1 hnil⟩
    rw [hnil, trimEnd_eq_nil_iff.2 hblank]
  · rw [trimEnd_append_of_trimEnd_ne_nil hnil, parts_blanks_append hbefore]

/-- Blanks after the last transform mean something just when it leaves a quote open. -/
theorem read_trimStart_append_blanks_iff (hafter : IsBlankText after) :
    TransformSpec.read (trimStart (last ++ after)) = TransformSpec.read (trimStart last) ↔
      after = [] ∨ ¬TransformSpec.LeavesOpen (trimStart last) := by
  rw [trimStart_append_blanks hafter]
  split
  next hnil =>
    have hclosed : ¬TransformSpec.LeavesOpen [] :=
      TransformSpec.not_leavesOpen_of_not_mem List.not_mem_nil
    rw [hnil]
    exact iff_of_true rfl (.inr hclosed)
  next => exact TransformSpec.read_append_blanks_iff hafter

/-- Blanks around a text without pipes: the query and the attribute are lost if there is an
attribute and blanks follow it. -/
theorem read_outerBlanks_whole (h : CutAtPipes raw first []) (hbefore : IsBlankText before)
    (hafter : IsBlankText after) :
    (((read (before ++ raw ++ after)).query, (read (before ++ raw ++ after)).attr) =
        ((read raw).query, (read raw).attr) ↔ after = [] ∨ (read raw).attr = none) ∧
      (read (before ++ raw ++ after)).transforms = [] ∧ (read raw).transforms = [] := by
  have hcut := ((h.blanks_append hbefore).append_blanks hafter).1 rfl
  have hparts := query_attr_eq h.segments_whole
  have hattr : (read raw).attr = (parts first).2 := congrArg Prod.snd hparts
  refine ⟨?_, transforms_read_eq hcut, transforms_read_eq h⟩
  rw [hparts, query_attr_eq hcut.segments_whole, hattr]
  exact parts_outerBlanks_whole_iff hbefore hafter

/-- Blanks around a text with pipes: the query and the attribute are the same, and so are the
transforms but for the blanks after the last one. -/
theorem read_outerBlanks_pipes (h : CutAtPipes raw first (front ++ [last]))
    (hbefore : IsBlankText before) (hafter : IsBlankText after) :
    ((read (before ++ raw ++ after)).query, (read (before ++ raw ++ after)).attr) =
        ((read raw).query, (read raw).attr) ∧
      (read raw).transforms = (front.map trim ++ [trimStart last]).map String.ofList ∧
      (read (before ++ raw ++ after)).transforms =
        (front.map trim ++ [trimStart (last ++ after)]).map String.ofList := by
  have hcut := ((h.blanks_append hbefore).append_blanks hafter).2 front last rfl
  refine ⟨?_, ?_, ?_⟩
  · rw [query_attr_eq hcut.segments_pipes, query_attr_eq h.segments_pipes]
    exact parts_trimEnd_blanks_append hbefore
  · rw [read_of_segments h.segments_pipes]
    split <;> rfl
  · rw [read_of_segments hcut.segments_pipes]
    split <;> rfl

end OuterBlanks

end Selector

end Gleaner
