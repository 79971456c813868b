import Gleaner.Proofs.Selector.Grammar

/-!
# Taking a transform out of a selector string

A transform is taken out of a selector string together with its pipe and the blanks around that
pipe. What is left is read as before, without the transform: the pipes after it stay pipes, and the
texts before it are no longer followed by blanks.

## Main definitions

* `Omits`: a text, a transform that it writes, and the text without the transform.

## Main results

* `CutAtPipes.append`, `CutAtPipes.exists_append_blanks`: where a text with more after it is cut.
* `segments_append_pipe`, `segments_of_trimEnd_eq`: the segments before and after a pipe.
* `read_of_omits`: how the text without the transform is read.
* `exists_omits`: every transform of a selector string can be taken out of it.
-/

namespace Gleaner.Selector

/-- A text that writes a transform, and the text without the transform, its pipe and the blanks
around the pipe. -/
inductive Omits (spec : List Char) : List Char → List Char → Prop
  /-- The last transform reaches to the end of the text. -/
  | last {before blanks after : List Char} :
      trimEnd before = before → IsBlankText blanks → IsBlankText after →
      (after ++ spec).head? ≠ some '=' → trimStart spec = spec → NoPipe spec →
      Omits spec (before ++ (blanks ++ '|' :: (after ++ spec))) before
  /-- Another transform reaches to the blanks before the next pipe, which stay. -/
  | inner {before blanks after gap more : List Char} :
      trimEnd before = before → IsBlankText blanks → IsBlankText after → IsBlankText gap →
      (after ++ spec).head? ≠ some '=' → IsTrimmed spec → NoPipe spec → more.head? ≠ some '=' →
      Omits spec (before ++ (blanks ++ '|' :: (after ++ spec ++ gap ++ '|' :: more)))
        (before ++ (gap ++ '|' :: more))

/-! ### Texts with more after them -/

section Append

variable {raw more first next blanks : List Char} {rest others : List (List Char)}

/-- No text of blanks begins with an equals sign. -/
theorem head?_ne_of_isBlankText (h : IsBlankText blanks) : blanks.head? ≠ some '=' := by
  intro heq
  have hblank : isBlank '=' := h '=' (List.mem_of_mem_head? heq)
  cases hblank

/-- Without the blanks at its end a text has no pipes that it did not have before. -/
theorem NoPipe.of_append_blanks (h : NoPipe (first ++ blanks)) (hblanks : IsBlankText blanks) :
    NoPipe first := by
  induction first with
  | nil => trivial
  | cons c first ih =>
    refine ⟨fun hbar => ?_, ih h.2⟩
    have heq : (first ++ blanks).head? = some '=' := h.1 hbar
    cases first with
    | nil => exact absurd heq (head?_ne_of_isBlankText hblanks)
    | cons d first => exact heq

/-- A text is cut at a pipe that follows it, and apart from that as it is by itself. -/
theorem CutAtPipes.append (h : CutAtPipes raw first rest) (hne : more.head? ≠ some '=')
    (hmore : CutAtPipes more next others) :
    CutAtPipes (raw ++ '|' :: more) first (rest ++ next :: others) := by
  induction h with
  | whole hfirst => exact .pipe hfirst hne hmore
  | @pipe first piece _ _ hfirst hpiece _ ih =>
    have hhead : (piece ++ '|' :: more).head? ≠ some '=' := by
      rw [List.head?_append]
      cases hp : piece.head? with
      | none => simp
      | some c => simpa [hp] using hpiece
    simpa using CutAtPipes.pipe hfirst hhead ih

/-- Blanks after a text belong to its last piece. -/
theorem CutAtPipes.exists_append_blanks (h : CutAtPipes raw first rest)
    (hblanks : IsBlankText blanks) :
    ∃ first' rest', CutAtPipes (raw ++ blanks) first' rest' ∧ trimEnd first' = trimEnd first ∧
      rest'.map trim = rest.map trim := by
  induction h with
  | @whole first hfirst =>
    exact ⟨first ++ blanks, [], .whole (hfirst.append (noPipe_of_isBlankText hblanks)),
      trimEnd_append hblanks first, rfl⟩
  | @pipe first piece next rest hfirst hpiece _ ih =>
    obtain ⟨next', rest', hcut, hnext, hrest⟩ := ih
    have hhead : (piece ++ blanks).head? ≠ some '=' := by
      rw [List.head?_append]
      cases hp : piece.head? with
      | none => exact head?_ne_of_isBlankText hblanks
      | some c => simpa [hp] using hpiece
    refine ⟨first, next' :: rest', by simpa using CutAtPipes.pipe hfirst hhead hcut, rfl, ?_⟩
    rw [List.map_cons, List.map_cons, hrest, ← trimStart_trimEnd, hnext, trimStart_trimEnd]

/-- A segment before others is trimmed at its end. -/
theorem trimAllButLast_cons (part : List Char) {parts : List (List Char)} (h : parts ≠ []) :
    trimAllButLast (part :: parts) = trimEnd part :: trimAllButLast parts := by
  cases parts with
  | nil => exact absurd rfl h
  | cons next parts => rfl

/-- Before more segments all are trimmed at their ends. -/
theorem trimAllButLast_append (front : List (List Char)) {back : List (List Char)}
    (h : back ≠ []) :
    trimAllButLast (front ++ back) = front.map trimEnd ++ trimAllButLast back := by
  induction front with
  | nil => rfl
  | cons part front ih =>
    rw [List.cons_append, trimAllButLast_cons _ (List.append_ne_nil_of_right_ne_nil front h), ih]
    rfl

/-- The segments of a text that blanks and a pipe follow are all trimmed at their ends. -/
theorem segments_append_pipe (h : CutAtPipes raw first rest) (hblanks : IsBlankText blanks)
    (hne : more.head? ≠ some '=') (hmore : CutAtPipes more next others) :
    segments (raw ++ (blanks ++ '|' :: more)) =
      trimEnd first :: (rest.map trim ++ trimAllButLast ((next :: others).map trimStart)) := by
  obtain ⟨first', rest', hcut, hfirst, hrest⟩ := h.exists_append_blanks hblanks
  have hne' : rest' ++ next :: others ≠ [] := by simp
  rw [← List.append_assoc, (hcut.append hne hmore).segments_eq, leadingOf, if_neg hne', hfirst,
    List.map_append, trimAllButLast_append _ (by simp), List.map_map]
  exact congrArg (fun front => trimEnd first :: (front ++ _)) hrest

/-- The end of a text without blanks at its end has none there. -/
theorem trimEnd_eq_of_append {front back : List Char}
    (h : trimEnd (front ++ back) = front ++ back) : trimEnd back = back := by
  induction front with
  | nil => exact h
  | cons c front ih =>
    refine ih ?_
    rw [List.cons_append, trimEnd] at h
    split at h
    next hnil =>
      split at h
      next => cases h
      next => rw [← (List.cons.inj h).2]; rfl
    next => exact (List.cons.inj h).2

/-- The segments of a text without blanks at its end are all trimmed at their ends. -/
theorem segments_of_trimEnd_eq (h : CutAtPipes raw first rest) (hraw : trimEnd raw = raw) :
    segments raw = trimEnd first :: rest.map trim := by
  have htrimmed : (rest = [] → trimEnd first = first) ∧
      trimAllButLast (rest.map trimStart) = rest.map trim := by
    induction h with
    | whole => exact ⟨fun _ => hraw, rfl⟩
    | @pipe first piece next rest _ _ _ ih =>
      -- the last piece of the text ends where the text does
      have hpiece : trimEnd piece = piece := by
        have hraw' : trimEnd ((first ++ ['|']) ++ piece) = (first ++ ['|']) ++ piece := by
          simpa using hraw
        exact trimEnd_eq_of_append hraw'
      obtain ⟨hnext, hrest⟩ := ih hpiece
      refine ⟨fun hnil => absurd hnil (List.cons_ne_nil next rest), ?_⟩
      by_cases hnil : rest = []
      · subst hnil
        have htrim : trimStart next = trim next := by
          rw [← trimStart_trimEnd, hnext rfl]
        rw [List.map_singleton, List.map_singleton, ← htrim]
        rfl
      · rw [List.map_cons, trimAllButLast_cons _ (by simpa using hnil), hrest]
        rfl
  rw [h.segments_eq, leadingOf, htrimmed.2]
  split
  next hnil => rw [htrimmed.1 hnil]
  next => rfl

end Append

/-! ### Reading what is left -/

section Omits

variable {spec raw raw' : List Char}

/-- The segments without those of the transform. -/
theorem Omits.exists_segments (h : Omits spec raw raw') :
    ∃ leading front back, segments raw = leading :: (front ++ spec :: back) ∧
      segments raw' = leading :: (front ++ back) := by
  cases h with
  | @last _ blanks after hbefore hblanks hafter hne hstart hspec =>
    obtain ⟨first, rest, hcut⟩ := exists_cutAtPipes raw'
    have hpiece : CutAtPipes (after ++ spec) (after ++ spec) [] :=
      .whole ((noPipe_of_isBlankText hafter).append hspec)
    refine ⟨trimEnd first, rest.map trim, [], ?_, ?_⟩
    · rw [segments_append_pipe hcut hblanks hne hpiece, List.map_singleton,
        trimStart_append hafter, hstart]
      rfl
    · rw [segments_of_trimEnd_eq hcut hbefore, List.append_nil]
  | @inner before blanks after gap more hbefore hblanks hafter hgap hne hspec hnone hmore =>
    obtain ⟨first, rest, hcut⟩ := exists_cutAtPipes before
    obtain ⟨next, others, hothers⟩ := exists_cutAtPipes more
    have hpiece : NoPipe (after ++ spec ++ gap) :=
      ((noPipe_of_isBlankText hafter).append hnone).append (noPipe_of_isBlankText hgap)
    have hcut' : CutAtPipes (after ++ spec ++ gap ++ '|' :: more) (after ++ spec ++ gap)
        (next :: others) := .pipe hpiece hmore hothers
    have hhead : (after ++ spec ++ gap ++ '|' :: more).head? ≠ some '=' := by
      cases hstart : after ++ spec with
      | nil =>
        rw [List.nil_append, List.head?_append]
        cases hg : gap.head? with
        | none => simp
        | some c => simpa [hg] using head?_ne_of_isBlankText hgap
      | cons c tail => simpa [hstart] using hne
    have htrim : trim (after ++ spec ++ gap) = spec := by
      rw [List.append_assoc]
      exact (trim_append_append hafter hgap spec).trans hspec
    refine ⟨trimEnd first, rest.map trim, trimAllButLast ((next :: others).map trimStart), ?_, ?_⟩
    · rw [segments_append_pipe hcut hblanks hhead hcut', List.map_cons,
        trimAllButLast_cons _ (by simp), ← trim, htrim]
    · exact segments_append_pipe hcut hgap hmore hothers

/-- Without a transform a selector string has the same query and attribute, and its other
transforms in their order. -/
theorem read_of_omits (h : Omits spec raw raw') :
    ∃ front back, (read raw').transforms = front ++ back ∧
      read raw = { read raw' with transforms := front ++ .ofList spec :: back } := by
  obtain ⟨leading, front, back, hraw, hraw'⟩ := h.exists_segments
  refine ⟨front.map .ofList, back.map .ofList, ?_, ?_⟩
  · rw [read_of_segments hraw']
    split <;> simp
  · rw [read_of_segments hraw, read_of_segments hraw']
    split <;> simp

/-- The transforms that are read are the pieces after the pipes, trimmed. -/
theorem transforms_read_eq {first : List Char} {rest : List (List Char)}
    (h : CutAtPipes raw first rest) :
    (read raw).transforms = (trimAllButLast (rest.map trimStart)).map String.ofList := by
  rw [read_of_segments h.segments_eq]
  split <;> rfl

/-- Every transform after a text can be taken out. -/
theorem CutAtPipes.exists_omits {first : List Char} {rest : List (List Char)}
    (h : CutAtPipes raw first rest) (hspec : spec ∈ trimAllButLast (rest.map trimStart))
    (front : List Char) : ∃ raw', Omits spec (front ++ raw) raw' := by
  induction h generalizing front with
  | whole => cases hspec
  | @pipe first more next rest _ hne hmore ih =>
    -- the text before the pipe, without the blanks at its end, and the blanks after the pipe
    obtain ⟨blanks, hblanks, hbefore⟩ := exists_append_trimEnd (front ++ first)
    obtain ⟨after, hafter, hnext⟩ := exists_append_trimStart next
    have hraw : front ++ (first ++ '|' :: more) =
        trimEnd (front ++ first) ++ (blanks ++ '|' :: more) := by
      rw [← List.append_assoc, hbefore, trimEnd_append hblanks, trimEnd_trimEnd,
        List.append_assoc]
    have hbefore' := trimEnd_trimEnd (front ++ first)
    rw [hraw]
    cases hmore with
    | whole hnone =>
      obtain rfl : spec = trimStart more := by simpa [trimAllButLast] using hspec
      have hhead : (after ++ trimStart more).head? ≠ some '=' := by rwa [← hnext]
      have hlast := Omits.last hbefore' hblanks hafter hhead (trimStart_trimStart more)
        hnone.trimStart
      rw [← hnext] at hlast
      exact ⟨_, hlast⟩
    | @pipe _ others next' rest hnone hne' hmore =>
      rw [List.map_cons, trimAllButLast_cons _ (by simp)] at hspec
      rcases List.mem_cons.1 hspec with rfl | hlater
      · obtain ⟨gap, hgap, hstart⟩ := exists_append_trimEnd (trimStart next)
        have hpiece : after ++ trim next ++ gap = next := by
          rw [List.append_assoc, trim, ← hstart, ← hnext]
        have hhead : (after ++ trim next).head? ≠ some '=' := by
          intro heq
          refine hne ?_
          rw [← hpiece, List.head?_append, List.head?_append, heq]
          rfl
        have htrimmed : IsTrimmed (trim next) := by
          have htrim := trim_append_append hafter hgap (trim next)
          rw [← List.append_assoc, hpiece] at htrim
          exact htrim.symm
        have hspec' : NoPipe (trim next) := by
          rw [← hpiece] at hnone
          exact (hnone.of_append_blanks hgap).of_append
        have hinner := Omits.inner hbefore' hblanks hafter hgap hhead htrimmed hspec' hne'
        rw [hpiece] at hinner
        exact ⟨_, hinner⟩
      · -- a later transform is one of the text after the pipe
        obtain ⟨raw', hraw'⟩ := ih hlater (front ++ first ++ ['|'])
        rw [← hraw]
        exact ⟨raw', by simpa using hraw'⟩

/-- Every transform of a selector string can be taken out of it. -/
theorem exists_omits (h : .ofList spec ∈ (read raw).transforms) : ∃ raw', Omits spec raw raw' := by
  obtain ⟨first, rest, hcut⟩ := exists_cutAtPipes raw
  rw [transforms_read_eq hcut] at h
  obtain ⟨spec', hspec, heq⟩ := List.mem_map.1 h
  obtain rfl : spec' = spec := String.ofList_injective heq
  exact hcut.exists_omits hspec []

end Omits

end Gleaner.Selector
