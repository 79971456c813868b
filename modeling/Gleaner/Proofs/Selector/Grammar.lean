import Gleaner.Proofs.Text.Trim
import Gleaner.Proofs.Unicode.Classes
import Gleaner.Selector
import Mathlib

/-!
# The grammar of selector strings

A selector string is cut at its pipes, which are the bars that no equals sign follows. What stands
before the first pipe is a query, perhaps with an attribute; what stands after each pipe is a
transform. The cut is stated here without the reader, as a relation between a text and its pieces,
and so is what a query with an attribute looks like.

## Main definitions

* `NoPipe`: a text without pipes.
* `CutAtPipes`: a text and its pieces between the pipes.
* `IsLeading`: a leading segment with its query and attribute.
* `JoinedByPipes`: texts put together by pipes, with any blanks around them.
* `write`: a selector string from its parts.

## Main results

* `exists_cutAtPipes`, `CutAtPipes.unique`: every text is cut in exactly one way.
* `CutAtPipes.segments_eq`: the reader finds the pieces, trimmed.
* `readLeading_eq_some_iff`: the reader accepts exactly the leading segments.
* `read_of_joined`: what is put together by pipes is read apart again.
* `ofText_grammar`: the reader accepts exactly the selector strings, and reads what is written.
-/

namespace Gleaner.Selector

/-- A text without pipes: an equals sign follows each of its bars. -/
def NoPipe : List Char → Prop
  | [] => True
  | c :: rest => (c = '|' → rest.head? = some '=') ∧ NoPipe rest

instance decidableNoPipe : ∀ cs : List Char, Decidable (NoPipe cs)
  | [] => .isTrue trivial
  | c :: rest =>
    have := decidableNoPipe rest
    inferInstanceAs (Decidable ((c = '|' → rest.head? = some '=') ∧ NoPipe rest))

/-- A text cut at its pipes: the piece before the first pipe and the pieces after each of them. -/
inductive CutAtPipes : List Char → List Char → List (List Char) → Prop
  /-- A text without pipes is one piece. -/
  | whole {first : List Char} : NoPipe first → CutAtPipes first first []
  /-- The first pipe, with what follows it cut at its pipes. -/
  | pipe {first more next : List Char} {rest : List (List Char)} :
      NoPipe first → more.head? ≠ some '=' → CutAtPipes more next rest →
      CutAtPipes (first ++ '|' :: more) first (next :: rest)

/-- A leading segment, its query as it is written, and its attribute. -/
inductive IsLeading : List Char → List Char → Option (List Char) → Prop
  /-- A query alone. -/
  | query {query : List Char} : '@' ∉ query → IsLeading query query none
  /-- A query, an at sign and the name of an attribute, which blanks may precede. -/
  | attr {query blanks name : List Char} :
      '@' ∉ query → IsBlankText blanks → name ≠ [] → (∀ c ∈ name, isNameChar c) →
      IsLeading (query ++ '@' :: (blanks ++ name)) query (some name)

/-- A leading segment and transforms put together by pipes, with blanks around each of them. -/
inductive JoinedByPipes : List Char → List (List Char) → List Char → Prop
  /-- A leading segment alone. -/
  | leading (leading : List Char) : JoinedByPipes leading [] leading
  /-- A transform after a pipe, with the transforms after it. -/
  | pipe {leading before after spec more : List Char} {specs : List (List Char)} :
      IsBlankText before → IsBlankText after → (after ++ more).head? ≠ some '=' →
      JoinedByPipes spec specs more →
      JoinedByPipes leading (spec :: specs) (leading ++ (before ++ '|' :: (after ++ more)))

/-! ### Texts without pipes -/

section NoPipe

variable {first second more : List Char}

/-- An equals sign follows every bar of a text without pipes. -/
theorem NoPipe.head?_eq (h : NoPipe (first ++ '|' :: more)) : more.head? = some '=' := by
  induction first with
  | nil => exact h.1 rfl
  | cons c first ih => exact ih h.2

/-- The end of a text without pipes has none. -/
theorem NoPipe.of_append (h : NoPipe (first ++ second)) : NoPipe second := by
  induction first with
  | nil => exact h
  | cons c first ih => exact ih h.2

/-- Two texts without pipes have none together: the last bar of the first is no pipe either, so
it is not its last character. -/
theorem NoPipe.append (hfirst : NoPipe first) (hsecond : NoPipe second) :
    NoPipe (first ++ second) := by
  induction first with
  | nil => exact hsecond
  | cons c first ih =>
    refine ⟨fun hbar => ?_, ih hfirst.2⟩
    have heq : first.head? = some '=' := hfirst.1 hbar
    change (first ++ second).head? = some '='
    rw [List.head?_append, heq]
    rfl

/-- Trimming the start of a text makes no pipes. -/
theorem NoPipe.trimStart (h : NoPipe first) : NoPipe (trimStart first) := by
  obtain ⟨blanks, -, hsplit⟩ := exists_append_trimStart first
  rw [hsplit] at h
  exact h.of_append

/-- Blanks are no pipes. -/
theorem noPipe_of_isBlankText (h : IsBlankText first) : NoPipe first := by
  induction first with
  | nil => trivial
  | cons c first ih =>
    have hc := h c List.mem_cons_self
    refine ⟨?_, ih fun d hd => h d (List.mem_cons_of_mem c hd)⟩
    rintro rfl
    cases hc

end NoPipe

/-! ### The cut at the pipes -/

section Cut

variable {raw first more next : List Char} {rest : List (List Char)}

/-- Every text is cut at its pipes. -/
theorem exists_cutAtPipes (raw : List Char) : ∃ first rest, CutAtPipes raw first rest := by
  induction raw with
  | nil => exact ⟨[], [], .whole trivial⟩
  | cons c raw ih =>
    obtain ⟨first, rest, hcut⟩ := ih
    by_cases hpipe : c = '|' ∧ raw.head? ≠ some '='
    · obtain ⟨rfl, hne⟩ := hpipe
      have hempty : CutAtPipes ([] ++ '|' :: raw) [] (first :: rest) := .pipe trivial hne hcut
      exact ⟨[], first :: rest, hempty⟩
    · -- the character belongs to the first piece; if it is a bar, so does the sign after it
      refine ⟨c :: first, rest, ?_⟩
      have hbar (hc : c = '|') : raw.head? = some '=' := by simpa [hc] using hpipe
      cases hcut with
      | whole hfirst => exact .whole ⟨hbar, hfirst⟩
      | @pipe _ more next rest hfirst hne hmore =>
        have hpiece : NoPipe (c :: first) := by
          refine ⟨fun hc => ?_, hfirst⟩
          have heq := hbar hc
          cases first with
          | nil => simp at heq
          | cons d first => simpa using heq
        exact .pipe hpiece hne hmore

/-- No text is cut in two ways. -/
theorem CutAtPipes.unique {first' : List Char} {rest' : List (List Char)}
    (h : CutAtPipes raw first rest) (h' : CutAtPipes raw first' rest') :
    first' = first ∧ rest' = rest := by
  induction h generalizing first' rest' with
  | whole hfirst =>
    cases h' with
    | whole => exact ⟨rfl, rfl⟩
    | pipe _ hne _ => exact absurd hfirst.head?_eq hne
  | @pipe first more next rest hfirst hne _ ih =>
    generalize hraw : first ++ '|' :: more = raw at h'
    cases h' with
    | whole hfirst' =>
      subst hraw
      exact absurd hfirst'.head?_eq hne
    | @pipe _ more' _ _ hfirst' hne' hmore' =>
      -- of two first pipes neither stands before the other
      rcases List.append_eq_append_iff.1 hraw with ⟨between, rfl, hrest⟩ | ⟨between, rfl, hrest⟩
      · cases between with
        | nil =>
          obtain rfl : more = more' := by simpa using hrest
          obtain ⟨rfl, rfl⟩ := ih hmore'
          simp
        | cons c between =>
          obtain ⟨rfl, rfl⟩ : '|' = c ∧ more = between ++ '|' :: more' := by simpa using hrest
          have heq : between.head? = some '=' := hfirst'.head?_eq
          exact absurd (by rw [List.head?_append, heq]; rfl) hne
      · cases between with
        | nil =>
          obtain rfl : more' = more := by simpa using hrest
          obtain ⟨rfl, rfl⟩ := ih hmore'
          simp
        | cons c between =>
          obtain ⟨rfl, rfl⟩ : '|' = c ∧ more' = between ++ '|' :: more := by simpa using hrest
          have heq : between.head? = some '=' := hfirst.head?_eq
          exact absurd (by rw [List.head?_append, heq]; rfl) hne'

/-- Skipping blanks first is trimming the start of the text. -/
theorem cutPipes_true (cs : List Char) : cutPipes true cs = cutPipes false (trimStart cs) := by
  induction cs with
  | nil => rfl
  | cons c cs ih =>
    by_cases hc : isBlank c
    · rw [cutPipes, if_pos (by simpa using hc), ih]
      simp [trimStart, hc]
    · simp [cutPipes, trimStart, hc]

/-- A text without pipes is one piece. -/
theorem cutPipes_of_noPipe (h : NoPipe first) : cutPipes false first = [first] := by
  induction first with
  | nil => rfl
  | cons c first ih =>
    have hpipe : ¬(c = '|' ∧ first.head? ≠ some '=') := fun hc => hc.2 (h.1 hc.1)
    rw [cutPipes, Bool.false_and, if_neg Bool.false_ne_true, if_neg hpipe, ih h.2]

/-- A piece ends at a pipe, and the blanks after the pipe are skipped. -/
theorem cutPipes_pipe (h : NoPipe first) (hne : more.head? ≠ some '=') :
    cutPipes false (first ++ '|' :: more) = first :: cutPipes true more := by
  induction first with
  | nil => rw [List.nil_append, cutPipes, Bool.false_and, if_neg Bool.false_ne_true,
      if_pos ⟨rfl, hne⟩]
  | cons c first ih =>
    -- a bar in the piece has its equals sign there too
    have hpipe : ¬(c = '|' ∧ (first ++ '|' :: more).head? ≠ some '=') := by
      rintro ⟨hc, hhead⟩
      have heq : first.head? = some '=' := h.1 hc
      rw [List.head?_append, heq] at hhead
      exact hhead rfl
    rw [List.cons_append, cutPipes, Bool.false_and, if_neg Bool.false_ne_true, if_neg hpipe,
      ih h.2]

/-- The pieces without the blanks after each pipe, and without those at the beginning where they
are skipped. -/
theorem CutAtPipes.cutPipes_eq (h : CutAtPipes raw first rest) (skipping : Bool) :
    cutPipes skipping raw =
      (if skipping then trimStart first else first) :: rest.map trimStart := by
  induction h generalizing skipping with
  | @whole first hfirst =>
    cases skipping with
    | false => exact cutPipes_of_noPipe hfirst
    | true => rw [cutPipes_true, cutPipes_of_noPipe hfirst.trimStart]; rfl
  | @pipe first more next rest hfirst hne _ ih =>
    have hmore : cutPipes true more = (next :: rest).map trimStart := ih true
    cases skipping with
    | false => rw [cutPipes_pipe hfirst hne, hmore]; rfl
    | true =>
      have hskip : trimStart (first ++ '|' :: more) = trimStart first ++ '|' :: more :=
        trimStart_append_of_trimStart rfl first
      rw [cutPipes_true, hskip, cutPipes_pipe hfirst.trimStart hne, hmore]
      rfl

/-- The leading segment, given the pieces: blanks at its end are left out before a pipe. -/
def leadingOf (first : List Char) (rest : List (List Char)) : List Char :=
  if rest = [] then first else trimEnd first

/-- The segments of a text are its leading segment and the pieces after its pipes, trimmed. -/
theorem CutAtPipes.segments_eq (h : CutAtPipes raw first rest) :
    segments raw = leadingOf first rest :: trimAllButLast (rest.map trimStart) := by
  have hcut : cutPipes false raw = first :: rest.map trimStart := h.cutPipes_eq false
  rw [segments, hcut, leadingOf]
  cases rest <;> rfl

/-- All segments but the last one are trimmed at their ends. -/
theorem getElem?_trimAllButLast (parts : List (List Char)) (i : Nat) :
    (trimAllButLast parts)[i]? =
      parts[i]?.map fun part => if i + 1 = parts.length then part else trimEnd part := by
  induction parts generalizing i with
  | nil => rfl
  | cons part rest ih =>
    cases rest with
    | nil => cases i <;> simp [trimAllButLast]
    | cons next rest =>
      change (trimEnd part :: trimAllButLast (next :: rest))[i]? = _
      cases i with
      | zero => simp
      | succ i => simpa using ih i

end Cut

/-! ### Leading segments -/

/-- No blank is a character of names. -/
theorem isNameChar_of_isBlank {c : Char} (h : isBlank c) : isNameChar c = false := by
  have hword : Unicode.isWord c = false := Unicode.isWord_of_isBlank h
  have hdash : c ≠ '-' := by
    rintro rfl
    cases h
  have hcolon : c ≠ ':' := by
    rintro rfl
    cases h
  simp [isNameChar, hword, hdash, hcolon]

/-- No character of names is blank. -/
theorem isBlank_of_isNameChar {c : Char} (h : isNameChar c) : isBlank c = false := by
  rw [← Bool.not_eq_true]
  intro hblank
  rw [isNameChar_of_isBlank hblank] at h
  cases h

/-- A name has no pipes. -/
theorem noPipe_of_isNameChar {name : List Char} (h : ∀ c ∈ name, isNameChar c) : NoPipe name := by
  have hbar : isNameChar '|' = false := by decide
  induction name with
  | nil => trivial
  | cons c name ih =>
    rw [List.forall_mem_cons] at h
    refine ⟨?_, ih h.2⟩
    rintro rfl
    rw [h.1] at hbar
    cases hbar

/-- A name has no blanks at its start. -/
theorem trimStart_of_isNameChar {name : List Char} (h : ∀ c ∈ name, isNameChar c) :
    trimStart name = name := by
  cases name with
  | nil => rfl
  | cons c name =>
    have hc : isBlank c = false := isBlank_of_isNameChar (h c List.mem_cons_self)
    simp [trimStart, hc]

/-- A query alone is read, trimmed. -/
theorem readLeading_of_not_mem {query : List Char} (h : '@' ∉ query) :
    readLeading query = some (trim query, none) := by
  have hpass : ∀ c ∈ query, decide (c ≠ '@') = true := fun c hc => by
    simpa using fun heq : c = '@' => h (heq ▸ hc)
  have htake : query.takeWhile (· ≠ '@') = query := List.takeWhile_eq_self_iff.2 hpass
  have hdrop : query.dropWhile (· ≠ '@') = [] := List.dropWhile_eq_nil_iff.2 hpass
  simp only [readLeading, htake, hdrop]

/-- After an at sign there has to be a name, apart from blanks before it. -/
theorem readLeading_append {query : List Char} (h : '@' ∉ query) (rest : List Char) :
    readLeading (query ++ '@' :: rest) =
      if trimStart rest ≠ [] ∧ ∀ c ∈ trimStart rest, isNameChar c then
        some (trim query, some (trimStart rest))
      else none := by
  have hpass : ∀ c ∈ query, decide (c ≠ '@') = true := fun c hc => by
    simpa using fun heq : c = '@' => h (heq ▸ hc)
  have htake : (query ++ '@' :: rest).takeWhile (· ≠ '@') = query := by
    rw [List.takeWhile_append_of_pos hpass]
    simp
  have hdrop : (query ++ '@' :: rest).dropWhile (· ≠ '@') = '@' :: rest := by
    rw [List.dropWhile_append_of_pos hpass]
    simp
  simp only [readLeading, htake, hdrop, Bool.and_eq_true, Bool.not_eq_true', List.all_eq_true,
    List.isEmpty_eq_false_iff]

/-- Exactly the leading segments are read, their queries trimmed. -/
theorem readLeading_eq_some_iff {leading query : List Char} {attr : Option (List Char)} :
    readLeading leading = some (query, attr) ↔
      ∃ written, IsLeading leading written attr ∧ query = trim written := by
  constructor
  · intro h
    by_cases hat : '@' ∈ leading
    · obtain ⟨written, rest, rfl, hwritten⟩ := List.eq_append_cons_of_mem hat
      rw [readLeading_append hwritten] at h
      split at h
      next hname =>
        cases h
        -- blanks may stand between the at sign and the name
        obtain ⟨blanks, hblanks, hrest⟩ := exists_append_trimStart rest
        refine ⟨written, ?_, rfl⟩
        rw [hrest, trimStart_append hblanks, trimStart_trimStart]
        exact .attr hwritten hblanks hname.1 hname.2
      next => cases h
    · rw [readLeading_of_not_mem hat] at h
      cases h
      exact ⟨leading, .query hat, rfl⟩
  · rintro ⟨written, hleading, rfl⟩
    cases hleading with
    | query hquery => exact readLeading_of_not_mem hquery
    | @attr _ blanks name hquery hblanks hne hall =>
      have hname : trimStart (blanks ++ name) = name := by
        rw [trimStart_append hblanks, trimStart_of_isNameChar hall]
      rw [readLeading_append hquery, hname, if_pos ⟨hne, hall⟩]

/-! ### Reading and writing -/

/-- What is read of a leading segment and of the texts after it. -/
theorem read_of_segments {raw leading : List Char} {rest : List (List Char)}
    (h : segments raw = leading :: rest) :
    read raw =
      match if leading = [] then none else readLeading leading with
      | some (query, attr) =>
        ⟨some (.ofList query), attr.map String.ofList, rest.map String.ofList⟩
      | none => ⟨none, none, rest.map String.ofList⟩ := by
  rw [read, h]
  cases leading <;> rfl

/-- A text without pipes has no transforms. -/
theorem transforms_read_of_noPipe {raw : List Char} (h : NoPipe raw) :
    (read raw).transforms = [] := by
  have hsegments : segments raw = [raw] := (CutAtPipes.whole h).segments_eq
  rw [read_of_segments hsegments]
  split <;> rfl

section Joined

variable {leading raw : List Char} {specs : List (List Char)}

/-- What is put together by pipes is cut there again, with blanks around the pieces. -/
theorem JoinedByPipes.exists_cut (h : JoinedByPipes leading specs raw)
    (hparts : ∀ part ∈ leading :: specs, NoPipe part ∧ IsTrimmed part) :
    ∃ blanks rest, IsBlankText blanks ∧ CutAtPipes raw (leading ++ blanks) rest ∧
      (rest = [] → blanks = []) ∧ trimAllButLast (rest.map trimStart) = specs := by
  induction h with
  | leading leading =>
    have hnone : NoPipe leading := (hparts leading List.mem_cons_self).1
    refine ⟨[], [], fun c hc => absurd hc List.not_mem_nil, ?_, fun _ => rfl, rfl⟩
    rw [List.append_nil]
    exact .whole hnone
  | @pipe leading before after spec more specs hbefore hafter hne _ ih =>
    rw [List.forall_mem_cons] at hparts
    obtain ⟨blanks, rest, hblanks, hcut, hlast, htrim⟩ := ih hparts.2
    have hspec : IsTrimmed spec := (hparts.2 spec List.mem_cons_self).2
    -- the piece of the transform has the blanks after its pipe and those before the next one
    have hmore : CutAtPipes (after ++ more) (after ++ (spec ++ blanks)) rest := by
      have hpiece : NoPipe (after ++ (spec ++ blanks)) :=
        (noPipe_of_isBlankText hafter).append
          ((hparts.2 spec List.mem_cons_self).1.append (noPipe_of_isBlankText hblanks))
      cases hcut with
      | whole => exact .whole hpiece
      | pipe _ hne' hrest => simpa using CutAtPipes.pipe hpiece hne' hrest
    have hfirst : NoPipe (leading ++ before) :=
      hparts.1.1.append (noPipe_of_isBlankText hbefore)
    refine ⟨before, (after ++ (spec ++ blanks)) :: rest, hbefore, ?_,
      fun hnil => absurd hnil (List.cons_ne_nil _ _), ?_⟩
    · simpa using CutAtPipes.pipe hfirst hne hmore
    · cases rest with
      | nil =>
        obtain rfl : blanks = [] := hlast rfl
        obtain rfl : specs = [] := htrim.symm
        have : trimStart (after ++ (spec ++ [])) = spec := by
          rw [List.append_nil, trimStart_append hafter, hspec.trimStart_eq]
        rw [List.map_cons, this]
        rfl
      | cons next rest =>
        have : trimEnd (trimStart (after ++ (spec ++ blanks))) = spec :=
          (trim_append_append hafter hblanks spec).trans hspec
        rw [← htrim]
        exact congrArg (· :: _) this

/-- What is put together by pipes is read apart again. -/
theorem read_of_joined (h : JoinedByPipes leading specs raw)
    (hparts : ∀ part ∈ leading :: specs, NoPipe part ∧ IsTrimmed part) :
    read raw = { read leading with transforms := specs.map String.ofList } := by
  obtain ⟨hnone, htrimmed⟩ := hparts leading List.mem_cons_self
  have hraw : segments raw = leading :: specs := by
    obtain ⟨blanks, rest, hblanks, hcut, hlast, htrim⟩ := h.exists_cut hparts
    rw [hcut.segments_eq, htrim, leadingOf]
    split
    next hnil => rw [hlast hnil, List.append_nil]
    next => rw [trimEnd_append hblanks, htrimmed.trimEnd_eq]
  have hleading : segments leading = [leading] := (CutAtPipes.whole hnone).segments_eq
  rw [read_of_segments hraw, read_of_segments hleading]
  split <;> rfl

end Joined

/-- A selector string from a query, an attribute and transforms. -/
def write (query : String) (attr : Option String) (specs : List String) : String :=
  query ++ attr.elim "" ("@" ++ ·) ++ String.join (specs.map (" | " ++ ·))

/-- Parts that a selector string can be written from. -/
structure IsWritable (query : String) (attr : Option String) (specs : List String) : Prop where
  /-- There is a query. -/
  query_ne : query ≠ ""
  /-- The query has no blanks at its ends. -/
  query_trimmed : IsTrimmed query.toList
  /-- The query has no at sign. -/
  query_noAt : '@' ∉ query.toList
  /-- The query has no pipes. -/
  query_noPipe : NoPipe query.toList
  /-- The attribute is a name. -/
  attr_name : ∀ name ∈ attr, name ≠ "" ∧ ∀ c ∈ name.toList, isNameChar c
  /-- The transforms have no blanks at their ends. -/
  specs_trimmed : ∀ spec ∈ specs, IsTrimmed spec.toList
  /-- The transforms have no pipes. -/
  specs_noPipe : ∀ spec ∈ specs, NoPipe spec.toList

namespace IsWritable

variable {query : String} {attr : Option String} {specs : List String}

/-- What is written is put together by pipes. -/
theorem joinedByPipes (leading : String) (specs : List String) :
    JoinedByPipes leading.toList (specs.map String.toList)
      (leading ++ String.join (specs.map (" | " ++ ·))).toList := by
  have hspace : IsBlankText [' '] := by decide
  induction specs generalizing leading with
  | nil => simpa using JoinedByPipes.leading leading.toList
  | cons spec rest ih => simpa using JoinedByPipes.pipe hspace hspace (by simp) (ih spec)

/-- A query with its attribute is a leading segment. -/
theorem isLeading (h : IsWritable query attr specs) :
    IsLeading (query ++ attr.elim "" ("@" ++ ·)).toList query.toList (attr.map String.toList) := by
  cases attr with
  | none => simpa using IsLeading.query h.query_noAt
  | some name =>
    obtain ⟨hne, hname⟩ := h.attr_name name rfl
    have hnoBlanks : IsBlankText [] := fun c hc => absurd hc List.not_mem_nil
    simpa using IsLeading.attr h.query_noAt hnoBlanks (by simpa using hne) hname

/-- A query with its attribute has no pipes and no blanks at its ends. -/
theorem leading_clean (h : IsWritable query attr specs) :
    NoPipe (query ++ attr.elim "" ("@" ++ ·)).toList ∧
      IsTrimmed (query ++ attr.elim "" ("@" ++ ·)).toList := by
  cases attr with
  | none => simpa using ⟨h.query_noPipe, h.query_trimmed⟩
  | some name =>
    obtain ⟨-, hname⟩ := h.attr_name name rfl
    have hpipe : NoPipe ('@' :: name.toList) :=
      ⟨fun hbar => absurd hbar (by decide), noPipe_of_isNameChar hname⟩
    have htrimmed : IsTrimmed ('@' :: name.toList) := by
      refine .of_forall fun c hc => ?_
      rcases List.mem_cons.1 hc with rfl | hc
      · decide
      · exact isBlank_of_isNameChar (hname c hc)
    have hne : query.toList ≠ [] := by simpa using h.query_ne
    simpa using And.intro (h.query_noPipe.append hpipe)
      (h.query_trimmed.append htrimmed hne (List.cons_ne_nil _ _))

/-- What is written is read as the parts it is written from. -/
theorem read_write (h : IsWritable query attr specs) :
    ofText (write query attr specs) = ⟨some query, attr, specs⟩ := by
  set leading : String := query ++ attr.elim "" ("@" ++ ·) with hleading
  obtain ⟨hnone, htrimmed⟩ := h.leading_clean
  have hparts : ∀ part ∈ leading.toList :: specs.map String.toList,
      NoPipe part ∧ IsTrimmed part := by
    refine List.forall_mem_cons.2 ⟨⟨hnone, htrimmed⟩, fun part hpart => ?_⟩
    obtain ⟨spec, hspec, rfl⟩ := List.mem_map.1 hpart
    exact ⟨h.specs_noPipe spec hspec, h.specs_trimmed spec hspec⟩
  have hne : leading.toList ≠ [] := by
    simp [hleading, h.query_ne]
  have hquery : trim query.toList = query.toList := h.query_trimmed
  have hsegments : segments leading.toList = [leading.toList] :=
    (CutAtPipes.whole hnone).segments_eq
  have hread : readLeading leading.toList = some (query.toList, attr.map String.toList) :=
    readLeading_eq_some_iff.2 ⟨query.toList, h.isLeading, hquery.symm⟩
  rw [ofText, write, read_of_joined (joinedByPipes leading specs) hparts,
    read_of_segments hsegments, if_neg hne, hread]
  simp [Function.comp_def]

end IsWritable

/-- The transforms of a selector string, given the pieces after its pipes: blanks at the start are
left out of each, and blanks at the end of each but the last. -/
theorem transforms_eq {raw : String} {first : List Char} {rest : List (List Char)}
    (h : CutAtPipes raw.toList first rest) :
    (ofText raw).transforms = rest.mapIdx fun i text =>
      .ofList (if i + 1 = rest.length then trimStart text else trim text) := by
  have hread : (ofText raw).transforms =
      (trimAllButLast (rest.map trimStart)).map String.ofList := by
    rw [ofText, read_of_segments h.segments_eq]
    split <;> rfl
  rw [hread]
  refine List.ext_getElem? fun i => ?_
  rw [List.getElem?_map, getElem?_trimAllButLast, List.getElem?_mapIdx, List.getElem?_map,
    List.length_map]
  cases rest[i]? with
  | none => rfl
  | some text => simp only [Option.map_some]; split <;> rfl

/-- The query and the attribute of a selector string, given its pieces. -/
theorem query?_eq_some_iff {raw : String} {first : List Char} {rest : List (List Char)}
    (h : CutAtPipes raw.toList first rest) (s : String) (a : Option String) :
    ((ofText raw).query? = some s ∧ (ofText raw).attr = a) ↔
      ∃ query name, leadingOf first rest ≠ [] ∧ IsLeading (leadingOf first rest) query name ∧
        s = .ofList (trim query) ∧ a = name.map String.ofList := by
  rw [ofText, read_of_segments h.segments_eq]
  by_cases hnil : leadingOf first rest = []
  · simp [hnil]
  · rw [if_neg hnil]
    constructor
    · intro hread
      cases hleading : readLeading (leadingOf first rest) with
      | none => simp [hleading] at hread
      | some parts =>
        obtain ⟨query, name⟩ := parts
        obtain ⟨written, hwritten, rfl⟩ := readLeading_eq_some_iff.1 hleading
        simp only [hleading, Option.some.injEq] at hread
        exact ⟨written, name, hnil, hwritten, hread.1.symm, hread.2.symm⟩
    · rintro ⟨query, name, -, hleading, rfl, rfl⟩
      rw [readLeading_eq_some_iff.2 ⟨query, hleading, rfl⟩]
      exact ⟨rfl, rfl⟩

/-- Without a query there is no attribute. -/
theorem attr_eq_none (raw : String) (h : (ofText raw).query? = none) :
    (ofText raw).attr = none := by
  obtain ⟨first, rest, hcut⟩ := exists_cutAtPipes raw.toList
  rw [ofText, read_of_segments hcut.segments_eq] at h ⊢
  split at h
  next => cases h
  next => simp only

/-- **The grammar of selector strings.** Every text is cut at its pipes in exactly one way. It has
a query and perhaps an attribute exactly when the piece before the first pipe is a leading segment,
without the blanks at its end if there is a pipe; otherwise it has neither. Its transforms are the
pieces after its pipes, trimmed at the start and all but the last one at the end. What is written
from a query, an attribute and transforms is read as just these parts. -/
theorem ofText_grammar :
    (∀ raw : String, ∃ first rest,
      (∀ first' rest', CutAtPipes raw.toList first' rest' ↔ first' = first ∧ rest' = rest) ∧
      (∀ s a, ((ofText raw).query? = some s ∧ (ofText raw).attr = a) ↔
        ∃ query name, leadingOf first rest ≠ [] ∧ IsLeading (leadingOf first rest) query name ∧
          s = .ofList (trim query) ∧ a = name.map String.ofList) ∧
      ((ofText raw).query? = none → (ofText raw).attr = none) ∧
      (ofText raw).transforms = rest.mapIdx fun i text =>
        .ofList (if i + 1 = rest.length then trimStart text else trim text)) ∧
    ∀ query attr specs, IsWritable query attr specs →
      ofText (write query attr specs) = ⟨some query, attr, specs⟩ := by
  refine ⟨fun raw => ?_, fun query attr specs h => h.read_write⟩
  obtain ⟨first, rest, hcut⟩ := exists_cutAtPipes raw.toList
  refine ⟨first, rest, fun first' rest' => ⟨hcut.unique, ?_⟩, query?_eq_some_iff hcut,
    attr_eq_none raw, transforms_eq hcut⟩
  rintro ⟨rfl, rfl⟩
  exact hcut

/-- A query with a bar that is no pipe, a name with a colon and a transform with a space and a bar
that is no pipe are written and read again. -/
theorem ofText_grammar_written :
    write "a[lang|=en]" (some "xml:base") ["trim", "replace:a |= b", ""] =
        "a[lang|=en]@xml:base | trim | replace:a |= b | " ∧
      ofText "a[lang|=en]@xml:base | trim | replace:a |= b | " =
        ⟨some "a[lang|=en]", some "xml:base", ["trim", "replace:a |= b", ""]⟩ := by
  have h : IsWritable "a[lang|=en]" (some "xml:base") ["trim", "replace:a |= b", ""] := by
    refine ⟨by decide, by decide, by decide, by decide, ?_, by decide, by decide⟩
    rintro name ⟨⟩
    exact ⟨by decide, List.all_eq_true.1 (by decide)⟩
  have hwrite : write "a[lang|=en]" (some "xml:base") ["trim", "replace:a |= b", ""] =
      "a[lang|=en]@xml:base | trim | replace:a |= b | " := by decide
  exact ⟨hwrite, hwrite ▸ ofText_grammar.2 _ _ _ h⟩

end Gleaner.Selector
