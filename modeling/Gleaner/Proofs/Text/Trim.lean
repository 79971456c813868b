import Gleaner.Text.Blank
import Mathlib.Data.List.TakeWhile

/-!
# Trimmed texts

A text is trimmed when it has no blanks at its ends. Blanks that are put around a trimmed text are
just what trimming takes away again.

## Main definitions

* `IsBlankText`: blanks and nothing else.
* `IsTrimmed`: no blanks at the ends.

## Main results

* `trimStart_append`, `trimEnd_append`: blanks at an end are trimmed away.
* `trimStart_trimEnd`: the two ends may be trimmed in either order.
* `trim_append`, `trim_append_append`: blanks around a text do not change what trimming leaves of
  it.
* `trim_eq_nil_iff`: trimming leaves nothing of blanks, and only of blanks.
* `IsTrimmed.append_between`, `IsTrimmed.append`: trimmed texts are trimmed together, and with
  anything between them.
* `takeWhile_append_of_head`: characters of a kind end where another character follows.
-/

namespace Gleaner

/-- Blanks and nothing else. -/
def IsBlankText (cs : List Char) : Prop := ∀ c ∈ cs, isBlank c

instance (cs : List Char) : Decidable (IsBlankText cs) :=
  decidable_of_iff (cs.all isBlank) List.all_eq_true

/-- A text without blanks at its ends. -/
def IsTrimmed (cs : List Char) : Prop := trim cs = cs

instance (cs : List Char) : Decidable (IsTrimmed cs) :=
  inferInstanceAs (Decidable (trim cs = cs))

variable {cs blanks : List Char}

/-- Characters of a kind end where another character follows. -/
theorem takeWhile_append_of_head {p : Char → Bool} {rest : List Char} (h : ∀ c ∈ cs, p c)
    (hrest : ∀ c ∈ rest.head?, p c = false) :
    (cs ++ rest).takeWhile p = cs ∧ (cs ++ rest).dropWhile p = rest := by
  rw [List.takeWhile_append_of_pos h, List.dropWhile_append_of_pos h]
  cases rest with
  | nil => exact ⟨List.append_nil cs, rfl⟩
  | cons c rest =>
    have hc : ¬p c := by simp [hrest c rfl]
    rw [List.takeWhile_cons_of_neg hc, List.dropWhile_cons_of_neg hc]
    exact ⟨List.append_nil cs, rfl⟩

/-- Blanks in front of a text are trimmed away. -/
theorem trimStart_append (h : IsBlankText blanks) (cs : List Char) :
    trimStart (blanks ++ cs) = trimStart cs :=
  List.dropWhile_append_of_pos h

/-- Trimming the start of a text leaves the blanks after it, if it leaves anything. -/
theorem trimStart_append_blanks (h : IsBlankText blanks) (cs : List Char) :
    trimStart (cs ++ blanks) = if trimStart cs = [] then [] else trimStart cs ++ blanks := by
  have hnil : blanks.dropWhile isBlank = [] := List.dropWhile_eq_nil_iff.2 h
  by_cases hcs : cs.dropWhile isBlank = []
  · simp [trimStart, List.dropWhile_append, hnil, hcs]
  · simp [trimStart, List.dropWhile_append, hcs]

/-- Blanks after a text are trimmed away. -/
theorem trimEnd_append (h : IsBlankText blanks) (cs : List Char) :
    trimEnd (cs ++ blanks) = trimEnd cs := by
  induction cs with
  | nil => exact trimEnd_eq_nil_iff.2 h
  | cons c cs ih => rw [List.cons_append, trimEnd, trimEnd, ih]

/-- Trimming the end of a text leaves alone what is before something else. -/
theorem trimEnd_append_of_trimEnd_ne_nil {more : List Char} (h : trimEnd more ≠ [])
    (cs : List Char) : trimEnd (cs ++ more) = cs ++ trimEnd more := by
  induction cs with
  | nil => rfl
  | cons c cs ih =>
    rw [List.cons_append, trimEnd, ih]
    split
    next hnil => exact absurd (List.append_eq_nil_iff.1 hnil).2 h
    next => rfl

/-- Trimming the end of a text does not make it longer. -/
theorem length_trimEnd_le (cs : List Char) : (trimEnd cs).length ≤ cs.length := by
  induction cs with
  | nil => exact le_rfl
  | cons c cs ih =>
    rw [trimEnd]
    split
    · split <;> simp
    · exact Nat.succ_le_succ ih

/-- Trimming the start of a text leaves alone what follows it and begins with no blank. -/
theorem trimStart_append_of_trimStart {more : List Char} (h : trimStart more = more)
    (cs : List Char) : trimStart (cs ++ more) = trimStart cs ++ more := by
  induction cs with
  | nil => exact h
  | cons c cs ih =>
    by_cases hc : isBlank c
    · simpa [trimStart, hc] using ih
    · simp [trimStart, hc]

/-- A text is some blanks and what trimming its start leaves. -/
theorem exists_append_trimStart (cs : List Char) :
    ∃ blanks, IsBlankText blanks ∧ cs = blanks ++ trimStart cs :=
  ⟨cs.takeWhile isBlank, fun _ hc => List.mem_takeWhile_imp hc,
    List.takeWhile_append_dropWhile.symm⟩

/-- A text is what trimming its end leaves and some blanks. -/
theorem exists_append_trimEnd (cs : List Char) :
    ∃ blanks, IsBlankText blanks ∧ cs = trimEnd cs ++ blanks := by
  induction cs with
  | nil => exact ⟨[], by simp [IsBlankText], rfl⟩
  | cons c cs ih =>
    rw [trimEnd]
    split
    next hnil =>
      split
      next hc => exact ⟨c :: cs, trimEnd_eq_nil_iff.1 (by simp [trimEnd, hnil, hc]), rfl⟩
      next => exact ⟨cs, trimEnd_eq_nil_iff.1 hnil, rfl⟩
    next =>
      obtain ⟨blanks, hblanks, hcs⟩ := ih
      exact ⟨blanks, hblanks, congrArg (c :: ·) hcs⟩

/-- The two ends of a text may be trimmed in either order. -/
theorem trimStart_trimEnd (cs : List Char) : trimStart (trimEnd cs) = trim cs := by
  rw [trim]
  induction cs with
  | nil => rfl
  | cons c cs ih =>
    by_cases hc : isBlank c
    · -- the blank goes with the start, and with the end when nothing else is left
      have hskip : trimStart (c :: cs) = trimStart cs := by simp [trimStart, hc]
      rw [hskip, ← ih, trimEnd]
      split
      next hnil => rw [hnil, if_pos hc]
      next => simp [trimStart, hc]
    · have hkeep : trimStart (c :: cs) = c :: cs := by simp [trimStart, hc]
      rw [hkeep, trimEnd]
      split <;> simp [trimStart, hc]

/-- Blanks after a text do not change what trimming leaves of it. -/
theorem trim_append (h : IsBlankText blanks) (cs : List Char) : trim (cs ++ blanks) = trim cs := by
  rw [← trimStart_trimEnd, trimEnd_append h, trimStart_trimEnd]

/-- Nor do blanks around it. -/
theorem trim_append_append {before after : List Char} (hbefore : IsBlankText before)
    (hafter : IsBlankText after) (cs : List Char) : trim (before ++ (cs ++ after)) = trim cs := by
  rw [trim, trimStart_append hbefore, ← trim, trim_append hafter]

/-- Trimming leaves nothing of blanks, and only of blanks. -/
theorem trim_eq_nil_iff : trim cs = [] ↔ IsBlankText cs := by
  rw [trim, trimEnd_eq_nil_iff]
  refine ⟨fun h => ?_, fun h c hc => h c ((List.dropWhile_suffix isBlank).subset hc)⟩
  obtain ⟨blanks, hblanks, hcs⟩ := exists_append_trimStart cs
  rw [hcs]
  exact List.forall_mem_append.2 ⟨hblanks, h⟩

namespace IsTrimmed

/-- A trimmed text has no blanks at its start. -/
theorem trimStart_eq (h : IsTrimmed cs) : trimStart cs = cs := by
  rw [← h, trim, trimStart_trimEnd_of_trimStart (trimStart_trimStart cs)]

/-- A trimmed text has no blanks at its end. -/
theorem trimEnd_eq (h : IsTrimmed cs) : trimEnd cs = cs := by
  rw [← h, trim, trimEnd_trimEnd]

/-- A trimmed text does not end with blanks. -/
theorem eq_nil_of_append (h : IsTrimmed (cs ++ blanks)) (hblanks : IsBlankText blanks) :
    blanks = [] := by
  have hend := congrArg List.length h.trimEnd_eq
  rw [trimEnd_append hblanks, List.length_append] at hend
  have hle := length_trimEnd_le cs
  exact List.length_eq_zero_iff.1 (by omega)

/-- A text without blanks is trimmed. -/
theorem of_forall (h : ∀ c ∈ cs, isBlank c = false) : IsTrimmed cs := by
  have hstart : trimStart cs = cs := by
    cases cs with
    | nil => rfl
    | cons c cs => simp [trimStart, h c List.mem_cons_self]
  have hend : trimEnd cs = cs := by
    clear hstart
    induction cs with
    | nil => rfl
    | cons c cs ih =>
      rw [List.forall_mem_cons] at h
      rw [trimEnd, ih h.2]
      cases cs <;> simp [h.1]
  rw [IsTrimmed, trim, hstart, hend]

/-- What stands between two trimmed texts that are not empty is not trimmed. -/
theorem append_between {more : List Char} (hcs : IsTrimmed cs) (hmore : IsTrimmed more)
    (hne : cs ≠ []) (hne' : more ≠ []) (between : List Char) :
    IsTrimmed (cs ++ (between ++ more)) := by
  have hstart : trimStart (cs ++ (between ++ more)) = cs ++ (between ++ more) := by
    cases cs with
    | nil => exact absurd rfl hne
    | cons c cs =>
      have hc : isBlank c = false := by
        have hhead := List.head?_dropWhile_not isBlank (c :: cs)
        rw [show (c :: cs).dropWhile isBlank = c :: cs from hcs.trimStart_eq] at hhead
        simpa using hhead
      simp [trimStart, hc]
  have hend : trimEnd (cs ++ between ++ more) = cs ++ between ++ more := by
    have hmore' : trimEnd more ≠ [] := by rwa [hmore.trimEnd_eq]
    rw [trimEnd_append_of_trimEnd_ne_nil hmore', hmore.trimEnd_eq]
  rw [List.append_assoc] at hend
  rw [IsTrimmed, trim, hstart, hend]

/-- Two trimmed texts are trimmed together, if neither is empty. -/
theorem append {more : List Char} (hcs : IsTrimmed cs) (hmore : IsTrimmed more) (hne : cs ≠ [])
    (hne' : more ≠ []) : IsTrimmed (cs ++ more) :=
  append_between hcs hmore hne hne' []

end IsTrimmed

end Gleaner
