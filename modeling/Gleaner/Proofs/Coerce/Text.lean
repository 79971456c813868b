import Gleaner.Coerce.Scalar
import Gleaner.Proofs.Number.Display

/-!
# Patterns that are reported

A text can be cut down to the first match of a pattern. A pattern that cannot be read is an error,
but only once there is a text to look at: a value that is no text, number or boolean gives way to
the default first, and so does the empty text where it has a default of its own. So the same options
are rejected for one value and not for another.

## Main definitions

* `Coerce.Consults`: the values whose text is looked at with the pattern.

## Main results

* `Coerce.text_of_consults`, `Coerce.text_of_not_consults`: the two ways to a text.
* `Coerce.text_eq_error_iff`, `Coerce.text_rejects_iff`: when a pattern is reported.
-/

namespace Gleaner.Coerce

variable {o : TextOptions} {raw : Value} {pattern s : String} {e : ResolveError}

/-- The values whose text is looked at with the pattern: numbers, booleans and texts, but the empty
text only if nothing stands in for it. -/
inductive Consults (o : TextOptions) : Value → Prop
  | number (x : Double) : Consults o (.number x)
  | bool (b : Bool) : Consults o (.bool b)
  | text {s : String} (hs : s ≠ "") : Consults o (.string s)
  | empty (hempty : ∀ fallback, o.ifEmpty = some fallback → fallback = "") : Consults o (.string "")

/-- No number and no boolean has an empty text. -/
theorem ne_empty_of_plainText? (h : plainText? raw = some s) (hraw : raw.text? = none) :
    s ≠ "" := by
  rw [Ne, ← String.toList_inj]
  cases raw with
  | null | date | array | object => cases h
  | string => cases hraw
  | number x =>
    rw [← Option.some.inj h, Value.display, String.toList_ofList]
    exact x.display_ne_nil
  | bool b =>
    rw [← Option.some.inj h, Value.display, String.toList_ofList]
    cases b <;> exact List.cons_ne_nil _ _

/-- A text that is looked at is compared with the pattern, where there is one. -/
theorem text_of_consults (h : Consults o raw) :
    ∃ s, plainText? raw = some s ∧ text o raw =
      match o.pattern with
      | none => .ok (.string s)
      | some pattern => keepMatch o pattern s := by
  -- what is left to show is that nothing stands in for the text
  have hmatch {s : String} (hs : plainText? raw = some s)
      (hstandin : s = "" → o.ifEmpty.filter (!·.isEmpty) = none) :
      ∃ s, plainText? raw = some s ∧ text o raw =
        match o.pattern with
        | none => .ok (.string s)
        | some pattern => keepMatch o pattern s := by
    have hnone : (if s.isEmpty then o.ifEmpty.filter (!·.isEmpty) else none) = none := by
      split
      next hempty => exact hstandin (String.isEmpty_iff.1 hempty)
      next => rfl
    refine ⟨s, hs, ?_⟩
    cases hpattern : o.pattern <;> simp only [text, hs, hnone, hpattern]
  cases h with
  | number x =>
    have hs : plainText? (.number x) = some (Value.number x).display := rfl
    exact hmatch hs fun hempty => absurd hempty (ne_empty_of_plainText? hs rfl)
  | bool b =>
    have hs : plainText? (.bool b) = some (Value.bool b).display := rfl
    exact hmatch hs fun hempty => absurd hempty (ne_empty_of_plainText? hs rfl)
  | text hs => exact hmatch rfl fun hempty => absurd hempty hs
  | empty hempty =>
    refine hmatch rfl fun _ => ?_
    cases hfallback : o.ifEmpty with
    | none => rfl
    | some fallback =>
      rw [hempty fallback hfallback]
      rfl

/-- Cutting down a text fails where the pattern cannot be read, whatever the text. -/
theorem keepMatch_eq_error_iff :
    keepMatch o pattern s = .error e ↔
      Regex.compile? pattern.toList = none ∧ e = .invalidPattern pattern := by
  unfold keepMatch
  cases Regex.compile? pattern.toList with
  | none => simp [eq_comm]
  | some r => cases hfind : r.pattern.find? s.toList <;> simp [hfind]

/-- A value whose text is not looked at gives way to a default, whatever the pattern: the empty text
to its own and every other value to that of a missing value. -/
theorem text_of_not_consults (h : ¬Consults o raw) :
    text o raw = .ok (.ofText? (if raw.text? = some "" then o.ifEmpty else o.fallback)) := by
  cases raw with
  | null | date | array | object => rfl
  | number x => exact absurd (.number x) h
  | bool b => exact absurd (.bool b) h
  | string s =>
    by_cases hs : s = ""
    · subst hs
      cases hempty : o.ifEmpty with
      | none => exact absurd (.empty fun fallback hsome => by simp [hempty] at hsome) h
      | some fallback =>
        have hfallback : fallback ≠ "" := by
          rintro rfl
          exact h (.empty fun fallback hsome => by simpa [hempty, eq_comm] using hsome)
        have hstandin : (some fallback).filter (!·.isEmpty) = some fallback := by
          rw [Option.filter_some, if_pos (by simpa using hfallback)]
        rw [text, plainText?]
        dsimp only
        rw [hempty, if_pos (String.isEmpty_iff.2 rfl), hstandin]
        rfl
    · exact absurd (.text hs) h

/-- A pattern that cannot be read is the only error, and it is one for exactly the values whose text
is looked at. -/
theorem text_eq_error_iff :
    text o raw = .error e ↔
      Consults o raw ∧ ∃ pattern, o.pattern = some pattern ∧
        Regex.compile? pattern.toList = none ∧ e = .invalidPattern pattern := by
  by_cases h : Consults o raw
  · obtain ⟨s, -, htext⟩ := text_of_consults h
    rw [htext, and_iff_right h]
    cases hpattern : o.pattern with
    | none => simp
    | some pattern =>
      dsimp only
      rw [keepMatch_eq_error_iff]
      simp
  · rw [text_of_not_consults h]
    simp [h]

/-- **When a bad pattern is reported.** A pattern that cannot be read is rejected for exactly the
values whose text is looked at. All other values give way to a default. Under any options there are
values of both sorts, so whether the pattern is rejected depends on the value. -/
theorem text_rejects_iff (hpattern : o.pattern = some pattern)
    (hbad : Regex.compile? pattern.toList = none) :
    (∀ raw, text o raw = .error (.invalidPattern pattern) ↔ Consults o raw) ∧
      (∀ raw, ¬Consults o raw →
        text o raw = .ok (.ofText? (if raw.text? = some "" then o.ifEmpty else o.fallback))) ∧
      (∃ raw, text o raw = .error (.invalidPattern pattern)) ∧
      text o .null = .ok (.ofText? o.fallback) := by
  have hrejects (raw : Value) :
      text o raw = .error (.invalidPattern pattern) ↔ Consults o raw := by
    rw [text_eq_error_iff]
    exact and_iff_left ⟨pattern, hpattern, hbad, rfl⟩
  exact ⟨hrejects, fun raw => text_of_not_consults, ⟨_, (hrejects _).2 (.bool true)⟩, rfl⟩

/-- A pattern with an open bracket. -/
def openBracket : TextOptions := { pattern := some "(" }

/-- An open bracket is no pattern, and so it is rejected for a text. -/
theorem text_rejects_iff_openBracket :
    openBracket.pattern = some "(" ∧ Regex.compile? "(".toList = none ∧
      text openBracket (.string "x") = .error (.invalidPattern "(") := by
  have hbad : Regex.compile? "(".toList = none := by decide
  exact ⟨rfl, hbad, ((text_rejects_iff rfl hbad).1 (.string "x")).2 (.text (by decide))⟩

/-- The same pattern goes unnoticed where there is no value. -/
theorem text_openBracket_null :
    Regex.compile? "(".toList = none ∧ text openBracket .null = .ok .null ∧
      ¬∀ (o : TextOptions) (pattern : String) (raw : Value), o.pattern = some pattern →
        Regex.compile? pattern.toList = none → text o raw = .error (.invalidPattern pattern) := by
  have hbad : Regex.compile? "(".toList = none := by decide
  refine ⟨hbad, rfl, fun h => ?_⟩
  have hnull := h openBracket "(" .null rfl hbad
  cases hnull

end Gleaner.Coerce
