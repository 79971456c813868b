import Gleaner.Transform.Pipeline

/-!
# Pipelines and what a registry knows

A pipeline has a step for each transform that its registry knows, so that the others may be left
out of the list beforehand. A run takes the steps one after another up to the first that fails.

## Main definitions

* `Registry.knows`: the transforms that a registry has a function for.
* `Registry.OmitsUnknown`: a list of transforms and the list without some that are unknown.
* `Pipeline.taken`: the steps that a run takes.

## Main results

* `Pipeline.build_of_omitsUnknown`: unknown transforms make no difference to a pipeline.
* `Registry.omitsUnknown_filter`: all of them may be left out.
* `Pipeline.run_eq_error_iff`: a run fails with the error of its first failing step, the last one
  that it takes.
-/

namespace Gleaner

/-! ### Unknown transforms -/

namespace Registry

/-- Whether a registry knows a transform: one that is written it knows by its name, and one that is
a function of its own needs no registry. -/
def knows (r : Registry) : Transform → Bool
  | .named spec => r.contains (TransformSpec.ofText spec).name
  | .inline _ => true

/-- A list of transforms, and the list without some that are unknown. -/
inductive OmitsUnknown (r : Registry) : List Transform → List Transform → Prop
  /-- There is nothing to leave out. -/
  | nil : OmitsUnknown r [] []
  /-- A transform stays. -/
  | keep (t : Transform) {xs ys : List Transform} :
      OmitsUnknown r xs ys → OmitsUnknown r (t :: xs) (t :: ys)
  /-- A transform that is unknown is left out. -/
  | drop {t : Transform} {xs ys : List Transform} :
      r.knows t = false → OmitsUnknown r xs ys → OmitsUnknown r (t :: xs) ys

variable {r : Registry} {xs ys xs' ys' : List Transform}

/-- There may be nothing that is left out. -/
theorem OmitsUnknown.refl (r : Registry) (xs : List Transform) : r.OmitsUnknown xs xs := by
  induction xs with
  | nil => exact .nil
  | cons t xs ih => exact .keep t ih

/-- From two lists after one another transforms may be left out in both. -/
theorem OmitsUnknown.append (h : r.OmitsUnknown xs ys) (h' : r.OmitsUnknown xs' ys') :
    r.OmitsUnknown (xs ++ xs') (ys ++ ys') := by
  induction h with
  | nil => exact h'
  | keep t _ ih => exact .keep t ih
  | drop ht _ ih => exact .drop ht ih

/-- All unknown transforms of a list may be left out. -/
theorem omitsUnknown_filter (r : Registry) (xs : List Transform) :
    r.OmitsUnknown xs (xs.filter r.knows) := by
  induction xs with
  | nil => exact .nil
  | cons t xs ih =>
    by_cases ht : r.knows t
    · rw [List.filter_cons_of_pos ht]
      exact .keep t ih
    · rw [List.filter_cons_of_neg ht]
      exact .drop (Bool.eq_false_iff.2 ht) ih

end Registry

/-- A transform has no step exactly when it is unknown. -/
theorem Transform.bind?_eq_none_iff {r : Registry} {t : Transform} :
    t.bind? r = none ↔ r.knows t = false := by
  cases t with
  | named spec => simp [bind?, Registry.knows, Registry.contains]
  | inline f => simp [bind?, Registry.knows]

namespace Pipeline

/-- Unknown transforms make no difference to a pipeline. -/
theorem build_of_omitsUnknown {r : Registry} {xs ys : List Transform} (h : r.OmitsUnknown xs ys) :
    build ys r = build xs r := by
  induction h with
  | nil => rfl
  | keep t _ ih =>
    simp only [build, List.filterMap_cons] at ih ⊢
    rw [ih]
  | drop ht _ ih =>
    rw [ih, build, build, List.filterMap_cons_none (Transform.bind?_eq_none_iff.2 ht)]

/-! ### Runs -/

/-- The steps that a run takes: one after another, up to the first that fails. -/
def taken : Pipeline → Value → List Step
  | [], _ => []
  | step :: rest, v =>
    match step.run v with
    | .ok w => step :: taken rest w
    | .error _ => [step]

/-- A run fails when the steps before some step succeed and that step does not, whatever steps
come after it. None of these is taken. -/
theorem run_of_fails {before : Pipeline} {step : Step} {v w : Value} {e : TransformError}
    (hbefore : before.run v = .ok w) (hstep : step.run w = .error e) (after : Pipeline) :
    Pipeline.run (before ++ step :: after) v = .error e ∧
      Pipeline.taken (before ++ step :: after) v = before ++ [step] := by
  induction before generalizing v with
  | nil =>
    obtain rfl : v = w := Except.ok.inj hbefore
    rw [List.nil_append, run, taken, hstep]
    exact ⟨rfl, rfl⟩
  | cons first before ih =>
    rw [run] at hbefore
    rw [List.cons_append, run, taken]
    cases hfirst : first.run v with
    | error e' =>
      rw [hfirst] at hbefore
      cases hbefore
    | ok u =>
      rw [hfirst] at hbefore
      obtain ⟨hrun, htaken⟩ := ih hbefore
      exact ⟨hrun, congrArg (first :: ·) htaken⟩

/-- A run fails exactly when one of its steps does after the ones before it have succeeded, and
then with the error of that step, which is the last one that it takes. -/
theorem run_eq_error_iff {p : Pipeline} {v : Value} {e : TransformError} :
    p.run v = .error e ↔
      ∃ (before : Pipeline) (step : Step) (after : Pipeline) (w : Value),
        p = before ++ step :: after ∧ before.run v = .ok w ∧ step.run w = .error e ∧
          p.taken v = before ++ [step] := by
  constructor
  · intro h
    induction p generalizing v with
    | nil => cases h
    | cons first rest ih =>
      rw [run] at h
      cases hfirst : first.run v with
      | error e' =>
        rw [hfirst] at h
        obtain rfl : e' = e := Except.error.inj h
        refine ⟨[], first, rest, v, rfl, rfl, hfirst, ?_⟩
        rw [taken, hfirst, List.nil_append]
      | ok u =>
        rw [hfirst] at h
        obtain ⟨before, step, after, w, rfl, hbefore, hstep, htaken⟩ := ih h
        refine ⟨first :: before, step, after, w, rfl, ?_, hstep, ?_⟩
        · rw [run, hfirst]
          exact hbefore
        · rw [taken, hfirst]
          exact congrArg (first :: ·) htaken
  · rintro ⟨before, step, after, w, rfl, hbefore, hstep, -⟩
    exact (run_of_fails hbefore hstep after).1

end Pipeline
end Gleaner
