import Gleaner.CommandLine.Arguments

/-!
# Switches in front of a command line

A switch for the output may be given at most once, and then anywhere among the options. So a
command line that does not give it asks with the switch in front for the same run with the switch
on. The two readings go along side by side, argument by argument.

## Main definitions

* `Draft.withOn`: a draft with some switches on as well.
* `Reading.Spent`: readings that lead to no run without one of the switches.
* `Reading.Follows`: a reading and the reading of the same arguments after the switches.

## Main results

* `Reading.Follows.take`, `Reading.Follows.readArgs`: one argument and all of them.
* `request?_switches_append`: what a command line with switches in front asks for.
-/

namespace Gleaner.CommandLine

variable {compact fragment : Bool}

/-- The invocation with some switches on as well. -/
def Invocation.withOn (compact fragment : Bool) (i : Invocation) : Invocation :=
  { i with compact := i.compact || compact, fragment := i.fragment || fragment }

/-- What is asked for, with some switches on as well where it is a run. -/
def Request.withOn (compact fragment : Bool) : Request → Request
  | run i => run (i.withOn compact fragment)
  | request => request

/-- The draft with some switches on as well. -/
def Draft.withOn (compact fragment : Bool) (d : Draft) : Draft :=
  { d with compact := d.compact || compact, fragment := d.fragment || fragment }

/-- One of the switches is on already. -/
def Draft.Spent (compact fragment : Bool) (d : Draft) : Prop :=
  (compact && d.compact || fragment && d.fragment) = true

namespace Reading

/-- The reading with some switches on as well. -/
def withOn (compact fragment : Bool) : Reading → Reading
  | going d => going (d.withOn compact fragment)
  | waiting setter d => waiting setter (d.withOn compact fragment)
  | decided request => decided (request.withOn compact fragment)
  | wrong => wrong

/-- A reading that leads to no run without one of the switches. -/
def Spent (compact fragment : Bool) : Reading → Prop
  | going d => d.Spent compact fragment
  | waiting _ d => d.Spent compact fragment
  | decided request => ∀ i, request ≠ .run i
  | wrong => True

/-- A reading of arguments, and the reading of the same arguments after the switches. They differ in
the switches only, unless one of these is given twice. -/
def Follows (compact fragment : Bool) (r r' : Reading) : Prop :=
  r.Spent compact fragment ∨ r' = r.withOn compact fragment

/-- A way to go on from a draft that goes on alike after the switches. -/
structure Tracks (compact fragment : Bool) (next : Draft → Reading) : Prop where
  /-- A switch that is on stays on. -/
  spent : ∀ d : Draft, d.Spent compact fragment → (next d).Spent compact fragment
  /-- The switches change nothing else. -/
  follows : ∀ d : Draft, Follows compact fragment (next d) (next (d.withOn compact fragment))

end Reading

open Reading

/-! ### One argument -/

namespace Draft

/-- A value is set alike. -/
theorem tracks_set (setter : Setter) (value : String) :
    Tracks compact fragment (·.set setter value) where
  spent d hd := by
    unfold set
    split
    · trivial
    · cases setter <;> (dsimp only; split) <;> trivial
  follows d := by
    have hschema : (d.withOn compact fragment).schema = d.schema := rfl
    have hconfig : (d.withOn compact fragment).config = d.config := rfl
    refine .inr ?_
    unfold set
    rw [hschema, hconfig]
    split
    · rfl
    · cases setter <;> (dsimp only; split) <;> rfl

/-- An input is added alike. -/
theorem tracks_addInput (path : String) : Tracks compact fragment (·.addInput path) where
  spent d hd := by
    rw [addInput]
    split
    · trivial
    · exact hd
  follows d := by
    have hinput : (d.withOn compact fragment).input = d.input := rfl
    refine .inr ?_
    rw [addInput, addInput, hinput]
    split <;> rfl

/-- A switch given before is spent by giving it again. -/
theorem spent_turnOn_compact (d : Draft) : (d.turnOn .compact).Spent true fragment := by
  rw [turnOn]
  split
  · trivial
  · exact Bool.or_eq_true_iff.2 (.inl rfl)

theorem spent_turnOn_fragment (d : Draft) : (d.turnOn .fragment).Spent compact true := by
  rw [turnOn]
  split
  · trivial
  · exact Bool.or_eq_true_iff.2 (.inr rfl)

/-- A switch is turned on alike, unless it is one of those given before. -/
theorem tracks_turnOn (s : Switch) : Tracks compact fragment (·.turnOn s) where
  spent d hd := by
    cases s with
    | compact =>
      rw [turnOn]
      split
      · trivial
      · simp_all [Reading.Spent, Draft.Spent]
    | fragment =>
      rw [turnOn]
      split
      · trivial
      · simp_all [Reading.Spent, Draft.Spent]
    | help => exact fun i h => by cases h
    | version => exact fun i h => by cases h
  follows d := by
    cases s with
    | compact =>
      cases compact with
      | true => exact .inl d.spent_turnOn_compact
      | false =>
        have hcompact : (d.withOn false fragment).compact = d.compact := Bool.or_false d.compact
        refine .inr ?_
        rw [turnOn, turnOn, hcompact]
        split <;> rfl
    | fragment =>
      cases fragment with
      | true => exact .inl d.spent_turnOn_fragment
      | false =>
        have hfragment : (d.withOn compact false).fragment = d.fragment := Bool.or_false d.fragment
        refine .inr ?_
        rw [turnOn, turnOn, hfragment]
        split <;> rfl
    | help => exact .inr rfl
    | version => exact .inr rfl

/-- A value that has to follow is waited for alike. -/
theorem tracks_waiting (setter : Setter) : Tracks compact fragment (Reading.waiting setter) where
  spent _ hd := hd
  follows _ := .inr rfl

/-- Wrong usage is wrong alike. -/
theorem tracks_wrong : Tracks compact fragment fun _ => .wrong where
  spent _ _ := trivial
  follows _ := .inr rfl

/-- An option by its long name is read alike. -/
theorem tracks_readLong (text : List Char) : Tracks compact fragment (·.readLong text) := by
  unfold readLong
  dsimp only
  split
  · exact tracks_wrong
  · exact tracks_turnOn _
  · exact tracks_wrong
  · exact tracks_waiting _
  · exact tracks_set _ _

end Draft

namespace Reading

/-- The reading after what follows, if it has not come to an end. -/
def andThen (r : Reading) (next : Draft → Reading) : Reading :=
  match r with
  | going d => next d
  | r => r

variable {first next : Draft → Reading} {r r' : Reading}

/-- A reading stays spent. -/
theorem Spent.andThen (h : r.Spent compact fragment) (hnext : Tracks compact fragment next) :
    (r.andThen next).Spent compact fragment := by
  cases r with
  | going d => exact hnext.spent d h
  | waiting => exact h
  | decided => exact h
  | wrong => trivial

/-- Two ways to go on may be taken one after another. -/
theorem Tracks.andThen (hfirst : Tracks compact fragment first)
    (hnext : Tracks compact fragment next) :
    Tracks compact fragment fun d => (first d).andThen next where
  spent d hd := (hfirst.spent d hd).andThen hnext
  follows d := by
    rcases hfirst.follows d with hspent | hsame
    · exact .inl (hspent.andThen hnext)
    · rw [hsame]
      cases first d with
      | going d' => exact hnext.follows d'
      | waiting => exact .inr rfl
      | decided => exact .inr rfl
      | wrong => exact .inr rfl

end Reading

/-- Options by their short names are read alike, one after another. -/
theorem Draft.tracks_readShort (text : List Char) :
    Tracks compact fragment (·.readShort text) := by
  induction text with
  | nil => exact ⟨fun _ hd => hd, fun _ => .inr rfl⟩
  | cons c rest ih =>
    unfold readShort
    cases Choice.ofShort c with
    | none => exact tracks_wrong
    | some choice =>
      cases choice with
      | setter s =>
        dsimp only
        split
        · exact tracks_waiting s
        · exact tracks_set s _
        · exact tracks_set s _
      | switch s => exact (tracks_turnOn s).andThen ih

/-! ### All arguments -/

namespace Reading

variable {r r' : Reading}

/-- A step that goes on alike from every draft, and does nothing at an end, keeps readings side by
side. -/
theorem Follows.step (step : Reading → Reading)
    (hgoing : Tracks compact fragment fun d => step (going d))
    (hwaiting : ∀ setter, Tracks compact fragment fun d => step (waiting setter d))
    (hdecided : ∀ request, step (decided request) = decided request) (hwrong : step wrong = wrong)
    (h : Follows compact fragment r r') : Follows compact fragment (step r) (step r') := by
  rcases h with hspent | rfl
  · cases r with
    | going d => exact .inl (hgoing.spent d hspent)
    | waiting setter d => exact .inl ((hwaiting setter).spent d hspent)
    | decided request =>
      rw [hdecided request]
      exact .inl hspent
    | wrong =>
      rw [hwrong]
      exact .inl trivial
  · cases r with
    | going d => exact hgoing.follows d
    | waiting setter d => exact (hwaiting setter).follows d
    | decided request => exact .inr (by simp only [withOn, hdecided])
    | wrong => exact .inr (by simp only [withOn, hwrong])

/-- One argument is read alike. -/
theorem Follows.take (h : Follows compact fragment r r') (arg : String) :
    Follows compact fragment (r.take arg) (r'.take arg) := by
  refine Follows.step (·.take arg) ?_ (fun setter => ?_) (fun _ => rfl) rfl h
  · unfold Reading.take
    dsimp only
    split
    · exact Draft.tracks_readLong _
    · exact Draft.tracks_readShort _
    · exact Draft.tracks_addInput arg
  · unfold Reading.take
    dsimp only
    split
    · exact Draft.tracks_wrong
    · exact Draft.tracks_set setter arg

/-- So is one that is no option. -/
theorem Follows.takeInput (h : Follows compact fragment r r') (arg : String) :
    Follows compact fragment (r.takeInput arg) (r'.takeInput arg) :=
  Follows.step (·.takeInput arg) (Draft.tracks_addInput arg) (fun _ => Draft.tracks_wrong)
    (fun _ => rfl) rfl h

/-- All arguments are read alike. -/
theorem Follows.readArgs (h : Follows compact fragment r r') (args : List String) :
    Follows compact fragment (readArgs r args) (readArgs r' args) := by
  induction args generalizing r r' with
  | nil => exact h
  | cons arg rest ih =>
    rw [CommandLine.readArgs, CommandLine.readArgs]
    split
    · -- after the end of options all arguments are inputs
      clear ih
      induction rest generalizing r r' with
      | nil => exact h
      | cons arg rest ih => exact ih (h.takeInput arg)
    · exact ih (h.take arg)

end Reading

/-- The switches, those of them that are given. -/
def switches (compact fragment : Bool) : List String :=
  (if compact then ["--compact"] else []) ++ if fragment then ["--fragment"] else []

/-- The switches are read into the draft. -/
theorem readArgs_switches_append (args : List String) :
    readArgs (.going {}) (switches compact fragment ++ args) =
      readArgs (.going (({} : Draft).withOn compact fragment)) args := by
  cases compact <;> cases fragment <;> rfl

/-- A command line with switches in front, which it does not give itself, asks for the same run
with the switches on. -/
theorem request?_switches_append {args : List String} {i : Invocation}
    (h : request? args = some (.run i)) (hcompact : compact → i.compact = false)
    (hfragment : fragment → i.fragment = false) :
    request? (switches compact fragment ++ args) = some (.run (i.withOn compact fragment)) := by
  have hstart : Follows compact fragment (.going {})
      (.going (({} : Draft).withOn compact fragment)) := .inr rfl
  -- the draft of the switches alone is that of no arguments with the switches on
  have hend := hstart.readArgs args
  rw [request?] at h ⊢
  rw [readArgs_switches_append]
  revert h hend
  generalize readArgs (.going {}) args = r
  generalize readArgs (.going _) args = r'
  intro h hend
  cases r with
  | going d =>
    obtain ⟨schema, hschema, hi⟩ := Option.map_eq_some_iff.1 h
    obtain rfl : _ = i := by simpa using hi
    rcases hend with hspent | rfl
    · -- a switch that is spent is on in the invocation too
      have honce : (compact ∧ d.compact) ∨ (fragment ∧ d.fragment) := by
        simpa [Reading.Spent, Draft.Spent] using hspent
      rcases honce with ⟨hgiven, hon⟩ | ⟨hgiven, hon⟩
      · exact absurd (hon.symm.trans (hcompact hgiven)) (by decide)
      · exact absurd (hon.symm.trans (hfragment hgiven)) (by decide)
    · exact congrArg (Option.map _) hschema
  | waiting => cases h
  | decided request =>
    obtain rfl : request = .run i := Option.some.inj h
    rcases hend with hspent | rfl
    · exact absurd rfl (hspent i)
    · rfl
  | wrong => cases h

end Gleaner.CommandLine
