import Gleaner.CommandLine.Arguments
import Gleaner.Extraction
import Gleaner.Json.Write
import Gleaner.Load

/-!
# Running a command line

A run is a function of its arguments and of what it can read. It loads a configuration, a schema
and an input in this order, extracts, and prints the result as JSON.

## Main statements

- `exitCode_eq_zero_iff` : the exit code is zero just when there is output.
-/

namespace Gleaner.CommandLine

/-- What a run can read. -/
structure World where
  /-- The directory of the user, if there is one. -/
  home : Option String
  /-- The text of a file, if there is such a file and it holds a text. -/
  read : String → Option String
  /-- Whether there is a file at a path, with a text or not. -/
  isFile : String → Bool := fun path => (read path).isSome
  /-- The text on standard input, if it is one. -/
  input : Option String

/-- Why a run fails. -/
inductive Failure where
  /-- The arguments make no sense. -/
  | usage
  /-- The configuration in a named file does not load. -/
  | config (path : String) (e : LoadError)
  /-- The configuration that was found does not load. -/
  | foundConfig (e : LoadError)
  /-- The schema in a file does not load. -/
  | schema (path : String) (e : LoadError)
  /-- The input in a file cannot be read. -/
  | input (path : String)
  /-- Standard input holds no text. -/
  | standardInput
  /-- Nothing can be extracted. -/
  | extraction (e : ExtractionError)
  deriving DecidableEq, Repr

namespace Failure

/-- The exit code. -/
def code : Failure → UInt32
  | .usage => 2
  | _ => 1

/-- The message. -/
def message : Failure → String
  | .usage => "Wrong usage, see --help"
  | .config path _ => "Failed to load config " ++ path
  | .foundConfig e => e.message
  | .schema path _ => "Failed to load schema " ++ path
  | .input path => "Failed to read " ++ path
  | .standardInput => "stream did not contain valid UTF-8"
  | .extraction e => e.message

/-- The failure that lies behind, in words. -/
def cause? : Failure → Option String
  | .config _ e => some e.message
  | .schema _ e => some e.message
  | _ => none

/-- The text for standard error. -/
def report (e : Failure) : String :=
  "Error: " ++ e.message ++
    match e.cause? with
    | some cause => "\n\nCaused by:\n    " ++ cause
    | none => ""

end Failure

/-- How the program is used. -/
def helpText : String :=
  "\n".intercalate
    ["Extract structured data from HTML",
      "",
      "Usage: harvest [OPTIONS] --schema <SCHEMA> [INPUT]",
      "",
      "Arguments:",
      "  [INPUT]  HTML file to read. Reads stdin when omitted",
      "",
      "Options:",
      "  -s, --schema <SCHEMA>  Selector schema (YAML or JSON)",
      "  -c, --config <CONFIG>  Config file, instead of ./harvest.yaml or ~/.harvest/config.yaml",
      "      --compact          Print JSON on a single line",
      "      --fragment         Parse the input as an HTML fragment",
      "  -h, --help             Print help",
      "  -V, --version          Print version",
      ""]

/-- The name of the program and its version. -/
def versionText : String := "harvest 0.1.0\n"

/-- The configuration file of the current directory. -/
def currentConfig : String := "./harvest.yaml"

/-- The configuration file of a user. -/
def homeConfig (dir : String) : String :=
  (if dir.endsWith "/" then dir else dir ++ "/") ++ ".harvest/config.yaml"

/-- The files that a configuration is looked for in, in this order. -/
def configPaths (home : Option String) : List String :=
  currentConfig :: (home.map homeConfig).toList

/-- A configuration with what the arguments turn on. -/
def withSwitches (c : Config) (i : Invocation) : Config :=
  { c with
    output := ⟨c.output.compact || i.compact, c.output.fragment || i.fragment⟩ }

/-- A configuration is left as it is where nothing is turned on. -/
theorem withSwitches_of_off (c : Config) {i : Invocation} (hc : i.compact = false)
    (hf : i.fragment = false) : withSwitches c i = c := by
  simp [withSwitches, hc, hf]

/-- The configuration of a run: the named one, else the first that is found, else the default. -/
def runConfig (i : Invocation) (w : World) : Except Failure Config :=
  match i.config with
  | some path => (loadConfig (w.read path)).mapError (.config path)
  | none =>
    match (configPaths w.home).find? w.isFile with
    | some path => (loadConfig (w.read path)).mapError .foundConfig
    | none => .ok {}

/-- The schema of a run. -/
def runSchema (i : Invocation) (w : World) : Except Failure Schema :=
  (loadSchema (w.read i.schema)).mapError (.schema i.schema)

/-- The source of a run: the named file, else standard input. -/
def runSource (i : Invocation) (w : World) : Except Failure String :=
  match i.input with
  | none =>
    match w.input with
    | some text => .ok text
    | none => .error .standardInput
  | some path =>
    match w.read path with
    | some text => .ok text
    | none => .error (.input path)

/-- The text of a result. -/
def render (compact : Bool) (result : Json) : String :=
  (if compact then result.compact else result.pretty) ++ "\n"

/-- The output of a run. -/
def Invocation.output (i : Invocation) (w : World) : Except Failure String := do
  let config := withSwitches (← runConfig i w) i
  let schema ← runSchema i w
  let source ← runSource i w
  let result ← (extract source schema config).mapError .extraction
  return render config.output.compact result

/-- The output of a command line. -/
def output (args : List String) (w : World) : Except Failure String :=
  match request? args with
  | none => .error .usage
  | some .help => .ok helpText
  | some .version => .ok versionText
  | some (.run i) => i.output w

/-- What an outcome prints to standard output. -/
def standardOutput : Except Failure String → String
  | .ok text => text
  | .error _ => ""

/-- The exit code of an outcome. -/
def exitCode : Except Failure String → UInt32
  | .ok _ => 0
  | .error e => e.code

/-- The exit code is zero just when there is output. -/
theorem exitCode_eq_zero_iff (outcome : Except Failure String) :
    exitCode outcome = 0 ↔ ∃ text, outcome = .ok text := by
  cases outcome with
  | ok text => simp [exitCode]
  | error e => cases e <;> simp [exitCode, Failure.code]

/-- The files that a command line may read. -/
def readable (args : List String) (home : Option String) : List String :=
  match request? args with
  | some (.run i) => (i.config.map ([·])).getD (configPaths home) ++ i.schema :: i.input.toList
  | _ => []

/-- Whether a command line reads standard input. -/
def readsInput (args : List String) : Bool :=
  match request? args with
  | some (.run i) => i.input.isNone
  | _ => false

end Gleaner.CommandLine
