/-!
# Command line arguments

Options have a long and a short name or a long one only. The value of an option follows it, or is
attached to it. Every option is given at most once. After `--` nothing is an option.
-/

namespace Gleaner.CommandLine

/-- What a run is asked to do. -/
structure Invocation where
  /-- The file of the schema. -/
  schema : String
  /-- The file of the configuration, if one is named. -/
  config : Option String := none
  /-- Whether the output is asked to be on a single line. -/
  compact : Bool := false
  /-- Whether the input is said to be a fragment. -/
  fragment : Bool := false
  /-- The file of the input, if one is named. -/
  input : Option String := none
  deriving DecidableEq, Repr

/-- What a command line asks for. -/
inductive Request where
  /-- To tell how the program is used. -/
  | help
  /-- To tell which version this is. -/
  | version
  /-- To run. -/
  | run (invocation : Invocation)
  deriving DecidableEq, Repr

/-- The options with a value. -/
inductive Setter where
  | schema
  | config
  deriving DecidableEq, Repr

/-- The options without a value. -/
inductive Switch where
  | compact
  | fragment
  | help
  | version
  deriving DecidableEq, Repr

/-- An option. -/
inductive Choice where
  /-- One with a value. -/
  | setter (s : Setter)
  /-- One without. -/
  | switch (s : Switch)
  deriving DecidableEq, Repr

/-- The option with a long name. -/
def Choice.ofLong (name : String) : Option Choice :=
  match name with
  | "schema" => some (.setter .schema)
  | "config" => some (.setter .config)
  | "compact" => some (.switch .compact)
  | "fragment" => some (.switch .fragment)
  | "help" => some (.switch .help)
  | "version" => some (.switch .version)
  | _ => none

/-- The option with a short name. -/
def Choice.ofShort (name : Char) : Option Choice :=
  match name with
  | 's' => some (.setter .schema)
  | 'c' => some (.setter .config)
  | 'h' => some (.switch .help)
  | 'V' => some (.switch .version)
  | _ => none

/-- What the arguments so far say. -/
structure Draft where
  schema : Option String := none
  config : Option String := none
  compact : Bool := false
  fragment : Bool := false
  input : Option String := none

/-- Where a reading of arguments stands. -/
inductive Reading where
  /-- More arguments can follow. -/
  | going (draft : Draft)
  /-- A value has to follow. -/
  | waiting (setter : Setter) (draft : Draft)
  /-- Later arguments do not matter. -/
  | decided (request : Request)
  /-- The usage is wrong. -/
  | wrong

namespace Draft

/-- The draft with a value that was not given before and is not empty. -/
def set (d : Draft) (setter : Setter) (value : String) : Reading :=
  if value.isEmpty then .wrong
  else
    match setter with
    | .schema => if d.schema.isSome then .wrong else .going { d with schema := some value }
    | .config => if d.config.isSome then .wrong else .going { d with config := some value }

/-- The draft with a switch turned on that was not on before. -/
def turnOn (d : Draft) : Switch → Reading
  | .compact => if d.compact then .wrong else .going { d with compact := true }
  | .fragment => if d.fragment then .wrong else .going { d with fragment := true }
  | .help => .decided .help
  | .version => .decided .version

/-- The draft with an input, of which there is at most one. -/
def addInput (d : Draft) (path : String) : Reading :=
  if path.isEmpty || d.input.isSome then .wrong else .going { d with input := some path }

/-- The draft with an option by its long name, whose value can be attached with an equals sign. -/
def readLong (d : Draft) (text : List Char) : Reading :=
  let name := text.takeWhile (· ≠ '=')
  let attached := (text.dropWhile (· ≠ '=')).tail?
  match Choice.ofLong (.ofList name), attached with
  | none, _ => .wrong
  | some (.switch s), none => d.turnOn s
  | some (.switch _), some _ => .wrong
  | some (.setter s), none => .waiting s d
  | some (.setter s), some value => d.set s (.ofList value)

/-- The draft with options by their short names. The rest of the text after one with a value is
its value. -/
def readShort (d : Draft) : List Char → Reading
  | [] => .going d
  | c :: rest =>
    match Choice.ofShort c with
    | none => .wrong
    | some (.setter s) =>
      match rest with
      | [] => .waiting s d
      | '=' :: value => d.set s (.ofList value)
      | value => d.set s (.ofList value)
    | some (.switch s) =>
      match d.turnOn s with
      | .going d => readShort d rest
      | reading => reading

/-- What a complete draft asks for. A schema has to be named. -/
def request? (d : Draft) : Option Request :=
  d.schema.map fun schema =>
    .run ⟨schema, d.config, d.compact, d.fragment, d.input⟩

end Draft

namespace Reading

/-- The reading after one more argument, which is not the end of options. -/
def take (r : Reading) (arg : String) : Reading :=
  match r with
  | .decided request => .decided request
  | .wrong => .wrong
  | .waiting setter d =>
    match arg.toList with
    | '-' :: _ :: _ => .wrong
    | _ => d.set setter arg
  | .going d =>
    match arg.toList with
    | '-' :: '-' :: name => d.readLong name
    | '-' :: c :: rest => d.readShort (c :: rest)
    | _ => d.addInput arg

/-- The reading after one more argument that is no option. -/
def takeInput (r : Reading) (arg : String) : Reading :=
  match r with
  | .going d => d.addInput arg
  | .waiting _ _ => .wrong
  | r => r

/-- What the reading comes to, if the usage is right. -/
def request? : Reading → Option Request
  | .going d => d.request?
  | .waiting _ _ => none
  | .decided request => some request
  | .wrong => none

end Reading

/-- The reading of arguments after others. -/
def readArgs (r : Reading) : List String → Reading
  | [] => r
  | arg :: rest =>
    if arg = "--" then rest.foldl Reading.takeInput r else readArgs (r.take arg) rest

/-- What a command line asks for, if the usage is right. -/
def request? (args : List String) : Option Request := (readArgs (.going {}) args).request?

end Gleaner.CommandLine
