import Gleaner.Config.Setting
import Gleaner.Extract.Builder

/-!
# Configurations

A configuration names the resolvers of an extractor and says how documents are read and results
are printed.

## Main statements

- `EngineConfig.kindsOf_eq_ok_iff` : the kinds of a list of names exist just when each name has one.
-/

namespace Gleaner

/-- How an extractor is assembled. -/
structure EngineConfig where
  /-- The names of the resolvers in the order in which they are asked. -/
  resolvers : List String := ["object", "number", "boolean", "date", "default"]
  /-- Whether the built-in transforms are registered. -/
  builtinTransforms : Bool := true
  deriving DecidableEq, Repr

/-- How input is read and output printed. -/
structure OutputConfig where
  /-- Whether the output is on a single line. -/
  compact : Bool := false
  /-- Whether the input is a fragment of a document. -/
  fragment : Bool := false
  deriving DecidableEq, Repr

/-- A configuration. -/
structure Config where
  /-- How an extractor is assembled. -/
  engine : EngineConfig := {}
  /-- How input is read and output printed. -/
  output : OutputConfig := {}
  deriving DecidableEq, Repr

namespace EngineConfig

/-- Resolvers of objects, numbers and texts. -/
def basic : EngineConfig := { resolvers := ["object", "number", "default"] }

/-- The kinds of named resolvers, or the first name that is none. -/
def kindsOf : List String → Except SetupError (List ResolverKind)
  | [] => .ok []
  | name :: rest =>
    match ResolverKind.ofName name with
    | .error e => .error e
    | .ok kind => (kindsOf rest).map (kind :: ·)

/-- The kinds of the resolvers. -/
def kinds (c : EngineConfig) : Except SetupError (List ResolverKind) := kindsOf c.resolvers

/-- The builder with the resolvers, and the built-in transforms unless they are turned off. -/
def builder {Node : Type} (c : EngineConfig) (model : DocumentModel Node) :
    Except SetupError (Builder Node) :=
  match c.kinds with
  | .error e => .error e
  | .ok kinds =>
    let bare : Builder Node := { model, resolvers := kinds.map .shipped }
    .ok (if c.builtinTransforms then bare.withBuiltins else bare)

/-- The configuration with a field set. -/
def put (c : EngineConfig) (key : String) (value : Setting) : Option EngineConfig :=
  if key = "resolvers" then value.asTexts.map fun names => { c with resolvers := names }
  else if key = "builtin_transforms" then
    value.asFlag.map fun b => { c with builtinTransforms := b }
  else some c

/-- The configuration that a setting gives. -/
def ofSetting : Setting → Option EngineConfig :=
  Setting.asRecord ["resolvers", "builtin_transforms"] {} put

/-- The kinds of a list of names exist just when each name has a kind. -/
theorem kindsOf_eq_ok_iff (names : List String) (kinds : List ResolverKind) :
    kindsOf names = .ok kinds ↔ names.map ResolverKind.ofName = kinds.map .ok := by
  induction names generalizing kinds with
  | nil => cases kinds <;> simp [kindsOf]
  | cons name rest ih =>
    cases kinds with
    | nil =>
      cases hname : ResolverKind.ofName name <;> cases hrest : kindsOf rest <;>
        simp [kindsOf, hname, hrest, Except.map]
    | cons kind others =>
      cases hname : ResolverKind.ofName name with
      | error e => simp [kindsOf, hname]
      | ok k =>
        specialize ih others
        cases hrest : kindsOf rest <;>
          simp_all [kindsOf, Except.map]

end EngineConfig

namespace OutputConfig

/-- The configuration with a field set. -/
def put (c : OutputConfig) (key : String) (value : Setting) : Option OutputConfig :=
  if key = "compact" then value.asFlag.map fun b => { c with compact := b }
  else if key = "fragment" then value.asFlag.map fun b => { c with fragment := b }
  else some c

/-- The configuration that a setting gives. -/
def ofSetting : Setting → Option OutputConfig :=
  Setting.asRecord ["compact", "fragment"] {} put

end OutputConfig

namespace Config

/-- The configuration with a field set. -/
def put (c : Config) (key : String) (value : Setting) : Option Config :=
  if key = "engine" then (EngineConfig.ofSetting value).map fun e => { c with engine := e }
  else if key = "output" then (OutputConfig.ofSetting value).map fun o => { c with output := o }
  else some c

/-- The configuration that a setting gives, if it is one. -/
def ofSetting : Setting → Option Config := Setting.asRecord ["engine", "output"] {} put

/-- The configuration of a JSON document, if it is one. -/
def ofJson (j : Json) : Option Config := ofSetting (.ofJson j)

end Config
end Gleaner
