import Gleaner.Config
import Gleaner.Schema.Load
import Gleaner.Yaml.Document

/-!
# Files of configurations and schemas

Both are written in YAML, of which JSON is a part.

## Main statements

- `loadWith_eq_ok_iff` : a file gives what its reader makes of its content.
-/

namespace Gleaner

/-- Why a file gives nothing. -/
inductive LoadError where
  /-- It cannot be read. -/
  | unreadable
  /-- It does not hold what it should. -/
  | malformed
  deriving DecidableEq, Repr

/-- The message. -/
def LoadError.message : LoadError → String
  | .unreadable => "Failed to read file"
  | .malformed => "Failed to parse file"

/-- What a reader makes of the content of a file, if it can be read. -/
def loadWith {α : Type} (read : String → Option α) (content : Option String) :
    Except LoadError α :=
  match content with
  | none => .error .unreadable
  | some text =>
    match read text with
    | some a => .ok a
    | none => .error .malformed

/-- The configuration of a YAML source. -/
def Config.ofYaml? (source : String) : Option Config :=
  (Yaml.setting? source).bind Config.ofSetting

/-- The schema of a YAML source. -/
def Schema.ofYaml? (source : String) : Option Schema :=
  (Yaml.json? source).bind fun j =>
    match Schema.ofJson j with
    | .ok s => some s
    | .error _ => none

/-- The configuration in a file. -/
def loadConfig : Option String → Except LoadError Config := loadWith Config.ofYaml?

/-- The schema in a file. -/
def loadSchema : Option String → Except LoadError Schema := loadWith Schema.ofYaml?

/-- A file gives what its reader makes of its content, if there is content. -/
theorem loadWith_eq_ok_iff {α : Type} {read : String → Option α} {content : Option String}
    {a : α} : loadWith read content = .ok a ↔ content.bind read = some a := by
  cases content with
  | none => simp [loadWith]
  | some text => cases h : read text <;> simp [loadWith, h]

end Gleaner
