import Gleaner.Config.Setting
import Gleaner.Yaml.Parse
import Gleaner.Yaml.Plain

/-!
# YAML as documents

What a tree of YAML means as a JSON document, and as a setting of a configuration.
-/

namespace Gleaner.Yaml

/-- How deep collections may lie inside of each other. -/
def depthLimit : Nat := 128

/-- Whether a tag names something of the document's own, which has no meaning as JSON. -/
def isLocal (tag : Option String) : Bool := tag.any fun t => t.toList.head? = some '!'

/-- The document of a scalar. A tag of a plain type asks for that type. -/
def scalarJson (text : String) (style : Style) (tag : Option String) : Option Json :=
  match tag with
  | none => if style = .plain then plainJson text else some (.string text)
  | some tag =>
    if isLocal (some tag) then none
    else if tag = "tag:yaml.org,2002:bool" then (flag? text).map .bool
    else if tag = "tag:yaml.org,2002:int" then (integerTextJson? text).join
    else if tag = "tag:yaml.org,2002:float" then realJson? text
    else if tag = "tag:yaml.org,2002:null" then
      if isNullWord text then some .null else none
    else some (.string text)

mutual

/-- The number of scalars, aliases and ends of collections in a tree. -/
def weight : Yaml → Nat
  | .scalar .. => 1
  | .alias _ => 1
  | .list items _ => weightAll items + 2
  | .record entries _ => weightEntries entries + 2

/-- The same in several trees. -/
def weightAll : List Yaml → Nat
  | [] => 0
  | item :: rest => weight item + weightAll rest

/-- The same in the entries of a record. -/
def weightEntries : List (Yaml × Yaml) → Nat
  | [] => 0
  | (key, value) :: rest => weight key + weight value + weightEntries rest

end

namespace Graph

/-- The tree that an alias stands for; any other tree stands for itself. -/
def resolve (g : Graph) : Yaml → Yaml
  | .alias number => (g.anchored.lookup number).getD missing
  | tree => tree

/-- The same, with one off the number of aliases that may still be followed. -/
def follow? (g : Graph) : Yaml → StateT Nat Option Yaml
  | .alias number, left => if left = 0 then none else some (g.resolve (.alias number), left - 1)
  | tree, left => some (tree, left)

/-- The text of a tree that is a scalar. -/
def scalarText? (g : Graph) (tree : Yaml) : StateT Nat Option String := do
  match ← g.follow? tree with
  | .scalar text _ _ => return text
  | _ => failure

/-- The JSON document of a tree that is not deeper than a limit. The keys of records are scalars. -/
def toJson? (g : Graph) (depth : Nat) (tree : Yaml) : StateT Nat Option Json := do
  match depth, ← g.follow? tree with
  | _, .scalar text style tag => liftM (scalarJson text style tag)
  | depth + 1, .list items tag =>
    if isLocal tag then failure
    return .array (← items.mapM (g.toJson? depth))
  | depth + 1, .record entries tag =>
    if isLocal tag then failure
    let fields ← entries.mapM fun (key, value) => do
      return (← g.scalarText? key, ← g.toJson? depth value)
    return .object (putAll fields)
  | _, _ => failure

/-- The setting of a tree that is not deeper than a limit. Any scalar is a text there, and plain ones
can be truth values. What is deeper is neither. -/
def toSetting (g : Graph) (depth : Nat) (tree : Yaml) : Setting :=
  match depth, g.resolve tree with
  | _, .scalar text style tag =>
    if text.isEmpty && style = .plain then .blank
    else
      let isFlag := style = .plain || style = .literal && tag = some "tag:yaml.org,2002:bool"
      .scalar (some text) (if isFlag then flag? text else none)
  | depth + 1, .list items _ => .list (items.map (g.toSetting depth))
  | depth + 1, .record entries _ =>
    .record (entries.map fun (key, value) => (g.toSetting depth key, g.toSetting depth value))
  | _, _ => .scalar none none

end Graph

/-- How many aliases may be followed for each scalar, alias and end of a collection. -/
def followLimit : Nat := 100

/-- How deep the settings of a configuration lie inside of each other. -/
def settingDepth : Nat := 3

/-- The JSON document of a source. A blank one is null. -/
def json? (source : String) : Option Json :=
  match read? source with
  | none => none
  | some none => some .null
  | some (some g) => (g.toJson? depthLimit g.root (followLimit * g.root.weight)).map (·.1)

/-- The setting of a source. -/
def setting? (source : String) : Option Setting :=
  (read? source).map fun found =>
    match found with
    | some g => g.toSetting settingDepth g.root
    | none => .blank

end Gleaner.Yaml
