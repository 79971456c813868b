import Gleaner.Pattern.Replacement
import Gleaner.Transform.Registry
import Gleaner.Unicode.Case

/-!
# The built-in transforms

Unless its comment says otherwise, a transform acts on each leaf of nested arrays and objects, and
leaves values that it does not understand as they are.
-/

namespace Gleaner.Builtin

mutual

/-- A value with a function applied to its leaves: to itself, or inside of arrays and objects. -/
def mapLeaves (f : Value → Except TransformError Value) : Value → Except TransformError Value
  | .array items =>
    match mapItems f items with
    | .ok items => .ok (.array items)
    | .error e => .error e
  | .object fields =>
    match mapFields f fields with
    | .ok fields => .ok (.object fields)
    | .error e => .error e
  | .null => f .null
  | .bool b => f (.bool b)
  | .number x => f (.number x)
  | .string s => f (.string s)
  | .date t => f (.date t)

/-- The items of an array with a function applied to their leaves. -/
def mapItems (f : Value → Except TransformError Value) :
    List Value → Except TransformError (List Value)
  | [] => .ok []
  | v :: rest =>
    match mapLeaves f v with
    | .error e => .error e
    | .ok w =>
      match mapItems f rest with
      | .ok ws => .ok (w :: ws)
      | .error e => .error e

/-- The entries of an object with a function applied to their leaves. -/
def mapFields (f : Value → Except TransformError Value) :
    List (String × Value) → Except TransformError (List (String × Value))
  | [] => .ok []
  | (key, v) :: rest =>
    match mapLeaves f v with
    | .error e => .error e
    | .ok w =>
      match mapFields f rest with
      | .ok ws => .ok ((key, w) :: ws)
      | .error e => .error e

end

/-- A value with a function applied to its items or entries, or to itself. -/
def mapShallow (f : Value → Value) : Value → Value
  | .array items => .array (items.map f)
  | .object fields => .object (fields.map fun (key, v) => (key, f v))
  | v => f v

/-- An argument that is not null. -/
def arg? (args : List Value) (index : Nat) : Option Value :=
  (args[index]?).filter (!·.isNull)

/-- The text of an argument that is not null. -/
def argText? (args : List Value) (index : Nat) : Option String :=
  (arg? args index).map Value.display

/-- The pattern of a transform; of the flags `i`, `m` and `s` count. -/
def compile (name pattern flags : String) : Except TransformError Regex :=
  let has (c : Char) := flags.toList.contains c
  match Regex.compileWith? { ignoreCase := has 'i', multiLine := has 'm', dotAll := has 's' }
      pattern.toList with
  | some r => .ok r
  | none => .error ⟨name, .invalidPattern⟩

/-- The pattern argument of a transform. -/
def requiredPattern (name : String) (args : List Value) : Except TransformError String :=
  match argText? args 0 with
  | some pattern => .ok pattern
  | none => .error (.because name "missing pattern argument")

/-- A function on texts as one on leaves. -/
def onText (f : List Char → Value) : Value → Except TransformError Value
  | .string s => .ok (f s.toList)
  | v => .ok v

/-- `replace: pattern [replacement]` replaces matches in texts, and other leaves that are equal to
the pattern. -/
def replace : TransformFn := fun value args => do
  let pattern ← requiredPattern "replace" args
  let r ← compile "replace" pattern "g"
  let replacement := args.getD 1 (.string "")
  let target := args.getD 0 .null
  mapLeaves (fun leaf =>
    match leaf with
    | .string s => .ok (.string (.ofList (r.replaceAll replacement.displayChars s.toList)))
    | other => .ok (if other.equals target then replacement else other)) value

/-- `match: pattern [flags] [fallback]` keeps the first match of a text. -/
def matchFirst : TransformFn := fun value args => do
  let pattern ← requiredPattern "match" args
  let r ← compile "match" pattern ((argText? args 1).getD "g")
  let fallback := args.getD 2 .null
  mapLeaves (onText fun cs =>
    match r.pattern.find? cs with
    | some m => .string (.ofList m.text)
    | none => fallback) value

/-- `matchAll: pattern [flags]` turns a text into the array of its matches that are not empty. -/
def matchAll : TransformFn := fun value args => do
  let pattern ← requiredPattern "matchAll" args
  let r ← compile "matchAll" pattern ((argText? args 1).getD "g")
  mapLeaves (onText fun cs =>
    .array (((r.pattern.findAll cs).filter (!·.text.isEmpty)).map fun m =>
      .string (.ofList m.text))) value

/-- `split: [pattern] [flags]` turns a text into the array of its pieces. -/
def split : TransformFn := fun value args => do
  let r ← compile "split" ((argText? args 0).getD ",") ((argText? args 1).getD "")
  mapLeaves (onText fun cs =>
    .array ((r.pattern.split cs).map fun piece => .string (.ofList piece))) value

/-- `join: [separator]` joins the items of an array or the values of an object. -/
def join : TransformFn := fun value args =>
  let separator := (argText? args 0).getD ","
  let joined (parts : List Value) : Value :=
    .string (.ofList (Value.joinChars separator.toList (parts.map Value.displayPart)))
  match value with
  | .array items => .ok (joined items)
  | .object fields => .ok (joined (fields.map (·.2)))
  | other => .ok other

/-- Whether a value gives way to a default: null and listed values always, others by the mode. -/
def givesWay (mode : String) (listed : List Value) (v : Value) : Bool :=
  v.isNull || Value.mem listed v ||
    if mode = "blank" then v.text?.any fun s => (trim s.toList).isEmpty
    else if mode = "empty" then v.text?.any fun s => s.isEmpty
    else if mode = "falsy" then !v.isTruthy
    else false

/-- `def: default [null|blank|empty|falsy] [values...]` puts a default in the place of a null, and
of the items and entries that give way to it. -/
def default : TransformFn := fun value args =>
  let fallback := args.getD 0 .null
  if value.isNull then .ok fallback
  else
    let mode := ((args[1]?).bind Value.text?).getD "null"
    .ok (mapShallow (fun v => if givesWay mode (args.drop 2) v then fallback else v) value)

/-- `empty: [mode] [values...]` is a default of the empty text, for blank texts unless a mode is
given. -/
def empty : TransformFn := fun value args =>
  default value (.string "" :: (arg? args 0).getD (.string "blank") :: args.drop 1)

/-- `toString` turns a whole value into its text. -/
def toText : TransformFn := fun value _ =>
  .ok (if value.isNull then .null else .string value.display)

/-- `str` turns each leaf into its text; a null is left. -/
def textOfLeaves : TransformFn := fun value _ =>
  if value.isNull then .ok .null
  else mapLeaves (fun leaf => .ok (.string leaf.display)) value

/-- `json` turns a whole value into its JSON text. -/
def json : TransformFn := fun value _ =>
  .ok (if value.isNull then .null else .string value.jsonText)

/-- `del: [value]` removes the items and entries that are equal to a value. -/
def del : TransformFn := fun value args =>
  let target := args.getD 0 .null
  match value with
  | .array items => .ok (.array (items.filter fun v => !v.equals target))
  | .object fields => .ok (.object (fields.filter fun (_, v) => !v.equals target))
  | other => .ok (if other.equals target then .null else other)

/-- `wrap: [key]` puts a value into an object under a key, or into an array. -/
def wrap : TransformFn := fun value args =>
  match argText? args 0 with
  | some key => .ok (.object [(key, value)])
  | none => .ok (.array [value])

mutual

/-- The items that a value contributes to an array flattened to a depth. -/
def flattenValue : Nat → Value → List Value
  | 0, v => [v]
  | depth + 1, .array items => flattenItems depth items
  | _ + 1, .null => [.null]
  | _ + 1, .bool b => [.bool b]
  | _ + 1, .number x => [.number x]
  | _ + 1, .string s => [.string s]
  | _ + 1, .date t => [.date t]
  | _ + 1, .object fields => [.object fields]

/-- The items of an array flattened to a depth. -/
def flattenItems (depth : Nat) : List Value → List Value
  | [] => []
  | v :: rest => flattenValue depth v ++ flattenItems depth rest

end

/-- A machine word written in digits, with or without a plus sign. -/
def readWord? (cs : List Char) : Option Nat :=
  let digits :=
    match cs with
    | '+' :: rest => rest
    | cs => cs
  (readNat? digits).filter (· < Nat.pow 2 64)

/-- The depth that an argument asks for. -/
def depthOf (args : List Value) : Except TransformError Nat :=
  let invalid (v : Value) : Except TransformError Nat :=
    .error (.because "flat" ("invalid depth '" ++ v.display ++ "'"))
  match arg? args 0 with
  | none => .ok 1
  | some (.number x) => if Double.atMost 0 x then .ok x.toWord else invalid (.number x)
  | some (.string s) =>
    match readWord? (trim s.toList) with
    | some n => .ok n
    | none => invalid (.string s)
  | some v => invalid v

/-- `flat: [depth]` flattens an array. -/
def flat : TransformFn := fun value args => do
  let depth ← depthOf args
  match value with
  | .array items => .ok (.array (flattenItems depth items))
  | other => .ok other

/-- The items that are equal to none before them, given those that have been kept. -/
def distinctAfter (kept : List Value) : List Value → List Value
  | [] => []
  | v :: rest =>
    if Value.mem kept v then distinctAfter kept rest
    else v :: distinctAfter (kept ++ [v]) rest

/-- `unique` keeps the first of equal items of an array. -/
def unique : TransformFn := fun value _ =>
  match value with
  | .array items => .ok (.array (distinctAfter [] items))
  | other => .ok other

/-- A change of texts as a transform. -/
def mapTexts (f : List Char → List Char) : TransformFn := fun value _ =>
  mapLeaves (onText fun cs => .string (.ofList (f cs))) value

/-- A word with its first character in upper and the others in lower case. -/
def titleWord : List Char → List Char
  | [] => []
  | c :: rest => Unicode.upperChar c ++ Unicode.lower rest

/-- The words of a text, separated by single spaces. -/
def words : List Char → List (List Char)
  | [] => [[]]
  | c :: cs =>
    if c = ' ' then [] :: words cs
    else
      match words cs with
      | [] => [[c]]
      | word :: rest => (c :: word) :: rest

/-- A text with each word in title case. -/
def titleCase (cs : List Char) : List Char :=
  Value.joinChars [' '] ((words cs).map titleWord)

/-- The built-in transforms by name. -/
def entries : List (String × TransformFn) :=
  [("replace", replace), ("match", matchFirst), ("matchAll", matchAll), ("split", split),
   ("join", join), ("def", default), ("empty", empty), ("toString", toText),
   ("str", textOfLeaves), ("json", json), ("del", del), ("wrap", wrap), ("flat", flat),
   ("unique", unique), ("lowercase", mapTexts Unicode.lower),
   ("uppercase", mapTexts Unicode.upper), ("title", mapTexts titleCase)]

end Gleaner.Builtin

namespace Gleaner

/-- The registry of the built-in transforms. -/
def Registry.builtins : Registry := .ofList Builtin.entries

/-- Registries that each hold the built-in transforms. -/
def Registries.builtins : Registries := ⟨.builtins, .builtins, .builtins⟩

/-- Registries without transforms. -/
def Registries.empty : Registries := ⟨.empty, .empty, .empty⟩

end Gleaner
