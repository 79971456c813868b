import Gleaner.Coerce.Options
import Gleaner.Error
import Gleaner.Numeral.Read
import Gleaner.Numeral.Write
import Gleaner.Pattern.Syntax
import Gleaner.Value.Basic

/-!
# Texts, numbers and booleans

The text, number or boolean that a value stands for. A value that stands for none gives way to the
default of the options.
-/

namespace Gleaner.Coerce

/-- The text of a text, number or boolean. -/
def plainText? : Value → Option String
  | .string s => some s
  | .number x => some (Value.number x).display
  | .bool b => some (Value.bool b).display
  | _ => none

/-- A text cut down to the first match of a pattern. -/
def keepMatch (o : TextOptions) (pattern text : String) : Except ResolveError Value :=
  match Regex.compile? pattern.toList with
  | none => .error (.invalidPattern pattern)
  | some r =>
    match r.pattern.find? text.toList with
    | some m => .ok (.string (.ofList m.text))
    | none => .ok (.ofText? o.ifNoMatch)

/-- The text that a value stands for. -/
def text (o : TextOptions) (raw : Value) : Except ResolveError Value :=
  match plainText? raw with
  | none => .ok (.ofText? o.fallback)
  | some s =>
    match if s.isEmpty then o.ifEmpty.filter (!·.isEmpty) else none with
    | some fallback => .ok (.string fallback)
    | none =>
      match o.pattern with
      | none => .ok (.string s)
      | some pattern => keepMatch o pattern s

/-- The nearest integer, a half going up. -/
def roundHalfUp (x : Double) : Double :=
  if (Double.ofRatio false 1 2).atMost (x - x.floor) then x.floor + 1 else x.floor

/-- A number made an integer. -/
def Rounding.apply : Rounding → Double → Double
  | .nearest, x => roundHalfUp x
  | .floor, x => x.floor
  | .ceil, x => x.ceil

/-- The number that a value stands for, as it is read. -/
def readNumber? : Value → Option Double
  | .number x => if x.isNaN then none else some x
  | .string s => Numeral.read? s.toList
  | .bool b => some (if b then 1 else 0)
  | _ => none

/-- The number that a value stands for. -/
def number (o : NumberOptions) (raw : Value) : Value :=
  match readNumber? raw with
  | none =>
    match o.fallback with
    | some x => .number x
    | none => .null
  | some x =>
    let x := if o.isInteger && !x.isZero then Rounding.apply o.rounding x else x
    match o.format with
    | none => .number x
    | some pattern =>
      if pattern = "number" then .number x else .string (.ofList (Numeral.write x pattern.toList))

/-- The default of a boolean. -/
def booleanDefault (o : BooleanOptions) : Value :=
  match o.fallback with
  | some b => .bool b
  | none => .null

/-- The boolean that a text stands for: listed texts decide, and without lists any text but the
empty one is true. -/
def booleanOfText (o : BooleanOptions) (s : String) : Value :=
  let truthy := o.truthy.contains s
  let falsy := o.falsy.contains s
  match o.truthy, o.falsy with
  | [], [] => .bool (!s.isEmpty)
  | [], _ => .bool (!falsy)
  | _, [] => .bool truthy
  | _, _ => if truthy then .bool true else if falsy then .bool false else booleanDefault o

/-- The boolean that a value stands for. -/
def boolean (o : BooleanOptions) (raw : Value) : Value :=
  match raw with
  | .bool b => .bool b
  | .number x => .bool (Value.number x).isTruthy
  | .string s => booleanOfText o s
  | _ => booleanDefault o

end Gleaner.Coerce
