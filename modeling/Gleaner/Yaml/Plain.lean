import Gleaner.Json.Number

/-!
# What plain scalars mean

A plain scalar is null, a truth value or a number where it is spelled as one, and a text otherwise.
-/

namespace Gleaner.Yaml

/-- Whether a text spells null. -/
def isNullWord (s : String) : Bool := ["null", "Null", "NULL", "~"].contains s

/-- The truth value that a text spells. -/
def flag? (s : String) : Option Bool :=
  if ["true", "True", "TRUE"].contains s then some true
  else if ["false", "False", "FALSE"].contains s then some false
  else none

/-- The value of a digit of any base up to sixteen. -/
def baseDigit? (base : Nat) (c : Char) : Option Nat :=
  let n :=
    if isDigit c then digitValue c
    else if 'a' ≤ c && c ≤ 'f' then c.toNat - 'a'.toNat + 10
    else if 'A' ≤ c && c ≤ 'F' then c.toNat - 'A'.toNat + 10
    else base
  if n < base then some n else none

/-- The number that digits of a base spell. -/
def readBase? (base : Nat) (cs : List Char) : Option Nat :=
  if cs.isEmpty then none
  else (cs.mapM (baseDigit? base)).map (·.foldl (fun acc d => base * acc + d) 0)

/-- The number that digits after the mark of a base spell. -/
def readMarked? : List Char → Option Nat
  | '0' :: 'x' :: rest => readBase? 16 rest
  | '0' :: 'o' :: rest => readBase? 8 rest
  | '0' :: 'b' :: rest => readBase? 2 rest
  | _ => none

/-- Whether a text is digits with needless zeros in front, and so no number. -/
def isPadded (cs : List Char) : Bool :=
  let bare :=
    match cs with
    | '-' :: rest => rest
    | '+' :: rest => rest
    | cs => cs
  1 < bare.length && startsWithZero bare && bare.all isDigit
where
  /-- Whether a text begins with a zero. -/
  startsWithZero (cs : List Char) : Bool := cs.head? = some '0'

/-- The integer that a text spells. -/
def readInteger? (cs : List Char) : Option Int :=
  let natural (cs : List Char) : Option Nat := (readMarked? cs).orElse fun _ => readNat? cs
  if isPadded cs then none
  else
    match cs with
    | '-' :: rest => (natural rest).map fun n => -(n : Int)
    | '+' :: rest => (natural rest).map fun n => (n : Int)
    | cs => (natural cs).map fun n => (n : Int)

/-- The finite double that decimal digits with a sign, a point or an exponent spell. Beyond four
hundred places before or after the point there is none, or zero. -/
def readDecimal? (cs : List Char) : Option Double :=
  let (negative, cs) : Bool × List Char :=
    match cs with
    | '-' :: rest => (true, rest)
    | '+' :: rest => (false, rest)
    | cs => (false, cs)
  let inMantissa (c : Char) : Bool := isDigit c || c = '.'
  let exponent? : Option Int :=
    match cs.dropWhile inMantissa with
    | [] => some 0
    | e :: rest =>
      match if e = 'e' || e = 'E' then Json.Number.readExponent rest else none with
      | some (n, []) => some n
      | _ => none
  match Decimal.read? (cs.takeWhile inMantissa), exponent? with
  | some d, some n =>
    let order := (digits d.coefficient).length + d.exponent + n
    if d.coefficient = 0 || order < -400 then some (if negative then -0 else 0)
    else if 400 < order then none
    else
      let x := (d.scale n).toDouble negative
      if x.isFinite then some x else none
  | _, _ => none

/-- Whether a text spells a number that is not finite. -/
def isNotFinite (s : String) : Bool :=
  [".inf", ".Inf", ".INF", "+.inf", "+.Inf", "+.INF", "-.inf", "-.Inf", "-.INF", ".nan", ".NaN",
    ".NAN"].contains s

/-- The document of an integer; nothing between the range of 64-bit words and that of 128-bit
words, and a double beyond it. -/
def integerJson? (n : Int) : Option (Option Json) :=
  let fits (bits : Nat) : Bool :=
    if 0 ≤ n then n.natAbs < Nat.pow 2 bits else n.natAbs ≤ Nat.pow 2 (bits - 1)
  if fits 64 then some (some (.ofInt n)) else if fits 128 then some none else none

/-- The document of a number that is no integer. -/
def realJson? (s : String) : Option Json :=
  if isNotFinite s then some .null
  else (readDecimal? s.toList).map fun x => .number (.real x)

/-- The document of a text as an integer, if it is one that can be kept. -/
def integerTextJson? (s : String) : Option (Option Json) :=
  (readInteger? s.toList).bind integerJson?

/-- The document of a plain scalar; nothing where it is a number that cannot be kept. -/
def plainJson (s : String) : Option Json :=
  if s.isEmpty || isNullWord s then some .null
  else
    match flag? s with
    | some b => some (.bool b)
    | none =>
      match integerTextJson? s with
      | some kept => kept
      | none =>
        if isPadded s.toList then some (.string s) else some ((realJson? s).getD (.string s))

end Gleaner.Yaml
