import Gleaner.Json.Basic

/-!
# JSON number literals

An integer literal that fits into a 64-bit word stays an integer. Any other literal becomes a
double in two steps: as many leading digits as fit into 64 bits become the nearest double, which
is then multiplied or divided by a power of ten. A literal beyond the range of doubles is refused.
-/

namespace Gleaner.Json.Number

/-- The parts of a number literal: digits before the point, after it, and the exponent. -/
structure Literal where
  negative : Bool
  whole : List Char
  fraction : Option (List Char)
  exponent : Option Int

/-- Whether a text begins with a minus sign, and the text without it. -/
def readMinus : List Char → Bool × List Char
  | '-' :: rest => (true, rest)
  | cs => (false, cs)

/-- The digits after a point, if there is one at the start of a text, with the rest of the text. -/
def readFractionPart : List Char → Option (Option (List Char) × List Char)
  | '.' :: rest =>
    let digits := rest.takeWhile isDigit
    if digits.isEmpty then none else some (some digits, rest.dropWhile isDigit)
  | cs => some (none, cs)

/-- The sign and the digits of an exponent. -/
def readExponent (cs : List Char) : Option (Int × List Char) :=
  let (negative, rest) :=
    match cs with
    | '+' :: rest => (false, rest)
    | cs => readMinus cs
  (readNat? (rest.takeWhile isDigit)).map fun n : Nat =>
    (if negative then -(n : Int) else n, rest.dropWhile isDigit)

/-- The exponent, if there is one at the start of a text, with the rest of the text. -/
def readExponentPart : List Char → Option (Option Int × List Char)
  | [] => some (none, [])
  | c :: rest =>
    if c = 'e' || c = 'E' then (readExponent rest).map fun (e, rest) => (some e, rest)
    else some (none, c :: rest)

/-- A number literal at the start of a text, with the rest of the text. -/
def readLiteral (cs : List Char) : Option (Literal × List Char) :=
  let (negative, cs) := readMinus cs
  let whole := cs.takeWhile isDigit
  if whole.isEmpty || (whole.length > 1 && whole.head? == some '0') then none
  else do
    let (fraction, cs) ← readFractionPart (cs.dropWhile isDigit)
    let (exponent, cs) ← readExponentPart cs
    some (⟨negative, whole, fraction, exponent⟩, cs)

/-- The number of leading digits that fit into a 64-bit word, as that number and the digits left
over. -/
def takeWord : Nat → List Char → Nat × List Char
  | n, [] => (n, [])
  | n, c :: cs =>
    let next := 10 * n + digitValue c
    if next < Nat.pow 2 64 then takeWord next cs else (n, c :: cs)

/-- A double multiplied by a power of ten in steps that are doubles themselves; nothing when the
result is out of range. -/
def scaleByTen : Nat → Double → Int → Option Double
  | 0, _, _ => none
  | fuel + 1, x, exponent =>
    if exponent.natAbs ≤ 308 then
      let power := Double.ofNat (Nat.pow 10 exponent.natAbs)
      if 0 ≤ exponent then
        let y := x * power
        if y.isFinite then some y else none
      else some (x / power)
    else if x.isZero then some x
    else if 0 ≤ exponent then none
    else scaleByTen fuel (x / Double.ofNat (Nat.pow 10 308)) (exponent + 308)

/-- The double that a significand and an exponent of ten stand for. After four steps of division
every double is zero. -/
def fromParts (negative : Bool) (significand : Nat) (exponent : Int) : Option Double :=
  (scaleByTen 6 (.ofNat significand) exponent).map fun x => if negative then -x else x

/-- The double that a literal stands for. -/
def Literal.toDouble? (l : Literal) : Option Double :=
  let exponent := l.exponent.getD 0
  let (n, left) := takeWord 0 l.whole
  let (significand, used) : Nat × Nat :=
    match l.fraction with
    | none => (n, 0)
    | some digits =>
      let (m, rest) := takeWord n digits
      (m, digits.length - rest.length)
  if exponent.natAbs < Nat.pow 2 31 then
    fromParts l.negative significand (exponent + left.length - used)
  else if significand ≠ 0 && 0 < exponent then none
  else some (if l.negative then -0 else 0)

/-- The number that a literal stands for. -/
def Literal.toNumber? (l : Literal) : Option Number :=
  let n := ofDigits l.whole
  if l.fraction.isNone && l.exponent.isNone && n < Nat.pow 2 64 then
    if !l.negative then some (.integer n)
    else if n = 0 || Nat.pow 2 63 < n then some (.real (-Double.ofNat n))
    else some (.integer (-(n : Int)))
  else l.toDouble?.map .real

/-- The number that a text spells, nothing else being in it. -/
def ofText? (cs : List Char) : Option Number :=
  match readLiteral cs with
  | some (l, []) => l.toNumber?
  | _ => none

end Gleaner.Json.Number
