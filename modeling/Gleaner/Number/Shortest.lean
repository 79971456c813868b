import Gleaner.Number.Decimal

/-!
# The shortest decimal that reads back

The decimals that round to a magnitude form an interval around it. `Magnitude.shortest` takes the
coarsest decimal grid with a point in that interval, and of two such points the nearer one.
-/

namespace Gleaner

/-- Which of two equally near decimals is taken. -/
inductive Tie where
  /-- The larger one. -/
  | up
  /-- The one with an even last digit. -/
  | toEven
  deriving DecidableEq

namespace Magnitude

/-- The decimals that round to a magnitude: bounds in quarters of a unit, and whether the bounds
themselves belong to it. -/
structure RoundingInterval where
  low : Nat
  high : Nat
  closed : Bool

/-- The rounding interval of a positive magnitude. Below a power of two the spacing is half of
that above it. -/
def roundingInterval (a : Magnitude) : RoundingInterval :=
  let spacing := a.spacing
  let below := if 1 < spacing ∧ a.units = Nat.pow 2 52 * spacing then spacing else 2 * spacing
  { low := 4 * a.units - below
    high := 4 * a.units + 2 * spacing
    closed := a.units / spacing % 2 = 0 }

/-- The number of a grid point `coefficient × 10 ^ exponent` in quarters of a unit, as numerator
and denominator: the numerator of `1` is the first component. -/
def gridScale (exponent : Int) : Nat × Nat :=
  (4 * unitsPerOne * Nat.pow 10 exponent.toNat, Nat.pow 10 (-exponent).toNat)

/-- Whether a decimal lies in a rounding interval. -/
def RoundingInterval.contains (i : RoundingInterval) (d : Decimal) : Bool :=
  let (num, den) := gridScale d.exponent
  let x := d.coefficient * num
  if i.closed then i.low * den ≤ x && x ≤ i.high * den
  else i.low * den < x && x < i.high * den

/-- The nearest point of a decimal grid that rounds to the magnitude. -/
def nearestOnGrid? (a : Magnitude) (tie : Tie) (exponent : Int) : Option Decimal :=
  let (num, den) := gridScale exponent
  let x := 4 * a.units * den
  let below := x / num
  let interval := a.roundingInterval
  let lower : Decimal := ⟨below, exponent⟩
  let upper : Decimal := ⟨below + 1, exponent⟩
  let rest := x % num
  let preferUpper :=
    num < 2 * rest || (2 * rest == num && (tie == .up || below % 2 == 1))
  match interval.contains lower && below != 0, interval.contains upper with
  | true, true => some (if preferUpper then upper else lower)
  | true, false => some lower
  | false, true => some upper
  | false, false => none

/-- An exponent of ten above the leading digit of a positive magnitude. -/
def topExponent (a : Magnitude) : Int :=
  (digits (a.units * Nat.pow 10 350 / unitsPerOne)).length - 350

/-- The decimal with the fewest digits that rounds to a positive magnitude, the nearest of those.
Seventeen digits always suffice; the exact decimal stands in for a search that goes on. -/
def shortest (tie : Tie) (a : Magnitude) : Decimal :=
  ((List.range 19).findSome? fun (step : Nat) =>
    a.nearestOnGrid? tie (a.topExponent - step)).getD
    a.exactDecimal

end Magnitude

namespace Double

/-- A number without an exponent: integers below 10²¹ exactly, all else by its shortest digits. -/
def display : Double → List Char
  | .nan => "NaN".toList
  | .infinite s => (if s then "-Infinity" else "Infinity").toList
  | .finite s a =>
    let body :=
      if a.isInteger && a.floorNat < Nat.pow 10 21 then digits a.floorNat
      else (a.shortest .up).positional
    if s && a.units ≠ 0 then '-' :: body else body

/-- The largest integer up to which all integers are doubles. -/
def maxSafeInteger : Nat := Nat.pow 2 53 - 1

/-- Whether the number is an integer of at most `maxSafeInteger` in absolute value. -/
def isSafeInteger : Double → Bool
  | .finite _ a => a.isInteger && a.floorNat ≤ maxSafeInteger
  | _ => false

/-- The text of a finite floating-point literal: positional while the exponent of the leading digit
lies in `-5 … 15`, always with a fraction or an exponent. -/
def literal : Double → List Char
  | .finite s a =>
    let sign := if s then ['-'] else []
    if a.units = 0 then sign ++ "0.0".toList
    else
      let d := a.shortest .toEven
      let ds := digits d.coefficient
      let leading : Int := d.exponent + ds.length - 1
      if -5 ≤ leading ∧ leading ≤ 15 then
        sign ++ d.positional ++ (if d.exponent < 0 then [] else ".0".toList)
      else
        let mantissa := ds.take 1 ++ (if ds.length ≤ 1 then [] else '.' :: ds.drop 1)
        sign ++ mantissa ++ 'e' :: (if leading < 0 then '-' else '+') :: digits leading.natAbs
  | _ => "null".toList

end Double
end Gleaner
