import Gleaner.Number.Double

/-!
# Decimal text

Decimal digits of natural numbers, decimal numbers with a power of ten, and the text of a
magnitude with a fixed number of places.
-/

namespace Gleaner

/-- The decimal digits of a natural number, without leading zeros. -/
def digits (n : Nat) : List Char := Nat.toDigits 10 n

/-- Whether a character is one of the ten ASCII digits. -/
def isDigit (c : Char) : Bool := '0' ≤ c && c ≤ '9'

/-- The value of an ASCII digit. -/
def digitValue (c : Char) : Nat := c.toNat - '0'.toNat

/-- The number that a list of ASCII digits spells. -/
def ofDigits (cs : List Char) : Nat := cs.foldl (fun n c => 10 * n + digitValue c) 0

/-- The number that a non-empty list of ASCII digits spells. -/
def readNat? (cs : List Char) : Option Nat :=
  if cs.isEmpty || !cs.all isDigit then none else some (ofDigits cs)

/-- A text brought to a width by characters in front of it. -/
def padLeft (width : Nat) (fill : Char) (cs : List Char) : List Char :=
  List.replicate (width - cs.length) fill ++ cs

theorem length_padLeft (width : Nat) (fill : Char) (cs : List Char) :
    (padLeft width fill cs).length = max width cs.length := by
  simp [padLeft]
  omega

/-- The decimal digits of a natural number with zeros in front up to a width. -/
def paddedDigits (width n : Nat) : List Char := padLeft width '0' (digits n)

/-- The decimal digits of an integer, with a minus sign where it is negative. -/
def intText (n : Int) : List Char :=
  if n < 0 then '-' :: digits n.natAbs else digits n.natAbs

/-- A non-negative number `coefficient × 10 ^ exponent`. -/
structure Decimal where
  /-- The digits as a number. -/
  coefficient : Nat
  /-- The power of ten of the last digit. -/
  exponent : Int
  deriving Repr, DecidableEq

namespace Decimal

/-- The double nearest to a decimal number with a sign. -/
def toDouble (negative : Bool) (d : Decimal) : Double :=
  Double.ofRatio negative (d.coefficient * Nat.pow 10 d.exponent.toNat)
    (Nat.pow 10 (-d.exponent).toNat)

/-- The number that digits with at most one point among them spell. -/
def read? (cs : List Char) : Option Decimal :=
  let whole := cs.takeWhile isDigit
  match cs.dropWhile isDigit with
  | [] => (readNat? whole).map (⟨·, 0⟩)
  | point :: fraction =>
    if point = '.' then
      (readNat? (whole ++ fraction)).map (⟨·, -(fraction.length : Int)⟩)
    else none

/-- The decimal number multiplied by a power of ten. -/
def scale (d : Decimal) (power : Int) : Decimal := ⟨d.coefficient, d.exponent + power⟩

/-- Digits with a point before the last `places` of them. -/
def pointBefore (places : Nat) (cs : List Char) : List Char :=
  if places = 0 then cs
  else
    let padded := padLeft (places + 1) '0' cs
    padded.take (padded.length - places) ++ '.' :: padded.drop (padded.length - places)

/-- The digits of a decimal number written without an exponent. -/
def positional (d : Decimal) : List Char :=
  pointBefore (-d.exponent).toNat (digits (d.coefficient * Nat.pow 10 d.exponent.toNat))

end Decimal

namespace Magnitude

/-- The magnitude as a decimal number, exactly. -/
def exactDecimal (a : Magnitude) : Decimal :=
  ⟨a.units * Nat.pow 5 unitExponent, -(unitExponent : Int)⟩

/-- The magnitude with a fixed number of places, rounded to the nearest such number and to an
even last digit on a tie. -/
def fixedText (a : Magnitude) (places : Nat) : List Char :=
  Decimal.pointBefore places (digits (nearestDiv (a.units * Nat.pow 10 places) unitsPerOne))

end Magnitude
end Gleaner
