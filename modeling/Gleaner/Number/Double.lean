import Gleaner.Number.Magnitude

/-!
# Double-precision numbers

`Double` has the values of IEEE 754 binary64 with a single NaN. Each operation computes its exact
result on units of `2⁻¹⁰⁷⁴` and rounds once, to the nearest double and to the even one on a tie.
-/

namespace Gleaner

/-- A double-precision floating-point number. -/
inductive Double where
  /-- Not a number. -/
  | nan
  /-- An infinity. -/
  | infinite (negative : Bool)
  /-- A finite number, the two zeros included. -/
  | finite (negative : Bool) (magnitude : Magnitude)
  deriving DecidableEq

namespace Double

/-- Positive zero. -/
def zero : Double := .finite false .zero

instance : Inhabited Double := ⟨zero⟩

/-- The double nearest to `± n / d` units, an infinity when that is out of range. -/
def ofUnits (negative : Bool) (n d : Nat) : Double :=
  match Magnitude.ofUnits? n d with
  | some a => .finite negative a
  | none => .infinite negative

/-- The double nearest to `± n / d`. -/
def ofRatio (negative : Bool) (n d : Nat) : Double :=
  ofUnits negative (n * unitsPerOne) d

/-- The double nearest to a natural number. -/
def ofNat (n : Nat) : Double := ofRatio false n 1

/-- The double nearest to an integer; zero is the positive one. -/
def ofInt (n : Int) : Double := ofRatio (n < 0) n.natAbs 1

instance (n : Nat) : OfNat Double n := ⟨ofNat n⟩

/-- Rounding a finite number's own units gives the number back. -/
theorem ofUnits_units (negative : Bool) (a : Magnitude) :
    ofUnits negative a.units 1 = .finite negative a := by
  rw [ofUnits, Magnitude.ofUnits?_units]

/-- Whether the number is neither infinite nor NaN. -/
def isFinite : Double → Bool
  | .finite .. => true
  | _ => false

/-- Whether the number is NaN. -/
def isNaN : Double → Bool
  | .nan => true
  | _ => false

/-- Whether the number is one of the two zeros. -/
def isZero : Double → Bool
  | .finite _ a => a.units == 0
  | _ => false

/-- Whether the number is finite and has no fractional part. -/
def isInteger : Double → Bool
  | .finite _ a => a.isInteger
  | _ => false

/-- The negation; the negation of NaN is NaN. -/
def neg : Double → Double
  | .nan => .nan
  | .infinite s => .infinite !s
  | .finite s a => .finite (!s) a

/-- The absolute value. -/
def abs : Double → Double
  | .nan => .nan
  | .infinite _ => .infinite false
  | .finite _ a => .finite false a

/-- The units of a finite number with their sign. -/
def signedUnits (negative : Bool) (a : Magnitude) : Int :=
  if negative then -(a.units : Int) else a.units

/-- The sum; opposite numbers add up to positive zero. -/
def add : Double → Double → Double
  | .finite s a, .finite t b =>
    let sum := signedUnits s a + signedUnits t b
    if sum = 0 then .finite (s && t) .zero else ofUnits (sum < 0) sum.natAbs 1
  | .infinite s, .infinite t => if s = t then .infinite s else .nan
  | .infinite s, .finite .. => .infinite s
  | .finite .., .infinite t => .infinite t
  | _, _ => .nan

/-- The difference. -/
def sub (x y : Double) : Double := add x y.neg

/-- The product. -/
def mul : Double → Double → Double
  | .finite s a, .finite t b => ofUnits (s != t) (a.units * b.units) unitsPerOne
  | .infinite s, .infinite t => .infinite (s != t)
  | .infinite s, .finite t b => if b.units = 0 then .nan else .infinite (s != t)
  | .finite s a, .infinite t => if a.units = 0 then .nan else .infinite (s != t)
  | _, _ => .nan

/-- The quotient. -/
def div : Double → Double → Double
  | .finite s a, .finite t b =>
    if b.units = 0 then
      if a.units = 0 then .nan else .infinite (s != t)
    else ofUnits (s != t) (a.units * unitsPerOne) b.units
  | .infinite s, .finite t _ => .infinite (s != t)
  | .finite s _, .infinite t => .finite (s != t) .zero
  | _, _ => .nan

instance : Add Double := ⟨add⟩
instance : Sub Double := ⟨sub⟩
instance : Mul Double := ⟨mul⟩
instance : Div Double := ⟨div⟩
instance : Neg Double := ⟨neg⟩

/-- The numeric order; NaN is not comparable. -/
def order : Double → Double → Option Ordering
  | .nan, _ => none
  | _, .nan => none
  | .infinite s, .infinite t => some (compare t s)
  | .infinite s, .finite .. => some (if s then .lt else .gt)
  | .finite .., .infinite t => some (if t then .gt else .lt)
  | .finite s a, .finite t b => some (compare (signedUnits s a) (signedUnits t b))

/-- Numeric equality: the zeros are equal, NaN equals nothing. -/
def equals (x y : Double) : Bool := order x y == some .eq

/-- Numeric `<`. -/
def less (x y : Double) : Bool := order x y == some .lt

/-- Numeric `≤`. -/
def atMost (x y : Double) : Bool :=
  match order x y with
  | some .gt | none => false
  | _ => true

/-- The number without its fractional part. -/
def trunc : Double → Double
  | .finite s a => ofRatio s a.floorNat 1
  | x => x

/-- The largest integer not above the number. -/
def floor : Double → Double
  | .finite s a => ofRatio s (if s then a.ceilNat else a.floorNat) 1
  | x => x

/-- The smallest integer not below the number. -/
def ceil : Double → Double
  | .finite s a => ofRatio s (if s then a.floorNat else a.ceilNat) 1
  | x => x

/-- The nearest integer, a half away from zero. -/
def round : Double → Double
  | .finite s a => ofRatio s a.roundNat 1
  | x => x

/-- The integer part, brought into a range; NaN becomes zero. -/
def toIntWithin (low high : Int) : Double → Int
  | .nan => 0
  | .infinite s => if s then low else high
  | .finite s a =>
    let n : Int := if s then -(a.floorNat : Int) else a.floorNat
    max low (min high n)

/-- The first integer above the signed 64-bit words. -/
def signedWordLimit : Int := (Nat.pow 2 63 : Nat)

/-- The integer part, brought into the range of 64-bit words. -/
def toWord (x : Double) : Nat := (x.toIntWithin 0 (2 * signedWordLimit - 1)).toNat

/-- The integer part, brought into the range of signed 64-bit words. -/
def toSignedWord (x : Double) : Int :=
  x.toIntWithin (-signedWordLimit) (signedWordLimit - 1)

end Double
end Gleaner
