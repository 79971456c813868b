import Gleaner.Numeral.Basic

/-!
# Reading human-readable numbers

`Numeral.read?` understands thousands separators, currency signs, percentages, byte units,
abbreviations, ordinals and `h:mm:ss` durations.
-/

namespace Gleaner.Numeral

/-- What the number of a text is multiplied by. -/
inductive Scale where
  /-- A power of ten, joined to the digits before they are rounded. -/
  | ten (power : Int)
  /-- A power of 1024, applied to the rounded number. -/
  | binary (power : Nat)
  deriving DecidableEq, Repr

/-- Whether a character is a quotation mark of a quoted number. -/
def isQuote (c : Char) : Bool := c = '\'' || c = '"'

/-- A text without the characters of a class at both ends. -/
def stripBoth (p : Char → Bool) (cs : List Char) : List Char :=
  ((cs.dropWhile p).reverse.dropWhile p).reverse

/-- A text without outer blanks and quotation marks. -/
def bare (cs : List Char) : List Char := trim (stripBoth isQuote (trim cs))

/-- A text cut at each occurrence of a character. -/
def cutAt (separator : Char) : List Char → List (List Char)
  | [] => [[]]
  | c :: cs =>
    if c = separator then [] :: cutAt separator cs
    else
      match cutAt separator cs with
      | [] => [[c]]
      | part :: parts => (c :: part) :: parts

/-- Whether a text is a non-empty run of decimal digits of any script. -/
def isDigitRun (cs : List Char) : Bool := !cs.isEmpty && cs.all Unicode.isDecimal

/-- Whether a text is digits, with or without a point and more digits. -/
def isSecondsPart (cs : List Char) : Bool :=
  match cutAt '.' cs with
  | [whole] => isDigitRun whole
  | [whole, fraction] => isDigitRun whole && isDigitRun fraction
  | _ => false

/-- The number of a part of a duration; digits beyond ASCII count as zero. -/
def durationPart (cs : List Char) : Double :=
  match Decimal.read? cs with
  | some d => d.toDouble false
  | none => 0

/-- The seconds of a duration `m:s` or `h:m:s`. -/
def readDuration? (cs : List Char) : Option Double :=
  match cutAt ':' cs with
  | [minutes, seconds] =>
    if isDigitRun minutes && isDigitRun seconds then
      some (durationPart minutes * 60 + durationPart seconds)
    else none
  | [hours, minutes, seconds] =>
    if isDigitRun hours && isDigitRun minutes && isSecondsPart seconds then
      some (durationPart hours * 3600 + durationPart minutes * 60 + durationPart seconds)
    else none
  | _ => none

/-- Whether the signs and parentheses of a text make its number negative. -/
def isNegative (cs : List Char) : Bool :=
  cs.count '-' % 2 = 1 || (cs.head? = some '(' && cs.getLast? = some ')')

/-- Whether a character takes no part in the number: blanks, signs, parentheses, separators and
currency signs. -/
def isIgnored (c : Char) : Bool :=
  isBlank c || c = '-' || c = '+' || c = '(' || c = ')' || c = ',' || isCurrency c

/-- The first of a list of endings that a text has, as the rest and the place in the list. -/
def stripUnit? (units : List String) (cs : List Char) : Option (List Char × Nat) :=
  (units.zipIdx).findSome? fun (unit, i) => (stripEnding? unit.toList cs).map (·, i)

/-- The text before an ordinal ending that follows a digit. -/
def stripOrdinal? (cs : List Char) : Option (List Char) :=
  ordinalEndings.findSome? fun ending =>
    (stripEnding? ending.toList cs).filter fun rest => rest.getLast?.any isDigit

/-- The text before an abbreviation, with its power of ten. -/
def stripAbbreviation? (cs : List Char) : Option (List Char × Nat) :=
  abbreviations.findSome? fun (letter, power) => (stripEnding? [letter] cs).map (·, power)

/-- The digits of a number and the scale that its unit stands for. -/
def splitUnit (cs : List Char) : List Char × Scale :=
  match stripEnding? ['%'] cs with
  | some rest => (rest, .ten (-2))
  | none =>
  match stripUnit? (binaryBytes.drop 1) cs with
  | some (rest, i) => (rest, .binary (i + 1))
  | none =>
  match stripUnit? (decimalBytes.drop 1) cs with
  | some (rest, i) => (rest, .ten ((i + 1) * 3))
  | none =>
  match stripEnding? ['B'] cs with
  | some rest => (rest, .ten 0)
  | none =>
  match stripOrdinal? cs with
  | some rest => (rest, .ten 0)
  | none =>
  match stripAbbreviation? cs with
  | some (rest, power) => (rest, .ten power)
  | none => (cs, .ten 0)

/-- The double that digits and a scale stand for. -/
def Scale.apply : Scale → Decimal → Double
  | .ten power, d => (d.scale power).toDouble false
  | .binary power, d => d.toDouble false * Double.ofNat (Nat.pow 1024 power)

/-- The number that a text spells, if it spells one. -/
def read? (input : List Char) : Option Double :=
  let text := bare input
  if text.isEmpty then none
  else
    match readDuration? text with
    | some seconds => some seconds
    | none =>
      let (body, scale) := splitUnit (text.filter (!isIgnored ·))
      if body.any isDigit && body.all fun c => isDigit c || c = '.' then
        (Decimal.read? body).map fun d =>
          let magnitude := scale.apply d
          if isNegative text then -magnitude else magnitude
      else none

end Gleaner.Numeral
