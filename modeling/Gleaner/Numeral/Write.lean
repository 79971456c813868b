import Gleaner.Numeral.Basic

/-!
# Writing numbers by a pattern

A pattern such as `0,0.00`, `$0,0`, `0%`, `0.0b`, `0ib`, `0.0a`, `0o`, `+0`, `(0)` or `00:00:00`
describes a `Style`, and the style writes the number.
-/

namespace Gleaner.Numeral

/-- What is written after the digits of a number. -/
inductive Suffix where
  /-- Nothing. -/
  | none
  /-- The number in hundredths with a percent sign. -/
  | percent
  /-- A byte unit, by powers of 1024. -/
  | binaryBytes
  /-- A byte unit, by powers of 1000. -/
  | decimalBytes
  /-- A letter for a power of a thousand. -/
  | abbreviation
  /-- An ordinal ending. -/
  | ordinal
  deriving DecidableEq, Repr

/-- Where the currency sign stands. -/
structure Currency where
  /-- Before the number, or after it. -/
  leading : Bool
  /-- Whether a space separates the two. -/
  spaced : Bool
  deriving DecidableEq, Repr

/-- How many digits follow the point, and whether thousands are grouped. -/
structure Places where
  /-- Whether commas separate groups of three digits. -/
  grouped : Bool
  /-- The fraction digits that are always written. -/
  least : Nat
  /-- The fraction digits that are written unless they are zeros at the end. -/
  most : Nat
  deriving DecidableEq, Repr

/-- How a number is written. -/
structure Style where
  /-- Negative numbers stand in parentheses. -/
  parentheses : Bool
  /-- Positive numbers have a sign. -/
  plus : Bool
  /-- The currency sign, if there is one. -/
  currency : Option Currency
  /-- What follows the digits. -/
  suffix : Suffix
  /-- Whether a space separates the digits from what follows them. -/
  suffixSpaced : Bool
  /-- The digits. -/
  places : Places
  deriving DecidableEq, Repr

/-- A pattern with one marker and a space on each side of it taken out: where it stood, whether
there was such a space, and the rest of the pattern. -/
structure Marked where
  index : Nat
  spaced : Bool
  rest : List Char

/-- The place of the first occurrence of a text in another. -/
def indexOf? (needle : List Char) : List Char → Option Nat
  | [] => if needle.isEmpty then some 0 else none
  | c :: cs =>
    if needle.isPrefixOf (c :: cs) then some 0 else (indexOf? needle cs).map (· + 1)

/-- Takes the first occurrence of a marker out of a pattern. -/
def takeMarker? (marker pattern : List Char) : Option Marked :=
  (indexOf? marker pattern).map fun index =>
    let before := pattern.take index
    let after := pattern.drop (index + marker.length)
    let spaceBefore := before.getLast? = some ' '
    let spaceAfter := after.head? = some ' '
    { index := if spaceBefore then index - 1 else index
      spaced := spaceBefore || spaceAfter
      rest := (if spaceBefore then before.dropLast else before) ++
        (if spaceAfter then after.drop 1 else after) }

/-- The markers of the suffixes, in the order in which they are looked for. -/
def suffixMarkers : List (String × Suffix) :=
  [("%", .percent), ("ib", .binaryBytes), ("b", .decimalBytes), ("a", .abbreviation),
    ("o", .ordinal)]

/-- The suffix of a pattern, whether a space separates it, and the rest of the pattern. -/
def takeSuffix (pattern : List Char) : Suffix × Bool × List Char :=
  let found := suffixMarkers.findSome? fun (marker, suffix) =>
    (takeMarker? marker.toList pattern).map fun m => (suffix, m.spaced, m.rest)
  found.getD (.none, false, pattern)

/-- The digits that a pattern such as `0,0`, `0.00`, `0.0[00]` or `0[.]00` asks for. -/
def placesOf (pattern : List Char) : Places :=
  let grouped := pattern.contains ','
  match pattern.dropWhile (· ≠ '.') with
  | [] => ⟨grouped, 0, 0⟩
  | _ :: after =>
    let optionalPoint := (pattern.takeWhile (· ≠ '.')).getLast? = some '['
    let fixed := (after.takeWhile (· ≠ '[')).count '0'
    let optional := (after.dropWhile (· ≠ '[')).count '0'
    ⟨grouped, if optionalPoint then 0 else fixed, fixed + optional⟩

/-- The place of the first digit of a pattern, its length if there is none. -/
def firstDigitPlace (pattern : List Char) : Nat :=
  (pattern.takeWhile fun c => c ≠ '0' && c ≠ '#').length

/-- The style that a pattern describes. -/
def Style.ofPattern (pattern : List Char) : Style :=
  let bare := pattern.filter fun c => c ≠ '(' && c ≠ ')' && c ≠ '+'
  let (currency, bare) : Option Currency × List Char :=
    match takeMarker? ['$'] bare with
    | some m => (some ⟨m.index ≤ firstDigitPlace m.rest, m.spaced⟩, m.rest)
    | none => (none, bare)
  let (suffix, suffixSpaced, bare) := takeSuffix bare
  { parentheses := pattern.contains '('
    plus := pattern.contains '+'
    currency, suffix, suffixSpaced
    places := placesOf bare }

/-- Digits in groups of three from the right, with commas between them. -/
def groupThousands (cs : List Char) : List Char :=
  match cs with
  | [] => []
  | c :: rest =>
    if rest.length % 3 = 0 && rest ≠ [] then c :: ',' :: groupThousands rest
    else c :: groupThousands rest

/-- A text without zeros at its end, as long as it is longer than a number of characters. -/
def trimZeros (least : Nat) (cs : List Char) : List Char :=
  let zeros := (cs.reverse.takeWhile (· = '0')).length
  cs.take (max least (cs.length - zeros))

/-- A number that is not negative with a fixed number of fraction digits. -/
def fixedText (x : Double) (fractionDigits : Nat) : List Char :=
  match x with
  | .finite _ a => a.fixedText fractionDigits
  | .infinite _ => "inf".toList
  | .nan => "NaN".toList

/-- The digits of a number that is not negative. -/
def Places.write (p : Places) (x : Double) : List Char :=
  let fixed := fixedText x p.most
  let whole := fixed.takeWhile (· ≠ '.')
  let fraction := trimZeros p.least ((fixed.dropWhile (· ≠ '.')).drop 1)
  let whole := if p.grouped then groupThousands whole else whole
  if fraction.isEmpty then whole else whole ++ '.' :: fraction

/-- A number divided by a base until it is below it, at most so many times, and how often. -/
def scaleDown (base : Double) : Nat → Double → Double × Nat
  | 0, x => (x, 0)
  | steps + 1, x =>
    if base.atMost x then
      let (y, n) := scaleDown base steps (x / base)
      (y, n + 1)
    else (x, 0)

/-- The number that is written in front of a suffix, and the text of the suffix. -/
def Suffix.split (suffix : Suffix) (magnitude : Double) : Double × List Char :=
  match suffix with
  | .none => (magnitude, [])
  | .percent => (magnitude * 100, ['%'])
  | .binaryBytes =>
    let (x, n) := scaleDown 1024 8 magnitude
    (x, (Numeral.binaryBytes.getD n "").toList)
  | .decimalBytes =>
    let (x, n) := scaleDown 1000 8 magnitude
    (x, (Numeral.decimalBytes.getD n "").toList)
  | .abbreviation =>
    match abbreviations.reverse.find? fun (_, power) =>
      (Double.ofNat (Nat.pow 10 power)).atMost magnitude with
    | some (letter, power) => (magnitude / Double.ofNat (Nat.pow 10 power), [letter])
    | .none => (magnitude, [])
  | .ordinal => (magnitude, (ordinalEnding magnitude.round.toWord).toList)

/-- Whether a text has a digit other than zero. -/
def showsNonzero (cs : List Char) : Bool := cs.any fun c => '1' ≤ c && c ≤ '9'

/-- A number in a style. -/
def Style.write (style : Style) (x : Double) : List Char :=
  let (magnitude, suffix) := style.suffix.split x.abs
  let number := style.places.write magnitude
  let suffix := if style.suffixSpaced && !suffix.isEmpty then ' ' :: suffix else suffix
  let body :=
    match style.currency with
    | some ⟨leading, spaced⟩ =>
      let space := if spaced then [' '] else []
      if leading then '$' :: space ++ number ++ suffix else number ++ suffix ++ space ++ ['$']
    | none => number ++ suffix
  if x.less 0 && showsNonzero number then
    if style.parentheses then '(' :: body ++ [')'] else '-' :: body
  else if style.plus && Double.less 0 x then '+' :: body
  else body

/-- The text of a number that is not negative by its fewest digits, without an exponent. -/
def plainText : Double → List Char
  | .finite _ a => if a.units = 0 then ['0'] else (a.shortest .up).positional
  | .infinite _ => "inf".toList
  | .nan => "NaN".toList

/-- A number of seconds as `h:mm:ss`. -/
def writeDuration (x : Double) : List Char :=
  let total := x.abs
  let hours := (total / 3600).floor
  let minutes := ((total - hours * 3600) / 60).floor
  let seconds := (total - hours * 3600 - minutes * 60).round
  (if x.less 0 then ['-'] else []) ++ plainText hours ++
    ':' :: paddedDigits 2 minutes.toWord ++ ':' :: paddedDigits 2 seconds.toWord

/-- A number written by a pattern; one with a colon asks for a duration. -/
def write (x : Double) (pattern : List Char) : List Char :=
  if pattern.contains ':' then writeDuration x else (Style.ofPattern pattern).write x

end Gleaner.Numeral
