import Gleaner.Number.Shortest
import Gleaner.Unicode.Classes

/-!
# Units of human-readable numbers

Byte units, abbreviations of powers of a thousand, ordinal endings and currency signs, shared by
the reader and the writer of numerals.
-/

namespace Gleaner.Numeral

/-- Byte units by powers of 1000. -/
def decimalBytes : List String := ["B", "KB", "MB", "GB", "TB", "PB", "EB", "ZB", "YB"]

/-- Byte units by powers of 1024. -/
def binaryBytes : List String := ["B", "KiB", "MiB", "GiB", "TiB", "PiB", "EiB", "ZiB", "YiB"]

/-- The letters for powers of a thousand, with their powers of ten. -/
def abbreviations : List (Char × Nat) := [('k', 3), ('m', 6), ('b', 9), ('t', 12)]

/-- Currency signs. -/
def isCurrency (c : Char) : Bool := c = '$' || c = '€' || c = '£' || c = '¥'

/-- The endings of ordinal numbers. -/
def ordinalEndings : List String := ["st", "nd", "rd", "th"]

/-- The ending of an ordinal number in English. -/
def ordinalEnding (n : Nat) : String :=
  if 11 ≤ n % 100 ∧ n % 100 ≤ 13 then "th"
  else if n % 10 = 1 then "st"
  else if n % 10 = 2 then "nd"
  else if n % 10 = 3 then "rd"
  else "th"

/-- The text before an ending. -/
def stripEnding? (ending text : List Char) : Option (List Char) :=
  if ending.isSuffixOf text then some (text.take (text.length - ending.length)) else none

theorem stripEnding?_append (text ending : List Char) :
    stripEnding? ending (text ++ ending) = some text := by
  simp [stripEnding?]

end Gleaner.Numeral
