import Gleaner.Unicode.Category
import Gleaner.Unicode.Property
import Gleaner.Number.Decimal
import Gleaner.Text.Blank

/-!
# Character classes

Decimal digits and word characters as functions, by rule within ASCII and by table beyond it, and
as sets.
-/

namespace Gleaner.Unicode

/-- Whether a character is a decimal digit of some script. -/
def isDecimal (c : Char) : Bool :=
  if c.toNat < 128 then isDigit c else Category.decimalNumber.contains c

/-- Whether a character is a letter or digit of ASCII, or an underscore. -/
def isAsciiWord (c : Char) : Bool :=
  isDigit c || ('a' ≤ c && c ≤ 'z') || ('A' ≤ c && c ≤ 'Z') || c = '_'

/-- The letters of ASCII. -/
def asciiLetters : CodeRanges := (CodeRanges.within 'A' 'Z').union (.within 'a' 'z')

/-- The digits of ASCII. -/
def asciiDigits : CodeRanges := .within '0' '9'

/-- The letters and digits of ASCII, and the underscore. -/
def asciiWordRanges : CodeRanges := .unionAll [asciiLetters, asciiDigits, .ofChar '_']

/-- The white space of ASCII. -/
def asciiBlanks : CodeRanges := (CodeRanges.within '\t' '\r').union (.ofChar ' ')

/-- The characters of words: letters, marks, decimal digits, connectors and joiners. -/
def wordRanges : CodeRanges := .unionAll
  [Property.alphabetic, Category.nonspacingMark, Category.spacingMark, Category.enclosingMark,
    Category.decimalNumber, Category.connectorPunctuation, Property.joinControl]

/-- Whether a character can be part of a word. -/
def isWord (c : Char) : Bool :=
  if c.toNat < 128 then isAsciiWord c else wordRanges.contains c

end Gleaner.Unicode
