import Gleaner.Number.Decimal
import Gleaner.Unicode.Later

/-!
# Quoted text

Text in quotation marks as messages show it: with escapes for quotation marks, backslashes, control
characters and everything that does not print by itself.
-/

namespace Gleaner

/-- Whether a character prints by itself. -/
def isPrintable (c : Char) : Bool := c = ' ' || Unicode.Later.printing.contains c

/-- The hexadecimal digits of a number in lower case. -/
def hexDigits (n : Nat) : List Char := Nat.toDigits 16 n

/-- A character between quotation marks. -/
def quoteChar (c : Char) : List Char :=
  if c = '\x00' then "\\0".toList
  else if c = '\t' then "\\t".toList
  else if c = '\r' then "\\r".toList
  else if c = '\n' then "\\n".toList
  else if c = '"' then "\\\"".toList
  else if c = '\\' then "\\\\".toList
  else if Unicode.Later.graphemeExtend.contains c || !isPrintable c then
    "\\u\x7b".toList ++ hexDigits c.toNat ++ ['\x7d']
  else [c]

/-- A text in quotation marks. -/
def quoteText (s : String) : String := .ofList ('"' :: s.toList.flatMap quoteChar ++ ['"'])

end Gleaner
