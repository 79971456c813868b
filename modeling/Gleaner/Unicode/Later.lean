import Gleaner.Unicode.Category
import Gleaner.Unicode.Property

/-!
# Properties in version 17 of Unicode

Patterns keep to version 16 of Unicode. Whatever looks at single characters of a text follows
version 17: its additions to the properties that count there.
-/

namespace Gleaner.Unicode.Later

/-- Letters and marks in words of letters that are new. -/
def newAlphabetic : CodeRanges := .ofLines
    ["1ov r0 3j ult,2 2 1 s j7y,q 12j,3 1e,2 2g4,8 g8,18 fyc,p 2,p 7y,5 4qp,8 zt,m 2p,37 hjh,v",
     "1,m 8,2 154q,6 4ma,c gsi,3be"]

/-- Numbers that are new. -/
def newNumbers : CodeRanges := .ofLines
    ["1kgw,a g7e,3"]

/-- Other characters that are new and print. -/
def newPrinting : CodeRanges := .ofLines
    ["5an,f 2,c 15h 250 154c,g cd,2 1i,7 3cx,9 11k1,3 cd,n f,h 7vr 4e,4 9h,9 aj,4 1e 3 1l 4 s 4",
     "7e"]

/-- Extenders of graphemes that are new. -/
def newGraphemeExtend : CodeRanges := .ofLines
    ["5an,f 2,c 1c7i,2 2g4 1,3 1 1470 2 7,2 5"]

/-- Cased characters that are new. -/
def newCased : CodeRanges := .ofLines
    ["x5a,2 2 1 s 138u,p 2,p"]

/-- New characters that are skipped where the case of the neighbours counts. -/
def newCaseIgnorable : CodeRanges := .ofLines
    ["5an,f 2,c rut kb7 1g,2 2g4 1,3 1 he g7s,2 nhr 2 7,2 5 9"]

/-- Characters that form words of letters. -/
def alphabetic : CodeRanges := Property.alphabetic.union newAlphabetic

/-- The categories whose short names begin with a letter. -/
def categories (letter : Char) : CodeRanges :=
  .unionAll ((Category.all.filter fun category =>
    category.names.any fun name => name.length = 2 && name.toList.head? == some letter).map
      NamedRanges.ranges)

/-- Numbers. -/
def numbers : CodeRanges := (categories 'N').union newNumbers

/-- Characters that print by themselves, other than the space: letters, marks, numbers, punctuation
and symbols. -/
def printing : CodeRanges :=
  .unionAll (newAlphabetic :: newNumbers :: newPrinting :: ['L', 'M', 'N', 'P', 'S'].map categories)

/-- Extenders of graphemes. -/
def graphemeExtend : CodeRanges := Property.graphemeExtend.union newGraphemeExtend

/-- Characters with a case. The glottal stop no longer has one. -/
def cased : CodeRanges := (Property.cased.union newCased).diff (.ofCode 0x295)

/-- Characters skipped where the case of the neighbours counts. -/
def caseIgnorable : CodeRanges := Property.caseIgnorable.union newCaseIgnorable

end Gleaner.Unicode.Later
