import Gleaner.Unicode.Age
import Gleaner.Unicode.Boundary
import Gleaner.Unicode.Classes
import Gleaner.Unicode.Script
import Gleaner.Unicode.Case

/-!
# Named sets of characters

The sets that a pattern can name: general categories, scripts and properties of Unicode under any of
their names, and the classes of ASCII. Names are compared loosely: case, spaces, hyphens,
underscores and a leading `is` do not count.
-/

namespace Gleaner.Pattern

open Unicode (CodeRanges NamedRanges)

/-- A name without what does not count in a comparison. -/
def looseName (cs : List Char) : List Char :=
  let lowered := Unicode.asciiLower cs
  let hasIs := "is".toList.isPrefixOf lowered
  let rest := (if hasIs then lowered.drop 2 else lowered).filter fun c =>
    c ≠ ' ' && c ≠ '_' && c ≠ '-' && c.toNat < 128
  if hasIs && rest = ['c'] then "isc".toList else rest

/-- Whether a name of a set agrees with one that is read. -/
def isNamed (name : List Char) (own : String) : Bool := looseName own.toList = name

/-- The set with a name. -/
def findNamed? (sets : List NamedRanges) (name : List Char) : Option CodeRanges :=
  (sets.find? fun s => s.names.any (isNamed name)).map NamedRanges.ranges

/-- General categories that are unions of others, with their names. -/
def categoryGroups : List (List String × List String) :=
  [(["LC", "Cased_Letter"], ["Lu", "Ll", "Lt"]),
   (["L", "Letter"], ["Lu", "Ll", "Lt", "Lm", "Lo"]),
   (["M", "Mark", "Combining_Mark"], ["Mn", "Mc", "Me"]),
   (["N", "Number"], ["Nd", "Nl", "No"]),
   (["P", "Punctuation", "punct"], ["Pc", "Pd", "Ps", "Pe", "Pi", "Pf", "Po"]),
   (["S", "Symbol"], ["Sm", "Sc", "Sk", "So"]),
   (["Z", "Separator"], ["Zs", "Zl", "Zp"])]

/-- The union of general categories given by their short names. -/
def categoryUnion (shorts : List String) : CodeRanges :=
  .unionAll ((Unicode.Category.all.filter fun s =>
    s.names.any shorts.contains).map NamedRanges.ranges)

/-- All assigned characters. -/
def assigned : CodeRanges := .unionAll (Unicode.Category.all.map NamedRanges.ranges)

/-- The set of a general category. -/
def category? (name : List Char) : Option CodeRanges :=
  if name = "any".toList then some .all
  else if name = "ascii".toList then some (.between 0 127)
  else if name = "assigned".toList then some assigned
  else if name = "unassigned".toList || name = "cn".toList then some assigned.complement
  else if name = "c".toList || name = "other".toList then
    some (assigned.complement.union (categoryUnion ["Cc", "Cf", "Co"]))
  else
    match findNamed? Unicode.Category.all name with
    | some ranges => some ranges
    | none =>
      (categoryGroups.find? fun (names, _) => names.any (isNamed name)).map fun (_, parts) =>
        categoryUnion parts

/-- The script with a name. -/
def script? (name : List Char) : Option Unicode.Script.Entry :=
  Unicode.Script.all.find? fun entry => entry.names.any (isNamed name)

/-- The set that a name alone stands for: a binary property, else a general category, else a
script. Three short names of properties stand for categories. -/
def namedSet? (name : List Char) : Option CodeRanges :=
  let name := looseName name
  let property :=
    if name = "cf".toList || name = "sc".toList || name = "lc".toList then none
    else findNamed? Unicode.Property.all name
  property <|> category? name <|> (script? name).map Unicode.Script.Entry.ranges

/-- The properties that have values, under their names, with the sets of the values. -/
def valuedProperties : List (List String × (List Char → Option CodeRanges)) :=
  [(["gc", "General_Category"], category?),
   (["sc", "Script"], fun value => (script? value).map Unicode.Script.Entry.ranges),
   (["scx", "Script_Extensions"], fun value => (script? value).map Unicode.Script.Entry.extended),
   (["age"], fun value => Unicode.Age.upTo? (isNamed value) .empty Unicode.Age.all),
   (["gcb", "Grapheme_Cluster_Break"], findNamed? Unicode.Boundary.grapheme),
   (["wb", "Word_Break"], findNamed? Unicode.Boundary.word),
   (["sb", "Sentence_Break"], findNamed? Unicode.Boundary.sentence)]

/-- The set that a property and a value stand for. -/
def valuedSet? (property value : List Char) : Option CodeRanges :=
  let property := looseName property
  (valuedProperties.find? fun (names, _) => names.any (isNamed property)).bind fun (_, read) =>
    read (looseName value)

/-- The set of a class of ASCII. -/
def asciiClass? (name : List Char) : Option CodeRanges :=
  let letters := Unicode.asciiLetters
  let digits := Unicode.asciiDigits
  let graph := CodeRanges.within '!' '~'
  let classes : List (String × CodeRanges) :=
    [("alnum", letters.union digits), ("alpha", letters), ("ascii", .between 0 127),
     ("blank", .ofChars ['\t', ' ']), ("cntrl", (CodeRanges.between 0 31).union (.ofCode 127)),
     ("digit", digits), ("graph", graph), ("lower", .within 'a' 'z'), ("print", .within ' ' '~'),
     ("punct", graph.diff (letters.union digits)), ("space", Unicode.asciiBlanks),
     ("upper", .within 'A' 'Z'), ("word", Unicode.asciiWordRanges),
     ("xdigit", .unionAll [digits, .within 'A' 'F', .within 'a' 'f'])]
  classes.lookup (.ofList name)

end Gleaner.Pattern
