import Gleaner.Pattern.Basic
import Gleaner.Pattern.Property

/-!
# Escapes

What a backslash begins in the notation of patterns: characters by their codes, sets by their names,
assertions, and characters that stand for themselves. The flags say how the notation is read.
-/

namespace Gleaner.Regex

open Unicode (CodeRanges)

/-- How the notation is read. -/
structure Flags where
  /-- Letters match in either case. -/
  ignoreCase : Bool := false
  /-- `^` and `$` hold at line ends too. -/
  multiLine : Bool := false
  /-- `.` matches a line feed too. -/
  dotAll : Bool := false
  /-- Repetitions are lazy, and greedy with a `?`. -/
  swapGreed : Bool := false
  /-- Classes and case follow Unicode instead of ASCII. -/
  unicode : Bool := true
  /-- Lines may end with a carriage return too. -/
  crlf : Bool := false
  /-- Blanks and comments are skipped. -/
  extended : Bool := false

/-- One element of the notation. -/
inductive Element where
  /-- A character; one written as a code of two digits is a byte where Unicode is off. -/
  | char (c : Char) (isByte : Bool)
  /-- A set of characters. -/
  | set (chars : CodeRanges)
  /-- A condition on the place. -/
  | assertion (a : Assertion)

/-- A text without a comment at its start. -/
def skipComment (cs : List Char) : List Char := (cs.dropWhile (· ≠ '\n')).drop 1

/-- A text without blanks and comments at its start, as far as they do not count. -/
def skipIgnored (flags : Flags) : Nat → List Char → List Char
  | 0, cs => cs
  | fuel + 1, cs =>
    if !flags.extended then cs
    else
      match cs with
      | [] => []
      | c :: rest =>
        if isBlank c then skipIgnored flags fuel rest
        else if c = '#' then skipIgnored flags fuel (skipComment rest)
        else cs

/-- A text without what does not count at its start. -/
def skip (flags : Flags) (cs : List Char) : List Char :=
  if flags.extended then skipIgnored flags cs.length cs else cs

/-- Whether a character is a letter of ASCII. -/
def isAsciiLetter (c : Char) : Bool := ('a' ≤ c && c ≤ 'z') || ('A' ≤ c && c ≤ 'Z')

/-- Whether a character has a meaning of its own in the notation. -/
def isMeta (c : Char) : Bool := "\\.+*?()|[]\x7b\x7d^$#&-~".toList.contains c

/-- Whether a backslash takes the meaning from a character. -/
def isEscapable (c : Char) : Bool :=
  isMeta c ||
    (c.toNat < 128 && !(isDigit c) && !(isAsciiLetter c) && c ≠ '<' && c ≠ '>')

/-- The value of a hexadecimal digit. -/
def hexDigit? (c : Char) : Option Nat :=
  if isDigit c then some (c.toNat - '0'.toNat)
  else if 'a' ≤ c && c ≤ 'f' then some (c.toNat - 'a'.toNat + 10)
  else if 'A' ≤ c && c ≤ 'F' then some (c.toNat - 'A'.toNat + 10)
  else none

/-- The character with a code, if there is one. -/
def charOfCode? (code : Nat) : Option Char :=
  if h : code.isValidChar then some (Char.ofNatAux code h) else none

/-- A fixed number of hexadecimal digits. -/
def readHexDigits (flags : Flags) : Nat → Nat → List Char → Option (Nat × List Char)
  | 0, n, cs => some (n, cs)
  | count + 1, n, cs =>
    match cs with
    | [] => none
    | c :: rest => do
      let d ← hexDigit? c
      readHexDigits flags count (16 * n + d) (skip flags rest)

/-- The characters up to a closing brace, with what does not count skipped. -/
def readBraced (flags : Flags) : Nat → List Char → Option (List Char × List Char)
  | 0, _ => none
  | fuel + 1, cs =>
    match cs with
    | [] => none
    | '\x7d' :: rest => some ([], rest)
    | c :: rest =>
      (readBraced flags fuel (skip flags rest)).map fun (name, rest) => (c :: name, rest)

/-- The number that hexadecimal digits spell. -/
def hexValue? (digits : List Char) : Option Nat :=
  digits.foldlM (fun n c => (hexDigit? c).map (16 * n + ·)) 0

/-- A number in hexadecimal digits up to a closing brace. -/
def readHexBraced (flags : Flags) (cs : List Char) : Option (Nat × List Char) := do
  let (digits, rest) ← readBraced flags (cs.length + 1) cs
  if digits.isEmpty then none
  let code ← hexValue? digits
  some (code, skip flags rest)

/-- A character by its code, after the letter that says how many digits follow. -/
def readHex (flags : Flags) (count : Nat) (cs : List Char) : Option (Element × List Char) :=
  match skip flags cs with
  | '\x7b' :: rest => do
    let (code, rest) ← readHexBraced flags (skip flags rest)
    let c ← charOfCode? code
    some (.char c false, rest)
  | rest => do
    let (code, rest) ← readHexDigits flags count 0 rest
    let c ← charOfCode? code
    some (.char c (count = 2), rest)

/-- A text cut before and after the first occurrence of another. -/
def cutAround? (needle : List Char) : List Char → Option (List Char × List Char)
  | [] => none
  | c :: cs =>
    if needle.isPrefixOf (c :: cs) then some ([], (c :: cs).drop needle.length)
    else (cutAround? needle cs).map fun (before, after) => (c :: before, after)

/-- The set that the inside of a property escape names, and whether it is the complement. -/
def propertySet? (name : List Char) : Option (CodeRanges × Bool) :=
  match cutAround? ['!', '='] name with
  | some (property, value) => (Pattern.valuedSet? property value).map (·, true)
  | none =>
  match cutAround? [':'] name with
  | some (property, value) => (Pattern.valuedSet? property value).map (·, false)
  | none =>
  match cutAround? ['='] name with
  | some (property, value) => (Pattern.valuedSet? property value).map (·, false)
  | none => (Pattern.namedSet? name).map (·, false)

/-- A set with the characters that the flags count as equal to its members. -/
def foldSet (flags : Flags) (s : CodeRanges) : CodeRanges :=
  if !flags.ignoreCase then s
  else if flags.unicode then Unicode.caseClosure s
  else Unicode.asciiCaseClosure s

/-- A set with the flags for case and the complement applied to it. -/
def closeSet (flags : Flags) (negated : Bool) (s : CodeRanges) : CodeRanges :=
  if negated then (foldSet flags s).complement else foldSet flags s

/-- A set named by a property, after the letter of the escape. -/
def readProperty (flags : Flags) (negated : Bool) (cs : List Char) :
    Option (Element × List Char) := do
  if !flags.unicode then none
  let (name, rest) ←
    match skip flags cs with
    | '\x7b' :: rest => readBraced flags (rest.length + 1) (skip flags rest)
    | '\\' :: _ => none
    | c :: rest => some ([c], skip flags rest)
    | [] => none
  let (s, complement) ← propertySet? name
  some (.set (closeSet flags (negated != complement) s), rest)

/-- The word characters that the flags ask for. -/
def wordKind (flags : Flags) : WordKind := if flags.unicode then .unicode else .ascii

/-- The set of a class letter. Outside of Unicode its complement would match parts of characters,
so it is not allowed. -/
def classSet? (flags : Flags) (letter : Char) : Option CodeRanges :=
  let choose (wide narrow : CodeRanges) := some (if flags.unicode then wide else narrow)
  let named? : Option CodeRanges :=
    match letter.toLower with
    | 'd' => choose Unicode.Category.decimalNumber Unicode.asciiDigits
    | 's' => choose Unicode.Property.whiteSpace Unicode.asciiBlanks
    | 'w' => choose Unicode.wordRanges Unicode.asciiWordRanges
    | _ => none
  named?.bind fun s =>
    if letter.isLower then some s
    else if flags.unicode then some s.complement
    else none

/-- The letters of a word and hyphens, up to another character, with what does not count skipped. -/
def readHyphenated (flags : Flags) : Nat → List Char → List Char × List Char
  | 0, cs => ([], cs)
  | fuel + 1, cs =>
    match cs with
    | [] => ([], [])
    | c :: rest =>
      if isAsciiLetter c || c = '-' then
        let (word, rest) := readHyphenated flags fuel (skip flags rest)
        (c :: word, rest)
      else ([], cs)

/-- The side of a word that a word in braces stands for. -/
def boundaryNamed? (kind : WordKind) (word : List Char) : Option Assertion :=
  [("start", Assertion.wordStart kind), ("end", .wordEnd kind),
    ("start-half", .wordStartHalf kind), ("end-half", .wordEndHalf kind)].lookup (.ofList word)

/-- The assertion of a word boundary with a word in braces, after the brace that opens: nothing when
the braces are malformed, and no assertion when they do not hold a word. -/
def readBoundaryWord (flags : Flags) (cs : List Char) :
    Option (Option (Assertion × List Char)) :=
  let cs := skip flags cs
  let (word, rest) := readHyphenated flags (cs.length + 1) cs
  match word, cs, rest with
  | [], [], _ => none
  | [], _, _ => some none
  | word, _, '\x7d' :: rest =>
    (boundaryNamed? (wordKind flags) word).map fun a => some (a, rest)
  | _, _, _ => none

/-- The control characters that letters stand for. -/
def controlLetters : List (Char × Char) :=
  [('a', '\x07'), ('f', '\x0c'), ('t', '\t'), ('n', '\n'), ('r', '\r'), ('v', '\x0b')]

/-- The assertions that letters stand for. -/
def assertionLetters (kind : WordKind) : List (Char × Assertion) :=
  [('A', .textStart), ('z', .textEnd), ('B', .notWordBoundary kind), ('<', .wordStart kind),
    ('>', .wordEnd kind)]

/-- A word boundary, after its letter. -/
def readBoundary (flags : Flags) (cs : List Char) : Option (Element × List Char) :=
  let plain : Element × List Char := (.assertion (.wordBoundary (wordKind flags)), cs)
  match cs with
  | '\x7b' :: inner =>
    (readBoundaryWord flags inner).map fun found =>
      match found with
      | some (a, rest) => (.assertion a, rest)
      | none => plain
  | _ => some plain

/-- An element after a backslash. -/
def readEscape (flags : Flags) (cs : List Char) : Option (Element × List Char) :=
  match cs with
  | [] => none
  | 'x' :: rest => readHex flags 2 rest
  | 'u' :: rest => readHex flags 4 rest
  | 'U' :: rest => readHex flags 8 rest
  | 'p' :: rest => readProperty flags false rest
  | 'P' :: rest => readProperty flags true rest
  | 'b' :: rest => readBoundary flags rest
  | c :: rest =>
    if "dDsSwW".toList.contains c then (classSet? flags c).map (.set ·, rest)
    else if isEscapable c then some (.char c false, rest)
    else
      match controlLetters.lookup c, (assertionLetters (wordKind flags)).lookup c with
      | some c, _ => some (.char c false, rest)
      | none, some a => some (.assertion a, rest)
      | none, none => none

end Gleaner.Regex
