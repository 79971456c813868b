import Gleaner.Html.Reference.Names
import Gleaner.Text.Words

/-!
# Character references

A character reference stands for one or two characters: by a name, as `&amp;`, or by a number, as
`&#38;` or `&#x26;`. Some names need no semicolon. An ampersand that begins no reference stands for
itself.

## Main statements

- `Reference.length_read` : what follows a reference is not longer than what it was read from.
-/

namespace Gleaner.Html.Reference

/-- The value of a hexadecimal digit. -/
def hexDigit? (c : Char) : Option Nat :=
  if '0' ≤ c ∧ c ≤ '9' then some (c.toNat - '0'.toNat)
  else if 'a' ≤ c ∧ c ≤ 'f' then some (c.toNat - 'a'.toNat + 10)
  else if 'A' ≤ c ∧ c ≤ 'F' then some (c.toNat - 'A'.toNat + 10)
  else none

/-- The value of a decimal digit. -/
def decDigit? (c : Char) : Option Nat :=
  if '0' ≤ c ∧ c ≤ '9' then some (c.toNat - '0'.toNat) else none

/-- The number that digits spell in a base. -/
def numberOf (base : Nat) (digit? : Char → Option Nat) (cs : List Char) : Nat :=
  cs.foldl (fun n c => base * n + (digit? c).getD 0) 0

/-- The parts of a text between the occurrences of a character. -/
def splitAt (separator : Char) : List Char → List (List Char)
  | [] => [[]]
  | c :: cs =>
    if c = separator then [] :: splitAt separator cs
    else
      match splitAt separator cs with
      | [] => [[c]]
      | part :: rest => (c :: part) :: rest

/-- The name and the characters that a word of the tables spells. -/
def ofWord (word : List Char) : List Char × List Char :=
  (word.takeWhile (· ≠ '='),
    (splitAt '+' ((word.dropWhile (· ≠ '=')).drop 1)).map fun code =>
      Char.ofNat (numberOf 16 hexDigit? code))

/-- The references with a semicolon. -/
def closed : List (List Char × List Char) :=
  (wordsOfLines allWords).map fun word =>
    let (name, chars) := ofWord word
    (name ++ [';'], chars)

/-- The references that need no semicolon. -/
def bare : List (List Char × List Char) :=
  (wordsOfLines bareWords).filterMap fun name =>
    (closed.lookup (name ++ [';'])).map fun chars => (name, chars)

/-- All references by name. -/
@[irreducible] def named : List (List Char × List Char) := closed ++ bare

/-- The reference with the longest name that a text begins with. -/
def longest? (cs : List Char) : Option (List Char × List Char) :=
  named.foldl (fun best entry =>
    if entry.1.isPrefixOf cs then
      match best with
      | some found => if found.1.length < entry.1.length then some entry else best
      | none => some entry
    else best) none

/-- Characters that the codes from 0x80 to 0x9F stand for. A zero stands for the code itself. -/
def windowsCodes : List Nat :=
  [0x20AC, 0, 0x201A, 0x0192, 0x201E, 0x2026, 0x2020, 0x2021, 0x02C6, 0x2030, 0x0160, 0x2039,
    0x0152, 0, 0x017D, 0, 0, 0x2018, 0x2019, 0x201C, 0x201D, 0x2022, 0x2013, 0x2014, 0x02DC,
    0x2122, 0x0161, 0x203A, 0x0153, 0, 0x017E, 0x0178]

/-- The character that stands for one that cannot be. -/
def replacement : Char := '\uFFFD'

/-- The character that a number stands for. -/
def ofCode (n : Nat) : Char :=
  if n = 0 ∨ 0x10FFFF < n ∨ (0xD800 ≤ n ∧ n ≤ 0xDFFF) then replacement
  else if 0x80 ≤ n ∧ n ≤ 0x9F then
    match windowsCodes[n - 0x80]? with
    | some 0 => Char.ofNat n
    | some code => Char.ofNat code
    | none => Char.ofNat n
  else Char.ofNat n

/-- A text without a semicolon in front of it. -/
def dropSemicolon : List Char → List Char
  | ';' :: rest => rest
  | cs => cs

/-- A reference by number, after its digits began in a base; nothing when there is no digit. -/
def readDigits (base : Nat) (digit? : Char → Option Nat) (cs : List Char) :
    Option (List Char × List Char) :=
  let isDigit (c : Char) := (digit? c).isSome
  match cs.takeWhile isDigit with
  | [] => none
  | ds => some ([ofCode (numberOf base digit? ds)], dropSemicolon (cs.dropWhile isDigit))

/-- Whether a character is an ASCII letter or digit. -/
def isAlphanumeric (c : Char) : Bool := c.isAlpha || c.isDigit

/-- Whether a text goes on with a letter, a digit or an equals sign. -/
def goesOn : List Char → Bool
  | [] => false
  | c :: _ => c = '=' || isAlphanumeric c

/-- What a name that was found stands for, and the text after it. In the value of an attribute a
name without a semicolon does not count when the text goes on. -/
def accept (inAttr : Bool) (cs : List Char) (found : Option (List Char × List Char)) :
    Option (List Char × List Char) :=
  match found with
  | none => none
  | some (name, chars) =>
    let rest := cs.drop name.length
    if inAttr && goesOn rest && name.getLast? ≠ some ';' then none else some (chars, rest)

/-- The characters of the reference that a text begins with, after its ampersand, and the text
after it. -/
def read (inAttr : Bool) : List Char → Option (List Char × List Char)
  | '#' :: 'x' :: cs => readDigits 16 hexDigit? cs
  | '#' :: 'X' :: cs => readDigits 16 hexDigit? cs
  | '#' :: cs => readDigits 10 decDigit? cs
  | cs => accept inAttr cs (longest? cs)

theorem length_dropSemicolon_le (cs : List Char) : (dropSemicolon cs).length ≤ cs.length := by
  unfold dropSemicolon
  split <;> simp

theorem length_accept {inAttr : Bool} {cs chars rest : List Char}
    {found : Option (List Char × List Char)} (h : accept inAttr cs found = some (chars, rest)) :
    rest.length ≤ cs.length := by
  unfold accept at h
  split at h
  · simp at h
  · simp only at h
    split at h <;> simp only [Option.some.injEq, Prod.mk.injEq, reduceCtorEq] at h
    rw [← h.2]
    simp

/-- What follows a reference is not longer than what it was read from. -/
theorem length_read {inAttr : Bool} {cs chars rest : List Char}
    (h : read inAttr cs = some (chars, rest)) : rest.length ≤ cs.length := by
  have hdigits : ∀ (base : Nat) (digit? : Char → Option Nat) (ds : List Char),
      readDigits base digit? ds = some (chars, rest) → rest.length ≤ ds.length := by
    intro base digit? ds hd
    simp only [readDigits] at hd
    split at hd
    · simp at hd
    · simp only [Option.some.injEq, Prod.mk.injEq] at hd
      rw [← hd.2]
      exact Nat.le_trans (length_dropSemicolon_le _) (List.dropWhile_suffix _).length_le
  unfold read at h
  split at h
  · exact Nat.le_trans (hdigits _ _ _ h) (by simp; omega)
  · exact Nat.le_trans (hdigits _ _ _ h) (by simp; omega)
  · exact Nat.le_trans (hdigits _ _ _ h) (by simp)
  · exact length_accept h

/-- Whether a text begins with a reference that no semicolon ends. -/
def isLoose : List Char → Bool
  | '&' :: cs =>
    match read false cs with
    | some (_, rest) => (cs.take (cs.length - rest.length)).getLast? ≠ some ';'
    | none => false
  | _ => false

/-- A text with its references replaced by what they stand for. -/
def decode (inAttr : Bool) : List Char → List Char
  | [] => []
  | c :: cs =>
    if c = '&' then
      match _h : read inAttr cs with
      | some (chars, rest) => chars ++ decode inAttr rest
      | none => '&' :: decode inAttr cs
    else c :: decode inAttr cs
termination_by cs => cs.length
decreasing_by
  · have := length_read _h
    simp only [List.length_cons]
    omega
  · simp
  · simp

end Gleaner.Html.Reference
