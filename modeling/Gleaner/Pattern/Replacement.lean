import Gleaner.Pattern.Syntax

/-!
# Replacing matches

A replacement text stands for itself but for references to groups: `$1`, `$name`, `${1}`,
`${name}`, and `$$` for a dollar sign. A reference without braces takes as many word characters as
follow, and one to a group that does not exist or has not matched is empty.
-/

namespace Gleaner

/-- A part of a replacement text. -/
inductive Replacement.Part where
  /-- A character that stands for itself. -/
  | char (c : Char)
  /-- A reference to a group. -/
  | reference (name : List Char)
  deriving DecidableEq, Repr

namespace Replacement

/-- The parts of a replacement text. -/
def parts : Nat → List Char → List Part
  | 0, _ => []
  | fuel + 1, cs =>
    match cs with
    | [] => []
    | '$' :: '$' :: rest => .char '$' :: parts fuel rest
    | '$' :: '\x7b' :: rest =>
      match rest.dropWhile (· ≠ '\x7d') with
      | _ :: after => .reference (rest.takeWhile (· ≠ '\x7d')) :: parts fuel after
      | [] => .char '$' :: parts fuel ('\x7b' :: rest)
    | '$' :: rest =>
      let name := rest.takeWhile Unicode.isAsciiWord
      if name.isEmpty then .char '$' :: parts fuel rest
      else .reference name :: parts fuel (rest.dropWhile Unicode.isAsciiWord)
    | c :: rest => .char c :: parts fuel rest

/-- The number that a reference spells, within a machine word. -/
def groupNumber? (name : List Char) : Option Nat :=
  let digits :=
    match name with
    | '+' :: rest => rest
    | name => name
  (readNat? digits).filter (· < Nat.pow 2 64)

/-- The text of the group that a reference names. -/
def groupText (r : Regex) (m : Match) (name : List Char) : List Char :=
  let index? :=
    match groupNumber? name with
    | some n => some n
    | none => r.names.lookup (String.ofList name)
  ((index?.bind m.group?).getD [])

/-- The replacement of one match. -/
def expand (r : Regex) (m : Match) (replacement : List Char) : List Char :=
  (parts (replacement.length + 1) replacement).flatMap fun part =>
    match part with
    | .char c => [c]
    | .reference name => groupText r m name

end Replacement

namespace Regex

/-- The text from a place on with the matches replaced. -/
def replaceFrom (r : Regex) (replacement : List Char) : Cursor → List Match → List Char
  | at_, [] => at_.rest
  | at_, m :: rest =>
    at_.textTo m.span.start ++ Replacement.expand r m replacement ++
      replaceFrom r replacement m.span.stop rest

/-- A text with all matches replaced. -/
def replaceAll (r : Regex) (replacement text : List Char) : List Char :=
  r.replaceFrom replacement (.start text) (r.pattern.findAll text)

end Regex
end Gleaner
