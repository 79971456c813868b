import Gleaner.Unicode.Classes

/-!
# Selector strings

A selector string is `query@attribute | transform | transform …`. A pipe that an equals sign
follows belongs to the query or transform around it. The attribute and the transforms may be
missing.
-/

namespace Gleaner

/-- A selector string taken apart. -/
structure Selector where
  /-- The query, without outer blanks; none when the string begins with a pipe or is malformed. -/
  query? : Option String
  /-- The attribute. -/
  attr : Option String
  /-- The written transforms. -/
  transforms : List String
  deriving DecidableEq, Repr

namespace Selector

/-- The segments of a text between its pipes, without the blanks after each pipe. While blanks are
skipped `skipping` is set. -/
def cutPipes (skipping : Bool) : List Char → List (List Char)
  | [] => [[]]
  | c :: rest =>
    if skipping && isBlank c then cutPipes true rest
    else if c = '|' ∧ rest.head? ≠ some '=' then [] :: cutPipes true rest
    else
      match cutPipes false rest with
      | [] => [[c]]
      | segment :: more => (c :: segment) :: more

/-- Segments without the blanks at their ends, but for the last one. -/
def trimAllButLast : List (List Char) → List (List Char)
  | [] => []
  | [last] => [last]
  | segment :: rest => trimEnd segment :: trimAllButLast rest

/-- The segments of a selector string. -/
def segments (raw : List Char) : List (List Char) := trimAllButLast (cutPipes false raw)

/-- Whether a character can be part of the name of an attribute. -/
def isNameChar (c : Char) : Bool := Unicode.isWord c || c = '-' || c = ':'

/-- The query and the attribute of a leading segment; nothing when it is malformed. -/
def readLeading (leading : List Char) : Option (List Char × Option (List Char)) :=
  let query := trim (leading.takeWhile (· ≠ '@'))
  match leading.dropWhile (· ≠ '@') with
  | [] => some (query, none)
  | _ :: rest =>
    let name := trimStart rest
    if !name.isEmpty && name.all isNameChar then some (query, some name) else none

/-- A selector string read. -/
def read (raw : List Char) : Selector :=
  match segments raw with
  | [] => ⟨none, none, []⟩
  | leading :: rest =>
    let transforms := rest.map String.ofList
    if leading.isEmpty then ⟨none, none, transforms⟩
    else
      match readLeading leading with
      | some (query, attr) =>
        ⟨some (.ofList query), attr.map String.ofList, transforms⟩
      | none => ⟨none, none, transforms⟩

/-- A selector string read. -/
def ofText (raw : String) : Selector := read raw.toList

/-- The query, when there is one that is not empty. -/
def query (s : Selector) : Option String := s.query?.filter (!·.isEmpty)

end Selector
end Gleaner
