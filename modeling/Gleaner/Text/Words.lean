/-!
# Words

Texts cut at single spaces, the form in which tables are written.
-/

namespace Gleaner

/-- The words of a text, separated by single spaces. -/
def wordsOf : List Char → List (List Char)
  | [] => [[]]
  | c :: cs =>
    if c = ' ' then [] :: wordsOf cs
    else
      match wordsOf cs with
      | [] => [[c]]
      | word :: rest => (c :: word) :: rest

/-- The words of all lines of a table. -/
def wordsOfLines (lines : List String) : List (List Char) :=
  lines.flatMap fun line => wordsOf line.toList

end Gleaner
