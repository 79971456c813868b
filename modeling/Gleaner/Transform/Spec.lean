import Gleaner.Json.Number
import Gleaner.Text.Blank
import Gleaner.Value.Basic

/-!
# Written transforms

A transform is written as `name`, `name:arg` or `name: a1 "a 2" 'a3'`. A quoted argument is always
a text; a bare one that spells a number, `true`, `false` or `null` is that value.
-/

namespace Gleaner

/-- A transform's name and its arguments. -/
structure TransformSpec where
  /-- The name. -/
  name : String
  /-- The arguments. -/
  args : List Value

namespace TransformSpec

/-- The value that a bare argument spells. -/
def literal (token : List Char) : Value :=
  if token = "true".toList then .bool true
  else if token = "false".toList then .bool false
  else if token = "null".toList then .null
  else
    match Json.Number.ofText? token with
    | some n => .number n.toDouble
    | none => .string (.ofList token)

/-- The text of a quoted argument up to its closing quote, and what follows. A backslash takes the
next character as it is; a quote that is never closed reaches to the end. -/
def readQuoted (quote : Char) : List Char → List Char × List Char
  | [] => ([], [])
  | c :: cs =>
    if c = '\\' then
      match cs with
      | [] => ([], [])
      | escaped :: rest =>
        let (token, rest) := readQuoted quote rest
        (escaped :: token, rest)
    else if c = quote then ([], cs)
    else
      let (token, rest) := readQuoted quote cs
      (c :: token, rest)

/-- What follows a quoted argument is not longer than what it began with. -/
theorem length_readQuoted_le (quote : Char) (cs : List Char) :
    (readQuoted quote cs).2.length ≤ cs.length := by
  fun_induction readQuoted quote cs <;> simp_all <;> omega

/-- The arguments that a text spells, separated by blanks. -/
def readArgs (cs : List Char) : List Value :=
  match _h : trimStart cs with
  | [] => []
  | c :: rest =>
    if c = '"' || c = '\'' then
      .string (.ofList (readQuoted c rest).1) :: readArgs (readQuoted c rest).2
    else
      literal (c :: rest.takeWhile (!isBlank ·)) :: readArgs (rest.dropWhile (!isBlank ·))
termination_by cs.length
decreasing_by
  all_goals
    have hlen : (c :: rest).length ≤ cs.length := by
      rw [← _h]
      exact (List.dropWhile_suffix isBlank).length_le
    simp only [List.length_cons] at hlen
  · have := length_readQuoted_le c rest
    omega
  · have := (List.dropWhile_suffix (!isBlank ·) (l := rest)).length_le
    omega

/-- The transform that a text spells. -/
def read (raw : List Char) : TransformSpec :=
  match raw.dropWhile (· ≠ ':') with
  | [] => ⟨.ofList (trim raw), []⟩
  | _ :: rest => ⟨.ofList (trim (raw.takeWhile (· ≠ ':'))), readArgs rest⟩

/-- The transform that a text spells. -/
def ofText (raw : String) : TransformSpec := read raw.toList

end TransformSpec
end Gleaner
