import Gleaner.Unicode.CaseData
import Gleaner.Unicode.Later

/-!
# Lowercase, uppercase and case-insensitive comparison

The full case mappings of Unicode, without the rules of single languages: a capital sigma at the
end of a word has its own lowercase form. Comparisons use the characters that differ in case only.
-/

namespace Gleaner.Unicode

/-- The characters that code points stand for. -/
def charsOf (codes : List Nat) : List Char := codes.map Char.ofNat

/-- The form of a character that a table of runs and sequences gives; a character in neither of
them stands for itself. -/
def mapBy (runs : List CaseRun) (sequences : List (Nat × List Nat)) (c : Char) : List Char :=
  let code := c.toNat
  match runs.find? (·.contains code) with
  | some run => [Char.ofNat (run.map code)]
  | none =>
    match sequences.find? (·.1 == code) with
    | some (_, codes) => charsOf codes
    | none => [c]

/-- The lowercase form of a character that stands alone. -/
def lowerChar (c : Char) : List Char :=
  if c.toNat < 128 then
    if 'A' ≤ c && c ≤ 'Z' then [Char.ofNat (c.toNat + 32)] else [c]
  else mapBy lowerRuns lowerSequences c

/-- The uppercase form of a character. -/
def upperChar (c : Char) : List Char :=
  if c.toNat < 128 then
    if 'a' ≤ c && c ≤ 'z' then [Char.ofNat (c.toNat - 32)] else [c]
  else mapBy upperRuns upperSequences c

/-- Whether the first character that is not ignorable for case is cased. -/
def startsCased (cs : List Char) : Bool :=
  match cs.dropWhile Later.caseIgnorable.contains with
  | [] => false
  | c :: _ => Later.cased.contains c

/-- The lowercase form of a text, given the characters before it, the last one first. A capital
sigma is a final one when a cased character precedes it and none follows. -/
def lowerAfter : List Char → List Char → List Char
  | _, [] => []
  | before, c :: rest =>
    let mapped :=
      if c = 'Σ' then [if startsCased before && !startsCased rest then 'ς' else 'σ']
      else lowerChar c
    mapped ++ lowerAfter (c :: before) rest

/-- The lowercase form of a text. -/
def lower (cs : List Char) : List Char := lowerAfter [] cs

/-- The uppercase form of a text. -/
def upper (cs : List Char) : List Char := cs.flatMap upperChar

/-- The code points that differ from a code point in case only, itself included. -/
def caseVariants (code : Nat) : List Nat :=
  match foldClasses.find? (·.contains code) with
  | some codes => codes
  | none =>
    match foldRuns.find? (·.contains code) with
    | some run => [code, run.map code]
    | none =>
      match foldRuns.find? (·.containsImage code) with
      | some run => [run.unmap code, code]
      | none => [code]

/-- The pairs of code points that differ in case only. -/
def casePairs : List (Nat × Nat) :=
  foldRuns.flatMap fun run =>
    (List.range run.count).map fun n =>
      (run.first + n * run.step, run.map (run.first + n * run.step))

/-- The partners of the members of a set in a list of pairs. -/
def partnersIn (pairs : List (Nat × Nat)) (s : CodeRanges) : List Nat :=
  pairs.flatMap fun (code, partner) =>
    (if s.containsCode code then [partner] else []) ++
      (if s.containsCode partner then [code] else [])

/-- The set of the characters that differ in case only from one of a set. -/
def caseClosure (s : CodeRanges) : CodeRanges :=
  match s.single? with
  | some code => .ofCodes (caseVariants code)
  | none =>
    let classmates := foldClasses.flatMap fun codes =>
      if codes.any s.containsCode then codes else []
    s.union (.ofCodes (partnersIn casePairs s ++ classmates))

/-- The same where only the letters of ASCII have a case. -/
def asciiCaseClosure (s : CodeRanges) : CodeRanges :=
  let pairs := (List.range 26).map fun n => ('A'.toNat + n, 'a'.toNat + n)
  s.union (.ofCodes (partnersIn pairs s))

/-- The lowercase form of an ASCII letter; any other character stands for itself. -/
def asciiLowerChar (c : Char) : Char :=
  if 'A' ≤ c && c ≤ 'Z' then Char.ofNat (c.toNat + 32) else c

/-- A text with its ASCII letters in lower case. -/
def asciiLower (cs : List Char) : List Char := cs.map asciiLowerChar

end Gleaner.Unicode
