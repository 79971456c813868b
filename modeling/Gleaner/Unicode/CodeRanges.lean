import Gleaner.Text.Words

/-!
# Sets of code points

A set of code points is a list of ranges in order, apart from each other. Tables write one as text:
for each range the gap to the end of the range before it and, where it is not one, the number of its
code points, in base 36. The sets have the operations of an algebra of sets.

## Main statements

- `ofCode_contains` : the set of one code point has that code point and no other.
-/

namespace Gleaner.Unicode

/-- A set of code points: the first and last one of each range. -/
structure CodeRanges where
  /-- The ranges, both ends included. -/
  ranges : List (Nat × Nat)
  deriving Repr, DecidableEq

namespace CodeRanges

/-- The value of a base-36 digit. -/
def digit36 (c : Char) : Nat :=
  if '0' ≤ c && c ≤ '9' then c.toNat - '0'.toNat else c.toNat - 'a'.toNat + 10

/-- The number spelled in base 36. -/
def read36 (cs : List Char) : Nat := cs.foldl (fun n c => 36 * n + digit36 c) 0

/-- The gap and the length that one word of a table spells. -/
def readWord (cs : List Char) : Nat × Nat :=
  (read36 (cs.takeWhile (· != ',')),
    match cs.dropWhile (· != ',') with
    | [] => 1
    | _ :: rest => read36 rest)

/-- The ranges that gaps and lengths describe, from a starting code point. -/
def layOut : Nat → List (Nat × Nat) → List (Nat × Nat)
  | _, [] => []
  | start, (gap, length) :: rest =>
    (start + gap, start + gap + length - 1) :: layOut (start + gap + length) rest

/-- The set that the lines of a table spell. -/
def ofLines (lines : List String) : CodeRanges :=
  ⟨layOut 0 ((wordsOfLines lines).map readWord)⟩

/-- Whether a code point is in one of some ranges. A range that begins beyond it ends the search. -/
def isInside (code : Nat) : List (Nat × Nat) → Bool
  | [] => false
  | (first, last) :: rest => first ≤ code && (code ≤ last || isInside code rest)

/-- Whether a code point is in the set. -/
def containsCode (s : CodeRanges) (code : Nat) : Bool := isInside code s.ranges

/-- Whether a character is in the set. -/
def contains (s : CodeRanges) (c : Char) : Bool := s.containsCode c.toNat

/-- The set without members. -/
def empty : CodeRanges := ⟨[]⟩

/-- The last code point. -/
def lastCode : Nat := 0x10FFFF

/-- All code points. -/
def all : CodeRanges := ⟨[(0, lastCode)]⟩

/-- The code points from one to another. -/
def between (first last : Nat) : CodeRanges := ⟨[(first, last)]⟩

/-- The characters from one to another. -/
def within (first last : Char) : CodeRanges := between first.toNat last.toNat

/-- One code point. -/
def ofCode (code : Nat) : CodeRanges := between code code

/-- One character. -/
def ofChar (c : Char) : CodeRanges := ofCode c.toNat

/-- The set of one code point has that code point and no other. -/
theorem ofCode_contains {code other : Nat} :
    (ofCode code).containsCode other = true ↔ other = code := by
  simp [ofCode, between, containsCode, isInside]
  omega

/-- A range and those after it, in the order of their beginnings, joined where they touch. -/
def joinRanges : Nat × Nat → List (Nat × Nat) → List (Nat × Nat)
  | range, [] => [range]
  | (first, last), (next, stop) :: rest =>
    if next ≤ last + 1 then joinRanges (first, Nat.max last stop) rest
    else (first, last) :: joinRanges (next, stop) rest

/-- The set of ranges that are in the order of their beginnings. -/
def ofOrdered : List (Nat × Nat) → CodeRanges
  | [] => empty
  | range :: rest => ⟨joinRanges range rest⟩

/-- Two lists of ranges as one, in the order of their beginnings. The number of their ranges bounds
the steps. -/
def mergeRanges : Nat → List (Nat × Nat) → List (Nat × Nat) → List (Nat × Nat)
  | 0, _, _ => []
  | _ + 1, [], more => more
  | _ + 1, ranges, [] => ranges
  | fuel + 1, r :: ranges, q :: more =>
    if r.1 ≤ q.1 then r :: mergeRanges fuel ranges (q :: more)
    else q :: mergeRanges fuel (r :: ranges) more

/-- The union of two sets. -/
def union (s t : CodeRanges) : CodeRanges :=
  ofOrdered (mergeRanges (s.ranges.length + t.ranges.length) s.ranges t.ranges)

/-- The union of several sets. -/
def unionAll (sets : List CodeRanges) : CodeRanges := sets.foldl union empty

/-- The set of some characters. -/
def ofChars (cs : List Char) : CodeRanges := unionAll (cs.map ofChar)

/-- The set of some code points. -/
def ofCodes (codes : List Nat) : CodeRanges :=
  ofOrdered ((codes.mergeSort fun a b => decide (a ≤ b)).map fun code => (code, code))

/-- The range from one code point up to but not including another; nothing but surrogates makes no
range. -/
def gap (first stop : Nat) : List (Nat × Nat) :=
  if stop ≤ first || (0xD800 ≤ first && stop ≤ 0xE000) then [] else [(first, stop - 1)]

/-- The gaps between ranges, from a code point on. -/
def gaps : Nat → List (Nat × Nat) → List (Nat × Nat)
  | next, [] => gap next (lastCode + 1)
  | next, (first, last) :: rest => gap next first ++ gaps (last + 1) rest

/-- The code points that are not in a set. -/
def complement (s : CodeRanges) : CodeRanges := ⟨gaps 0 s.ranges⟩

/-- The code points that are in both of two sets. -/
def inter (s t : CodeRanges) : CodeRanges := (s.complement.union t.complement).complement

/-- The code points of a set that are not in another. -/
def diff (s t : CodeRanges) : CodeRanges := s.inter t.complement

/-- The code points that are in one of two sets only. -/
def symmetricDiff (s t : CodeRanges) : CodeRanges := (s.diff t).union (t.diff s)

/-- The only code point of a set that has one. -/
def single? (s : CodeRanges) : Option Nat :=
  match s.ranges with
  | [(first, last)] => if first = last then some first else none
  | _ => none

end CodeRanges

/-- A set of code points and the names that it goes by. -/
structure NamedRanges where
  /-- The names. -/
  names : List String
  /-- The set. -/
  ranges : CodeRanges

end Gleaner.Unicode
