import Gleaner.Pattern.Basic
import Gleaner.Unicode.Utf8

/-!
# Shapes of patterns

The shape of a pattern is what a program for it is made from: characters one after another are one
text, sequences and alternatives are lists that do not hold lists of their own kind, alternatives of
single characters are one set, and a beginning that all alternatives share stands before them.
-/

namespace Gleaner

open Unicode (CodeRanges)

/-- The shape of a pattern. -/
inductive Shape where
  /-- The empty text. -/
  | empty
  /-- A text, by the bytes that encode it. -/
  | bytes (text : List Nat)
  /-- One character of a set that does not have exactly one. -/
  | set (chars : CodeRanges)
  /-- A condition on the place. -/
  | assertion (a : Assertion)
  /-- A shape repeated a number of times. -/
  | repetition (s : Shape) (least : Nat) (most : Option Nat) (greedy : Bool)
  /-- A shape whose text is remembered under a number. -/
  | group (index : Nat) (s : Shape)
  /-- Shapes one after another. -/
  | sequence (parts : List Shape)
  /-- Alternative shapes. -/
  | choice (parts : List Shape)
  deriving Repr

namespace Shape

mutual

/-- Whether two shapes are the same. -/
def same : Shape → Shape → Bool
  | .empty, .empty => true
  | .bytes s, .bytes t => s == t
  | .set s, .set t => s == t
  | .assertion a, .assertion b => a == b
  | .repetition s least most greedy, .repetition t least' most' greedy' =>
    least == least' && most == most' && greedy == greedy' && same s t
  | .group i s, .group j t => i == j && same s t
  | .sequence s, .sequence t => allSame s t
  | .choice s, .choice t => allSame s t
  | _, _ => false

/-- Whether the shapes of two lists are the same. -/
def allSame : List Shape → List Shape → Bool
  | [], [] => true
  | s :: ss, t :: ts => same s t && allSame ss ts
  | _, _ => false

end

/-! ### Lengths and anchors -/

/-- What is known of the texts that a shape matches. -/
structure Extent where
  /-- The number of bytes in the shortest one, where a bound is known. -/
  shortest : Option Nat
  /-- The number of bytes in the longest one, where a bound is known. -/
  longest : Option Nat
  /-- Whether all of them begin where the whole text begins. -/
  atStart : Bool
  /-- Whether all of them end where the whole text ends. -/
  atEnd : Bool

namespace Extent

/-- Texts with a number of bytes within bounds, anywhere. -/
def bounded (shortest longest : Option Nat) : Extent := ⟨shortest, longest, false, false⟩

/-- Texts of a number of bytes, anywhere. -/
def ofLength (n : Nat) : Extent := bounded (some n) (some n)

/-- Whether all texts are empty. -/
def isEmpty (e : Extent) : Bool := e.longest == some 0

/-- One after another. -/
def append (d e : Extent) : Extent where
  shortest := do return (← d.shortest) + (← e.shortest)
  longest := do return (← d.longest) + (← e.longest)
  atStart := d.atStart || (d.isEmpty && e.atStart)
  atEnd := e.atEnd || (e.isEmpty && d.atEnd)

/-- Either of two. -/
def either (d e : Extent) : Extent where
  shortest := do return Nat.min (← d.shortest) (← e.shortest)
  longest := do return Nat.max (← d.longest) (← e.longest)
  atStart := d.atStart && e.atStart
  atEnd := d.atEnd && e.atEnd

/-- Repeated a number of times. -/
def repeated (e : Extent) (least : Nat) (most : Option Nat) : Extent where
  shortest := e.shortest.map (· * least)
  longest := do return (← e.longest) * (← most)
  atStart := 0 < least && e.atStart
  atEnd := 0 < least && e.atEnd

/-- One character of a set. -/
def ofSet (s : CodeRanges) : Extent :=
  bounded (s.ranges.head?.map fun range => Unicode.encodedLength range.1)
    (s.ranges.getLast?.map fun range => Unicode.encodedLength range.2)

/-- Any of several; of none, nothing is known. -/
def any : List Extent → Extent
  | [] => bounded none none
  | e :: rest => rest.foldl either e

end Extent

mutual

/-- What is known of the texts of a shape. -/
def extent : Shape → Extent
  | .empty => .ofLength 0
  | .bytes text => .ofLength text.length
  | .set s => .ofSet s
  | .assertion a => { Extent.ofLength 0 with atStart := a == .textStart, atEnd := a == .textEnd }
  | .repetition s least most _ => (extent s).repeated least most
  | .group _ s => extent s
  | .sequence parts => (extents parts).foldl Extent.append (.ofLength 0)
  | .choice parts => .any (extents parts)

/-- What is known of the texts of several shapes. -/
def extents : List Shape → List Extent
  | [] => []
  | s :: rest => extent s :: extents rest

end

/-! ### Putting shapes together -/

/-- The shape of one character of a set. -/
def ofSet (s : CodeRanges) : Shape :=
  match s.single? with
  | some code => .bytes (Unicode.encode code)
  | none => .set s

/-- What a shape adds to a sequence. -/
def parts : Shape → List Shape
  | .empty => []
  | .sequence parts => parts
  | s => [s]

/-- A part in front of a sequence; two texts that meet are one. -/
def consPart : Shape → List Shape → List Shape
  | .bytes s, .bytes t :: rest => .bytes (s ++ t) :: rest
  | s, rest => s :: rest

/-- A sequence from its parts. -/
def ofParts : List Shape → Shape
  | [] => .empty
  | [s] => s
  | parts => .sequence parts

/-- One shape after another. -/
def append (s t : Shape) : Shape := ofParts (s.parts.foldr consPart t.parts)

/-- Shapes one after another. -/
def concat (shapes : List Shape) : Shape := shapes.foldr append .empty

/-- What a shape adds to alternatives. -/
def alternatives : Shape → List Shape
  | .choice parts => parts
  | s => [s]

/-- The character of a text of one. -/
def single? : Shape → Option Nat
  | .bytes text => Unicode.decode? text
  | _ => none

/-- The set of a shape that is one. -/
def set? : Shape → Option CodeRanges
  | .set s => some s
  | _ => none

/-- Either of some shapes. Single characters make a set, as do sets. -/
def oneOf (shapes : List Shape) : Shape :=
  match shapes.flatMap alternatives with
  | [] => .set .empty
  | [s] => s
  | flat =>
    match flat.mapM single?, flat.mapM set? with
    | some codes, _ => ofSet (.ofCodes codes)
    | none, some sets => ofSet (.unionAll sets)
    | none, none => .choice flat

/-- How many parts two sequences share at their beginnings. -/
def sharedLead : List Shape → List Shape → Nat
  | s :: ss, t :: ts => if same s t then sharedLead ss ts + 1 else 0
  | _, _ => 0

/-- The parts of a shape that is a sequence. -/
def sequence? : Shape → Option (List Shape)
  | .sequence parts => some parts
  | _ => none

/-- Alternatives with the beginning that all of them share in front. -/
def liftLead (shapes : List Shape) : Shape :=
  match shapes.mapM sequence? with
  | some (first :: rest) =>
    match (rest.map (sharedLead first)).foldl Nat.min first.length with
    | 0 => .choice shapes
    | shared =>
      concat (first.take shared ++ [oneOf ((first :: rest).map fun l => concat (l.drop shared))])
  | _ => .choice shapes

/-- Alternative shapes. -/
def either (shapes : List Shape) : Shape :=
  match oneOf shapes with
  | .choice shapes => liftLead shapes
  | s => s

/-- A shape repeated a number of times. The empty text is not repeated more than once. -/
def repeated (s : Shape) (least : Nat) (most : Option Nat) (greedy : Bool) : Shape :=
  let (least, most) :=
    if (extent s).isEmpty then
      (Nat.min least 1, some (match most with | some most => Nat.min most 1 | none => 1))
    else (least, most)
  if least = 0 ∧ most = some 0 then .empty
  else if least = 1 ∧ most = some 1 then s
  else .repetition s least most greedy

end Shape

namespace Pattern

/-- The shapes of the alternatives that a pattern ends with, the shape of each part being given. -/
def shapes : Pattern → List Shape
  | .empty => [.empty]
  | .set chars => [.ofSet chars]
  | .assertion a => [.assertion a]
  | .seq p q => [(Shape.either p.shapes).append (.either q.shapes)]
  | .alt p q => .either p.shapes :: q.shapes
  | .repetition p least most greedy => [(Shape.either p.shapes).repeated least most greedy]
  | .group index p => [.group index (.either p.shapes)]

/-- The shape of a pattern. -/
def shape (p : Pattern) : Shape := .either p.shapes

end Pattern
end Gleaner
