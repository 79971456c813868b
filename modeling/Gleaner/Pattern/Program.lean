import Gleaner.Pattern.Shape
import Std.Data.HashMap

/-!
# The size of programs

A pattern is searched for by a program: states that are linked to one another. There is one program
that reads a text forward and one that reads it backward, and a pattern is only allowed where both
stay within a limit. `Pattern.fits` counts their states without linking them. A repetition has as
many copies of its part as it has a bound for, so the count ends as soon as the limit is passed.

Sets of characters beyond ASCII are spelled in bytes. States with the same contents are shared where
the place that contents are remembered at still holds them: of two contents that fall to one place,
the later one takes it.
-/

namespace Gleaner

open Unicode (CodeRanges)

namespace Program

/-- The direction in which a program reads. -/
inductive Direction where
  /-- From the beginning. -/
  | forward
  /-- From the end. -/
  | backward
  deriving DecidableEq, Repr

/-- How large a program is so far. -/
structure Size where
  /-- The number of its states. -/
  states : Nat
  /-- The bytes that the states hold besides themselves. -/
  held : Nat
  deriving DecidableEq, Repr

/-- The bytes that one state takes by itself. -/
def stateBytes : Nat := 32

/-- The bytes that one range of bytes with its target takes in a state. -/
def rangeBytes : Nat := 8

/-- The bytes that a link takes in a state that has several. -/
def linkBytes : Nat := 4

/-- The bytes that a program may take: ten mebibytes. -/
def limit : Nat := 10485760

namespace Size

/-- The bytes that a program takes. -/
def bytes (z : Size) : Nat := stateBytes * z.states + z.held

/-- A size with a number of states and of held bytes more, within the limit. -/
def grow? (z : Size) (states held : Nat) : Option Size :=
  let z : Size := ⟨z.states + states, z.held + held⟩
  if z.bytes ≤ limit then some z else none

/-- A size never leaves the limit. -/
theorem bytes_le_limit {z z' : Size} {states held : Nat} (h : z.grow? states held = some z') :
    z'.bytes ≤ limit := by
  simp only [grow?] at h
  split at h
  · cases h
    assumption
  · simp at h

end Size

/-! ### States with shared contents -/

/-- What states contain, by the place that it is remembered at. -/
structure Memo where
  /-- The number of places. -/
  places : Nat
  /-- The contents at a place, with their state. -/
  entries : Std.HashMap Nat (List Nat × Nat)

/-- A memo with nothing in it. -/
def Memo.ofPlaces (places : Nat) : Memo := ⟨places, ∅⟩

/-- A number that mixes some contents, modulo two to the 64. -/
def fingerprint (contents : List Nat) : UInt64 :=
  contents.foldl (fun h n => (h ^^^ n.toUInt64) * 1099511628211) 14695981039346656037

/-- A program under construction whose states are shared. -/
structure Shared where
  /-- Its size. -/
  size : Size
  /-- What its states contain. -/
  memo : Memo

/-- The state with some contents: one that is remembered, or else a new one. -/
def Shared.state? (z : Shared) (contents : List Nat) (held : Nat) : Option (Nat × Shared) := do
  let place := (fingerprint contents).toNat % z.memo.places
  let remembered :=
    match z.memo.entries[place]? with
    | some (kept, state) => if kept = contents then some state else none
    | none => none
  match remembered with
  | some state => some (state, z)
  | none =>
    let state := z.size.states
    let size ← z.size.grow? 1 held
    some (state, ⟨size, { z.memo with entries := z.memo.entries.insert place (contents, state) }⟩)

/-- Groups of sequences with one more sequence, given its head and what follows it. -/
def addToGroup {α : Type} [DecidableEq α] (head : α) (rest : List α) :
    List (α × List (List α)) → List (α × List (List α))
  | [] => [(head, [rest])]
  | (other, group) :: groups =>
    if head = other then (other, rest :: group) :: groups
    else if groups.any fun g => g.1 == head then (other, group) :: addToGroup head rest groups
    else (head, [rest]) :: (other, group) :: groups

/-- Sequences that have a head, those with one head together: each head with what follows it. -/
def groupByHead {α : Type} [DecidableEq α] (l : List (List α)) : List (α × List (List α)) :=
  l.foldr
    (fun sequence groups =>
      match sequence with
      | [] => groups
      | head :: rest => addToGroup head rest groups)
    []

/-- The state that reads sequences of byte ranges up to a target. What follows a range gets its
states before the range itself does. An encoding has at most four bytes, which bounds the depth. -/
def readForward? (target : Nat) : Nat → Shared → List (List (Nat × Nat)) → Option (Nat × Shared)
  | 0, z, _ => some (target, z)
  | depth + 1, z, sequences => do
    let step (acc : List Nat × Shared) (group : (Nat × Nat) × List (List (Nat × Nat))) :
        Option (List Nat × Shared) := do
      let (next, z) ←
        if group.2.all List.isEmpty then some (target, acc.2)
        else readForward? target depth acc.2 group.2
      some (next :: group.1.2 :: group.1.1 :: acc.1, z)
    let groups := groupByHead sequences
    let (contents, z) ← groups.foldlM step ([], z)
    z.state? contents.reverse (rangeBytes * groups.length)

/-- The state that reads a sequence of byte ranges from its end, given the one it leads to. -/
def readBackward? (sequence : List (Nat × Nat)) (target : Nat) (z : Shared) :
    Option (Nat × Shared) :=
  sequence.foldlM (fun (next, z) (first, last) => Shared.state? z [next, first, last] 0) (target, z)

/-! ### Parts of programs -/

/-- A part of a program. -/
structure Draft where
  /-- The size with the part. -/
  grow? : Size → Option Size
  /-- The bytes that the link takes which leaves the part. -/
  leave : Nat

namespace Draft

/-- States one after another. -/
def chain (states : Nat) : Draft := ⟨fun z => z.grow? states 0, 0⟩

/-- A set of characters that forward reading comes to. -/
def setForward (sequences : List (List (Nat × Nat))) : Draft where
  grow? z := do
    let target := z.states
    let z ← z.grow? 1 0
    let (_, z) ← readForward? target 4 ⟨z, .ofPlaces 10000⟩ sequences
    some z.size
  leave := 0

/-- A set of characters that backward reading comes to. -/
def setBackward (sequences : List (List (Nat × Nat))) : Draft where
  grow? z := do
    let target := z.states + 1
    let z ← z.grow? 2 0
    let step (z : Shared) (sequence : List (Nat × Nat)) : Option Shared := do
      let (_, z) ← readBackward? sequence target z
      let size ← z.size.grow? 0 linkBytes
      some { z with size := size }
    let z ← sequences.foldlM step ⟨z, .ofPlaces 1000⟩
    some z.size
  leave := 0

/-- A set of characters. Within ASCII a single state reads it. -/
def set (d : Direction) (s : CodeRanges) : Draft :=
  if (s.ranges.getLast?.map Prod.snd).getD 0 < 128 then
    ⟨fun z => z.grow? 2 (rangeBytes * s.ranges.length), 0⟩
  else
    match d with
    | .forward => setForward s.byteRanges
    | .backward => setBackward s.byteRanges

/-- One part after another. -/
def append (d e : Draft) : Draft where
  grow? z := do
    let z ← d.grow? z
    let z ← z.grow? 0 d.leave
    e.grow? z
  leave := e.leave

/-- Parts one after another. -/
def inOrder : List Draft → Draft
  | [] => chain 1
  | [d] => d
  | d :: rest => d.append (inOrder rest)

/-- A part a number of times, with a link out of each copy and so many bytes more for each. -/
def copies? (d : Draft) (states held : Nat) : Nat → Size → Option Size
  | 0, z => some z
  | n + 1, z =>
    match z.grow? states (held + d.leave) with
    | none => none
    | some z =>
      match d.grow? z with
      | none => none
      | some z => copies? d states held n z

/-- A part a fixed number of times. -/
def exactly (d : Draft) : Nat → Draft
  | 0 => chain 1
  | n + 1 => append ⟨d.copies? 0 0 n, 0⟩ d

/-- A part once or not at all. -/
def optional (d : Draft) : Draft where
  grow? z := do
    let z ← z.grow? 1 (2 * linkBytes)
    let z ← d.grow? z
    z.grow? 1 d.leave
  leave := 0

/-- A part at least once. -/
def some₁ (d : Draft) : Draft where
  grow? z := do
    let z ← d.grow? z
    z.grow? 1 (d.leave + linkBytes)
  leave := linkBytes

/-- A part any number of times. One that can match the empty text takes two states more. -/
def many (d : Draft) (matchesEmpty : Bool) : Draft :=
  if matchesEmpty then
    { grow? := fun z => do
        let z ← d.grow? z
        z.grow? 3 (d.leave + 4 * linkBytes)
      leave := 0 }
  else
    { grow? := fun z => do
        let z ← z.grow? 1 linkBytes
        let z ← d.grow? z
        z.grow? 0 d.leave
      leave := linkBytes }

/-- A part a number of times within bounds. -/
def between (d : Draft) (least most : Nat) : Draft where
  grow? z := do
    let first := d.exactly least
    let z ← first.grow? z
    let z ← z.grow? 1 first.leave
    d.copies? 1 (2 * linkBytes) (most - least) z
  leave := 0

/-- A part repeated a number of times. -/
def repeated (d : Draft) (matchesEmpty : Bool) (least : Nat) : Option Nat → Draft
  | none =>
    match least with
    | 0 => d.many matchesEmpty
    | 1 => d.some₁
    | n + 1 => (d.exactly n).append d.some₁
  | some most =>
    if least = 0 ∧ most = 1 then d.optional
    else if least = most then d.exactly least
    else d.between least most

/-- A part whose text is remembered. -/
def group (d : Draft) : Draft where
  grow? z := do
    let z ← z.grow? 1 0
    let z ← d.grow? z
    z.grow? 1 d.leave
  leave := 0

/-- The size with a part that joins alternatives. -/
def join? (z : Size) (d : Draft) : Option Size := do
  let z ← d.grow? z
  z.grow? 0 (linkBytes + d.leave)

/-- Alternatives. The states that they are joined by come after the second one. -/
def either (l : List Draft) : Draft where
  grow? z := do
    let z ← (l.take 2).foldlM join? z
    let z ← z.grow? 2 0
    (l.drop 2).foldlM join? z
  leave := 0

/-- Texts in stages: one that ends here closes a stage, so that the texts before it are preferred to
those after it. It does nothing more where no text goes on before it. -/
def stages (texts : List (List Nat)) : List (List (List Nat)) :=
  let ends := texts.takeWhile List.isEmpty
  (ends.take 1 ++ texts.dropWhile List.isEmpty).foldr addText [[]]
where
  /-- Stages with one more text in front. -/
  addText (text : List Nat) (later : List (List (List Nat))) : List (List (List Nat)) :=
    match text, later with
    | [], later => [] :: later
    | text, stage :: later => (text :: stage) :: later
    | text, [] => [[text]]

/-- The size with a tree of texts, which has a state for each of the stages of a node and one that
joins them. The longest text bounds the depth. -/
def addTexts? : Nat → List (List Nat) → Size → Option Size
  | 0, _, z => some z
  | depth + 1, texts, z => do
    let stages := stages texts
    let addStage (z : Size) (stage : List (List Nat)) : Option Size := do
      let groups := groupByHead stage
      let addGroup (z : Size) (group : Nat × List (List Nat)) : Option Size :=
        if group.2.all List.isEmpty then some z else addTexts? depth group.2 z
      let z ← groups.foldlM addGroup z
      match groups.length with
      | 0 => some z
      | 1 => z.grow? 1 linkBytes
      | n => z.grow? 1 (rangeBytes * n + linkBytes)
    let z ← stages.foldlM addStage z
    z.grow? 1 (linkBytes * (stages.length - 1))

/-- Texts as alternatives. -/
def texts (l : List (List Nat)) : Draft where
  grow? z := do
    let z ← z.grow? 1 0
    addTexts? ((l.map List.length).foldl Nat.max 0) l z
  leave := 0

end Draft

/-- Parts in the order in which a program of some direction reads them. -/
def Direction.order {α : Type} (d : Direction) (l : List α) : List α :=
  match d with
  | .forward => l
  | .backward => l.reverse

/-- The text of a shape that is one. -/
def text? : Shape → Option (List Nat)
  | .bytes text => some text
  | _ => none

mutual

/-- The part of a program for a shape. -/
def draft (d : Direction) : Shape → Draft
  | .empty => .chain 1
  | .bytes text => .chain text.length
  | .set s => .set d s
  | .assertion _ => .chain 1
  | .repetition s least most _ =>
    (draft d s).repeated (!s.extent.shortest.any (0 < ·)) least most
  | .group _ s =>
    match d with
    | .forward => (draft d s).group
    | .backward => draft d s
  | .sequence parts => .inOrder (d.order (drafts d parts))
  | .choice parts =>
    match parts.mapM text? with
    | some texts => .texts (texts.map d.order)
    | none => .either (drafts d parts)

/-- The parts of a program for several shapes. -/
def drafts (d : Direction) : List Shape → List Draft
  | [] => []
  | s :: rest => draft d s :: drafts d rest

end

/-- Whether all that a shape matches is next to the end of the text where a program begins. -/
def isAnchored (d : Direction) (s : Shape) : Bool :=
  match d with
  | .forward => s.extent.atStart
  | .backward => s.extent.atEnd

/-- The size of the program for a shape. Where a match can begin anywhere, the program begins with a
loop over all bytes. -/
def size? (d : Direction) (s : Shape) : Option Size := do
  let start : Size := ⟨0, 0⟩
  let z ← if isAnchored d s then start.grow? 1 0 else start.grow? 3 (rangeBytes + 2 * linkBytes)
  let whole :=
    match d with
    | .forward => (draft d s).group
    | .backward => draft d s
  let z ← whole.grow? z
  z.grow? 1 whole.leave

/-- Whether both programs for a shape stay within the limit. -/
def isWithinLimit (s : Shape) : Bool := (size? .forward s).isSome && (size? .backward s).isSome

end Program

namespace Pattern

/-- A bound on the bytes that a range of code points takes. Within one block of 64 it makes one
sequence of byte ranges and else at most 21, and a sequence takes at most four states with a range
each. -/
def roughRangeBytes (range : Nat × Nat) : Nat :=
  if range.1 / 64 = range.2 / 64 then 160 else 21 * 160

/-- A bound on the bytes of either program for a pattern. -/
def roughBytes : Pattern → Nat
  | .empty => 100
  | .set chars => chars.ranges.foldl (fun n range => n + roughRangeBytes range) 200
  | .assertion _ => 100
  | .seq p q => p.roughBytes + q.roughBytes + 100
  | .alt p q => p.roughBytes + q.roughBytes + 200
  | .repetition p least most _ =>
    Nat.max (least + 1) (most.getD 0) * (p.roughBytes + 100) + 200
  | .group _ p => p.roughBytes + 100

/-- Whether the programs for a pattern stay within the limit. They need not be counted where a bound
does. -/
def fits (p : Pattern) : Bool :=
  p.roughBytes + 1000 ≤ Program.limit || Program.isWithinLimit p.shape

end Pattern
end Gleaner
