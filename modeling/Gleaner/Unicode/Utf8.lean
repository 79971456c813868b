import Gleaner.Unicode.CodeRanges

/-!
# Code points as bytes

The encoding of a code point in one to four bytes, and the sequences of byte ranges that together
spell all code points of a range.
-/

namespace Gleaner.Unicode

/-- The number of bytes that encode a code point. -/
def encodedLength (code : Nat) : Nat :=
  if code ≤ 0x7F then 1 else if code ≤ 0x7FF then 2 else if code ≤ 0xFFFF then 3 else 4

/-- The last bytes of an encoding: six bits each. -/
def trailing : Nat → Nat → List Nat
  | 0, _ => []
  | n + 1, code => (0x80 + code / Nat.pow 64 n % 64) :: trailing n code

/-- The bytes that encode a code point. -/
def encode (code : Nat) : List Nat :=
  match encodedLength code with
  | 1 => [code]
  | 2 => (0xC0 + code / 64) :: trailing 1 code
  | 3 => (0xE0 + code / 4096) :: trailing 2 code
  | _ => (0xF0 + code / 262144) :: trailing 3 code

/-- The number that trailing bytes add to. -/
def withTrailing (lead : Nat) (bytes : List Nat) : Nat :=
  bytes.foldl (fun n byte => 64 * n + (byte - 0x80)) lead

/-- The code point that bytes encode, where they encode exactly one. -/
def decode? (bytes : List Nat) : Option Nat :=
  match bytes with
  | [b] => if b ≤ 0x7F then some b else none
  | [b, c] => if 0xC0 ≤ b then some (withTrailing (b - 0xC0) [c]) else none
  | [b, c, d] => if 0xE0 ≤ b then some (withTrailing (b - 0xE0) [c, d]) else none
  | [b, c, d, e] => if 0xF0 ≤ b then some (withTrailing (b - 0xF0) [c, d, e]) else none
  | _ => none

/-- Where a range of code points has to be cut so that byte ranges can spell its pieces: the last
code point of the first piece and the first one of the second. Surrogates are left out, a piece has
encodings of one length only, and where its ends differ in a byte it has all values of the bytes
after it. -/
def cut? (first last : Nat) : Option (Nat × Nat) :=
  if first < 0xE000 && 0xD7FF < last then some (0xD7FF, 0xE000)
  else
    match [0x7F, 0x7FF, 0xFFFF].find? fun top => first ≤ top && top < last with
    | some top => some (top, top + 1)
    | none =>
      if last ≤ 0x7F then none
      else
        [64, 4096, 262144].findSome? fun block =>
          if first / block == last / block then none
          else if first % block != 0 then
            let top := first / block * block + block
            some (top - 1, top)
          else if last % block != block - 1 then
            let bottom := last / block * block
            some (bottom - 1, bottom)
          else none

/-- The sequences of byte ranges that spell the code points of a range, in order. A range is cut
into few pieces: each cut settles one end for one length or one block. -/
def byteRangesOf : Nat → Nat → Nat → List (List (Nat × Nat))
  | 0, _, _ => []
  | fuel + 1, first, last =>
    if last < first then []
    else
      match cut? first last with
      | some (stop, next) => byteRangesOf fuel first stop ++ byteRangesOf fuel next last
      | none => [(encode first).zip (encode last)]

/-- The sequences of byte ranges that spell the code points of a set, in order. -/
def CodeRanges.byteRanges (s : CodeRanges) : List (List (Nat × Nat)) :=
  s.ranges.flatMap fun (first, last) => byteRangesOf 32 first last

end Gleaner.Unicode
