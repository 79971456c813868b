import Gleaner.Proofs.Calendar.RoundTrip

/-!
# The pieces of a pattern

A pattern is scanned from its beginning to its end, piece by piece: text in brackets, a field that a
run of one character begins with, or a single character that stands for itself. The pieces cover the
pattern without gaps, and the layout consists of their tokens, with neighbouring literals merged. So
text in brackets may be put into a pattern wherever no bracket is open, and is rendered as it is.

## Main definitions

* `Layout.Piece`: a piece of a pattern.
* `Layout.pieces`: the pieces of a pattern, in order.
* `Layout.Piece.Begins`: a piece that a pattern begins with.
* `Layout.Progress.turns`: the state of the scan after a number of turns.
* `Layout.IsClosed`: a pattern without a bracket that is never closed.

## Main results

* `Begins.eq_firstPiece`: a pattern begins with one piece only.
* `covers_pieces`: the pieces cover the pattern.
* `compile_eq_foldl_push`: the layout of a pattern is built from the tokens of its pieces.
* `turns_eq`: the state of the scan after each turn.
* `render_compile_bracketed`: text in brackets is rendered as it is.
* `compile_covers`: the scan covers the pattern, and ends.
-/

namespace Gleaner.Calendar.Layout

variable {p rest text more : List Char} {c : Char}

/-! ### Pieces -/

/-- A piece of a pattern. -/
inductive Piece where
  /-- Text in brackets. -/
  | bracketed (text : List Char)
  /-- A field, the character it is written with, and how often this is repeated. -/
  | field (token : Token) (c : Char) (width : Nat)
  /-- A character that stands for itself. -/
  | plain (c : Char)
  deriving DecidableEq, Repr

namespace Piece

/-- The characters of a piece in the pattern. -/
def written : Piece → List Char
  | .bracketed text => '[' :: (text ++ [']'])
  | .field _ c width => List.replicate width c
  | .plain c => [c]

/-- How many characters the scan takes for a piece. -/
def width : Piece → Nat
  | .bracketed text => text.length + 2
  | .field _ _ width => width
  | .plain _ => 1

/-- The token that a piece stands for. -/
def token : Piece → Token
  | .bracketed text => .literal text
  | .field token _ _ => token
  | .plain c => .literal [c]

/-- The scan takes as many characters as are written. -/
@[simp]
theorem length_written (piece : Piece) : piece.written.length = piece.width := by
  cases piece <;> simp [written, width]

end Piece

/-- How many times a text begins with a character. -/
def runLength (c : Char) (text : List Char) : Nat := (text.takeWhile (· = c)).length

/-- The run of a text's first character. -/
theorem runLength_cons_self : runLength c (c :: rest) = (rest.takeWhile (· = c)).length + 1 := by
  simp [runLength]

/-- Another character ends a run. -/
theorem runLength_append_cons {d : Char} (h : d ≠ c) (text rest : List Char) :
    runLength c (text ++ d :: rest) = runLength c text := by
  rw [runLength, runLength, List.takeWhile_append]
  split
  · rename_i hall
    rw [(List.takeWhile_prefix _).eq_of_length hall]
    simp [h]
  · rfl

/-- A part of a run is one character repeated. -/
theorem take_eq_replicate {width : Nat} (h : width ≤ runLength c text) :
    text.take width = List.replicate width c := by
  have hrun : text.takeWhile (· = c) = List.replicate (runLength c text) c := by
    refine List.eq_replicate_iff.2 ⟨rfl, ?_⟩
    intro d hd
    simpa using List.mem_takeWhile_imp hd
  calc text.take width = (text.takeWhile (· = c) ++ text.dropWhile (· = c)).take width := by
        rw [List.takeWhile_append_dropWhile]
    _ = List.replicate width c := by
        rw [List.take_append_of_le_length h, hrun, List.take_replicate, Nat.min_eq_left h]

/-- The piece that a pattern begins with. -/
def firstPiece (c : Char) (rest : List Char) : Piece :=
  if c = '[' ∧ ']' ∈ rest then .bracketed (rest.takeWhile (· ≠ ']'))
  else
    match Token.ofRun? c (runLength c (c :: rest)) with
    | some (token, width) => .field token c width
    | none => .plain c

/-- A pattern begins with a piece: with text up to the nearest closing bracket, with a part of a run
that stands for a token, or with a character that does neither. -/
inductive Piece.Begins : List Char → Piece → Prop
  /-- The text ends at the nearest closing bracket. -/
  | bracketed {text : List Char} (rest : List Char) (htext : ']' ∉ text) :
    Begins ('[' :: (text ++ ']' :: rest)) (.bracketed text)
  /-- The field is no longer than the run, and stands for the token that the run begins with. -/
  | field {c : Char} {rest : List Char} {token : Token} {width : Nat} (hpos : 0 < width)
    (hwidth : width ≤ runLength c (c :: rest))
    (htoken : Token.ofRun? c (runLength c (c :: rest)) = some (token, width)) :
    Begins (c :: rest) (.field token c width)
  /-- The character stands for itself, as does an opening bracket that is never closed. -/
  | plain {c : Char} {rest : List Char} (hopen : c = '[' → ']' ∉ rest)
    (htoken : Token.ofRun? c (runLength c (c :: rest)) = none) :
    Begins (c :: rest) (.plain c)

/-- The text in front of the nearest closing bracket. -/
theorem takeWhile_append_bracket (h : ']' ∉ text) :
    (text ++ ']' :: rest).takeWhile (· ≠ ']') = text := by
  have hall : ∀ c ∈ text, decide (c ≠ ']') := by
    intro c hc
    exact decide_eq_true (ne_of_mem_of_not_mem hc h)
  rw [List.takeWhile_append_of_pos hall, List.takeWhile_cons_of_neg (by simp), List.append_nil]

/-- A character that stands for a token is no bracket. -/
theorem ne_bracket_of_ofRun? {run width : Nat} {token : Token}
    (h : Token.ofRun? c run = some (token, width)) : c ≠ '[' := by
  rintro rfl
  cases h

/-- A pattern begins with its first piece. -/
theorem begins_firstPiece (c : Char) (rest : List Char) :
    (firstPiece c rest).Begins (c :: rest) := by
  rw [firstPiece]
  by_cases hbracket : c = '[' ∧ ']' ∈ rest
  · rw [if_pos hbracket]
    obtain ⟨rfl, hmem⟩ := hbracket
    obtain ⟨text, after, rfl, htext⟩ := List.eq_append_cons_of_mem hmem
    rw [takeWhile_append_bracket htext]
    exact .bracketed after htext
  · rw [if_neg hbracket]
    cases htoken : Token.ofRun? c (runLength c (c :: rest)) with
    | some taken =>
      obtain ⟨token, width⟩ := taken
      -- here it counts that no token is wider than the run it is read from
      have hrun : 0 < runLength c (c :: rest) := by
        rw [runLength_cons_self]
        exact Nat.succ_pos _
      obtain ⟨hpos, hwidth⟩ := Token.width_le hrun htoken
      exact .field hpos hwidth htoken
    | none => exact .plain (fun hc hmem => hbracket ⟨hc, hmem⟩) htoken

namespace Piece.Begins

variable {piece : Piece}

/-- A pattern begins with one piece only. -/
theorem eq_firstPiece (h : piece.Begins (c :: rest)) : piece = firstPiece c rest := by
  cases h with
  | @bracketed text after htext =>
    rw [firstPiece, if_pos ⟨rfl, by simp⟩, takeWhile_append_bracket htext]
  | field hpos hwidth htoken =>
    rw [firstPiece, if_neg (fun h => ne_bracket_of_ofRun? htoken h.1), htoken]
  | plain hopen htoken =>
    rw [firstPiece, if_neg (fun h => hopen h.1 h.2), htoken]

/-- What a pattern begins with is written there. -/
theorem written_append_drop (h : piece.Begins text) :
    piece.written ++ text.drop piece.width = text := by
  cases h with
  | bracketed rest htext => simp [written, width]
  | field hpos hwidth htoken =>
    rw [written, width, ← take_eq_replicate hwidth, List.take_append_drop]
  | plain hopen htoken => rfl

/-- A piece takes no more characters than there are. -/
theorem width_le_length (h : piece.Begins text) : piece.width ≤ text.length := by
  have hwritten : piece.written <+: text := ⟨_, h.written_append_drop⟩
  rw [← piece.length_written]
  exact hwritten.length_le

/-- Every piece takes a character. -/
theorem width_pos (h : piece.Begins text) : 0 < piece.width := by
  cases h with
  | bracketed rest htext => exact Nat.succ_pos _
  | field hpos hwidth htoken => exact hpos
  | plain hopen htoken => exact Nat.one_pos

/-- A bracket after a pattern does not change the piece that the pattern begins with, unless this is
a bracket that is never closed. -/
theorem append_bracket (h : piece.Begins text) (hpiece : piece ≠ .plain '[') :
    piece.Begins (text ++ '[' :: more) := by
  cases h with
  | @bracketed text rest htext =>
    -- the nearest closing bracket is still the same
    simpa using Begins.bracketed (rest ++ '[' :: more) htext
  | @field c rest token width hpos hwidth htoken =>
    have hc : '[' ≠ c := (ne_bracket_of_ofRun? htoken).symm
    -- the run ends at the bracket, so it is as long as it was at the end of the pattern
    rw [← runLength_append_cons hc (c :: rest) more] at hwidth htoken
    exact .field hpos hwidth htoken
  | @plain c rest hopen htoken =>
    have hc : '[' ≠ c := by
      rintro rfl
      exact hpiece rfl
    rw [← runLength_append_cons hc (c :: rest) more] at htoken
    exact .plain (fun h => absurd h.symm hc) htoken

end Piece.Begins

/-- The pieces of a pattern, in order. -/
def pieces : List Char → List Piece
  | [] => []
  | c :: rest =>
    firstPiece c rest :: pieces ((c :: rest).drop (firstPiece c rest).width)
termination_by p => p.length
decreasing_by
  -- every piece takes at least one character
  have := (begins_firstPiece c rest).width_pos
  simp only [List.length_drop, List.length_cons]
  omega

/-- The pieces of a pattern that begins with a piece. -/
theorem pieces_eq_cons {piece : Piece} (h : piece.Begins p) :
    pieces p = piece :: pieces (p.drop piece.width) := by
  cases p with
  | nil => cases h
  | cons c rest => rw [pieces, h.eq_firstPiece]

/-! ### What the pieces cover -/

/-- Pieces that cover a pattern: what they are written with is the pattern, and each of them is what
the pattern begins with from its place on. -/
structure Covers (p : List Char) (pieces : List Piece) : Prop where
  /-- The pieces are the pattern. -/
  written_eq : pieces.flatMap Piece.written = p
  /-- Each piece is one that the rest of the pattern begins with. -/
  begins : ∀ {before after : List Piece} {piece : Piece}, pieces = before ++ piece :: after →
    piece.Begins (piece.written ++ after.flatMap Piece.written)

/-- A piece in front of the pieces of the rest. -/
theorem Covers.cons {piece : Piece} {later : List Piece} (h : piece.Begins p)
    (hlater : Covers (p.drop piece.width) later) : Covers p (piece :: later) where
  written_eq := by
    rw [List.flatMap_cons, hlater.written_eq, h.written_append_drop]
  begins := by
    intro before after other heq
    -- the piece is the one in front, or one of the rest
    cases before with
    | nil =>
      obtain ⟨rfl, rfl⟩ := List.cons.inj heq
      rwa [hlater.written_eq, h.written_append_drop]
    | cons first before => exact hlater.begins (List.cons.inj heq).2

/-- The pieces of a pattern cover it. -/
theorem covers_pieces (p : List Char) : Covers p (pieces p) := by
  fun_induction pieces p with
  | case1 => exact ⟨rfl, by simp⟩
  | case2 c rest ih => exact .cons (begins_firstPiece c rest) ih

/-- The pieces before a place in the list and those from there on are the pattern. -/
theorem written_take_append_drop (p : List Char) (n : Nat) :
    ((pieces p).take n).flatMap Piece.written ++ ((pieces p).drop n).flatMap Piece.written = p := by
  rw [← List.flatMap_append, List.take_append_drop, (covers_pieces p).written_eq]

/-- No other pieces cover a pattern. -/
theorem Covers.eq_pieces {all : List Piece} (h : Covers p all) : all = pieces p := by
  induction all generalizing p with
  | nil =>
    rw [← h.written_eq, List.flatMap_nil, pieces]
  | cons piece later ih =>
    have hbegins : piece.Begins p := by
      have := h.begins (List.nil_append _).symm
      rwa [← List.flatMap_cons, h.written_eq] at this
    have hlater : Covers (p.drop piece.width) later := by
      have hrest : later.flatMap Piece.written = p.drop piece.width := by
        rw [← h.written_eq, List.flatMap_cons, ← piece.length_written, List.drop_left]
      exact ⟨hrest, fun heq => h.begins (by rw [heq, List.cons_append])⟩
    -- what begins the pattern is its first piece, and the others cover what is left
    rw [pieces_eq_cons hbegins, ← ih hlater]

/-! ### Layouts from pieces -/

/-- A token in front of a layout; a literal becomes part of a literal that is there. -/
def consToken : Token → Layout → Layout
  | .literal text, layout => consLiteral text layout
  | token, layout => token :: layout

/-- A token after a layout; a literal becomes part of a literal that is there. -/
def push : Layout → Token → Layout
  | [], token => [token]
  | [first], token => consToken first [token]
  | first :: next :: rest, token => first :: push (next :: rest) token

/-- A field stays apart from the layout after it. -/
theorem consToken_of_isField {token : Token} (h : token.isField) (layout : Layout) :
    consToken token layout = token :: layout := by
  cases token <;> first | rfl | cases h

/-- A literal stays apart from a field after it. -/
theorem consLiteral_cons_of_isField {token : Token} (h : token.isField) (layout : Layout) :
    consLiteral text (token :: layout) = .literal text :: token :: layout := by
  cases token <;> first | rfl | cases h

/-- A token is a field or a literal. -/
theorem isField_or_exists_literal (token : Token) :
    token.isField ∨ ∃ text, token = .literal text := by
  cases token <;> simp [Token.isField]

/-- Two literals in front of a layout are one. -/
theorem consLiteral_consLiteral (before after : List Char) (layout : Layout) :
    consLiteral before (consLiteral after layout) = consLiteral (before ++ after) layout := by
  cases layout with
  | nil => rfl
  | cons token rest =>
    rcases isField_or_exists_literal token with htoken | ⟨text, rfl⟩
    · rw [consLiteral_cons_of_isField htoken, consLiteral_cons_of_isField htoken]
      rfl
    · rw [consLiteral, consLiteral, consLiteral, List.append_assoc]

/-- What comes before a layout does not matter for what comes after it. -/
theorem push_consToken (first last : Token) (layout : Layout) :
    push (consToken first layout) last = consToken first (push layout last) := by
  cases layout with
  | nil => cases first <;> rfl
  | cons next rest =>
    rcases isField_or_exists_literal first with hfirst | ⟨before, rfl⟩
    · rw [consToken_of_isField hfirst, consToken_of_isField hfirst]
      rfl
    rcases isField_or_exists_literal next with hnext | ⟨after, rfl⟩
    · -- the field keeps the literal and the last token apart
      have hpush : push (next :: rest) last = next :: (push (next :: rest) last).drop 1 := by
        cases rest with
        | nil => rw [push, consToken_of_isField hnext]; rfl
        | cons other rest => rfl
      rw [consToken, consToken, consLiteral_cons_of_isField hnext, hpush,
        consLiteral_cons_of_isField hnext, ← hpush]
      rfl
    · cases rest with
      | nil => exact (consLiteral_consLiteral before after [last]).symm
      | cons other rest => rfl

/-- Tokens that are put after a layout one by one. -/
theorem foldl_push_consToken (first : Token) (tokens : List Token) (layout : Layout) :
    tokens.foldl push (consToken first layout) = consToken first (tokens.foldl push layout) := by
  induction tokens generalizing layout with
  | nil => rfl
  | cons token tokens ih => rw [List.foldl_cons, push_consToken, ih, List.foldl_cons]

/-- The layout of a pattern that begins with a piece. -/
theorem compile_eq_consToken {piece : Piece} (h : piece.Begins p) :
    compile p = consToken piece.token (compile (p.drop piece.width)) := by
  cases h with
  | @bracketed text rest htext =>
    have hdrop : ((text ++ ']' :: rest).dropWhile (· ≠ ']')).drop 1 = rest := by
      have := List.takeWhile_append_dropWhile (p := (· ≠ ']')) (l := text ++ ']' :: rest)
      rw [takeWhile_append_bracket htext, List.append_cancel_left_eq] at this
      rw [this, List.drop_one, List.tail_cons]
    rw [compile, if_pos ⟨rfl, by simp⟩, takeWhile_append_bracket htext, hdrop]
    simp [Piece.token, Piece.width, consToken]
  | @field c rest token width hpos hwidth htoken =>
    obtain ⟨width, rfl⟩ := Nat.exists_eq_add_one.2 hpos
    rw [compile, if_neg (fun h => ne_bracket_of_ofRun? htoken h.1), ← runLength_cons_self, htoken,
      Piece.token, consToken_of_isField (isField_of_ofRun? htoken)]
    rfl
  | @plain c rest hopen htoken =>
    rw [compile, if_neg (fun h => hopen h.1 h.2), ← runLength_cons_self, htoken]
    rfl

/-- The layout of a pattern is built from the tokens of its pieces. -/
theorem compile_eq_foldl_push (p : List Char) :
    compile p = ((pieces p).map Piece.token).foldl push [] := by
  fun_induction pieces p with
  | case1 => rw [compile, List.map_nil, List.foldl_nil]
  | case2 c rest ih =>
    have hfirst (token : Token) : push [] token = consToken token [] := by
      cases token <;> rfl
    rw [compile_eq_consToken (begins_firstPiece c rest), ih, ← foldl_push_consToken, ← hfirst,
      List.map_cons, List.foldl_cons]

/-! ### The scan -/

/-- How far the scan of a pattern has come. -/
structure Progress where
  /-- The place in the pattern. -/
  place : Nat := 0
  /-- The layout so far. -/
  layout : Layout := []

namespace Progress

/-- The state of the scan after a piece. -/
def pass (s : Progress) (piece : Piece) : Progress where
  place := s.place + piece.width
  layout := push s.layout piece.token

/-- A turn of the scan: it takes the piece that stands at its place, and there is none when it has
come to the end. -/
def turn? (p : List Char) (s : Progress) : Option Progress :=
  match p.drop s.place with
  | [] => none
  | c :: rest => some (s.pass (firstPiece c rest))

/-- The state of the scan after a number of turns; there is none when the scan has ended before. -/
def turns (p : List Char) : Nat → Option Progress
  | 0 => some {}
  | n + 1 => (turns p n).bind (turn? p)

/-- The state of the scan after some pieces. -/
def after (all : List Piece) : Progress := all.foldl pass {}

/-- The scan takes turns until it has come to the end. -/
theorem turn?_eq_none_iff {s : Progress} : turn? p s = none ↔ p.length ≤ s.place := by
  rw [← List.drop_eq_nil_iff]
  cases h : p.drop s.place with
  | nil => simp [turn?, h]
  | cons c rest => simp [turn?, h]

/-- The place and the layout after some pieces. -/
theorem foldl_pass (all : List Piece) (s : Progress) :
    all.foldl pass s =
      ⟨s.place + (all.flatMap Piece.written).length,
        (all.map Piece.token).foldl push s.layout⟩ := by
  induction all generalizing s with
  | nil => rfl
  | cons piece later ih =>
    rw [List.foldl_cons, ih, pass, List.flatMap_cons, List.length_append, piece.length_written,
      Nat.add_assoc, List.map_cons, List.foldl_cons]

/-- The scan has come as far as the pieces are written. -/
theorem place_after (all : List Piece) :
    (after all).place = (all.flatMap Piece.written).length := by
  rw [after, foldl_pass, Nat.zero_add]

/-- After all pieces, the scan is at the end, and has the layout of the pattern. -/
theorem after_pieces (p : List Char) : after (pieces p) = ⟨p.length, compile p⟩ := by
  rw [after, foldl_pass, (covers_pieces p).written_eq, Nat.zero_add, compile_eq_foldl_push]

/-- A turn takes the next piece. -/
theorem turn?_after (p : List Char) (n : Nat) :
    turn? p (after ((pieces p).take n)) =
      (pieces p)[n]?.map (after ((pieces p).take n)).pass := by
  have hdrop : p.drop (after ((pieces p).take n)).place =
      ((pieces p).drop n).flatMap Piece.written := by
    have hplace : (((pieces p).take n).flatMap Piece.written ++
        ((pieces p).drop n).flatMap Piece.written).drop (after ((pieces p).take n)).place =
          ((pieces p).drop n).flatMap Piece.written :=
      List.drop_left' (place_after _).symm
    rwa [written_take_append_drop] at hplace
  rw [turn?, hdrop, ← List.head?_drop]
  cases hlater : (pieces p).drop n with
  | nil => rfl
  | cons piece later =>
    have hbegins := (covers_pieces p).begins (hlater ▸ (List.take_append_drop n (pieces p)).symm)
    rw [← List.flatMap_cons] at hbegins
    -- what is left of the pattern begins with the next piece, so it is not empty
    cases hrest : (piece :: later).flatMap Piece.written with
    | nil => cases hrest ▸ hbegins
    | cons c rest =>
      rw [hrest] at hbegins
      rw [hbegins.eq_firstPiece]
      rfl

/-- Each turn takes a piece, and the scan ends after the last one. -/
theorem turns_eq (p : List Char) (n : Nat) :
    turns p n =
      if n ≤ (pieces p).length then some (after ((pieces p).take n)) else none := by
  induction n with
  | zero => rfl
  | succ n ih =>
    rw [turns, ih]
    -- there is a piece left, the last one has just been taken, or the scan has ended before
    rcases Nat.lt_trichotomy n (pieces p).length with hn | hn | hn
    · rw [if_pos hn.le, if_pos (Nat.succ_le_of_lt hn), Option.bind_some, turn?_after,
        List.getElem?_eq_getElem hn, Option.map_some, List.take_succ_eq_append_getElem hn, after,
        after, List.foldl_concat]
    · rw [if_pos hn.le, if_neg (by omega), Option.bind_some, turn?_after,
        List.getElem?_eq_none hn.ge, Option.map_none]
    · rw [if_neg (by omega), if_neg (by omega), Option.bind_none]

/-- The scan never comes past the end. -/
theorem place_le {n : Nat} {s : Progress} (h : turns p n = some s) : s.place ≤ p.length := by
  rw [turns_eq, Option.ite_none_right_eq_some] at h
  obtain ⟨-, h⟩ := h
  have hprefix : ((pieces p).take n).flatMap Piece.written <+: p :=
    ⟨_, written_take_append_drop p n⟩
  rw [← Option.some.inj h, place_after]
  exact hprefix.length_le

end Progress

/-! ### Brackets -/

/-- A pattern whose brackets are all closed: after every opening bracket there is a closing one. -/
def IsClosed (p : List Char) : Prop := ∀ rest, '[' :: rest <:+ p → ']' ∈ rest

/-- A bracket that is opened in a piece is closed in it. -/
theorem Piece.Begins.mem_of_suffix {piece : Piece} (h : piece.Begins p)
    (hpiece : piece ≠ .plain '[') (hsuffix : '[' :: text <:+ piece.written) : ']' ∈ text := by
  cases h with
  | @bracketed inner rest hinner =>
    have hlast := List.getLast_mem (List.cons_ne_nil '[' text)
    rw [hsuffix.getLast] at hlast
    simpa [Piece.written] using hlast
  | @field c rest token width hpos hwidth htoken =>
    have hc : '[' = c := List.eq_of_mem_replicate (hsuffix.subset List.mem_cons_self)
    exact absurd hc.symm (ne_bracket_of_ofRun? htoken)
  | @plain c rest hopen htoken =>
    have hc : '[' = c := List.mem_singleton.1 (hsuffix.subset List.mem_cons_self)
    exact absurd (congrArg Piece.plain hc.symm) hpiece

/-- The brackets of a pattern are closed if its first piece is no bracket that stands for itself, and
those of the rest are closed. -/
theorem isClosed_iff_of_begins {piece : Piece} (h : piece.Begins p) :
    IsClosed p ↔ piece ≠ .plain '[' ∧ IsClosed (p.drop piece.width) := by
  constructor
  · intro hclosed
    refine ⟨?_, fun after hafter => hclosed after (hafter.trans (List.drop_suffix _ _))⟩
    rintro rfl
    cases h with
    | @plain _ rest hopen htoken => exact hopen rfl (hclosed rest List.suffix_rfl)
  · rintro ⟨hpiece, hclosed⟩ after ⟨before, heq⟩
    -- the bracket is in the first piece or in a later one
    rcases List.append_eq_append_iff.1 (heq.trans h.written_append_drop.symm) with
      ⟨inside, hwritten, hinside⟩ | ⟨between, -, hbetween⟩
    · cases inside with
      | nil => exact hclosed after ⟨[], hinside⟩
      | cons d inside =>
        obtain ⟨rfl, rfl⟩ := List.cons.inj hinside
        exact List.mem_append_left _ (h.mem_of_suffix hpiece ⟨before, hwritten.symm⟩)
    · exact hclosed after ⟨between, hbetween.symm⟩

/-- The brackets of a pattern are closed if no piece is an opening bracket that stands for itself. -/
theorem isClosed_iff (p : List Char) : IsClosed p ↔ .plain '[' ∉ pieces p := by
  fun_induction pieces p with
  | case1 =>
    refine ⟨fun _ => List.not_mem_nil, ?_⟩
    intro _ rest hrest
    cases List.suffix_nil.1 hrest
  | case2 c rest ih =>
    rw [isClosed_iff_of_begins (begins_firstPiece c rest), ih, List.mem_cons, not_or, ne_comm]

/-- After a pattern whose brackets are closed, a bracket begins a piece of its own. -/
theorem pieces_append_bracket (h : .plain '[' ∉ pieces p) :
    pieces (p ++ '[' :: more) = pieces p ++ pieces ('[' :: more) := by
  fun_induction pieces p with
  | case1 => rfl
  | case2 c rest ih =>
    have hbegins := begins_firstPiece c rest
    rw [List.mem_cons, not_or] at h
    rw [pieces_eq_cons (hbegins.append_bracket (Ne.symm h.1)),
      List.drop_append_of_le_length hbegins.width_le_length, ih h.2, List.cons_append]

/-! ### Rendering -/

/-- A token in front of a layout is rendered in front of it. -/
theorem render_consToken (token : Token) (layout : Layout) (t : Instant) :
    (consToken token layout).render t = renderToken t token ++ layout.render t := by
  rcases isField_or_exists_literal token with htoken | ⟨text, rfl⟩
  · rw [consToken_of_isField htoken, render_cons]
  · cases layout with
    | nil => rfl
    | cons next rest =>
      rcases isField_or_exists_literal next with hnext | ⟨more, rfl⟩
      · rw [consToken, consLiteral_cons_of_isField hnext, render_cons]
      · rw [consToken, consLiteral, render_cons, render_cons, renderToken, renderToken, renderToken,
          List.append_assoc]

/-- A pattern is rendered piece by piece. -/
theorem render_compile (p : List Char) (t : Instant) :
    (compile p).render t = (pieces p).flatMap fun piece => renderToken t piece.token := by
  fun_induction pieces p with
  | case1 => rw [compile]; rfl
  | case2 c rest ih =>
    rw [compile_eq_consToken (begins_firstPiece c rest), render_consToken, ih, List.flatMap_cons]

/-- Text in brackets is rendered as it is, between what is in front of it and what is after it. -/
theorem render_compile_bracketed {q : List Char} (hp : IsClosed p) (htext : ']' ∉ text)
    (t : Instant) :
    (compile (p ++ '[' :: (text ++ ']' :: q))).render t =
      (compile p).render t ++ (text ++ (compile q).render t) := by
  have hbegins := Piece.Begins.bracketed q htext
  have hdrop : ('[' :: (text ++ ']' :: q)).drop (Piece.bracketed text).width = q := by
    simp [Piece.width]
  rw [render_compile, pieces_append_bracket ((isClosed_iff p).1 hp), pieces_eq_cons hbegins, hdrop,
    List.flatMap_append, List.flatMap_cons, ← render_compile, ← render_compile]
  rfl

/-- **A scan covers the pattern.** The pieces of a pattern, and no others, cover it. Every turn of
the scan takes the next piece, and the scan never comes past the end of the pattern. It ends there,
with the layout of the pattern, in which no two literals are neighbours. So text in brackets is
rendered as it is, after what is in front of it and before what follows it, if no bracket in front of
it is open. -/
theorem compile_covers (p : List Char) :
    (∀ all, Covers p all ↔ all = pieces p) ∧
      (∀ n, Progress.turns p n =
        if n ≤ (pieces p).length then some (Progress.after ((pieces p).take n)) else none) ∧
      (∀ n s, Progress.turns p n = some s →
        s.place ≤ p.length ∧ (s.turn? p = none ↔ s.place = p.length)) ∧
      Progress.after (pieces p) = ⟨p.length, compile p⟩ ∧
      IsMerged (compile p) ∧
      (IsClosed p ↔ .plain '[' ∉ pieces p) ∧
      ∀ text q t, IsClosed p → ']' ∉ text →
        (compile (p ++ '[' :: (text ++ ']' :: q))).render t =
          (compile p).render t ++ (text ++ (compile q).render t) := by
  refine ⟨?_, Progress.turns_eq p, ?_, Progress.after_pieces p, isMerged_compile p,
    isClosed_iff p, ?_⟩
  · intro all
    refine ⟨Covers.eq_pieces, ?_⟩
    rintro rfl
    exact covers_pieces p
  · intro n s h
    have hplace := Progress.place_le h
    exact ⟨hplace, Progress.turn?_eq_none_iff.trans ⟨hplace.antisymm, fun h => h.ge⟩⟩
  · intro text q t hp htext
    exact render_compile_bracketed hp htext t

/-- The hour of a clock, with text in brackets in front of it. -/
def hourPattern : List Char := "[at] h".toList

/-- The pieces of the pattern. -/
theorem pieces_hourPattern :
    pieces hourPattern = [.bracketed ['a', 't'], .plain ' ', .field .hour12 'h' 1] := by
  cbv

/-- The scan ends after three turns, and a bracket within brackets is rendered as it is. -/
theorem compile_covers_hourPattern :
    Progress.turns hourPattern 3 = some ⟨6, [.literal ['a', 't', ' '], .hour12]⟩ ∧
      Progress.turns hourPattern 4 = none ∧ IsClosed hourPattern ∧
      (compile (hourPattern ++ '[' :: (" o[clock".toList ++ ']' :: " A".toList))).render evening =
        "at 7 o[clock PM".toList := by
  obtain ⟨-, hturns, -, -, -, hclosed, hrender⟩ := compile_covers hourPattern
  rw [pieces_hourPattern] at hturns hclosed
  have hp : IsClosed hourPattern := hclosed.2 (by decide)
  refine ⟨hturns 3, hturns 4, hp, ?_⟩
  have hfront : compile hourPattern = [.literal ['a', 't', ' '], .hour12] := by cbv
  have hback : compile " A".toList = [.literal [' '], .meridiem] := by cbv
  rw [hrender _ _ _ hp (by decide), hfront, hback]
  decide +kernel

end Gleaner.Calendar.Layout
