import Gleaner.Calendar.Layout
import Gleaner.Proofs.Pattern.Texts
import Gleaner.Proofs.Text.Trim

/-!
# How a layout reads a text

A layout is read by its pattern, whose groups hold what its tokens have matched. Here this is said
without the pattern: a text is split into blanks, a piece for each token, and blanks, and the
fields are taken from the pieces one after another.

## Main definitions

* `Layout.AcceptsAll`: pieces that the tokens of a layout accept.
* `Layout.IsSplit`: a text split into pieces that the tokens of a layout accept.
* `Layout.takeTexts`: the fields with the pieces of all tokens taken in.
* `Layout.fieldPieces`: the tokens that are fields, each with its piece.
* `Layout.Fields.takeAll`: the fields with the texts of tokens taken in, one after another.

## Main results

* `Layout.leads_pattern_iff`: a match of the pattern of a layout is a split of the text.
* `Layout.takeFields_eq_bind`: the fields are taken from the texts of the groups.
* `Layout.takeFields_eq`: the groups of a match hold the pieces.
* `Layout.exists_read?_eq`: a text that can be split is read by one of its splits.
-/

namespace Gleaner

open Pattern (Reached)

namespace Pattern

variable {p : Pattern} {r r' : Reached}

/-- The place after a text that is the latest stretch of a group. -/
def Reached.capture (number : Nat) (text : List Char) (r : Reached) : Reached :=
  { r with
    cursor := r.cursor.after text
    groups := (number, ⟨r.cursor, r.cursor.after text⟩) :: r.groups }

/-- A match of a plain pattern as a group reads one of its texts. -/
theorem leads_group_iff {number : Nat} (hp : p.isPlain) :
    (group number p).Leads r r' ↔
      ∃ text, p.Accepts text ∧ text <+: r.cursor.rest ∧ r' = r.capture number text := by
  constructor
  · rintro ⟨inner, hinner, rfl⟩
    obtain ⟨text, hacc, hpre, rfl⟩ := (leads_iff_of_isPlain hp).1 hinner
    exact ⟨text, hacc, hpre, rfl⟩
  · rintro ⟨text, hacc, hpre, rfl⟩
    exact ⟨r.openGroup.after text, (leads_iff_of_isPlain hp).2 ⟨text, hacc, hpre, rfl⟩, rfl⟩

/-- Any number of blanks are a blank text. -/
theorem accepts_many_blank_iff {text : List Char} :
    (many blank).Accepts text ↔ IsBlankText text := by
  rw [many, blank, accepts_repetition_set_iff]
  simp [Unicode.contains_whiteSpace, IsBlankText]

/-- A match that begins with blanks. -/
theorem leads_blanks_cons_iff {more : List Pattern} :
    (seqAll (many blank :: more)).Leads r r' ↔
      ∃ text, IsBlankText text ∧ text <+: r.cursor.rest ∧
        (seqAll more).Leads (r.after text) r' := by
  have hplain : (many blank).isPlain := rfl
  simp only [leads_seqAll_cons_iff, leads_iff_of_isPlain hplain, accepts_many_blank_iff]
  constructor
  · rintro ⟨_, ⟨text, hblank, hpre, rfl⟩, hmore⟩
    exact ⟨text, hblank, hpre, hmore⟩
  · rintro ⟨text, hblank, hpre, hmore⟩
    exact ⟨_, ⟨text, hblank, hpre, rfl⟩, hmore⟩

/-- A match from the beginning of a text that has to be there is one of what comes next. -/
theorem leads_textStart_cons_iff {more : List Pattern} {text : List Char} :
    (seqAll (assertion .textStart :: more)).Leads { cursor := .start text } r' ↔
      (seqAll more).Leads { cursor := .start text } r' := by
  rw [leads_seqAll_cons_iff]
  constructor
  · rintro ⟨_, ⟨-, rfl⟩, hmore⟩
    exact hmore
  · exact fun hmore => ⟨_, ⟨rfl, rfl⟩, hmore⟩

/-- The end of the text leads to itself. -/
theorem leads_textEnd_iff :
    (seqAll [assertion .textEnd]).Leads r r' ↔ r.cursor.rest = [] ∧ r' = r := by
  simp [seqAll, Leads, Assertion.holds]

end Pattern

namespace Calendar.Layout

open Pattern

/-! ### The patterns of tokens -/

/-- The pattern of a token in its place: a group, unless it is a literal. -/
def tokenPattern (index : Nat) : Token → Pattern
  | .literal text => .literal text
  | token => .group index (fieldPattern token)

/-- The number of the next group after a token. -/
def nextIndex (index : Nat) : Token → Nat
  | .literal _ => index
  | _ => index + 1

/-- The place after the piece of a token. -/
def passing (index : Nat) (token : Token) (piece : List Char) (r : Reached) : Reached :=
  match token with
  | .literal _ => r.after piece
  | _ => r.capture index piece

/-- The place after the pieces of a layout. -/
def passingAll : Nat → Layout → List (List Char) → Reached → Reached
  | index, token :: rest, piece :: pieces, r =>
    passingAll (nextIndex index token) rest pieces (passing index token piece r)
  | _, _, _, r => r

/-- The patterns of a layout are those of its tokens. -/
theorem patterns_cons (index : Nat) (token : Token) (rest : Layout) :
    patterns index (token :: rest) =
      tokenPattern index token :: patterns (nextIndex index token) rest := by
  cases token <;> rfl

/-- The pattern of a token is plain. -/
theorem isPlain_fieldPattern (token : Token) : (fieldPattern token).isPlain := by
  cases token with
  | literal text =>
    exact isPlain_seqAll (List.forall_mem_map.2 fun _ _ => rfl)
  | _ => rfl

/-- The pattern of a token is ordered. -/
theorem isOrdered_fieldPattern (token : Token) : (fieldPattern token).isOrdered := by
  cases token with
  | literal text =>
    exact isOrdered_seqAll (List.forall_mem_map.2 fun _ _ => rfl)
  | _ => rfl

/-- The patterns of a layout are ordered. -/
theorem isOrdered_of_mem_patterns {index : Nat} {layout : Layout} {p : Pattern}
    (h : p ∈ patterns index layout) : p.isOrdered := by
  induction layout generalizing index with
  | nil => cases h
  | cons token rest ih =>
    rw [patterns_cons, List.mem_cons] at h
    rcases h with rfl | h
    · have hfield := isOrdered_fieldPattern token
      cases token <;> exact hfield
    · exact ih h

/-- The pattern of a layout is ordered. -/
theorem isOrdered_pattern (layout : Layout) : layout.pattern.isOrdered := by
  refine isOrdered_seqAll fun p hp => ?_
  simp only [List.cons_append, List.mem_cons, List.mem_append, List.not_mem_nil, or_false] at hp
  rcases hp with rfl | rfl | hp | rfl | rfl
  · rfl
  · rfl
  · exact isOrdered_of_mem_patterns hp
  · rfl
  · rfl

/-! ### Matches as splits -/

/-- The tokens of a layout accept the pieces, each its own. -/
abbrev AcceptsAll (layout : Layout) (pieces : List (List Char)) : Prop :=
  List.Forall₂ (fun token piece => (fieldPattern token).Accepts piece) layout pieces

section Matches

variable {index : Nat} {token : Token} {layout : Layout} {r r' : Reached}

/-- The place after a piece, as far as the text goes. -/
theorem cursor_passing (index : Nat) (token : Token) (piece : List Char) (r : Reached) :
    (passing index token piece r).cursor = r.cursor.after piece := by
  cases token <;> rfl

/-- The place after all pieces, as far as the text goes. -/
theorem cursor_passingAll {pieces : List (List Char)} (h : layout.length = pieces.length) :
    (passingAll index layout pieces r).cursor = r.cursor.after pieces.flatten := by
  induction layout generalizing index pieces r with
  | nil =>
    obtain rfl : pieces = [] := List.length_eq_zero_iff.1 h.symm
    rfl
  | cons token rest ih =>
    obtain ⟨piece, pieces, rfl⟩ := List.exists_cons_of_length_eq_add_one h.symm
    rw [passingAll, ih (Nat.succ.inj h), cursor_passing, List.flatten_cons, Cursor.after_append]

/-- A match of a token reads one of its texts. -/
theorem leads_tokenPattern_iff :
    (tokenPattern index token).Leads r r' ↔ ∃ piece, (fieldPattern token).Accepts piece ∧
      piece <+: r.cursor.rest ∧ r' = passing index token piece r := by
  have hplain := isPlain_fieldPattern token
  cases token with
  | literal text => exact leads_iff_of_isPlain hplain
  | _ => exact leads_group_iff hplain

/-- A match of the tokens of a layout, and of what comes after them, reads a text of each. -/
theorem leads_patterns_append_iff {more : List Pattern} :
    (seqAll (patterns index layout ++ more)).Leads r r' ↔
      ∃ pieces, layout.AcceptsAll pieces ∧
        pieces.flatten <+: r.cursor.rest ∧
        (seqAll more).Leads (passingAll index layout pieces r) r' := by
  induction layout generalizing index r with
  | nil => simp [patterns, passingAll]
  | cons token rest ih =>
    rw [patterns_cons, List.cons_append, leads_seqAll_cons_iff]
    simp only [leads_tokenPattern_iff, ih]
    constructor
    · rintro ⟨_, ⟨piece, hacc, hpre, rfl⟩, pieces, hpieces, hpre', hmore⟩
      rw [cursor_passing, Cursor.rest_after] at hpre'
      exact ⟨piece :: pieces, .cons hacc hpieces, append_prefix_iff.2 ⟨hpre, hpre'⟩, hmore⟩
    · rintro ⟨_, hall, hpre, hmore⟩
      obtain ⟨piece, pieces, hacc, hpieces, rfl⟩ := List.forall₂_cons_left_iff.1 hall
      obtain ⟨hfirst, hlater⟩ := append_prefix_iff.1 hpre
      refine ⟨_, ⟨piece, hacc, hfirst, rfl⟩, pieces, hpieces, ?_, hmore⟩
      rwa [cursor_passing, Cursor.rest_after]

end Matches

/-- A text split into blanks, pieces that the tokens of a layout accept, and blanks. -/
structure IsSplit (layout : Layout) (text before : List Char) (pieces : List (List Char))
    (after : List Char) : Prop where
  /-- The text begins with blanks. -/
  before_blank : IsBlankText before
  /-- Each token accepts its piece. -/
  pieces_accepted : layout.AcceptsAll pieces
  /-- The text ends with blanks. -/
  after_blank : IsBlankText after
  /-- There is nothing else in the text. -/
  text_eq : text = before ++ (pieces.flatten ++ after)

/-- A match of the pattern of a layout is a split of the text. -/
theorem leads_pattern_iff {layout : Layout} {text : List Char} {r : Reached} :
    layout.pattern.Leads { cursor := .start text } r ↔
      ∃ before pieces after, layout.IsSplit text before pieces after ∧
        r = (passingAll 1 layout pieces
          (({ cursor := .start text } : Reached).after before)).after after := by
  let first : Reached := { cursor := .start text }
  have hleads : layout.pattern.Leads first r ↔
      ∃ before, IsBlankText before ∧ before <+: text ∧
        ∃ pieces, layout.AcceptsAll pieces ∧
          pieces.flatten <+: text.drop before.length ∧
          ∃ after, IsBlankText after ∧
            after <+: (passingAll 1 layout pieces (first.after before)).cursor.rest ∧
            (((passingAll 1 layout pieces (first.after before)).after after).cursor.rest = [] ∧
              r = (passingAll 1 layout pieces (first.after before)).after after) := by
    -- the beginning of the text, blanks, the tokens, blanks, and the end of the text
    rw [pattern, List.cons_append, List.cons_append, leads_textStart_cons_iff]
    simp only [leads_blanks_cons_iff, leads_patterns_append_iff, leads_textEnd_iff,
      Reached.cursor_after, Cursor.rest_after]
    rfl
  have hrest {before pieces} (hlength : layout.length = pieces.length) :
      (passingAll 1 layout pieces (first.after before)).cursor.rest =
        (text.drop before.length).drop pieces.flatten.length := by
    simp [cursor_passingAll hlength, first, Cursor.start]
  rw [hleads]
  constructor
  · rintro ⟨before, hbefore, hpre, pieces, hpieces, hpre', after, hafter, hpre'', hend,
      rfl⟩
    rw [Reached.cursor_after, Cursor.rest_after, hrest hpieces.length_eq] at hend
    rw [hrest hpieces.length_eq] at hpre''
    have hwhole : before ++ (pieces.flatten ++ after) <+: text :=
      append_prefix_iff.2 ⟨hpre, append_prefix_iff.2 ⟨hpre', hpre''⟩⟩
    refine ⟨before, pieces, after, ⟨hbefore, hpieces, hafter, ?_⟩, rfl⟩
    refine (hwhole.eq_of_length_le ?_).symm
    simpa only [List.drop_drop, List.drop_eq_nil_iff, List.length_append, Nat.add_assoc] using hend
  · rintro ⟨before, pieces, after, hsplit, rfl⟩
    obtain ⟨hpre, hlater⟩ := append_prefix_iff.1 (hsplit.text_eq ▸ List.prefix_rfl :
      before ++ (pieces.flatten ++ after) <+: text)
    obtain ⟨hpre', hpre''⟩ := append_prefix_iff.1 hlater
    have hlength := hsplit.pieces_accepted.length_eq
    refine ⟨before, hsplit.before_blank, hpre, pieces, hsplit.pieces_accepted, hpre', after,
      hsplit.after_blank, ?_, ?_, rfl⟩
    · rwa [hrest hlength]
    · rw [Reached.cursor_after, Cursor.rest_after, hrest hlength, hsplit.text_eq]
      simp

/-! ### Fields -/

/-- The fields with the pieces of the tokens of a layout taken in. -/
def takeTexts : Layout → List (List Char) → Fields → Option Fields
  | token :: rest, piece :: pieces, fields =>
    (fields.take token piece).bind fun fields => takeTexts rest pieces fields
  | _, _, fields => some fields

/-- The fields of a layout, each with its piece. -/
def fieldPieces : Layout → List (List Char) → List (Token × List Char)
  | .literal _ :: rest, _ :: pieces => fieldPieces rest pieces
  | token :: rest, piece :: pieces => (token, piece) :: fieldPieces rest pieces
  | _, _ => []

/-- The fields of a layout, each with the text of its group, the groups being numbered from an
index on. -/
def groupTexts (m : Match) : Nat → Layout → Option (List (Token × List Char))
  | _, [] => some []
  | index, .literal _ :: rest => groupTexts m index rest
  | index, token :: rest => do
    let text ← m.group? index
    let captured ← groupTexts m (index + 1) rest
    some ((token, text) :: captured)

/-- The fields with the texts of some tokens taken in, one after another. -/
def Fields.takeAll (fields : Fields) (captured : List (Token × List Char)) : Option Fields :=
  captured.foldlM (fun fields (token, text) => fields.take token text) fields

/-- The text of the first token is taken in first. -/
theorem takeAll_cons (fields : Fields) (token : Token) (text : List Char)
    (captured : List (Token × List Char)) :
    fields.takeAll ((token, text) :: captured) =
      (fields.take token text).bind fun fields => fields.takeAll captured := rfl

/-- Literals say nothing, so the pieces of the fields are taken in. -/
theorem takeTexts_eq_takeAll (layout : Layout) (pieces : List (List Char)) (fields : Fields) :
    takeTexts layout pieces fields = fields.takeAll (fieldPieces layout pieces) := by
  induction layout generalizing pieces fields with
  | nil => rfl
  | cons token rest ih =>
    cases pieces with
    | nil => cases token <;> rfl
    | cons piece pieces =>
      simp only [takeTexts, ih]
      cases token <;> rfl

/-- The texts of all groups are taken in, if there are all of them. -/
theorem takeFields_eq_bind (m : Match) (index : Nat) (layout : Layout) (fields : Fields) :
    takeFields m index layout fields = (groupTexts m index layout).bind fields.takeAll := by
  induction layout generalizing index fields with
  | nil => rfl
  | cons token rest ih =>
    have hfield : ((m.group? index).bind fun text => (fields.take token text).bind
        fun fields => takeFields m (index + 1) rest fields) =
        ((m.group? index).bind fun text => (groupTexts m (index + 1) rest).bind
          fun captured => some ((token, text) :: captured)).bind fields.takeAll := by
      simp only [ih, Option.bind_assoc, Option.bind_some, takeAll_cons]
      -- a group that is missing later is as good as one that is not taken in before
      refine Option.bind_congr fun text _ => ?_
      exact Option.bind_comm (fields.take token text) (groupTexts m (index + 1) rest)
    cases token <;> first | exact ih index fields | exact hfield

/-- The groups of later tokens do not hide the earlier ones. -/
theorem lookup_passingAll {number index : Nat} {layout : Layout} {pieces : List (List Char)}
    {r : Reached} (h : number < index) :
    (passingAll index layout pieces r).groups.lookup number = r.groups.lookup number := by
  induction layout generalizing index pieces r with
  | nil => rfl
  | cons token rest ih =>
    cases pieces with
    | nil => rfl
    | cons piece pieces =>
      have hnext : number < nextIndex index token := by
        cases token <;> first | exact h | exact Nat.lt_succ_of_lt h
      -- the group of the token, if it has one, has another number
      have hne : (number == index) = false := beq_eq_false_iff_ne.2 h.ne
      rw [passingAll, ih hnext]
      cases token <;> first | rfl | simp only [passing, Reached.capture, List.lookup_cons, hne]

/-- The groups of a match hold the pieces of the fields. -/
theorem groupTexts_eq {m : Match} {index : Nat} {layout : Layout} {pieces : List (List Char)}
    {r : Reached} (hindex : 0 < index)
    (hm : m.groups = (passingAll index layout pieces r).groups)
    (hlength : layout.length = pieces.length) (hpre : pieces.flatten <+: r.cursor.rest) :
    groupTexts m index layout = some (fieldPieces layout pieces) := by
  induction layout generalizing index pieces r with
  | nil => rfl
  | cons token rest ih =>
    obtain ⟨piece, pieces, rfl⟩ := List.exists_cons_of_length_eq_add_one hlength.symm
    obtain ⟨hfirst, hlater⟩ := append_prefix_iff.1 hpre
    have hrest : groupTexts m (nextIndex index token) rest = some (fieldPieces rest pieces) := by
      refine ih ?_ hm (Nat.succ.inj hlength) ?_
      · cases token <;> first | exact hindex | exact Nat.succ_pos _
      · rwa [cursor_passing, Cursor.rest_after]
    -- the group of this token is found, as later ones have greater numbers
    have hfield (hnext : nextIndex index token = index + 1)
        (hpassing : passing index token piece r = r.capture index piece) :
        ((m.group? index).bind fun text => (groupTexts m (index + 1) rest).bind
          fun captured => some ((token, text) :: captured)) =
            some ((token, piece) :: fieldPieces rest pieces) := by
      have hgroup : m.group? index = some piece := by
        rw [Match.group?, if_neg hindex.ne', hm, passingAll, hnext,
          lookup_passingAll (Nat.lt_succ_self index), hpassing]
        simp [Reached.capture, Span.text, Cursor.textTo_after hfirst]
      rw [hgroup, ← hnext, hrest]
      rfl
    cases token <;> first | exact hrest | exact hfield rfl rfl

/-- The groups of a match hold the pieces. -/
theorem takeFields_eq {m : Match} {index : Nat} {layout : Layout} {pieces : List (List Char)}
    {r : Reached} (hindex : 0 < index)
    (hm : m.groups = (passingAll index layout pieces r).groups)
    (hlength : layout.length = pieces.length) (hpre : pieces.flatten <+: r.cursor.rest)
    (fields : Fields) : takeFields m index layout fields = takeTexts layout pieces fields := by
  rw [takeFields_eq_bind, groupTexts_eq hindex hm hlength hpre, Option.bind_some,
    takeTexts_eq_takeAll]

/-- A text that can be split is read by one of its splits. -/
theorem exists_read?_eq {layout : Layout} {text before after : List Char}
    {pieces : List (List Char)} (hfits : layout.pattern.fits)
    (h : layout.IsSplit text before pieces after) :
    ∃ before pieces after, layout.IsSplit text before pieces after ∧
      layout.read? text = (takeTexts layout pieces {}).bind Fields.instant? := by
  obtain ⟨r, hleads, hfind⟩ := exists_find?_eq_some (isOrdered_pattern layout)
    (leads_pattern_iff.2 ⟨before, pieces, after, h, rfl⟩)
  obtain ⟨before, pieces, after, hsplit, rfl⟩ := leads_pattern_iff.1 hleads
  refine ⟨before, pieces, after, hsplit, ?_⟩
  let start : Reached := ({ cursor := .start text } : Reached).after before
  have hpre : pieces.flatten <+: start.cursor.rest := by
    refine ⟨after, ?_⟩
    rw [Reached.cursor_after, Cursor.rest_after, Cursor.start, hsplit.text_eq, List.drop_left]
  obtain ⟨m, hm, hfind⟩ : ∃ m : Match, m.groups = (passingAll 1 layout pieces start).groups ∧
      layout.pattern.find? text = some m := ⟨_, rfl, hfind⟩
  have htake := takeFields_eq Nat.one_pos hm hsplit.pieces_accepted.length_eq hpre {}
  rw [read?, hfits, hfind, ← htake]
  rfl

end Calendar.Layout
end Gleaner
