import Gleaner.Proofs.Calendar.Rendering
import Gleaner.Proofs.Pattern.Captures

/-!
# What the tokens of a layout capture

A layout reads a date by what its tokens capture: the text of each field is taken in after those of
the fields before it, and the date is made of the fields in the end. A field captures a text that
its token accepts, so what a layout can read is bounded by the patterns of its tokens, and what it
makes of it by the texts that are taken in last.

## Main definitions

* `Layout.captured?`: the fields of a layout, each with the text that it captures.
* `Layout.fields?`: what these texts say.

## Main results

* `read?_eq_bind_fields?`: a date is read by what the tokens capture.
* `map_fst_of_captured?`: every field of the layout captures a text.
* `accepts_of_mem_captured`: the captured texts are texts of their tokens.
* `exists_take_of_takeAll`: the last token of a kind decides on a part of the fields.
-/

namespace Gleaner.Calendar.Layout

open Pattern (anchored exists_leads_of_find? group)

/-- The fields of a layout, each with the text that it captures. -/
def captured? (layout : Layout) (text : List Char) : Option (List (Token × List Char)) :=
  (layout.pattern.find? text).bind fun m => groupTexts m 1 layout

/-- What the texts say that the fields of a layout capture. -/
def fields? (layout : Layout) (text : List Char) : Option Fields :=
  (layout.captured? text).bind fun captured => ({} : Fields).takeAll captured

variable {layout : Layout} {text : List Char} {captured : List (Token × List Char)}

/-- A date is read by what the tokens capture, unless the pattern is too large. -/
theorem read?_eq_bind_fields? (layout : Layout) (text : List Char) :
    layout.read? text =
      if layout.pattern.fits then (layout.fields? text).bind Fields.instant? else none := by
  have hfields : layout.fields? text =
      (layout.pattern.find? text).bind fun m => takeFields m 1 layout {} := by
    simp only [fields?, captured?, Option.bind_assoc, takeFields_eq_bind]
  rw [hfields, Option.bind_assoc, read?]
  cases layout.pattern.fits <;> rfl

/-- Where a date is read, texts have been captured that say it. -/
theorem exists_fields_of_read? {t : Instant} (h : layout.read? text = some t) :
    ∃ fields, layout.fields? text = some fields ∧ fields.instant? = some t := by
  rw [read?_eq_bind_fields?, Option.ite_none_right_eq_some] at h
  exact Option.bind_eq_some_iff.1 h.2

/-- What is said has been captured and taken in. -/
theorem exists_captured_of_fields? {fields : Fields} (h : layout.fields? text = some fields) :
    ∃ captured, layout.captured? text = some captured ∧
      ({} : Fields).takeAll captured = some fields :=
  Option.bind_eq_some_iff.1 h

/-! ### Captured texts -/

/-- The pattern of a layout is anchored at both ends of the text. -/
theorem pattern_eq_anchored (layout : Layout) :
    layout.pattern = anchored (.many .blank :: (patterns 1 layout ++ [.many .blank])) := by
  rw [pattern, anchored, List.cons_append, List.cons_append, List.cons_append, List.append_assoc]
  rfl

/-- The captured texts are the pieces of a split of the text. -/
theorem exists_split_of_captured? (h : layout.captured? text = some captured) :
    ∃ before pieces after, layout.IsSplit text before pieces after ∧
      captured = fieldPieces layout pieces := by
  obtain ⟨m, hfind, hgroups⟩ := Option.bind_eq_some_iff.1 h
  have hordered : ∀ p ∈ Pattern.many .blank :: (patterns 1 layout ++ [.many .blank]),
      p.isOrdered := by
    intro p hp
    rw [List.mem_cons, List.mem_append, List.mem_singleton] at hp
    rcases hp with rfl | hp | rfl
    · rfl
    · exact isOrdered_of_mem_patterns hp
    · rfl
  -- the match that is found leads from the beginning to the end, so it is a split of the text
  rw [pattern_eq_anchored] at hfind
  obtain ⟨r, hleads, hm⟩ := exists_leads_of_find? hordered hfind
  rw [← pattern_eq_anchored] at hleads
  obtain ⟨before, pieces, after, hsplit, rfl⟩ := leads_pattern_iff.1 hleads
  have hpre : pieces.flatten <+:
      (({ cursor := .start text } : Pattern.Reached).after before).cursor.rest := by
    refine ⟨after, ?_⟩
    rw [Pattern.Reached.cursor_after, Cursor.rest_after, Cursor.start, hsplit.text_eq,
      List.drop_left]
  -- and its groups are the pieces of the fields
  rw [groupTexts_eq Nat.one_pos hm hsplit.pieces_accepted.length_eq hpre] at hgroups
  exact ⟨before, pieces, after, hsplit, (Option.some.inj hgroups).symm⟩

/-- The pieces of fields are those of all fields of the layout, in their order. -/
theorem map_fst_fieldPieces {pieces : List (List Char)} (h : layout.length = pieces.length) :
    (fieldPieces layout pieces).map Prod.fst = layout.filter Token.isField := by
  induction layout generalizing pieces with
  | nil => rfl
  | cons token rest ih =>
    obtain ⟨piece, pieces, rfl⟩ := List.exists_cons_of_length_eq_add_one h.symm
    have hrest := ih (Nat.succ.inj h)
    cases token with
    | literal text => exact hrest
    | _ => exact congrArg (List.cons _) hrest

/-- A piece of a field is accepted by the token of the field. -/
theorem accepts_of_mem_fieldPieces {pieces : List (List Char)} (h : layout.AcceptsAll pieces)
    {token : Token} {piece : List Char} (hmem : (token, piece) ∈ fieldPieces layout pieces) :
    (fieldPattern token).Accepts piece := by
  induction h with
  | nil => cases hmem
  | @cons first firstPiece rest pieces hfirst _ ih =>
    cases first with
    | literal text => exact ih hmem
    | _ =>
      rcases List.mem_cons.1 hmem with heq | hmem
      · obtain ⟨rfl, rfl⟩ := Prod.mk.inj heq
        exact hfirst
      · exact ih hmem

/-- Every field of a layout captures a text. -/
theorem map_fst_of_captured? (h : layout.captured? text = some captured) :
    captured.map Prod.fst = layout.filter Token.isField := by
  obtain ⟨before, pieces, after, hsplit, rfl⟩ := exists_split_of_captured? h
  exact map_fst_fieldPieces hsplit.pieces_accepted.length_eq

/-- What captures a text is a token of the layout. -/
theorem mem_layout_of_mem_captured (h : layout.captured? text = some captured)
    {c : Token × List Char} (hmem : c ∈ captured) : c.1 ∈ layout := by
  have hfield : c.1 ∈ layout.filter Token.isField :=
    map_fst_of_captured? h ▸ List.mem_map_of_mem hmem
  exact List.mem_of_mem_filter hfield

/-- A captured text is one of its token. -/
theorem accepts_of_mem_captured (h : layout.captured? text = some captured) {token : Token}
    {word : List Char} (hmem : (token, word) ∈ captured) : (fieldPattern token).Accepts word := by
  obtain ⟨before, pieces, after, hsplit, rfl⟩ := exists_split_of_captured? h
  exact accepts_of_mem_fieldPieces hsplit.pieces_accepted hmem

/-- The tokens of a kind capture as many texts as the layout has of them. -/
theorem countP_captured {kind : Token → Bool} (hkind : ∀ token, kind token → token.isField)
    (h : layout.captured? text = some captured) :
    captured.countP (fun c => kind c.1) = layout.countP kind := by
  calc captured.countP (fun c => kind c.1) = (captured.map Prod.fst).countP kind := by
        rw [List.countP_map]
        rfl
    _ = layout.countP kind := by
        rw [map_fst_of_captured? h, List.countP_filter]
        refine List.countP_congr fun token _ => ?_
        rw [Bool.and_eq_true]
        exact ⟨And.left, fun htoken => ⟨htoken, hkind token htoken⟩⟩

/-! ### Texts that are taken in -/

/-- Two lists of texts are taken in one after the other. -/
theorem takeAll_append_eq_some_iff {before after : List (Token × List Char)}
    {fields fields' : Fields} :
    fields.takeAll (before ++ after) = some fields' ↔
      ∃ between, fields.takeAll before = some between ∧ between.takeAll after = some fields' := by
  rw [Fields.takeAll, List.foldlM_append]
  exact Option.bind_eq_some_iff

section Parts

variable {α : Type} {read : Fields → α} {kind : Token → Bool}

/-- A part of the fields that no token of a list can change is left alone. -/
theorem read_takeAll_of_forall
    (hkeep : ∀ {token : Token} {text : List Char} {fields fields' : Fields}, kind token = false →
      fields.take token text = some fields' → read fields' = read fields)
    {fields fields' : Fields} (hkind : ∀ c ∈ captured, kind c.1 = false)
    (h : fields.takeAll captured = some fields') : read fields' = read fields := by
  -- by induction on the texts, from whatever fields they are taken in
  induction captured generalizing fields with
  | nil =>
    obtain rfl : fields = fields' := Option.some.inj h
    rfl
  | cons c rest ih =>
    obtain ⟨between, hfirst, hrest⟩ := Option.bind_eq_some_iff.1 h
    rw [List.forall_mem_cons] at hkind
    exact (ih hkind.2 hrest).trans (hkeep hkind.1 hfirst)

/-- The last token that can change a part of the fields decides on it. -/
theorem exists_take_of_takeAll
    (hkeep : ∀ {token : Token} {text : List Char} {fields fields' : Fields}, kind token = false →
      fields.take token text = some fields' → read fields' = read fields)
    {before after : List (Token × List Char)} {token : Token} {text : List Char}
    {fields fields' : Fields} (hafter : ∀ c ∈ after, kind c.1 = false)
    (h : fields.takeAll (before ++ (token, text) :: after) = some fields') :
    ∃ earlier later : Fields, earlier.take token text = some later ∧ read fields' = read later := by
  obtain ⟨earlier, -, h⟩ := takeAll_append_eq_some_iff.1 h
  obtain ⟨later, htake, h⟩ := Option.bind_eq_some_iff.1 h
  exact ⟨earlier, later, htake, read_takeAll_of_forall hkeep hafter h⟩

end Parts

/-- Every text that is taken in can be taken in by its token. -/
theorem exists_take_of_mem {fields fields' : Fields} (h : fields.takeAll captured = some fields')
    {token : Token} {word : List Char} (hmem : (token, word) ∈ captured) :
    ∃ earlier later : Fields, earlier.take token word = some later := by
  obtain ⟨before, after, rfl⟩ := List.append_of_mem hmem
  obtain ⟨earlier, -, h⟩ := takeAll_append_eq_some_iff.1 h
  obtain ⟨later, htake, -⟩ := Option.bind_eq_some_iff.1 h
  exact ⟨earlier, later, htake⟩

end Gleaner.Calendar.Layout
