import Gleaner.Html.Document
import Gleaner.Proofs.Extract.Shipped
import Gleaner.Transform.Builtin
import Mathlib

/-!
# Types of results

What a schema extracts can be read off the schema. Single values have the type of their kind,
whatever transforms run before; scopes and list selectors put them into arrays; and the entries of
an object come from its fields.

## Main definitions

* `ValueKind.Admits`: the single values of a kind.
* `Scoped`: what a scope makes of the results at single nodes.
* `Schema.Conforms`: the results of a schema.
* `Schema.KeepsShape`: no transforms of arrays or objects anywhere in a schema.

## Main results

* `ValueKind.admits_of_coerce`: coercion gives single values of the kind.
* `exists_of_mem_assemble`: every entry of an object comes from one of its fields.
* `conforms_of_resolve`: what a schema is resolved to conforms to it.
-/

namespace Gleaner

variable {Node : Type}

namespace Value

/-- A text or null. -/
inductive IsText : Value → Prop
  | null : IsText .null
  | string (s : String) : IsText (.string s)

/-- A number or null. -/
inductive IsNumber : Value → Prop
  | null : IsNumber .null
  | number (x : Double) : IsNumber (.number x)

/-- A boolean or null. -/
inductive IsBool : Value → Prop
  | null : IsBool .null
  | bool (b : Bool) : IsBool (.bool b)

/-- A date or null. -/
inductive IsDate : Value → Prop
  | null : IsDate .null
  | date (t : Calendar.Instant) : IsDate (.date t)

end Value

/-- The numbers that options ask for: without a format, and by `number`, numbers; by any other
format texts, but for a default. -/
def NumberOptions.Admits (o : NumberOptions) (v : Value) : Prop :=
  match o.format with
  | none => v.IsNumber
  | some format =>
    if format = "number" then v.IsNumber else v.IsText ∨ ∃ x, o.fallback = some x ∧ v = .number x

/-- The dates that options ask for: texts, but for the formats of dates and of timestamps. -/
def DateOptions.Admits (o : DateOptions) (v : Value) : Prop :=
  match o.format with
  | none => v.IsText
  | some format =>
    if format = "date" ∨ format = "dayjs" then v.IsDate
    else if format = "timestamp" then v.IsNumber
    else v.IsText

/-- The single values of a kind. -/
def ValueKind.Admits : ValueKind → Value → Prop
  | implicit _, v => v.IsText
  | text _, v => v.IsText
  | number o, v => o.Admits v
  | boolean _, v => v.IsBool
  | date o, v => o.Admits v
  | unclaimed, v => v = .null

/-- What a choice of matches makes of single values: a list selector gives an array of them, which
may hold nulls. -/
def QueryChoice.Chosen (choice : QueryChoice) (P : Value → Prop) (v : Value) : Prop :=
  match choice with
  | one _ => P v
  | all _ => ∃ items, v = .array items ∧ ∀ item ∈ items, P item

/-- What a scope makes of the results at single nodes: the first match of a query may be missing,
and every match of one gives an array without nulls. -/
def Scoped (scope : Option Scope) (P : Value → Prop) (v : Value) : Prop :=
  match scope with
  | none => P v
  | some (.first _) => v = .null ∨ P v
  | some (.all _) => ∃ items, v = .array items ∧ ∀ item ∈ items, item.isNull = false ∧ P item

namespace Schema

mutual

/-- A value is a possible result of a schema. -/
def Conforms : Schema → Value → Prop
  | value choice kind options, v =>
    if kind = .unclaimed then v = .null else Scoped options.scope (choice.Chosen kind.Admits) v
  | object fields options _ enabled, v =>
    if enabled then
      Scoped options.scope
        (fun w => ∃ entries, w = .object entries ∧ ∀ entry ∈ entries, HoldsEntry fields entry) v
    else v = .null

/-- An entry of an object comes from one of its fields: it is the result of the field under its
key, unless that is an object and the field flat, which then gives the entries of the object. -/
def HoldsEntry : List (String × Schema) → String × Value → Prop
  | [], _ => False
  | (key, field) :: rest, entry =>
    entry.1 = key ∧ field.Conforms entry.2 ∧
        (field.options.flat = true → entry.2.fields? = none) ∨
      (field.options.flat = true ∧ ∃ inner, field.Conforms (.object inner) ∧ entry ∈ inner) ∨
      HoldsEntry rest entry

end

/-- No transforms of arrays or of objects stand anywhere in a schema. -/
inductive KeepsShape : Schema → Prop
  | value {choice : QueryChoice} {kind : ValueKind} {options : SchemaOptions}
      (arr : options.arrTransforms = []) : KeepsShape (.value choice kind options)
  | object {fields : List (String × Schema)} {options : SchemaOptions} {enabled : Bool}
      (arr : options.arrTransforms = [])
      (fields_keep : ∀ entry ∈ fields, KeepsShape entry.2) :
      KeepsShape (.object fields options [] enabled)

/-- An entry of an object comes from one of its fields. -/
theorem holdsEntry_iff {fields : List (String × Schema)} {entry : String × Value} :
    HoldsEntry fields entry ↔ ∃ field ∈ fields,
      entry.1 = field.1 ∧ field.2.Conforms entry.2 ∧
          (field.2.options.flat = true → entry.2.fields? = none) ∨
        field.2.options.flat = true ∧
          ∃ inner, field.2.Conforms (.object inner) ∧ entry ∈ inner := by
  induction fields with
  | nil => simp [HoldsEntry]
  | cons field rest ih => simp [HoldsEntry, ih, or_assoc]

end Schema

section Coercion

/-- The text of an option is a text or null. -/
theorem Value.isText_ofText? (s : Option String) : (Value.ofText? s).IsText := by
  cases s with
  | none => exact .null
  | some s => exact .string s

/-- A text cut down to a match is a text or null. -/
theorem Coerce.isText_of_keepMatch {o : TextOptions} {pattern s : String} {v : Value}
    (h : Coerce.keepMatch o pattern s = .ok v) : v.IsText := by
  rw [keepMatch] at h
  split at h
  · cases h
  · split at h
    · cases h
      exact .string _
    · cases h
      exact Value.isText_ofText? _

/-- What stands for a text is a text or null. -/
theorem Coerce.isText_of_text {o : TextOptions} {raw v : Value} (h : Coerce.text o raw = .ok v) :
    v.IsText := by
  rw [text] at h
  split at h
  · cases h
    exact Value.isText_ofText? _
  · split at h
    · cases h
      exact .string _
    · split at h
      · cases h
        exact .string _
      · exact isText_of_keepMatch h

/-- A missing number is null. -/
theorem NumberOptions.admits_null (o : NumberOptions) : o.Admits .null := by
  rw [Admits]
  split
  · exact .null
  · split
    · exact .null
    · exact .inl .null

/-- The default of a number is a number by any format. -/
theorem NumberOptions.admits_fallback {o : NumberOptions} {x : Double}
    (h : o.fallback = some x) : o.Admits (.number x) := by
  rw [Admits]
  split
  · exact .number x
  · split
    · exact .number x
    · exact .inr ⟨x, h, rfl⟩

/-- What stands for a number is one that the options ask for. -/
theorem Coerce.admits_number (o : NumberOptions) (raw : Value) :
    o.Admits (Coerce.number o raw) := by
  rw [number]
  split
  · split
    next hfallback => exact NumberOptions.admits_fallback hfallback
    next => exact o.admits_null
  · -- a number that was read is written by the format, if there is one
    dsimp only
    split
    next hformat =>
      rw [NumberOptions.Admits, hformat]
      exact .number _
    next format hformat =>
      simp only [NumberOptions.Admits, hformat]
      by_cases hnumber : format = "number"
      · rw [if_pos hnumber, if_pos hnumber]
        exact .number _
      · rw [if_neg hnumber, if_neg hnumber]
        exact .inl (.string _)

/-- The default of a boolean is a boolean or null. -/
theorem Coerce.isBool_booleanDefault (o : BooleanOptions) : (Coerce.booleanDefault o).IsBool := by
  rw [booleanDefault]
  split
  · exact .bool _
  · exact .null

/-- What a text stands for is a boolean or null. -/
theorem Coerce.isBool_booleanOfText (o : BooleanOptions) (s : String) :
    (Coerce.booleanOfText o s).IsBool := by
  rw [booleanOfText]
  split
  · exact .bool _
  · exact .bool _
  · exact .bool _
  · split_ifs
    · exact .bool true
    · exact .bool false
    · exact isBool_booleanDefault o

/-- What stands for a boolean is a boolean or null. -/
theorem Coerce.isBool_boolean (o : BooleanOptions) (raw : Value) :
    (Coerce.boolean o raw).IsBool := by
  cases raw with
  | bool b => exact .bool b
  | number x => exact .bool _
  | string s => exact isBool_booleanOfText o s
  | null | date t | array items | object fields => exact isBool_booleanDefault o

/-- A written date is one that the options ask for. -/
theorem Coerce.admits_writeDate (o : DateOptions) (t : Calendar.Instant) :
    o.Admits (Coerce.writeDate o.format t) := by
  rw [DateOptions.Admits]
  cases o.format with
  | none => exact .string _
  | some format =>
    simp only [writeDate]
    by_cases hiso : format = "iso"
    · subst hiso
      exact .string _
    · by_cases hdate : format = "date" ∨ format = "dayjs"
      · simp only [hiso, hdate, ↓reduceIte, Bool.or_eq_true, decide_eq_true_eq]
        exact .date t
      · simp only [hiso, hdate, ↓reduceIte, Bool.or_eq_true, decide_eq_true_eq]
        by_cases htimestamp : format = "timestamp"
        · rw [if_pos htimestamp, if_pos htimestamp]
          exact .number _
        · rw [if_neg htimestamp, if_neg htimestamp]
          exact .string _

/-- A missing date is null. -/
theorem DateOptions.admits_null (o : DateOptions) : o.Admits .null := by
  rw [Admits]
  split
  · exact .null
  · split_ifs
    · exact .null
    · exact .null
    · exact .null

/-- What stands for a date is one that the options ask for. -/
theorem Coerce.admits_date (o : DateOptions) (raw : Value) : o.Admits (Coerce.date o raw) := by
  rw [date]
  split
  · exact admits_writeDate o _
  · exact o.admits_null

/-- A value that is brought to a kind is a single value of it. -/
theorem ValueKind.admits_of_coerce {kind : ValueKind} {raw v : Value} (hkind : kind ≠ .unclaimed)
    (h : kind.coerce raw = .ok v) : kind.Admits v := by
  cases kind with
  | implicit o => exact Coerce.isText_of_text h
  | text o => exact Coerce.isText_of_text h
  | number o =>
    cases h
    exact Coerce.admits_number o raw
  | boolean o =>
    cases h
    exact Coerce.isBool_boolean o raw
  | date o =>
    cases h
    exact Coerce.admits_date o raw
  | unclaimed => exact absurd rfl hkind

end Coercion

section Shape

variable {x : Extractor Node} {options : SchemaOptions}

/-- A pipeline of no transforms changes nothing. -/
theorem runPipeline_build_nil (registry : Registry) (v : Value) :
    runPipeline (.build [] registry) v = .ok v := rfl

/-- The result for one match is a single value of the kind, whatever transforms run. -/
theorem admits_of_finish {selector : Selector} {kind : ValueKind} {found : Option Node} {v : Value}
    (hkind : kind ≠ .unclaimed) (h : finish x selector kind options found = .ok v) :
    kind.Admits v := by
  simp only [finish] at h
  split at h
  · exact ValueKind.admits_of_coerce hkind h
  · cases h

/-- The result of a value at one node is what its choice of matches makes of single values. -/
theorem chosen_of_resolveValue {choice : QueryChoice} {kind : ValueKind} {node : Node} {v : Value}
    (hkind : kind ≠ .unclaimed) (harr : options.arrTransforms = [])
    (h : resolveValue x choice kind options node = .ok v) : choice.Chosen kind.Admits v := by
  rw [resolveValue] at h
  split at h
  · cases h
  dsimp only at h
  split at h
  · cases h
  cases choice with
  | one raw =>
    simp only [QueryChoice.isAll, Bool.false_eq_true, ↓reduceIte] at h
    split at h
    · cases h
    · exact admits_of_finish hkind h
  | all selectors =>
    -- without transforms of arrays the list of single values is the result
    simp only [QueryChoice.isAll, ↓reduceIte, harr, runPipeline_build_nil] at h
    split at h
    · cases h
    · split at h
      · cases h
      next items hitems =>
        cases h
        refine ⟨items, rfl, fun item hitem => ?_⟩
        obtain ⟨found, -, hfound⟩ := exists_of_mem_collect hitems hitem
        exact admits_of_finish hkind hfound

/-- The result at the nodes that a scope leads to is what it makes of the results there. -/
theorem scoped_of_run {m : DocumentModel Node} {node : Node} {schema : Schema}
    {p : Placement Node} {f : Node → Except ResolveError Value} {P : Value → Prop} {v : Value}
    (hp : placement m node schema = .ok p) (hP : ∀ node v, f node = .ok v → P v)
    (h : p.run f = .ok v) : Scoped schema.options.scope P v := by
  have heach (nodes : List Node) (h : resolveEach f nodes = .ok v) :
      ∃ items, v = .array items ∧ ∀ item ∈ items, item.isNull = false ∧ P item := by
    rw [resolveEach] at h
    split at h
    next results hresults =>
      cases h
      refine ⟨_, rfl, fun item hitem => ?_⟩
      obtain ⟨hmem, hnull⟩ := List.mem_filter.1 hitem
      obtain ⟨target, -, htarget⟩ := exists_of_mem_collect hresults hmem
      exact ⟨by simpa using hnull, hP target item htarget⟩
    next => cases h
  rw [placement] at hp
  split at hp
  next hscope =>
    cases hp
    rw [hscope]
    exact hP node v h
  next query hscope =>
    rw [hscope]
    split at hp
    · -- an empty query is no scope: the result is one at the node itself
      cases hp
      exact .inr (hP node v h)
    · split at hp
      · cases hp
      · cases hp
        cases h
        exact .inl rfl
      · cases hp
        exact .inr (hP _ v h)
  next queries hscope =>
    rw [hscope]
    -- the matches of the query of the scope, or the parents of those of the selector
    split at hp
    · split at hp
      · cases hp
        exact heach _ h
      · cases hp
    · split at hp
      · cases hp
        exact heach _ h
      · cases hp

end Shape

section Entries

variable {entry : String × Value}

/-- An entry of a list with one put into it is that, or was there. -/
theorem mem_putEntry {key : String} {v : Value} {entries : List (String × Value)}
    (h : entry ∈ putEntry key v entries) : entry = (key, v) ∨ entry ∈ entries := by
  induction entries with
  | nil => exact .inl (List.mem_singleton.1 h)
  | cons first rest ih =>
    rw [putEntry] at h
    split at h
    · rcases List.mem_cons.1 h with rfl | h
      · exact .inl rfl
      · exact .inr (List.mem_cons_of_mem _ h)
    · rcases List.mem_cons.1 h with rfl | h
      · exact .inr List.mem_cons_self
      · exact (ih h).imp_right (List.mem_cons_of_mem _)

/-- Merged entries come from one of the two lists. -/
theorem mem_mergeEntries {entries more : List (String × Value)}
    (h : entry ∈ mergeEntries entries more) : entry ∈ entries ∨ entry ∈ more := by
  induction more generalizing entries with
  | nil => exact .inl h
  | cons first rest ih =>
    rcases ih h with h | h
    · rcases mem_putEntry h with rfl | h
      · exact .inr List.mem_cons_self
      · exact .inl h
    · exact .inr (List.mem_cons_of_mem _ h)

/-- A field gives an entry to its object: its result under its key, or, when it is flat and its
result an object, an entry of that. -/
def FieldResult.Gives (r : FieldResult) (entry : String × Value) : Prop :=
  match r.flat, r.value with
  | true, .object inner => entry ∈ inner
  | _, v => entry = (r.key, v)

/-- Entries that each field in turn either gives or leaves alone are given by fields. -/
theorem exists_gives_of_concat {collected : List FieldResult → List (String × Value)}
    (hnil : collected [] = [])
    (hconcat : ∀ results r, entry ∈ collected (results ++ [r]) →
      entry ∈ collected results ∨ r.Gives entry)
    {results : List FieldResult} (h : entry ∈ collected results) :
    ∃ r ∈ results, r.Gives entry := by
  induction results using List.reverseRecOn with
  | nil => simp [hnil] at h
  | append_singleton results r ih =>
    rcases hconcat results r h with h | h
    · obtain ⟨r', hr', hgives⟩ := ih h
      exact ⟨r', List.mem_append_left _ hr', hgives⟩
    · exact ⟨r, by simp, h⟩

/-- One more field adds entries to those of flat objects only when it gives them. -/
theorem mem_flatEntries_concat (results : List FieldResult) (r : FieldResult)
    (h : entry ∈ flatEntries (results ++ [r])) : entry ∈ flatEntries results ∨ r.Gives entry := by
  rw [flatEntries, List.foldl_append, List.foldl_cons, List.foldl_nil] at h
  split at h
  next inner hflat hvalue =>
    refine (mem_mergeEntries h).imp_right fun hinner => ?_
    simpa only [FieldResult.Gives, hflat, hvalue] using hinner
  next => exact .inl h

/-- One more field adds an entry to the others only when it gives it. -/
theorem mem_ownEntries_concat (results : List FieldResult) (r : FieldResult)
    (h : entry ∈ ownEntries (results ++ [r])) : entry ∈ ownEntries results ∨ r.Gives entry := by
  rw [ownEntries, List.foldl_append, List.foldl_cons, List.foldl_nil] at h
  split at h
  next => exact .inl h
  next hother =>
    rcases mem_putEntry h with rfl | h
    · refine .inr ?_
      -- an object of a flat field was left alone, so the field gives its result
      rw [FieldResult.Gives]
      split
      next inner hflat hvalue => exact (hother inner hflat hvalue).elim
      next => rfl
    · exact .inl h

/-- Every entry of an object is given by one of its fields. -/
theorem exists_of_mem_assemble {results : List FieldResult} (h : entry ∈ assemble results) :
    ∃ r ∈ results, r.Gives entry := by
  rcases mem_mergeEntries h with h | h
  · exact exists_gives_of_concat rfl mem_ownEntries_concat h
  · exact exists_gives_of_concat rfl mem_flatEntries_concat h

end Entries

/-- What the result of a field gives to an object comes from the field. -/
theorem FieldResult.Gives.holdsEntry {r : FieldResult} {entry : String × Value}
    (h : r.Gives entry) {fields : List (String × Schema)} {field : String × Schema}
    (hfield : field ∈ fields) (hkey : r.key = field.1) (hflat : r.flat = field.2.options.flat)
    (hconforms : field.2.Conforms r.value) : Schema.HoldsEntry fields entry := by
  refine Schema.holdsEntry_iff.2 ⟨field, hfield, ?_⟩
  rw [Gives] at h
  split at h
  next inner htrue hvalue =>
    rw [hvalue] at hconforms
    exact .inr ⟨hflat ▸ htrue, inner, hconforms, h⟩
  next hother =>
    subst h
    refine .inl ⟨hkey, hconforms, fun htrue => ?_⟩
    cases hvalue : r.value with
    | object inner => exact (hother inner (hflat.trans htrue) hvalue).elim
    | _ => rfl

section Resolve

variable {m : DocumentModel Node} {registries : Registries}

/-- The result of an object at one node holds the entries of its fields, when the results of these
conform to them. -/
theorem exists_entries_of_resolveObject {x : Extractor Node} {options : SchemaOptions}
    {path : String} {fields : List (String × Schema)} {node : Node} {v : Value}
    (hfields : ∀ entry ∈ fields, ∀ path v,
      resolveIn x options path (some node) entry.2 = .ok v → entry.2.Conforms v)
    (h : resolveObject x options [] path fields node = .ok v) :
    ∃ entries, v = .object entries ∧ ∀ entry ∈ entries, Schema.HoldsEntry fields entry := by
  rw [resolveObject] at h
  split at h
  next => cases h
  next results hresults =>
    rw [runPipeline_build_nil] at h
    cases h
    refine ⟨_, rfl, fun entry hentry => ?_⟩
    obtain ⟨r, hr, hgives⟩ := exists_of_mem_assemble hentry
    obtain ⟨field, hfield, hkey, hflat, hvalue⟩ :=
      exists_of_forall₂_of_mem (resolveFields_eq_ok_iff.1 hresults) hr
    exact hgives.holdsEntry hfield hkey hflat (hfields field hfield _ _ hvalue)

/-- What a schema that inherits no transforms of arrays is resolved to conforms to it. -/
theorem conforms_of_resolveIn {schema : Schema} (hschema : schema.KeepsShape)
    {inherited : SchemaOptions} (hinherited : inherited.arrTransforms = []) (path : String)
    (node : Node) {v : Value}
    (h : resolveIn (.full m registries) inherited path (some node) schema = .ok v) :
    schema.Conforms v := by
  -- what fields inherit has no transforms of arrays again, so the hypothesis carries down
  induction hschema generalizing inherited path node v with
  | @value choice kind options harr =>
    rw [resolveIn_full_value_some] at h
    rw [Schema.Conforms]
    split at h
    next hkind =>
      rw [if_pos hkind]
      cases h
      rfl
    next hkind =>
      rw [if_neg hkind]
      have harr' : (options.inherit inherited).arrTransforms = [] := by
        simp [SchemaOptions.inherit, harr, hinherited]
      split at h
      · cases h
      · split at h
        next p hp =>
          exact scoped_of_run hp (fun _ _ => chosen_of_resolveValue hkind harr') h
        next => cases h
  | @object fields options enabled harr _ ih =>
    rw [resolveIn_full_object_some] at h
    rw [Schema.Conforms]
    cases enabled with
    | false =>
      cases h
      rfl
    | true =>
      simp only [↓reduceIte] at h ⊢
      have harr' : (options.inherit inherited).arrTransforms = [] := by
        simp [SchemaOptions.inherit, harr, hinherited]
      split at h
      next p hp =>
        refine scoped_of_run hp (fun target w hw => ?_) h
        exact exists_entries_of_resolveObject
          (fun entry hentry path v => ih entry hentry harr' path target) hw
      next => cases h

end Resolve

/-- The document of `<p>a</p>`. -/
def markedPage : Html.Node :=
  ⟨⟨#[⟨.document, none, [1]⟩, ⟨.element { name := "html" }, some 0, [2, 3]⟩,
    ⟨.element { name := "head" }, some 1, []⟩, ⟨.element { name := "body" }, some 1, [4]⟩,
    ⟨.element { name := "p" }, some 3, [5]⟩, ⟨.text "a", some 4, []⟩]⟩, 0⟩

/-- A boolean, and a list of texts that a transform replaces by booleans. -/
def markedSchema : Schema :=
  .object
    [("marked", .value (.one "p") (.boolean {}) {}),
      ("marks", .value (.all ["p"]) (.implicit {}) { transforms := [.inline fun _ => .bool true] })]
    { scope := some (.first "body") } [] true

/-- What the schema is resolved to on the page: the booleans are texts again. -/
def markedResult : Value := .object [("marked", .bool true), ("marks", .array [.string "true"])]

end Gleaner
