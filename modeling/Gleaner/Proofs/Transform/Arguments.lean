import Gleaner.Proofs.Json.Numeral
import Gleaner.Transform.Spec

/-!
# Written arguments

The arguments of a transform are written one after the other, with blanks between them. A text can
always be written in quotes, whatever it is; a bare argument is a number or a keyword if it spells
one. What has been written so is read back argument by argument.

The texts that write no arguments in this way are those that open a quote and do not close it.
Blanks at their end belong to the open argument, while after all other texts they mean nothing.

## Main definitions

* `WritesQuoted`: what may stand between two quotes for a text.
* `Spells`: the value of a bare argument.
* `WritesArgs`: the texts of a list of arguments.
* `EndsInQuotes`: the texts that leave a quote open.

## Main results

* `spells_iff`: a bare argument spells one value.
* `readArgs_of_writesArgs`: written arguments are read back.
* `writesArgs_or_endsInQuotes`: texts that leave no quote open write arguments.
* `ofText_written`: a written transform is read back with its name and its arguments.
* `readArgs_append_blanks_iff`: where blanks at the end mean something.
-/

namespace Gleaner.TransformSpec

open Json.Number (Writes Literal ofText? readLiteral readLiteral_eq_some_iff)

/-- The quotes between which an argument may stand. -/
def IsQuote (c : Char) : Prop := c = '"' ∨ c = '\''

instance (c : Char) : Decidable (IsQuote c) := inferInstanceAs (Decidable (_ ∨ _))

/-- What stands between two quotes for a text. Backslashes and quotes need a backslash in front of
them; other characters may have one. -/
inductive WritesQuoted (quote : Char) : List Char → List Char → Prop
  /-- There may be nothing between the quotes. -/
  | nil : WritesQuoted quote [] []
  /-- Most characters stand for themselves. -/
  | plain {c : Char} {text written : List Char} : c ≠ '\\' → c ≠ quote →
      WritesQuoted quote text written → WritesQuoted quote (c :: text) (c :: written)
  /-- All characters stand for themselves after a backslash. -/
  | escaped (c : Char) {text written : List Char} :
      WritesQuoted quote text written → WritesQuoted quote (c :: text) ('\\' :: c :: written)

/-- A bare argument has no blanks and does not begin with a quote. -/
structure IsBare (token : List Char) : Prop where
  /-- There is something in it. -/
  ne_nil : token ≠ []
  /-- There are no blanks in it. -/
  not_isBlank : ∀ c ∈ token, isBlank c = false
  /-- It does not begin with a quote. -/
  not_isQuote : ∀ c ∈ token.head?, ¬IsQuote c

/-- A bare argument, by tests of its characters. -/
theorem isBare_iff {token : List Char} :
    IsBare token ↔ (!token.isEmpty && token.all (!isBlank ·) &&
      token.head?.all fun c => !decide (IsQuote c)) = true := by
  have hhead : (∀ c ∈ token.head?, ¬IsQuote c) ↔
      (token.head?.all fun c => !decide (IsQuote c)) = true := by
    cases token.head? <;> simp
  rw [Bool.and_eq_true, Bool.and_eq_true, ← hhead]
  constructor
  · exact fun h => ⟨⟨by simpa using h.ne_nil, by simpa using h.not_isBlank⟩, h.not_isQuote⟩
  · exact fun ⟨⟨hne, hblank⟩, hquote⟩ =>
      ⟨by simpa using hne, by simpa using hblank, hquote⟩

instance (token : List Char) : Decidable (IsBare token) := decidable_of_iff _ isBare_iff.symm

/-- The words that a bare argument does not spell as texts. -/
def keywords : List (List Char) := ["true".toList, "false".toList, "null".toList]

/-- The value of a bare argument. -/
inductive Spells : List Char → Value → Prop
  /-- The truth values and the null value have their words. -/
  | true : Spells "true".toList (.bool Bool.true)
  /-- The other truth value. -/
  | false : Spells "false".toList (.bool Bool.false)
  /-- The null value. -/
  | null : Spells "null".toList .null
  /-- A number literal that is not too long is the double nearest to it. -/
  | nearest {token : List Char} {l : Literal} : Writes l token → l.RoundsOnce →
      Spells token (.number (l.decimal.toDouble l.negative))
  /-- Another literal is the double that it stands for, rounded step by step. -/
  | stepwise {token : List Char} {l : Literal} {n : Json.Number} : Writes l token →
      ¬l.RoundsOnce → l.toNumber? = some n → Spells token (.number n.toDouble)
  /-- Everything else is a text, literals beyond the range of doubles too. -/
  | text {token : List Char} : token ∉ keywords →
      (∀ l, Writes l token → l.toNumber? = none) → Spells token (.string (.ofList token))

/-- Arguments as they are written, one after the other. -/
inductive WritesArgs : List Char → List Value → Prop
  /-- After the last argument there are only blanks. -/
  | nil {blanks : List Char} : IsBlankText blanks → WritesArgs blanks []
  /-- A text in quotes. Anything may follow the closing quote. -/
  | quoted {blanks text written rest : List Char} {quote : Char} {values : List Value} :
      IsBlankText blanks → IsQuote quote → WritesQuoted quote text written →
      WritesArgs rest values →
      WritesArgs (blanks ++ quote :: (written ++ quote :: rest)) (.string (.ofList text) :: values)
  /-- A bare argument, which the end of the text or a blank follows. -/
  | bare {blanks token rest : List Char} {v : Value} {values : List Value} :
      IsBlankText blanks → IsBare token → Spells token v →
      (∀ c ∈ rest.head?, isBlank c) → WritesArgs rest values →
      WritesArgs (blanks ++ (token ++ rest)) (v :: values)

/-- A text whose last argument opens a quote and does not close it. -/
inductive EndsInQuotes : List Char → Prop
  /-- The quote is open to the end, where a single backslash may stand. -/
  | opened {blanks text written slash : List Char} {quote : Char} :
      IsBlankText blanks → IsQuote quote → WritesQuoted quote text written →
      slash = [] ∨ slash = ['\\'] → EndsInQuotes (blanks ++ quote :: (written ++ slash))
  /-- A quote is left open after another argument in quotes. -/
  | quoted {blanks text written rest : List Char} {quote : Char} :
      IsBlankText blanks → IsQuote quote → WritesQuoted quote text written →
      EndsInQuotes rest → EndsInQuotes (blanks ++ quote :: (written ++ quote :: rest))
  /-- A quote is left open after a bare argument. -/
  | bare {blanks token rest : List Char} :
      IsBlankText blanks → IsBare token → (∀ c ∈ rest.head?, isBlank c) →
      EndsInQuotes rest → EndsInQuotes (blanks ++ (token ++ rest))

/-! ### Bare arguments -/

section Bare

variable {token : List Char} {l : Literal}

/-- A literal is read as the number that it stands for. -/
theorem ofText?_of_writes (h : Writes l token) : ofText? token = l.toNumber? := by
  rw [ofText?, readLiteral_eq_some_iff.2 h]

/-- A literal is no keyword. -/
theorem not_mem_keywords_of_writes (h : Writes l token) : token ∉ keywords := by
  have hread := readLiteral_eq_some_iff.2 h
  intro hmem
  simp only [keywords, List.mem_cons, List.not_mem_nil, or_false] at hmem
  rcases hmem with rfl | rfl | rfl <;> cases hread

/-- What is no keyword is a number or a text. -/
theorem literal_of_not_mem_keywords (h : token ∉ keywords) :
    literal token = ((ofText? token).map fun n => Value.number n.toDouble).getD
      (.string (.ofList token)) := by
  simp only [keywords, List.mem_cons, List.not_mem_nil, or_false, not_or] at h
  rw [literal, if_neg h.1, if_neg h.2.1, if_neg h.2.2]
  cases ofText? token <;> rfl

/-- A literal that stands for a number is that number. -/
theorem literal_of_writes {n : Json.Number} (h : Writes l token) (hn : l.toNumber? = some n) :
    literal token = .number n.toDouble := by
  rw [literal_of_not_mem_keywords (not_mem_keywords_of_writes h), ofText?_of_writes h, hn]
  rfl

/-- A text that is read as a number is a literal. -/
theorem exists_writes_of_ofText? {n : Json.Number} (h : ofText? token = some n) :
    ∃ l, Writes l token ∧ l.toNumber? = some n := by
  unfold ofText? at h
  split at h
  next l hread => exact ⟨l, readLiteral_eq_some_iff.1 hread, h⟩
  next => cases h

/-- A bare argument spells the value that it is read as. -/
theorem spells_literal (token : List Char) : Spells token (literal token) := by
  by_cases hkeyword : token ∈ keywords
  · simp only [keywords, List.mem_cons, List.not_mem_nil, or_false] at hkeyword
    rcases hkeyword with rfl | rfl | rfl
    · exact .true
    · exact .false
    · exact .null
  cases hn : ofText? token with
  | none =>
    rw [literal_of_not_mem_keywords hkeyword, hn]
    refine .text hkeyword fun l hl => ?_
    rw [← ofText?_of_writes hl, hn]
  | some n =>
    obtain ⟨l, hl, hn⟩ := exists_writes_of_ofText? hn
    rw [literal_of_writes hl hn]
    by_cases honce : l.RoundsOnce
    · have hnearest := honce.toNumber?_eq
      rw [hn, Option.map_some, Option.some.injEq] at hnearest
      rw [hnearest]
      exact .nearest hl honce
    · exact .stepwise hl honce hn

/-- A bare argument spells just one value, the one that it is read as. -/
theorem spells_iff {v : Value} : Spells token v ↔ v = literal token := by
  constructor
  · intro h
    cases h with
    | true | false | null => rfl
    | nearest hl honce =>
      obtain ⟨n, hn, hnearest⟩ := Option.map_eq_some_iff.1 honce.toNumber?_eq
      rw [literal_of_writes hl hn, hnearest]
    | stepwise hl _ hn => exact (literal_of_writes hl hn).symm
    | text hkeyword hnone =>
      have hread : ofText? token = none := by
        cases hn : ofText? token with
        | none => rfl
        | some n =>
          obtain ⟨l, hl, hn⟩ := exists_writes_of_ofText? hn
          cases hn.symm.trans (hnone l hl)
      rw [literal_of_not_mem_keywords hkeyword, hread]
      rfl
  · rintro rfl
    exact spells_literal token

end Bare

/-! ### Reading one argument -/

section Argument

variable {quote : Char} {text written blanks token rest : List Char}

/-- What has been written in quotes is read back, and then what follows it is read. -/
theorem readQuoted_append (h : WritesQuoted quote text written) (rest : List Char) :
    readQuoted quote (written ++ rest) =
      (text ++ (readQuoted quote rest).1, (readQuoted quote rest).2) := by
  induction h with
  | nil => rfl
  | plain hslash hne _ ih =>
    rw [List.cons_append, readQuoted.eq_def]
    dsimp only
    rw [if_neg hslash, if_neg hne, ih]
    rfl
  | escaped c _ ih =>
    rw [List.cons_append, List.cons_append, readQuoted, if_pos rfl, ih]
    rfl

/-- A quote is no backslash. -/
theorem IsQuote.ne_backslash (h : IsQuote quote) : quote ≠ '\\' := by
  rintro rfl
  revert h
  decide

/-- A quote is no blank. -/
theorem IsQuote.not_isBlank (h : IsQuote quote) : isBlank quote = false := by
  rcases h with rfl | rfl <;> rfl

/-- The closing quote ends an argument. -/
theorem readQuoted_closed (h : WritesQuoted quote text written) (hquote : IsQuote quote)
    (rest : List Char) : readQuoted quote (written ++ quote :: rest) = (text, rest) := by
  have hclose : readQuoted quote (quote :: rest) = ([], rest) := by
    rw [readQuoted.eq_def]
    dsimp only
    rw [if_neg hquote.ne_backslash, if_pos rfl]
  rw [readQuoted_append h, hclose, List.append_nil]

/-- Where only blanks are left no argument is read. -/
theorem readArgs_of_isBlankText (h : IsBlankText blanks) : readArgs blanks = [] := by
  have hskip : trimStart blanks = [] := List.dropWhile_eq_nil_iff.2 h
  rw [readArgs]
  split
  next => rfl
  next heq => cases hskip.symm.trans heq

/-- An argument that begins with a quote is read up to where the quote ends. -/
theorem readArgs_quote (h : IsBlankText blanks) (hquote : IsQuote quote) (rest : List Char) :
    readArgs (blanks ++ quote :: rest) =
      .string (.ofList (readQuoted quote rest).1) :: readArgs (readQuoted quote rest).2 := by
  have hskip : trimStart (blanks ++ quote :: rest) = quote :: rest := by
    rw [trimStart_append h]
    exact List.dropWhile_cons_of_neg (by simp [hquote.not_isBlank])
  rw [readArgs]
  split
  next heq => cases hskip.symm.trans heq
  next heq =>
    cases hskip.symm.trans heq
    rw [if_pos (by simpa [IsQuote] using hquote)]

/-- A bare argument is read up to the next blank. -/
theorem readArgs_bare (h : IsBlankText blanks) (htoken : IsBare token)
    (hrest : ∀ c ∈ rest.head?, isBlank c) :
    readArgs (blanks ++ (token ++ rest)) = literal token :: readArgs rest := by
  obtain ⟨c, token, rfl⟩ := List.exists_cons_of_ne_nil htoken.ne_nil
  have hblank := List.forall_mem_cons.1 htoken.not_isBlank
  have hskip : trimStart (blanks ++ (c :: token ++ rest)) = c :: (token ++ rest) := by
    rw [trimStart_append h]
    exact List.dropWhile_cons_of_neg (by simp [hblank.1])
  obtain ⟨htake, hdrop⟩ : (token ++ rest).takeWhile (!isBlank ·) = token ∧
      (token ++ rest).dropWhile (!isBlank ·) = rest :=
    takeWhile_append_of_head (by simpa using hblank.2) (by simpa using hrest)
  rw [readArgs]
  split
  next heq => cases hskip.symm.trans heq
  next heq =>
    cases hskip.symm.trans heq
    rw [if_neg (by simpa [IsQuote] using htoken.not_isQuote c rfl), htake, hdrop]

end Argument

/-! ### Reading all arguments -/

section Arguments

variable {cs blanks : List Char} {values : List Value}

/-- Written arguments are read back. -/
theorem readArgs_of_writesArgs (h : WritesArgs cs values) : readArgs cs = values := by
  induction h with
  | nil hblanks => exact readArgs_of_isBlankText hblanks
  | quoted hblanks hquote hwritten _ ih =>
    rw [readArgs_quote hblanks hquote, readQuoted_closed hwritten hquote, ih]
  | bare hblanks htoken hv hrest _ ih =>
    rw [readArgs_bare hblanks htoken hrest, ih, spells_iff.1 hv]

/-- Where a blank follows or nothing does, this stays so with blanks at the end. -/
theorem isBlank_head_append {rest : List Char} (hrest : ∀ c ∈ rest.head?, isBlank c)
    (hblanks : IsBlankText blanks) : ∀ c ∈ (rest ++ blanks).head?, isBlank c := by
  cases rest with
  | nil => exact fun c hc => hblanks c (List.mem_of_mem_head? hc)
  | cons d rest => exact hrest

/-- Blanks after written arguments write no more arguments. -/
theorem WritesArgs.append_blanks (h : WritesArgs cs values) (hblanks : IsBlankText blanks) :
    WritesArgs (cs ++ blanks) values := by
  induction h with
  | nil hfront => exact .nil (List.forall_mem_append.2 ⟨hfront, hblanks⟩)
  | quoted hfront hquote hwritten _ ih => simpa using WritesArgs.quoted hfront hquote hwritten ih
  | bare hfront htoken hv hrest _ ih =>
    simpa using WritesArgs.bare hfront htoken hv (isBlank_head_append hrest hblanks) ih

/-- Blanks after an open quote belong to the argument. -/
theorem readQuoted_of_isBlankText {quote : Char} (hquote : IsQuote quote)
    (h : IsBlankText blanks) : readQuoted quote blanks = (blanks, []) := by
  induction blanks with
  | nil => rfl
  | cons c blanks ih =>
    have hc := h c List.mem_cons_self
    have hslash : c ≠ '\\' := by
      rintro rfl
      cases hc
    have hne : c ≠ quote := by
      rintro rfl
      cases hc.symm.trans hquote.not_isBlank
    rw [readQuoted.eq_def]
    dsimp only
    rw [if_neg hslash, if_neg hne, ih fun d hd => h d (List.mem_cons_of_mem c hd)]

/-- Blanks after an open quote belong to the argument, also after a single backslash. -/
theorem readQuoted_opened {quote : Char} {text written slash : List Char}
    (hwritten : WritesQuoted quote text written) (hquote : IsQuote quote)
    (hslash : slash = [] ∨ slash = ['\\']) (h : IsBlankText blanks) :
    readQuoted quote (written ++ (slash ++ blanks)) = (text ++ blanks, []) := by
  have hopen : readQuoted quote (slash ++ blanks) = (blanks, []) := by
    rcases hslash with rfl | rfl
    · exact readQuoted_of_isBlankText hquote h
    · cases blanks with
      | nil => rfl
      | cons c blanks =>
        -- the backslash takes the first blank, which would stand for itself anyway
        have hrest := readQuoted_of_isBlankText hquote fun d hd => h d (List.mem_cons_of_mem c hd)
        rw [List.singleton_append, readQuoted, if_pos rfl, hrest]
  rw [readQuoted_append hwritten, hopen]

/-- Blanks after an open quote change the last argument. -/
theorem EndsInQuotes.readArgs_append_blanks_ne (h : EndsInQuotes cs) (hblanks : IsBlankText blanks)
    (hne : blanks ≠ []) : readArgs (cs ++ blanks) ≠ readArgs cs := by
  induction h with
  | @opened front text written slash quote hfront hquote hwritten hslash =>
    -- the open argument is longer by the blanks
    have hbefore : readQuoted quote (written ++ slash) = (text, []) := by
      simpa using @readQuoted_opened [] _ _ _ _ hwritten hquote hslash (by simp [IsBlankText])
    have hafter := readQuoted_opened hwritten hquote hslash hblanks
    rw [List.append_assoc, List.cons_append, List.append_assoc, readArgs_quote hfront hquote,
      readArgs_quote hfront hquote, hbefore, hafter]
    simpa using hne
  | quoted hfront hquote hwritten _ ih =>
    rw [List.append_assoc, List.cons_append, List.append_assoc, List.cons_append,
      readArgs_quote hfront hquote, readArgs_quote hfront hquote,
      readQuoted_closed hwritten hquote, readQuoted_closed hwritten hquote]
    exact fun heq => ih (List.cons.inj heq).2
  | bare hfront htoken hrest _ ih =>
    rw [List.append_assoc, List.append_assoc,
      readArgs_bare hfront htoken (isBlank_head_append hrest hblanks),
      readArgs_bare hfront htoken hrest]
    exact fun heq => ih (List.cons.inj heq).2

/-- What follows a quote closes it or leaves it open. -/
theorem exists_writesQuoted (quote : Char) (cs : List Char) :
    ∃ text written, WritesQuoted quote text written ∧
      ((∃ rest, cs = written ++ quote :: rest) ∨
        ∃ slash, (slash = [] ∨ slash = ['\\']) ∧ cs = written ++ slash) := by
  fun_induction readQuoted quote cs with
  | case1 => exact ⟨[], [], .nil, .inr ⟨[], .inl rfl, rfl⟩⟩
  | case2 => exact ⟨[], [], .nil, .inr ⟨['\\'], .inr rfl, rfl⟩⟩
  | case3 c rest _ _ _ ih =>
    obtain ⟨text, written, hwritten, hend⟩ := ih
    refine ⟨c :: text, '\\' :: c :: written, .escaped c hwritten, ?_⟩
    simpa using hend
  | case4 rest hslash => exact ⟨[], [], .nil, .inl ⟨rest, rfl⟩⟩
  | case5 c rest hslash hne _ _ _ ih =>
    obtain ⟨text, written, hwritten, hend⟩ := ih
    refine ⟨c :: text, c :: written, .plain hslash hne hwritten, ?_⟩
    simpa using hend

/-- Where a text with something in it begins. -/
theorem eq_append_of_trimStart {c : Char} {rest : List Char} (h : trimStart cs = c :: rest) :
    ∃ blanks, IsBlankText blanks ∧ isBlank c = false ∧ cs = blanks ++ c :: rest := by
  obtain ⟨blanks, hblanks, hcs⟩ := exists_append_trimStart cs
  have hc : isBlank c = false := by
    have hhead := List.head?_dropWhile_not isBlank cs
    rw [← trimStart, h] at hhead
    simpa using hhead
  exact ⟨blanks, hblanks, hc, by rw [← h, ← hcs]⟩

/-- A bare argument and what follows it. -/
theorem isBare_takeWhile {c : Char} (hblank : isBlank c = false) (hquote : ¬IsQuote c)
    (rest : List Char) : IsBare (c :: rest.takeWhile (!isBlank ·)) := by
  refine ⟨List.cons_ne_nil _ _, List.forall_mem_cons.2 ⟨hblank, fun d hd => ?_⟩, ?_⟩
  · simpa using List.mem_takeWhile_imp hd
  · rintro d ⟨⟩
    exact hquote

/-- Every text writes arguments or leaves a quote open. -/
theorem writesArgs_or_endsInQuotes (cs : List Char) :
    (∃ values, WritesArgs cs values) ∨ EndsInQuotes cs := by
  fun_induction readArgs cs with
  | case1 cs hskip => exact .inl ⟨[], .nil (List.dropWhile_eq_nil_iff.1 hskip)⟩
  | case2 cs c rest hskip hquote ih =>
    obtain ⟨blanks, hblanks, -, rfl⟩ := eq_append_of_trimStart hskip
    have hquote : IsQuote c := by simpa [IsQuote] using hquote
    obtain ⟨text, written, hwritten, ⟨more, rfl⟩ | ⟨slash, hslash, rfl⟩⟩ :=
      exists_writesQuoted c rest
    · -- the quote is closed, and what follows it decides
      rw [readQuoted_closed hwritten hquote] at ih
      rcases ih with ⟨values, hvalues⟩ | hends
      · exact .inl ⟨_, .quoted hblanks hquote hwritten hvalues⟩
      · exact .inr (.quoted hblanks hquote hwritten hends)
    · exact .inr (.opened hblanks hquote hwritten hslash)
  | case3 cs c rest hskip hquote ih =>
    obtain ⟨blanks, hblanks, hc, rfl⟩ := eq_append_of_trimStart hskip
    have htoken := isBare_takeWhile hc (by simpa [IsQuote] using hquote) rest
    have hrest : ∀ d ∈ (rest.dropWhile (!isBlank ·)).head?, isBlank d := by
      intro d hd
      have hhead := List.head?_dropWhile_not (!isBlank ·) rest
      rw [Option.mem_def.1 hd] at hhead
      simpa using hhead
    have hsplit : c :: rest =
        c :: rest.takeWhile (!isBlank ·) ++ rest.dropWhile (!isBlank ·) := by
      rw [List.cons_append, List.takeWhile_append_dropWhile]
    rw [hsplit]
    rcases ih with ⟨values, hvalues⟩ | hends
    · exact .inl ⟨_, .bare hblanks htoken (spells_literal _) hrest hvalues⟩
    · exact .inr (.bare hblanks htoken hrest hends)

/-- **Blanks after arguments.** Blanks at the end of a text mean something just when the text
leaves a quote open. -/
theorem readArgs_append_blanks_iff (hblanks : IsBlankText blanks) :
    readArgs (cs ++ blanks) = readArgs cs ↔ blanks = [] ∨ ¬EndsInQuotes cs := by
  constructor
  · intro heq
    by_contra hne
    rw [not_or, not_not] at hne
    exact hne.2.readArgs_append_blanks_ne hblanks hne.1 heq
  · rintro (rfl | hends)
    · rw [List.append_nil]
    · -- what leaves no quote open writes arguments, and these end with any blanks
      obtain ⟨values, hvalues⟩ := (writesArgs_or_endsInQuotes cs).resolve_right hends
      rw [readArgs_of_writesArgs hvalues, readArgs_of_writesArgs (hvalues.append_blanks hblanks)]

end Arguments

/-! ### Transforms -/

section Spec

variable {name args : List Char}

/-- The first colon of a text comes after a name without colons. -/
theorem takeWhile_append_colon (h : ':' ∉ name) (args : List Char) :
    (name ++ ':' :: args).takeWhile (· ≠ ':') = name ∧
      (name ++ ':' :: args).dropWhile (· ≠ ':') = ':' :: args :=
  takeWhile_append_of_head (fun c hc => decide_eq_true fun heq => h (heq ▸ hc)) (by simp)

/-- A name and what follows its colon are read as a name and its arguments. -/
theorem read_append_colon (h : ':' ∉ name) (args : List Char) :
    read (name ++ ':' :: args) = ⟨.ofList (trim name), readArgs args⟩ := by
  obtain ⟨htake, hdrop⟩ := takeWhile_append_colon h args
  rw [read, hdrop]
  dsimp only
  rw [htake]

/-- A text without colons is a name without arguments. -/
theorem read_of_not_mem (h : ':' ∉ name) : read name = ⟨.ofList (trim name), []⟩ := by
  have hdrop : name.dropWhile (· ≠ ':') = [] :=
    List.dropWhile_eq_nil_iff.2 fun c hc => decide_eq_true fun heq => h (heq ▸ hc)
  rw [read, hdrop]

end Spec

end Gleaner.TransformSpec
