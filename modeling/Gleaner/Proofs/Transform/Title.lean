import Gleaner.Proofs.Transform.Elementwise
import Gleaner.Proofs.Unicode.Case
import Gleaner.Proofs.Value.Equality

/-!
# Title case

`title` brings the first character of each word to upper case and the rest of the word to lower
case. Some characters become several in upper case, as the sharp s does, and then all of them are
capitals. A second `title` keeps the first of these and brings the others to lower case. So a second
one can make a difference, but a third one cannot.

## Main definitions

* `Unicode.HasTitleForm`: characters whose uppercase form is in title case.
* `Builtin.BeginsWord`: the characters that words of a text begin with.
* `Builtin.OnTexts`: functions of values that change the texts in them.

## Main results

* `Builtin.words_titleCase`: the words of a text in title case.
* `Builtin.titleWord_titleWord_iff`, `Builtin.titleCase_titleCase_iff`: where a second `title` makes
  no difference.
* `Builtin.title_settles`: the same for values, and that a third one never makes one.
-/

namespace Gleaner

/-- The uppercase form of the character is in title case: what follows its first character is in
lower case. -/
def Unicode.HasTitleForm (c : Char) : Prop := ∀ d ∈ (upperChar c).tail, IsLower d

instance (c : Char) : Decidable (Unicode.HasTitleForm c) :=
  List.decidableBAll Unicode.IsLower (Unicode.upperChar c).tail

namespace Builtin

open Unicode (IsLower HasTitleForm upperChar lower)

variable {c : Char} {cs word : List Char}

/-! ### Words -/

/-- There is at least one word, which may be empty. -/
theorem words_ne_nil (cs : List Char) : words cs ≠ [] := by
  cases cs with
  | nil => exact List.cons_ne_nil _ _
  | cons c cs =>
    rw [words]
    split_ifs
    · exact List.cons_ne_nil _ _
    · split <;> exact List.cons_ne_nil _ _

/-- A character that is no space belongs to the first word. -/
theorem words_cons_of_ne (h : c ≠ ' ') {rest : List (List Char)}
    (hwords : words cs = word :: rest) : words (c :: cs) = (c :: word) :: rest := by
  rw [words, if_neg h, hwords]

/-- No word has a space in it. -/
theorem space_not_mem_of_mem_words (h : word ∈ words cs) : ' ' ∉ word := by
  induction cs generalizing word with
  | nil =>
    rw [List.mem_singleton.1 h]
    exact List.not_mem_nil
  | cons c cs ih =>
    by_cases hc : c = ' '
    · rw [words, if_pos hc] at h
      rcases List.mem_cons.1 h with rfl | h
      · exact List.not_mem_nil
      · exact ih h
    · obtain ⟨first, rest, hwords⟩ := List.exists_cons_of_ne_nil (words_ne_nil cs)
      rw [words_cons_of_ne hc hwords] at h
      rw [hwords] at ih
      rcases List.mem_cons.1 h with rfl | h
      · rw [List.mem_cons, not_or]
        exact ⟨Ne.symm hc, ih List.mem_cons_self⟩
      · exact ih (List.mem_cons_of_mem _ h)

/-- A text without spaces is one word. -/
theorem words_of_space_not_mem (h : ' ' ∉ word) : words word = [word] := by
  induction word with
  | nil => rfl
  | cons c word ih =>
    rw [List.mem_cons, not_or] at h
    exact words_cons_of_ne (Ne.symm h.1) (ih h.2)

/-- A space ends the first word. -/
theorem words_append_space (h : ' ' ∉ word) (rest : List Char) :
    words (word ++ ' ' :: rest) = word :: words rest := by
  induction word with
  | nil => rfl
  | cons c word ih =>
    rw [List.mem_cons, not_or] at h
    exact words_cons_of_ne (Ne.symm h.1) (ih h.2)

/-- Words with spaces between them are the words of the text. -/
theorem words_joinChars {ws : List (List Char)} (hne : ws ≠ []) (h : ∀ w ∈ ws, ' ' ∉ w) :
    words (Value.joinChars [' '] ws) = ws := by
  induction ws with
  | nil => exact absurd rfl hne
  | cons w ws ih =>
    rw [List.forall_mem_cons] at h
    unfold Value.joinChars at ih ⊢
    by_cases hws : ws = []
    · rw [hws, List.intercalate_singleton, words_of_space_not_mem h.1]
    · rw [List.intercalate_cons_of_ne_nil hws, List.append_assoc, List.singleton_append,
        words_append_space h.1, ih hws h.2]

/-- The character begins a word of the text: it is no space, and nothing or a space stands before
it. -/
def BeginsWord (c : Char) (cs : List Char) : Prop :=
  c ≠ ' ' ∧ ∃ before after, cs = before ++ c :: after ∧ (before = [] ∨ before.getLast? = some ' ')

/-- The first word begins with the first character, unless that is a space. -/
theorem head?_first_word_iff {rest : List (List Char)} (hwords : words cs = word :: rest) :
    word.head? = some c ↔ c ≠ ' ' ∧ ∃ after, cs = c :: after := by
  cases cs with
  | nil =>
    obtain ⟨rfl, -⟩ := List.cons_eq_cons.1 hwords
    simp
  | cons d cs =>
    by_cases hd : d = ' '
    · rw [words, if_pos hd] at hwords
      obtain ⟨rfl, -⟩ := List.cons_eq_cons.1 hwords
      simp [hd, eq_comm]
    · obtain ⟨first, others, hfirst⟩ := List.exists_cons_of_ne_nil (words_ne_nil cs)
      rw [words_cons_of_ne hd hfirst] at hwords
      obtain ⟨rfl, -⟩ := List.cons_eq_cons.1 hwords
      constructor
      · rintro ⟨⟩
        exact ⟨hd, cs, rfl⟩
      · rintro ⟨-, after, heq⟩
        rw [(List.cons_eq_cons.1 heq).1, List.head?_cons]

/-- A later word begins with a character that follows a space. -/
theorem exists_mem_tail_words_iff :
    (∃ word ∈ (words cs).tail, word.head? = some c) ↔
      c ≠ ' ' ∧ ∃ before after, cs = before ++ ' ' :: c :: after := by
  induction cs with
  | nil => simp [words]
  | cons d cs ih =>
    obtain ⟨first, rest, hwords⟩ := List.exists_cons_of_ne_nil (words_ne_nil cs)
    rw [hwords, List.tail_cons] at ih
    by_cases hd : d = ' '
    · -- the words after the space are all words of the rest, the first one included
      rw [words, if_pos hd, List.tail_cons, hwords, List.exists_mem_cons_iff,
        head?_first_word_iff hwords, ih, hd, ← and_or_left]
      refine and_congr_right fun _ => ⟨?_, ?_⟩
      · rintro (⟨after, rfl⟩ | ⟨before, after, rfl⟩)
        · exact ⟨[], after, rfl⟩
        · exact ⟨' ' :: before, after, rfl⟩
      · rintro ⟨before, after, heq⟩
        rcases List.cons_eq_append_iff.1 heq with ⟨-, hrest⟩ | ⟨more, -, hrest⟩
        · exact .inl ⟨after, (List.cons_eq_cons.1 hrest).2.symm⟩
        · exact .inr ⟨more, after, hrest⟩
    · rw [words_cons_of_ne hd hwords, List.tail_cons, ih]
      refine and_congr_right fun _ => ⟨?_, ?_⟩
      · rintro ⟨before, after, rfl⟩
        exact ⟨d :: before, after, rfl⟩
      · rintro ⟨before, after, heq⟩
        rcases List.cons_eq_append_iff.1 heq with ⟨-, hrest⟩ | ⟨more, -, hrest⟩
        · exact absurd (List.cons_eq_cons.1 hrest).1.symm hd
        · exact ⟨more, after, hrest⟩

/-- The characters that begin a word are those that words begin with. -/
theorem beginsWord_iff : BeginsWord c cs ↔ ∃ word ∈ words cs, word.head? = some c := by
  obtain ⟨first, rest, hwords⟩ := List.exists_cons_of_ne_nil (words_ne_nil cs)
  have htail := @exists_mem_tail_words_iff c cs
  rw [hwords, List.tail_cons] at htail
  -- nothing stands before the first word, and a space before each later one
  rw [hwords, List.exists_mem_cons_iff, head?_first_word_iff hwords, htail, ← and_or_left]
  refine and_congr_right fun _ => ⟨?_, ?_⟩
  · rintro ⟨before, after, rfl, rfl | hlast⟩
    · exact .inl ⟨after, rfl⟩
    · obtain ⟨before, rfl⟩ := List.getLast?_eq_some_iff.1 hlast
      exact .inr ⟨before, after, List.append_assoc _ _ _⟩
  · rintro (⟨after, rfl⟩ | ⟨before, after, rfl⟩)
    · exact ⟨[], after, rfl, .inl rfl⟩
    · exact ⟨before ++ [' '], after, by simp, .inr List.getLast?_concat⟩

/-! ### Words in title case -/

/-- The uppercase form of a character, by its first character. -/
theorem exists_upperChar_eq (c : Char) : ∃ u us, upperChar c = u :: us :=
  List.exists_cons_of_ne_nil (Unicode.upperChar_ne_nil c)

/-- A word in title case, again in title case: just what follows the first character can change. -/
theorem titleWord_titleWord_cons {u : Char} {us : List Char} (h : upperChar c = u :: us)
    (rest : List Char) :
    titleWord (titleWord (c :: rest)) = u :: lower (us ++ lower rest) := by
  have hu : upperChar u = [u] :=
    Unicode.isUpper_of_mem_upperChar (h ▸ List.mem_cons_self : u ∈ upperChar c)
  rw [titleWord, h, List.cons_append, titleWord, hu, List.singleton_append]

/-- A second `title` leaves a word alone unless its first character has no title form. -/
theorem titleWord_titleWord_iff :
    titleWord (titleWord word) = titleWord word ↔ ∀ c, word.head? = some c → HasTitleForm c := by
  cases word with
  | nil => simp [titleWord]
  | cons c rest =>
    obtain ⟨u, us, hupper⟩ := exists_upperChar_eq c
    have hrest : ∀ d ∈ lower rest, IsLower d := fun d => Unicode.isLower_of_mem_lowerAfter
    rw [titleWord_titleWord_cons hupper, titleWord, hupper, List.cons_append, List.cons_eq_cons,
      Unicode.lower_eq_self_iff, List.forall_mem_append]
    simp only [true_and, List.head?_cons, Option.some.injEq, forall_eq', HasTitleForm, hupper,
      List.tail_cons]
    exact and_iff_left hrest

/-- A third `title` leaves every word alone. -/
theorem titleWord_thrice (word : List Char) :
    titleWord (titleWord (titleWord word)) = titleWord (titleWord word) := by
  cases word with
  | nil => rfl
  | cons c rest =>
    obtain ⟨u, us, hupper⟩ := exists_upperChar_eq c
    have hu : upperChar u = [u] :=
      Unicode.isUpper_of_mem_upperChar (hupper ▸ List.mem_cons_self : u ∈ upperChar c)
    rw [titleWord_titleWord_cons hupper, titleWord, hu, Unicode.lower_lower, List.singleton_append]

/-- A word without spaces gets none in title case. -/
theorem space_not_mem_titleWord (h : ' ' ∉ word) : ' ' ∉ titleWord word := by
  cases word with
  | nil => exact h
  | cons c rest =>
    rw [List.mem_cons, not_or] at h
    rw [titleWord, List.mem_append, not_or]
    exact ⟨fun hspace => h.1 (Unicode.eq_space_of_mem_upperChar hspace).symm,
      fun hspace => h.2 (Unicode.space_mem_of_mem_lowerAfter hspace)⟩

/-! ### Texts in title case -/

/-- The words of a text in title case are its words in title case. -/
theorem words_titleCase (cs : List Char) : words (titleCase cs) = (words cs).map titleWord := by
  refine words_joinChars (by simpa using words_ne_nil cs) (List.forall_mem_map.2 ?_)
  exact fun word hword => space_not_mem_titleWord (space_not_mem_of_mem_words hword)

/-- A second `title` leaves a text alone just where it leaves all of its words alone. -/
theorem titleCase_titleCase_iff :
    titleCase (titleCase cs) = titleCase cs ↔ ∀ c, BeginsWord c cs → HasTitleForm c := by
  -- a text in title case has its words again, so it can be compared word by word
  have hwords : titleCase (titleCase cs) = titleCase cs ↔
      ∀ word ∈ words cs, titleWord (titleWord word) = titleWord word := by
    constructor
    · intro h
      have hmap := congrArg words h
      rw [words_titleCase, words_titleCase, List.map_map, List.map_inj_left] at hmap
      exact hmap
    · intro h
      rw [titleCase, words_titleCase, List.map_map, titleCase]
      exact congrArg _ (List.map_inj_left.2 h)
  simp only [hwords, titleWord_titleWord_iff, beginsWord_iff]
  constructor
  · rintro h c ⟨word, hword, hc⟩
    exact h word hword c hc
  · exact fun h word hword c hc => h c ⟨word, hword, hc⟩

/-- A third `title` leaves every text alone. -/
theorem titleCase_thrice (cs : List Char) :
    titleCase (titleCase (titleCase cs)) = titleCase (titleCase cs) := by
  have hwords : ((words cs).map titleWord).map (titleWord ∘ titleWord) =
      ((words cs).map titleWord).map titleWord := by
    simp only [List.map_map, List.map_inj_left]
    exact fun word _ => titleWord_thrice word
  rw [titleCase, words_titleCase, words_titleCase, List.map_map, hwords, titleCase, words_titleCase]

/-! ### Values -/

/-- A function of values that changes the texts in them, at any depth, and nothing else. -/
structure OnTexts (f : List Char → List Char) (g : Value → Value) : Prop extends Elementwise g where
  /-- A text is changed by the function on texts. -/
  text : ∀ s, g (.string s) = .string (.ofList (f s.toList))
  /-- Other leaves are left alone. -/
  other : ∀ v : Value, v.text? = none → v.items? = none → v.fields? = none → g v = v

/-- A change of texts is a transform that succeeds on every value. -/
theorem exists_mapTexts_eq (f : List Char → List Char) :
    ∃ g, (∀ v args, mapTexts f v args = .ok (g v)) ∧ OnTexts f g := by
  obtain ⟨g, hg, hmaps⟩ := exists_elementwise
    (exists_onText_eq_ok fun cs => .string (.ofList (f cs)))
  refine ⟨g, fun v args => hg v, hmaps, fun s => ?_, fun v htext hitems hfields => ?_⟩
  · exact (Except.ok.inj (hg (.string s))).symm
  · cases v with
    | null => exact (Except.ok.inj (hg .null)).symm
    | bool b => exact (Except.ok.inj (hg (.bool b))).symm
    | number x => exact (Except.ok.inj (hg (.number x))).symm
    | date t => exact (Except.ok.inj (hg (.date t))).symm
    | string => cases htext
    | array => cases hitems
    | object => cases hfields

namespace OnTexts

variable {f k : List Char → List Char} {g h : Value → Value}

/-- One after another. -/
theorem comp (hg : OnTexts f g) (hh : OnTexts k h) : OnTexts (k ∘ f) (h ∘ g) where
  array items := by
    rw [Function.comp_apply, hg.array, hh.array, List.map_map]
  object fields := by
    rw [Function.comp_apply, hg.object, hh.object, List.map_map]
    rfl
  text s := by
    rw [Function.comp_apply, hg.text, hh.text, String.toList_ofList, Function.comp_apply]
  other v htext hitems hfields := by
    rw [Function.comp_apply, hg.other v htext hitems hfields, hh.other v htext hitems hfields]

/-- What holds of all texts in a value, as a property of its parts. -/
theorem forall_texts_iff {P : String → Prop} {v : Value} :
    (∀ s, .string s ∈ v.parts → P s) ↔ ∀ w ∈ v.parts, ∀ s, w = .string s → P s :=
  ⟨fun h _ hw s hs => h s (hs ▸ hw), fun h s hs => h _ hs s rfl⟩

/-- Two of them agree on a value just where they agree on all texts in it. -/
theorem eq_iff (hg : OnTexts f g) (hh : OnTexts k h) (v : Value) :
    g v = h v ↔ ∀ s, .string s ∈ v.parts → f s.toList = k s.toList := by
  rw [forall_texts_iff]
  induction v using Value.induction with
  | null | bool | number | date =>
    rw [hg.other _ rfl rfl rfl, hh.other _ rfl rfl rfl]
    simp [Value.parts]
  | string s =>
    rw [hg.text, hh.text, Value.string.injEq, String.ofList_inj]
    simp [Value.parts]
  | array items ih =>
    rw [hg.array, hh.array, Value.array.injEq, List.map_inj_left, Value.forall_mem_parts_array,
      forall₂_congr ih]
    simp
  | object fields ih =>
    rw [hg.object, hh.object, Value.object.injEq, List.map_inj_left,
      Value.forall_mem_parts_object, ← forall₂_congr ih]
    simp

end OnTexts

/-- **Title case.** `title` succeeds on every value with any arguments. A second `title` leaves its
result alone exactly when every word of a text in the value, at any depth, begins with a character
whose uppercase form is in title case. A third one leaves the result of the second alone, whatever
the value. -/
theorem title_settles (v : Value) (args : List Value) :
    Registry.builtins.get? "title" = some (mapTexts titleCase) ∧
      ∃ w x, mapTexts titleCase v args = .ok w ∧ mapTexts titleCase w args = .ok x ∧
        mapTexts titleCase x args = .ok x ∧
        (x = w ↔ ∀ s c, .string s ∈ v.parts → BeginsWord c s.toList → HasTitleForm c) := by
  obtain ⟨g, hg, htexts⟩ := exists_mapTexts_eq titleCase
  -- the functions done twice and three times are also functions on texts, so that it is enough to
  -- compare them there
  have htwice := htexts.comp htexts
  have hthrice := (htwice.comp htexts).eq_iff htwice v
  have hsecond := htwice.eq_iff htexts v
  simp only [Function.comp_apply, titleCase_thrice, implies_true, iff_true] at hthrice
  simp only [Function.comp_apply, titleCase_titleCase_iff] at hsecond
  refine ⟨rfl, g v, g (g v), hg v args, hg (g v) args, ?_, ?_⟩
  · rw [hg, hthrice]
  · rw [hsecond]
    exact ⟨fun h s c hs => h s hs c, fun h s hs c => h s c hs⟩

/-- The caron stands after the letter, and a caron has no lowercase form. -/
example : HasTitleForm 'ǰ' := by decide +kernel

/-- The sharp s becomes two capitals, of which a second `title` keeps the first one. -/
theorem title_sharpS :
    mapTexts titleCase (.string "ßa") [] = .ok (.string "SSa") ∧
      mapTexts titleCase (.string "SSa") [] = .ok (.string "Ssa") ∧
      ¬∀ v w, mapTexts titleCase v [] = .ok w → mapTexts titleCase w [] = .ok w := by
  have hfirst : mapTexts titleCase (.string "ßa") [] = .ok (.string "SSa") := by cbv
  have hsecond : mapTexts titleCase (.string "SSa") [] = .ok (.string "Ssa") := by cbv
  refine ⟨hfirst, hsecond, fun hstable => ?_⟩
  have hsame := hsecond.symm.trans (hstable _ _ hfirst)
  simp at hsame

end Builtin
end Gleaner
