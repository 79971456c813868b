import Gleaner.Proofs.Calendar.Captured

/-!
# The words that are read as names

Where a layout shows the name of a month or a weekday, it captures a word of letters. A month is
recognised by the first three letters of the word, whatever follows them. A weekday says nothing
that the date does not say, so its word is not looked at.

## Main definitions

* `Layout.BeginsWithMonth`: a word that begins as the name of a month.
* `Layout.IsMonthWord`, `Layout.IsWeekdayWord`: the names of months and weekdays, and their
  abbreviations.

## Main results

* `beginsWithMonth_of_monthOfName?`: how a month is recognised.
* `words_of_fields?`: the words that a layout captures for names.
-/

namespace Gleaner.Calendar

namespace Token

/-- Whether a token shows the name of the month, in short or in full. -/
def isMonthName : Token → Bool
  | .shortMonthName | .monthName => true
  | _ => false

/-- Whether a token shows the name of the weekday, in short or in full. -/
def isWeekdayName : Token → Bool
  | .minWeekdayName | .shortWeekdayName | .weekdayName => true
  | _ => false

end Token

namespace Layout

variable {layout : Layout} {text word : List Char} {fields : Fields} {token : Token}

/-- A word of ASCII letters. -/
def IsWord (word : List Char) : Prop :=
  word ≠ [] ∧ ∀ c ∈ word, Unicode.asciiLetters.contains c

/-- A word that begins with the first three letters of the name of a month, in capitals or not. -/
def BeginsWithMonth (word : List Char) : Prop :=
  ∃ name ∈ monthNames, (name.toList.take 3).map Scan.lower <+: word.map Scan.lower

/-- A name of a list, in full or cut to one of some lengths, in capitals or not. -/
def IsNameOf (names : List String) (lengths : List Nat) (word : List Char) : Prop :=
  ∃ name ∈ names, ∃ length ∈ name.length :: lengths,
    word.map Scan.lower = (name.toList.take length).map Scan.lower

instance (names : List String) (lengths : List Nat) (word : List Char) :
    Decidable (IsNameOf names lengths word) :=
  inferInstanceAs (Decidable (∃ _ ∈ _, _))

/-- The name of a month or its first three letters, in capitals or not. -/
abbrev IsMonthWord (word : List Char) : Prop := IsNameOf monthNames [3] word

/-- The name of a weekday or its first two or three letters, in capitals or not. -/
abbrev IsWeekdayWord (word : List Char) : Prop := IsNameOf weekdayNames [2, 3] word

/-- A month is recognised by a word that begins as its name. -/
theorem beginsWithMonth_of_monthOfName? {month : Nat} (h : monthOfName? word = some month) :
    BeginsWithMonth word := by
  rw [monthOfName?, Option.ite_none_left_eq_some] at h
  obtain ⟨-, h⟩ := h
  obtain ⟨index, hindex, -⟩ := Option.map_eq_some_iff.1 h
  obtain ⟨hlt, hstart, -⟩ := List.findIdx?_eq_some_iff_getElem.1 hindex
  refine ⟨monthNames[index], List.getElem_mem hlt, ?_⟩
  -- both begin with the same three letters
  have hname : (monthNames[index].toList.take 3).map Scan.lower = (word.map Scan.lower).take 3 := by
    rw [List.map_take]
    exact of_decide_eq_true hstart
  rw [hname]
  exact List.take_prefix 3 _

/-- A token for a name captures a word. -/
theorem isWord_of_accepts (hkind : token.isMonthName ∨ token.isWeekdayName)
    (h : (fieldPattern token).Accepts word) : IsWord word := by
  have hextent : token.extent = .name := by
    cases token <;> first | rfl | (rcases hkind with hkind | hkind <;> cases hkind)
  obtain ⟨hletters, hlength⟩ := (accepts_name_iff hextent).1 h
  exact ⟨List.length_pos_iff.1 hlength, hletters⟩

/-- A token for the name of a month takes in only words that begin as one. -/
theorem beginsWithMonth_of_take {later : Fields} (hkind : token.isMonthName)
    (h : fields.take token word = some later) : BeginsWithMonth word := by
  have hmap : fields.take token word =
      (monthOfName? word).map fun month => { fields with month := some month } := by
    cases token <;> first | rfl | cases hkind
  obtain ⟨month, hmonth, -⟩ := Option.map_eq_some_iff.1 (hmap ▸ h)
  exact beginsWithMonth_of_monthOfName? hmonth

/-- **The words that are read as names.** Whatever a text in a layout says, and so wherever a date
is read from it, every word that is captured for the name of a month consists of letters and begins
with the first three letters of the name of a month, and every word that is captured for the name of
a weekday consists of letters. -/
theorem words_of_fields? (h : layout.fields? text = some fields) :
    ∃ captured, layout.captured? text = some captured ∧
      ∀ token word, (token, word) ∈ captured →
        (token.isMonthName → IsWord word ∧ BeginsWithMonth word) ∧
        (token.isWeekdayName → IsWord word) := by
  obtain ⟨captured, hcaptured, htake⟩ := exists_captured_of_fields? h
  refine ⟨captured, hcaptured, ?_⟩
  intro token word hmem
  have haccepts := accepts_of_mem_captured hcaptured hmem
  obtain ⟨earlier, later, hword⟩ := exists_take_of_mem htake hmem
  constructor
  · intro hkind
    exact ⟨isWord_of_accepts (.inl hkind) haccepts, beginsWithMonth_of_take hkind hword⟩
  · intro hkind
    exact isWord_of_accepts (.inr hkind) haccepts

/-- A layout with the names of the weekday and the month. -/
def nameLayout : List Char := "dddd, MMMM D YYYY".toList

/-- The tokens of the layout. -/
theorem compile_nameLayout : compile nameLayout =
    [.weekdayName, .literal [',', ' '], .monthName, .literal [' '], .day, .literal [' '],
      .year] := by
  cbv

/-- The day that the texts below are about. -/
def fifthOfMarch : Date := ⟨2021, 3, 5⟩

/-- Names in capitals and in short are words that are read as names. -/
theorem words_of_fields?_fifthOfMarch :
    ∃ fields captured, (compile nameLayout).fields? "fr, MAR 5 2021".toList = some fields ∧
      fields.instant?.map Instant.date = some fifthOfMarch ∧
      (compile nameLayout).captured? "fr, MAR 5 2021".toList = some captured ∧
      ∀ token word, (token, word) ∈ captured →
        (token.isMonthName → IsWord word ∧ BeginsWithMonth word) ∧
        (token.isWeekdayName → IsWord word) := by
  have hdate : ((compile nameLayout).read? "fr, MAR 5 2021".toList).map Instant.date =
      some fifthOfMarch := by
    rw [compile_nameLayout]
    decide +kernel
  obtain ⟨t, hread, ht⟩ := Option.map_eq_some_iff.1 hdate
  obtain ⟨fields, hfields, hinstant⟩ := exists_fields_of_read? hread
  obtain ⟨captured, hcaptured, hwords⟩ := words_of_fields? hfields
  exact ⟨fields, captured, hfields, by rw [hinstant, Option.map_some, ht], hcaptured, hwords⟩

/-- Words that are no names are read, too, if the month begins as one. -/
theorem not_isMonthWord_marvelous :
    ((compile nameLayout).read? "Blursday, Marvelous 5 2021".toList).map Instant.date =
        some fifthOfMarch ∧
      (compile nameLayout).captured? "Blursday, Marvelous 5 2021".toList =
        some [(.weekdayName, "Blursday".toList), (.monthName, "Marvelous".toList),
          (.day, "5".toList), (.year, "2021".toList)] ∧
      ¬IsMonthWord "Marvelous".toList ∧ ¬IsWeekdayWord "Blursday".toList := by
  rw [compile_nameLayout]
  refine ⟨?_, ?_, ?_, ?_⟩
  · decide +kernel
  · decide +kernel
  · decide +kernel
  · decide +kernel

end Layout
end Gleaner.Calendar
