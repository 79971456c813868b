import Gleaner.Html.Token.Basic

/-!
# Reading tags

A tag is a name and attributes, each with or without a value, up to `>`. The values of attributes
may be quoted and may hold references. A tag that is not closed is no tag.
-/

namespace Gleaner.Html.Token

/-- Whether a character ends the name of a tag. -/
def endsName (c : Char) : Bool := isSpace c || c = '/' || c = '>'

/-- Whether a character ends the name of an attribute. -/
def endsAttrName (c : Char) : Bool := endsName c || c = '='

/-- A name that was read. -/
def nameOf (cs : List Char) : String := .ofList (cs.map lower)

/-- A value that was read. -/
def valueOf (cs : List Char) : String := .ofList ((Reference.decode true cs).map mend)

/-- The value of an attribute after its equals sign, and what follows it; nothing when a quote is
not closed. -/
def readValue (cs : List Char) : Option (String × List Char) :=
  let cs := cs.dropWhile isSpace
  let quotedBy (quote : Char) (rest : List Char) :=
    match rest.dropWhile (· ≠ quote) with
    | [] => none
    | _ :: after => some (valueOf (rest.takeWhile (· ≠ quote)), after)
  match cs with
  | '"' :: rest => quotedBy '"' rest
  | '\'' :: rest => quotedBy '\'' rest
  | cs =>
    let ends (c : Char) := isSpace c || c = '>'
    some (valueOf (cs.takeWhile (!ends ·)), cs.dropWhile (!ends ·))

/-- What follows a value is not longer than what it was read from. -/
theorem length_readValue {cs rest : List Char} {value : String}
    (h : readValue cs = some (value, rest)) : rest.length ≤ cs.length := by
  have hd : ∀ (p : Char → Bool) (ds : List Char), (ds.dropWhile p).length ≤ ds.length :=
    fun p ds => (List.dropWhile_suffix p).length_le
  have hquoted : ∀ (q : Char) (r : List Char),
      (match r.dropWhile (· ≠ q) with
        | [] => none
        | _ :: after => some (valueOf (r.takeWhile (· ≠ q)), after)) = some (value, rest) →
      rest.length ≤ r.length := by
    intro q r hq
    have := hd (· ≠ q) r
    split at hq
    · simp at hq
    · rename_i hcons
      rw [hcons] at this
      simp only [Option.some.injEq, Prod.mk.injEq] at hq
      rw [← hq.2]
      simp only [List.length_cons] at this
      omega
  have hcs := hd isSpace cs
  simp only [readValue] at h
  split at h
  · rename_i hcons
    have := hquoted _ _ h
    rw [hcons] at hcs
    simp only [List.length_cons] at hcs
    omega
  · rename_i hcons
    have := hquoted _ _ h
    rw [hcons] at hcs
    simp only [List.length_cons] at hcs
    omega
  · simp only [Option.some.injEq, Prod.mk.injEq] at h
    rw [← h.2]
    exact Nat.le_trans (hd _ _) hcs

/-- The rest of a tag after its name: its attributes, whether it ends with a slash, and what
follows it; nothing when it is not closed. -/
def readAttrs (cs : List Char) : Option (List (String × String) × Bool × List Char) :=
  match _h : cs.dropWhile isSpace with
  | [] => none
  | '>' :: rest => some ([], false, rest)
  | ['/'] => none
  | '/' :: '>' :: rest => some ([], true, rest)
  | '/' :: c :: rest => readAttrs (c :: rest)
  | c :: rest =>
    let name := nameOf (c :: rest.takeWhile (!endsAttrName ·))
    let after := rest.dropWhile (!endsAttrName ·)
    match _h' : after.dropWhile isSpace with
    | '=' :: written =>
      match _h'' : readValue written with
      | none => none
      | some (value, following) =>
        (readAttrs following).map fun (attrs, slash, rest) => ((name, value) :: attrs, slash, rest)
    | _ => (readAttrs after).map fun (attrs, slash, rest) => ((name, "") :: attrs, slash, rest)
termination_by cs.length
decreasing_by
  all_goals
    have hcs : (cs.dropWhile isSpace).length ≤ cs.length := (List.dropWhile_suffix _).length_le
    rw [_h] at hcs
    simp only [List.length_cons] at hcs
  · simp only [List.length_cons]
    omega
  · have h₁ := length_readValue _h''
    have h₂ : (after.dropWhile isSpace).length ≤ after.length :=
      (List.dropWhile_suffix _).length_le
    rw [_h'] at h₂
    have h₃ : after.length ≤ rest.length := (List.dropWhile_suffix _).length_le
    simp only [List.length_cons] at h₂
    omega
  · have h₃ : (rest.dropWhile (!endsAttrName ·)).length ≤ rest.length :=
      (List.dropWhile_suffix _).length_le
    omega

/-- Attributes without those that have the name of an earlier one. -/
def firstOfEach (attrs : List (String × String)) : List (String × String) :=
  attrs.foldl (fun kept a => if kept.any (·.1 = a.1) then kept else kept ++ [a]) []

/-- A tag from its name on, and what follows it; nothing when it is not closed. -/
def readTag (cs : List Char) : Option (Tag × List Char) :=
  (readAttrs (cs.dropWhile (!endsName ·))).map fun (attrs, slash, rest) =>
    (⟨nameOf (cs.takeWhile (!endsName ·)), firstOfEach attrs, slash⟩, rest)

end Gleaner.Html.Token
