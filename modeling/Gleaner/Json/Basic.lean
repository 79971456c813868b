import Gleaner.Number.Shortest

/-!
# JSON documents

Documents keep the order of the keys of their objects, and numbers keep apart integers and
literals with a point or an exponent.
-/

namespace Gleaner

/-- An entry of a list of pairs replaced in its place, or added at the end. -/
def putEntry {α : Type} (key : String) (value : α) :
    List (String × α) → List (String × α)
  | [] => [(key, value)]
  | (k, v) :: rest => if k = key then (key, value) :: rest else (k, v) :: putEntry key value rest

theorem keys_putEntry {α : Type} (key : String) (value : α) (entries : List (String × α)) :
    (putEntry key value entries).map (·.1) =
      if key ∈ entries.map (·.1) then entries.map (·.1) else entries.map (·.1) ++ [key] := by
  induction entries with
  | nil => simp [putEntry]
  | cons entry rest ih =>
    obtain ⟨k, v⟩ := entry
    by_cases h : k = key
    · simp [putEntry, h]
    · have h' : key ≠ k := fun e => h e.symm
      by_cases hm : key ∈ rest.map (·.1) <;> simp_all [putEntry]

theorem lookup_putEntry {α : Type} (key : String) (value : α) (entries : List (String × α))
    (k : String) :
    (putEntry key value entries).lookup k =
      if k = key then some value else entries.lookup k := by
  induction entries with
  | nil =>
    by_cases h : k = key
    · simp [putEntry, h]
    · simp [putEntry, List.lookup_cons, h, beq_eq_false_iff_ne.2 h]
  | cons entry rest ih =>
    obtain ⟨k', v⟩ := entry
    by_cases h : k' = key
    · subst h
      by_cases hk : k = k'
      · simp [putEntry, hk]
      · simp [putEntry, List.lookup_cons, hk, beq_eq_false_iff_ne.2 hk]
    · by_cases hk : k = k'
      · subst hk
        simp [putEntry, h]
      · simp [putEntry, h, List.lookup_cons, beq_eq_false_iff_ne.2 hk, ih]

/-- The entries of a list of pairs with each key once, at its first place with its last value. -/
def putAll {α : Type} (entries : List (String × α)) : List (String × α) :=
  entries.foldl (fun acc (key, value) => putEntry key value acc) []

/-- A number of a JSON document. -/
inductive Json.Number where
  /-- An integer literal. -/
  | integer (n : Int)
  /-- A literal with a point or an exponent, or one beyond the range of 64-bit words. -/
  | real (x : Double)
  deriving DecidableEq

/-- A JSON document. -/
inductive Json where
  | null
  | bool (b : Bool)
  | number (n : Json.Number)
  | string (s : String)
  | array (items : List Json)
  | object (fields : List (String × Json))

namespace Json

instance : Inhabited Json := ⟨null⟩

/-- The number as a double. -/
def Number.toDouble : Number → Double
  | .integer n => .ofInt n
  | .real x => x

/-- The value of a key of an object. -/
def get? (key : String) : Json → Option Json
  | .object fields => fields.lookup key
  | _ => none

/-- An integer as a document. -/
def ofInt (n : Int) : Json := .number (.integer n)

/-- A number with a fraction or an exponent as a document, null when it is not finite. -/
def ofReal (x : Double) : Json := if x.isFinite then .number (.real x) else .null

end Json
end Gleaner
