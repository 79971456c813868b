import Gleaner.Error
import Gleaner.Text.Quoted
import Gleaner.Value.Basic

/-!
# Registries of transforms

A registry gives each name at most one transform; registering a name again replaces it.
-/

namespace Gleaner

/-- A transform: it receives the value and the arguments of its spec. -/
abbrev TransformFn := Value → List Value → Except TransformError Value

/-- Transforms by name. -/
structure Registry where
  /-- The transforms, each name once. -/
  entries : List (String × TransformFn)

namespace Registry

/-- The registry without transforms. -/
def empty : Registry := ⟨[]⟩

instance : Inhabited Registry := ⟨empty⟩

/-- The registry with a transform under a name. -/
def register (r : Registry) (name : String) (f : TransformFn) : Registry :=
  ⟨putEntry name f r.entries⟩

/-- The transform of a name. -/
def get? (r : Registry) (name : String) : Option TransformFn := r.entries.lookup name

/-- Whether a name has a transform. -/
def contains (r : Registry) (name : String) : Bool := (r.get? name).isSome

/-- A registry with the entries of another, which win on names of both. -/
def extend (r other : Registry) : Registry :=
  other.entries.foldl (fun acc (name, f) => acc.register name f) r

/-- The registry of a list of names and transforms, a later one winning. -/
def ofList (entries : List (String × TransformFn)) : Registry :=
  entries.foldl (fun acc (name, f) => acc.register name f) empty

/-- The number of names. -/
def size (r : Registry) : Nat := r.entries.length

/-- Whether there are no transforms. -/
def isEmpty (r : Registry) : Bool := r.entries.isEmpty

/-- The names. -/
def names (r : Registry) : List String := r.entries.map (·.1)

/-- The names in order of their characters, as text. -/
def describe (r : Registry) : String :=
  let names := r.names.mergeSort fun a b => a ≤ b
  "TransformRegistry \x7b names: [" ++ ", ".intercalate (names.map quoteText) ++ "] \x7d"

theorem get?_register (r : Registry) (name : String) (f : TransformFn) (k : String) :
    (r.register name f).get? k = if k = name then some f else r.get? k :=
  lookup_putEntry name f r.entries k

end Registry

/-- The registries of an extractor. -/
structure Registries where
  /-- For single values. -/
  transforms : Registry
  /-- For the results of list selectors. -/
  arrTransforms : Registry
  /-- For objects. -/
  objTransforms : Registry

end Gleaner
