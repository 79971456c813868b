import Gleaner.Document
import Gleaner.Error
import Gleaner.Schema.Basic
import Gleaner.Unicode.Case

/-!
# Resolvers

A resolver claims some schemas and resolves them at a node. The shipped ones go by kind; others
can be put beside them.
-/

namespace Gleaner

/-- The shipped resolvers. -/
inductive ResolverKind where
  /-- Objects. -/
  | object
  /-- Numbers. -/
  | number
  /-- Booleans. -/
  | boolean
  /-- Dates. -/
  | date
  /-- Values declared to be texts. -/
  | string
  /-- Texts, declared or not. -/
  | default
  deriving DecidableEq, Repr

namespace ResolverKind

/-- All kinds. -/
def all : List ResolverKind := [object, number, boolean, date, string, default]

/-- The name of a kind. -/
def name : ResolverKind → String
  | object => "object"
  | number => "number"
  | boolean => "boolean"
  | date => "date"
  | string => "string"
  | default => "default"

/-- The kind with a name, whatever its case and the blanks around it. -/
def ofName? (s : String) : Option ResolverKind :=
  let bare := Unicode.lower (trim s.toList)
  all.find? fun kind => kind.name.toList = bare

/-- The kind with a name, or the error that there is none. -/
def ofName (s : String) : Except SetupError ResolverKind :=
  match ofName? s with
  | some kind => .ok kind
  | none => .error (.unknownResolver s)

/-- Whether a resolver of the kind claims values of a type. -/
def claimsKind : ResolverKind → ValueKind → Bool
  | number, .number _ => true
  | boolean, .boolean _ => true
  | date, .date _ => true
  | string, .text _ => true
  | default, .text _ => true
  | default, .implicit _ => true
  | _, _ => false

/-- Whether a resolver of the kind claims a schema. -/
def claims (kind : ResolverKind) : Schema → Bool
  | .value _ valueKind _ => kind.claimsKind valueKind
  | .object _ _ _ enabled => kind = object && enabled

end ResolverKind

/-- A resolver of documents with these nodes. -/
inductive Resolver (Node : Type) where
  /-- A shipped resolver. -/
  | shipped (kind : ResolverKind)
  /-- A resolver of its own: its name, the schemas that it claims, and how it resolves a schema
  at a path of the result and a node. -/
  | custom (name : String) (claims : Schema → Bool)
      (resolve : String → Node → Schema → Except ResolveError Value)

namespace Resolver

variable {Node : Type}

/-- The name. -/
def name : Resolver Node → String
  | shipped kind => kind.name
  | custom name _ _ => name

/-- Whether the resolver resolves objects through others. -/
def isObject : Resolver Node → Bool
  | shipped .object => true
  | _ => false

/-- Whether the resolver claims a schema. -/
def claims : Resolver Node → Schema → Bool
  | shipped kind => kind.claims
  | custom _ claims _ => claims

end Resolver

/-- Resolvers in the order in which they are asked, with their registries and the language of
their documents. -/
structure Extractor (Node : Type) where
  /-- The documents. -/
  model : DocumentModel Node
  /-- The resolvers. -/
  resolvers : List (Resolver Node)
  /-- The registries. -/
  registries : Registries

/-- The first resolver that claims a schema. -/
def Extractor.dispatch {Node : Type} (x : Extractor Node) (schema : Schema) :
    Option (Resolver Node) :=
  x.resolvers.find? (·.claims schema)

end Gleaner
