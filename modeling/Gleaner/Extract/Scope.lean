import Gleaner.Extract.Resolver
import Gleaner.Selector

/-!
# Scopes

Where a schema is resolved: at a node itself, at the first match of a query, at every match, or at
the parents of the matches of its selector.
-/

namespace Gleaner

variable {Node : Type}

/-- The results of a list of computations, or the first error. -/
def collect {α : Type} (f : α → Except ResolveError Value) :
    List α → Except ResolveError (List Value)
  | [] => .ok []
  | x :: rest =>
    match f x with
    | .error e => .error e
    | .ok v =>
      match collect f rest with
      | .ok vs => .ok (v :: vs)
      | .error e => .error e

/-- The query of a selector string, if it has one that is not empty. -/
def queryOf (raw : String) : Option String := (Selector.ofText raw).query

/-- Whether a schema asks for a value by a selector without a query. -/
def Schema.lacksQuery : Schema → Bool
  | .value selector _ _ => (selector.active.bind queryOf).isNone
  | .object .. => false

/-- The scopes that a schema without a query for them is resolved at: the parents of the matches
of its selector. -/
def autoScope (m : DocumentModel Node) (node : Node) :
    Schema → Except ResolveError (List Node)
  | .object .. => .error (.invalidAutoScope "an object selector")
  | .value selector _ _ =>
    match selector.active.bind queryOf with
    | none => .error .emptySelector
    | some query =>
      match m.findAll node query with
      | some found => .ok (m.parentsOf found)
      | none => .error (.invalidQuery query)

/-- The results at each of a list of nodes as an array, nulls left out. -/
def resolveEach (resolveAt : Node → Except ResolveError Value) (nodes : List Node) :
    Except ResolveError Value :=
  match collect resolveAt nodes with
  | .ok results => .ok (.array (results.filter (!·.isNull)))
  | .error e => .error e

/-- The result of a schema at the nodes of its scope, given its result at one node. A selector
without a query is an error wherever the scope leads; without a node there is no result. -/
def resolveScoped (m : DocumentModel Node) (resolveAt : Node → Except ResolveError Value)
    (node? : Option Node) (schema : Schema) : Except ResolveError Value :=
  if schema.lacksQuery then .error .emptySelector
  else
    match node? with
    | none => .ok .null
    | some node =>
      match schema.options.scope with
      | none => resolveAt node
      | some (.first query) =>
        if query.isEmpty then resolveAt node
        else
          match m.findFirst node query with
          | none => .error (.invalidQuery query)
          | some none => .ok .null
          | some (some target) => resolveAt target
      | some (.all queries) =>
        match queries.head?.filter (!·.isEmpty) with
        | some query =>
          match m.findAll node query with
          | some nodes => resolveEach resolveAt nodes
          | none => .error (.invalidQuery query)
        | none =>
          match autoScope m node schema with
          | .ok nodes => resolveEach resolveAt nodes
          | .error e => .error e

end Gleaner
