import Gleaner.Yaml.Scan

/-!
# Reading YAML

Tokens are read as trees. An anchor has the number of the names known before it, which it shares
with the next new name where its own name is not new; an alias stands for the tree that is the last
one to begin under its number.
-/

namespace Gleaner

/-- A tree of a YAML document. -/
inductive Yaml where
  /-- A scalar. -/
  | scalar (text : String) (style : Yaml.Style) (tag : Option String)
  /-- A list. -/
  | list (items : List Yaml) (tag : Option String)
  /-- Keys with their values, in order. -/
  | record (entries : List (Yaml × Yaml)) (tag : Option String)
  /-- The tree with the number of an anchor. -/
  | alias (number : Nat)

namespace Yaml

/-- What is left out where a node could stand. -/
def missing : Yaml := .scalar "" .plain none

/-- A tree under an anchor. -/
structure Anchored where
  /-- The number of the anchor. -/
  number : Nat
  /-- The number of anchored trees that begin before it. -/
  position : Nat
  /-- The tree. -/
  tree : Yaml

/-- A tree with those that its aliases stand for. -/
structure Graph where
  /-- The tree. -/
  root : Yaml
  /-- The trees by the numbers of their anchors, the last one to begin first. -/
  anchored : List (Nat × Yaml)

/-- The tokens that are left, with what the tokens before them define. -/
structure Reading where
  /-- The tokens. -/
  rest : List Token
  /-- The names of anchors with their numbers. -/
  names : List (String × Nat) := []
  /-- How many anchored trees have begun. -/
  begun : Nat := 0
  /-- The anchored trees that are complete. -/
  anchored : List Anchored := []
  /-- The prefixes of the handles of tags. -/
  handles : List (String × String) := [("!", "!"), ("!!", "tag:yaml.org,2002:")]

namespace Reading

/-- The reading after a token. -/
def skip (r : Reading) : Reading := { r with rest := r.rest.tail }

/-- Whether a token comes next. -/
def atToken (r : Reading) (token : Token) : Bool := r.rest.head? = some token

/-- Whether one of some tokens comes next. -/
def atAny (r : Reading) (tokens : List Token) : Bool := tokens.any r.atToken

/-- The reading after a token that has to come next. -/
def expect (r : Reading) (token : Token) : Option Reading :=
  if r.atToken token then some r.skip else none

/-- The tag that a handle and a suffix stand for. -/
def resolve (r : Reading) (handle suffix : String) : Option String :=
  if handle.isEmpty then some suffix else (r.handles.lookup handle).map (· ++ suffix)

/-- The anchor and the tag before a node, in either order. -/
def properties (r : Reading) : Option (Option String × Option String × Reading) :=
  match r.rest with
  | .anchor name :: .tag handle suffix :: rest =>
    (r.resolve handle suffix).map fun tag => (some name, some tag, { r with rest })
  | .tag handle suffix :: .anchor name :: rest =>
    (r.resolve handle suffix).map fun tag => (some name, some tag, { r with rest })
  | .anchor name :: rest => some (some name, none, { r with rest })
  | .tag handle suffix :: rest =>
    (r.resolve handle suffix).map fun tag => (none, some tag, { r with rest })
  | _ => some (none, none, r)

/-- The reading after an anchor of a tree that begins. -/
def mark (r : Reading) (name : String) : Reading :=
  { r with
    names := (name, r.names.length) :: r.names.filter (·.1 ≠ name)
    begun := r.begun + 1 }

/-- The reading with the tree that began under the next anchor of an earlier reading. -/
def complete (r earlier : Reading) (tree : Yaml) : Reading :=
  { r with anchored := ⟨earlier.names.length, earlier.begun, tree⟩ :: r.anchored }

/-- A tree with the anchored trees of the reading. -/
def graph (r : Reading) (root : Yaml) : Graph :=
  let last := r.anchored.mergeSort fun s t => decide (t.position ≤ s.position)
  ⟨root, last.map fun s => (s.number, s.tree)⟩

end Reading

/-- The tag that counts for a scalar. -/
def scalarTag (tag : Option String) : Option String := tag.filter (· ≠ "!")

mutual

/-- A node. Indented collections can be read inside of no brackets only; where a key or a value is
read, the items of a list need no indentation. -/
def readNode (block bare : Bool) : (fuel : Nat) → Reading → Option (Yaml × Reading)
  | 0, _ => none
  | fuel + 1, r =>
    match r.rest with
    | .alias name :: _ => (r.names.lookup name).map fun number => (.alias number, r.skip)
    | _ =>
      match r.properties with
      | none => none
      | some (none, tag, r) => readContent block bare tag.isSome tag fuel r
      | some (some name, tag, r) =>
        (readContent block bare true tag fuel (r.mark name)).map fun (tree, later) =>
          (tree, later.complete r tree)

/-- A node after its anchor and its tag. -/
def readContent (block bare marked : Bool) (tag : Option String) :
    (fuel : Nat) → Reading → Option (Yaml × Reading)
  | 0, _ => none
  | fuel + 1, r =>
    let list (found : Option (List Yaml × Reading)) : Option (Yaml × Reading) :=
      found.map fun (items, r) => (.list items tag, r)
    let record (found : Option (List (Yaml × Yaml) × Reading)) : Option (Yaml × Reading) :=
      found.map fun (entries, r) => (.record entries tag, r)
    let otherwise : Option (Yaml × Reading) :=
      if marked then some (.scalar "" .plain tag, r) else none
    match r.rest with
    | .item :: _ => if bare then list (readBareItems fuel r) else otherwise
    | .scalar text style :: _ => some (.scalar text style (scalarTag tag), r.skip)
    | .openList :: _ => list (readFlowItems true fuel r.skip)
    | .openRecord :: _ => record (readFlowEntries true fuel r.skip)
    | .listStart :: _ => if block then list (readItems fuel r.skip) else otherwise
    | .recordStart :: _ => if block then record (readEntries fuel r.skip) else otherwise
    | _ => otherwise

/-- The items of an indented list. -/
def readItems : (fuel : Nat) → Reading → Option (List Yaml × Reading)
  | 0, _ => none
  | fuel + 1, r =>
    if r.atToken .blockEnd then some ([], r.skip)
    else
      match r.expect .item with
      | none => none
      | some r =>
        match readUnless [.item, .blockEnd] true false fuel r with
        | none => none
        | some (item, r) => (readItems fuel r).map fun (items, r) => (item :: items, r)

/-- The items of a list without indentation of its own. -/
def readBareItems : (fuel : Nat) → Reading → Option (List Yaml × Reading)
  | 0, _ => none
  | fuel + 1, r =>
    if !r.atToken .item then some ([], r)
    else
      match readUnless [.item, .key, .value, .blockEnd] true false fuel r.skip with
      | none => none
      | some (item, r) => (readBareItems fuel r).map fun (items, r) => (item :: items, r)

/-- The entries of an indented record. -/
def readEntries : (fuel : Nat) → Reading → Option (List (Yaml × Yaml) × Reading)
  | 0, _ => none
  | fuel + 1, r =>
    if r.atToken .blockEnd then some ([], r.skip)
    else
      match r.expect .key with
      | none => none
      | some r =>
        match readUnless [.key, .value, .blockEnd] true true fuel r with
        | none => none
        | some (key, r) =>
          match readValue [.key, .value, .blockEnd] true true fuel r with
          | none => none
          | some (value, r) =>
            (readEntries fuel r).map fun (entries, r) => ((key, value) :: entries, r)

/-- The items of a list in brackets up to its end. All but the first follow a comma. -/
def readFlowItems (isFirst : Bool) : (fuel : Nat) → Reading → Option (List Yaml × Reading)
  | 0, _ => none
  | fuel + 1, r =>
    if r.atToken .closeList then some ([], r.skip)
    else
      match if isFirst then some r else r.expect .comma with
      | none => none
      | some r =>
        if r.atToken .closeList then some ([], r.skip)
        else
          let item? :=
            if r.atToken .key then readPair fuel r.skip else readNode false false fuel r
          match item? with
          | none => none
          | some (item, r) =>
            (readFlowItems false fuel r).map fun (items, r) => (item :: items, r)

/-- An entry among the items of a list in brackets, as a record. Where its key is left out, so is
the token that follows. -/
def readPair : (fuel : Nat) → Reading → Option (Yaml × Reading)
  | 0, _ => none
  | fuel + 1, r =>
    let key? :=
      if r.atAny [.value, .comma, .closeList] then some (missing, r.skip)
      else readNode false false fuel r
    match key? with
    | none => none
    | some (key, r) =>
      (readValue [.comma, .closeList] false false fuel r).map fun (value, r) =>
        (.record [(key, value)] none, r)

/-- The entries of a record in braces up to its end. All but the first follow a comma. -/
def readFlowEntries (isFirst : Bool) :
    (fuel : Nat) → Reading → Option (List (Yaml × Yaml) × Reading)
  | 0, _ => none
  | fuel + 1, r =>
    if r.atToken .closeRecord then some ([], r.skip)
    else
      match if isFirst then some r else r.expect .comma with
      | none => none
      | some r =>
        if r.atToken .closeRecord then some ([], r.skip)
        else
          let entry? :=
            if r.atToken .key then
              match readUnless [.value, .comma, .closeRecord] false false fuel r.skip with
              | none => none
              | some (key, r) =>
                (readValue [.comma, .closeRecord] false false fuel r).map fun (value, r) =>
                  ((key, value), r)
            else (readNode false false fuel r).map fun (key, r) => ((key, missing), r)
          match entry? with
          | none => none
          | some (entry, r) =>
            (readFlowEntries false fuel r).map fun (entries, r) => (entry :: entries, r)

/-- A node, unless one of some tokens comes next. -/
def readUnless (stops : List Token) (block bare : Bool) :
    (fuel : Nat) → Reading → Option (Yaml × Reading)
  | 0, _ => none
  | fuel + 1, r =>
    if r.atAny stops then some (missing, r) else readNode block bare fuel r

/-- The value of an entry, which may be left out with its mark or without it. -/
def readValue (stops : List Token) (block bare : Bool) :
    (fuel : Nat) → Reading → Option (Yaml × Reading)
  | 0, _ => none
  | fuel + 1, r =>
    if r.atToken .value then readUnless stops block bare fuel r.skip else some (missing, r)

end

/-- The directives before a document. The version is given at most once, as is each handle. -/
def readDirectives (versioned : Bool) (named : List String) :
    (fuel : Nat) → Reading → Option Reading
  | 0, _ => none
  | fuel + 1, r =>
    match r.rest with
    | .version major minor :: _ =>
      if versioned || major ≠ 1 || (minor ≠ 1 && minor ≠ 2) then none
      else readDirectives true named fuel r.skip
    | .handle name pre :: _ =>
      if named.contains name then none
      else
        readDirectives versioned (name :: named) fuel
          { r.skip with handles := (name, pre) :: r.handles }
    | _ => some r

/-- Whether a token is a directive. -/
def isDirective : Token → Bool
  | .version _ _ => true
  | .handle _ _ => true
  | _ => false

/-- The tree of tokens that are those of one document or of none. -/
def readDocument (tokens : List Token) : Option (Option Graph) :=
  let fuel := 8 * tokens.length + 8
  let content? : Option (Option Yaml × Reading) :=
    match tokens with
    | [] => some (none, { rest := [] })
    | first :: _ =>
      if first = .documentStart || isDirective first then
        match (readDirectives false [] fuel { rest := tokens }).bind (·.expect .documentStart) with
        | none => none
        | some r =>
          if r.rest.isEmpty || r.atAny [.documentStart, .documentEnd] ||
              r.rest.head?.any isDirective then
            some (some missing, r)
          else (readNode true false fuel r).map fun (tree, r) => (some tree, r)
      else (readNode true false fuel { rest := tokens }).map fun (tree, r) => (some tree, r)
  match content? with
  | none => none
  | some (tree, r) => if r.rest.all (· = .documentEnd) then some (tree.map r.graph) else none

/-- The tree of a source that is one document; nothing in it when the source is blank. -/
def read? (source : String) : Option (Option Graph) :=
  (tokens? source.toList).bind readDocument

end Yaml
end Gleaner
