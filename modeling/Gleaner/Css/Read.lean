import Gleaner.Css.Basic
import Gleaner.Css.Token

/-!
# Reading selectors

A selector is read from its tokens. What is not closed at the end counts as closed there. Name
spaces other than any and none are unknown, and so are pseudo-elements.
-/

namespace Gleaner.Css

/-- Tokens without the white space in front. -/
def skipSpace : List Token → List Token
  | .space :: ts => skipSpace ts
  | ts => ts

/-- A text with the letters of ASCII in lower case. -/
def lower (s : String) : String := .ofList (s.toList.map Char.toLower)

/-- What follows the end of a block, if the tokens are at it. -/
def endBlock (closing : Char) (ts : List Token) : Option (List Token) :=
  match skipSpace ts with
  | [] => some []
  | .mark c :: rest => if c = closing then some rest else none
  | _ => none

/-- The condition on the name of an element that a compound begins with, if it has one. -/
def readName : List Token → Option (List Condition × List Token)
  | .ident _ :: .mark '|' :: _ => none
  | .ident name :: ts => some ([.named name], ts)
  | .mark '*' :: .mark '|' :: .mark '*' :: ts => some ([.any], ts)
  | .mark '*' :: .mark '|' :: .ident name :: ts => some ([.named name], ts)
  | .mark '*' :: .mark '|' :: _ => none
  | .mark '*' :: ts => some ([.any], ts)
  | .mark '|' :: .mark '*' :: ts => some ([.noSpace], ts)
  | .mark '|' :: .ident name :: ts => some ([.noSpace, .named name], ts)
  | .mark '|' :: _ => none
  | ts => some ([], ts)

/-- The name of an attribute: whether it may be in any name space, and the name itself. -/
def readAttrName : List Token → Option (Bool × String × List Token)
  | .ident _ :: .mark '|' :: _ => none
  | .ident name :: ts => some (false, name, ts)
  | .mark '*' :: .mark '|' :: .ident name :: ts => some (true, name, ts)
  | .mark '|' :: .ident name :: ts => some (false, name, ts)
  | _ => none

/-- The comparison that a token stands for. -/
def comparison? : Token → Option Comparison
  | .mark '=' => some .equals
  | .compare '~' => some .hasWord
  | .compare '|' => some .hasStem
  | .compare '^' => some .begins
  | .compare '$' => some .ends
  | .compare '*' => some .contains
  | _ => none

/-- Attributes of HTML whose values are compared without regard to case. -/
def foldedAttrs : List String :=
  ["accept", "accept-charset", "align", "alink", "axis", "bgcolor", "charset", "checked", "clear",
    "codetype", "color", "compact", "declare", "defer", "dir", "direction", "disabled", "enctype",
    "face", "frame", "hreflang", "http-equiv", "lang", "language", "link", "media", "method",
    "multiple", "nohref", "noresize", "noshade", "nowrap", "readonly", "rel", "rev", "rules",
    "scope", "scrolling", "selected", "shape", "target", "text", "type", "valign", "valuetype",
    "vlink"]

/-- The way in which case matters for an attribute, unless it is said. -/
def defaultCase (anySpace : Bool) (name : String) : CaseRule :=
  if !anySpace && foldedAttrs.contains (lower name) then .foldedInHtml else .exact

/-- The rest of a condition on an attribute after the text to compare with. -/
def readCase (anySpace : Bool) (name : String) (ts : List Token) :
    Option (CaseRule × List Token) :=
  match skipSpace ts with
  | .ident flag :: rest =>
    if lower flag = "i" then (endBlock ']' rest).map fun rest => (.folded, rest)
    else if lower flag = "s" then (endBlock ']' rest).map fun rest => (.exact, rest)
    else none
  | ts => (endBlock ']' ts).map fun rest => (defaultCase anySpace name, rest)

/-- A text to compare with. -/
def readText (ts : List Token) : Option (String × List Token) :=
  match skipSpace ts with
  | .ident text :: rest => some (text, rest)
  | .string text :: rest => some (text, rest)
  | _ => none

/-- A condition on an attribute after its opening bracket. -/
def readAttr (ts : List Token) : Option (Condition × List Token) := do
  let (anySpace, name, ts) ← readAttrName (skipSpace ts)
  match endBlock ']' ts with
  | some rest => return (.attr ⟨anySpace, name, none⟩, rest)
  | none =>
    match skipSpace ts with
    | token :: ts => do
      let comparison ← comparison? token
      let (text, ts) ← readText ts
      let (rule, rest) ← readCase anySpace name ts
      return (.attr ⟨anySpace, name, some (comparison, text, rule)⟩, rest)
    | [] => none

/-- The offset in a unit of the form `n-3`. -/
def dashDigits? (unit : String) : Option Int :=
  match unit.toList with
  | n :: '-' :: ds =>
    if (n = 'n' || n = 'N') && !ds.isEmpty && ds.all Char.isDigit then
      some (Token.clamp (-(Html.Reference.numberOf 10 Html.Reference.decDigit? ds : Nat)))
    else none
  | _ => none

/-- An offset without a sign, which comes after one. -/
def readUnsigned (step sign : Int) (ts : List Token) : Option (Int × Int × List Token) :=
  match skipSpace ts with
  | .integer n false :: rest => some (step, sign * n, rest)
  | _ => none

/-- An offset that may be missing. -/
def readOffset (step : Int) (ts : List Token) : Option (Int × Int × List Token) :=
  match skipSpace ts with
  | .mark '+' :: rest => readUnsigned step 1 rest
  | .mark '-' :: rest => readUnsigned step (-1) rest
  | .integer n true :: rest => some (step, n, rest)
  | _ => some (step, 0, ts)

/-- A step and an offset whose step is known, from its unit on. -/
def readUnit (step : Int) (unit : String) (ts : List Token) : Option (Int × Int × List Token) :=
  if lower unit = "n" then readOffset step ts
  else if lower unit = "n-" then readUnsigned step (-1) ts
  else (dashDigits? unit).map fun offset => (step, offset, ts)

/-- A step and an offset. -/
def readNth (ts : List Token) : Option (Int × Int × List Token) :=
  match skipSpace ts with
  | .integer n _ :: rest => some (0, n, rest)
  | .dimension step unit :: rest => readUnit step unit rest
  | .ident name :: rest =>
    if lower name = "even" then some (2, 0, rest)
    else if lower name = "odd" then some (2, 1, rest)
    else
      match name.toList with
      | '-' :: unit => readUnit (-1) (.ofList unit) rest
      | _ => readUnit 1 name rest
  | .mark '+' :: .ident name :: rest => readUnit 1 name rest
  | _ => none

/-- The conditions of a class of elements without an argument. -/
def pseudoClass? (name : String) : Option (List Condition) :=
  let nth (ofType fromEnd : Bool) : Condition := .nth ⟨0, 1, ofType, fromEnd⟩
  match lower name with
  | "root" => some [.root]
  | "empty" => some [.empty]
  | "scope" => some [.scope]
  | "first-child" => some [nth false false]
  | "last-child" => some [nth false true]
  | "only-child" => some [nth false false, nth false true]
  | "first-of-type" => some [nth true false]
  | "last-of-type" => some [nth true true]
  | "only-of-type" => some [nth true false, nth true true]
  | _ => none

/-- Whether a class of elements at a place counts only siblings of the same name, and whether from
the end. -/
def nthClass? (name : String) : Option (Bool × Bool) :=
  match lower name with
  | "nth-child" => some (false, false)
  | "nth-last-child" => some (false, true)
  | "nth-of-type" => some (true, false)
  | "nth-last-of-type" => some (true, true)
  | _ => none

/-- The combinator in front of the next compound, and whether there is white space in front of
what follows. -/
def readCombinator : Bool → List Token → Option (Combinator × List Token)
  | _, .space :: ts => readCombinator true ts
  | _, .mark '>' :: ts => some (.child, ts)
  | _, .mark '+' :: ts => some (.adjacent, ts)
  | _, .mark '~' :: ts => some (.later, ts)
  | _, [] => none
  | spaced, ts => if spaced then some (.descendant, ts) else none

/-- Whether tokens are at the end of a chain: of a whole selector, or of a nested one. -/
def atChainEnd (nested : Bool) : List Token → Bool
  | [] => true
  | .mark ',' :: _ => true
  | .mark ')' :: _ => nested
  | _ => false

mutual

/-- The conditions of a compound after the first, as far down as a depth. -/
def readConditions : (depth : Nat) → List Token → Option (List Condition × List Token)
  | 0, _ => none
  | depth + 1, ts =>
    let go (conditions : List Condition) (rest : List Token) :=
      (readConditions depth rest).map fun (more, rest) => (conditions ++ more, rest)
    match ts with
    | .hash name :: rest => go [.id name] rest
    | .mark '.' :: .ident name :: rest => go [.ofClass name] rest
    | .mark '.' :: _ => none
    | .mark '[' :: rest => (readAttr rest).bind fun (condition, rest) => go [condition] rest
    | .mark ':' :: .ident name :: rest =>
      (pseudoClass? name).bind fun conditions => go conditions rest
    | .mark ':' :: .function name :: rest =>
      match nthClass? name with
      | some (ofType, fromEnd) =>
        (readNth rest).bind fun (step, offset, rest) =>
          (endBlock ')' rest).bind fun rest => go [.nth ⟨step, offset, ofType, fromEnd⟩] rest
      | none =>
        if lower name = "not" then
          (readChains depth true rest).bind fun (chains, rest) =>
            (endBlock ')' rest).bind fun rest => go [.none chains] rest
        else none
    | .mark ':' :: _ => none
    | ts => some ([], ts)

/-- A compound: at least one condition. -/
def readCompound : (depth : Nat) → List Token → Option (List Condition × List Token)
  | 0, _ => none
  | depth + 1, ts =>
    (readName (skipSpace ts)).bind fun (named, rest) =>
      (readConditions depth rest).bind fun (more, rest) =>
        match named ++ more with
        | [] => none
        | conditions => some (conditions, rest)

/-- The rest of a chain after its first compounds. -/
def readChainFrom : (depth : Nat) → Chain → List Token → Option (Chain × List Token)
  | 0, _, _ => none
  | depth + 1, left, ts =>
    match readCombinator false ts with
    | none => some (left, skipSpace ts)
    | some (combinator, rest) =>
      if combinator = .descendant && atChainEnd true rest then some (left, rest)
      else
        (readCompound depth rest).bind fun (conditions, rest) =>
          readChainFrom depth (.joined left combinator conditions) rest

/-- Alternative chains up to the end of the selector, or of the nested one. -/
def readChains : (depth : Nat) → (nested : Bool) → List Token → Option (List Chain × List Token)
  | 0, _, _ => none
  | depth + 1, nested, ts =>
    (readCompound depth ts).bind fun (conditions, rest) =>
      (readChainFrom depth (.compound conditions) rest).bind fun (chain, rest) =>
        if !atChainEnd nested rest then none
        else
          match rest with
          | .mark ',' :: rest =>
            (readChains depth nested rest).map fun (chains, rest) => (chain :: chains, rest)
          | rest => some ([chain], rest)

end

/-- The selector that a text spells. Each step of the reading uses up a token or is one of two on
the way to such a step. -/
def Selector.read? (text : String) : Option Selector :=
  let ts := Token.ofText text
  match readChains (3 * ts.length + 3) false ts with
  | some (chains, []) => some chains
  | _ => none

end Gleaner.Css
