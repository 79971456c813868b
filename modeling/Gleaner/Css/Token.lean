import Gleaner.Html.Reference

/-!
# Tokens of style sheets

What a selector is written with: names, numbers, strings, marks and white space. Comments do not
count. Every text can be read as tokens.
-/

namespace Gleaner.Css

open Html.Reference (hexDigit? decDigit? numberOf replacement)

/-- A piece of a style sheet, as far as selectors need it. -/
inductive Token where
  /-- A name. -/
  | ident (name : String)
  /-- A name with an opening parenthesis. -/
  | function (name : String)
  /-- A name after a number sign. -/
  | hash (name : String)
  /-- A quoted text. -/
  | string (text : String)
  /-- An integer, and whether it has a sign. -/
  | integer (value : Int) (signed : Bool)
  /-- An integer with a unit. -/
  | dimension (value : Int) (unit : String)
  /-- White space. -/
  | space
  /-- A mark. -/
  | mark (c : Char)
  /-- A mark with an equals sign. -/
  | compare (c : Char)
  /-- What is no part of a selector. -/
  | other
  deriving DecidableEq, Repr

namespace Token

/-- Whether a character is white space. -/
def isSpace (c : Char) : Bool :=
  c = ' ' || c = '\t' || c = '\n' || c = '\r' || c = '\x0c'

/-- Whether a character ends a line. -/
def isNewline (c : Char) : Bool := c = '\n' || c = '\r' || c = '\x0c'

/-- Whether a character can begin a name. -/
def isNameStart (c : Char) : Bool :=
  c.isAlpha || c = '_' || c = '\x00' || 0x80 ≤ c.toNat

/-- Whether a character can be in a name. -/
def isNameChar (c : Char) : Bool := isNameStart c || c.isDigit || c = '-'

/-- Whether a text begins with a newline. -/
def atNewline : List Char → Bool
  | c :: _ => isNewline c
  | [] => false

/-- Whether a text begins with a name. -/
def atName : List Char → Bool
  | '-' :: '\\' :: _ => true
  | '-' :: c :: _ => isNameStart c || c = '-'
  | '\\' :: cs => !atNewline cs
  | c :: _ => isNameStart c
  | [] => false

/-- Whether a text begins with a digit. -/
def atDigit : List Char → Bool
  | c :: _ => c.isDigit
  | [] => false

/-- Whether a text begins with a number without a sign. -/
def atUnsigned : List Char → Bool
  | '.' :: cs => atDigit cs
  | cs => atDigit cs

/-- A null character replaced. -/
def mend (c : Char) : Char := if c = '\x00' then replacement else c

/-- The character of a code, if it is one. -/
def ofCode (n : Nat) : Char := if n = 0 ∨ !n.isValidChar then replacement else Char.ofNat n

/-- A text without the white space that ends a code. -/
def dropEnd : List Char → List Char
  | '\r' :: '\n' :: cs => cs
  | c :: cs => if isSpace c then cs else c :: cs
  | [] => []

/-- The character that is written after a backslash, and what follows it. -/
def readEscape : List Char → Char × List Char
  | [] => (replacement, [])
  | c :: cs =>
    if (hexDigit? c).isSome then
      let ds := ((c :: cs).take 6).takeWhile fun d => (hexDigit? d).isSome
      (ofCode (numberOf 16 hexDigit? ds), dropEnd ((c :: cs).drop ds.length))
    else (mend c, cs)

/-- A name, as many of its characters as a limit, and what follows it. -/
def readName : (limit : Nat) → List Char → List Char × List Char
  | 0, cs => ([], cs)
  | _, [] => ([], [])
  | limit + 1, c :: cs =>
    if isNameChar c then
      let (name, rest) := readName limit cs
      (mend c :: name, rest)
    else if c = '\\' && !atNewline cs then
      let (escaped, cs) := readEscape cs
      let (name, rest) := readName limit cs
      (escaped :: name, rest)
    else ([], c :: cs)

/-- A name and what follows it. -/
def nameFrom (cs : List Char) : String × List Char :=
  let (name, rest) := readName cs.length cs
  (.ofList name, rest)

/-- A quoted text up to its quote, as many of its characters as a limit, and what follows it. A
line ends it too soon; the end of the whole text does not. -/
def readString (quote : Char) : (limit : Nat) → List Char → Option (List Char) × List Char
  | 0, cs => (some [], cs)
  | _, [] => (some [], [])
  | limit + 1, c :: cs =>
    if c = quote then (some [], cs)
    else if isNewline c then (none, c :: cs)
    else if c = '\\' then
      match cs with
      | [] => (some [], [])
      | '\r' :: '\n' :: rest => readString quote limit rest
      | d :: rest =>
        if isNewline d then readString quote limit rest
        else
          let (escaped, rest) := readEscape (d :: rest)
          let (text?, rest) := readString quote limit rest
          (text?.map (escaped :: ·), rest)
    else
      let (text?, rest) := readString quote limit cs
      (text?.map (mend c :: ·), rest)

/-- An integer of limited size. -/
def clamp (n : Int) : Int := max (-2147483648) (min 2147483647 n)

/-- The exponent that a text begins with left out, and whether there was one. -/
def dropExponent : List Char → Bool × List Char
  | e :: cs =>
    if e = 'e' || e = 'E' then
      match cs with
      | sign :: rest =>
        if sign.isDigit then (true, cs.dropWhile Char.isDigit)
        else if (sign = '+' || sign = '-') && atDigit rest then
          (true, rest.dropWhile Char.isDigit)
        else (false, e :: cs)
      | [] => (false, e :: cs)
    else (false, e :: cs)
  | [] => (false, [])

/-- A number without a sign, which is negative or not: the integer that it is, if it is one, and
what follows it. -/
def readNumber (negative : Bool) (cs : List Char) : Option Int × List Char :=
  let whole := cs.takeWhile Char.isDigit
  let rest := cs.dropWhile Char.isDigit
  let (isFraction, rest) :=
    match rest with
    | '.' :: more => if atDigit more then (true, more.dropWhile Char.isDigit) else (false, rest)
    | rest => (false, rest)
  let (isScaled, rest) := dropExponent rest
  let n : Int := numberOf 10 decDigit? whole
  (if isFraction || isScaled then none else some (clamp (if negative then -n else n)), rest)

/-- The token of a number without its sign, and what follows it. -/
def numeric (negative signed : Bool) (cs : List Char) : Token × List Char :=
  let (n?, rest) := readNumber negative cs
  match rest with
  | '%' :: rest => (.other, rest)
  | rest =>
    if atName rest then
      let (unit, rest) := nameFrom rest
      (match n? with
        | some n => .dimension n unit
        | none => .other, rest)
    else
      (match n? with
        | some n => .integer n signed
        | none => .other, rest)

/-- What follows a comment. -/
def skipComment : List Char → List Char
  | '*' :: '/' :: cs => cs
  | _ :: cs => skipComment cs
  | [] => []

/-- The token of a name, and what follows it. -/
def named (cs : List Char) : Token × List Char :=
  match nameFrom cs with
  | (name, '(' :: rest) => (.function name, rest)
  | (name, rest) => (.ident name, rest)

/-- The token of a string after its quote, and what follows it. -/
def quoted (quote : Char) (cs : List Char) : Token × List Char :=
  match readString quote (cs.length + 1) cs with
  | (some text, rest) => (.string (.ofList text), rest)
  | (none, rest) => (.other, rest)

/-- The token of a mark, which may have an equals sign after it, and what follows it. -/
def comparing (c : Char) : List Char → Token × List Char
  | '=' :: cs => (.compare c, cs)
  | cs => (.mark c, cs)

/-- The token that a text begins with a character of, and what follows it. -/
def read (c : Char) (cs : List Char) : Token × List Char :=
  if isSpace c then (.space, cs.dropWhile isSpace)
  else if c = '"' || c = '\'' then quoted c cs
  else if c = '#' then
    if atName cs then
      let (name, rest) := nameFrom cs
      (.hash name, rest)
    else (.other, cs)
  else if atUnsigned (c :: cs) then numeric false false (c :: cs)
  else if (c = '+' || c = '-') && atUnsigned cs then numeric (c = '-') true cs
  else if c = '-' && cs.take 2 = ['-', '>'] then (.other, cs.drop 2)
  else if atName (c :: cs) then named (c :: cs)
  else if ['$', '*', '^', '|', '~'].contains c then comparing c cs
  else (.mark c, cs)

/-- The tokens of a text, as many as a limit. -/
def scan : (limit : Nat) → List Char → List Token
  | 0, _ => []
  | _, [] => []
  | limit + 1, '/' :: '*' :: cs => scan limit (skipComment cs)
  | limit + 1, c :: cs =>
    let (token, rest) := read c cs
    token :: scan limit rest

/-- The tokens of a text. Each is made of at least one character. -/
def ofText (text : String) : List Token :=
  let cs := text.toList
  scan cs.length cs

end Token
end Gleaner.Css
