import Gleaner.Html.Token.Tag

/-!
# Reading document types

A document type has a name and may have a public and a system identifier in quotes. Every text up
to `>` is read as one, however malformed.
-/

namespace Gleaner.Html.Token

/-- What follows a declaration. -/
def skipDeclaration (cs : List Char) : List Char := (cs.dropWhile (· ≠ '>')).drop 1

/-- A malformed document type, and what follows it. -/
def malformed (d : Doctype) (rest : List Char) : Doctype × List Char :=
  ({ d with malformed := true }, rest)

/-- A quoted identifier, put into a document type, and the rest of the declaration. -/
def readId (put : String → Doctype) (next : Doctype → List Char → Doctype × List Char)
    (quote : Char) (cs : List Char) : Doctype × List Char :=
  let inside (c : Char) := c ≠ quote && c ≠ '>'
  let d := put (.ofList ((cs.takeWhile inside).map mend))
  match cs.dropWhile inside with
  | [] => malformed d []
  | c :: rest => if c = quote then next d rest else malformed d rest

/-- The rest of a declaration after both identifiers. -/
def afterSystemId (d : Doctype) (cs : List Char) : Doctype × List Char :=
  match cs.dropWhile isSpace with
  | [] => malformed d []
  | '>' :: rest => (d, rest)
  | rest => (d, skipDeclaration rest)

/-- The rest of a declaration at the quote of the system identifier. -/
def readSystemId (d : Doctype) : Char → List Char → Doctype × List Char :=
  readId (fun id => { d with systemId := some id }) afterSystemId

/-- The rest of a declaration after the public identifier. -/
def afterPublicId (d : Doctype) (cs : List Char) : Doctype × List Char :=
  match cs.dropWhile isSpace with
  | [] => malformed d []
  | '>' :: rest => (d, rest)
  | '"' :: rest => readSystemId d '"' rest
  | '\'' :: rest => readSystemId d '\'' rest
  | rest => malformed d (skipDeclaration rest)

/-- The rest of a declaration at the quote of the public identifier. -/
def readPublicId (d : Doctype) : Char → List Char → Doctype × List Char :=
  readId (fun id => { d with publicId := some id }) afterPublicId

/-- The rest of a declaration where an identifier must follow. -/
def expectId (read : Char → List Char → Doctype × List Char) (d : Doctype) (cs : List Char) :
    Doctype × List Char :=
  match cs.dropWhile isSpace with
  | [] => malformed d []
  | '>' :: rest => malformed d rest
  | '"' :: rest => read '"' rest
  | '\'' :: rest => read '\'' rest
  | rest => malformed d (skipDeclaration rest)

/-- The rest of a declaration after the name. -/
def afterDoctypeName (d : Doctype) (cs : List Char) : Doctype × List Char :=
  match cs.dropWhile isSpace with
  | [] => malformed d []
  | '>' :: rest => (d, rest)
  | rest =>
    if beginsWith "public" rest then expectId (readPublicId d) d (rest.drop 6)
    else if beginsWith "system" rest then expectId (readSystemId d) d (rest.drop 6)
    else malformed d (skipDeclaration rest)

/-- The document type of a declaration after its keyword, and what follows it. -/
def readDoctype (cs : List Char) : Doctype × List Char :=
  match cs.dropWhile isSpace with
  | [] => malformed {} []
  | '>' :: rest => malformed {} rest
  | named =>
    let inName (c : Char) := !isSpace c && c ≠ '>'
    afterDoctypeName { name := some (nameOf (named.takeWhile inName)) } (named.dropWhile inName)

end Gleaner.Html.Token
