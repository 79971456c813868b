/-!
# Errors

What can go wrong while a document is resolved, an extractor is assembled or a schema is read,
each with its message.
-/

namespace Gleaner

/-- Why a transform failed. -/
inductive TransformError.Reason where
  /-- A reason in words. -/
  | text (reason : String)
  /-- An argument is no pattern. -/
  | invalidPattern
  deriving DecidableEq, Repr

/-- A named transform rejected its input. -/
structure TransformError where
  /-- The transform. -/
  name : String
  /-- The reason. -/
  reason : TransformError.Reason
  deriving DecidableEq, Repr

namespace TransformError

/-- A failure with a reason in words. -/
def because (name reason : String) : TransformError := ⟨name, .text reason⟩

/-- The text of a reason. -/
def Reason.wording : Reason → String
  | .text reason => reason
  | .invalidPattern => "invalid pattern"

/-- The message. -/
def message (e : TransformError) : String :=
  "Transform '" ++ e.name ++ "' failed: " ++ e.reason.wording

end TransformError

/-- An error that rejects a resolution. -/
inductive ResolveError where
  /-- A selector has no query. -/
  | emptySelector
  /-- A schema asks for automatic scoping that it cannot have. -/
  | invalidAutoScope (found : String)
  /-- A `match` option is no pattern. -/
  | invalidPattern (pattern : String)
  /-- A query is no selector of the document language. -/
  | invalidQuery (query : String)
  /-- A transform failed. -/
  | transform (e : TransformError)
  deriving DecidableEq, Repr

/-- The message. -/
def ResolveError.message : ResolveError → String
  | .emptySelector => "Empty selector. Please check your selector schema syntax"
  | .invalidAutoScope found =>
    "Invalid scope: []. Auto scoping only supports a simple string selector, found " ++ found
  | .invalidPattern pattern => "Invalid match pattern '" ++ pattern ++ "'"
  | .invalidQuery query => "Invalid query '" ++ query ++ "'"
  | .transform e => e.message

/-- An extractor cannot be assembled. -/
inductive SetupError where
  /-- There is no resolver. -/
  | noResolvers
  /-- There are object resolvers only. -/
  | missingDelegate
  /-- No resolver has this name. -/
  | unknownResolver (name : String)
  deriving DecidableEq, Repr

/-- The message. -/
def SetupError.message : SetupError → String
  | .noResolvers => "No resolver provided. At least one resolver is required"
  | .missingDelegate =>
    "Object resolver cannot work without another resolver to delegate fields to"
  | .unknownResolver name => "Unknown resolver '" ++ name ++ "'"

/-- A schema document has the wrong shape. -/
structure SchemaError where
  /-- Where in the schema. -/
  path : String
  /-- What is wrong there. -/
  reason : String
  deriving DecidableEq, Repr

/-- The message. -/
def SchemaError.message (e : SchemaError) : String :=
  "Invalid schema at '" ++ e.path ++ "': " ++ e.reason

end Gleaner
