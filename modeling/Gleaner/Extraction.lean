import Gleaner.Config
import Gleaner.Extract.Resolve
import Gleaner.Html.Document
import Gleaner.Value.Basic

/-!
# Extraction from HTML

A configuration says how an extractor for HTML is assembled; the extractor gives for a source and a
schema a JSON document.
-/

namespace Gleaner

/-- Why an extraction gives nothing. -/
inductive ExtractionError where
  /-- The extractor could not be assembled. -/
  | setup (e : SetupError)
  /-- The schema could not be resolved. -/
  | resolve (e : ResolveError)
  deriving DecidableEq, Repr

/-- The message. -/
def ExtractionError.message : ExtractionError → String
  | .setup e => e.message
  | .resolve e => e.message

namespace Config

/-- The builder of extractors for HTML that a configuration describes. -/
def builder (c : Config) : Except SetupError (Builder Html.Node) :=
  c.engine.builder (Html.documents c.output.fragment)

/-- The extractor for HTML that a configuration describes. -/
def extractor (c : Config) : Except SetupError (Extractor Html.Node) :=
  match c.builder with
  | .error e => .error e
  | .ok b => b.build

end Config

/-- The document that a schema extracts from a source of HTML. -/
def extract (source : String) (schema : Schema) (config : Config) :
    Except ExtractionError Json :=
  match config.extractor with
  | .error e => .error (.setup e)
  | .ok x =>
    match x.resolveText source schema with
    | .error e => .error (.resolve e)
    | .ok v => .ok v.toJson

end Gleaner
