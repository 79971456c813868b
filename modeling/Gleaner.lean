import Gleaner.Main
import Gleaner.Proofs.Extract.AutoScope
import Gleaner.Proofs.Extract.EmptySelector
import Gleaner.Proofs.Extract.PushDown
import Gleaner.Proofs.Extract.Typing
import Gleaner.Proofs.Selector.Grammar
import Gleaner.Schema.Build
import Gleaner.Value.Encoding
import Gleaner.Proofs.Extract.Listed
import Gleaner.Proofs.Extract.Assembly
import Gleaner.Proofs.Pattern.Leads
import Gleaner.Proofs.Pattern.Complete
import Gleaner.Proofs.Pattern.Texts
import Gleaner.Proofs.Calendar.Civil
import Gleaner.Proofs.Calendar.Reading
import Gleaner.Proofs.Number.Digits
import Gleaner.Proofs.Calendar.Rendering
import Gleaner.Proofs.Calendar.RoundTrip
import Gleaner.Proofs.Extract.DispatchOrder
import Gleaner.Proofs.Calendar.Standard
import Gleaner.Proofs.Coerce.DateFormat
import Gleaner.Proofs.Json.KeyOrder
import Gleaner.Proofs.Schema.KeyOrder
import Gleaner.Proofs.Schema.Setters
import Gleaner.Proofs.Schema.Written
import Gleaner.Proofs.Schema.ItemErrors
import Gleaner.Proofs.Extract.Plural
import Gleaner.Proofs.Extract.FieldOrder
import Gleaner.Proofs.Html.Search
import Gleaner.Proofs.Value.Encoding
import Gleaner.Proofs.Extract.Construction
import Gleaner.Proofs.Pattern.Captures
import Gleaner.Proofs.Calendar.IsoLike
import Gleaner.Proofs.Calendar.Stamp
import Gleaner.Proofs.Coerce.IsoLayout
import Gleaner.Proofs.Extract.Registration
import Gleaner.Proofs.Extract.UnknownTransforms
import Gleaner.Proofs.Transform.Elementwise
import Gleaner.Proofs.CommandLine.Outcome
import Gleaner.Proofs.Number.Exact
import Gleaner.Proofs.Json.Numeral
import Gleaner.Proofs.Transform.Arguments
import Gleaner.Proofs.Selector.OuterBlanks
import Gleaner.Proofs.Pattern.Literal
import Gleaner.Proofs.Pattern.Split
import Gleaner.Proofs.Transform.SplitJoin
import Gleaner.Proofs.Transform.Flatten
import Gleaner.Proofs.Value.Equality
import Gleaner.Proofs.Transform.Distinct
import Gleaner.Proofs.Transform.Default
import Gleaner.Proofs.Number.Display
import Gleaner.Proofs.Transform.Replace
import Gleaner.Proofs.Unicode.Case
import Gleaner.Proofs.Transform.Title
import Gleaner.Proofs.Coerce.Text
import Gleaner.Proofs.Numeral.Reading
import Gleaner.Proofs.Numeral.Writing
import Gleaner.Proofs.Numeral.WholeNumbers
import Gleaner.Proofs.Numeral.Patterns
import Gleaner.Proofs.Number.Rounding
import Gleaner.Proofs.Number.Shortest
import Gleaner.Proofs.Number.Decimal
import Gleaner.Proofs.Number.Remainder
import Gleaner.Proofs.Numeral.Units
import Gleaner.Proofs.Numeral.Displayed
import Gleaner.Proofs.Numeral.Durations
import Gleaner.Proofs.Numeral.Places
import Gleaner.Proofs.Numeral.Signs
import Gleaner.Proofs.Numeral.Ordinals
import Gleaner.Proofs.Numeral.Scaled
import Gleaner.Proofs.Calendar.Captured
import Gleaner.Proofs.Calendar.Meridiem
import Gleaner.Proofs.Calendar.Names
import Gleaner.Proofs.Calendar.Pieces
