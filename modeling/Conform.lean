import Conform.Combinator
import Conform.Complaint
import Conform.Double.Basic
import Conform.Double.Reader
import Conform.Double.Rounding
import Conform.Double.Shortest
import Conform.Factory
import Conform.Failure
import Conform.Json.Reader
import Conform.Json.Writer
import Conform.Path
import Conform.Pattern.CharSet
import Conform.Pattern.Compile
import Conform.Pattern.Cursor
import Conform.Pattern.Escape
import Conform.Pattern.Expr
import Conform.Pattern.Fault
import Conform.Pattern.Flags
import Conform.Pattern.Literal
import Conform.Pattern.Parser
import Conform.Pattern.Search
import Conform.Proofs.Double.Integer
import Conform.Proofs.Double.Reader
import Conform.Proofs.Double.Size
import Conform.Proofs.Entries
import Conform.Proofs.Factory
import Conform.Proofs.Json.Decoded
import Conform.Proofs.Json.Printable
import Conform.Proofs.Json.Quotation
import Conform.Proofs.Json.Roundtrip
import Conform.Proofs.Json.Shrinking
import Conform.Proofs.Outcome
import Conform.Proofs.Pattern.Delimited
import Conform.Proofs.Related
import Conform.Proofs.Report.Placeholder
import Conform.Proofs.Report.Scalar
import Conform.Proofs.Report.Template
import Conform.Proofs.Report.Violation
import Conform.Proofs.Report.Words
import Conform.Proofs.Rule.Anchored
import Conform.Proofs.Rule.Bound
import Conform.Proofs.Rule.Calls
import Conform.Proofs.Rule.Judgement
import Conform.Proofs.Schema.Address
import Conform.Proofs.Schema.Change
import Conform.Proofs.Schema.FirstBreach
import Conform.Proofs.Schema.Form
import Conform.Proofs.Schema.Grammar
import Conform.Proofs.Schema.Meaning
import Conform.Proofs.Schema.Nesting
import Conform.Proofs.Schema.Reading
import Conform.Proofs.Schema.Recognition
import Conform.Proofs.Schema.Sound
import Conform.Proofs.Schema.Subtree
import Conform.Proofs.Schema.Unwrapping
import Conform.Proofs.Schema.Weakening
import Conform.Proofs.Schema.Wrapping
import Conform.Proofs.Schema.Written
import Conform.Proofs.Service
import Conform.Proofs.Tag.Comment
import Conform.Proofs.Tag.Directive
import Conform.Proofs.Tag.Normal
import Conform.Proofs.Tag.Stability
import Conform.Proofs.Tag.Written
import Conform.Proofs.Text.Ascii
import Conform.Proofs.Text.Lines
import Conform.Proofs.Text.Numeral
import Conform.Proofs.Text.Trim
import Conform.Proofs.Validator
import Conform.Proofs.Value.Equality
import Conform.Proofs.Value.Extension
import Conform.Proofs.Value.Follow
import Conform.Proofs.Value.Legible
import Conform.Proofs.Value.Order
import Conform.Proofs.Walk.Alternatives
import Conform.Proofs.Walk.Depth
import Conform.Proofs.Walk.Diagnostics
import Conform.Proofs.Walk.Elsewhere
import Conform.Proofs.Walk.Errors
import Conform.Proofs.Walk.FirstFailure
import Conform.Proofs.Walk.Inertness
import Conform.Proofs.Walk.Interchange
import Conform.Proofs.Walk.Likeness
import Conform.Proofs.Walk.Mark
import Conform.Proofs.Walk.Modes
import Conform.Proofs.Walk.Openness
import Conform.Proofs.Walk.Ordering
import Conform.Proofs.Walk.Origin
import Conform.Proofs.Walk.Overrides
import Conform.Proofs.Walk.Relaxation
import Conform.Proofs.Walk.Silence
import Conform.Proofs.Walk.Simulation
import Conform.Proofs.Walk.Verdict
import Conform.Registry
import Conform.Report.Cyclic
import Conform.Report.Message
import Conform.Report.Rendering
import Conform.Report.Template
import Conform.Rule.Anchored
import Conform.Rule.Basic
import Conform.Rule.BuiltIn
import Conform.Schema.Document
import Conform.Schema.Invariant
import Conform.Schema.Node
import Conform.Schema.Reader
import Conform.Service
import Conform.Settings
import Conform.Tag.Basic
import Conform.Tag.Directive
import Conform.Text.Blank
import Conform.Text.Case
import Conform.Text.CharacterName
import Conform.Text.Digit
import Conform.Text.Encoding
import Conform.Text.Identifier
import Conform.Text.Letter
import Conform.Text.Numeral
import Conform.Text.Printable
import Conform.Text.Quoted
import Conform.Text.Ranges
import Conform.Text.Word
import Conform.Validator
import Conform.Value.Basic
import Conform.Value.Equal
import Conform.Value.Legible
import Conform.Value.Notation
import Conform.Walk.Context
import Conform.Walk.Step
