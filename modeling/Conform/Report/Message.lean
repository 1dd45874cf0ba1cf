import Conform.Report.Template
import Conform.Schema.Node

/-!
# Messages

The message of each failure, as a function of what is known where it arises, and with the cause what
is told of the failure. A refused tag gives the custom message of its node, if that has one for the
tag. All messages but that of a missing property show a value, and there is none if the value has no
text.
-/

namespace Conform.Report

open Schema

/-- The directive that a tag spells. -/
def directiveText (t : Tag) : String :=
  if t.argument = "" then s!"@{t.name}" else s!"@{t.name} {t.argument}"

/-- The message for a value that a tag of a node refuses, the node's tags given. -/
def tagViolation (tags : List Tag) (tag : Tag) (value : Value) : Except Fault String := do
  match ← customMessage? tags tag.name value with
  | some message => pure message
  | none =>
    let refused ← quoteValue value
    pure s!"Value {refused} failed tag {directiveText tag}"

/-- The message for a value that is not of the type expected. -/
def typeMismatch (expected : String) (value : Value) : Except Fault String := do
  let received ← quoteValue value
  pure s!"Expected {expected} but received {received}"

/-- The message for a value that is not the literal expected. -/
def literalMismatch (expected value : Value) : Except Fault String := do
  let wanted ← quoteValue expected
  let received ← quoteValue value
  pure s!"Expected {wanted} but received {received}"

/-- The message for an object that lacks a property. -/
def missingProperty (key : String) : String := s!"Missing required property \"{key}\""

/-- The value that a literal's payload is shown as. A payload that is no value, which no document
gives a literal, is shown as undefined. -/
def literalValue {ι : Type} (p : Payload ι) : Value := p.value?.getD .missing

/-- An alternative in a list of them: the value of a literal, else the name of the type. -/
def describe {ι : Type} (g : Graph ι) : Member ι → Except Fault String
  | .bare v => formatValue v
  | .node ref =>
    if (g ref).flags.literal then formatValue (literalValue (g ref).payload)
    else .ok (g ref).typeName

/-- The message for a value that is none of several alternatives. -/
def unionMismatch {ι : Type} (g : Graph ι) (alternatives : List (Member ι)) (value : Value) :
    Except Fault String := do
  let described ← alternatives.mapM (describe g)
  let listed := ",".intercalate described
  let received ← quoteValue value
  pure s!"Expected one of [{listed}] but received {received}"

end Conform.Report

/-! ## What is told of failures -/

namespace Conform.Told

open Schema

/-- A value is not of the type expected. -/
def typeMismatch (expected : String) (value : Value) : Told := do
  let message ← Report.typeMismatch expected value
  pure (.typeMismatch expected, message)

/-- A tag of a node refuses a value, the node's tags given. -/
def tagViolation (tags : List Tag) (tag : Tag) (value : Value) : Told := do
  let message ← Report.tagViolation tags tag value
  pure (.tagViolation tag.name tag.argument, message)

/-- A value is not the literal expected. -/
def literalMismatch (expected value : Value) : Told := do
  let message ← Report.literalMismatch expected value
  pure (.literalMismatch [expected], message)

/-- A value is none of several alternatives. -/
def unionMismatch {ι : Type} (g : Graph ι) (alternatives : List (Member ι)) (value : Value) :
    Told := do
  let described ← alternatives.mapM (Report.describe g)
  let message ← Report.unionMismatch g alternatives value
  pure (.literalMismatch (described.map .string), message)

/-- An object lacks a property. -/
def missingProperty (key : String) : Told :=
  .ok (.missingProperty key, Report.missingProperty key)

end Conform.Told
