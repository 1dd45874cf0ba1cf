import Conform.Json.Reader
import Conform.Report.Rendering
import Conform.Tag.Directive
import Conform.Value.Notation

/-!
# Templates of custom messages

The first tag named `error` holds the message for values that the other tags refuse. Its argument is
a template for every tag, or, written as a JSON object, one template for each tag that is a key of
it. In a template the placeholder `[value]` stands for the value. An empty template counts as none.
-/

namespace Conform.Report

/-- The template of a custom message. -/
inductive Template where
  /-- One template for every tag. -/
  | text (template : String)
  /-- A template for each tag that is named. -/
  | byTag (entries : List (String × String))
  deriving DecidableEq, Repr

/-- What stands for the value in a template. -/
def placeholder : List Char := "[value]".toList

/-- The template that the argument of an `error` tag spells. -/
def Template.ofArgument (argument : String) : Template :=
  if argument.toList.head? = some '\x7b' then
    match Json.parse argument with
    | .ok (.object es) => .byTag (es.map fun e => (e.1, e.2.plainText))
    | _ => .text argument
  else .text argument

/-- The template that a list of tags holds. -/
def template? (tags : List Tag) : Option Template :=
  (tags.find? (·.name = Tag.errorName)).map fun t => .ofArgument t.argument

/-- The template that applies to a tag; an empty one does not. -/
def Template.select? (tag : String) : Template → Option String
  | text s => if s = "" then none else some s
  | byTag es => es.lookup tag

/-- A template with a text in place of each placeholder. -/
def fill (template text : String) : String :=
  text.intercalate ((Text.cutAt placeholder 0 template.toList).map String.ofList)

/-- A template with the value in place of each placeholder. The value is put into words first, whether
or not there is a placeholder. -/
def applyTemplate (template : String) (value : Value) : Except Fault String :=
  (formatValue value).map (fill template)

/-- The custom message for a value that a tag refuses, if there is one. -/
def customMessage? (tags : List Tag) (tag : String) (value : Value) :
    Except Fault (Option String) :=
  match (template? tags).bind (·.select? tag) with
  | none => .ok none
  | some template => (applyTemplate template value).map some

end Conform.Report
