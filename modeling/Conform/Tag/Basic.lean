import Conform.Complaint
import Conform.Json.Writer
import Conform.Text.Blank
import Conform.Value.Legible

/-!
# Tags

A tag refines a primitive type: it names a rule and carries the text of its argument. In data a tag
is a list of a name and an optional argument, or an object with these two fields. The name is
trimmed, then freed of leading at signs, and something must be left of it; the argument is trimmed,
an absent one is the empty text, and one that is no text is written as a document.
-/

namespace Conform

/-- A refinement: the name of a rule and the text of its argument. -/
structure Tag where
  /-- The name of the rule. -/
  name : String
  /-- The text of the argument. -/
  argument : String
  deriving DecidableEq, Repr

namespace Tag

open Text

/-- The name as it is kept. -/
def normalName (s : List Char) : List Char := (trim s).dropWhile (· = '@')

/-- The tag with a name and an argument, both brought to the form in which they are kept. -/
def make (name argument : String) : Except Complaint Tag :=
  let n := normalName name.toList
  if n.isEmpty then .error ((Complaint.here .emptyName).within "name")
  else .ok ⟨String.ofList n, String.ofList (trim argument.toList)⟩

/-- What keeps a part of data from being written, if anything does. -/
def partObstacle? : Value → Option Complaint.Cause
  | .missing => some .unwritable
  | v => if v.isShort then none else some .integerTooLongToWrite

/-- What keeps an argument given as data from being written, if anything does: the first part of it
that cannot be. -/
def obstacle? (argument : Value) : Option Complaint.Cause :=
  argument.atoms.findSome? partObstacle?

/-- The text that stands for an argument given as data. -/
def argumentText : Option Value → Except Complaint String
  | none => .ok ""
  | some .null => .ok ""
  | some (.string s) => .ok s
  | some v =>
    match obstacle? v with
    | none => .ok (String.ofList (Json.write Json.spaced v))
    | some cause => .error (Complaint.here cause)

/-- The tag that a name and an argument, given as data, stand for. -/
def ofFields (name argument : Option Value) : Except Complaint Tag := do
  let text ← argumentText argument
  match name with
  | none => .error ((Complaint.here .required).within "name")
  | some (.string n) => make n text
  | some _ => .error ((Complaint.here .notString).within "name")

/-- The tag that a list of data stands for. -/
def ofItems : List Value → Except Complaint Tag
  | [name] => ofFields (some name) none
  | [name, argument] => ofFields (some name) (some argument)
  | items => .error (Complaint.here (.tagLength items.length))

/-- The tag that a piece of data stands for. -/
def ofValue : Value → Except Complaint Tag
  | .list items => ofItems items
  | .tuple items => ofItems items
  | .object es => ofFields (es.lookup "name") (es.lookup "argument")
  | _ => .error (Complaint.here .notTag)

end Tag

end Conform
