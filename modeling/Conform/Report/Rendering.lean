import Conform.Failure
import Conform.Value.Legible

/-!
# Values in messages

A message shows a text as it is, a missing property as the word `undefined`, a double that denotes
an integer as that integer, and every other value as a compact document. Where a text has to be
told from the value it spells, it is quoted. A value with an integer that is too long to be written
has no such text, and a message that is to show it comes to grief.
-/

namespace Conform.Report

/-- The text that shows a value. -/
def formatChars : Value → List Char
  | .missing => "undefined".toList
  | .string s => s.toList
  | .double d =>
    match d.toInt? with
    | some n => Text.intText n
    | none => Json.writeDouble d
  | v => Json.write Json.compact v

/-- The text that shows a value whose integers can all be written. -/
def shown (v : Value) : String := String.ofList (formatChars v)

/-- The same with a text in quotes. -/
def quoted : Value → String
  | .string s => String.ofList (Json.writeString false s.toList)
  | v => shown v

/-- The text that shows a value, if it has one. -/
def formatValue (v : Value) : Except Fault String :=
  if v.isLegible then .ok (shown v) else .error .tooLong

/-- The text that shows a value, a text in quotes, if it has one. -/
def quoteValue (v : Value) : Except Fault String :=
  match v with
  | .string _ => .ok (quoted v)
  | _ => formatValue v

end Conform.Report
