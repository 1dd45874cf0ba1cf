import Conform.Text.Blank
import Conform.Text.Word

/-!
# Rules for whole texts

Two rules for texts demand a form of the text from its first character to its last. An
*alphanumeric* text is a run of ASCII letters and digits. An *address* is a local part, an at sign
and a domain: the local part is a run of letters, digits and certain signs, the domain a sequence of
labels of letters, digits and hyphens with single dots between them. No part may be empty, and
nothing beyond ASCII occurs in either form.
-/

namespace Conform.Rule

open Text

/-- A text of one or more ASCII letters and digits. -/
def isAlphanumeric (s : List Char) : Bool := !s.isEmpty && s.all isAsciiAlphanumeric

/-- The signs allowed in a local part besides letters and digits. -/
def localSigns : List Char := ".!#$%&'*+/=?^_\x60\x7b|\x7d~-".toList

/-- A character of a local part. -/
def isLocalChar (c : Char) : Bool := isAsciiAlphanumeric c || localSigns.contains c

/-- A character of a label. -/
def isLabelChar (c : Char) : Bool := isAsciiAlphanumeric c || c == '-'

/-- A label: one or more of its characters. -/
def isLabel (s : List Char) : Bool := !s.isEmpty && s.all isLabelChar

/-- A domain: labels with single dots between them. -/
def isDomain (s : List Char) : Bool := (pieces (· == '.') s).all isLabel

/-- An address: a local part and a domain around the only at sign. -/
def isAddress (s : List Char) : Bool :=
  match pieces (· == '@') s with
  | [name, domain] => !name.isEmpty && name.all isLocalChar && isDomain domain
  | _ => false

end Conform.Rule
