import Conform.Tag.Basic
import Conform.Text.Word

/-!
# Directives in documentation comments

Tags can be written as directives in a block comment, each on a line of its own: an at sign, a name
and, after blanks, an argument that runs to the end of the line. The marks of the comment (the
opening slash and stars, the stars in front of a line, the closing stars and slash) are no part of
a line, and lines of other text are passed over. The directive `error` takes all the rest of the
comment as its argument, so it is the last one.
-/

namespace Conform.Tag

open Text

/-- The name of the directive whose argument is the rest of the comment. -/
def errorName : String := "error"

/-! ## Comment marks -/

/-- A line without the slash and stars that open a comment. -/
def dropOpening : List Char → List Char
  | '/' :: '*' :: s => s.dropWhile (· = '*')
  | s => s

/-- A line without the stars and the slash that close a comment. -/
def dropClosing (s : List Char) : List Char :=
  match s.reverse with
  | '/' :: '*' :: r => (r.dropWhile (· = '*')).reverse
  | _ => s

/-- A line without the stars in front. A star directly before a slash stays, as the two may belong
together. -/
def dropGutter : List Char → List Char
  | '*' :: '/' :: s => '*' :: '/' :: s
  | '*' :: s => dropGutter s
  | s => s

/-- A line without the marks of the comment and without blanks around it. -/
def content (line : List Char) : List Char :=
  trim (dropGutter (trim (dropClosing (dropOpening (trim line)))))

/-! ## Directives -/

/-- May the character start the name of a directive? -/
def startsName (c : Char) : Bool := isAsciiLetter c || c == '_'

/-- May the character continue the name of a directive? -/
def continuesName (c : Char) : Bool := isWordChar c || c == '-'

/-- The name and the argument of a line that is a directive. -/
def directive? : List Char → Option (List Char × List Char)
  | '@' :: c :: s =>
    if startsName c then
      let rest := s.dropWhile continuesName
      match rest with
      | [] => some (c :: s.takeWhile continuesName, [])
      | d :: _ => if isBlank d then some (c :: s.takeWhile continuesName, trim rest) else none
    else none
  | _ => none

/-- Lines joined with line feeds. -/
def joinLines : List (List Char) → List Char
  | [] => []
  | [l] => l
  | l :: ls => l ++ '\n' :: joinLines ls

/-- The tags of a comment's lines, already freed of the comment's marks. -/
def ofLines : List (List Char) → List Tag
  | [] => []
  | l :: ls =>
    match directive? l with
    | none => ofLines ls
    | some (name, argument) =>
      if String.ofList name = errorName then
        [⟨errorName, String.ofList (trim (joinLines (argument :: ls)))⟩]
      else ⟨String.ofList name, String.ofList argument⟩ :: ofLines ls

/-- The tags that a documentation comment directs, in order. -/
def ofComment (text : String) : List Tag := ofLines ((lines text.toList).map content)

end Conform.Tag
