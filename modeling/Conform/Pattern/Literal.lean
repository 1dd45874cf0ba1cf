import Conform.Text.Blank

/-!
# Delimited patterns

The argument of the rule `regex` is a pattern, or a pattern between slashes with flags behind the
second one. The pattern may hold slashes of its own: the last slash that only flags follow closes
it, so that there is one reading at most. A single line feed after the flags is passed over.
-/

namespace Conform.Pattern

/-- A letter that may stand behind the closing slash. -/
def isFlagLetter (c : Char) : Bool := c = 'i' || c = 'm' || c = 's'

/-- A text ending in flags that a slash precedes: the text before that slash, and the flags. The
text is given in reverse. -/
def closing? (reversed : List Char) : Option (List Char × List Char) :=
  match reversed.dropWhile isFlagLetter with
  | '/' :: r => some (r.reverse, (reversed.takeWhile isFlagLetter).reverse)
  | _ => none

/-- The pattern and the flags of a delimited argument. -/
def delimited? : List Char → Option (List Char × List Char)
  | '/' :: s =>
    match closing? s.reverse with
    | some p => some p
    | none =>
      match s.reverse with
      | '\n' :: r => closing? r
      | _ => none
  | _ => none

/-- The pattern and the flags that an argument spells; one without delimiters has no flags. -/
def ofArgument (argument : List Char) : List Char × List Char :=
  (delimited? argument).getD (argument, [])

end Conform.Pattern
