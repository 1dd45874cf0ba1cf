import Conform.Text.Quoted

/-!
# Faults of a pattern

A text that spells no pattern is refused with a cause and, except where the cause lies in the whole
of a part, the place. A few texts fail in other ways: they ask for more than can be counted, or for
flags that exclude each other.
-/

namespace Conform.Pattern

open Text

/-- Why a text spells no pattern. -/
inductive Cause where
  /-- The text ends in a backslash. -/
  | danglingBackslash
  /-- An escape lacks digits. -/
  | incompleteEscape (escape : String)
  /-- An escape has no meaning. -/
  | badEscape (escape : String)
  /-- An octal escape is too large. -/
  | octalRange (escape : String)
  /-- A character name does not start with a brace. -/
  | missingBrace
  /-- A name is empty. -/
  | missingName (what : String)
  /-- A name is not closed. -/
  | unterminatedName (terminator : Char)
  /-- No character has the name. -/
  | undefinedCharacter (name : String)
  /-- A group is referred to inside itself. -/
  | openGroup
  /-- A group is referred to in the look-behind that defines it. -/
  | lookBehindGroup
  /-- There is no group of the number. -/
  | unknownGroup (number : Nat)
  /-- A set is not closed. -/
  | unterminatedSet
  /-- A range has no characters, or its ends are none. -/
  | badRange (first last : String)
  /-- A repetition's least count is above its greatest. -/
  | repeatOrder
  /-- There is nothing to repeat. -/
  | nothingToRepeat
  /-- What is to be repeated is a repetition. -/
  | multipleRepeat
  /-- The text ends where it has to go on. -/
  | unexpectedEnd
  /-- A group's name is no identifier. -/
  | badGroupName (name : String)
  /-- No group has the name. -/
  | unknownGroupName (name : String)
  /-- A group has the name already. -/
  | redefinedGroup (name : String) (number previous : Nat)
  /-- A group's number is zero. -/
  | badGroupNumber
  /-- What follows an opening parenthesis and question mark has no meaning. -/
  | unknownExtension (text : String)
  /-- A comment is not closed. -/
  | unterminatedComment
  /-- A parenthesis is not closed. -/
  | unterminatedGroup
  /-- A closing parenthesis has no opening one. -/
  | unbalanced
  /-- A condition has more than two branches. -/
  | tooManyBranches
  /-- Flags for the whole pattern do not stand in front of it. -/
  | misplacedFlags
  /-- The flag for the place where the program runs is not for texts. -/
  | localeFlag
  /-- Flags for classes and cases exclude each other. -/
  | incompatibleFlags
  /-- Flags are not closed. -/
  | unterminatedFlags
  /-- A letter is no flag. -/
  | unknownFlag
  /-- There is no flag to switch off. -/
  | missingFlag
  /-- Flags to switch off are not followed by a colon. -/
  | missingColon
  /-- A flag for the whole pattern cannot be switched on for a part. -/
  | globalFlagOn
  /-- A flag for the whole pattern cannot be switched off for a part. -/
  | globalFlagOff
  /-- A flag for classes and cases cannot be switched off. -/
  | characterTypeOff
  /-- A flag is switched on and off at once. -/
  | flagOnAndOff
  /-- A look-behind has no fixed width. -/
  | variableLookBehind
  /-- A look-behind is too wide. -/
  | wideLookBehind
  /-- A template has a repetition of a kind. -/
  | templateRepeat (kind : String)
  deriving DecidableEq, Repr

/-- The words for a cause. -/
def Cause.message : Cause → String
  | danglingBackslash => "bad escape (end of pattern)"
  | incompleteEscape e => s!"incomplete escape {e}"
  | badEscape e => s!"bad escape {e}"
  | octalRange e => s!"octal escape value {e} outside of range 0-0o377"
  | missingBrace => "missing \x7b"
  | missingName what => s!"missing {what}"
  | unterminatedName c => s!"missing {c}, unterminated name"
  | undefinedCharacter name => s!"undefined character name {quoted name}"
  | openGroup => "cannot refer to an open group"
  | lookBehindGroup => "cannot refer to group defined in the same lookbehind subpattern"
  | unknownGroup n => s!"invalid group reference {n}"
  | unterminatedSet => "unterminated character set"
  | badRange a b => s!"bad character range {a}-{b}"
  | repeatOrder => "min repeat greater than max repeat"
  | nothingToRepeat => "nothing to repeat"
  | multipleRepeat => "multiple repeat"
  | unexpectedEnd => "unexpected end of pattern"
  | badGroupName name => s!"bad character in group name {quoted name}"
  | unknownGroupName name => s!"unknown group name {quoted name}"
  | redefinedGroup name n m =>
    s!"redefinition of group name {quoted name} as group {n}; was group {m}"
  | badGroupNumber => "bad group number"
  | unknownExtension t => s!"unknown extension ?{t}"
  | unterminatedComment => "missing ), unterminated comment"
  | unterminatedGroup => "missing ), unterminated subpattern"
  | unbalanced => "unbalanced parenthesis"
  | tooManyBranches => "conditional backref with more than two branches"
  | misplacedFlags => "global flags not at the start of the expression"
  | localeFlag => "bad inline flags: cannot use 'L' flag with a str pattern"
  | incompatibleFlags => "bad inline flags: flags 'a', 'u' and 'L' are incompatible"
  | unterminatedFlags => "missing -, : or )"
  | unknownFlag => "unknown flag"
  | missingFlag => "missing flag"
  | missingColon => "missing :"
  | globalFlagOn => "bad inline flags: cannot turn on global flag"
  | globalFlagOff => "bad inline flags: cannot turn off global flag"
  | characterTypeOff => "bad inline flags: cannot turn off flags 'a', 'u' and 'L'"
  | flagOnAndOff => "bad inline flags: flag turned on and off"
  | variableLookBehind => "look-behind requires fixed-width pattern"
  | wideLookBehind => "looks too much behind"
  | templateRepeat kind => s!"internal: unsupported template operator {kind}"

/-- What a text that spells no pattern comes to grief on. -/
inductive Fault where
  /-- A cause, with the number of characters in front of the place. -/
  | at (cause : Cause) (position : Nat)
  /-- A cause that concerns the whole of a part. -/
  | overall (cause : Cause)
  /-- A repetition is counted with too large a number. -/
  | repetition
  /-- A number has too many digits. -/
  | digits (count : Nat)
  /-- The flags of the whole pattern exclude each other. -/
  | contradiction
  deriving DecidableEq, Repr

/-- The words for a place: the position, and line and column where the text has lines. -/
def placeText (text : List Char) (position : Nat) : String :=
  let before := text.take position
  if text.contains '\n' then
    let line := before.count '\n' + 1
    let column := (before.reverse.takeWhile (· ≠ '\n')).length + 1
    s!" at position {position} (line {line}, column {column})"
  else s!" at position {position}"

/-- The reason that is given for refusing a text. -/
def reason (text : List Char) (cause : Cause) : Option Nat → String
  | some position => cause.message ++ placeText text position
  | none => cause.message

end Conform.Pattern
