import Conform.Text.Case

/-!
# Flags of a pattern

Flags change what the parts of a pattern mean: whether letter case counts, what the anchors and the
dot match, whether character classes end with ASCII, and how the pattern is written. They can be set
for the whole pattern, and switched on and off for a part of it.
-/

namespace Conform.Pattern

/-- A flag. -/
inductive Flag where
  /-- Letters match in either case. -/
  | ignoreCase
  /-- The anchors for the ends also match at the ends of lines. -/
  | multiline
  /-- The dot matches a line feed too. -/
  | dotAll
  /-- Blanks and comments in the pattern are passed over. -/
  | verbose
  /-- Classes and cases of characters are those of ASCII. -/
  | ascii
  /-- Classes and cases of characters are those of all scripts. -/
  | unicode
  /-- Classes and cases of characters are those of the place where the program runs. -/
  | locale
  /-- The pattern is a template, which repeats nothing. -/
  | template
  deriving DecidableEq, Repr

/-- Flags that are set. -/
abbrev Flags := List Flag

namespace Flag

/-- The flag of a letter. -/
def ofLetter? (c : Char) : Option Flag :=
  match c with
  | 'i' => some ignoreCase
  | 'm' => some multiline
  | 's' => some dotAll
  | 'x' => some verbose
  | 'a' => some ascii
  | 'u' => some unicode
  | 'L' => some locale
  | 't' => some template
  | _ => none

/-- One of the flags that say whose classes and cases count; only one of them can be set. -/
def isCharacterType (f : Flag) : Bool := f == ascii || f == unicode || f == locale

end Flag

namespace Flags

/-- The flags inside a part of the pattern that switches some on and some off. -/
def switched (flags on off : Flags) : Flags :=
  let kept := if on.any Flag.isCharacterType then flags.filter (!·.isCharacterType) else flags
  (kept ++ on).filter (!off.contains ·)

/-- Do classes and cases end with ASCII? -/
def ascii (flags : Flags) : Bool := flags.contains .ascii

/-- Does letter case not count? -/
def ignoreCase (flags : Flags) : Bool := flags.contains .ignoreCase

/-- The code point that stands for a letter in either case. -/
def fold (flags : Flags) (n : Nat) : Nat :=
  if !flags.ignoreCase then n else if flags.ascii then Text.asciiLower n else Text.lower n

/-- The folded code points that match a folded one. -/
def matching (flags : Flags) (n : Nat) : List Nat :=
  if flags.ignoreCase && !flags.ascii then Text.variants n else [n]

end Flags

end Conform.Pattern
