import Conform.Pattern.Flags
import Conform.Text.Blank
import Conform.Text.Digit
import Conform.Text.Word

/-!
# Sets of characters

A set in a pattern lists code points, ranges of them and classes, or is the complement of such a
list. Where letter case does not count, a character is in the set if the set has one that is the same
letter.
-/

namespace Conform.Pattern

open Text

/-- A class of characters. -/
inductive Category where
  /-- Decimal digits. -/
  | digit
  /-- Blanks. -/
  | space
  /-- Letters, numeric characters and the low line. -/
  | word
  deriving DecidableEq, Repr

/-- The blanks of ASCII. -/
def isAsciiBlank (c : Char) : Bool :=
  c = ' ' || c = '\t' || c = '\n' || c = '\r' || c = '\x0b' || c = '\x0c'

/-- Is a character in a class? -/
def Category.has (ascii : Bool) (c : Char) : Category → Bool
  | digit => if ascii then (asciiDigit? c).isSome else (decimalDigit? c).isSome
  | space => if ascii then isAsciiBlank c else isBlank c
  | word => if ascii then isAsciiAlphanumeric c || c == '_' else isWordChar c

/-- An entry of a set. -/
inductive SetItem where
  /-- One code point. -/
  | single (code : Nat)
  /-- The code points from one to another. -/
  | range (first last : Nat)
  /-- The characters of a class, or those outside it. -/
  | category (c : Category) (negated : Bool)
  deriving DecidableEq, Repr

/-- Does a code point stand for a character? -/
def isCode (flags : Flags) (code : Nat) (c : Char) : Bool :=
  if flags.ignoreCase then (flags.matching (flags.fold code)).contains (flags.fold c.toNat)
  else code == c.toNat

/-- Is there a code point from `first` to `last` that folds into `n`? -/
def foldsInto (flags : Flags) (first last n : Nat) : Bool :=
  if !flags.ignoreCase then first ≤ n && n ≤ last
  else if flags.ascii then
    (first ≤ n && n ≤ last) || (0x61 ≤ n && n ≤ 0x7A && first ≤ n - 0x20 && n - 0x20 ≤ last)
  else lowersInto first last n

/-- Is a character described by an entry? -/
def SetItem.has (flags : Flags) (c : Char) : SetItem → Bool
  | single code => isCode flags code c
  | range first last => (flags.matching (flags.fold c.toNat)).any (foldsInto flags first last)
  | category k negated => k.has flags.ascii c != negated

/-- A set of characters. -/
structure CharSet where
  /-- Is it the complement of what is listed? -/
  negated : Bool
  /-- What is listed. -/
  items : List SetItem
  deriving DecidableEq, Repr

/-- Is a character in a set? -/
def CharSet.has (flags : Flags) (c : Char) (s : CharSet) : Bool :=
  s.items.any (·.has flags c) != s.negated

end Conform.Pattern
