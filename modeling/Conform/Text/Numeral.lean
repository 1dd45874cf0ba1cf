import Conform.Text.Blank
import Conform.Text.Digit

/-!
# Decimal numerals

Integers are written with the decimal digits of their size behind a minus sign if they are
negative. Three kinds of numeral are read: a run of ASCII digits, a run of digits whose groups may
be joined by single low lines, and a digit run after an optional sign.
-/

namespace Conform.Text

/-- The decimal text of a natural number. -/
def natText (n : Nat) : List Char := Nat.toDigits 10 n

/-- The decimal text of an integer. -/
def intText (n : Int) : List Char :=
  if n < 0 then '-' :: natText n.natAbs else natText n.natAbs

/-- An ASCII digit. -/
def isAsciiDigit (c : Char) : Bool := (asciiDigit? c).isSome

/-- The number that a list of digit values denotes, the highest digit first. -/
def ofDigits (ds : List Nat) : Nat := ds.foldl (fun n d => 10 * n + d) 0

/-- The values of a run of ASCII digits. -/
def digitValues (s : List Char) : List Nat := s.filterMap asciiDigit?

/-- The digit values of a numeral that is not empty and in which single low lines may stand
between digits. -/
def groupedDigits? : List Char → Option (List Nat)
  | [] => none
  | [c] => (asciiDigit? c).map ([·])
  | c :: '_' :: s => do
    let d ← asciiDigit? c
    let ds ← groupedDigits? s
    pure (d :: ds)
  | c :: s => do
    let d ← asciiDigit? c
    let ds ← groupedDigits? s
    pure (d :: ds)

/-- A text without its sign, and whether that was a minus. -/
def splitSign : List Char → Bool × List Char
  | '-' :: s => (true, s)
  | '+' :: s => (false, s)
  | s => (false, s)

/-- The text with ASCII letters in lower case. -/
def lowerAscii (s : List Char) : List Char := s.map Char.toLower

end Conform.Text
