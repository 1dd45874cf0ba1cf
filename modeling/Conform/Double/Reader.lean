import Conform.Double.Rounding
import Conform.Text.Numeral

/-!
# Reading doubles

A number is read from text in two notations. The *plain* one is the notation of data: digits, then
optionally a point with digits on both sides, then optionally an exponent. The *free* one is what
people write: blanks around, an optional sign, digits with single low lines between them, a point
with digits on one side only, and words for the values that are not finite.
-/

namespace Conform.Double

open Text

/-- An exponent: a sign, optional, and a run of digits that is not empty. -/
def exponent? (s : List Char) : Option Int :=
  let (negative, ds) := splitSign s
  if ds.isEmpty || !ds.all isAsciiDigit then none
  else
    let n : Int := ofDigits (digitValues ds)
    some (if negative then -n else n)

/-- The double denoted by digits before and after the point and an exponent. -/
def assemble (negative : Bool) (whole fraction : List Char) (exponent : Int) : Double :=
  ofDecimal negative (ofDigits (digitValues (whole ++ fraction))) (exponent - fraction.length)

/-- An unsigned number: digits with at most one point among them, at least one digit, and an
exponent if an `e` follows. -/
def unsigned? (negative : Bool) (s : List Char) : Option Double :=
  let whole := s.takeWhile isAsciiDigit
  let rest := s.dropWhile isAsciiDigit
  let (fraction, tail) := match rest with
    | '.' :: r => (r.takeWhile isAsciiDigit, r.dropWhile isAsciiDigit)
    | r => ([], r)
  if whole.isEmpty && fraction.isEmpty then none
  else
    match tail with
    | [] => some (assemble negative whole fraction 0)
    | c :: x =>
      if c = 'e' || c = 'E' then (exponent? x).map (assemble negative whole fraction) else none

/-- The text without the low lines between digits; there may be none elsewhere. `previous` is the
character before the text. -/
def ungroup? (previous : Char) : List Char → Option (List Char)
  | [] => some []
  | '_' :: d :: s =>
    if isAsciiDigit previous && isAsciiDigit d then (ungroup? d s).map (d :: ·) else none
  | c :: s => if c = '_' then none else (ungroup? c s).map (c :: ·)

/-- The words for values that are not finite, in lower case. -/
def word? (negative : Bool) (s : List Char) : Option Double :=
  if s = "inf".toList || s = "infinity".toList then some (infinite negative)
  else if s = "nan".toList then some nan
  else none

/-- A character as the readers of numbers see it: digits of other scripts count as ASCII digits and
blanks beyond ASCII as spaces. -/
def plainChar (c : Char) : Char :=
  if c.toNat < 0x7F then c
  else if isBlank c then ' '
  else match decimalDigit? c with
    | some d => Char.ofNat (48 + d)
    | none => c

/-- The blanks that may surround a number, after `plainChar`. -/
def isMargin (c : Char) : Bool := c = ' ' || ('\t' ≤ c && c ≤ '\r')

/-- A text as the readers of numbers see it, without the blanks around it. -/
def plainForm (s : List Char) : List Char :=
  (((s.map plainChar).dropWhile isMargin).reverse.dropWhile isMargin).reverse

/-- The double that a text denotes in the free notation. -/
def ofText? (s : List Char) : Option Double :=
  match ungroup? ' ' (plainForm s) with
  | none => none
  | some t =>
    let (negative, u) := splitSign t
    match word? negative (lowerAscii u) with
    | some d => some d
    | none => unsigned? negative u

/-- The most digits that a numeral may have to be read as an integer, and that an integer may have to
be written. -/
def maxDigits : Nat := 4300

/-- What is said of an integer that has more digits than are written. -/
def tooLong : String :=
  s!"Exceeds the limit ({maxDigits} digits) for integer string conversion; " ++
    "use sys.set_int_max_str_digits() to increase the limit"

/-- The integer that a text denotes in the free notation: a sign, optional, and grouped digits. -/
def intOfText? (s : List Char) : Option Int :=
  let (negative, u) := splitSign (plainForm s)
  match groupedDigits? u with
  | none => none
  | some ds =>
    if maxDigits < ds.length then none
    else some (signed negative (ofDigits ds))

end Conform.Double
