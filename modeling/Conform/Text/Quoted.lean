import Conform.Text.Printable

/-!
# Quoted text

A text quoted for a message stands between single quotes, or between double quotes if it holds a
single quote and no double quote. The quote in use and the backslash are written behind a
backslash, the tab and the two line ends have a letter each, and every other character that is not
printable is written with its code point in hexadecimal, in two, four or eight digits.
-/

namespace Conform.Text

/-- A hexadecimal digit, in lower case. -/
def hexDigit (d : Nat) : Char := Char.ofNat (if d < 10 then 48 + d else 87 + d)

/-- The lowest `k` hexadecimal digits of a number, the highest first. -/
def hexDigits : Nat → Nat → List Char
  | 0, _ => []
  | k + 1, n => hexDigits k (n / 16) ++ [hexDigit (n % 16)]

namespace Quoted

/-- The written form of a character between the quotes `q`. -/
def escape (q c : Char) : List Char :=
  if c = q || c = '\\' then ['\\', c]
  else if c = '\t' then ['\\', 't']
  else if c = '\n' then ['\\', 'n']
  else if c = '\r' then ['\\', 'r']
  else if isPrintable c then [c]
  else if c.toNat < 0x100 then '\\' :: 'x' :: hexDigits 2 c.toNat
  else if c.toNat < 0x10000 then '\\' :: 'u' :: hexDigits 4 c.toNat
  else '\\' :: 'U' :: hexDigits 8 c.toNat

/-- The quote to use for a text. -/
def mark (s : List Char) : Char :=
  if s.contains '\'' && !s.contains '"' then '"' else '\''

/-- The text between quotes. -/
def write (s : List Char) : List Char :=
  let q := mark s
  q :: (s.flatMap (escape q) ++ [q])

end Quoted

/-- The text between quotes, fit for a message. -/
def quoted (s : String) : String := String.ofList (Quoted.write s.toList)

end Conform.Text
