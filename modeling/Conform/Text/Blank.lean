/-!
# Blanks, words and lines

Text is handled as a list of characters. A *blank* is a character with the Unicode property
`White_Space` or one of the four information separators U+001C to U+001F; a *line break* is a
character that ends a line. From these two classes come the three operations on text that the
library needs: `trim` takes blanks off both ends, `words` cuts at runs of blanks, and `lines` cuts
at line breaks, where a carriage return with the line feed after it counts as one break.
-/

namespace Conform.Text

/-- A blank character: the Unicode property `White_Space`, and U+001C to U+001F. -/
def isBlank (c : Char) : Bool :=
  let n := c.toNat
  (0x09 ≤ n && n ≤ 0x0D) || (0x1C ≤ n && n ≤ 0x20) || n == 0x85 || n == 0xA0 || n == 0x1680 ||
    (0x2000 ≤ n && n ≤ 0x200A) || n == 0x2028 || n == 0x2029 || n == 0x202F || n == 0x205F ||
    n == 0x3000

/-- A character that ends a line. Every one of them is blank. -/
def isLineBreak (c : Char) : Bool :=
  let n := c.toNat
  (0x0A ≤ n && n ≤ 0x0D) || (0x1C ≤ n && n ≤ 0x1E) || n == 0x85 || n == 0x2028 || n == 0x2029

/-! ## Trimming -/

/-- The text without the blanks in front. -/
def trimStart (s : List Char) : List Char := s.dropWhile isBlank

/-- The text without the blanks at its end. -/
def trimEnd (s : List Char) : List Char := (s.reverse.dropWhile isBlank).reverse

/-- The text without blanks at either end. -/
def trim (s : List Char) : List Char := trimEnd (trimStart s)

/-! ## Cutting -/

/-- The pieces between the characters that satisfy `p`, one piece more than there are such
characters. -/
def pieces (p : Char → Bool) : List Char → List (List Char)
  | [] => [[]]
  | c :: s =>
    if p c then [] :: pieces p s
    else
      match pieces p s with
      | [] => [[c]]
      | w :: ws => (c :: w) :: ws

/-- The maximal runs of characters that are not blank. -/
def words (s : List Char) : List (List Char) := (pieces isBlank s).filter (!·.isEmpty)

/-- The lines of a text without their breaks. A break at the very end starts no further line. -/
def lines : List Char → List (List Char)
  | [] => []
  | '\r' :: '\n' :: s => [] :: lines s
  | c :: s =>
    if isLineBreak c then [] :: lines s
    else
      match lines s with
      | [] => [[c]]
      | l :: ls => (c :: l) :: ls

/-- A text after `needle`, if it starts with it. -/
def after? : List Char → List Char → Option (List Char)
  | [], s => some s
  | _ :: _, [] => none
  | n :: needle, c :: s => if n = c then after? needle s else none

/-- The pieces of a text between the occurrences of `needle`, found from left to right and not
overlapping. `skip` counts the characters of the current occurrence that are still to pass. -/
def cutAt (needle : List Char) : Nat → List Char → List (List Char)
  | _, [] => [[]]
  | skip + 1, _ :: s => cutAt needle skip s
  | 0, c :: s =>
    if (after? needle (c :: s)).isSome then [] :: cutAt needle (needle.length - 1) s
    else
      match cutAt needle 0 s with
      | [] => [[c]]
      | w :: ws => (c :: w) :: ws

end Conform.Text
