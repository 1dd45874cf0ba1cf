/-!
# Tables of code points

A property of characters beyond ASCII is kept as the closed ranges of its code points. A table is
written as the list of these, or as text: each range as its two ends in hexadecimal joined by a hyphen
(one number where the ends agree), the ranges separated by blanks, and read once. The tables of this
library describe version 14 of the Unicode character database.
-/

namespace Conform.Text

/-- The value of a hexadecimal digit. -/
def hexValue? (c : Char) : Option Nat :=
  if '0' ≤ c && c ≤ '9' then some (c.toNat - 48)
  else if 'a' ≤ c && c ≤ 'f' then some (c.toNat - 87)
  else if 'A' ≤ c && c ≤ 'F' then some (c.toNat - 55)
  else none

/-- The value of a hexadecimal numeral; characters that are no digit are passed over. -/
def hexNumeral (s : List Char) : Nat :=
  s.foldl (fun n c => match hexValue? c with | some d => 16 * n + d | none => n) 0

/-- Closed ranges of code points. -/
abbrev Ranges := List (Nat × Nat)

/-- The ranges that a table's text lists. -/
def Ranges.ofText (text : String) : Ranges :=
  let entry (e : String) : Nat × Nat :=
    match e.splitOn "-" with
    | [a, b] => (hexNumeral a.toList, hexNumeral b.toList)
    | _ => (hexNumeral e.toList, hexNumeral e.toList)
  ((text.splitOn " ").filter (· ≠ "")).map entry

/-- Is the code point in one of the ranges? -/
def Ranges.has (rs : Ranges) (n : Nat) : Bool := rs.any fun r => r.1 ≤ n && n ≤ r.2

end Conform.Text
