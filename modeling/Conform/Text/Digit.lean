import Conform.Text.Ranges

/-!
# Decimal digits

Every script that writes decimal numbers has ten consecutive characters for the digits zero to
nine. A run of them is known by its zero.
-/

namespace Conform.Text

/-- The zeros of the digit runs beyond ASCII. -/
def digitZeroText : String :=
  "660 6f0 7c0 966 9e6 a66 ae6 b66 be6 c66 ce6 d66 de6 e50 ed0 f20 1040 1090 17e0 1810 1946
   19d0 1a80 1a90 1b50 1bb0 1c40 1c50 a620 a8d0 a900 a9d0 a9f0 aa50 abf0 ff10 104a0 10d30 11066
   110f0 11136 111d0 112f0 11450 114d0 11650 116c0 11730 118e0 11950 11c50 11d50 11da0 16a60
   16ac0 16b50 1d7ce 1d7d8 1d7e2 1d7ec 1d7f6 1e140 1e2f0 1e950 1fbf0"

/-- The digit runs beyond ASCII, as ranges of ten. -/
def digitRuns : Ranges := (Ranges.ofText digitZeroText).map fun r => (r.1, r.1 + 9)

/-- The value of an ASCII digit. -/
def asciiDigit? (c : Char) : Option Nat :=
  if '0' ≤ c && c ≤ '9' then some (c.toNat - 48) else none

/-- The value of a decimal digit of any script. -/
def decimalDigit? (c : Char) : Option Nat :=
  if c.toNat < 0x80 then asciiDigit? c
  else (digitRuns.find? fun r => r.1 ≤ c.toNat && c.toNat ≤ r.2).map fun r => c.toNat - r.1

end Conform.Text
