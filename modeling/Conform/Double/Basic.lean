/-!
# Double precision numbers

A double is kept as what it denotes: not a number, an infinity, or a signed dyadic number
`mantissa * 2 ^ exponent`. The functions that make doubles give the mantissa 53 bits or the
exponent its least value -1074, so that each double has one representation. Arithmetic questions
(is it an integer, how does it compare with an integer) are answered exactly, on naturals.
-/

namespace Conform

/-- A binary64 value. -/
inductive Double where
  /-- Not a number. -/
  | nan
  /-- Positive or negative infinity. -/
  | infinite (negative : Bool)
  /-- The number `± mantissa * 2 ^ exponent`. -/
  | finite (negative : Bool) (mantissa : Nat) (exponent : Int)
  deriving DecidableEq, Repr

namespace Double

-- powers are those of the core library here, whatever further instances are in scope
attribute [local instance (high)] instPowNat

/-- An integer with a sign set apart, so that zero has two. -/
def signed (negative : Bool) (n : Nat) : Int := if negative then -(n : Int) else n

/-- The integer that a double denotes, if it denotes one. -/
def toInt? : Double → Option Int
  | nan => none
  | infinite _ => none
  | finite s m e =>
    if 0 ≤ e then some (signed s (m * 2 ^ e.toNat))
    else if m % 2 ^ (-e).toNat = 0 then some (signed s (m / 2 ^ (-e).toNat))
    else none

/-- The order of `a * 2 ^ i` and `b * 2 ^ j`. -/
def compareScaled (a : Int) (i : Int) (b : Int) (j : Int) : Ordering :=
  compare (a * 2 ^ (i - j).toNat) (b * 2 ^ (j - i).toNat)

/-- The order of two doubles by value; there is none where one is not a number. -/
def compare? : Double → Double → Option Ordering
  | nan, _ => none
  | _, nan => none
  | infinite s, infinite t => some (compare t s)
  | infinite s, finite .. => some (if s then .lt else .gt)
  | finite .., infinite t => some (if t then .gt else .lt)
  | finite s m e, finite t n f => some (compareScaled (signed s m) e (signed t n) f)

/-- An integer of any size as a dyadic number; not rounded, so it may be no double. -/
def exactInt (n : Int) : Double := finite (n < 0) n.natAbs 0

/-- Is the value a whole number divisible by two? -/
def isEven (d : Double) : Bool :=
  match d.toInt? with
  | some n => n % 2 == 0
  | none => false

end Double

end Conform
