import Conform.Double.Basic

/-!
# Rounding to double precision

Every rational number rounds to the nearest double, and of two equally near ones to the one with
the even mantissa; from the middle between the greatest double and `2 ^ 1024` on it rounds to
infinity. The quotient is formed exactly: the exponent is chosen so that the scaled quotient has 53
bits, or is the least exponent -1074, and the remainder decides.
-/

namespace Conform.Double

-- powers are those of the core library here, whatever further instances are in scope
attribute [local instance (high)] instPowNat

/-- The least exponent of a double. -/
def minExponent : Int := -1074

/-- The greatest exponent of a double with a mantissa of 53 bits. -/
def maxExponent : Int := 971

/-- The quotient of two naturals rounded to the nearest natural, a half to the even one. -/
def roundQuotient (num den : Nat) : Nat :=
  let q := num / den
  let r := num % den
  if 2 * r < den then q
  else if den < 2 * r then q + 1
  else if q % 2 = 0 then q else q + 1

/-- `num / den` as a fraction of `2 ^ e`. -/
def scaled (num den : Nat) (e : Int) : Nat × Nat := (num * 2 ^ (-e).toNat, den * 2 ^ e.toNat)

/-- The exponent at which the positive quotient `num / den` has 53 bits before the point, or the
least exponent if that is greater. -/
def exponentFor (num den : Nat) : Int :=
  let e : Int := (num.log2 : Int) - den.log2 - 53
  let p := scaled num den e
  max minExponent (if p.1 < 2 ^ (53 : Nat) * p.2 then e else e + 1)

/-- The double nearest to `num / den`, with a sign. -/
def ofRatio (negative : Bool) (num den : Nat) : Double :=
  if num = 0 then finite negative 0 minExponent
  else
    let e := exponentFor num den
    let p := scaled num den e
    let m := roundQuotient p.1 p.2
    if m = 2 ^ (53 : Nat) then
      if maxExponent ≤ e then infinite negative else finite negative (2 ^ (52 : Nat)) (e + 1)
    else if maxExponent < e then infinite negative
    else finite negative m e

/-- The double nearest to `digits * 10 ^ exponent`, with a sign. Exponents that are far out of
range are settled without forming the power. -/
def ofDecimal (negative : Bool) (digits : Nat) (exponent : Int) : Double :=
  if digits = 0 then finite negative 0 minExponent
  else if 400 < exponent then infinite negative
  else if (digits.log2 : Int) + 3 * exponent < -1100 then finite negative 0 minExponent
  else ofRatio negative (digits * 10 ^ exponent.toNat) (10 ^ (-exponent).toNat)

/-- The double nearest to an integer. -/
def ofInt (n : Int) : Double := ofRatio (n < 0) n.natAbs 1

end Conform.Double
