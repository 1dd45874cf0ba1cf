import Conform.Double.Rounding
import Conform.Text.Numeral

/-!
# The shortest decimal of a double

The reals that round to a double form an interval: from the middle to the neighbour below to the
middle to the neighbour above, the ends included when the mantissa is even. The shortest decimal is
the one with the fewest digits in that interval, the nearest to the double of those, and of two
equally near ones the one with the even last digit. It is found on decimal grids of more and more
digits, of which only the two neighbours of the double have to be tried.
-/

namespace Conform.Double

-- powers are those of the core library here, whatever further instances are in scope
attribute [local instance (high)] instPowNat

/-- A decimal number `digits * 10 ^ exponent`. -/
structure Decimal where
  /-- The digits, as a natural number. -/
  digits : Nat
  /-- The power of ten they are multiplied by. -/
  exponent : Int
  deriving DecidableEq, Repr

/-- The order of `a * 10 ^ i` and `n * 2 ^ j`. -/
def compareDecimal (a : Nat) (i : Int) (n : Nat) (j : Int) : Ordering :=
  compare (a * 10 ^ i.toNat * 2 ^ (-j).toNat) (n * 2 ^ j.toNat * 10 ^ (-i).toNat)

/-- Does a decimal lie among the reals that round to `m * 2 ^ e`? Below a power of two the
neighbour is half as far away as above. -/
def readsBack (m : Nat) (e : Int) (d : Decimal) : Bool :=
  let low := if m = 2 ^ (52 : Nat) ∧ minExponent < e then 4 * m - 1 else 4 * m - 2
  let high := 4 * m + 2
  let closed := m % 2 == 0
  let l := compareDecimal d.digits d.exponent low (e - 2)
  let h := compareDecimal d.digits d.exponent high (e - 2)
  (l == .gt || (closed && l == .eq)) && (h == .lt || (closed && h == .eq))

/-- The least `k` with `m * 2 ^ e < 10 ^ k`, for a positive `m`: estimated from the binary
logarithm, then corrected. -/
def decimalPoint (m : Nat) (e : Int) : Int :=
  let k := ((m.log2 : Int) + e) * 30103 / 100000
  if compareDecimal 1 k m e == .gt then k
  else if compareDecimal 1 (k + 1) m e == .gt then k + 1
  else k + 2

/-- The decimal nearest to `m * 2 ^ e` on the grid `10 ^ p` that reads back, if one does. -/
def onGrid? (m : Nat) (e p : Int) : Option Decimal :=
  let q := (m * 2 ^ e.toNat * 10 ^ (-p).toNat) / (10 ^ p.toNat * 2 ^ (-e).toNat)
  let below : Decimal := ⟨q, p⟩
  let above : Decimal := ⟨q + 1, p⟩
  match readsBack m e below, readsBack m e above with
  | true, true =>
    match compareDecimal (2 * q + 1) p (2 * m) e with
    | .gt => some below
    | .lt => some above
    | .eq => some (if q % 2 = 0 then below else above)
  | true, false => some below
  | false, true => some above
  | false, false => none

/-- Without the zeros at the end of its digits. -/
def Decimal.strip (d : Decimal) : Nat → Decimal
  | 0 => d
  | fuel + 1 => if d.digits % 10 = 0 then strip ⟨d.digits / 10, d.exponent + 1⟩ fuel else d

/-- The shortest decimal that reads back as `m * 2 ^ e`, for a positive `m`. Seventeen digits
always suffice; the exact value stands in where no grid has a hit. -/
def shortest (m : Nat) (e : Int) : Decimal :=
  let k := decimalPoint m e
  match (List.range 17).findSome? fun n => onGrid? m e (k - (n + 1 : Nat)) with
  | some d => d.strip 20
  | none => ⟨m * 2 ^ e.toNat * 5 ^ (-e).toNat, min e 0⟩

/-! ## Layout -/

/-- A decimal as text. With the point after the digit of weight `10 ^ -4` to `10 ^ 15` it is
written out with at least one digit on either side of the point; otherwise one digit stands before
the point and the exponent follows with its sign and at least two digits. -/
def Decimal.text (d : Decimal) : List Char :=
  let ds := Text.natText d.digits
  let point : Int := ds.length + d.exponent
  if -4 < point ∧ point ≤ 16 then
    if point ≤ 0 then '0' :: '.' :: (List.replicate (-point).toNat '0' ++ ds)
    else if (ds.length : Int) ≤ point then
      ds ++ List.replicate (point - ds.length).toNat '0' ++ ['.', '0']
    else ds.take point.toNat ++ '.' :: ds.drop point.toNat
  else
    let x := point - 1
    let xs := Text.natText x.natAbs
    let padded := if xs.length < 2 then '0' :: xs else xs
    let body := match ds with
      | [] => []
      | [c] => [c]
      | c :: cs => c :: '.' :: cs
    body ++ 'e' :: (if x < 0 then '-' else '+') :: padded

/-- The text of a double: the shortest decimal, or the words for what is not finite. -/
def text : Double → List Char
  | nan => ['n', 'a', 'n']
  | infinite s => if s then ['-', 'i', 'n', 'f'] else ['i', 'n', 'f']
  | finite s m e =>
    let digits := if m = 0 then ['0', '.', '0'] else (shortest m e).text
    if s then '-' :: digits else digits

end Conform.Double
