import Conform.Proofs.Double.Integer
import Mathlib.Algebra.Field.Rat
import Mathlib.Data.Int.Cast.Lemmas

/-!
# The size of a double

A double denotes an infinity or a rational number, or nothing at all. The order of doubles is decided on
integers, which are brought to one exponent first; that two doubles are level means that they denote the
same, however each of them is represented.
-/

namespace Conform.Double

/-- What a number denotes. -/
inductive Size where
  /-- Positive or negative infinity. -/
  | infinite (negative : Bool)
  /-- A rational number. -/
  | rational (q : ℚ)

/-- What a double denotes; what is not a number denotes nothing. -/
def size? : Double → Option Size
  | nan => none
  | infinite s => some (.infinite s)
  | finite s m e => some (.rational (signed s m * 2 ^ e))

theorem size?_exactInt (n : Int) : (exactInt n).size? = some (.rational n) := by
  have hvalue : (signed (decide (n < 0)) n.natAbs : ℚ) * 2 ^ (0 : Int) = n := by
    rw [signed_natAbs, zpow_zero, mul_one]
  rw [exactInt, size?, hvalue]

/-- Integers of two scales are level if the rationals are equal: both are compared at the lesser of the
    two exponents. -/
theorem compareScaled_eq_iff (a i b j : Int) :
    compareScaled a i b j = .eq ↔ (a : ℚ) * 2 ^ i = b * 2 ^ j := by
  have hscale : ∀ c l k : Int, k ≤ l →
      (c : ℚ) * 2 ^ l = ((c * 2 ^ (l - k).toNat : Int) : ℚ) * 2 ^ k := by
    intro c l k hk
    have hl : l = ((l - k).toNat : Int) + k := by omega
    have hpow : (2 : ℚ) ^ l = 2 ^ (l - k).toNat * 2 ^ k := by
      conv_lhs => rw [hl]
      rw [zpow_add₀ (by decide), zpow_natCast]
    rw [hpow, ← mul_assoc]
    push_cast
    rfl
  have hne : (2 : ℚ) ^ min i j ≠ 0 := zpow_ne_zero _ (by decide)
  have hi : (i - min i j).toNat = (i - j).toNat := by omega
  have hj : (j - min i j).toNat = (j - i).toNat := by omega
  rw [hscale a i (min i j) (by omega), hscale b j (min i j) (by omega), hi, hj, mul_left_inj' hne,
    Int.cast_inj, compareScaled, compare_eq_iff_eq]

/-- Two doubles are level exactly if both denote something, and the same. -/
theorem compare?_eq_iff {a b : Double} :
    compare? a b = some .eq ↔ ∃ z, a.size? = some z ∧ b.size? = some z := by
  cases a with
  | nan => simp [compare?, size?]
  | infinite s =>
    cases b with
    | nan => simp [compare?, size?]
    | infinite t => cases s <;> cases t <;> simp [compare?, size?]
    | finite t n f => cases s <;> simp [compare?, size?]
  | finite s m e =>
    cases b with
    | nan => simp [compare?, size?]
    | infinite t => cases t <;> simp [compare?, size?]
    | finite t n f =>
      simp only [compare?, size?, Option.some.injEq, exists_eq_left', Size.rational.injEq]
      rw [compareScaled_eq_iff]
      exact eq_comm

/-- A double that denotes an integer has its size. -/
theorem size?_of_toInt? {d : Double} {n : Int} (h : d.toInt? = some n) :
    d.size? = some (.rational n) := by
  have hlevel : compare? (exactInt n) d = some .eq := by
    rw [compare?_exactInt h, compare_eq_iff_eq.2 rfl]
  obtain ⟨z, hn, hd⟩ := compare?_eq_iff.1 hlevel
  rw [hd, ← hn, size?_exactInt]

end Conform.Double
