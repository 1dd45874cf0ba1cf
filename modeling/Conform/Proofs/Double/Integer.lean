import Conform.Double.Rounding
import Mathlib.Algebra.Order.Ring.Int
import Mathlib.Tactic.SplitIfs

/-!
# Integers in double precision

Double precision holds the integers of 53 significant bits below `2 ^ 1024`. An integer of another
form rounds to the nearest of these, or to infinity if its size is at least that of the middle
between the greatest double and `2 ^ 1024`. The size of an integer of `l + 1` bits is rounded to a
multiple of `2 ^ (l - 52)`, the distance of the doubles of that size: the quotient is rounded by its
remainder, so no other multiple is nearer, and the doubles of smaller exponents all lie on the far
side of one.
-/

namespace Conform.Double

/-! ## Rounding a quotient -/

/-- The rounded quotient is the quotient if the remainder is at most a half, and the next number if
    it is at least a half. -/
theorem roundQuotient_cases (num den : Nat) :
    roundQuotient num den = num / den ∧ 2 * (num % den) ≤ den ∨
      roundQuotient num den = num / den + 1 ∧ den ≤ 2 * (num % den) := by
  unfold roundQuotient
  dsimp only
  split_ifs
  · exact Or.inl ⟨rfl, by omega⟩
  · exact Or.inr ⟨rfl, by omega⟩
  · exact Or.inl ⟨rfl, by omega⟩
  · exact Or.inr ⟨rfl, by omega⟩

/-- An odd quotient is rounded up from a half on. -/
theorem roundQuotient_of_odd {num den : Nat} (hq : num / den % 2 = 1) (hr : den ≤ 2 * (num % den)) :
    roundQuotient num den = num / den + 1 := by
  unfold roundQuotient
  dsimp only
  split_ifs
  · omega
  · rfl
  · omega
  · rfl

theorem roundQuotient_one (num : Nat) : roundQuotient num 1 = num := by
  simp [roundQuotient, Nat.mod_one]

/-- No multiple of the denominator is nearer to the numerator than the rounded quotient's. -/
theorem roundQuotient_nearest (num den k : Nat) (hd : 0 < den) :
    ((num : Int) - (roundQuotient num den * den : Nat)).natAbs ≤
      ((num : Int) - (k * den : Nat)).natAbs := by
  have hsplit : num / den * den + num % den = num := Nat.div_add_mod' num den
  have hrem := Nat.mod_lt num hd
  -- another multiple is at most the one of the quotient or at least the next one
  have hside : k * den ≤ num / den * den ∨ num / den * den + den ≤ k * den := by
    rcases Nat.lt_or_ge (num / den) k with h | h
    · have hmul := Nat.mul_le_mul_right den h
      rw [Nat.succ_mul] at hmul
      exact Or.inr hmul
    · exact Or.inl (Nat.mul_le_mul_right den h)
  rcases roundQuotient_cases num den with ⟨hq, hr⟩ | ⟨hq, hr⟩
  · rw [hq]
    omega
  · rw [hq, Nat.succ_mul]
    omega

/-- A quotient below `2 ^ 53` is rounded up to it exactly from the middle before it on. -/
theorem roundQuotient_eq_iff {n d : Nat} (hd : 0 < d) (hn : n < 2 ^ 53 * d) :
    roundQuotient n d = 2 ^ 53 ↔ (2 ^ 54 - 1) * d ≤ 2 * n := by
  have hsplit : n / d * d + n % d = n := Nat.div_add_mod' n d
  have hrem := Nat.mod_lt n hd
  have hq : n / d < 2 ^ 53 := Nat.div_lt_of_lt_mul (by rwa [Nat.mul_comm] at hn)
  constructor
  · intro h
    rcases roundQuotient_cases n d with ⟨hr, -⟩ | ⟨hr, hhalf⟩
    · omega
    · have hlast : n / d = 2 ^ 53 - 1 := by omega
      rw [hlast] at hsplit
      omega
  · intro h
    have hlast : n / d = 2 ^ 53 - 1 := by
      by_contra hne
      have hle : n / d * d ≤ (2 ^ 53 - 2) * d := Nat.mul_le_mul_right d (by omega)
      omega
    rw [hlast] at hsplit
    have hround := @roundQuotient_of_odd n d (by omega) (by omega)
    omega

/-! ## Integers that double precision holds -/

/-- An integer that double precision holds. -/
def Exact (n : Int) : Prop := ∃ m e : Nat, m < 2 ^ 53 ∧ e ≤ 971 ∧ n.natAbs = m * 2 ^ e

/-- Integers of up to 53 bits are held as they are. -/
theorem exact_of_natAbs_lt {n : Int} (h : n.natAbs < 2 ^ 53) : Exact n :=
  ⟨n.natAbs, 0, h, by decide, by rw [Nat.pow_zero, Nat.mul_one]⟩

theorem natAbs_signed (s : Bool) (n : Nat) : (signed s n).natAbs = n := by
  cases s <;> simp [signed]

theorem signed_natAbs (n : Int) : signed (decide (n < 0)) n.natAbs = n := by
  unfold signed
  split <;> rename_i h <;> simp at h <;> omega

/-- An integer is as far from a natural number with its own sign as its size is from the number. -/
theorem natAbs_sub_signed (n : Int) (k : Nat) :
    (n - signed (decide (n < 0)) k).natAbs = ((n.natAbs : Int) - k).natAbs := by
  unfold signed
  split <;> rename_i h <;> simp at h <;> omega

theorem toInt?_finite_zero (s : Bool) (e : Int) : (finite s 0 e).toInt? = some 0 := by
  simp [toInt?, signed]

theorem toInt?_finite (s : Bool) (m k : Nat) :
    (finite s m k).toInt? = some (signed s (m * 2 ^ k)) := by
  simp [toInt?]

theorem toInt?_finite_neg (s : Bool) (m k : Nat) :
    (finite s (m * 2 ^ k) (-(k : Int))).toInt? = some (signed s m) := by
  have hpos : 0 < 2 ^ k := Nat.two_pow_pos k
  rcases Nat.eq_zero_or_pos k with rfl | hk
  · simp [toInt?]
  · simp [toInt?, hk.ne', Nat.mul_mod_left, Nat.mul_div_cancel _ hpos]

/-- The integer that a double denotes is one that double precision holds. -/
theorem exact_of_toInt? {s : Bool} {m : Nat} {e n : Int} (hm : m < 2 ^ 53) (he : e ≤ 971)
    (h : (finite s m e).toInt? = some n) : Exact n := by
  simp only [toInt?] at h
  split_ifs at h with hpos hmod
  · cases h
    exact ⟨m, e.toNat, hm, by omega, natAbs_signed s _⟩
  · cases h
    refine ⟨m / 2 ^ (-e).toNat, 0, ?_, by omega, by rw [natAbs_signed]; simp⟩
    exact Nat.lt_of_le_of_lt (Nat.div_le_self _ _) hm

/-! ## Rounding a natural number -/

/-- The distance of the doubles of the size of a natural number, where it is more than one. -/
def spacing (n : Nat) : Nat := 2 ^ (n.log2 - 52)

/-- The multiple of the spacing that is nearest to a natural number. -/
def nearest (n : Nat) : Nat := roundQuotient n (spacing n) * spacing n

theorem spacing_pos (n : Nat) : 0 < spacing n := Nat.two_pow_pos _

theorem lt_mul_spacing {n : Nat} (h : 52 ≤ n.log2) : n < 2 ^ 53 * spacing n := by
  calc n < 2 ^ (n.log2 + 1) := Nat.lt_log2_self
    _ = 2 ^ 53 * spacing n := by rw [spacing, ← Nat.pow_add]; congr 1; omega

theorem mul_spacing_le {n : Nat} (hn : n ≠ 0) (h : 52 ≤ n.log2) : 2 ^ 52 * spacing n ≤ n := by
  calc 2 ^ 52 * spacing n = 2 ^ n.log2 := by rw [spacing, ← Nat.pow_add]; congr 1; omega
    _ ≤ n := Nat.log2_self_le hn

theorem roundQuotient_spacing_le {n : Nat} (h : 52 ≤ n.log2) :
    roundQuotient n (spacing n) ≤ 2 ^ 53 := by
  have hq : n / spacing n < 2 ^ 53 := Nat.div_lt_of_lt_mul (by
    have hlt := lt_mul_spacing h
    rwa [Nat.mul_comm] at hlt)
  rcases roundQuotient_cases n (spacing n) with ⟨hr, -⟩ | ⟨hr, -⟩ <;> omega

/-- A natural number of at most 53 bits is the nearest one to itself. -/
theorem nearest_of_le {n : Nat} (h : n.log2 ≤ 52) : nearest n = n := by
  have hone : spacing n = 1 := by rw [spacing, Nat.sub_eq_zero_of_le h, Nat.pow_zero]
  rw [nearest, hone, roundQuotient_one, Nat.mul_one]

/-- No number of 53 significant bits is nearer to a natural number than the nearest multiple of its
    spacing. -/
theorem nearest_least {n m : Nat} (hm : m < 2 ^ 53) (e : Nat) :
    ((n : Int) - nearest n).natAbs ≤ ((n : Int) - (m * 2 ^ e : Nat)).natAbs := by
  rcases Nat.le_total n.log2 52 with h | h
  · rw [nearest_of_le h, Int.sub_self]
    exact Nat.zero_le _
  have hn : n ≠ 0 := by
    rintro rfl
    exact absurd h (by decide)
  rcases Nat.lt_or_ge e (n.log2 - 52) with he | he
  · -- the number lies at or below `2 ^ 52` times the spacing, which is at or below `n`
    have hlow := mul_spacing_le hn h
    have hfar : m * 2 ^ e ≤ 2 ^ 52 * spacing n := by
      calc m * 2 ^ e ≤ 2 ^ 53 * 2 ^ e := Nat.mul_le_mul_right _ hm.le
        _ = 2 ^ 52 * 2 ^ (e + 1) := by rw [Nat.pow_succ 2 e]; omega
        _ ≤ 2 ^ 52 * spacing n := Nat.mul_le_mul_left _ (Nat.pow_le_pow_right (by decide) he)
    have hnear := roundQuotient_nearest n (spacing n) (2 ^ 52) (spacing_pos n)
    rw [nearest]
    omega
  · have hmultiple : m * 2 ^ e = m * 2 ^ (e - (n.log2 - 52)) * spacing n := by
      rw [spacing, Nat.mul_assoc, ← Nat.pow_add, Nat.sub_add_cancel he]
    rw [hmultiple]
    exact roundQuotient_nearest n (spacing n) _ (spacing_pos n)

theorem exponentFor_one {n : Nat} (hn : n ≠ 0) : exponentFor n 1 = (n.log2 : Int) - 52 := by
  have hlow := Nat.log2_self_le hn
  have hlog : Nat.log2 1 = 0 := rfl
  unfold exponentFor scaled
  simp only [hlog]
  rw [if_neg, minExponent]
  · omega
  · rw [Nat.not_lt, Nat.one_mul]
    rcases Nat.lt_or_ge n.log2 53 with h | h
    · have he : (((n.log2 : Int) - (0 : Nat) - 53)).toNat = 0 := by omega
      have he' : (-((n.log2 : Int) - (0 : Nat) - 53)).toNat = 53 - n.log2 := by omega
      rw [he, he', Nat.pow_zero, Nat.mul_one]
      calc 2 ^ 53 = 2 ^ n.log2 * 2 ^ (53 - n.log2) := by rw [← Nat.pow_add]; congr 1; omega
        _ ≤ n * 2 ^ (53 - n.log2) := Nat.mul_le_mul_right _ hlow
    · have he : (((n.log2 : Int) - (0 : Nat) - 53)).toNat = n.log2 - 53 := by omega
      have he' : (-((n.log2 : Int) - (0 : Nat) - 53)).toNat = 0 := by omega
      rw [he, he', Nat.pow_zero, Nat.mul_one, ← Nat.pow_add]
      calc 2 ^ (53 + (n.log2 - 53)) = 2 ^ n.log2 := by congr 1; omega
        _ ≤ n := hlow

theorem mul_two_pow_lt {n : Nat} (h : n.log2 ≤ 52) : n * 2 ^ (52 - n.log2) < 2 ^ 53 := by
  calc n * 2 ^ (52 - n.log2) < 2 ^ (n.log2 + 1) * 2 ^ (52 - n.log2) :=
        Nat.mul_lt_mul_of_pos_right Nat.lt_log2_self (Nat.two_pow_pos _)
    _ = 2 ^ 53 := by rw [← Nat.pow_add]; congr 1; omega

/-- An integer of at most 53 bits is a double. -/
theorem ofRatio_small (s : Bool) {n : Nat} (hn : n ≠ 0) (h : n.log2 ≤ 52) :
    ofRatio s n 1 = finite s (n * 2 ^ (52 - n.log2)) (-((52 - n.log2 : Nat) : Int)) := by
  have hlt := mul_two_pow_lt h
  have he : ((n.log2 : Int) - 52).toNat = 0 := by omega
  have he' : (-((n.log2 : Int) - 52)).toNat = 52 - n.log2 := by omega
  unfold ofRatio scaled
  rw [if_neg hn]
  simp only [exponentFor_one hn, he, he', Nat.pow_zero, Nat.mul_one, roundQuotient_one, maxExponent]
  rw [if_neg hlt.ne, if_neg (by omega)]
  congr 1
  omega

/-- An integer of at least 53 bits is rounded to a multiple of its spacing, unless that is too large
    for a double. -/
theorem ofRatio_large (s : Bool) {n : Nat} (hn : n ≠ 0) (h : 52 ≤ n.log2) :
    ofRatio s n 1 =
      if roundQuotient n (spacing n) = 2 ^ 53 then
        if 971 ≤ n.log2 - 52 then infinite s else finite s (2 ^ 52) ((n.log2 - 51 : Nat) : Int)
      else if 971 < n.log2 - 52 then infinite s
      else finite s (roundQuotient n (spacing n)) ((n.log2 - 52 : Nat) : Int) := by
  have he : ((n.log2 : Int) - 52).toNat = n.log2 - 52 := by omega
  have he' : (-((n.log2 : Int) - 52)).toNat = 0 := by omega
  unfold ofRatio scaled spacing
  rw [if_neg hn]
  simp only [exponentFor_one hn, he, he', Nat.pow_zero, Nat.mul_one, Nat.one_mul, maxExponent]
  congr 1
  · refine if_congr (by omega) rfl ?_
    congr 1
    omega
  · refine if_congr (by omega) rfl ?_
    congr 1
    omega

/-! ## Overflow -/

/-- Half the distance of the greatest doubles. -/
def halfSpacing : Nat := 2 ^ 970

/-- The size from which on integers round to infinity: the middle between the greatest double,
    `(2 ^ 54 - 2) * halfSpacing`, and `2 ^ 1024`. -/
def overflow : Nat := (2 ^ 54 - 1) * halfSpacing

theorem two_pow_le {k l : Nat} (h : l ≤ k + 970) : 2 ^ l ≤ 2 ^ k * halfSpacing := by
  rw [halfSpacing, ← Nat.pow_add]
  exact Nat.pow_le_pow_right (by decide) h

theorem le_two_pow {k l : Nat} (h : k + 970 ≤ l) : 2 ^ k * halfSpacing ≤ 2 ^ l := by
  rw [halfSpacing, ← Nat.pow_add]
  exact Nat.pow_le_pow_right (by decide) h

theorem halfSpacing_pos : 0 < halfSpacing := by
  have h : 2 ^ 0 ≤ 2 ^ 0 * halfSpacing := two_pow_le (by decide)
  omega

theorem overflow_pos : 0 < overflow := by
  have hpos := halfSpacing_pos
  unfold overflow
  omega

/-- A natural number of at most 1023 bits does not overflow. -/
theorem lt_overflow {n : Nat} (h : n.log2 ≤ 1022) : n < overflow := by
  have hlt : n < 2 ^ (n.log2 + 1) := Nat.lt_log2_self
  have hle : 2 ^ (n.log2 + 1) ≤ 2 ^ 53 * halfSpacing := two_pow_le (by omega)
  have hpos := halfSpacing_pos
  unfold overflow
  omega

/-- A natural number of more than 1024 bits overflows. -/
theorem overflow_le {n : Nat} (hn : n ≠ 0) (h : 1024 ≤ n.log2) : overflow ≤ n := by
  have hge := Nat.log2_self_le hn
  have hle : 2 ^ 54 * halfSpacing ≤ 2 ^ n.log2 := le_two_pow (by omega)
  unfold overflow
  omega

theorem Exact.lt_overflow {n : Int} (h : Exact n) : n.natAbs < overflow := by
  obtain ⟨m, e, hm, he, hn⟩ := h
  have hscale : 2 ^ e ≤ 2 ^ 1 * halfSpacing := two_pow_le (by omega)
  have hpos := halfSpacing_pos
  calc n.natAbs = m * 2 ^ e := hn
    _ ≤ (2 ^ 53 - 1) * (2 ^ 1 * halfSpacing) := Nat.mul_le_mul (by omega) hscale
    _ < overflow := by unfold overflow; omega

theorem spacing_top {n : Nat} (h : n.log2 = 1023) : spacing n = 2 * halfSpacing :=
  (Nat.le_antisymm (two_pow_le (by omega)) (le_two_pow (by omega))).trans
    (congrArg (· * halfSpacing) (Nat.pow_one 2))

/-- A natural number of 1024 bits is rounded up to `2 ^ 1024` exactly if it overflows. -/
theorem roundQuotient_spacing_top {n : Nat} (h : n.log2 = 1023) :
    roundQuotient n (spacing n) = 2 ^ 53 ↔ overflow ≤ n := by
  rw [roundQuotient_eq_iff (spacing_pos n) (lt_mul_spacing (by omega)), spacing_top h]
  unfold overflow
  omega

/-- A natural number with a sign rounds to the nearest multiple of its spacing with that sign, or to
    infinity. -/
theorem ofRatio_one_cases (s : Bool) {n : Nat} (hn : n ≠ 0) :
    (n < overflow ∧ ∃ m e, ofRatio s n 1 = finite s m e ∧ m < 2 ^ 53 ∧ e ≤ 971 ∧
      (finite s m e).toInt? = some (signed s (nearest n))) ∨
    (overflow ≤ n ∧ ofRatio s n 1 = infinite s) := by
  rcases Nat.le_total n.log2 52 with h | h
  · have hlt : n * 2 ^ (52 - n.log2) < 2 ^ 53 := mul_two_pow_lt h
    refine Or.inl ⟨lt_overflow (by omega), _, _, ofRatio_small s hn h, hlt, by omega, ?_⟩
    rw [toInt?_finite_neg, nearest_of_le h]
  rw [ofRatio_large s hn h]
  by_cases hm : roundQuotient n (spacing n) = 2 ^ 53
  · rw [if_pos hm]
    split
    · rename_i he
      refine Or.inr ⟨?_, rfl⟩
      rcases Nat.lt_or_ge n.log2 1024 with hl | hl
      · exact (roundQuotient_spacing_top (by omega)).1 hm
      · exact overflow_le hn hl
    · rename_i he
      refine Or.inl ⟨lt_overflow (by omega), _, _, rfl, by decide, by omega, ?_⟩
      have hstep : n.log2 - 51 = n.log2 - 52 + 1 := by omega
      rw [toInt?_finite, nearest, hm, spacing, hstep, Nat.pow_succ]
      congr 2
      omega
  · rw [if_neg hm]
    have hlt := roundQuotient_spacing_le h
    split
    · rename_i he
      exact Or.inr ⟨overflow_le hn (by omega), rfl⟩
    · rename_i he
      refine Or.inl ⟨?_, _, _, rfl, by omega, by omega, toInt?_finite _ _ _⟩
      rcases Nat.lt_or_ge n.log2 1023 with hl | hl
      · exact lt_overflow (by omega)
      · exact Nat.lt_of_not_le fun ho => hm ((roundQuotient_spacing_top (by omega)).2 ho)

/-! ## The nearest integer -/

/-- An integer that double precision holds, and that no other one is nearer to a given integer
    than. -/
structure Nearest (n k : Int) : Prop where
  exact : Exact k
  least : ∀ j, Exact j → (n - k).natAbs ≤ (n - j).natAbs

theorem Nearest.eq {n k : Int} (h : Nearest n k) (hn : Exact n) : k = n := by
  have hle := h.least n hn
  omega

/-- An integer that does not overflow rounds to one that is nearest to it, and one that does to
    infinity. -/
theorem ofInt_cases (n : Int) :
    (n.natAbs < overflow ∧ ∃ k, (ofInt n).toInt? = some k ∧ Nearest n k) ∨
      (overflow ≤ n.natAbs ∧ ofInt n = infinite (decide (n < 0))) := by
  rcases eq_or_ne n 0 with rfl | hn
  · have hzero : Exact 0 := exact_of_natAbs_lt (by decide)
    exact Or.inl ⟨hzero.lt_overflow, 0, toInt?_finite_zero _ _, hzero, fun j _ => by omega⟩
  rcases ofRatio_one_cases (decide (n < 0)) (Int.natAbs_ne_zero.2 hn) with
    ⟨hlt, m, e, hround, hm, he, hvalue⟩ | ⟨hle, hround⟩
  · refine Or.inl ⟨hlt, _, (congrArg toInt? hround).trans hvalue, exact_of_toInt? hm he hvalue, ?_⟩
    intro j ⟨m', e', hm', _, hj⟩
    calc (n - signed (decide (n < 0)) (nearest n.natAbs)).natAbs
        = ((n.natAbs : Int) - nearest n.natAbs).natAbs := natAbs_sub_signed n _
      _ ≤ ((n.natAbs : Int) - j.natAbs).natAbs := hj ▸ nearest_least hm' e'
      _ ≤ (n - j).natAbs := by omega
  · exact Or.inr ⟨hle, hround⟩

/-! ## Comparing -/

theorem compare_mul_right {a b p : Int} (hp : 0 < p) : compare (a * p) (b * p) = compare a b := by
  rcases lt_trichotomy a b with h | rfl | h
  · rw [compare_lt_iff_lt.2 h, compare_lt_iff_lt.2 (Int.mul_lt_mul_of_pos_right h hp)]
  · rw [compare_eq_iff_eq.2 rfl, compare_eq_iff_eq.2 rfl]
  · rw [compare_gt_iff_gt.2 h, compare_gt_iff_gt.2 (Int.mul_lt_mul_of_pos_right h hp)]

theorem signed_mul (s : Bool) (m p : Nat) : signed s (m * p) = signed s m * p := by
  cases s <;> simp [signed]

/-- A double that denotes an integer compares as the integer does. -/
theorem compare?_exactInt {d : Double} {k : Int} (h : d.toInt? = some k) (v : Int) :
    compare? (exactInt v) d = some (compare v k) := by
  cases d with
  | nan => cases h
  | infinite s => cases h
  | finite s m e =>
    simp only [compare?, exactInt, compareScaled, signed_natAbs, Option.some.injEq]
    simp only [toInt?] at h
    split_ifs at h with hpos hmod
    · cases h
      have he : (0 - e).toNat = 0 := by omega
      have he' : (e - 0).toNat = e.toNat := by omega
      rw [he, he', signed_mul]
      simp
    · cases h
      have he : (0 - e).toNat = (-e).toNat := by omega
      have he' : (e - 0).toNat = 0 := by omega
      have hdiv := Nat.div_mul_cancel (Nat.dvd_of_mod_eq_zero hmod)
      have hpow : (0 : Int) < 2 ^ (-e).toNat := Int.pow_pos (by decide)
      rw [he, he', ← hdiv, signed_mul, hdiv]
      simpa using compare_mul_right hpow

end Conform.Double
