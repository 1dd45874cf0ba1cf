import Conform.Double.Reader
import Conform.Proofs.Text.Numeral
import Mathlib.Data.List.TakeWhile

/-!
# Reading the text of an integer

The free notation of numbers admits blanks, low lines, words, points and exponents. The decimal text
of an integer has none of them, so every stage of the reader passes it on as it is, and what is read
is the double nearest to the integer.
-/

namespace Conform.Double

open Text

/-! ## The stages of the reader -/

theorem plainForm_of_isNumeric {s : List Char} (hs : IsNumeric s) : plainForm s = s := by
  have hplain : s.map plainChar = s := by
    refine (List.map_congr_left fun c hc => ?_).trans (List.map_id s)
    have hn := hs.toNat_cases hc
    rw [plainChar, if_pos (by omega)]
    rfl
  have hmargin : ∀ c ∈ s, isMargin c = false := by
    intro c hc
    rcases hs c hc with rfl | hd
    · rfl
    · have hn := bounds_of_isDigit hd
      have hblank : c ≠ ' ' := by
        rintro rfl
        exact absurd hn.1 (by decide)
      have hreturn : ¬c ≤ '\r' := by
        intro hle
        have hle' : c.toNat ≤ 13 := hle
        omega
      simp [isMargin, hblank, hreturn]
  have hreverse : ∀ c ∈ s.reverse, isMargin c = false := fun c hc =>
    hmargin c (List.mem_reverse.1 hc)
  rw [plainForm, hplain, dropWhile_eq_self hmargin, dropWhile_eq_self hreverse,
    List.reverse_reverse]

/-- A text without low lines is not grouped. -/
theorem ungroup?_eq_some {s : List Char} (h : '_' ∉ s) (previous : Char) :
    ungroup? previous s = some s := by
  induction s generalizing previous with
  | nil => rfl
  | cons c s ih =>
    obtain ⟨hc, hs⟩ : c ≠ '_' ∧ '_' ∉ s := by
      simpa [eq_comm] using h
    unfold ungroup?
    split
    · rename_i he
      cases he
    · rename_i he
      exact absurd (List.cons.inj he).1 hc
    · rename_i he
      cases he
      rw [if_neg hc, ih hs]
      rfl

/-- A text that starts with a digit is no word. -/
theorem word?_eq_none {negative : Bool} {c : Char} {s : List Char} (hc : c.isDigit = true) :
    word? negative (lowerAscii (c :: s)) = none := by
  have hn := bounds_of_isDigit hc
  have hlower : c.toLower = c := dif_neg fun ⟨h, _⟩ => by
    have h' : 65 ≤ c.toNat := h
    omega
  have hi : c ≠ 'i' := by
    rintro rfl
    cases hc
  have hnan : c ≠ 'n' := by
    rintro rfl
    cases hc
  simp [word?, lowerAscii, hlower, hi, hnan]

/-- Digits alone are read as the integer that they denote. -/
theorem unsigned?_natText (negative : Bool) (k : Nat) :
    unsigned? negative (natText k) = some (ofDecimal negative k 0) := by
  have hdigit : ∀ c ∈ natText k, isAsciiDigit c = true := fun c hc =>
    isAsciiDigit_of_isDigit (isDigit_of_mem_natText hc)
  have htake : (natText k).takeWhile isAsciiDigit = natText k := List.takeWhile_eq_self_iff.2 hdigit
  have hdrop : (natText k).dropWhile isAsciiDigit = [] := List.dropWhile_eq_nil_iff.2 hdigit
  unfold unsigned?
  simp [htake, hdrop, natText_ne_nil, assemble, ofDigits_natText]

/-- A natural number with a sign rounds to the double nearest to it. -/
theorem ofDecimal_zero_exponent (negative : Bool) (k : Nat) :
    ofDecimal negative k 0 = ofRatio negative k 1 := by
  unfold ofDecimal
  split
  · rename_i hk
    rw [hk]
    rfl
  · rw [if_neg (by omega), if_neg (by omega)]
    simp

/-! ## Integers -/

/-- The text of an integer is read as the double nearest to the integer. -/
theorem ofText?_intText (n : Int) : ofText? (intText n) = some (ofInt n) := by
  have hunderscore : '_' ∉ intText n := by
    intro h
    rcases isNumeric_intText n _ h with h | h
    · cases h
    · cases h
  obtain ⟨c, s, hs, hc⟩ := exists_natText n.natAbs
  unfold ofText?
  rw [plainForm_of_isNumeric (isNumeric_intText n), ungroup?_eq_some hunderscore]
  simp only [splitSign_intText]
  rw [unsigned?_natText, ofDecimal_zero_exponent, hs, word?_eq_none hc]
  rfl

end Conform.Double
