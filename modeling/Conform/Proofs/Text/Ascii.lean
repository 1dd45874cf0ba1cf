import Conform.Text.Word

/-!
# Letters and digits of ASCII

The test for letters and digits of ASCII holds of 62 characters. That it holds of no others is decided on
the 128 codes of ASCII, beyond which it fails.
-/

namespace Conform.Text

variable {c : Char}

/-- The letters and digits of ASCII. -/
def asciiAlphanumerics : List Char :=
  "abcdefghijklmnopqrstuvwxyzABCDEFGHIJKLMNOPQRSTUVWXYZ0123456789".toList

theorem toNat_lt_of_isAsciiAlphanumeric (hc : isAsciiAlphanumeric c = true) : c.toNat < 0x80 := by
  have hcases : ('a' ≤ c ∧ c ≤ 'z' ∨ 'A' ≤ c ∧ c ≤ 'Z') ∨ '0' ≤ c ∧ c ≤ '9' := by
    simpa [isAsciiAlphanumeric, isAsciiLetter] using hc
  have hbound : c.toNat ≤ 122 ∨ c.toNat ≤ 90 ∨ c.toNat ≤ 57 := by
    rcases hcases with (⟨-, h⟩ | ⟨-, h⟩) | ⟨-, h⟩
    · exact Or.inl h
    · exact Or.inr (Or.inl h)
    · exact Or.inr (Or.inr h)
  omega

theorem isAsciiAlphanumeric_iff : isAsciiAlphanumeric c = true ↔ c ∈ asciiAlphanumerics := by
  have hlisted : ∀ n < 0x80, isAsciiAlphanumeric (Char.ofNat n) = true →
      Char.ofNat n ∈ asciiAlphanumerics := by
    decide +kernel
  have hclass : asciiAlphanumerics.all isAsciiAlphanumeric = true := by decide
  constructor
  · intro hc
    have hn := hlisted c.toNat (toNat_lt_of_isAsciiAlphanumeric hc)
    rw [Char.ofNat_toNat] at hn
    exact hn hc
  · exact List.all_eq_true.1 hclass c

end Conform.Text
