import Conform.Proofs.Text.Trim
import Conform.Text.Numeral
import Mathlib.Data.List.Basic

/-!
# The text of an integer

The decimal text of a natural number is a run of ASCII digits that is not empty and denotes the
number; that of an integer has a minus sign in front of it or nothing. Such texts are short of
everything that readers treat in a way of its own: blanks, low lines, letters and points.
-/

namespace Conform.Text

/-- A text of digits and minus signs. -/
def IsNumeric (s : List Char) : Prop := ∀ c ∈ s, c = '-' ∨ c.isDigit = true

/-! ## Digits -/

theorem bounds_of_isDigit {c : Char} (h : c.isDigit = true) : 48 ≤ c.toNat ∧ c.toNat ≤ 57 := by
  have hc : '0'.val ≤ c.val ∧ c.val ≤ '9'.val := by simpa [Char.isDigit] using h
  exact ⟨hc.1, hc.2⟩

theorem asciiDigit?_of_isDigit {c : Char} (h : c.isDigit = true) :
    asciiDigit? c = some (c.toNat - 48) := by
  have hc : '0' ≤ c ∧ c ≤ '9' := by simpa [Char.isDigit, Char.le_def] using h
  unfold asciiDigit?
  rw [if_pos (by simpa using hc)]

theorem isAsciiDigit_of_isDigit {c : Char} (h : c.isDigit = true) : isAsciiDigit c = true := by
  rw [isAsciiDigit, asciiDigit?_of_isDigit h]
  rfl

theorem IsNumeric.toNat_cases {s : List Char} (hs : IsNumeric s) {c : Char} (hc : c ∈ s) :
    c.toNat = 45 ∨ 48 ≤ c.toNat ∧ c.toNat ≤ 57 := by
  rcases hs c hc with rfl | hd
  · exact Or.inl rfl
  · exact Or.inr (bounds_of_isDigit hd)

/-! ## Texts of natural numbers -/

theorem isDigit_of_mem_natText {n : Nat} {c : Char} (h : c ∈ natText n) : c.isDigit = true :=
  Nat.isDigit_of_mem_toDigits (by decide) (by decide) h

theorem natText_ne_nil (n : Nat) : natText n ≠ [] := Nat.toDigits_ne_nil

/-- The text of a natural number starts with a digit. -/
theorem exists_natText (n : Nat) : ∃ c s, natText n = c :: s ∧ c.isDigit = true := by
  obtain ⟨c, s, hs⟩ := List.exists_cons_of_ne_nil (natText_ne_nil n)
  exact ⟨c, s, hs, isDigit_of_mem_natText (hs ▸ List.mem_cons_self)⟩

/-- Only the text of zero starts with a zero. -/
theorem eq_zero_of_natText {n : Nat} {s : List Char} (h : natText n = '0' :: s) : n = 0 := by
  induction n using Nat.strongRecOn generalizing s with
  | _ n ih =>
    by_cases hn : n < 10
    · have hall : ∀ n < 10, Nat.digitChar n = '0' → n = 0 := by decide
      rw [natText, Nat.toDigits_of_lt_base hn] at h
      exact hall n hn (List.cons.inj h).1
    · -- the digits in front are the text of the tenth
      have hstep : natText n = natText (n / 10) ++ [Nat.digitChar (n % 10)] :=
        Nat.toDigits_of_base_le (by decide) (by omega)
      obtain ⟨c, t, ht, -⟩ := exists_natText (n / 10)
      rw [hstep, ht, List.cons_append] at h
      rw [(List.cons.inj h).1] at ht
      have htenth := ih (n / 10) (by omega) ht
      omega

/-- The values of digits denote what the digits do. -/
theorem ofDigits_digitValues {s : List Char} (h : ∀ c ∈ s, c.isDigit = true) (init : Nat) :
    (digitValues s).foldl (fun n d => 10 * n + d) init = Nat.ofDigitChars 10 s init := by
  induction s generalizing init with
  | nil => rfl
  | cons c s ih =>
    rw [List.forall_mem_cons] at h
    rw [digitValues, List.filterMap_cons_some (asciiDigit?_of_isDigit h.1), List.foldl_cons,
      Nat.ofDigitChars_cons]
    exact ih h.2 _

/-- The text of a natural number denotes the number. -/
theorem ofDigits_natText (n : Nat) : ofDigits (digitValues (natText n)) = n :=
  (ofDigits_digitValues (fun _ h => isDigit_of_mem_natText h) 0).trans Nat.ofDigitChars_ten_toDigits

/-! ## Texts of integers -/

theorem isNumeric_intText (n : Int) : IsNumeric (intText n) := by
  intro c hc
  unfold intText at hc
  split at hc
  · rcases List.mem_cons.1 hc with rfl | hc
    · exact Or.inl rfl
    · exact Or.inr (isDigit_of_mem_natText hc)
  · exact Or.inr (isDigit_of_mem_natText hc)

/-- The text of an integer starts with a minus sign or a digit. -/
theorem exists_intText (n : Int) : ∃ c s, intText n = c :: s ∧ (c = '-' ∨ c.isDigit = true) := by
  unfold intText
  split
  · exact ⟨_, _, rfl, Or.inl rfl⟩
  · obtain ⟨c, s, hs, hc⟩ := exists_natText n.natAbs
    exact ⟨c, s, hs, Or.inr hc⟩

/-- A minus sign or a digit is no other character. -/
theorem ne_of_numeric {c d : Char} (hc : c = '-' ∨ c.isDigit = true) (hminus : d ≠ '-')
    (hdigit : d.isDigit = false) : c ≠ d := by
  rintro rfl
  rcases hc with hc | hc
  · exact hminus hc
  · rw [hc] at hdigit
    cases hdigit

/-- The text of an integer splits into its sign and the text of its size. -/
theorem splitSign_intText (n : Int) : splitSign (intText n) = (decide (n < 0), natText n.natAbs) := by
  unfold intText
  split
  · rename_i hn
    rw [splitSign, decide_eq_true hn]
  · rename_i hn
    obtain ⟨c, s, hs, hc⟩ := exists_natText n.natAbs
    rw [hs, decide_eq_false hn]
    unfold splitSign
    split
    · rename_i h
      cases h
      cases hc
    · rename_i h
      cases h
      cases hc
    · rfl

/-! ## Blanks -/

/-- There is no blank in a text of digits and signs. -/
theorem IsNumeric.not_blank {s : List Char} (hs : IsNumeric s) : ∀ c ∈ s, isBlank c = false := by
  intro c hc
  have hn := hs.toNat_cases hc
  simp only [isBlank, Bool.or_eq_false_iff, Bool.and_eq_false_iff, decide_eq_false_iff_not,
    beq_eq_false_iff_ne]
  omega

theorem IsNumeric.trim_eq {s : List Char} (hs : IsNumeric s) : trim s = s := by
  have htrimmed : Trimmed s := ⟨fun c hc => hs.not_blank c (List.mem_of_head? hc),
    fun c hc => hs.not_blank c (List.mem_of_getLast? hc)⟩
  exact htrimmed.trim_eq

end Conform.Text
