import Conform.Json.Reader
import Conform.Json.Writer

/-!
# Strings that are written and read back

Between its quotes a string is written character by character, as the character itself or as an escape:
a letter behind a backslash, a unit of four hexadecimal digits, or the two surrogates of a character
beyond 16 bits. The reader looks at what follows an escape before it accepts one of four digits, so the
text of a character is read back in front of any text that is not empty, as it always is before the
closing quote. Either layout will do.
-/

namespace Conform.Json

open Text

variable {opening s r : List Char} {c e : Char} {n : Nat}

/-! ## Hexadecimal digits -/

theorem hexValue?_hexDigit {d : Nat} (h : d < 16) : hexValue? (hexDigit d) = some d := by
  have hall : ∀ d < 16, hexValue? (hexDigit d) = some d := by decide
  exact hall d h

theorem hexDigits_four (n : Nat) :
    hexDigits 4 n = [hexDigit (n / 4096 % 16), hexDigit (n / 256 % 16), hexDigit (n / 16 % 16),
      hexDigit (n % 16)] := by
  simp [hexDigits, Nat.div_div_eq_div_mul]

/-- Four digits denote the 16-bit unit that they are written for. -/
theorem hexUnit?_hexDigit (h : n < 0x10000) :
    hexUnit? (hexDigit (n / 4096 % 16)) (hexDigit (n / 256 % 16)) (hexDigit (n / 16 % 16))
      (hexDigit (n % 16)) = some n := by
  have hmod : ∀ m : Nat, hexValue? (hexDigit (m % 16)) = some (m % 16) := by
    intro m
    exact hexValue?_hexDigit (by omega)
  have hvalue : ((n / 4096 % 16 * 16 + n / 256 % 16) * 16 + n / 16 % 16) * 16 + n % 16 = n := by
    omega
  simp [hexUnit?, hmod, hvalue]

/-! ## Escapes -/

/-- The escape of a unit that opens no surrogate pair denotes the unit. -/
theorem escape_unit (h : n < 0x10000) (hn : isHigh n = false) :
    escape opening ('u' :: (hexDigits 4 n ++ e :: r)) = .ok (unitChar n, 5) := by
  rw [hexDigits_four]
  simp only [List.cons_append, List.nil_append, escape, hexUnit?_hexDigit h, hn]
  split <;> rfl

/-- The escapes of the two surrogates of a pair denote the character of the pair. -/
theorem escape_pair (opening r : List Char) (e : Char) {high low : Nat} (hhigh : isHigh high = true)
    (hlow : isLow low = true) :
    escape opening ('u' :: (hexDigits 4 high ++ '\\' :: 'u' :: (hexDigits 4 low ++ e :: r))) =
      .ok (pairChar high low, 11) := by
  have hhigh' : high < 0x10000 := by
    simp only [isHigh, Bool.and_eq_true, decide_eq_true_eq] at hhigh
    omega
  have hlow' : low < 0x10000 := by
    simp only [isLow, Bool.and_eq_true, decide_eq_true_eq] at hlow
    omega
  rw [hexDigits_four, hexDigits_four]
  simp only [List.cons_append, List.nil_append, escape, hexUnit?_hexDigit hhigh',
    hexUnit?_hexDigit hlow', hhigh, hlow, if_true]

theorem letterChar?_of_escapeLetter? {l : Char} (h : escapeLetter? c = some l) :
    letterChar? l = some c ∧ l ≠ 'u' := by
  unfold escapeLetter? at h
  iterate 7
    split at h
    · cases h
      subst_vars
      exact ⟨rfl, by decide⟩
  cases h

/-- A letter behind a backslash denotes the character that it stands for. -/
theorem escape_letter {l : Char} (h : escapeLetter? c = some l) :
    escape opening (l :: s) = .ok (c, 1) := by
  obtain ⟨hl, hu⟩ := letterChar?_of_escapeLetter? h
  unfold escape
  split
  · rename_i heq
    cases heq
  · rename_i heq
    exact absurd (List.cons.inj heq).1 hu
  · rename_i heq
    cases heq
    rw [if_neg hu, hl]

/-! ## Characters -/

/-- Passing over characters. -/
theorem chars_pass (opening xs s : List Char) :
    chars opening xs.length (xs ++ s) = chars opening 0 s := by
  induction xs with
  | nil => rfl
  | cons x xs ih => exact ih

theorem chars_backslash {x : Char} {k : Nat} (h : escape opening r = .ok (x, k)) :
    chars opening 0 ('\\' :: r) = onto x (chars opening k r) := by
  rw [chars, if_neg (by decide), if_pos rfl, h]

/-- No character is a surrogate. -/
theorem isHigh_toNat (c : Char) : isHigh c.toNat = false ∧ isLow c.toNat = false := by
  have hvalid : c.toNat < 0xD800 ∨ 0xDFFF < c.toNat ∧ c.toNat < 0x110000 := c.valid
  simp only [isHigh, isLow, Bool.and_eq_false_iff, decide_eq_false_iff_not]
  omega

/-- The surrogates of a character beyond 16 bits are a pair for the character. -/
theorem surrogates (h : ¬c.toNat < 0x10000) :
    isHigh (0xD800 + (c.toNat - 0x10000) / 0x400) = true ∧
      isLow (0xDC00 + (c.toNat - 0x10000) % 0x400) = true ∧
      pairChar (0xD800 + (c.toNat - 0x10000) / 0x400) (0xDC00 + (c.toNat - 0x10000) % 0x400) = c := by
  have hvalid : c.toNat < 0xD800 ∨ 0xDFFF < c.toNat ∧ c.toNat < 0x110000 := c.valid
  refine ⟨?_, ?_, ?_⟩
  · simp only [isHigh, Bool.and_eq_true, decide_eq_true_eq]
    omega
  · simp only [isLow, Bool.and_eq_true, decide_eq_true_eq]
    omega
  · have hsum : 0x10000 + (0xD800 + (c.toNat - 0x10000) / 0x400 - 0xD800) * 0x400 +
        (0xDC00 + (c.toNat - 0x10000) % 0x400 - 0xDC00) = c.toNat := by omega
    rw [pairChar, hsum]
    exact Char.ofNat_toNat c

/-- The escape of a character is read back in front of a text that is not empty. -/
theorem chars_unicodeEscape (hs : s ≠ []) :
    chars opening 0 (unicodeEscape c ++ s) = onto c (chars opening 0 s) := by
  obtain ⟨e, r, rfl⟩ := List.exists_cons_of_ne_nil hs
  unfold unicodeEscape unitEscape
  by_cases hn : c.toNat < 0x10000
  · obtain ⟨hhigh, hlow⟩ := isHigh_toNat c
    have hunit : unitChar c.toNat = c := by
      rw [unitChar, hhigh, hlow]
      exact Char.ofNat_toNat c
    have hescape : escape opening ('u' :: (hexDigits 4 c.toNat ++ e :: r)) = .ok (c, 5) := by
      rw [escape_unit hn hhigh, hunit]
    simp only [hn, if_true]
    exact (chars_backslash hescape).trans
      (congrArg (onto c) (chars_pass opening ('u' :: hexDigits 4 c.toNat) (e :: r)))
  · obtain ⟨hhigh, hlow, hpair⟩ := surrogates hn
    have hescape := escape_pair opening r e hhigh hlow
    rw [hpair] at hescape
    simp only [hn, if_false, List.append_assoc]
    generalize 0xD800 + (c.toNat - 0x10000) / 0x400 = high at hescape ⊢
    generalize 0xDC00 + (c.toNat - 0x10000) % 0x400 = low at hescape ⊢
    exact (chars_backslash hescape).trans (congrArg (onto c)
      (chars_pass opening ('u' :: (hexDigits 4 high ++ '\\' :: 'u' :: hexDigits 4 low)) (e :: r)))

/-- In either layout a character is read back in front of a text that is not empty. -/
theorem chars_writeChar (ascii : Bool) (hs : s ≠ []) :
    chars opening 0 (writeChar ascii c ++ s) = onto c (chars opening 0 s) := by
  unfold writeChar
  split
  · rename_i l hl
    exact chars_backslash (escape_letter hl)
  · rename_i hl
    have hquote : c ≠ '"' := by
      rintro rfl
      cases hl
    have hbackslash : c ≠ '\\' := by
      rintro rfl
      cases hl
    split
    · exact chars_unicodeEscape hs
    · rename_i hcontrol
      split
      · exact chars_unicodeEscape hs
      · rw [List.singleton_append, chars, if_neg hquote, if_neg hbackslash, if_neg hcontrol]

/-! ## Strings -/

/-- A string is read up to its closing quote. -/
theorem chars_writeString (ascii : Bool) (opening xs r : List Char) :
    chars opening 0 (xs.flatMap (writeChar ascii) ++ '"' :: r) = .ok (xs, r) := by
  induction xs with
  | nil => rfl
  | cons x xs ih =>
    have hrest : xs.flatMap (writeChar ascii) ++ '"' :: r ≠ [] := by simp
    rw [List.flatMap_cons, List.append_assoc, chars_writeChar ascii hrest, ih]
    rfl

/-- A document that is a string to its end. -/
theorem read_of_chars {xs : List Char} (h : chars ('"' :: s) 0 s = .ok (xs, [])) :
    read ('"' :: s) = .ok (.string (String.ofList xs)) := by
  have hvalue : value (2 * ('"' :: s).length + 2) ('"' :: s) =
      .ok (.string (String.ofList xs), []) := by
    rw [value, h]
    rfl
  have hskip : skip ('"' :: s) = '"' :: s := rfl
  have hread : read ('"' :: s) = document ('"' :: s) := rfl
  rw [hread, document, hskip, hvalue]
  rfl

end Conform.Json
