import Conform.Proofs.Json.Roundtrip
import Conform.Text.Encoding

/-!
# Documents as bytes

In the spaced layout every character of a document is a printable one of ASCII, and so a byte. No mark
of an encoding is among such bytes and none of them is zero, so they are read as UTF-8 and give the
text back.
-/

namespace Conform.Json

open Text

variable {s t : List Char} {c : Char}

/-! ## Printable texts -/

/-- A printable character of ASCII. -/
def IsPrintable (c : Char) : Prop := 0x20 ≤ c.toNat ∧ c.toNat < 0x7F

instance (c : Char) : Decidable (IsPrintable c) := inferInstanceAs (Decidable (_ ∧ _))

/-- A text of printable characters. -/
def Printable (s : List Char) : Prop := ∀ c ∈ s, IsPrintable c

instance (s : List Char) : Decidable (Printable s) := List.decidableBAll IsPrintable s

@[simp]
theorem printable_nil : Printable [] := nofun

@[simp]
theorem printable_cons : Printable (c :: s) ↔ IsPrintable c ∧ Printable s := List.forall_mem_cons

@[simp]
theorem printable_append : Printable (s ++ t) ↔ Printable s ∧ Printable t := List.forall_mem_append

theorem isPrintable_of_isDigit (h : c.isDigit = true) : IsPrintable c := by
  have hn := bounds_of_isDigit h
  unfold IsPrintable
  omega

theorem isPrintable_hexDigit {d : Nat} (h : d < 16) : IsPrintable (hexDigit d) := by
  have hall : ∀ d < 16, IsPrintable (hexDigit d) := by decide
  exact hall d h

theorem printable_hexDigits (k n : Nat) : Printable (hexDigits k n) := by
  induction k generalizing n with
  | zero => exact printable_nil
  | succ k ih =>
    have hdigit : IsPrintable (hexDigit (n % 16)) := isPrintable_hexDigit (Nat.mod_lt n (by decide))
    rw [hexDigits]
    simp [ih, hdigit]

theorem printable_unitEscape (n : Nat) : Printable (unitEscape n) := by
  have hletters : IsPrintable '\\' ∧ IsPrintable 'u' := by decide
  simp [unitEscape, hletters, printable_hexDigits]

/-- With all other characters escaped, only printable ones are left. -/
theorem printable_writeChar (c : Char) : Printable (writeChar true c) := by
  have hcode : Printable (unicodeEscape c) := by
    simp only [unicodeEscape]
    split
    · exact printable_unitEscape _
    · exact printable_append.2 ⟨printable_unitEscape _, printable_unitEscape _⟩
  unfold writeChar
  split
  · rename_i e he
    have hletter : IsPrintable e := by
      unfold escapeLetter? at he
      split_ifs at he <;> (cases he; decide)
    have hslash : IsPrintable '\\' := by decide
    simp [hletter, hslash]
  · split
    · exact hcode
    · split
      · exact hcode
      · rename_i hlow hhigh
        have hc : IsPrintable c := by
          simp only [Bool.true_and, decide_eq_true_eq] at hhigh
          unfold IsPrintable
          omega
        simp [hc]

theorem printable_writeString (s : List Char) : Printable (writeString true s) := by
  have hquote : IsPrintable '"' := by decide
  have hchars : Printable (s.flatMap (writeChar true)) := by
    intro c hc
    obtain ⟨x, -, hx⟩ := List.mem_flatMap.1 hc
    exact printable_writeChar x c hx
  simp [writeString, hquote, hchars]

theorem printable_intText (n : Int) : Printable (intText n) := by
  intro c hc
  rcases isNumeric_intText n c hc with rfl | hd
  · decide
  · exact isPrintable_of_isDigit hd

theorem printable_gap : Printable spaced.gap := by decide

theorem printable_writeItems {xs : List Value} (h : ∀ x ∈ xs, Printable (write spaced x)) :
    Printable (writeItems spaced xs) := by
  have hcomma : IsPrintable ',' := by decide
  induction xs with
  | nil => exact printable_nil
  | cons x xs ih =>
    rw [List.forall_mem_cons] at h
    cases xs with
    | nil => exact h.1
    | cons y ys =>
      rw [writeItems_cons_cons]
      simp [h.1, hcomma, printable_gap, ih h.2]

theorem printable_writeEntries {es : List (String × Value)}
    (h : ∀ e ∈ es, Printable (write spaced e.2)) : Printable (writeEntries spaced es) := by
  have hcomma : IsPrintable ',' := by decide
  have hcolon : IsPrintable ':' := by decide
  induction es with
  | nil => exact printable_nil
  | cons e es ih =>
    rw [List.forall_mem_cons] at h
    have hkey : Printable (writeString spaced.ascii e.1.toList) := printable_writeString _
    cases es with
    | nil =>
      rw [writeEntries]
      simp [hkey, hcolon, printable_gap, h.1]
    | cons f fs =>
      rw [writeEntries_cons_cons]
      simp [hkey, hcolon, printable_gap, h.1, hcomma, ih h.2]

/-- A document without doubles is printable in the spaced layout. -/
theorem printable_write {v : Value} (h : Exact v) : Printable (write spaced v) := by
  have hbrackets : IsPrintable '[' ∧ IsPrintable ']' := by decide
  have hbraces : IsPrintable '\x7b' ∧ IsPrintable '\x7d' := by decide
  induction h with
  | null => exact (by decide : Printable "null".toList)
  | bool b => cases b <;> decide
  | int => exact printable_intText _
  | string s => exact printable_writeString _
  | list _ ih => simp [write, hbrackets, printable_writeItems ih]
  | object _ _ ih => simp [write, hbraces, printable_writeEntries ih]

/-! ## Texts as bytes -/

/-- The bytes of a text of ASCII characters. -/
def asciiBytes (s : List Char) : List UInt8 := s.map fun c => UInt8.ofNat c.toNat

theorem toNat_asciiByte (h : IsPrintable c) : (UInt8.ofNat c.toNat).toNat = c.toNat := by
  unfold IsPrintable at h
  rw [UInt8.toNat_ofNat']
  omega

theorem utf8_asciiBytes (h : Printable s) (offset : Nat) :
    Encoding.utf8 offset 0 (asciiBytes s) = .ok s := by
  induction s generalizing offset with
  | nil => rfl
  | cons c s ih =>
    rw [printable_cons] at h
    have hc := toNat_asciiByte h.1
    have hlow : c.toNat < 0x80 := by
      have := h.1.2
      omega
    have hrest := ih h.2 (offset + 1)
    rw [asciiBytes] at hrest
    rw [asciiBytes, List.map_cons, Encoding.utf8, hc, if_pos hlow, hrest, Char.ofNat_toNat]
    rfl

/-- Printable bytes are read as UTF-8. -/
theorem decode_asciiBytes (h : Printable s) : Encoding.decode (asciiBytes s) = .ok s := by
  have hbytes : ∀ b ∈ asciiBytes s, 0x20 ≤ b.toNat ∧ b.toNat < 0x7F := by
    intro b hb
    obtain ⟨c, hc, rfl⟩ := List.mem_map.1 hb
    rw [toNat_asciiByte (h c hc)]
    exact h c hc
  have hne : ∀ b ∈ asciiBytes s, b ≠ 0 ∧ b ≠ 0xFF ∧ b ≠ 0xFE ∧ b ≠ 0xEF := by
    intro b hb
    have := hbytes b hb
    refine ⟨?_, ?_, ?_, ?_⟩ <;> (rintro rfl; simp at this)
  have hform : Encoding.formOf (asciiBytes s) = .utf8 := by
    unfold Encoding.formOf
    split
    · rename_i a b _ _ _ heq
      have ha := (hne a (by simp [heq])).1
      have hb := (hne b (by simp [heq])).1
      rw [if_neg ha, if_neg hb]
    · rename_i a b heq
      have ha := (hne a (by simp [heq])).1
      have hb := (hne b (by simp [heq])).1
      rw [if_neg ha, if_neg hb]
    · rfl
  -- the text does not start with a mark of any encoding
  have hmark : ∀ {a : UInt8} {r : List UInt8}, asciiBytes s = a :: r →
      a ≠ 0 ∧ a ≠ 0xFF ∧ a ≠ 0xFE ∧ a ≠ 0xEF := fun h => hne _ (by simp [h])
  unfold Encoding.decode
  split
  · rename_i heq
    exact absurd rfl (hmark heq).1
  · rename_i heq
    exact absurd rfl (hmark heq).2.1
  · rename_i heq
    exact absurd rfl (hmark heq).2.2.1
  · rename_i heq
    exact absurd rfl (hmark heq).2.1
  · rename_i heq
    exact absurd rfl (hmark heq).2.2.2
  · rw [hform]
    exact utf8_asciiBytes h 0

end Conform.Json
