import Conform.Proofs.Json.Roundtrip
import Conform.Schema.Document

/-!
# Documents within texts

A schema document may be given as text, that text as a document of its own, and so on. Each wrapping
makes the text longer, so the steps that its length allows are enough to take all wrappings off, and
what is left is the schema of the document, or the same complaint about it.
-/

namespace Conform.Schema

open Json

variable {es : List (String × Value)}

/-- The text of a document, wrapped as a document that is a text as many times as is said. -/
def wrapped (document : Value) : Nat → String
  | 0 => String.ofList (write spaced document)
  | k + 1 => String.ofList (write spaced (.string (wrapped document k)))

theorem writeChar_ne_nil (ascii : Bool) (c : Char) : writeChar ascii c ≠ [] := by
  have hcode : unicodeEscape c ≠ [] := by
    simp only [unicodeEscape, unitEscape]
    split <;> simp
  unfold writeChar
  split
  · simp
  · split
    · exact hcode
    · split
      · exact hcode
      · simp

/-- A text in quotes has two characters more at least. -/
theorem length_writeString (ascii : Bool) (s : List Char) :
    s.length + 2 ≤ (writeString ascii s).length := by
  have hchars : s.length ≤ (s.flatMap (writeChar ascii)).length := by
    induction s with
    | nil => exact Nat.le_refl 0
    | cons c s ih =>
      have hc := List.length_pos_iff.2 (writeChar_ne_nil ascii c)
      simp only [List.flatMap_cons, List.length_append, List.length_cons]
      omega
  simp only [writeString, List.length_cons, List.length_append, List.length_nil]
  omega

theorem le_length_wrapped (document : Value) (k : Nat) : k ≤ (wrapped document k).toList.length := by
  induction k with
  | zero => exact Nat.zero_le _
  | succ k ih =>
    have hquoted := length_writeString spaced.ascii (wrapped document k).toList
    simp only [wrapped, String.toList_ofList, write]
    omega

/-- As many steps as there are wrappings lead to the document, and one more reads it. -/
theorem ofChars_wrapped (h : Exact (.object es)) {k steps : Nat} (hk : k < steps) :
    ofChars steps read (wrapped (.object es) k).toList = ofDecoded (.object es) := by
  induction k generalizing steps with
  | zero =>
    obtain ⟨n, rfl⟩ : ∃ n, steps = n + 1 := ⟨steps - 1, by omega⟩
    have hread := read_write isSpace_spaced h
    rw [wrapped, String.toList_ofList, ofChars, hread]
  | succ k ih =>
    obtain ⟨n, rfl⟩ : ∃ n, steps = n + 1 := ⟨steps - 1, by omega⟩
    have hread := read_write isSpace_spaced (.string (wrapped (.object es) k))
    rw [wrapped, String.toList_ofList, ofChars, hread]
    exact ih (by omega)

/-- However often the text of a document is wrapped as a text, it is read as the document itself: it
    stands for the same schema or is refused with the same complaint. -/
theorem load_wrapped (h : Exact (.object es)) (k : Nat) :
    load (.string (wrapped (.object es) k)) = load (.object es) ∧
      ofText (wrapped (.object es) k) = load (.object es) := by
  have hlength := le_length_wrapped (.object es) k
  have htext : ofText (wrapped (.object es) k) = ofDecoded (.object es) := by
    rw [ofText, ofChars_wrapped h]
    rw [← String.length_toList]
    omega
  exact ⟨htext, htext⟩

/-- A property map: a word in quotes or a face, and a debt within bounds. -/
def wordAndDebt : List (String × Value) :=
  [("word", .object [("type", .string "string"), ("primitive", .bool true),
      ("tags", .list [.list [.string "regex", .string "^\"\\w+\"$|😀"]])]),
    ("debt", .object [("type", .string "number"), ("optional", .bool true),
      ("tags", .list [.object [("name", .string "min"), ("argument", .int (-12))]])])]

theorem load_wrapped_wordAndDebt :
    Exact (.object wordAndDebt) ∧
      load (.string (wrapped (.object wordAndDebt) 2)) = load (.object wordAndDebt) := by
  have hexact : Exact (.object wordAndDebt) := by
    have hdigits : (Text.natText 12).length ≤ Double.maxDigits := by decide
    simp [wordAndDebt, hdigits]
  exact ⟨hexact, (load_wrapped hexact 2).1⟩

example : wrapped (.object [("a", .list [.null, .int (-1)])]) 1 =
    "\"\x7b\\\"a\\\": [null, -1]\x7d\"" := by decide

end Conform.Schema
