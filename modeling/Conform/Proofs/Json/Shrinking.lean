import Conform.Proofs.Json.Decoded
import Mathlib.Data.List.TakeWhile

/-!
# Texts within texts

A text that is read off a document as a string is shorter than the document by two characters at least,
its quotes: every character of the string comes from a character of the document or more.
-/

namespace Conform.Json

/-- The characters of a string, its closing quote and what stands behind it were all in the text, and so
    were the characters to be passed over. -/
theorem length_of_chars {opening s w r : List Char} {k : Nat} (h : chars opening k s = .ok (w, r)) :
    w.length + r.length + k + 1 ≤ s.length := by
  -- `k` characters are still to be passed over: they belong to an escape that is already read
  induction s generalizing k w with
  | nil => cases k <;> cases h
  | cons c s ih =>
    rw [List.length_cons]
    cases k with
    | succ k =>
      have hrest := ih (k := k) h
      omega
    | zero =>
      have hone : ∀ {x : Char} {k : Nat}, onto x (chars opening k s) = .ok (w, r) →
          w.length + r.length + 0 + 1 ≤ s.length + 1 := by
        intro x k hx
        obtain ⟨⟨v, r'⟩, hv, hw⟩ := map_eq_ok hx
        obtain ⟨rfl, rfl⟩ : x :: v = w ∧ r' = r := Prod.mk.inj hw
        have hrest := ih hv
        rw [List.length_cons]
        omega
      rw [chars] at h
      split at h
      · cases h
        simp
      · split at h
        · split at h
          · cases h
          · exact hone h
        · split at h
          · cases h
          · exact hone h

/-- No number and no word is a string. -/
theorem atom_ne_string {s r : List Char} {x : String} : atom s ≠ .ok (.string x, r) := by
  have hnumber : ∀ start negative t, number start negative t ≠ .ok (.string x, r) := by
    intro start negative t h
    unfold number at h
    split at h
    split at h
    · cases h
    · simp only at h
      split at h
      · split at h
        · cases h
        · cases h
      · cases h
  intro h
  unfold atom at h
  split at h
  · rename_i p hp
    obtain ⟨w, hw, hread⟩ := List.exists_of_findSome?_eq_some hp
    obtain ⟨r', -, rfl⟩ := Option.map_eq_some_iff.1 hread
    have hwords : ∀ w ∈ wordValues, w.2 ≠ .string x := by simp [wordValues]
    exact hwords w hw (congrArg Prod.fst (Except.ok.inj h))
  · split at h
    · exact hnumber _ _ _ h
    · exact hnumber _ _ _ h

/-- A string with its quotes was in the text. -/
theorem length_of_value {fuel : Nat} {s r : List Char} {x : String}
    (h : value fuel s = .ok (.string x, r)) : x.toList.length + r.length + 2 ≤ s.length := by
  cases fuel with
  | zero => cases h
  | succ fuel =>
    unfold value at h
    split at h
    · obtain ⟨⟨w, r'⟩, hw, heq⟩ := map_eq_ok h
      obtain ⟨hx, rfl⟩ : .string (String.ofList w) = Value.string x ∧ r' = r := Prod.mk.inj heq
      cases hx
      have hlength := length_of_chars hw
      rw [String.toList_ofList, List.length_cons]
      omega
    · split at h
      · cases h
      · obtain ⟨p, -, heq⟩ := map_eq_ok h
        cases heq
    · split at h
      · cases h
      · obtain ⟨p, -, heq⟩ := map_eq_ok h
        cases heq
    · exact absurd h atom_ne_string

/-- A text that holds nothing but a string is longer than it by the quotes at least. -/
theorem length_of_document {s : List Char} {x : String} (h : document s = .ok (.string x)) :
    x.toList.length + 2 ≤ s.length := by
  unfold document at h
  split at h
  · cases h
  · rename_i v r hv
    split at h
    · cases h
      have hskip : (skip s).length ≤ s.length := List.length_dropWhile_le _ s
      have hlength := length_of_value hv
      omega
    · cases h

theorem length_of_read {s : List Char} {x : String} (h : read s = .ok (.string x)) :
    x.toList.length + 2 ≤ s.length := by
  unfold read at h
  split at h
  · cases h
  · exact length_of_document h

end Conform.Json
