import Conform.Text.Blank
import Mathlib.Data.List.DropRight

/-!
# Trimmed texts

Trimming leaves a text that neither starts nor ends with a blank, and does not change such a text.
-/

namespace Conform.Text

/-- A text that neither starts nor ends with a blank. -/
structure Trimmed (s : List Char) : Prop where
  /-- The first character is no blank. -/
  head : ∀ c, s.head? = some c → isBlank c = false
  /-- The last character is no blank. -/
  last : ∀ c, s.getLast? = some c → isBlank c = false

theorem dropWhile_eq_self_of_head {p : Char → Bool} {s : List Char}
    (h : ∀ c, s.head? = some c → p c = false) : s.dropWhile p = s := by
  cases s with
  | nil => rfl
  | cons c s =>
    have hc : p c = false := h c rfl
    rw [List.dropWhile_cons_of_neg (by simp [hc])]

theorem dropWhile_eq_self {p : Char → Bool} {s : List Char} (h : ∀ c ∈ s, p c = false) :
    s.dropWhile p = s :=
  dropWhile_eq_self_of_head fun c hc => h c (List.mem_of_head? hc)

theorem Trimmed.trimEnd_eq {s : List Char} (h : Trimmed s) : trimEnd s = s := by
  have hlast : ∀ c, s.reverse.head? = some c → isBlank c = false := by
    intro c hc
    rw [List.head?_reverse] at hc
    exact h.last c hc
  rw [trimEnd, dropWhile_eq_self_of_head hlast, List.reverse_reverse]

theorem Trimmed.trim_eq {s : List Char} (h : Trimmed s) : trim s = s := by
  have hstart : trimStart s = s := dropWhile_eq_self_of_head h.head
  rw [trim, hstart, h.trimEnd_eq]

/-- What is left when characters are dropped in front does not start with one of them. -/
theorem head?_dropWhile {p : Char → Bool} {s : List Char} {c : Char}
    (h : (s.dropWhile p).head? = some c) : p c = false := by
  have hhead := List.head?_dropWhile_not p s
  rw [h] at hhead
  exact hhead

theorem trim_prefix_trimStart (s : List Char) : trim s <+: trimStart s := List.rdropWhile_prefix _ _

/-- Trimming leaves a trimmed text. -/
theorem trimmed_trim (s : List Char) : Trimmed (trim s) := by
  constructor
  · intro c hc
    obtain ⟨r, hr⟩ := trim_prefix_trimStart s
    have hstart : (trimStart s).head? = some c := by rw [← hr, List.head?_append, hc, Option.some_or]
    exact head?_dropWhile hstart
  · intro c hc
    rw [trim, trimEnd, List.getLast?_reverse] at hc
    exact head?_dropWhile hc

/-! ## Trimming piece by piece -/

variable {c : Char} {s t : List Char}

theorem trim_isInfix (s : List Char) : trim s <:+: s :=
  (trim_prefix_trimStart s).isInfix.trans (List.dropWhile_suffix isBlank).isInfix

theorem trim_cons_of_blank (hc : isBlank c = true) (s : List Char) : trim (c :: s) = trim s := by
  rw [trim, trimStart, List.dropWhile_cons_of_pos hc]
  rfl

theorem trimEnd_cons (c : Char) (s : List Char) :
    trimEnd (c :: s) = if trimEnd s = [] ∧ isBlank c = true then [] else c :: trimEnd s := by
  have hempty : (s.reverse.dropWhile isBlank).isEmpty = true ↔ trimEnd s = [] := by
    rw [List.isEmpty_iff, trimEnd, List.reverse_eq_nil_iff]
  have hpieces : trimEnd (c :: s) = (if (s.reverse.dropWhile isBlank).isEmpty then [c].dropWhile isBlank
      else s.reverse.dropWhile isBlank ++ [c]).reverse := by
    rw [trimEnd, List.reverse_cons, List.dropWhile_append]
  rw [hpieces]
  by_cases hs : trimEnd s = []
  · rw [if_pos (hempty.2 hs), hs]
    by_cases hc : isBlank c = true
    · rw [if_pos ⟨rfl, hc⟩, List.dropWhile_cons_of_pos hc]
      rfl
    · rw [if_neg (fun h => hc h.2), List.dropWhile_cons_of_neg hc]
      rfl
  · rw [if_neg (fun h => hs (hempty.1 h)), if_neg (fun h => hs h.1), List.reverse_append]
    rfl

/-- What stands up to a character that is no blank is not trimmed at the end. -/
theorem trimEnd_append (hs : ∀ c ∈ s, isBlank c = false) (t : List Char) :
    trimEnd (s ++ t) = s ++ trimEnd t := by
  induction s with
  | nil => rfl
  | cons c s ih =>
    rw [List.forall_mem_cons] at hs
    have hc : ¬(trimEnd (s ++ t) = [] ∧ isBlank c = true) := by simp [hs.1]
    rw [List.cons_append, trimEnd_cons, if_neg hc, ih hs.2]
    rfl

/-- The ends of a text may be trimmed in either order. -/
theorem trimStart_trimEnd (s : List Char) : trimStart (trimEnd s) = trim s := by
  induction s with
  | nil => rfl
  | cons c s ih =>
    by_cases hc : isBlank c = true
    · rw [trim_cons_of_blank hc, ← ih, trimEnd_cons]
      by_cases hs : trimEnd s = []
      · rw [if_pos ⟨hs, hc⟩, hs]
      · rw [if_neg (fun h => hs h.1), trimStart, List.dropWhile_cons_of_pos hc]
        rfl
    · have hstart : trimStart (c :: s) = c :: s := List.dropWhile_cons_of_neg hc
      have hend : trimEnd (c :: s) = c :: trimEnd s := by
        rw [trimEnd_cons, if_neg (fun h => hc h.2)]
      rw [trim, hstart, hend]
      exact List.dropWhile_cons_of_neg hc

theorem trimEnd_trimEnd (s : List Char) : trimEnd (trimEnd s) = trimEnd s :=
  List.rdropWhile_idempotent isBlank s

theorem trim_trimEnd (s : List Char) : trim (trimEnd s) = trim s := by
  rw [← trimStart_trimEnd, trimEnd_trimEnd, trimStart_trimEnd]

theorem trim_append_of_blank (hc : isBlank c = true) (s : List Char) : trim (s ++ [c]) = trim s := by
  have hend : trimEnd (s ++ [c]) = trimEnd s := List.rdropWhile_concat_pos isBlank s c hc
  rw [← trim_trimEnd, hend, trim_trimEnd]

/-- A blank in front of a text is trimmed at the end where nothing else is left, and stays else. -/
theorem trimEnd_cons_of_blank (hc : isBlank c = true) (s : List Char) :
    trimEnd (c :: s) = [] ∧ trimEnd s = [] ∨ trimEnd (c :: s) = c :: trimEnd s ∧ trimEnd s ≠ [] := by
  rw [trimEnd_cons]
  by_cases hs : trimEnd s = []
  · exact Or.inl ⟨if_pos ⟨hs, hc⟩, hs⟩
  · exact Or.inr ⟨if_neg fun h => hs h.1, hs⟩

theorem trim_eq_nil (hs : trimEnd s = []) : trim s = [] := by
  rw [← trimStart_trimEnd, hs]
  rfl

theorem trimmed_of_trim_eq (h : trim s = s) : Trimmed s := h ▸ trimmed_trim s

theorem trimmed_of_not_blank (hs : ∀ c ∈ s, isBlank c = false) : Trimmed s :=
  ⟨fun c hc => hs c (List.mem_of_head? hc), fun c hc => hs c (List.mem_of_getLast? hc)⟩

end Conform.Text
