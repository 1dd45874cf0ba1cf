import Conform.Text.Blank

/-!
# Lines of texts

No line has a break in it. A line feed between two texts keeps their lines apart: the lines of the
whole are those of the first text and those of the second, with an empty line between them where the
first text ends with a break already or is empty. A break that is a carriage return takes the line feed
in, and then there is none.
-/

namespace Conform.Text

variable {s t : List Char} {c : Char}

/-- A text without line breaks. -/
def Unbroken (s : List Char) : Prop := ∀ c ∈ s, isLineBreak c = false

instance (s : List Char) : Decidable (Unbroken s) := List.decidableBAll (isLineBreak · = false) s

theorem unbroken_nil : Unbroken [] := nofun

theorem unbroken_append : Unbroken (s ++ t) ↔ Unbroken s ∧ Unbroken t := List.forall_mem_append

theorem unbroken_cons : Unbroken (c :: s) ↔ isLineBreak c = false ∧ Unbroken s :=
  List.forall_mem_cons

theorem isBlank_of_isLineBreak (h : isLineBreak c = true) : isBlank c = true := by
  simp only [isLineBreak, isBlank, Bool.or_eq_true, Bool.and_eq_true, decide_eq_true_eq,
    beq_iff_eq] at h ⊢
  omega

theorem unbroken_of_not_blank (hs : ∀ c ∈ s, isBlank c = false) : Unbroken s := by
  intro c hc
  cases hbreak : isLineBreak c with
  | false => rfl
  | true =>
    have hblank : isBlank c = true := isBlank_of_isLineBreak hbreak
    rw [hs c hc] at hblank
    cases hblank

/-- The lines with one more character in front of the first of them. -/
def onFirstLine (c : Char) : List (List Char) → List (List Char)
  | [] => [[c]]
  | l :: ls => (c :: l) :: ls

theorem lines_of_break (hc : isLineBreak c = true) (hs : c = '\r' → s.head? ≠ some '\n') :
    lines (c :: s) = [] :: lines s := by
  rw [lines]
  · rw [if_pos hc]
  · intro r hr hfeed
    rw [hfeed] at hs
    exact hs hr rfl

theorem lines_of_char (hc : isLineBreak c = false) : lines (c :: s) = onFirstLine c (lines s) := by
  rw [lines]
  · rw [hc]
    cases lines s <;> rfl
  · rintro r rfl
    cases hc

theorem lines_feed (s : List Char) : lines ('\n' :: s) = [] :: lines s :=
  lines_of_break rfl fun h => absurd h (by decide)

theorem lines_ne_nil (c : Char) (s : List Char) : lines (c :: s) ≠ [] := by
  by_cases hc : isLineBreak c = true
  · by_cases hs : c = '\r' ∧ s.head? = some '\n'
    · obtain ⟨rfl, hs⟩ := hs
      obtain ⟨r, rfl⟩ := List.head?_eq_some_iff.1 hs
      simp [lines]
    · rw [lines_of_break hc (fun h => fun h' => hs ⟨h, h'⟩)]
      simp
  · rw [lines_of_char (by simpa using hc)]
    cases lines s <;> simp [onFirstLine]

theorem unbroken_of_mem_lines (s : List Char) : ∀ l ∈ lines s, Unbroken l := by
  fun_induction lines s with
  | case1 => nofun
  | case2 s ih => exact List.forall_mem_cons.2 ⟨unbroken_nil, ih⟩
  | case3 c s _ hc ih => exact List.forall_mem_cons.2 ⟨unbroken_nil, ih⟩
  | case4 c s _ hc hs ih =>
    have hchar : Unbroken [c] := by simpa [Unbroken] using hc
    exact List.forall_mem_singleton.2 hchar
  | case5 c s _ hc l ls hs ih =>
    rw [hs, List.forall_mem_cons] at ih
    have hl : Unbroken (c :: l) := unbroken_cons.2 ⟨by simpa using hc, ih.1⟩
    exact List.forall_mem_cons.2 ⟨hl, ih.2⟩

theorem lines_of_unbroken (hs : Unbroken s) (t : List Char) :
    lines (s ++ '\n' :: t) = s :: lines t := by
  induction s with
  | nil => exact lines_feed t
  | cons c s ih =>
    rw [unbroken_cons] at hs
    rw [List.cons_append, lines_of_char hs.1, ih hs.2]
    rfl

/-- A text without breaks is its only line, unless it is empty. -/
theorem lines_eq_singleton (hs : Unbroken s) (hne : s ≠ []) : lines s = [s] := by
  induction s with
  | nil => exact absurd rfl hne
  | cons c s ih =>
    rw [unbroken_cons] at hs
    rw [lines_of_char hs.1]
    by_cases hrest : s = []
    · rw [hrest]
      rfl
    · rw [ih hs.2 hrest]
      rfl

/-- The lines of two texts with a line feed between them. -/
theorem lines_append (s t : List Char) :
    ∃ gap, (gap = [] ∨ gap = [[]]) ∧ lines (s ++ '\n' :: t) = lines s ++ (gap ++ lines t) := by
  fun_induction lines s with
  | case1 => exact ⟨[[]], Or.inr rfl, lines_feed t⟩
  | case2 s ih =>
    obtain ⟨gap, hgap, hlines⟩ := ih
    refine ⟨gap, hgap, ?_⟩
    rw [List.cons_append, List.cons_append, lines, hlines]
    rfl
  | case3 c s hcrlf hc ih =>
    obtain ⟨gap, hgap, hlines⟩ := ih
    cases s with
    | nil =>
      -- a carriage return and the line feed are one break
      by_cases hr : c = '\r'
      · subst hr
        exact ⟨[], Or.inl rfl, by rw [List.cons_append, List.nil_append, lines]; rfl⟩
      · refine ⟨gap, hgap, ?_⟩
        rw [List.cons_append, lines_of_break hc (fun h => absurd h hr), hlines]
        rfl
    | cons d r =>
      refine ⟨gap, hgap, ?_⟩
      have hd : c = '\r' → (d :: r ++ '\n' :: t).head? ≠ some '\n' := by
        rintro h h'
        obtain rfl : d = '\n' := Option.some.inj h'
        exact hcrlf r h rfl
      rw [List.cons_append, lines_of_break hc hd, hlines]
      rfl
  | case4 c s hcrlf hc hs ih =>
    have hnil : s = [] := by
      cases s with
      | nil => rfl
      | cons d r => exact absurd hs (lines_ne_nil d r)
    subst hnil
    refine ⟨[], Or.inl rfl, ?_⟩
    rw [List.cons_append, lines_of_char (by simpa using hc), List.nil_append, lines_feed]
    rfl
  | case5 c s hcrlf hc l ls hs ih =>
    obtain ⟨gap, hgap, hlines⟩ := ih
    refine ⟨gap, hgap, ?_⟩
    rw [List.cons_append, lines_of_char (by simpa using hc), hlines, hs]
    rfl

end Conform.Text
