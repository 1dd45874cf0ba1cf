import Conform.Proofs.Tag.Normal
import Conform.Proofs.Text.Ascii
import Conform.Tag.Directive

/-!
# Lines that are directives

What a line holds besides the marks of the comment is a part of it without blanks around it. A directive
on it gives a name and an argument that are kept as they are: no character of a name is blank, so the
name ends where the blanks in front of the argument start.
-/

namespace Conform

/-! ## Blanks and words -/

namespace Text

/-- The blanks beyond ASCII. -/
def wideBlanks : List Nat :=
  [0x85, 0xA0, 0x1680] ++ List.range' 0x2000 11 ++ [0x2028, 0x2029, 0x202F, 0x205F, 0x3000]

theorem mem_wideBlanks {c : Char} (hc : isBlank c = true) (hwide : ¬c.toNat < 0x80) :
    c.toNat ∈ wideBlanks := by
  simp only [isBlank, Bool.or_eq_true, Bool.and_eq_true, decide_eq_true_eq, beq_iff_eq] at hc
  simp only [wideBlanks, List.mem_append, List.mem_cons, List.not_mem_nil, List.mem_range'_1]
  omega

theorem isWordChar_of_ascii {c : Char} (hc : isAsciiAlphanumeric c = true) : isWordChar c = true := by
  have hlow : c.toNat < 0x80 := toNat_lt_of_isAsciiAlphanumeric hc
  rw [isWordChar, if_pos hlow, hc]
  rfl

theorem isWordChar_of_isBlank {c : Char} (hc : isBlank c = true) : isWordChar c = false := by
  have hascii : ∀ n < 0x80, isBlank (Char.ofNat n) = true → isWordChar (Char.ofNat n) = false := by
    decide
  have htable : ∀ n ∈ wideBlanks, alphanumeric.has n = false := by decide +kernel
  by_cases hlow : c.toNat < 0x80
  · have hn := hascii c.toNat hlow
    rw [Char.ofNat_toNat] at hn
    exact hn hc
  · rw [isWordChar, if_neg hlow]
    exact htable c.toNat (mem_wideBlanks hc hlow)

end Text

namespace Tag

open Text

variable {l s name argument : List Char} {c : Char}

/-! ## The marks of a comment -/

theorem dropOpening_suffix (s : List Char) : dropOpening s <:+ s := by
  unfold dropOpening
  split
  · rename_i r
    exact (List.dropWhile_suffix _).trans ⟨['/', '*'], rfl⟩
  · exact List.suffix_rfl

theorem dropClosing_cases (s : List Char) :
    (∃ r, s = r ++ ['*', '/'] ∧ dropClosing s = r.rdropWhile (· = '*')) ∨
      ¬['*', '/'] <:+ s ∧ dropClosing s = s := by
  unfold dropClosing
  split
  · rename_i r heq
    have hs : s = r.reverse ++ ['*', '/'] := by
      rw [← List.reverse_reverse s, heq]
      simp
    refine Or.inl ⟨r.reverse, hs, ?_⟩
    rw [List.rdropWhile, List.reverse_reverse]
  · rename_i hne
    refine Or.inr ⟨?_, rfl⟩
    rintro ⟨r, rfl⟩
    exact hne r.reverse (by simp)

theorem dropClosing_isPrefix (s : List Char) : dropClosing s <+: s := by
  rcases dropClosing_cases s with ⟨r, hs, hdrop⟩ | ⟨-, hdrop⟩
  · rw [hdrop]
    exact (List.rdropWhile_prefix _ r).trans ⟨_, hs.symm⟩
  · exact ⟨[], by rw [hdrop, List.append_nil]⟩

theorem dropGutter_suffix (s : List Char) : dropGutter s <:+ s := by
  fun_induction dropGutter s with
  | case1 s => exact List.suffix_rfl
  | case2 s _ ih => exact ih.trans (List.suffix_cons _ s)
  | case3 s => exact List.suffix_rfl

theorem content_isInfix (l : List Char) : content l <:+: l := by
  have hopening : dropOpening (trim l) <:+: l := (dropOpening_suffix _).isInfix.trans (trim_isInfix l)
  have hclosing : dropClosing (dropOpening (trim l)) <:+: l :=
    (dropClosing_isPrefix _).isInfix.trans hopening
  have hgutter : dropGutter (trim (dropClosing (dropOpening (trim l)))) <:+: l :=
    (dropGutter_suffix _).isInfix.trans ((trim_isInfix _).trans hclosing)
  exact (trim_isInfix _).trans hgutter

/-! ## Names -/

/-- The text of a name of a directive: a character that may start one, and others that may continue
    it. -/
inductive NameText : List Char → Prop where
  /-- A character and what follows it. -/
  | mk {c : Char} {s : List Char} (hc : startsName c = true) (hs : ∀ d ∈ s, continuesName d = true) :
      NameText (c :: s)

theorem continuesName_of_startsName (hc : startsName c = true) : continuesName c = true := by
  have hcases : isAsciiLetter c = true ∨ c = '_' := by simpa [startsName] using hc
  rcases hcases with hletter | rfl
  · have hword : isWordChar c = true := isWordChar_of_ascii (by simp [isAsciiAlphanumeric, hletter])
    simp [continuesName, hword]
  · decide

theorem not_isBlank_of_continuesName (hc : continuesName c = true) : isBlank c = false := by
  by_contra hb
  have hblank : isBlank c = true := by simpa using hb
  have hword : isWordChar c = false := isWordChar_of_isBlank hblank
  have hhyphen : c = '-' := by simpa [continuesName, hword] using hc
  subst hhyphen
  cases hblank

namespace NameText

variable (h : NameText name)

include h

theorem continues : ∀ d ∈ name, continuesName d = true := by
  cases h with
  | mk hc hs => exact List.forall_mem_cons.2 ⟨continuesName_of_startsName hc, hs⟩

theorem not_blank : ∀ d ∈ name, isBlank d = false := fun d hd =>
  not_isBlank_of_continuesName (h.continues d hd)

theorem normal (ha : Trimmed argument) :
    (⟨String.ofList name, String.ofList argument⟩ : Tag).Normal := by
  have hhead : name.head? ≠ some '@' := by
    cases h with
    | mk hc hs =>
      rintro ⟨⟩
      cases hc
  have hne : name ≠ [] := by
    cases h
    simp
  refine ⟨?_, ?_, ?_, ?_⟩
  · rwa [String.toList_ofList]
  · rw [String.toList_ofList]
    exact trimmed_of_not_blank h.not_blank
  · rwa [String.toList_ofList]
  · rwa [String.toList_ofList]

end NameText

theorem nameText_error : NameText errorName.toList := by
  have hname : errorName.toList = 'e' :: ['r', 'r', 'o', 'r'] := rfl
  have hcontinues : ['r', 'r', 'o', 'r'].all continuesName = true := by decide
  rw [hname]
  exact .mk (by decide) (List.all_eq_true.1 hcontinues)

/-! ## Directives -/

/-- A line that is a directive: the at sign, the name and, after a blank, the argument. -/
theorem directive?_eq_some (h : directive? l = some (name, argument)) :
    ∃ r, l = '@' :: (name ++ r) ∧ argument = trim r ∧ NameText name := by
  unfold directive? at h
  split at h
  · rename_i c s
    split at h
    · rename_i hc
      have hs : s = s.takeWhile continuesName ++ s.dropWhile continuesName :=
        List.takeWhile_append_dropWhile.symm
      have hname : NameText (c :: s.takeWhile continuesName) :=
        .mk hc fun d hd => List.mem_takeWhile_imp hd
      simp only at h
      split at h
      · rename_i hrest
        cases h
        rw [hrest] at hs
        refine ⟨[], ?_, rfl, hname⟩
        rw [List.cons_append, ← hs]
      · rename_i d r hrest
        split at h
        · cases h
          refine ⟨s.dropWhile continuesName, ?_, rfl, hname⟩
          rw [List.cons_append, ← hs]
        · cases h
    · cases h
  · cases h

theorem trimmed_of_directive? (h : directive? l = some (name, argument)) : Trimmed argument := by
  obtain ⟨r, -, rfl, -⟩ := directive?_eq_some h
  exact trimmed_trim r

theorem argument_isInfix (h : directive? l = some (name, argument)) : argument <:+: l := by
  obtain ⟨r, hl, rfl, -⟩ := directive?_eq_some h
  have hr : r <:+ l := ⟨'@' :: name, hl.symm⟩
  exact (trim_isInfix r).trans hr.isInfix

/-- A name and what follows it after a blank, behind an at sign, are read as directive. -/
theorem directive?_trim (hname : NameText name) (s : List Char) :
    directive? (trim ('@' :: (name ++ ' ' :: s))) = some (name, trim s) := by
  have hat : trimStart ('@' :: (name ++ ' ' :: s)) = '@' :: (name ++ ' ' :: s) := rfl
  have hfront : ∀ c ∈ '@' :: name, isBlank c = false :=
    List.forall_mem_cons.2 ⟨rfl, hname.not_blank⟩
  have htrim : trim ('@' :: (name ++ ' ' :: s)) = '@' :: (name ++ trimEnd (' ' :: s)) := by
    rw [trim, hat]
    exact trimEnd_append hfront _
  have hspace : continuesName ' ' = false := by decide
  have hblank : isBlank ' ' = true := rfl
  rw [htrim]
  cases hname with
  | @mk c n hc hn =>
    rcases trimEnd_cons_of_blank hblank s with ⟨hend, hs⟩ | ⟨hend, -⟩
    · have htake : n.takeWhile continuesName = n := List.takeWhile_eq_self_iff.2 hn
      have hdrop : n.dropWhile continuesName = [] := List.dropWhile_eq_nil_iff.2 hn
      rw [hend, trim_eq_nil hs, List.append_nil, directive?, if_pos hc, htake, hdrop]
    · have htake : (n ++ ' ' :: trimEnd s).takeWhile continuesName = n := by
        rw [List.takeWhile_append_of_pos hn, List.takeWhile_cons_of_neg (by simp [hspace]),
          List.append_nil]
      have hdrop : (n ++ ' ' :: trimEnd s).dropWhile continuesName = ' ' :: trimEnd s := by
        rw [List.dropWhile_append_of_pos hn, List.dropWhile_cons_of_neg (by simp [hspace])]
      have hrest : trim (' ' :: trimEnd s) = trim s := by
        rw [trim_cons_of_blank hblank, trim_trimEnd]
      rw [hend, List.cons_append, directive?, if_pos hc, htake, hdrop]
      simp only [hrest]
      rfl

end Tag

end Conform
