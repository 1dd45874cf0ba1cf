import Conform.Proofs.Tag.Comment

/-!
# Comments that are written and read back

A comment is written with a line for each of its remarks, between the opening and the closing mark. The
star and the space in front of a remark are all that is taken off such a line, and a closing mark at its
end. So directives are read back as they were written unless the argument of one ends like a comment.
-/

namespace Conform.Tag

open Text

variable {l s name argument : List Char} {c : Char}

/-! ## Remarks -/

/-- What a line of a comment says. -/
inductive Remark where
  /-- A directive. -/
  | directive (t : Tag)
  /-- A text that directs nothing. -/
  | text (s : String)

/-- A line of a comment: a star with a space on either side, and what it says. -/
def starred (s : List Char) : List Char := ' ' :: '*' :: ' ' :: s

/-- A directive as it is written. -/
def directiveChars (name argument : List Char) : List Char := '@' :: (name ++ ' ' :: argument)

/-- A remark as it is written. -/
def Remark.chars : Remark → List Char
  | directive t => directiveChars t.name.toList t.argument.toList
  | text s => s.toList

/-- The tag of a remark that is a directive. -/
def Remark.tag? : Remark → Option Tag
  | directive t => some t
  | text _ => none

/-- The tags of the remarks that are directives, in order. -/
def directed (rs : List Remark) : List Tag := rs.filterMap Remark.tag?

/-- The lines of a comment with these remarks. -/
def writtenLines (rs : List Remark) : List (List Char) :=
  "/**".toList :: (rs.map fun r => starred r.chars) ++ [" */".toList]

/-- The comment with these remarks. -/
def written (rs : List Remark) : String := String.ofList (joinLines (writtenLines rs))

/-- A name of ASCII characters: a letter or the low line, then letters, digits, low lines and hyphens. -/
inductive PlainName : List Char → Prop where
  /-- A character and what follows it. -/
  | mk {c : Char} {s : List Char} (hc : isAsciiLetter c = true ∨ c = '_')
      (hs : ∀ d ∈ s, isAsciiAlphanumeric d = true ∨ d = '_' ∨ d = '-') : PlainName (c :: s)

/-- A remark that keeps to its line. -/
inductive Remark.Plain : Remark → Prop where
  /-- A directive that does not take the rest of the comment, with an argument that fits on the line. -/
  | directive {t : Tag} (hname : PlainName t.name.toList) (herror : t.name ≠ errorName)
      (htrimmed : Trimmed t.argument.toList) (hunbroken : Unbroken t.argument.toList) :
      Plain (.directive t)
  /-- A text that fits on the line and has no at sign in front. -/
  | text {s : String} (hhead : s.toList.head? ≠ some '@') (htrimmed : Trimmed s.toList)
      (hunbroken : Unbroken s.toList) : Plain (.text s)

theorem PlainName.nameText (h : PlainName name) : NameText name := by
  cases h with
  | mk hc hs =>
    refine .mk (by simpa [startsName] using hc) fun d hd => ?_
    rcases hs d hd with hword | rfl | rfl
    · simp [continuesName, isWordChar_of_ascii hword]
    · decide
    · decide

/-! ## The closing mark -/

theorem dropClosing_mark (s : List Char) : dropClosing (s ++ ['*', '/']) = s.rdropWhile (· = '*') := by
  have hreverse : (s ++ ['*', '/']).reverse = '/' :: '*' :: s.reverse := by simp
  rw [dropClosing, hreverse]
  rfl

theorem dropClosing_of_not_suffix (h : ¬['*', '/'] <:+ s) : dropClosing s = s := by
  rcases dropClosing_cases s with ⟨r, hs, -⟩ | ⟨-, hdrop⟩
  · exact absurd ⟨r, hs.symm⟩ h
  · exact hdrop

/-- A closing mark does not reach over a space. -/
theorem dropClosing_append (p s : List Char) :
    dropClosing (p ++ ' ' :: s) = p ++ ' ' :: dropClosing s := by
  rcases dropClosing_cases s with ⟨r, hs, hdrop⟩ | ⟨hs, hdrop⟩
  · have hmark : p ++ ' ' :: s = (p ++ ' ' :: r) ++ ['*', '/'] := by rw [hs]; simp
    rw [hmark, dropClosing_mark, hdrop]
    have hreverse : (p ++ ' ' :: r).reverse = r.reverse ++ ' ' :: p.reverse := by simp
    rw [List.rdropWhile, List.rdropWhile, hreverse, List.dropWhile_append]
    split
    · rename_i hempty
      rw [List.isEmpty_iff.1 hempty]
      simp
    · simp
  · have hsuffix : ¬['*', '/'] <:+ p ++ ' ' :: s := by
      intro h
      rcases List.suffix_or_suffix_of_suffix h (List.suffix_append p (' ' :: s)) with hmark | hspace
      · rcases List.suffix_cons_iff.1 hmark with heq | hend
        · cases heq
        · exact hs hend
      · -- a mark that starts in front of the space would have it inside
        have hmem : ' ' ∈ ['*', '/'] := hspace.subset List.mem_cons_self
        exact absurd hmem (by decide)
    rw [dropClosing_of_not_suffix hsuffix, hdrop]

/-- A trimmed text is left as it is exactly if it does not end with a closing mark. -/
theorem trim_dropClosing_eq_iff (h : Trimmed s) : trim (dropClosing s) = s ↔ ¬['*', '/'] <:+ s := by
  constructor
  · rintro heq ⟨r, hr⟩
    have hlength : (trim (dropClosing s)).length ≤ r.length :=
      calc (trim (dropClosing s)).length
        _ ≤ (dropClosing s).length := (trim_isInfix _).length_le
        _ = (r.rdropWhile (· = '*')).length := by rw [← hr, dropClosing_mark]
        _ ≤ r.length := (List.rdropWhile_prefix _ r).length_le
    rw [heq, ← hr, List.length_append, List.length_cons] at hlength
    omega
  · intro hs
    rw [dropClosing_of_not_suffix hs, h.trim_eq]

/-! ## Lines -/

/-- What a line of a written comment holds: what is said on it, up to a closing mark at its end. -/
theorem content_starred (s : List Char) : content (starred s) = trim (dropClosing (trimEnd s)) := by
  have hspace : isBlank ' ' = true := rfl
  have hstar : ∀ c ∈ ['*'], isBlank c = false := List.forall_mem_singleton.2 rfl
  have htrim : ∀ t, trim ('*' :: t) = '*' :: trimEnd t := fun t => trimEnd_append hstar t
  have hline : trim (starred s) = '*' :: trimEnd (' ' :: s) := by
    rw [starred, trim_cons_of_blank hspace, htrim]
  rw [content, hline]
  -- a line without a remark ends with the star; else the star is all of the gutter
  rcases trimEnd_cons_of_blank hspace s with ⟨hend, hs⟩ | ⟨hend, -⟩
  · rw [hend, hs]
    rfl
  · have hclosing : dropClosing ('*' :: ' ' :: trimEnd s) = '*' :: ' ' :: dropClosing (trimEnd s) :=
      dropClosing_append ['*'] (trimEnd s)
    rw [hend, dropOpening, hclosing, htrim]
    · rcases trimEnd_cons_of_blank hspace (dropClosing (trimEnd s)) with ⟨hend', hs⟩ | ⟨hend', -⟩
      · rw [hend', trim_eq_nil hs]
        rfl
      · have hgutter : dropGutter ('*' :: ' ' :: trimEnd (dropClosing (trimEnd s))) =
            ' ' :: trimEnd (dropClosing (trimEnd s)) := rfl
        rw [hend', hgutter, trim_cons_of_blank hspace, trim_trimEnd]
    · nofun

/-- A directive on a line of a written comment is read with its argument up to a closing mark. -/
theorem directive?_starred (hname : NameText name) (hargument : Trimmed argument) :
    directive? (content (starred (directiveChars name argument))) =
      some (name, trim (dropClosing argument)) := by
  have hfront : ∀ c ∈ '@' :: name, isBlank c = false :=
    List.forall_mem_cons.2 ⟨rfl, hname.not_blank⟩
  have hend : ∀ t, trimEnd (directiveChars name t) = '@' :: name ++ trimEnd (' ' :: t) := fun t =>
    trimEnd_append hfront (' ' :: t)
  rw [← directive?_trim hname (dropClosing argument), content_starred, hend]
  congr 1
  rcases trimEnd_cons_of_blank (c := ' ') rfl argument with ⟨hrest, hnone⟩ | ⟨hrest, -⟩
  · -- without an argument the line ends with the name, which is no closing mark
    rw [hargument.trimEnd_eq] at hnone
    subst hnone
    have hmark : ¬['*', '/'] <:+ '@' :: name := by
      intro h
      have hslash : '/' ∈ '@' :: name := h.subset (by decide)
      rcases List.mem_cons.1 hslash with heq | hmem
      · cases heq
      · have hcontinues := hname.continues '/' hmem
        exact absurd hcontinues (by decide)
    have hwhole : trimEnd (directiveChars name []) = '@' :: name := by
      rw [hend, hrest, List.append_nil]
    rw [hrest, List.append_nil, dropClosing_of_not_suffix hmark, ← hwhole, trim_trimEnd]
    rfl
  · rw [hrest, hargument.trimEnd_eq, dropClosing_append]
    rfl

theorem directive?_of_head (h : l.head? ≠ some '@') : directive? l = none := by
  unfold directive?
  split
  · exact absurd rfl h
  · rfl

theorem directive?_starred_text (htrimmed : Trimmed s) (hhead : s.head? ≠ some '@') :
    directive? (content (starred s)) = none := by
  rw [content_starred, htrimmed.trimEnd_eq]
  refine directive?_of_head ?_
  obtain ⟨r, hr⟩ := dropClosing_isPrefix s
  cases hd : dropClosing s with
  | nil => simp [trim, trimStart, trimEnd]
  | cons c t =>
    rw [hd] at hr
    have hs : s.head? = some c := by rw [← hr]; rfl
    have hc : ∀ d ∈ [c], isBlank d = false := List.forall_mem_singleton.2 (htrimmed.head c hs)
    have hstart : trimStart (c :: t) = c :: t := List.dropWhile_cons_of_neg (by simpa using hc c)
    have htrim : trim (c :: t) = c :: trimEnd t := by
      rw [trim, hstart]
      exact trimEnd_append hc t
    rw [htrim, List.head?_cons, ← hs]
    exact hhead

/-! ## Comments -/

/-- Lines without breaks are the lines of the text that joins them, if the last is not empty. -/
theorem lines_joinLines {ls : List (List Char)} {last : List Char} (hls : ∀ l ∈ ls, Unbroken l)
    (hlast : Unbroken last) (hne : last ≠ []) : lines (joinLines (ls ++ [last])) = ls ++ [last] := by
  induction ls with
  | nil => exact lines_eq_singleton hlast hne
  | cons l ls ih =>
    rw [List.forall_mem_cons] at hls
    have hjoin : joinLines (l :: ls ++ [last]) = l ++ '\n' :: joinLines (ls ++ [last]) := by
      cases ls <;> rfl
    rw [hjoin, lines_of_unbroken hls.1, ih hls.2]
    rfl

theorem contents_written {rs : List Remark} (h : ∀ r ∈ rs, Unbroken r.chars) :
    contents (written rs) = [] :: (rs.map fun r => content (starred r.chars)) ++ [[]] := by
  have hfront : Unbroken [' ', '*', ' '] := by decide
  have hunbroken : ∀ l ∈ "/**".toList :: (rs.map fun r => starred r.chars), Unbroken l := by
    refine List.forall_mem_cons.2 ⟨by decide, fun l hl => ?_⟩
    obtain ⟨r, hr, rfl⟩ := List.mem_map.1 hl
    exact unbroken_append.2 ⟨hfront, h r hr⟩
  have hlines : lines (written rs).toList = writtenLines rs := by
    rw [written, String.toList_ofList]
    exact lines_joinLines hunbroken (by decide) (by decide)
  have hopening : content "/**".toList = [] := rfl
  have hclosing : content " */".toList = [] := rfl
  rw [contents, hlines, writtenLines, List.map_append, List.map_cons, List.map_map, hopening,
    List.map_singleton, hclosing, Function.comp_def]

/-- The directive `error` alone in a comment is read back if its argument is on one line, with no blanks
    around it, and does not end with a closing mark. -/
theorem ofComment_error (htrimmed : Trimmed argument) (hunbroken : Unbroken argument)
    (hclosing : ¬['*', '/'] <:+ argument) :
    ofComment ("/**\n * @error " ++ String.ofList argument ++ "\n */") =
      [⟨errorName, String.ofList argument⟩] := by
  have hchars : (Remark.directive ⟨errorName, String.ofList argument⟩).chars =
      directiveChars errorName.toList argument := by
    rw [Remark.chars, String.toList_ofList]
  have hline : Unbroken (directiveChars errorName.toList argument) :=
    unbroken_append.2 ⟨(by decide : Unbroken "@error ".toList), hunbroken⟩
  have hwritten : "/**\n * @error " ++ String.ofList argument ++ "\n */" =
      written [.directive ⟨errorName, String.ofList argument⟩] := by
    apply String.toList_injective
    rw [written, String.toList_ofList, writtenLines, List.map_singleton, hchars]
    simp [joinLines, starred, directiveChars, errorName]
  have hread := directive?_starred nameText_error htrimmed
  rw [dropClosing_of_not_suffix hclosing, htrimmed.trim_eq] at hread
  have hrest : trim (joinLines [argument, []]) = argument := by
    have hfeed : joinLines [argument, []] = argument ++ ['\n'] := rfl
    rw [hfeed, trim_append_of_blank rfl, htrimmed.trim_eq]
  rw [hwritten, ofComment_eq, contents_written (List.forall_mem_singleton.2 (hchars ▸ hline)),
    List.cons_append, ofLines_of_none rfl, List.map_singleton, hchars, List.singleton_append,
    ofLines_of_error hread String.ofList_toList, hrest]

/-- The tag that is read from a written directive: the argument is kept up to a closing mark. -/
def reread (t : Tag) : Tag := ⟨t.name, String.ofList (trim (dropClosing t.argument.toList))⟩

theorem Remark.Plain.unbroken {r : Remark} (h : r.Plain) : Unbroken r.chars := by
  cases h with
  | directive hname _ _ hunbroken =>
    have hat : isLineBreak '@' = false := rfl
    have hspace : isLineBreak ' ' = false := rfl
    have hpart := unbroken_of_not_blank hname.nameText.not_blank
    exact unbroken_cons.2 ⟨hat, unbroken_append.2 ⟨hpart, unbroken_cons.2 ⟨hspace, hunbroken⟩⟩⟩
  | text _ _ hunbroken => exact hunbroken

/-- Remarks that keep to their lines direct the tags of their directives, and then what follows. -/
theorem ofLines_remarks {rs : List Remark} (h : ∀ r ∈ rs, r.Plain) (ls : List (List Char)) :
    ofLines ((rs.map fun r => content (starred r.chars)) ++ ls) =
      (directed rs).map reread ++ ofLines ls := by
  induction rs with
  | nil => rfl
  | cons r rs ih =>
    rw [List.forall_mem_cons] at h
    have hrest := ih h.2
    rw [List.map_cons, List.cons_append]
    cases h.1 with
    | @directive t hname herror htrimmed _ =>
      have hread := directive?_starred hname.nameText htrimmed
      have hne : String.ofList t.name.toList ≠ errorName := by rwa [String.ofList_toList]
      rw [Remark.chars, ofLines_of_some hread hne, hrest, String.ofList_toList]
      rfl
    | @text s hhead htrimmed _ =>
      rw [Remark.chars, ofLines_of_none (directive?_starred_text htrimmed hhead), hrest]
      rfl

/-- Directives are read back from the comment in which they are written, with any texts between them,
    exactly if the argument of none of them ends with the mark that closes a comment. -/
theorem ofComment_written_iff {rs : List Remark} (h : ∀ r ∈ rs, r.Plain) :
    ofComment (written rs) = directed rs ↔
      ∀ t ∈ directed rs, ¬"*/".toList <:+ t.argument.toList := by
  have hread : ofComment (written rs) = (directed rs).map reread := by
    have hcontents := contents_written fun r hr => (h r hr).unbroken
    rw [ofComment_eq, hcontents, List.cons_append, ofLines_of_none rfl, ofLines_remarks h]
    exact List.append_nil _
  have htrimmed : ∀ t ∈ directed rs, Trimmed t.argument.toList := by
    intro t ht
    obtain ⟨r, hr, htag⟩ := List.mem_filterMap.1 ht
    cases h r hr with
    | directive _ _ htrimmed _ =>
      cases htag
      exact htrimmed
    | text => cases htag
  have hone : ∀ t ∈ directed rs, reread t = t ↔ ¬"*/".toList <:+ t.argument.toList := by
    intro t ht
    have hmark : "*/".toList = ['*', '/'] := rfl
    rw [hmark, ← trim_dropClosing_eq_iff (htrimmed t ht)]
    constructor
    · intro heq
      have hargument := congrArg (fun s : Tag => s.argument.toList) heq
      simpa [reread] using hargument
    · intro heq
      rw [reread, heq, String.ofList_toList]
  have hall : (directed rs).map reread = directed rs ↔ ∀ t ∈ directed rs, reread t = t := by
    conv_lhs => rw [← List.map_id (directed rs), List.map_map, List.map_inj_left]
    rfl
  rw [hread, hall]
  exact forall₂_congr hone

/-- The remarks on an age: texts, an argument full of marks, and a directive without an argument. -/
def ageRemarks : List Remark :=
  [.text "In years.", .directive ⟨"min", "0"⟩, .text "", .directive ⟨"note-2", "* @b /* c */ /"⟩,
    .directive ⟨"_i", ""⟩]

theorem ofComment_written_iff_age :
    (∀ r ∈ ageRemarks, r.Plain) ∧ ofComment (written ageRemarks) = directed ageRemarks := by
  have htext : ∀ s : String, s.toList.head? ≠ some '@' → trim s.toList = s.toList →
      Unbroken s.toList → (Remark.text s).Plain := fun s hhead htrim =>
    .text hhead (trimmed_of_trim_eq htrim)
  have hdirective : ∀ (name argument : String) (c : Char) (s : List Char), name.toList = c :: s →
      (isAsciiLetter c = true ∨ c = '_') →
      (s.all fun d => isAsciiAlphanumeric d || d == '_' || d == '-') = true → name ≠ errorName →
      trim argument.toList = argument.toList → Unbroken argument.toList →
      (Remark.directive ⟨name, argument⟩).Plain := by
    intro name argument c s hname hc hs herror htrim hunbroken
    have hplain : PlainName name.toList := by
      rw [hname]
      refine .mk hc fun d hd => ?_
      have hd' := List.all_eq_true.1 hs d hd
      simpa [or_assoc] using hd'
    exact .directive hplain herror (trimmed_of_trim_eq htrim) hunbroken
  have hplain : ∀ r ∈ ageRemarks, r.Plain := by
    simp only [ageRemarks, List.forall_mem_cons]
    refine ⟨htext _ ?_ ?_ ?_, hdirective _ _ 'm' ['i', 'n'] ?_ ?_ ?_ ?_ ?_ ?_, htext _ ?_ ?_ ?_,
      hdirective _ _ 'n' ['o', 't', 'e', '-', '2'] ?_ ?_ ?_ ?_ ?_ ?_,
      hdirective _ _ '_' ['i'] ?_ ?_ ?_ ?_ ?_ ?_, nofun⟩
    all_goals decide
  exact ⟨hplain, (ofComment_written_iff hplain).2 (by decide)⟩

example : ofComment (written [.directive ⟨"note", "see *x*/"⟩]) = [⟨"note", "see *x"⟩] := by decide

end Conform.Tag
