import Conform.Proofs.Outcome
import Conform.Proofs.Tag.Directive
import Conform.Proofs.Text.Lines

/-!
# Comments one after the other

Directives are read line by line, so the tags of two comments with a line feed between them are those of
the first and those of the second. The directive `error` ends this: it comes at most once, as the last,
and whatever follows it goes into its argument.
-/

namespace Conform.Tag

open Text

variable {l argument name : List Char} {ls ms : List (List Char)}

/-! ## Tags that are made one by one -/

/-- The tags of a comment's lines, each made of its name and its argument, or the complaint about the
    first that is not a tag. -/
def makeLines : List (List Char) → Except Complaint (List Tag)
  | [] => .ok []
  | l :: ls =>
    match directive? l with
    | none => makeLines ls
    | some (name, argument) =>
      if String.ofList name = errorName then do
        let t ← make errorName (String.ofList (trim (joinLines (argument :: ls))))
        pure [t]
      else do
        let t ← make (String.ofList name) (String.ofList argument)
        let ts ← makeLines ls
        pure (t :: ts)

/-- The tags of a comment, each made of its name and its argument, or a complaint. -/
def makeComment (text : String) : Except Complaint (List Tag) :=
  makeLines ((lines text.toList).map content)

theorem make_of_directive? (h : directive? l = some (name, argument)) :
    make (String.ofList name) (String.ofList argument) =
      .ok ⟨String.ofList name, String.ofList argument⟩ := by
  obtain ⟨r, -, -, hname⟩ := directive?_eq_some h
  exact (hname.normal (trimmed_of_directive? h)).make_eq

theorem make_error (s : List Char) :
    make errorName (String.ofList (trim s)) = .ok ⟨errorName, String.ofList (trim s)⟩ := by
  have hnormal := nameText_error.normal (trimmed_trim s)
  rw [String.ofList_toList] at hnormal
  exact hnormal.make_eq

/-! ## Lines -/

theorem ofLines_of_none (h : directive? l = none) (ls : List (List Char)) :
    ofLines (l :: ls) = ofLines ls := by
  rw [ofLines, h]

theorem ofLines_of_error (h : directive? l = some (name, argument))
    (hname : String.ofList name = errorName) (ls : List (List Char)) :
    ofLines (l :: ls) = [⟨errorName, String.ofList (trim (joinLines (argument :: ls)))⟩] := by
  rw [ofLines, h]
  exact if_pos hname

theorem ofLines_of_some (h : directive? l = some (name, argument))
    (hname : String.ofList name ≠ errorName) (ls : List (List Char)) :
    ofLines (l :: ls) = ⟨String.ofList name, String.ofList argument⟩ :: ofLines ls := by
  rw [ofLines, h]
  exact if_neg hname

theorem makeLines_eq (ls : List (List Char)) : makeLines ls = .ok (ofLines ls) := by
  induction ls with
  | nil => rfl
  | cons l ls ih =>
    rcases h : directive? l with _ | ⟨name, argument⟩
    · rw [makeLines, h, ofLines_of_none h]
      exact ih
    · by_cases hname : String.ofList name = errorName
      · rw [makeLines, h, ofLines_of_error h hname]
        simp only [if_pos hname, make_error]
        rfl
      · rw [makeLines, h, ofLines_of_some h hname]
        simp only [if_neg hname, make_of_directive? h, ih]
        rfl

/-- Each tag of lines is in normal form, and the argument of one that is not named `error` is a part of
    one of the lines. -/
theorem normal_of_mem_ofLines (ls : List (List Char)) : ∀ t ∈ ofLines ls,
    t.Normal ∧ (t.name ≠ errorName → ∃ l ∈ ls, t.argument.toList <:+: l) := by
  induction ls with
  | nil => nofun
  | cons l ls ih =>
    have hrest : ∀ t ∈ ofLines ls,
        t.Normal ∧ (t.name ≠ errorName → ∃ l' ∈ l :: ls, t.argument.toList <:+: l') := by
      intro t ht
      obtain ⟨hnormal, hpart⟩ := ih t ht
      refine ⟨hnormal, fun hne => ?_⟩
      obtain ⟨l', hl', hinside⟩ := hpart hne
      exact ⟨l', List.mem_cons_of_mem l hl', hinside⟩
    rcases h : directive? l with _ | ⟨name, argument⟩
    · rw [ofLines_of_none h]
      exact hrest
    · obtain ⟨r, -, -, hname⟩ := directive?_eq_some h
      by_cases herror : String.ofList name = errorName
      · rw [ofLines_of_error h herror, List.forall_mem_singleton, ← herror]
        exact ⟨hname.normal (trimmed_trim _), fun hne => absurd rfl hne⟩
      · rw [ofLines_of_some h herror, List.forall_mem_cons]
        refine ⟨⟨hname.normal (trimmed_of_directive? h), fun _ => ⟨l, List.mem_cons_self, ?_⟩⟩, hrest⟩
        rw [String.toList_ofList]
        exact argument_isInfix h

/-- Lines either have no directive `error`, and then more lines add their tags, or the first such
    directive takes all that is added into its argument. -/
theorem ofLines_append (ls : List (List Char)) :
    ((∀ t ∈ ofLines ls, t.name ≠ errorName) ∧ ∀ ms, ofLines (ls ++ ms) = ofLines ls ++ ofLines ms) ∨
      ∃ before rest, (∀ t ∈ before, t.name ≠ errorName) ∧ ∀ ms,
        ofLines (ls ++ ms) = before ++ [⟨errorName, String.ofList (trim (joinLines (rest ++ ms)))⟩] := by
  -- by induction on the lines up to the first directive `error`, which ends the reading
  induction ls with
  | nil => exact Or.inl ⟨nofun, fun ms => rfl⟩
  | cons l ls ih =>
    rcases h : directive? l with _ | ⟨name, argument⟩
    · have hskip : ∀ ms, ofLines (l :: ls ++ ms) = ofLines (ls ++ ms) := fun ms =>
        ofLines_of_none h (ls ++ ms)
      simp only [hskip, ofLines_of_none h]
      exact ih
    · by_cases herror : String.ofList name = errorName
      · exact Or.inr ⟨[], argument :: ls, nofun, fun ms => ofLines_of_error h herror (ls ++ ms)⟩
      · have hcons : ∀ ms, ofLines (l :: ls ++ ms) =
            ⟨String.ofList name, String.ofList argument⟩ :: ofLines (ls ++ ms) := fun ms =>
          ofLines_of_some h herror (ls ++ ms)
        rcases ih with ⟨hnone, happend⟩ | ⟨before, rest, hnone, happend⟩
        · refine Or.inl ⟨?_, fun ms => ?_⟩
          · rw [ofLines_of_some h herror, List.forall_mem_cons]
            exact ⟨herror, hnone⟩
          · rw [hcons, happend, ofLines_of_some h herror]
            rfl
        · let t : Tag := ⟨String.ofList name, String.ofList argument⟩
          have hfront : ∀ s ∈ t :: before, s.name ≠ errorName := List.forall_mem_cons.2 ⟨herror, hnone⟩
          refine Or.inr ⟨t :: before, rest, hfront, fun ms => ?_⟩
          rw [hcons, happend]
          rfl

/-! ## Comments -/

/-- What the lines of a text hold besides the marks of a comment. -/
def contents (text : String) : List (List Char) := (lines text.toList).map content

theorem ofComment_eq (text : String) : ofComment text = ofLines (contents text) := rfl

/-- What the lines of two texts hold, with a line feed between them. -/
theorem contents_append (a b : String) :
    ∃ gap, (gap = [] ∨ gap = [[]]) ∧ contents (a ++ "\n" ++ b) = contents a ++ (gap ++ contents b) := by
  have htext : (a ++ "\n" ++ b).toList = a.toList ++ '\n' :: b.toList := by simp
  obtain ⟨gap, hgap, hlines⟩ := lines_append a.toList b.toList
  refine ⟨gap.map content, ?_, ?_⟩
  · rcases hgap with rfl | rfl
    · exact Or.inl rfl
    · exact Or.inr rfl
  · rw [contents, htext, hlines, List.map_append, List.map_append]
    rfl

theorem ofLines_gap {gap : List (List Char)} (hgap : gap = [] ∨ gap = [[]]) (ls : List (List Char)) :
    ofLines (gap ++ ls) = ofLines ls := by
  rcases hgap with rfl | rfl
  · rfl
  · exact ofLines_of_none rfl ls

theorem unbroken_of_mem_contents (text : String) : ∀ l ∈ contents text, Unbroken l := by
  intro l hl
  obtain ⟨r, hr, rfl⟩ := List.mem_map.1 hl
  have hline : Unbroken r := unbroken_of_mem_lines text.toList r hr
  exact fun c hc => hline c ((content_isInfix r).subset hc)

/-- Reading a comment never fails, whatever the text: each directive makes a tag. A tag named `error`
    can only be the last. The argument of any other has no line break in it, and every tag is read back
    from the pair of its name and its argument. Where the first of two comments has no tag named `error`,
    the tags of both follow each other; else the tags in front of this one stay as they are, and its
    argument goes on with all that the lines of the second comment hold. -/
theorem ofComment_append (a b : String) :
    makeComment a = .ok (ofComment a) ∧
    (∀ t ∈ (ofComment a).dropLast, t.name ≠ errorName) ∧
    (∀ t ∈ ofComment a, (t.name ≠ errorName → Unbroken t.argument.toList) ∧ ofValue t.toValue = .ok t) ∧
    ((∀ t ∈ ofComment a, t.name ≠ errorName) →
      ofComment (a ++ "\n" ++ b) = ofComment a ++ ofComment b) ∧
    ∀ before t, ofComment a = before ++ [t] → t.name = errorName → ∃ rest gap,
      (gap = [] ∨ gap = [[]]) ∧ t.argument = String.ofList (trim (joinLines rest)) ∧
      ofComment (a ++ "\n" ++ b) = before ++
        [⟨errorName, String.ofList (trim (joinLines (rest ++ (gap ++ contents b))))⟩] := by
  obtain ⟨gap, hgap, hcontents⟩ := contents_append a b
  have hwhole : ofComment (a ++ "\n" ++ b) = ofLines (contents a ++ (gap ++ contents b)) := by
    rw [ofComment_eq, hcontents]
  have htags : ∀ t ∈ ofComment a,
      (t.name ≠ errorName → Unbroken t.argument.toList) ∧ ofValue t.toValue = .ok t := by
    intro t ht
    obtain ⟨hnormal, hpart⟩ := normal_of_mem_ofLines (contents a) t ht
    refine ⟨fun hne => ?_, hnormal.ofValue_toValue⟩
    obtain ⟨l, hl, hinside⟩ := hpart hne
    exact fun c hc => unbroken_of_mem_contents a l hl c (hinside.subset hc)
  rcases ofLines_append (contents a) with ⟨hnone, happend⟩ | ⟨front, rest, hnone, happend⟩
  · refine ⟨makeLines_eq _, fun t ht => hnone t (List.dropLast_subset _ ht), htags, fun _ => ?_, ?_⟩
    · rw [hwhole, happend, ofLines_gap hgap]
      rfl
    · intro before t hlast hname
      have hmem : t ∈ ofLines (contents a) := by
        rw [← ofComment_eq, hlast]
        exact List.mem_append_right _ List.mem_cons_self
      exact absurd hname (hnone t hmem)
  · have ha : ofComment a = front ++ [⟨errorName, String.ofList (trim (joinLines rest))⟩] := by
      have hnil := happend []
      rwa [List.append_nil, List.append_nil] at hnil
    refine ⟨makeLines_eq _, ?_, htags, fun hall => ?_, ?_⟩
    · rw [ha, List.dropLast_concat]
      exact hnone
    · have herror := hall ⟨errorName, String.ofList (trim (joinLines rest))⟩ (by rw [ha]; simp)
      exact absurd rfl herror
    · intro before t hlast hname
      rw [ha] at hlast
      obtain ⟨rfl, ht⟩ := List.append_inj' hlast rfl
      obtain rfl := List.singleton_inj.1 ht
      exact ⟨rest, gap, hgap, rfl, by rw [hwhole, happend]⟩

theorem ofComment_append_ages :
    (∀ t ∈ ofComment "/** @min 0 */", t.name ≠ errorName) ∧
    ofComment ("/** @min 0 */" ++ "\n" ++ "/** @max 9 */") =
      ofComment "/** @min 0 */" ++ ofComment "/** @max 9 */" ∧
    ofComment "@min 0\n@error too" = [⟨"min", "0"⟩] ++ [⟨errorName, "too"⟩] ∧
    ∃ argument, ofComment ("@min 0\n@error too" ++ "\n" ++ "@young") =
      [⟨"min", "0"⟩] ++ [⟨errorName, argument⟩] := by
  have hnone : ∀ t ∈ ofComment "/** @min 0 */", t.name ≠ errorName := by decide
  have hlast : ofComment "@min 0\n@error too" = [⟨"min", "0"⟩] ++ [⟨errorName, "too"⟩] := by decide
  obtain ⟨-, -, -, hjoin, -⟩ := ofComment_append "/** @min 0 */" "/** @max 9 */"
  obtain ⟨-, -, -, -, hrest⟩ := ofComment_append "@min 0\n@error too" "@young"
  obtain ⟨rest, gap, -, -, htags⟩ := hrest _ _ hlast rfl
  exact ⟨hnone, hjoin hnone, hlast, _, htags⟩

example : ofComment "/** @min 0\n * Any text.\n * @error too\n * @young */" =
    [⟨"min", "0"⟩, ⟨"error", "too\n@young"⟩] := by decide

end Conform.Tag
