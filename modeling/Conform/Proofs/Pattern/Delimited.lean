import Conform.Pattern.Literal
import Conform.Rule.BuiltIn
import Mathlib.Data.List.Basic
import Mathlib.Data.List.TakeWhile

/-!
# One reading of a delimited pattern

An argument between slashes may hold slashes of its own, with letters of flags behind them. Since no flag
is a slash, the last slash is the one that closes the pattern, and an argument has one reading at most
(`Delimits.unique`). The reader finds it wherever there is one (`delimited?_eq_some_iff`), and what has
none is never stripped in part: it is the text of the pattern as it stands.
-/

namespace Conform.Pattern

variable {argument s p f p' f' : List Char}

/-- The argument is a pattern between slashes, with letters of flags behind the second one. -/
structure Delimits (argument p f : List Char) : Prop where
  /-- The pattern and the letters make up the argument. -/
  eq : argument = '/' :: (p ++ '/' :: f)
  /-- Behind the second slash there are letters of flags only. -/
  letters : ∀ c ∈ f, c = 'i' ∨ c = 'm' ∨ c = 's'

theorem isFlagLetter_iff {c : Char} : isFlagLetter c = true ↔ c = 'i' ∨ c = 'm' ∨ c = 's' := by
  simp [isFlagLetter, or_assoc]

/-! ## The closing slash -/

/-- The slash in front of letters of flags closes the pattern, whatever the pattern holds. -/
theorem closing?_append (hf : ∀ c ∈ f, isFlagLetter c = true) :
    closing? (p ++ '/' :: f).reverse = some (p, f) := by
  have hletters : ∀ c ∈ f.reverse, isFlagLetter c = true := by simpa using hf
  have hslash : isFlagLetter '/' = false := by decide
  have hreverse : (p ++ '/' :: f).reverse = f.reverse ++ '/' :: p.reverse := by simp
  unfold closing?
  rw [hreverse, List.dropWhile_append_of_pos hletters, List.takeWhile_append_of_pos hletters,
    List.dropWhile_cons_of_neg (by simp [hslash]), List.takeWhile_cons_of_neg (by simp [hslash])]
  simp

theorem closing?_eq_some_iff :
    closing? s.reverse = some (p, f) ↔
      s = p ++ '/' :: f ∧ ∀ c ∈ f, c = 'i' ∨ c = 'm' ∨ c = 's' := by
  simp only [← isFlagLetter_iff]
  constructor
  · intro h
    unfold closing? at h
    split at h
    · rename_i r hr
      obtain ⟨rfl, rfl⟩ := Prod.mk.inj (Option.some.inj h)
      refine ⟨?_, fun c hc => List.mem_takeWhile_imp (List.mem_reverse.1 hc)⟩
      have hparts : s.reverse.takeWhile isFlagLetter ++ '/' :: r = s.reverse := by
        rw [← hr]
        exact List.takeWhile_append_dropWhile
      simpa using (congrArg List.reverse hparts).symm
    · cases h
  · rintro ⟨rfl, hf⟩
    exact closing?_append hf

/-! ## Readings of an argument -/

theorem delimits_slash_iff : Delimits ('/' :: s) p f ↔ closing? s.reverse = some (p, f) := by
  rw [closing?_eq_some_iff]
  constructor
  · intro h
    exact ⟨(List.cons.inj h.eq).2, h.letters⟩
  · rintro ⟨rfl, hf⟩
    exact ⟨rfl, hf⟩

/-- An argument that has a reading does not end in a line feed. -/
theorem Delimits.getLast?_ne (h : Delimits argument p f) : argument.getLast? ≠ some '\n' := by
  intro hlast
  rw [h.eq, ← List.cons_append, List.getLast?_append_cons] at hlast
  rcases List.mem_cons.1 (List.mem_of_getLast? hlast) with hslash | hmem
  · cases hslash
  · rcases h.letters _ hmem with hc | hc | hc <;> cases hc

/-- Where no line feed follows, an argument that opens with a slash is closed at its end. -/
theorem delimited?_slash (h : s.getLast? ≠ some '\n') :
    delimited? ('/' :: s) = closing? s.reverse := by
  have hrest : ∀ r, s.reverse ≠ '\n' :: r := by
    intro r hr
    rw [← List.head?_reverse, hr] at h
    exact h rfl
  cases hclosing : closing? s.reverse with
  | some q => simp only [delimited?, hclosing]
  | none => simp only [delimited?, hclosing] -- by `hrest` the text is not tried without a line feed

/-- The reader finds the reading of an argument, and none where there is none. -/
theorem delimited?_eq_some_iff (h : argument.getLast? ≠ some '\n') :
    delimited? argument = some (p, f) ↔ Delimits argument p f := by
  by_cases hopening : ∃ s, argument = '/' :: s
  · obtain ⟨s, rfl⟩ := hopening
    have hs : s.getLast? ≠ some '\n' := by
      intro hs
      rw [List.getLast?_cons, hs] at h
      exact h rfl
    rw [delimited?_slash hs, delimits_slash_iff]
  · have hnone : delimited? argument = none := by
      unfold delimited?
      split
      · exact absurd ⟨_, rfl⟩ hopening
      · rfl
    rw [hnone]
    exact iff_of_false nofun fun hd => hopening ⟨_, hd.eq⟩

/-- An argument has one reading at most. -/
theorem Delimits.unique (h : Delimits argument p f) (h' : Delimits argument p' f') :
    p' = p ∧ f' = f := by
  have hfound := (delimited?_eq_some_iff h.getLast?_ne).2 h
  have hfound' := (delimited?_eq_some_iff h.getLast?_ne).2 h'
  rw [hfound] at hfound'
  cases hfound'
  exact ⟨rfl, rfl⟩

/-! ## Compiling an argument -/

/-- The flags that letters set are those of the letters that occur. -/
theorem mem_flags_iff (hf : ∀ c ∈ f, c = 'i' ∨ c = 'm' ∨ c = 's') (flag : Flag) :
    flag ∈ f.filterMap Flag.ofLetter? ↔
      flag = .ignoreCase ∧ 'i' ∈ f ∨ flag = .multiline ∧ 'm' ∈ f ∨ flag = .dotAll ∧ 's' ∈ f := by
  rw [List.mem_filterMap]
  constructor
  · rintro ⟨c, hc, hflag⟩
    rcases hf c hc with rfl | rfl | rfl
    · exact Or.inl ⟨(Option.some.inj hflag).symm, hc⟩
    · exact Or.inr (Or.inl ⟨(Option.some.inj hflag).symm, hc⟩)
    · exact Or.inr (Or.inr ⟨(Option.some.inj hflag).symm, hc⟩)
  · rintro (⟨rfl, hc⟩ | ⟨rfl, hc⟩ | ⟨rfl, hc⟩)
    · exact ⟨'i', hc, rfl⟩
    · exact ⟨'m', hc, rfl⟩
    · exact ⟨'s', hc, rfl⟩

theorem ofArgument_of_delimits (h : Delimits argument p f) : ofArgument argument = (p, f) := by
  rw [ofArgument, (delimited?_eq_some_iff h.getLast?_ne).2 h, Option.getD_some]

theorem ofArgument_of_not_delimits (hend : argument.getLast? ≠ some '\n')
    (h : ∀ p f, ¬Delimits argument p f) : ofArgument argument = (argument, []) := by
  have hnone : delimited? argument = none := by
    refine Option.eq_none_iff_forall_ne_some.2 fun q hq => ?_
    exact h q.1 q.2 ((delimited?_eq_some_iff hend).1 hq)
  rw [ofArgument, hnone, Option.getD_none]

end Conform.Pattern

namespace Conform.Rule

open Pattern

/-- What is compiled for an argument. A pattern between slashes, which may hold slashes, line feeds and
    letters of its own, with any letters of flags behind it is compiled with exactly the flags of these
    letters; any other argument that does not end in a line feed is compiled as it stands and without
    flags. No argument can be read as a pattern between slashes in two ways. -/
theorem patternOf_exact :
    (∀ (argument : String) (p f : List Char), Delimits argument.toList p f →
      ofArgument argument.toList = (p, f) ∧
      patternOf argument =
        (ofText p (f.filterMap Flag.ofLetter?)).mapError (patternError argument) ∧
      ∀ flag, flag ∈ f.filterMap Flag.ofLetter? ↔
        flag = .ignoreCase ∧ 'i' ∈ f ∨ flag = .multiline ∧ 'm' ∈ f ∨ flag = .dotAll ∧ 's' ∈ f) ∧
    (∀ argument : String, argument.toList.getLast? ≠ some '\n' →
      (∀ p f, ¬Delimits argument.toList p f) →
      ofArgument argument.toList = (argument.toList, []) ∧
      patternOf argument = (ofText argument.toList []).mapError (patternError argument)) ∧
    ∀ argument p f p' f', Delimits argument p f → Delimits argument p' f' → p' = p ∧ f' = f := by
  refine ⟨fun argument p f h => ?_, fun argument hend hno => ?_,
    fun argument p f p' f' h h' => h.unique h'⟩
  · have hread := ofArgument_of_delimits h
    refine ⟨hread, ?_, mem_flags_iff h.letters⟩
    rw [patternOf, compile, hread]
  · have hread := ofArgument_of_not_delimits hend hno
    refine ⟨hread, ?_⟩
    rw [patternOf, compile, hread, List.filterMap_nil]

/-- The pattern `a/i` between slashes, with a letter behind it, which has no other reading, and an argument
    with a letter behind the second slash that is no flag's. -/
theorem patternOf_exact_slashes :
    Delimits "/a/i/m".toList "a/i".toList "m".toList ∧
    patternOf "/a/i/m" = (ofText "a/i".toList [.multiline]).mapError (patternError "/a/i/m") ∧
    (∀ p f, Delimits "/a/i/m".toList p f → p = "a/i".toList ∧ f = "m".toList) ∧
    "/a/x".toList.getLast? ≠ some '\n' ∧ (∀ p f, ¬Delimits "/a/x".toList p f) ∧
    patternOf "/a/x" = (ofText "/a/x".toList []).mapError (patternError "/a/x") := by
  have hdelimits : Delimits "/a/i/m".toList "a/i".toList "m".toList :=
    ⟨rfl, List.forall_mem_singleton.2 (Or.inr (Or.inl rfl))⟩
  have hend : "/a/x".toList.getLast? ≠ some '\n' := by decide
  have hnone : ∀ p f, ¬Delimits "/a/x".toList p f := by
    intro p f h
    have hread := (delimited?_eq_some_iff h.getLast?_ne).2 h
    cases hread
  obtain ⟨hread, hwhole, hunique⟩ := patternOf_exact
  exact ⟨hdelimits, (hread _ _ _ hdelimits).2.1, fun p f => hunique _ _ _ p f hdelimits, hend, hnone,
    (hwhole _ hend hnone).2⟩

end Conform.Rule
