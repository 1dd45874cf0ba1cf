import Conform.Proofs.Text.Ascii
import Conform.Registry
import Mathlib.Computability.RegularExpressions

/-!
# The languages of the rules for whole texts

The two rules that look at a text from end to end accept exactly what two regular expressions match in
full: a run of letters and digits; a run of the characters of a local part, an at sign, and labels with
single dots between them. The rules cut a text at its signs instead of trying expressions on it. That
is the same because no part has the sign in it that it is cut off by: cutting a text that is put
together from such parts gives the parts back.
-/

namespace Conform.Text

variable {c : Char} {s : List Char} {ps : List (List Char)}

/-! ## Pieces between single characters -/

theorem pieces_eq_splitOnP (p : Char → Bool) (s : List Char) : pieces p s = s.splitOnP p := by
  induction s with
  | nil => rfl
  | cons c s ih =>
    rw [pieces, List.splitOnP_cons_eq_if_modifyHead, ih]
    cases hs : s.splitOnP p with
    | nil => exact absurd hs (List.splitOnP_ne_nil p s)
    | cons w ws => rfl

theorem not_mem_of_mem_pieces (c : Char) (s : List Char) : ∀ p ∈ pieces (· == c) s, c ∉ p := by
  induction s with
  | nil => simp [pieces]
  | cons d s ih =>
    rw [pieces]
    by_cases hd : d = c
    · rw [if_pos (beq_iff_eq.2 hd)]
      exact List.forall_mem_cons.2 ⟨List.not_mem_nil, ih⟩
    · rw [if_neg (by simpa using hd)]
      have hdc : c ≠ d := fun h => hd h.symm
      cases hs : pieces (· == c) s with
      | nil => simp [hdc]
      | cons w ws =>
        rw [hs, List.forall_mem_cons] at ih
        refine List.forall_mem_cons.2 ⟨?_, ih.2⟩
        rw [List.mem_cons, not_or]
        exact ⟨hdc, ih.1⟩

/-- The pieces of a text are the parts without the character that it is put together from. -/
theorem pieces_eq_iff :
    pieces (· == c) s = ps ↔ ps ≠ [] ∧ (∀ p ∈ ps, c ∉ p) ∧ [c].intercalate ps = s := by
  have hsplit : pieces (· == c) s = s.splitOn c := pieces_eq_splitOnP _ s
  constructor
  · rintro rfl
    refine ⟨?_, not_mem_of_mem_pieces c s, ?_⟩
    · rw [hsplit]
      exact List.splitOn_ne_nil c s
    · rw [hsplit]
      exact List.intercalate_splitOn c
  · rintro ⟨hne, hfree, rfl⟩
    rw [hsplit]
    exact List.splitOn_intercalate c hfree hne

theorem intercalate_cons (c : Char) (p : List Char) (ps : List (List Char)) :
    [c].intercalate (p :: ps) = p ++ ps.flatMap (c :: ·) := by
  induction ps generalizing p with
  | nil => simp
  | cons q ps ih =>
    rw [List.intercalate_cons_cons, ih q, List.flatMap_cons, List.append_assoc, List.singleton_append,
      List.cons_append]

end Conform.Text

namespace Conform.Rule

open Text RegularExpression

variable {s : List Char} {cs : List Char}

/-! ## Runs of characters -/

/-- One or more of some characters. -/
def Run (cs s : List Char) : Prop := s ≠ [] ∧ ∀ c ∈ s, c ∈ cs

/-- A test of every character, on a text that is not empty. -/
theorem isRun_iff {p : Char → Bool} (hp : ∀ c, p c = true ↔ c ∈ cs) :
    (!s.isEmpty && s.all p) = true ↔ Run cs s := by
  simp [Run, hp]

/-! ## Classes of characters -/

/-- The characters of a local part. -/
def localChars : List Char := asciiAlphanumerics ++ ".!#$%&'*+/=?^_\x60\x7b|\x7d~-".toList

/-- The characters of a label. -/
def labelChars : List Char := asciiAlphanumerics ++ ['-']

theorem isLocalChar_iff {c : Char} : isLocalChar c = true ↔ c ∈ localChars := by
  show (isAsciiAlphanumeric c || localSigns.contains c) = true ↔ c ∈ asciiAlphanumerics ++ localSigns
  rw [Bool.or_eq_true, isAsciiAlphanumeric_iff, List.contains_iff_mem, List.mem_append]

/-- There is no at sign among characters of a local part. -/
theorem at_not_mem (hs : ∀ c ∈ s, c ∈ localChars) : '@' ∉ s := by
  have hat : '@' ∉ localChars := by decide
  exact fun hmem => hat (hs '@' hmem)

theorem isLabelChar_iff {c : Char} : isLabelChar c = true ↔ c ∈ labelChars := by
  rw [isLabelChar, Bool.or_eq_true, isAsciiAlphanumeric_iff, beq_iff_eq, labelChars, List.mem_append,
    List.mem_singleton]

/-! ## Addresses -/

/-- One or more labels with single dots between them. -/
def Domain (s : List Char) : Prop :=
  ∃ labels, s = ['.'].intercalate labels ∧ labels ≠ [] ∧ ∀ l ∈ labels, Run labelChars l

/-- A local part, an at sign and a domain. -/
def Address (s : List Char) : Prop :=
  ∃ name domain, s = name ++ '@' :: domain ∧ Run localChars name ∧ Domain domain

/-- Only the dot and the characters of labels occur in a domain. -/
theorem Domain.mem_localChars (hs : Domain s) : ∀ c ∈ s, c ∈ localChars := by
  have hdot : '.' ∈ localChars := by decide
  have hhyphen : '-' ∈ localChars := by decide
  have hsub : labelChars ⊆ localChars :=
    List.append_subset.2 ⟨List.subset_append_left _ _, List.cons_subset.2 ⟨hhyphen, List.nil_subset _⟩⟩
  obtain ⟨labels, rfl, hne, hlabels⟩ := hs
  obtain ⟨l, ls, rfl⟩ := List.exists_cons_of_ne_nil hne
  rw [List.forall_mem_cons] at hlabels
  intro c hc
  rw [intercalate_cons, List.mem_append, List.mem_flatMap] at hc
  rcases hc with hc | ⟨m, hm, hc⟩
  · exact hsub (hlabels.1.2 c hc)
  · rcases List.mem_cons.1 hc with rfl | hc
    · exact hdot
    · exact hsub ((hlabels.2 m hm).2 c hc)

theorem isLabel_iff : isLabel s = true ↔ Run labelChars s :=
  isRun_iff fun _ => isLabelChar_iff

/-- A domain is cut at its dots, of which there is none in a label. -/
theorem isDomain_iff : isDomain s = true ↔ Domain s := by
  have hdot : '.' ∉ labelChars := by decide
  rw [isDomain, List.all_eq_true]
  constructor
  · intro h
    obtain ⟨hne, -, hs⟩ := pieces_eq_iff.1 (rfl : pieces (· == '.') s = _)
    exact ⟨_, hs.symm, hne, fun l hl => isLabel_iff.1 (h l hl)⟩
  · rintro ⟨labels, rfl, hne, hlabels⟩ l hl
    have hpieces : pieces (· == '.') (['.'].intercalate labels) = labels :=
      pieces_eq_iff.2 ⟨hne, fun l hl hmem => hdot ((hlabels l hl).2 _ hmem), rfl⟩
    rw [hpieces] at hl
    exact isLabel_iff.2 (hlabels l hl)

/-- An address is cut at its at sign, of which there is none in a local part nor in a domain. -/
theorem isAddress_iff : isAddress s = true ↔ Address s := by
  have hcut : ∀ name domain, pieces (· == '@') s = [name, domain] ↔
      ('@' ∉ name ∧ '@' ∉ domain) ∧ s = name ++ '@' :: domain := by
    intro name domain
    have hjoin : ['@'].intercalate [name, domain] = name ++ '@' :: domain := by simp [List.intercalate]
    rw [pieces_eq_iff, hjoin, List.forall_mem_cons, List.forall_mem_singleton, eq_comm (b := s)]
    exact and_iff_right (List.cons_ne_nil _ _)
  constructor
  · intro h
    rw [isAddress] at h
    split at h
    · rename_i name domain hpieces
      obtain ⟨-, hs⟩ := (hcut name domain).1 hpieces
      rw [Bool.and_eq_true, isDomain_iff] at h
      have hname : Run localChars name := (isRun_iff fun _ => isLocalChar_iff).1 h.1
      exact ⟨name, domain, hs, hname, h.2⟩
    · cases h
  · rintro ⟨name, domain, hs, hname, hdomain⟩
    have hpieces : pieces (· == '@') s = [name, domain] :=
      (hcut name domain).2 ⟨⟨at_not_mem hname.2, at_not_mem hdomain.mem_localChars⟩, hs⟩
    rw [isAddress, hpieces]
    show (!name.isEmpty && name.all isLocalChar && isDomain domain) = true
    rw [Bool.and_eq_true, (isRun_iff fun _ => isLocalChar_iff), isDomain_iff]
    exact ⟨hname, hdomain⟩

theorem Address.count_at (hs : Address s) : s.count '@' = 1 := by
  obtain ⟨name, domain, rfl, hname, hdomain⟩ := hs
  have hn : name.count '@' = 0 := List.count_eq_zero.2 (at_not_mem hname.2)
  have hd : domain.count '@' = 0 := List.count_eq_zero.2 (at_not_mem hdomain.mem_localChars)
  rw [List.count_append, List.count_cons_self, hn, hd]

/-! ## Regular expressions -/

/-- Any one of some characters. -/
def oneOf (cs : List Char) : RegularExpression Char := cs.foldr (fun c e => char c + e) 0

/-- One or more of some characters. -/
def runOf (cs : List Char) : RegularExpression Char := oneOf cs * star (oneOf cs)

/-- Parts with a character between them, at least one. -/
def separated (c : Char) (e : RegularExpression Char) : RegularExpression Char :=
  e * star (char c * e)

theorem matches_char (c : Char) : s ∈ (char c).matches' ↔ s = [c] := Set.mem_singleton_iff

theorem matches_oneOf : s ∈ (oneOf cs).matches' ↔ ∃ c ∈ cs, s = [c] := by
  induction cs with
  | nil =>
    rw [oneOf, List.foldr_nil, matches'_zero]
    exact iff_of_false (Language.notMem_zero s) (by simp)
  | cons d cs ih =>
    have hcons : oneOf (d :: cs) = char d + oneOf cs := rfl
    rw [hcons, matches'_add, Language.mem_add, matches_char, ih]
    simp

theorem matches_star_oneOf : s ∈ (star (oneOf cs)).matches' ↔ ∀ c ∈ s, c ∈ cs := by
  rw [matches'_star, Language.mem_kstar]
  constructor
  · rintro ⟨ws, rfl, hws⟩ c hc
    obtain ⟨w, hw, hcw⟩ := List.mem_flatten.1 hc
    obtain ⟨d, hd, rfl⟩ := matches_oneOf.1 (hws w hw)
    rwa [List.mem_singleton.1 hcw]
  · intro hs
    have hjoin : (s.map fun c => [c]).flatten = s := List.flatMap_singleton' s
    refine ⟨s.map fun c => [c], hjoin.symm, fun w hw => ?_⟩
    obtain ⟨c, hc, rfl⟩ := List.mem_map.1 hw
    exact matches_oneOf.2 ⟨c, hs c hc, rfl⟩

theorem matches_runOf : s ∈ (runOf cs).matches' ↔ Run cs s := by
  rw [runOf, matches'_mul, Language.mem_mul]
  constructor
  · rintro ⟨w, hw, r, hr, rfl⟩
    obtain ⟨c, hc, rfl⟩ := matches_oneOf.1 hw
    exact ⟨List.cons_ne_nil c r, List.forall_mem_cons.2 ⟨hc, matches_star_oneOf.1 hr⟩⟩
  · rintro ⟨hne, hs⟩
    obtain ⟨c, r, rfl⟩ := List.exists_cons_of_ne_nil hne
    rw [List.forall_mem_cons] at hs
    exact ⟨[c], matches_oneOf.2 ⟨c, hs.1, rfl⟩, r, matches_star_oneOf.2 hs.2, rfl⟩

theorem matches_char_mul (c : Char) (e : RegularExpression Char) :
    s ∈ (char c * e).matches' ↔ ∃ p ∈ e.matches', s = c :: p := by
  rw [matches'_mul, Language.mem_mul]
  constructor
  · rintro ⟨w, hw, p, hp, rfl⟩
    rw [(matches_char c).1 hw]
    exact ⟨p, hp, rfl⟩
  · rintro ⟨p, hp, rfl⟩
    exact ⟨[c], (matches_char c).2 rfl, p, hp, rfl⟩

theorem matches_star_char_mul (c : Char) (e : RegularExpression Char) :
    s ∈ (star (char c * e)).matches' ↔
      ∃ ps : List (List Char), s = ps.flatMap (c :: ·) ∧ ∀ p ∈ ps, p ∈ e.matches' := by
  rw [matches'_star, Language.mem_kstar]
  constructor
  · rintro ⟨ws, rfl, hws⟩
    induction ws with
    | nil => exact ⟨[], rfl, List.forall_mem_nil _⟩
    | cons w ws ih =>
      rw [List.forall_mem_cons] at hws
      obtain ⟨p, hp, rfl⟩ := (matches_char_mul c e).1 hws.1
      obtain ⟨ps, hs, hps⟩ := ih hws.2
      refine ⟨p :: ps, ?_, List.forall_mem_cons.2 ⟨hp, hps⟩⟩
      rw [List.flatten_cons, List.flatMap_cons, hs]
  · rintro ⟨ps, rfl, hps⟩
    refine ⟨ps.map (c :: ·), List.flatMap_def, fun w hw => ?_⟩
    obtain ⟨p, hp, rfl⟩ := List.mem_map.1 hw
    exact (matches_char_mul c e).2 ⟨p, hps p hp, rfl⟩

/-- The repeated group has its separator in front of each part, where joining puts it in between. -/
theorem matches_separated (c : Char) (e : RegularExpression Char) :
    s ∈ (separated c e).matches' ↔
      ∃ ps, s = [c].intercalate ps ∧ ps ≠ [] ∧ ∀ p ∈ ps, p ∈ e.matches' := by
  rw [separated, matches'_mul, Language.mem_mul]
  constructor
  · rintro ⟨p, hp, r, hr, rfl⟩
    obtain ⟨ps, rfl, hps⟩ := (matches_star_char_mul c e).1 hr
    exact ⟨p :: ps, (intercalate_cons c p ps).symm, List.cons_ne_nil p ps,
      List.forall_mem_cons.2 ⟨hp, hps⟩⟩
  · rintro ⟨ps, rfl, hne, hps⟩
    obtain ⟨p, ps, rfl⟩ := List.exists_cons_of_ne_nil hne
    rw [List.forall_mem_cons] at hps
    exact ⟨p, hps.1, ps.flatMap (c :: ·), (matches_star_char_mul c e).2 ⟨ps, rfl, hps.2⟩,
      (intercalate_cons c p ps).symm⟩

/-! ## The rules -/

/-- What an address is matched against in full. -/
def addressExpression : RegularExpression Char :=
  runOf localChars * (char '@' * separated '.' (runOf labelChars))

/-- What an alphanumeric text is matched against in full. -/
def alphanumericExpression : RegularExpression Char := runOf asciiAlphanumerics

theorem matches_addressExpression : s ∈ addressExpression.matches' ↔ Address s := by
  have hdomain : ∀ d, d ∈ (separated '.' (runOf labelChars)).matches' ↔ Domain d := by
    intro d
    simp only [matches_separated, matches_runOf, Domain]
  rw [addressExpression, matches'_mul, Language.mem_mul]
  constructor
  · rintro ⟨name, hname, r, hr, rfl⟩
    obtain ⟨domain, hd, rfl⟩ := (matches_char_mul _ _).1 hr
    exact ⟨name, domain, rfl, matches_runOf.1 hname, (hdomain domain).1 hd⟩
  · rintro ⟨name, domain, rfl, hname, hd⟩
    exact ⟨name, matches_runOf.2 hname, '@' :: domain,
      (matches_char_mul _ _).2 ⟨domain, (hdomain domain).2 hd, rfl⟩, rfl⟩

/-- Nothing beyond ASCII, no blank and no line break. -/
def Plain (s : List Char) : Prop :=
  ∀ c ∈ s, c.toNat < 0x80 ∧ isBlank c = false ∧ isLineBreak c = false

instance (s : List Char) : Decidable (Plain s) :=
  List.decidableBAll (fun c : Char => c.toNat < 0x80 ∧ isBlank c = false ∧ isLineBreak c = false) s

theorem Address.plain (hs : Address s) : Plain s := by
  have hchars : Plain ('@' :: localChars) := by decide +kernel
  obtain ⟨name, domain, rfl, hname, hdomain⟩ := hs
  intro c hc
  rw [List.mem_append, List.mem_cons] at hc
  rcases hc with hc | rfl | hc
  · exact hchars c (List.mem_cons_of_mem _ (hname.2 c hc))
  · exact hchars '@' List.mem_cons_self
  · exact hchars c (List.mem_cons_of_mem _ (hdomain.mem_localChars c hc))

theorem Run.plain (hs : Run asciiAlphanumerics s) : Plain s := by
  have hchars : Plain asciiAlphanumerics := by decide +kernel
  exact fun c hc => hchars c (hs.2 c hc)

/-- The two rules of the table for texts that look at a whole text never end in an error, whatever their
argument is, and accept exactly the languages of their expressions. -/
theorem anchored_exact (s argument : String) :
    ((Primitive.builtIn .string).find? "email" = some email ∧
      ∃ accepted, email (.string s) argument = .ok accepted ∧
        (accepted = true ↔ s.toList ∈ addressExpression.matches') ∧
        (accepted = true ↔ Address s.toList) ∧
        (accepted = true → s.toList.count '@' = 1 ∧ Plain s.toList)) ∧
    ((Primitive.builtIn .string).find? "alphanumeric" = some alphanumeric ∧
      ∃ accepted, alphanumeric (.string s) argument = .ok accepted ∧
        (accepted = true ↔ s.toList ∈ alphanumericExpression.matches') ∧
        (accepted = true ↔ Run asciiAlphanumerics s.toList) ∧
        (accepted = true → Plain s.toList)) := by
  have haddress : isAddress s.toList = true ↔ Address s.toList := isAddress_iff
  have hrun : isAlphanumeric s.toList = true ↔ Run asciiAlphanumerics s.toList :=
    isRun_iff fun _ => isAsciiAlphanumeric_iff
  refine ⟨⟨rfl, isAddress s.toList, rfl, ?_, haddress, ?_⟩,
    ⟨rfl, isAlphanumeric s.toList, rfl, ?_, hrun, ?_⟩⟩
  · exact haddress.trans matches_addressExpression.symm
  · intro h
    exact ⟨(haddress.1 h).count_at, (haddress.1 h).plain⟩
  · exact hrun.trans matches_runOf.symm
  · intro h
    exact (hrun.1 h).plain

theorem anchored_exact_lineFeed :
    (email (.string "a.b@c-d.org") "" = .ok true ∧ Plain "a.b@c-d.org".toList ∧
      "a.b@c-d.org".toList ∈ addressExpression.matches') ∧
    (alphanumeric (.string "abc1") "" = .ok true ∧ Plain "abc1".toList ∧
      "abc1".toList ∈ alphanumericExpression.matches') ∧
    "a.b@c-d.org\n".toList ∉ addressExpression.matches' ∧
    "abc1\n".toList ∉ alphanumericExpression.matches' := by
  have hmail : email (.string "a.b@c-d.org") "" = .ok true := rfl
  have hword : alphanumeric (.string "abc1") "" = .ok true := rfl
  have hmailFeed : email (.string "a.b@c-d.org\n") "" = .ok false := rfl
  have hwordFeed : alphanumeric (.string "abc1\n") "" = .ok false := rfl
  refine ⟨⟨hmail, ?_⟩, ⟨hword, ?_⟩, ?_, ?_⟩
  · obtain ⟨⟨-, b, hb, hmatch, -, hplain⟩, -⟩ := anchored_exact "a.b@c-d.org" ""
    obtain rfl : b = true := Except.ok.inj (hb.symm.trans hmail)
    exact ⟨(hplain rfl).2, hmatch.1 rfl⟩
  · obtain ⟨-, -, b, hb, hmatch, -, hplain⟩ := anchored_exact "abc1" ""
    obtain rfl : b = true := Except.ok.inj (hb.symm.trans hword)
    exact ⟨hplain rfl, hmatch.1 rfl⟩
  · obtain ⟨⟨-, b, hb, hmatch, -⟩, -⟩ := anchored_exact "a.b@c-d.org\n" ""
    obtain rfl : b = false := Except.ok.inj (hb.symm.trans hmailFeed)
    exact fun h => Bool.false_ne_true (hmatch.2 h)
  · obtain ⟨-, -, b, hb, hmatch, -⟩ := anchored_exact "abc1\n" ""
    obtain rfl : b = false := Except.ok.inj (hb.symm.trans hwordFeed)
    exact fun h => Bool.false_ne_true (hmatch.2 h)

end Conform.Rule
