import Conform.Proofs.Outcome
import Conform.Proofs.Tag.Normal

/-!
# Reading a tag again

The name of a tag is trimmed before the at signs in front of it are taken off, and not again. So a tag
that is read is in normal form, and the same when its pair is read again, unless there was a blank
behind the at signs: then the name starts with that blank (`ofValue_stable_iff`), and reading the pair
again takes off more, or finds that nothing is left.
-/

namespace Conform.Tag

open Text

/-! ## Names -/

/-- A piece of data and the text that it gives as the name of a tag. -/
inductive NamedBy : Value → String → Prop where
  | name {v : Value} {s : String} (hv : v.items? = some [.string s]) : NamedBy v s
  | pair {v argument : Value} {s : String} (hv : v.items? = some [.string s, argument]) : NamedBy v s
  | object {es : List (String × Value)} {s : String} (hn : es.lookup "name" = some (.string s)) :
      NamedBy (.object es) s

/-- A text that starts, blanks aside, with at signs and a blank behind them. -/
def Detached (s : List Char) : Prop :=
  ∃ n b r, trim s = List.replicate (n + 1) '@' ++ b :: r ∧ isBlank b = true

theorem normalName_suffix (s : List Char) : normalName s <:+ trim s := List.dropWhile_suffix _

theorem head?_normalName (s : List Char) : (normalName s).head? ≠ some '@' := by
  intro h
  have hat := head?_dropWhile h
  simp at hat

theorem getLast?_normalName {s : List Char} {c : Char} (h : (normalName s).getLast? = some c) :
    isBlank c = false := by
  obtain ⟨l, hl⟩ := normalName_suffix s
  have hlast : (trim s).getLast? = some c := by rw [← hl, List.getLast?_append, h, Option.some_or]
  exact (trimmed_trim s).last c hlast

/-- The name that is kept starts with a blank exactly if there was one behind the at signs. -/
theorem detached_iff {s : List Char} :
    Detached s ↔ ∃ b, (normalName s).head? = some b ∧ isBlank b = true := by
  constructor
  · rintro ⟨n, b, r, hs, hb⟩
    have hne : b ≠ '@' := by
      rintro rfl
      exact absurd hb (by decide)
    refine ⟨b, ?_, hb⟩
    rw [normalName, hs, List.dropWhile_append_of_pos (by simp)]
    simp [hne]
  · rintro ⟨b, hhead, hb⟩
    obtain ⟨r, hr⟩ := List.head?_eq_some_iff.1 hhead
    -- without an at sign in front, the blank would be the first character of a trimmed text
    have hfront : (trim s).takeWhile (· = '@') ≠ [] := by
      intro hnone
      have hsame : trim s = normalName s := by
        rw [← List.takeWhile_append_dropWhile (p := (· = '@')) (l := trim s), hnone]
        rfl
      have hstart := (trimmed_trim s).head b (hsame ▸ hhead)
      rw [hb] at hstart
      cases hstart
    obtain ⟨n, hn⟩ : ∃ n, ((trim s).takeWhile (· = '@')).length = n + 1 :=
      Nat.exists_eq_succ_of_ne_zero (mt List.length_eq_zero_iff.1 hfront)
    have hsigns : (trim s).takeWhile (· = '@') = List.replicate (n + 1) '@' :=
      List.eq_replicate_iff.2 ⟨hn, fun c hc => by simpa using List.mem_takeWhile_imp hc⟩
    refine ⟨n, b, r, ?_, hb⟩
    rw [← hsigns, ← hr]
    exact (List.takeWhile_append_dropWhile).symm

/-- A name that starts with a blank does not stay as it is. -/
theorem normalName_ne {s : List Char} {b : Char} (hs : s.head? = some b) (hb : isBlank b = true) :
    normalName s ≠ s := by
  obtain ⟨r, rfl⟩ := List.head?_eq_some_iff.1 hs
  have hstart : trimStart (b :: r) = trimStart r := List.dropWhile_cons_of_pos hb
  have hlength : (normalName (b :: r)).length ≤ r.length :=
    calc (normalName (b :: r)).length
      _ ≤ (trim (b :: r)).length := (normalName_suffix _).length_le
      _ ≤ (trimStart r).length := hstart ▸ (trim_prefix_trimStart (b :: r)).length_le
      _ ≤ r.length := List.length_dropWhile_le _ r
  intro h
  rw [h, List.length_cons] at hlength
  omega

/-! ## Tags -/

/-- A tag is made if something is left of the name, and has the name and the argument as they are kept. -/
theorem make_eq_ok {name argument : String} {t : Tag} :
    make name argument = .ok t ↔ normalName name.toList ≠ [] ∧
      t.name.toList = normalName name.toList ∧ t.argument.toList = trim argument.toList := by
  have htext : ∀ (s : String) (l : List Char), s.toList = l ↔ String.ofList l = s := by
    intro s l
    constructor
    · rintro rfl
      exact String.ofList_toList
    · rintro rfl
      exact String.toList_ofList
  obtain ⟨n, a⟩ := t
  unfold make
  simp only [List.isEmpty_iff, htext]
  split
  · rename_i h
    simp [h]
  · rename_i h
    simp [h]

/-- A tag that is read is made of the name that the data gives and the text of an argument. -/
theorem exists_make_of_ofValue {v : Value} {t : Tag} (h : ofValue v = .ok t) :
    ∃ name argument, NamedBy v name ∧ make name argument = .ok t := by
  have hfields : ∀ name argument, ofFields name argument = .ok t →
      ∃ s text, name = some (.string s) ∧ make s text = .ok t := by
    intro name argument h
    obtain ⟨text, -, h⟩ := Outcome.bind_eq_ok.1 h
    split at h
    · cases h
    · exact ⟨_, text, rfl, h⟩
    · cases h
  have hitems : ∀ items, v.items? = some items → ofItems items = .ok t →
      ∃ name argument, NamedBy v name ∧ make name argument = .ok t := by
    intro items hv h
    unfold ofItems at h
    split at h
    · obtain ⟨s, text, hname, hmake⟩ := hfields _ _ h
      cases hname
      exact ⟨s, text, .name hv, hmake⟩
    · obtain ⟨s, text, hname, hmake⟩ := hfields _ _ h
      cases hname
      exact ⟨s, text, .pair hv, hmake⟩
    · cases h
  cases v with
  | list items => exact hitems items rfl h
  | tuple items => exact hitems items rfl h
  | object es =>
    obtain ⟨s, text, hname, hmake⟩ := hfields _ _ h
    exact ⟨s, text, .object hname, hmake⟩
  | _ => cases h

/-- Whatever data a tag is read from, its name is not empty, starts with no at sign and ends with no
    blank, and there are no blanks around its argument. The tag is in normal form, and reading the pair of
    its name and its argument gives it again, exactly if there was no blank behind the at signs in front of
    the name. -/
theorem ofValue_stable_iff {v : Value} {t : Tag} (h : ofValue v = .ok t) :
    t.name.toList ≠ [] ∧ t.name.toList.head? ≠ some '@' ∧
    (∀ c, t.name.toList.getLast? = some c → isBlank c = false) ∧ Trimmed t.argument.toList ∧
    ∃ s, NamedBy v s ∧ (t.Normal ↔ ¬Detached s.toList) ∧
      (ofValue t.toValue = .ok t ↔ ¬Detached s.toList) := by
  obtain ⟨s, argument, hs, hmake⟩ := exists_make_of_ofValue h
  obtain ⟨hleft, hname, hargument⟩ := make_eq_ok.1 hmake
  have hne : t.name.toList ≠ [] := hname ▸ hleft
  have hhead : t.name.toList.head? ≠ some '@' := hname ▸ head?_normalName _
  have hlast : ∀ c, t.name.toList.getLast? = some c → isBlank c = false := by
    rw [hname]
    exact fun c => getLast?_normalName
  have htrimmed : Trimmed t.argument.toList := hargument ▸ trimmed_trim _
  have hnormal : ¬Detached s.toList → t.Normal := by
    intro hattached
    refine ⟨hne, ⟨fun c hc => ?_, hlast⟩, hhead, htrimmed⟩
    by_contra hb
    exact hattached (detached_iff.2 ⟨c, hname ▸ hc, by simpa using hb⟩)
  have hagain : ofValue t.toValue = .ok t → ¬Detached s.toList := by
    intro hread hd
    obtain ⟨b, hb, hblank⟩ := detached_iff.1 hd
    obtain ⟨-, hsame, -⟩ := make_eq_ok.1 hread
    rw [← hname] at hb
    exact normalName_ne hb hblank hsame.symm
  exact ⟨hne, hhead, hlast, htrimmed, s, hs, ⟨fun hn => hagain hn.ofValue_toValue, hnormal⟩,
    hagain, fun ha => (hnormal ha).ofValue_toValue⟩

/-- An argument that is no text, and at signs that stand directly in front of the name. -/
theorem ofValue_stable_iff_minimum :
    let minimum : Value := .tuple [.string " @@min ", .list [.int 3, .null]]
    ofValue minimum = .ok ⟨"min", "[3, null]"⟩ ∧
      (⟨"min", "[3, null]"⟩ : Tag).Normal ∧
      ofValue (toValue ⟨"min", "[3, null]"⟩) = .ok ⟨"min", "[3, null]"⟩ := by
  intro minimum
  have hread : ofValue minimum = .ok ⟨"min", "[3, null]"⟩ := by decide
  obtain ⟨-, -, -, -, s, hs, hnormal, hagain⟩ := ofValue_stable_iff hread
  have hattached : ¬Detached s.toList := hagain.1 (by decide)
  exact ⟨hread, hnormal.2 hattached, hagain.2 hattached⟩

/-- A blank behind the at sign stays in front of the name, and a second reading takes it off. -/
theorem ofValue_detached :
    ofValue (.list [.string "@ min", .string "1"]) = .ok ⟨" min", "1"⟩ ∧
      ¬(⟨" min", "1"⟩ : Tag).Normal ∧
      ofValue (toValue ⟨" min", "1"⟩) = .ok ⟨"min", "1"⟩ := by
  refine ⟨by decide, fun hn => ?_, by decide⟩
  have hblank := hn.name_trimmed.head ' ' (by decide)
  cases hblank

/-- Nothing may be left of a name that was kept. -/
example : ofValue (.list [.string "@ @"]) = .ok ⟨" @", ""⟩ ∧
    ofValue (toValue ⟨" @", ""⟩) = .error ((Complaint.here .emptyName).within "name") := by decide

end Conform.Tag
