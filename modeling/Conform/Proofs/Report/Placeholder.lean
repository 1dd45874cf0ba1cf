import Conform.Report.Template
import Mathlib.Data.List.Infix

/-!
# Placeholders in templates

The placeholder starts with a character that it does not have again, so no two of its occurrences
overlap, and text around one cannot form another that starts before it. A template is therefore, in one
way only, a list of segments without the placeholder and with placeholders between them, and filling it
puts the text of the value between the same segments, whatever that text is.
-/

namespace Conform.Text

variable {needle s r : List Char} {n : Char} {ns : List Char} {pieces : List (List Char)}

/-! ## Occurrences -/

theorem after?_eq_some : after? needle s = some r ↔ s = needle ++ r := by
  induction needle generalizing s with
  | nil => simp [after?, eq_comm]
  | cons n needle ih =>
    cases s with
    | nil => simp [after?]
    | cons c s =>
      by_cases hc : n = c
      · subst hc
        simp [after?, ih]
      · have hc' : c ≠ n := fun h => hc h.symm
        simp [after?, hc, hc']

theorem isSome_after? : (after? needle s).isSome = true ↔ needle <+: s := by
  rw [Option.isSome_iff_exists]
  constructor
  · rintro ⟨r, hr⟩
    exact ⟨r, (after?_eq_some.1 hr).symm⟩
  · rintro ⟨r, hr⟩
    exact ⟨r, after?_eq_some.2 hr.symm⟩

/-- Where the first character of a text does not come again in it, an occurrence that starts in front of
    another ends there as well. -/
theorem prefix_of_prefix_append (hn : n ∉ ns) (hs : s ≠ []) (h : n :: ns <+: s ++ (n :: ns ++ r)) :
    n :: ns <+: s := by
  rcases List.prefix_or_prefix_of_prefix h (List.prefix_append s _) with hwhole | hpart
  · exact hwhole
  · -- the rest of the first occurrence would lie on the start of the second
    obtain ⟨t, ht⟩ := hpart
    obtain ⟨c, s, rfl⟩ := List.exists_cons_of_ne_nil hs
    cases t with
    | nil => exact ⟨[], by rw [List.append_nil, ← ht, List.append_nil]⟩
    | cons d t =>
      obtain ⟨rfl, hns⟩ := List.cons.inj ht
      have hmem : d ∈ ns := by
        rw [← hns]
        exact List.mem_append_right s List.mem_cons_self
      have hhead : d :: t <+: c :: (ns ++ r) := by
        rw [← List.prefix_append_right_inj (c :: s), ht]
        exact h
      rw [(List.cons_prefix_cons.1 hhead).1] at hmem
      exact absurd hmem hn

/-! ## Pieces -/

theorem cutAt_pass (needle xs s : List Char) : cutAt needle xs.length (xs ++ s) = cutAt needle 0 s := by
  induction xs with
  | nil => rfl
  | cons x xs ih => exact ih

/-- The pieces with one more character in front of the first of them. -/
theorem cutAt_cons {c : Char} (h : ¬needle <+: c :: s) {piece : List Char}
    (hs : cutAt needle 0 s = piece :: pieces) : cutAt needle 0 (c :: s) = (c :: piece) :: pieces := by
  rw [cutAt, if_neg (fun hsome => h (isSome_after?.1 hsome)), hs]

theorem cutAt_of_free (h : ¬needle <:+: s) : cutAt needle 0 s = [s] := by
  induction s with
  | nil => rfl
  | cons c s ih =>
    have hfront : ¬needle <+: c :: s := fun hp => h hp.isInfix
    have hrest : ¬needle <:+: s := fun hi => h (hi.trans (List.suffix_cons c s).isInfix)
    exact cutAt_cons hfront (ih hrest)

/-- A text without the needle is the first piece in front of one. -/
theorem cutAt_append (hn : n ∉ ns) (h : ¬n :: ns <:+: s) (r : List Char) :
    cutAt (n :: ns) 0 (s ++ (n :: ns ++ r)) = s :: cutAt (n :: ns) 0 r := by
  induction s with
  | nil =>
    have hhere : n :: ns <+: n :: (ns ++ r) := List.prefix_append (n :: ns) r
    have hpass : cutAt (n :: ns) ((n :: ns).length - 1) (ns ++ r) = cutAt (n :: ns) 0 r :=
      cutAt_pass (n :: ns) ns r
    rw [List.nil_append, List.cons_append, cutAt, if_pos (isSome_after?.2 hhere), hpass]
  | cons c s ih =>
    have hfront : ¬n :: ns <+: c :: (s ++ (n :: ns ++ r)) := fun hp =>
      h (prefix_of_prefix_append hn (List.cons_ne_nil c s) hp).isInfix
    have hrest : ¬n :: ns <:+: s := fun hi => h (hi.trans (List.suffix_cons c s).isInfix)
    exact cutAt_cons hfront (ih hrest)

/-- Pieces without the needle are the pieces of the text that joins them with needles. -/
theorem cutAt_intercalate (hn : n ∉ ns) (hne : pieces ≠ [])
    (h : ∀ piece ∈ pieces, ¬n :: ns <:+: piece) :
    cutAt (n :: ns) 0 ((n :: ns).intercalate pieces) = pieces := by
  induction pieces with
  | nil => exact absurd rfl hne
  | cons piece pieces ih =>
    rw [List.forall_mem_cons] at h
    cases pieces with
    | nil =>
      rw [List.intercalate_singleton]
      exact cutAt_of_free h.1
    | cons next pieces =>
      rw [List.intercalate_cons_cons, List.append_assoc, cutAt_append hn h.1,
        ih (List.cons_ne_nil next pieces) h.2]

end Conform.Text

namespace Conform.Report

open Text

variable {segments : List String}

/-! ## Segments -/

/-- Segments of a template: there is one at least, and none has the placeholder in it. -/
structure Segments (segments : List String) : Prop where
  /-- There is a segment. -/
  ne_nil : segments ≠ []
  /-- No segment has the placeholder in it. -/
  free : ∀ s ∈ segments, ¬"[value]".toList <:+: s.toList

theorem Segments.append {ss ts : List String} (hs : Segments ss) (ht : Segments ts) :
    Segments (ss ++ ts) :=
  ⟨List.append_ne_nil_of_left_ne_nil hs.ne_nil ts, List.forall_mem_append.2 ⟨hs.free, ht.free⟩⟩

theorem exists_segments (template : String) :
    ∃ segments, Segments segments ∧ template = "[value]".intercalate segments := by
  induction h : template.length using Nat.strongRecOn generalizing template with
  | _ k ih =>
    by_cases hfree : "[value]".toList <:+: template.toList
    · -- both sides of an occurrence are shorter
      obtain ⟨a, b, hab⟩ := hfree
      have htemplate : template = String.ofList a ++ "[value]" ++ String.ofList b := by
        apply String.toList_injective
        simp [← hab]
      have hlength : template.length = a.length + 7 + b.length := by
        have hplaceholder : "[value]".length = 7 := by decide
        rw [htemplate]
        simp [hplaceholder]
      obtain ⟨ss, hss, ha⟩ := ih a.length (by omega) (String.ofList a) (by simp)
      obtain ⟨ts, hts, hb⟩ := ih b.length (by omega) (String.ofList b) (by simp)
      refine ⟨ss ++ ts, hss.append hts, ?_⟩
      rw [htemplate, ha, hb, String.intercalate_append_of_ne_nil hss.ne_nil hts.ne_nil]
    · exact ⟨[template], ⟨by simp, by simpa using hfree⟩, by simp⟩

theorem cutAt_segments (h : Segments segments) :
    (cutAt placeholder 0 ("[value]".intercalate segments).toList).map String.ofList = segments := by
  have hfree : ∀ piece ∈ segments.map String.toList, ¬placeholder <:+: piece := by
    intro piece hpiece
    obtain ⟨s, hs, rfl⟩ := List.mem_map.1 hpiece
    exact h.free s hs
  have hne : segments.map String.toList ≠ [] := by simpa using h.ne_nil
  have hcut : cutAt placeholder 0 ("[value]".intercalate segments).toList =
      segments.map String.toList := by
    have hplaceholder : placeholder = '[' :: ['v', 'a', 'l', 'u', 'e', ']'] := by decide
    have hlist : "[value]".toList = placeholder := rfl
    rw [hplaceholder] at hfree
    rw [String.toList_intercalate, hlist, hplaceholder]
    exact cutAt_intercalate (by decide) hne hfree
  rw [hcut]
  simp

/-- Filling a template puts the text between its segments. -/
theorem fill_intercalate (h : Segments segments) (text : String) :
    fill ("[value]".intercalate segments) text = text.intercalate segments := by
  rw [fill, cutAt_segments h]

/-- A message that a template gives for a value: the segments of the template, with the text of the value
    in place of each placeholder. -/
def Fills (value : Value) (template message : String) : Prop :=
  ∃ segments, Segments segments ∧ template = "[value]".intercalate segments ∧
    message = (shown value).intercalate segments

/-- A template gives one message for a value. -/
theorem fills_iff {value : Value} {template message : String} :
    Fills value template message ↔ message = fill template (shown value) := by
  constructor
  · rintro ⟨segments, hsegments, rfl, rfl⟩
    exact (fill_intercalate hsegments (shown value)).symm
  · rintro rfl
    obtain ⟨segments, hsegments, rfl⟩ := exists_segments template
    exact ⟨segments, hsegments, rfl, fill_intercalate hsegments (shown value)⟩

end Conform.Report
