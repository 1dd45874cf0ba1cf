import Conform.Proofs.Entries
import Conform.Proofs.Json.Printable
import Conform.Proofs.Report.Placeholder
import Conform.Proofs.Tag.Written
import Conform.Proofs.Value.Legible

/-!
# Templates by tag

Templates that differ from tag to tag are given as an object, in data or written into a comment. As a
document the object fits on a line, whatever the templates are: every character outside printable ASCII
is escaped, and a brace stands at either end, so nothing is taken for a blank or for a mark of the
comment. The same tag is read from both, and the entries are found again in its argument.
-/

namespace Conform.Report

open Text Tag

variable {m : List (String × String)}

/-- Templates by tag, as data. -/
def mapping (m : List (String × String)) : Value := .object (m.map fun e => (e.1, .string e.2))

/-- Templates by tag, as a document. -/
def mappingChars (m : List (String × String)) : List Char := Json.write Json.spaced (mapping m)

theorem exact_mapping (hm : (m.map Prod.fst).Nodup) : Json.Exact (mapping m) := by
  refine .object ?_ fun e he => ?_
  · rwa [List.map_map]
  · obtain ⟨e, -, rfl⟩ := List.mem_map.1 he
    exact .string e.2

theorem obstacle?_mapping (m : List (String × String)) : obstacle? (mapping m) = none := by
  rw [mapping, obstacle?, Value.atoms]
  induction m with
  | nil => rfl
  | cons e m ih => exact ih

/-! ## The document -/

theorem exists_mappingChars (m : List (String × String)) :
    ∃ s, mappingChars m = '\x7b' :: (s ++ ['\x7d']) :=
  ⟨_, rfl⟩

theorem trimmed_writeObject (l : Json.Layout) (es : List (String × Value)) :
    Trimmed (Json.write l (.object es)) := by
  rw [Json.write]
  constructor
  · rintro c ⟨⟩
    rfl
  · intro c hc
    rw [← List.cons_append, List.getLast?_concat] at hc
    cases hc
    rfl

theorem trimmed_mappingChars (m : List (String × String)) : Trimmed (mappingChars m) :=
  trimmed_writeObject Json.spaced _

theorem not_closing_mappingChars (m : List (String × String)) : ¬['*', '/'] <:+ mappingChars m := by
  obtain ⟨s, hs⟩ := exists_mappingChars m
  rintro ⟨r, hr⟩
  have hend : (r ++ ['*']) ++ ['/'] = ('\x7b' :: s) ++ ['\x7d'] := by
    rw [List.append_assoc]
    exact hr.trans hs
  have hlast : '/' = '\x7d' := List.singleton_inj.1 (List.append_inj' hend rfl).2
  cases hlast

theorem unbroken_of_printable {s : List Char} (h : Json.Printable s) : Unbroken s := by
  intro c hc
  obtain ⟨hlow, hhigh⟩ := h c hc
  have hbreak : isLineBreak c ≠ true := by
    simp only [isLineBreak, ne_eq, Bool.or_eq_true, Bool.and_eq_true, decide_eq_true_eq, beq_iff_eq]
    omega
  simpa using hbreak

theorem unbroken_mappingChars (hm : (m.map Prod.fst).Nodup) : Unbroken (mappingChars m) :=
  unbroken_of_printable (Json.printable_write (exact_mapping hm))

/-! ## The tag -/

/-- The tag that holds templates by tag. -/
def mappingTag (m : List (String × String)) : Tag := ⟨errorName, String.ofList (mappingChars m)⟩

theorem ofValue_mapping (m : List (String × String)) :
    ofValue (.list [.string "error", mapping m]) = .ok (mappingTag m) := by
  have htext : argumentText (some (mapping m)) = .ok (String.ofList (mappingChars m)) := by
    rw [mapping, argumentText, ← mapping, obstacle?_mapping]
    · rfl
    · nofun
    · nofun
  have hnormal := nameText_error.normal (trimmed_mappingChars m)
  rw [String.ofList_toList] at hnormal
  rw [ofValue, ofItems, ofFields, htext]
  show make errorName (String.ofList (mappingChars m)) = .ok (mappingTag m)
  exact hnormal.make_eq

theorem ofArgument_mapping (hm : (m.map Prod.fst).Nodup) :
    Template.ofArgument (String.ofList (mappingChars m)) = .byTag m := by
  have hparse : Json.parse (String.ofList (mappingChars m)) = .ok (mapping m) := by
    have hread : Json.read (mappingChars m) = .ok (mapping m) :=
      Json.read_write Json.isSpace_spaced (exact_mapping hm)
    rw [Json.parse, String.toList_ofList, hread]
  have hhead : (String.ofList (mappingChars m)).toList.head? = some '\x7b' := by
    rw [String.toList_ofList]
    rfl
  have hentries : (m.map fun e => (e.1, Value.string e.2)).map (fun e => (e.1, e.2.plainText)) = m := by
    rw [List.map_map]
    exact List.map_id m
  rw [Template.ofArgument, if_pos hhead, hparse, mapping]
  exact congrArg Template.byTag hentries

theorem customMessage?_of_some {tags : List Tag} {tag template : String}
    (h : (template? tags).bind (·.select? tag) = some template) (value : Value) :
    customMessage? tags tag value =
      if value.isLegible then .ok (some (fill template (shown value))) else .error .tooLong := by
  unfold customMessage?
  rw [h]
  unfold applyTemplate formatValue
  simp only
  split <;> rfl

theorem customMessage?_of_none {tags : List Tag} {tag : String}
    (h : (template? tags).bind (·.select? tag) = none) (value : Value) :
    customMessage? tags tag value = .ok none := by
  unfold customMessage?
  rw [h]

/-- Templates by tag are read from data as from a comment: both give one tag, whose template has them
    under their keys, in order. For a tag that is a key, the message puts the text of the value into the
    places of the template, whether it has any or not; so a value in which an integer is too long to be
    written brings the message to grief. For any other tag there is none, whatever the value is. -/
theorem template_of_mapping (hm : (m.map Prod.fst).Nodup) :
    ∃ t, ofValue (.list [.string "error", mapping m]) = .ok t ∧
      ofComment ("/**\n * @error " ++ String.ofList (Json.write Json.spaced (mapping m)) ++ "\n */") =
        [t] ∧
      template? [t] = some (.byTag m) ∧
      ∀ tag value, (tag ∉ m.map Prod.fst → customMessage? [t] tag value = .ok none) ∧
        ∀ s, (tag, s) ∈ m →
          (value.isLegible = true →
            ∃ message, customMessage? [t] tag value = .ok (some message) ∧ Fills value s message) ∧
          (value.isLegible = false → customMessage? [t] tag value = .error .tooLong) := by
  have htemplate : template? [mappingTag m] = some (.byTag m) := by
    rw [← ofArgument_mapping hm]
    rfl
  have hselect : ∀ tag, (template? [mappingTag m]).bind (·.select? tag) = m.lookup tag := by
    intro tag
    rw [htemplate]
    rfl
  refine ⟨mappingTag m, ofValue_mapping m, ?_, htemplate, fun tag value => ⟨fun hkey => ?_, ?_⟩⟩
  · exact ofComment_error (trimmed_mappingChars m) (unbroken_mappingChars hm)
      (not_closing_mappingChars m)
  · exact customMessage?_of_none ((hselect tag).trans (Entries.lookup_eq_none.2 hkey)) value
  · intro s hs
    have hmessage :=
      customMessage?_of_some ((hselect tag).trans (Entries.lookup_of_mem hm hs)) value
    refine ⟨fun hv => ⟨fill s (shown value), ?_, fills_iff.2 rfl⟩, fun hv => ?_⟩
    · rw [hmessage, if_pos hv]
    · rw [hmessage, if_neg (by simp [hv])]

/-- A template in which the value has no place still comes to grief on an integer that is too long. -/
theorem customMessage?_tooLong :
    ∃ t, ofValue (.list [.string "error", mapping [("max", "too big")]]) = .ok t ∧
      template? [t] = some (.byTag [("max", "too big")]) ∧
      customMessage? [t] "max" .tooLong = .error .tooLong := by
  have hkeys : ([("max", "too big")].map Prod.fst).Nodup := List.nodup_singleton "max"
  have htemplate : template? [mappingTag [("max", "too big")]] = some (.byTag [("max", "too big")]) :=
    congrArg some (ofArgument_mapping hkeys)
  have hselect : (template? [mappingTag [("max", "too big")]]).bind (·.select? "max") =
      some "too big" := by
    rw [htemplate]
    rfl
  refine ⟨mappingTag [("max", "too big")], ofValue_mapping _, htemplate, ?_⟩
  rw [customMessage?_of_some hselect, if_neg Value.isLegible_tooLong]

/-- Templates with quotes, a line break, marks of a comment and characters beyond ASCII in them. -/
def markedTemplates : List (String × String) :=
  [("min", "\"[value]\"\n * @max */"), ("max", ""), ("a\\\u2028", "😀")]

theorem template_of_mapping_marked :
    (markedTemplates.map Prod.fst).Nodup ∧ ∃ t,
      ofValue (.list [.string "error", mapping markedTemplates]) = .ok t ∧
      template? [t] = some (.byTag markedTemplates) ∧
      customMessage? [t] "min" (.bool true) = .ok (some "\"true\"\n * @max */") ∧
      customMessage? [t] "max" .null = .ok (some "") ∧
      customMessage? [t] "a" .null = .ok none := by
  have hkeys : (markedTemplates.map Prod.fst).Nodup := by decide
  obtain ⟨t, hvalue, -, htemplate, hmessage⟩ := template_of_mapping hkeys
  obtain ⟨low, hlow, hfills⟩ := ((hmessage "min" (.bool true)).2 _ (.head _)).1 rfl
  obtain ⟨high, hhigh, hempty⟩ := ((hmessage "max" .null).2 _ (.tail _ (.head _))).1 rfl
  refine ⟨hkeys, t, hvalue, htemplate, ?_, ?_, (hmessage "a" .null).1 (by decide)⟩
  · rw [hlow, fills_iff.1 hfills]
    decide
  · rw [hhigh, fills_iff.1 hempty]
    decide

end Conform.Report
