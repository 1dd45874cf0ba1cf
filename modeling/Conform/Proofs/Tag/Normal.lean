import Conform.Proofs.Text.Trim
import Conform.Tag.Basic

/-!
# Tags in normal form

A tag in normal form has a name and an argument without blanks around them, and no at sign in front
of the name. Reading does not change such a tag, so it is read back from the pair of its name and its
argument.
-/

namespace Conform.Tag

/-- A tag as it is kept. -/
structure Normal (t : Tag) : Prop where
  /-- There is a name. -/
  name_ne : t.name.toList ≠ []
  /-- There are no blanks around the name. -/
  name_trimmed : Text.Trimmed t.name.toList
  /-- There is no at sign in front of the name. -/
  name_head : t.name.toList.head? ≠ some '@'
  /-- There are no blanks around the argument. -/
  argument_trimmed : Text.Trimmed t.argument.toList

/-- The pair that a tag is written as. -/
def toValue (t : Tag) : Value := .list [.string t.name, .string t.argument]

namespace Normal

variable {t : Tag} (h : t.Normal)

include h

theorem normalName_eq : normalName t.name.toList = t.name.toList := by
  have hhead : ∀ c, t.name.toList.head? = some c → decide (c = '@') = false := by
    intro c hc
    have hne : c ≠ '@' := by
      rintro rfl
      exact h.name_head hc
    exact decide_eq_false hne
  rw [normalName, h.name_trimmed.trim_eq, Text.dropWhile_eq_self_of_head hhead]

theorem make_eq : make t.name t.argument = .ok t := by
  have hne : t.name.toList.isEmpty = false := List.isEmpty_eq_false_iff.2 h.name_ne
  unfold make
  rw [h.normalName_eq, h.argument_trimmed.trim_eq]
  simp [hne]

/-- A tag in normal form is read back from the pair that it is written as. -/
theorem ofValue_toValue : ofValue t.toValue = .ok t := h.make_eq

end Normal

end Conform.Tag
