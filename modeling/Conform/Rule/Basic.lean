import Conform.Failure

/-!
# Rules

A rule decides on a value with the text of a tag's argument. It may also end in an error: because it
cannot work with the argument, or because the argument shows that the schema is broken. Rules are
looked up by the name of the tag in a table of their own for each primitive type; where a table has
a name twice, the first entry counts.
-/

namespace Conform

/-- A rule: given a value and the text of an argument, does the value satisfy it? -/
abbrev Rule := Value → String → Outcome

/-- Rules under names. -/
abbrev RuleTable := List (String × Rule)

namespace RuleTable

/-- The rule under a name. -/
def find? (table : RuleTable) (name : String) : Option Rule := List.lookup name table

/-- The names in a table. -/
def names (table : RuleTable) : List String := table.map (·.1)

/-- A table laid over another: its rules take the place of those of the same name. -/
def laidOver (table base : RuleTable) : RuleTable :=
  table ++ base.filter fun e => !(table.names.contains e.1)

end RuleTable

end Conform
