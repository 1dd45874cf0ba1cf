import Conform.Report.Message
import Conform.Rule.BuiltIn

/-!
# The registry of rules

There are three primitive types, each with a table of rules. A registry holds the three tables: the
built-in rules with the caller's own laid over them, type by type. Type names that are none of the
three have no rules and are not checked.
-/

namespace Conform

/-- A primitive type. -/
inductive Primitive where
  /-- Texts. -/
  | string
  /-- Integers and doubles. -/
  | number
  /-- Truth values. -/
  | boolean
  deriving DecidableEq, Repr

namespace Primitive

/-- The name of a primitive type. -/
def name : Primitive → String
  | string => "string"
  | number => "number"
  | boolean => "boolean"

/-- All primitive types. -/
def all : List Primitive := [string, number, boolean]

/-- The primitive type of a name. -/
def ofName? (name : String) : Option Primitive := all.find? (·.name = name)

/-- Is the value of the primitive type? -/
def admits : Primitive → Value → Bool
  | string => Value.isString
  | number => Value.isNumber
  | boolean => Value.isBool

/-- The built-in rules for a primitive type. -/
def builtIn : Primitive → RuleTable
  | string => Rule.textRules
  | number => Rule.numberRules
  | boolean => []

end Primitive

/-- The rules of each primitive type. -/
structure Registry where
  /-- The table of a primitive type. -/
  table : Primitive → RuleTable

/-- Rules of the caller's own: for each type name a table, or nothing. -/
abbrev Overrides := List (String × Option RuleTable)

namespace Registry

/-- The names of types for which overrides are given and which are no primitive types, in
order. -/
def unknownTypes (overrides : Overrides) : List String :=
  ((overrides.map (·.1)).filter fun n => (Primitive.ofName? n).isNone).mergeSort (· ≤ ·)

/-- The table that overrides give for a primitive type. -/
def overridesFor (overrides : Overrides) (p : Primitive) : RuleTable :=
  ((List.lookup p.name overrides).join).getD []

/-- The registry with overrides laid over the built-in rules. -/
def build (overrides : Overrides) : Except Fault Registry :=
  match unknownTypes overrides with
  | [] => .ok ⟨fun p => (overridesFor overrides p).laidOver p.builtIn⟩
  | unknown =>
    let given := ", ".intercalate unknown
    let known := ", ".intercalate (Primitive.all.map Primitive.name)
    .error (.argument
      s!"Cannot override rules for unknown primitive kind(s): {given}. Known kinds: {known}")

/-- The names of the rules for a type name, in order. -/
def ruleNames (r : Registry) (typeName : String) : List String :=
  match Primitive.ofName? typeName with
  | some p => (r.table p).names.mergeSort (· ≤ ·)
  | none => []

/-- The names of the rules for each primitive type. -/
def allNames (r : Registry) : List (String × List String) :=
  Primitive.all.map fun p => (p.name, r.ruleNames p.name)

end Registry

end Conform
