import Conform.Double.Reader
import Conform.Pattern.Compile
import Conform.Rule.Anchored
import Conform.Rule.Basic

/-!
# The built-in rules

Texts can be held to a pattern, to two forms from end to end, and to a greatest and a least length;
numbers to a greatest and a least size, the bound included. A rule only ever sees values of the
primitive type that its table belongs to. An argument that is no number is a bound that no value
keeps.
-/

namespace Conform.Rule

/-- A rule for texts. -/
def onText (accepts : List Char → String → Outcome) : Rule := fun value argument =>
  match value with
  | .string s => accepts s.toList argument
  | _ => .ok false

/-- A rule for numbers that compares the value with the argument. -/
def onNumber (accepts : Ordering → Bool) : Rule := fun value argument =>
  match value.number?, Double.ofText? argument.toList with
  | some n, some bound => .ok (((Double.compare? n bound).map accepts).getD false)
  | _, _ => .ok false

/-- The error that a fault of the pattern in an argument amounts to. -/
def patternError (argument : String) (fault : Pattern.Fault) : Error :=
  let refused (cause : Pattern.Cause) (position : Option Nat) : Error :=
    let text := (Pattern.ofArgument argument.toList).1
    .schema (.document (.pattern argument (Pattern.reason text cause position)))
  match fault with
  | .at cause position => refused cause (some position)
  | .overall cause => refused cause none
  | .repetition => .fault .repetition
  | .digits count => .fault (.argument (Json.Fault.digits count).message)
  | .contradiction => .fault (.argument "ASCII and UNICODE flags are incompatible")

/-- The pattern that an argument spells, or the error that it amounts to. -/
def patternOf (argument : String) : Except Error Pattern :=
  (Pattern.compile argument.toList).mapError (patternError argument)

/-- Does the pattern occur in the text? -/
def regex : Rule := onText fun s argument => (patternOf argument).map (·.occursIn s)

/-- Is the text alphanumeric? -/
def alphanumeric : Rule := onText fun s _ => .ok (isAlphanumeric s)

/-- Is the text an address? -/
def email : Rule := onText fun s _ => .ok (isAddress s)

/-- Has the text at most as many characters as the argument says? -/
def maxLength : Rule := onText fun s argument =>
  .ok (((Double.intOfText? argument.toList).map fun n => decide ((s.length : Int) ≤ n)).getD false)

/-- Has the text at least as many characters as the argument says? -/
def minLength : Rule := onText fun s argument =>
  .ok (((Double.intOfText? argument.toList).map fun n => decide (n ≤ (s.length : Int))).getD false)

/-- Is the number at most the argument? -/
def maximum : Rule := onNumber Ordering.isLE

/-- Is the number at least the argument? -/
def minimum : Rule := onNumber Ordering.isGE

/-- The rules for texts. -/
def textRules : RuleTable :=
  [("regex", regex), ("alphanumeric", alphanumeric), ("max", maxLength), ("min", minLength),
    ("email", email)]

/-- The rules for numbers. -/
def numberRules : RuleTable := [("min", minimum), ("max", maximum)]

end Conform.Rule
