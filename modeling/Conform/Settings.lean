import Conform.Factory

/-!
# Settings

The settings of a factory come from the environment, a map from names to texts: one variable says
whether validators report failures, another how deep a schema may be nested. A blank text for the
depth counts as none.
-/

namespace Conform

open Text

/-- What a factory is set to. -/
structure Settings where
  /-- Do validators report failures? -/
  throwing : Bool
  /-- How many nodes of a schema may be nested. -/
  maxDepth : Int
  deriving DecidableEq, Repr

namespace Settings

/-- The variable that says whether validators report failures. -/
def throwVariable : String := "SHAPE_VALIDATOR_THROW"

/-- The variable that says how deep a schema may be nested. -/
def depthVariable : String := "SHAPE_VALIDATOR_MAX_DEPTH"

/-- The words that switch reports on, in lower case. -/
def switchWords : List String := ["1", "true", "yes", "on"]

/-- Does a text switch reports on? -/
def switchesOn (s : String) : Bool :=
  switchWords.contains (String.ofList (lowerAscii (trim s.toList)))

/-- A text without a point and zeros at its end. -/
def dropZeroFraction (s : List Char) : List Char :=
  match s.dropWhile (· ≠ '.') with
  | '.' :: '0' :: zeros => if zeros.all (· = '0') then s.takeWhile (· ≠ '.') else s
  | _ => s

/-- The integer that a text denotes: a sign, optional, digits that single low lines may group, and
optionally a point with zeros. -/
def integer? (s : List Char) : Option Int :=
  let (negative, u) := splitSign s
  (groupedDigits? (dropZeroFraction u)).map fun ds => Double.signed negative (ofDigits ds)

/-- The depth that a text without blanks around it sets. -/
def readDepth (s : List Char) : Except Complaint Int :=
  let complain (cause : Complaint.Cause) : Except Complaint Int :=
    .error ((Complaint.here cause).within "max_depth")
  if Double.maxDigits < s.length then complain .integerTooLong
  else
    match integer? s with
    | none => complain .notInteger
    | some n => if n < 1 then complain .notPositive else .ok n

/-- The depth that an environment sets. -/
def depthOf (env : List (String × String)) : Except Complaint Int :=
  match env.lookup depthVariable with
  | none => .ok Walk.defaultMaxDepth
  | some s =>
    match trim s.toList with
    | [] => .ok Walk.defaultMaxDepth
    | t => readDepth t

/-- The settings of an environment. -/
def load (env : List (String × String)) : Except Complaint Settings :=
  (depthOf env).map fun d => ⟨((env.lookup throwVariable).map switchesOn).getD false, d⟩

/-- The factory of the settings, with rules of the caller's own. -/
def factory (s : Settings) (overrides : Overrides) : Except Fault Factory :=
  Factory.build overrides s.throwing s.maxDepth

end Settings

end Conform
