import Conform.Registry

/-!
# Checking a value against tags

A combinator checks values of one type against tags. It first asks whether the value is of the type
at all; only then does it look at the tags, and calls the rule of each tag that has one, in order,
up to the first that refuses the value or ends in an error. Tags without a rule are passed over.
-/

namespace Conform

/-- What came of calling rules one after the other. -/
inductive Verdict where
  /-- Every rule called accepts the value. -/
  | accepted
  /-- The rule of a tag refuses the value. -/
  | refused (tag : Tag)
  /-- A rule ended in an error. -/
  | raised (error : Error)

namespace RuleTable

/-- The tags whose rules are called for a value, in order, and what came of it. -/
def judge (table : RuleTable) (value : Value) : List Tag → List Tag × Verdict
  | [] => ([], .accepted)
  | t :: ts =>
    match table.find? t.name with
    | none => judge table value ts
    | some rule =>
      match rule value t.argument with
      | .error e => ([t], .raised e)
      | .ok false => ([t], .refused t)
      | .ok true => (t :: (judge table value ts).1, (judge table value ts).2)

end RuleTable

/-- A checker for values of one type. -/
structure Combinator where
  /-- The name of the type. -/
  name : String
  /-- Is a value of the type? -/
  admits : Value → Bool
  /-- The rules for tags. -/
  rules : RuleTable

namespace Combinator

/-- The combinator of a primitive type in a registry. -/
def ofPrimitive (r : Registry) (p : Primitive) : Combinator := ⟨p.name, p.admits, r.table p⟩

/-- The outcome of a failure: where failures are reported, the failure itself or what telling of it
came to grief on, else no. A failure that is not reported is not told of either. -/
def report (throwing : Bool) (told : Told) (value : Value) (path : Path) : Outcome :=
  if throwing then .error (told.toError value path) else .ok false

/-- The tags whose rules are called for a value, and the outcome. The tags may turn out to be none,
which counts only after the value has been found to be of the type. -/
def run (c : Combinator) (value : Value) (tags : Except Error (List Tag)) (throwing : Bool)
    (path : Path) : List Tag × Outcome :=
  if !c.admits value then ([], report throwing (.typeMismatch c.name value) value path)
  else
    match tags with
    | .error e => ([], .error e)
    | .ok ts =>
      match c.rules.judge value ts with
      | (called, .accepted) => (called, .ok true)
      | (called, .refused t) => (called, report throwing (.tagViolation ts t value) value path)
      | (called, .raised e) => (called, .error e)

/-- The outcome for a value and tags. -/
def check (c : Combinator) (value : Value) (tags : List Tag) (throwing : Bool) (path : Path) :
    Outcome :=
  (c.run value (.ok tags) throwing path).2

/-- The tags that raw data stands for. -/
def readTags (data : List Value) : Except Error (List Tag) :=
  (data.mapM Tag.ofValue).mapError fun e => .fault (Fault.ofComplaint e)

end Combinator

end Conform
