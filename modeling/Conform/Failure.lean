import Conform.Path
import Conform.Schema.Document

/-!
# What can come out of a validation besides yes and no

Three families are kept apart. A `Failure` says that the schema is fine and the value does not
match it: what was expected, where, and of which part of the value. A `SchemaError` says that no
value can be judged against the schema. A `Fault` comes from a rule, from tags given as raw data, or
from a value that the message of a failure cannot show, and belongs to neither. The three together are
the errors that a walk can end in.
-/

namespace Conform

/-! ## Failures -/

/-- Why a value does not match. -/
inductive Failure.Cause where
  /-- The value is not of the type expected. -/
  | typeMismatch (expected : String)
  /-- A rule refuses the value. -/
  | tagViolation (tag argument : String)
  /-- The value is none of those expected. -/
  | literalMismatch (expected : List Value)
  /-- An object lacks a property that it has to have. -/
  | missingProperty (key : String)
  /-- A reason of the caller's own, with details. -/
  | custom (code : String) (details : List (String × Value))
  deriving Repr

/-- The code of a cause. -/
def Failure.Cause.code : Failure.Cause → String
  | typeMismatch _ => "TYPE_MISMATCH"
  | tagViolation .. => "TAG_VIOLATION"
  | literalMismatch _ => "LITERAL_MISMATCH"
  | missingProperty _ => "REQUIRED_PROPERTY_MISSING"
  | custom code _ => code

/-- A value that does not match its schema. -/
structure Failure where
  /-- Why it does not. -/
  cause : Failure.Cause
  /-- The message for the reader. -/
  message : String
  /-- The part of the value concerned; for a property that is missing, the object that lacks it. -/
  value : Value
  /-- Where that part is; for a property that is missing, where it would be. -/
  path : Path
  deriving Repr

/-- A path as a list of keys and positions. -/
def Path.toValue (path : Path) : Value :=
  .list (path.map fun
    | .key k => .string k
    | .index i => .int i)

/-- What a cause adds to the details of a failure. -/
def Failure.Cause.details : Failure.Cause → List (String × Value)
  | typeMismatch expected => [("expected", .string expected)]
  | tagViolation tag argument => [("tag", .string tag), ("argument", .string argument)]
  | literalMismatch expected => [("expected", .list expected)]
  | missingProperty key => [("property", .string key)]
  | custom _ details => details

/-- The details of a failure: the path, overlaid with what the cause adds. -/
def Failure.details (f : Failure) : List (String × Value) :=
  f.cause.details.foldl (fun acc e => Value.putEntry e.1 e.2 acc) [("path", Path.toValue f.path)]

/-! ## Schema errors -/

/-- Why no value can be judged against a schema. -/
inductive SchemaError where
  /-- The document is refused, or a pattern in it is. -/
  | document (fault : Schema.DocumentFault)
  /-- The nodes are nested more deeply than allowed. -/
  | cycle (maxDepth : Int) (path : Path)
  /-- An intersection has fewer than two members. -/
  | arity (members : Nat) (path : Path)
  /-- A reason of the caller's own, with details. -/
  | custom (code message : String) (details : List (String × Value))
  deriving Repr

namespace SchemaError

/-- The code of a schema error. -/
def code : SchemaError → String
  | document _ => "SCHEMA_PARSE_ERROR"
  | cycle .. => "SCHEMA_CYCLE"
  | arity .. => "INTERSECTION_ARITY"
  | custom code _ _ => code

/-- The message of a schema error. -/
def message : SchemaError → String
  | document f => f.message
  | cycle maxDepth _ =>
    s!"Schema nesting exceeded {maxDepth} levels; the schema is probably cyclic"
  | arity n _ => s!"Intersection requires at least 2 members, got {n}"
  | custom _ message _ => message

/-- The details of a schema error; there are none for a document that is malformed. -/
def details? : SchemaError → Option (List (String × Value))
  | document (.json f) => some [("reason", .string f.message)]
  | document (.encoding f) => some [("reason", .string f.message)]
  | document (.root t) => some [("root_type", .string t)]
  | document (.malformed _) => none
  | document (.breach b) =>
    match b.cause with
    | .intersection n => some [("path", Path.toValue b.path), ("arity", .int n)]
    | _ => some [("path", Path.toValue b.path)]
  | document (.pattern argument _) => some [("pattern", .string argument)]
  | cycle maxDepth path => some [("max_depth", .int maxDepth), ("path", Path.toValue path)]
  | arity n path => some [("arity", .int n), ("path", Path.toValue path)]
  | custom _ _ details => some details

end SchemaError

/-! ## Faults -/

/-- What a rule, raw data in the place of a tag, or the message of a failure can come to grief on. -/
inductive Fault where
  /-- A rule cannot work with its argument. -/
  | argument (message : String)
  /-- A rule compares or computes with a value that does not admit it. -/
  | operand
  /-- A pattern repeats more often than can be counted. -/
  | repetition
  /-- Raw data in the place of a tag does not have the form of one. -/
  | malformed (complaint : Complaint)
  /-- A rule nests its calls more deeply than can be evaluated. -/
  | exhausted
  /-- A rule of the caller's own ends in an error of any other class. -/
  | foreign (name message : String)
  deriving DecidableEq, Repr

/-- The fault of putting a value into words in which an integer is too long to be written. -/
def Fault.tooLong : Fault := .argument Double.tooLong

/-- The fault that a complaint about raw data amounts to. -/
def Fault.ofComplaint (c : Complaint) : Fault :=
  if c.cause = .unwritable then operand else malformed c

/-- What a walk can end in besides yes and no. -/
inductive Error where
  /-- No value can be judged against the schema. -/
  | schema (e : SchemaError)
  /-- The value does not match. -/
  | failure (f : Failure)
  /-- A rule, a tag or a message came to grief. -/
  | fault (f : Fault)
  deriving Repr

/-- What is told of a failure: why the value does not match, and the message for the reader; or what
telling of it came to grief on. -/
abbrev Told := Except Fault (Failure.Cause × String)

/-- The error of a failure that is told of. -/
def Told.toError (told : Told) (value : Value) (path : Path) : Error :=
  match told with
  | .ok (cause, message) => .failure ⟨cause, message, value, path⟩
  | .error e => .fault e

/-- The outcome of a check. -/
abbrev Outcome := Except Error Bool

end Conform
