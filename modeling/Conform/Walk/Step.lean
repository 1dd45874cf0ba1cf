import Conform.Value.Equal
import Conform.Walk.Context

/-!
# Walking a schema

A walk checks a value against a node of a schema. What the kind of the node asks for may lead to
other nodes, so each shape is described relative to a way of checking nodes, `visit`; the walk
itself closes the circle. Every node entered uses up one level of the depth that the context allows,
and entering a node at depth zero is an error. So the number of levels left bounds the walk on every
schema, cyclic or not.

A check is stopped at the first thing that decides it. In a context that reports failures, `no` is
never answered where a failure can be reported instead; the alternatives of a union are tried in a
context that does not, and with a mark (`probe`) that keeps literals silent, so that only the union
itself reports.
-/

namespace Conform.Walk

open Schema

/-- A way of checking a value against the node of a reference; the truth value is the mark of a
trial. -/
abbrev Visit (ι : Type) := ι → Value → Context → Bool → Outcome

variable {ι : Type}

/-! ## Literals -/

/-- The outcome for a value that is not the literal expected; in a trial no more than no. -/
def literalOutcome (expected value : Value) (c : Context) (probe : Bool) : Outcome :=
  if probe then .ok false
  else c.fail (.literalMismatch expected value) value

/-- Is the value the literal of a payload? A payload with nodes in it is no value's literal. -/
def isLiteral (p : Payload ι) (value : Value) : Bool :=
  match p.value? with
  | some expected => expected.strictEqual value
  | none => false

/-- A value against a literal. -/
def literal (p : Payload ι) (value : Value) (c : Context) (probe : Bool) : Outcome :=
  if isLiteral p value then .ok true else literalOutcome (Report.literalValue p) value c probe

/-- A value against a member, which is a node or a value that stands for itself. -/
def member (visit : Visit ι) (m : Member ι) (value : Value) (c : Context) (probe : Bool) :
    Outcome :=
  match m with
  | .node ref => visit ref value c probe
  | .bare expected =>
    if expected.strictEqual value then .ok true else literalOutcome expected value c probe

/-! ## Primitive types -/

/-- A value against a primitive type and its tags. A type of another name admits every value. -/
def primitive (n : Node ι) (value : Value) (c : Context) : Outcome :=
  match Primitive.ofName? n.typeName with
  | none => .ok true
  | some p => (Combinator.ofPrimitive c.registry p).check value n.tags c.throwing c.path

/-! ## Unions -/

/-- Is the value that of an alternative which is a value or a literal? -/
def isAlternativeLiteral (g : Graph ι) (value : Value) : Member ι → Bool
  | .bare expected => expected.strictEqual value
  | .node ref => (g ref).flags.literal && isLiteral (g ref).payload value

/-- Try an alternative that is a node. -/
def tryAlternative (visit : Visit ι) (value : Value) (c : Context) : Member ι → Outcome
  | .bare _ => .ok false
  | .node ref => visit ref value c.probing true

/-- The failure of all alternatives. -/
def unionOutcome (g : Graph ι) (ms : List (Member ι)) (value : Value) (c : Context) : Outcome :=
  c.fail (.unionMismatch g ms value) value

/-- A value against alternatives: first the literals among them are compared, then the nodes are
tried in order. -/
def union (g : Graph ι) (visit : Visit ι) (ms : List (Member ι)) (value : Value) (c : Context) :
    Outcome :=
  if ms.any (isAlternativeLiteral g value) then .ok true
  else
    match ms.anyM (tryAlternative visit value c) with
    | .error e => .error e
    | .ok true => .ok true
    | .ok false => unionOutcome g ms value c

/-! ## Lists and objects -/

/-- The outcome for a value that is not of the type expected. -/
def typeOutcome (expected : String) (value : Value) (c : Context) : Outcome :=
  c.fail (.typeMismatch expected value) value

/-- An item against the descriptions of items: the only one, or several as a union. -/
def item (g : Graph ι) (visit : Visit ι) (ms : List (Member ι)) (value : Value) (c : Context)
    (probe : Bool) : Outcome :=
  match ms with
  | [m] => member visit m value c probe
  | ms => union g visit ms value c

/-- A value against the descriptions of items. Without any, every list will do. -/
def array (g : Graph ι) (visit : Visit ι) (ms : List (Member ι)) (value : Value) (c : Context)
    (probe : Bool) : Outcome :=
  match value.items? with
  | none => typeOutcome "array" value c
  | some xs =>
    if ms.isEmpty then .ok true
    else xs.zipIdx.allM fun x => item g visit ms x.1 (c.into (.index x.2)) probe

/-- A value against several demands. -/
def intersection (visit : Visit ι) (ms : List (Member ι)) (value : Value) (c : Context)
    (probe : Bool) : Outcome :=
  if ms.length < 2 then .error (.schema (.arity ms.length c.path))
  else ms.allM fun m => member visit m value c probe

/-- The first property that an object has to have and lacks. -/
def missing? (g : Graph ι) (ps : List (String × ι)) (es : List (String × Value)) :
    Option String :=
  (ps.find? fun p => !(g p.2).flags.optional && (es.lookup p.1).isNone).map (·.1)

/-- An entry of an object against the property of its key; other keys are not looked at. -/
def entry (visit : Visit ι) (ps : List (String × ι)) (c : Context) (probe : Bool)
    (e : String × Value) : Outcome :=
  match ps.lookup e.1 with
  | none => .ok true
  | some ref => visit ref e.2 (c.into (.key e.1)) probe

/-- A value against properties: those that are required have to be there, and the entries are
checked in the order in which the object has them. -/
def object (g : Graph ι) (visit : Visit ι) (ps : List (String × ι)) (value : Value) (c : Context)
    (probe : Bool) : Outcome :=
  match value.entries? with
  | none => typeOutcome "object" value c
  | some es =>
    match missing? g ps es with
    | some k => (c.into (.key k)).fail (.missingProperty k) value
    | none => es.allM (entry visit ps c probe)

/-! ## Nodes -/

/-- A value against the kind of a node, in the context inside the node. -/
def shape (g : Graph ι) (visit : Visit ι) (n : Node ι) (value : Value) (c : Context)
    (probe : Bool) : Outcome :=
  match n.kind with
  | .optional =>
    match n.fallback with
    | ref :: _ => visit ref value c probe
    | [] => .ok true
  | .literal => literal n.payload value c probe
  | .primitive => primitive n value c
  | .array => array g visit n.alternatives value c probe
  | .intersection => intersection visit n.alternatives value c probe
  | .union => union g visit n.alternatives value c
  | .object => object g visit n.properties value c probe
  | .opaqueKind => .ok true

/-- A value against a node, in the context inside the node. An optional node lets absence pass. -/
def inside (g : Graph ι) (visit : Visit ι) (n : Node ι) (value : Value) (c : Context)
    (probe : Bool) : Outcome :=
  if n.flags.optional && value.isAbsent then .ok true else shape g visit n value c probe

/-- The walk with a number of levels left. -/
def levels (g : Graph ι) : Nat → Visit ι
  | 0 => fun _ _ c _ => .error c.cycle
  | k + 1 => fun ref value c probe => inside g (levels g k) (g ref) value c.entered probe

/-- A value against the node of a reference: the walk with as many levels as the context leaves. -/
def node (g : Graph ι) : Visit ι := fun ref value c probe =>
  levels g c.remaining ref value c probe

end Conform.Walk
