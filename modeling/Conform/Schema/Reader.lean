import Conform.Schema.Node

/-!
# Reading schema nodes

A node is read from an object field by field: the type name, which has three spellings of its key,
the six flags, the tags, the payload and the fallbacks. Flags may be spelled as truth values, as
the numbers zero and one, or as words. The payload is an object of nodes, a list of nodes and
scalars, or a scalar; what fits none of these is reported as a failed attempt to read an object of
nodes. The first fault in the order of the fields is reported.
-/

namespace Conform.Schema

-- powers are those of the core library here, whatever further instances are in scope
attribute [local instance (high)] instPowNat

/-! ## Fields without nodes -/

/-- The keys under which a type name is looked for, in order. -/
def typeKeys : List String := ["type", "typeName", "type_name"]

/-- The type name among the entries of a node. -/
def readTypeName (es : List (String × Value)) : Except Complaint String :=
  match typeKeys.findSome? fun k => (es.lookup k).map fun v => (k, v) with
  | none => .error ((Complaint.here .required).within "type")
  | some (_, .string s) => .ok s
  | some (k, _) => .error ((Complaint.here .notString).within k)

/-- The words for false, in lower case. -/
def falseWords : List String := ["0", "off", "f", "false", "n", "no"]

/-- The words for true, in lower case. -/
def trueWords : List String := ["1", "on", "t", "true", "y", "yes"]

/-- The truth value that an integer spells. -/
def boolOfInt (n : Int) : Except Complaint Bool :=
  if n = 0 then .ok false
  else if n = 1 then .ok true
  else .error (Complaint.here .unreadableBool)

/-- The truth value that a piece of data spells. Numbers count only within 64 bits. -/
def boolOfValue : Value → Except Complaint Bool
  | .bool b => .ok b
  | .string s =>
    let w := s.toLower
    if falseWords.contains w then .ok false
    else if trueWords.contains w then .ok true
    else .error (Complaint.here .unreadableBool)
  | .int n =>
    if -2 ^ (63 : Nat) ≤ n ∧ n < 2 ^ (63 : Nat) then boolOfInt n else .error (Complaint.here .notBool)
  | .double d =>
    match d.toInt? with
    | some n =>
      if -2 ^ (63 : Nat) < n ∧ n < 2 ^ (63 : Nat) then boolOfInt n else .error (Complaint.here .notBool)
    | none => .error (Complaint.here .notBool)
  | _ => .error (Complaint.here .notBool)

/-- The flag under a key; an absent one is not set. -/
def readFlag (es : List (String × Value)) (key : String) : Except Complaint Bool :=
  match es.lookup key with
  | none => .ok false
  | some v => (boolOfValue v).mapError (·.within key)

/-- The flags among the entries of a node. -/
def readFlags (es : List (String × Value)) : Except Complaint Flags := do
  let optional ← readFlag es "optional"
  let union ← readFlag es "union"
  let intersection ← readFlag es "intersection"
  let literal ← readFlag es "literal"
  let array ← readFlag es "array"
  let primitive ← readFlag es "primitive"
  pure ⟨optional, union, intersection, literal, array, primitive⟩

/-- The tags that a list of data stands for; complaints name the position, counted from `i`. -/
def readTagItems (i : Nat) : List Value → Except Complaint (List Tag)
  | [] => .ok []
  | v :: vs => do
    let t ← (Tag.ofValue v).mapError (·.within (toString i))
    let ts ← readTagItems (i + 1) vs
    pure (t :: ts)

/-- The tags among the entries of a node. -/
def readTags (es : List (String × Value)) : Except Complaint (List Tag) :=
  match es.lookup "tags" with
  | none => .ok []
  | some v =>
    match v.items? with
    | some vs => (readTagItems 0 vs).mapError (·.within "tags")
    | none => .error ((Complaint.here .notList).within "tags")

/-! ## Nodes -/

/-- The step of a location that leads to the entries of a payload. -/
def propertiesStep : String := "dict[str,...]"

/-- The complaint about a payload that has no form at all. -/
def notAPayload : Complaint := ((Complaint.here .notObject).within propertiesStep)

/-- The member that a piece of data stands for, if it is a node or a scalar, given what came of
reading it as a node. -/
def asMember (v : Value) : Except Complaint Tree → Option (Member Tree)
  | .ok t => some (.node t)
  | .error _ => if v.isScalar then some (.bare v) else none

mutual

/-- The tree that a piece of data stands for. -/
def Tree.ofValue : Value → Except Complaint Tree
  | .object es => do
    let typeName ← readTypeName es
    let flags ← readFlags es
    let tags ← readTags es
    let payload ← findPayload es
    let fallback ← findFallback es
    pure (.mk ⟨typeName, flags, tags, payload, fallback⟩)
  | _ => .error (Complaint.here .notNode)
termination_by structural v => v

/-- The payload among the entries of a node. -/
def findPayload : List (String × Value) → Except Complaint (Payload Tree)
  | [] => .ok (.single .null)
  | (k, v) :: es =>
    if k = "children" then (readPayload v).mapError (·.within "children") else findPayload es

/-- The payload that a piece of data stands for. -/
def readPayload : Value → Except Complaint (Payload Tree)
  | .object es => do
    let ps ← (readProperties es).mapError (·.within propertiesStep)
    pure (.properties ps)
  | .list vs =>
    match readMembers vs with
    | some ms => .ok (.members ms)
    | none => .error notAPayload
  | .tuple vs =>
    match readMembers vs with
    | some ms => .ok (.members ms)
    | none => .error notAPayload
  | .missing => .error notAPayload
  | v => .ok (.single v)

/-- The properties that the entries of an object stand for. -/
def readProperties : List (String × Value) → Except Complaint (List (String × Tree))
  | [] => .ok []
  | (k, v) :: es => do
    let t ← (Tree.ofValue v).mapError (·.within k)
    let ts ← readProperties es
    pure ((k, t) :: ts)

/-- The members that the items of a list stand for, if each of them is a node or a scalar. -/
def readMembers : List Value → Option (List (Member Tree))
  | [] => some []
  | v :: vs => do
    let m ← asMember v (Tree.ofValue v)
    let ms ← readMembers vs
    pure (m :: ms)

/-- The fallbacks among the entries of a node. -/
def findFallback : List (String × Value) → Except Complaint (List Tree)
  | [] => .ok []
  | (k, v) :: es =>
    if k = "fallback" then (readFallback v).mapError (·.within "fallback") else findFallback es

/-- The fallbacks that a piece of data stands for. -/
def readFallback : Value → Except Complaint (List Tree)
  | .list vs => readTrees 0 vs
  | .tuple vs => readTrees 0 vs
  | _ => .error (Complaint.here .notList)

/-- The trees that a list of data stands for; complaints name the position, counted from `i`. -/
def readTrees (i : Nat) : List Value → Except Complaint (List Tree)
  | [] => .ok []
  | v :: vs => do
    let t ← (Tree.ofValue v).mapError (·.within (toString i))
    let ts ← readTrees (i + 1) vs
    pure (t :: ts)

end

end Conform.Schema
