import Conform.Tag.Basic
import Conform.Value.Basic

/-!
# Schema nodes

A schema describes a value by nodes. A node has a type name, six flags, tags, a payload and a list
of fallback nodes. What a node means is its *kind*, which the flags and the payload determine by a
fixed precedence, so that flags which contradict each other are never weighed against one another.

The nodes below a node are named by a type of references `ι`, and a schema is a function from
references to nodes (`Schema.Graph`). A finite tree refers to its own subtrees; a schema built by
hand refers to places in a table and may be cyclic.
-/

namespace Conform.Schema

/-- The flags of a node. -/
structure Flags where
  /-- The value may be absent. -/
  optional : Bool := false
  /-- The payload lists alternatives. -/
  union : Bool := false
  /-- The payload lists demands that all hold. -/
  intersection : Bool := false
  /-- The payload is the only value allowed. -/
  literal : Bool := false
  /-- The payload describes the items of a list. -/
  array : Bool := false
  /-- The type name names a primitive type. -/
  primitive : Bool := false
  deriving DecidableEq, Repr

/-- A member of a payload's list: a node, or a value that stands for itself. -/
inductive Member (ι : Type) where
  /-- A node. -/
  | node (ref : ι)
  /-- A value that stands for itself. -/
  | bare (value : Value)

/-- What a node carries besides its flags and tags. -/
inductive Payload (ι : Type) where
  /-- A single value. -/
  | single (value : Value)
  /-- A list of members. -/
  | members (list : List (Member ι))
  /-- The properties of an object, in order. -/
  | properties (list : List (String × ι))

/-- A node, with the nodes below it given by references. -/
structure Node (ι : Type) where
  /-- The name of the type described. -/
  typeName : String
  /-- The flags. -/
  flags : Flags
  /-- The refinements, in order. -/
  tags : List Tag
  /-- The payload. -/
  payload : Payload ι
  /-- The nodes that an optional node falls back on. -/
  fallback : List ι

/-- The one shape that a node is validated as. -/
inductive Kind where
  /-- An optional position that another node describes. -/
  | optional
  /-- One value. -/
  | literal
  /-- A primitive type with its refinements. -/
  | primitive
  /-- A list. -/
  | array
  /-- Several demands at once. -/
  | intersection
  /-- One of several alternatives. -/
  | union
  /-- An object with named properties. -/
  | object
  /-- Nothing that can be checked. -/
  | opaqueKind
  deriving DecidableEq, Repr

/-- The word for a kind. -/
def Kind.name : Kind → String
  | optional => "optional"
  | literal => "literal"
  | primitive => "primitive"
  | array => "array"
  | intersection => "intersection"
  | union => "union"
  | object => "object"
  | opaqueKind => "opaque"

namespace Payload

variable {ι : Type}

/-- The members, if the payload is a list. -/
def alternatives : Payload ι → List (Member ι)
  | members ms => ms
  | _ => []

/-- The properties, if the payload has them. -/
def propertyList : Payload ι → List (String × ι)
  | properties ps => ps
  | _ => []

/-- Does the payload have properties, if only an empty list of them? -/
def isProperties : Payload ι → Bool
  | properties _ => true
  | _ => false

/-- The values that members stand for, if there is no node among them. -/
def bareValues? : List (Member ι) → Option (List Value)
  | [] => some []
  | .bare v :: ms => (bareValues? ms).map (v :: ·)
  | .node _ :: _ => none

/-- The value that the payload stands for as a literal, if there is no node in it. -/
def value? : Payload ι → Option Value
  | single v => some v
  | members ms => (bareValues? ms).map .list
  | properties [] => some (.object [])
  | properties (_ :: _) => none

end Payload

namespace Node

variable {ι : Type}

/-- The kind of a node: the first of the rules that applies. -/
def kind (n : Node ι) : Kind :=
  if n.flags.optional && !n.fallback.isEmpty then .optional
  else if n.flags.literal then .literal
  else if n.flags.primitive then .primitive
  else if n.flags.array then .array
  else if n.flags.intersection then .intersection
  else if n.flags.union && !n.payload.alternatives.isEmpty then .union
  else if n.payload.isProperties then .object
  else .opaqueKind

/-- The list of alternatives, members or item descriptions. -/
def alternatives (n : Node ι) : List (Member ι) := n.payload.alternatives

/-- The properties. -/
def properties (n : Node ι) : List (String × ι) := n.payload.propertyList

end Node

/-- A schema: what node a reference means. -/
abbrev Graph (ι : Type) := ι → Node ι

/-- The keys of the properties that an object has to have, in order. -/
def requiredKeys {ι : Type} (g : Graph ι) (n : Node ι) : List String :=
  (n.properties.filter fun p => !(g p.2).flags.optional).map (·.1)

/-! ## Trees -/

/-- A finite schema: a node whose references are its subtrees. -/
inductive Tree where
  /-- The tree with a node at its root. -/
  | mk (root : Node Tree)

/-- The node at the root of a tree. -/
def Tree.node : Graph Tree
  | mk n => n

end Conform.Schema
