import Conform.Path
import Conform.Schema.Node

/-!
# What flags demand of the payload

Three flags demand something of the payload: a literal carries a single value, an intersection has
at least two members, and an array carries a list or nothing. A tree is searched for the first node
that breaks a demand, a node before the nodes below it, these in the order of the payload and the
fallbacks last. The path to a node lists keys and positions in payloads; a step into a fallback adds
nothing, as it does not leave the place that is described.
-/

namespace Conform.Schema

/-- How a node breaks a demand of its flags. -/
inductive Breach.Cause where
  /-- A literal does not carry a single value. -/
  | literal
  /-- An intersection has fewer than two members. -/
  | intersection (members : Nat)
  /-- An array carries neither a list nor nothing. -/
  | array
  deriving DecidableEq, Repr

/-- A node that breaks a demand of its flags. -/
structure Breach where
  /-- How it does. -/
  cause : Breach.Cause
  /-- Where it is. -/
  path : Path
  deriving DecidableEq, Repr

/-- A path in one text; an empty text counts as the root. -/
def placeName (path : Path) : String :=
  let s := "/".intercalate (path.map Segment.text)
  if s = "" then "<root>" else s

/-- The text of a breach. -/
def Breach.message (b : Breach) : String :=
  match b.cause with
  | .literal => s!"Literal node at '{placeName b.path}' must carry a single scalar value"
  | .intersection n =>
    s!"Intersection node at '{placeName b.path}' needs at least 2 members, got {n}"
  | .array => s!"Array node at '{placeName b.path}' must carry a list of element schemas"

/-- Does the payload hold a single value that can stand in a document? -/
def Payload.isScalar {ι : Type} : Payload ι → Bool
  | single v => v.isScalar
  | _ => false

/-- Is the payload a list or nothing? -/
def Payload.isListOrNull {ι : Type} : Payload ι → Bool
  | members _ => true
  | single .null => true
  | _ => false

/-- How the node itself breaks a demand, the literal's before the intersection's before the
array's. -/
def Node.breach? {ι : Type} (n : Node ι) : Option Breach.Cause :=
  if n.flags.literal && !n.payload.isScalar then some .literal
  else if n.flags.intersection && n.alternatives.length < 2 then
    some (.intersection n.alternatives.length)
  else if n.flags.array && !n.payload.isListOrNull then some .array
  else none

mutual

/-- The first breach in a tree that stands at a path. -/
def Tree.breach? (path : Path) : Tree → Option Breach
  | .mk ⟨typeName, flags, tags, payload, fallback⟩ =>
    match Node.breach? ⟨typeName, flags, tags, payload, fallback⟩ with
    | some cause => some ⟨cause, path⟩
    | none => (payloadBreach? path payload).or (treesBreach? path fallback)
termination_by structural t => t

/-- The first breach below a payload. -/
def payloadBreach? (path : Path) : Payload Tree → Option Breach
  | .single _ => none
  | .members ms => membersBreach? path 0 ms
  | .properties ps => propertiesBreach? path ps

/-- The first breach among members, of which the first is at position `i`. -/
def membersBreach? (path : Path) (i : Nat) : List (Member Tree) → Option Breach
  | [] => none
  | .node t :: ms => (Tree.breach? (path ++ [.index i]) t).or (membersBreach? path (i + 1) ms)
  | .bare _ :: ms => membersBreach? path (i + 1) ms

/-- The first breach among properties. -/
def propertiesBreach? (path : Path) : List (String × Tree) → Option Breach
  | [] => none
  | (k, t) :: ps => (Tree.breach? (path ++ [.key k]) t).or (propertiesBreach? path ps)

/-- The first breach among fallbacks. -/
def treesBreach? (path : Path) : List Tree → Option Breach
  | [] => none
  | t :: ts => (Tree.breach? path t).or (treesBreach? path ts)

end

end Conform.Schema
