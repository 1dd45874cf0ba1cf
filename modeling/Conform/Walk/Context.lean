import Conform.Combinator

/-!
# The context of a walk

A walk through a schema carries its context along: the registry, whether a failure is reported or
only answered with no, how deep in the schema the walk is and may get, and the path from the root
of the value to the part at hand. The operations on it never change what a caller holds.
-/

namespace Conform.Walk

/-- What a walk carries along. -/
structure Context where
  /-- The rules. -/
  registry : Registry
  /-- Is a failure reported, or only answered with no? -/
  throwing : Bool
  /-- How many nodes may be nested. -/
  maxDepth : Int
  /-- How many nodes have been entered. -/
  depth : Int
  /-- Where the part of the value at hand is. -/
  path : Path

/-- The depth that is allowed where nothing else is said. -/
def defaultMaxDepth : Int := 128

namespace Context

/-- How many more nodes may be entered. -/
def remaining (c : Context) : Nat := (c.maxDepth - c.depth).toNat

/-- The error of entering one node too many. -/
def cycle (c : Context) : Error := .schema (.cycle c.maxDepth c.path)

/-- One node deeper in the schema. -/
def entered (c : Context) : Context := { c with depth := c.depth + 1 }

/-- One node deeper in the schema, if that is allowed. -/
def enter (c : Context) : Except Error Context :=
  if c.maxDepth ≤ c.depth then .error c.cycle else .ok c.entered

/-- One step further into the value. -/
def into (c : Context) (s : Segment) : Context := { c with path := c.path ++ [s] }

/-- The same place, with failures only answered with no. -/
def probing (c : Context) : Context := { c with throwing := false }

/-- The outcome of a failure at this place. -/
def fail (c : Context) (told : Told) (value : Value) : Outcome :=
  Combinator.report c.throwing told value c.path

end Context

end Conform.Walk
