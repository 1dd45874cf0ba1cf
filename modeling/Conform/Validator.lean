import Conform.Schema.Document
import Conform.Walk.Step

/-!
# Validators

A validator is bound to one schema and can be asked about any number of values. Called, it answers
yes or no, or, if it reports failures, yes or the failure. A schema error is reported only by a
validator that reports failures; to others it is one more way to answer no. Any validator can be
asked for the failure instead of the answer.

A schema built by hand may be cyclic, and the depth allowed may be far beyond what a walk can reach
in practice. A chain of nodes longer than the table of the schema visits a node twice, so a walk
that gets deeper than both the table's length and a fixed measure is given up as cyclic.
-/

namespace Conform

/-- A schema with the reference of its root. -/
structure Schema (ι : Type) where
  /-- What node a reference means. -/
  graph : Schema.Graph ι
  /-- The reference of the root. -/
  root : ι
  /-- The depth at which a walk is given up, whatever depth is allowed; none if every walk ends by
  itself. -/
  ceiling : Option Nat

namespace Schema

/-- A tree as a schema. Every walk through it ends by itself. -/
def ofTree (t : Tree) : Schema Tree := ⟨Tree.node, t, none⟩

/-- A node without payload that admits every value. -/
def anything {ι : Type} : Node ι := ⟨"", {}, [], .single .null, []⟩

/-- The depth up to which a walk through a table of nodes is never given up. It stands for the limit
that an evaluator sets on calls within calls: a walk takes three calls or four for each level, so one
through nested lists alone may reach that limit earlier. -/
def patience : Nat := 320

/-- A table of nodes as a schema. References outside the table admit every value. -/
def ofTable (nodes : Array (Node Nat)) (root : Nat) : Schema Nat :=
  ⟨fun i => nodes.getD i anything, root, some (max patience nodes.size)⟩

end Schema

/-- A schema together with what a walk through it needs. -/
structure Validator (ι : Type) where
  /-- The schema. -/
  schema : Schema ι
  /-- The rules. -/
  registry : Registry
  /-- Are failures reported? -/
  throwing : Bool
  /-- How many nodes may be nested. -/
  maxDepth : Int

namespace Validator

variable {ι : Type}

/-- The depth at which the walk ends. -/
def limit (v : Validator ι) : Int :=
  match v.schema.ceiling with
  | none => v.maxDepth
  | some n => min v.maxDepth n

/-- The context in which a walk starts. -/
def start (v : Validator ι) (throwing : Bool) : Walk.Context :=
  ⟨v.registry, throwing, v.limit, 0, []⟩

/-- An error as the validator reports it: a walk that was given up counts as one that got too deep,
without a place, and so does one in which a rule nested its calls too deeply. -/
def reported (v : Validator ι) : Error → Error
  | .schema (.cycle depth path) =>
    if v.limit < v.maxDepth then .schema (.cycle v.maxDepth []) else .schema (.cycle depth path)
  | .fault .exhausted => .schema (.cycle v.maxDepth [])
  | e => e

/-- The walk over a value, with or without reports of failures. -/
def walk (v : Validator ι) (throwing : Bool) (value : Value) : Outcome :=
  (Walk.node v.schema.graph v.schema.root value (v.start throwing) false).mapError v.reported

/-- The answer of a validator with a given way of reporting. -/
def callAs (v : Validator ι) (throwing : Bool) (value : Value) : Outcome :=
  match v.walk throwing value with
  | .error (.schema e) => if throwing then .error (.schema e) else .ok false
  | r => r

/-- The answer of the validator. -/
def call (v : Validator ι) (value : Value) : Outcome := v.callAs v.throwing value

/-- The failure of a value, or none if it matches. -/
def check (v : Validator ι) (value : Value) : Except Error (Option Failure) :=
  match v.callAs true value with
  | .ok _ => .ok none
  | .error (.failure f) => .ok (some f)
  | .error e => .error e

end Validator

end Conform
