import Conform.Path
import Conform.Proofs.Schema.Subtree

/-!
# Addresses of nodes

The trees below a node stand in an order: those in the payload as the payload lists them, then the
fallbacks. An address says which of them to take, step by step from the root, and the path to the node
there gathers the keys and positions on the way. In pre-order a node stands before all nodes below it,
and whatever is below a tree before whatever is below a later one: that is the lexicographic order of
addresses.
-/

namespace Conform.Schema

variable {ι : Type}

/-! ## Descents -/

/-- What a payload refers to, in order, with the key or the position that leads to it. -/
def Payload.descents : Payload ι → List (Path × ι)
  | single _ => []
  | members ms => ms.zipIdx.filterMap fun m => m.1.reference?.map fun ref => ([.index m.2], ref)
  | properties ps => ps.map fun p => ([.key p.1], p.2)

/-- What a node refers to, in order. No step leads to a fallback, which describes the same place. -/
def Node.descents (n : Node ι) : List (Path × ι) :=
  n.payload.descents ++ n.fallback.map fun ref => ([], ref)

theorem descents_members (ms : List (Member ι)) (i : Nat) :
    ((ms.zipIdx i).filterMap fun m => m.1.reference?.map fun ref => (([.index m.2] : Path), ref)).map
      Prod.snd = ms.filterMap Member.reference? := by
  induction ms generalizing i with
  | nil => rfl
  | cons m ms ih =>
    rw [List.zipIdx_cons]
    cases m with
    | node ref =>
      rw [List.filterMap_cons_some (by rfl), List.filterMap_cons_some (by rfl), List.map_cons, ih]
    | bare v => rw [List.filterMap_cons_none (by rfl), List.filterMap_cons_none (by rfl), ih]

theorem Payload.map_descents (pl : Payload ι) : pl.descents.map Prod.snd = pl.references := by
  cases pl with
  | single v => rfl
  | members ms => exact descents_members ms 0
  | properties ps => simp [descents, references]

/-- The references of a node are the trees below it. -/
theorem Node.map_descents (n : Node ι) : n.descents.map Prod.snd = n.references := by
  rw [descents, List.map_append, Payload.map_descents, List.map_map, references]
  exact congrArg _ (List.map_id _)

/-! ## Addresses -/

/-- At an address in a tree, with a path to it, stands a tree. -/
inductive Tree.At : Tree → List Nat → Path → Tree → Prop where
  /-- The tree itself. -/
  | root (t : Tree) : At t [] [] t
  /-- A tree at an address in one of the trees below the root. -/
  | descend {t c s : Tree} {i : Nat} {address : List Nat} {step path : Path}
      (hc : t.node.descents[i]? = some (step, c)) (h : At c address path s) :
      At t (i :: address) (step ++ path) s

namespace Tree

variable {t s s' : Tree} {address address' : List Nat} {path path' : Path}

/-- An address leads to one tree by one path. -/
theorem At.unique (h : t.At address path s) (h' : t.At address path' s') : path = path' ∧ s = s' := by
  induction h generalizing path' s' with
  | root t =>
    cases h'
    exact ⟨rfl, rfl⟩
  | descend hc _ ih =>
    cases h' with
    | descend hc' h' =>
      rw [hc] at hc'
      cases hc'
      obtain ⟨rfl, rfl⟩ := ih h'
      exact ⟨rfl, rfl⟩

/-- Addresses lead to the trees that the root leads to. -/
theorem At.reaches (h : t.At address path s) : t.Reaches s := by
  induction h with
  | root t => exact .refl
  | @descend t c s i address step path hc _ ih =>
    have hchild : t.Child c := by
      rw [Child, ← Node.map_descents]
      exact List.mem_map.2 ⟨_, List.mem_of_getElem? hc, rfl⟩
    exact .head hchild ih

end Tree

/-! ## Pre-order -/

/-- One address stands before another in pre-order. -/
inductive Before : List Nat → List Nat → Prop where
  /-- A node stands before the nodes below it. -/
  | above (i : Nat) (address : List Nat) : Before [] (i :: address)
  /-- What is below a tree stands before what is below a later one. -/
  | sibling {i j : Nat} (h : i < j) (address address' : List Nat) :
      Before (i :: address) (j :: address')
  /-- Within one of the trees below the root, the order is that of the tree. -/
  | inside (i : Nat) {address address' : List Nat} (h : Before address address') :
      Before (i :: address) (i :: address')

/-- Of two addresses one stands before the other, unless they are the same. -/
theorem before_trichotomy (a b : List Nat) : Before a b ∨ a = b ∨ Before b a := by
  induction a generalizing b with
  | nil =>
    cases b with
    | nil => exact Or.inr (Or.inl rfl)
    | cons j b => exact Or.inl (.above j b)
  | cons i a ih =>
    cases b with
    | nil => exact Or.inr (Or.inr (.above i a))
    | cons j b =>
      rcases Nat.lt_trichotomy i j with hij | rfl | hij
      · exact Or.inl (.sibling hij a b)
      · rcases ih b with h | rfl | h
        · exact Or.inl (.inside i h)
        · exact Or.inr (Or.inl rfl)
        · exact Or.inr (Or.inr (.inside i h))
      · exact Or.inr (Or.inr (.sibling hij b a))

end Conform.Schema
