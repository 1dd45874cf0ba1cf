import Conform.Proofs.Entries
import Conform.Schema.Node
import Mathlib.Logic.Relation

/-!
# The nodes below a node

A node refers to other nodes in its payload and in its fallbacks. In a tree every reference leads to
a smaller tree, which the height measures: the number of nodes on the longest way down.
-/

namespace Conform.Schema

variable {ι : Type}

/-! ## References -/

/-- The reference of a member that is a node. -/
def Member.reference? : Member ι → Option ι
  | node ref => some ref
  | bare _ => none

/-- The references in a payload. -/
def Payload.references : Payload ι → List ι
  | single _ => []
  | members ms => ms.filterMap Member.reference?
  | properties ps => ps.map (·.2)

/-- The references of a node: those in its payload and its fallbacks. -/
def Node.references (n : Node ι) : List ι := n.payload.references ++ n.fallback

namespace Node

variable {n : Node ι} {ref : ι}

theorem mem_references_of_alternative (h : .node ref ∈ n.alternatives) : ref ∈ n.references := by
  obtain ⟨typeName, flags, tags, payload, fallback⟩ := n
  refine List.mem_append_left _ ?_
  cases payload with
  | members ms => exact List.mem_filterMap.2 ⟨_, h, rfl⟩
  | single v => cases h
  | properties ps => cases h

theorem mem_references_of_mem_properties {e : String × ι} (h : e ∈ n.properties) :
    e.2 ∈ n.references := by
  obtain ⟨typeName, flags, tags, payload, fallback⟩ := n
  refine List.mem_append_left _ ?_
  cases payload with
  | properties ps => exact List.mem_map.2 ⟨e, h, rfl⟩
  | single v => cases h
  | members ms => cases h

theorem mem_references_of_property {k : String} (h : n.properties.lookup k = some ref) :
    ref ∈ n.references :=
  mem_references_of_mem_properties (Entries.mem_of_lookup h)

theorem mem_references_of_fallback (h : n.fallback.head? = some ref) : ref ∈ n.references :=
  List.mem_append_right _ (List.mem_of_head? h)

end Node

/-! ## Subtrees -/

namespace Tree

/-- A tree and one that its root refers to. -/
def Child (t s : Tree) : Prop := s ∈ t.node.references

/-- A tree and one that its root leads to, in any number of steps. -/
def Reaches : Tree → Tree → Prop := Relation.ReflTransGen Child

/-- What holds of all trees that a tree leads to holds of the tree itself and of all that its
    references lead to. -/
theorem forall_reaches {t : Tree} {P : Tree → Prop} :
    (∀ s, t.Reaches s → P s) ↔ P t ∧ ∀ c ∈ t.node.references, ∀ s, c.Reaches s → P s := by
  constructor
  · intro h
    exact ⟨h t .refl, fun c hc s hs => h s (.head hc hs)⟩
  · rintro ⟨ht, h⟩ s hs
    rcases Relation.ReflTransGen.cases_head hs with rfl | ⟨c, hc, hs⟩
    · exact ht
    · exact h c hc s hs

end Tree

/-! ## Heights -/

mutual

/-- The number of nodes on the longest way down a tree. -/
def Tree.height : Tree → Nat
  | .mk ⟨_, _, _, payload, fallback⟩ => max (payloadHeight payload) (treesHeight fallback) + 1
termination_by structural t => t

/-- The greatest height in a payload. -/
def payloadHeight : Payload Tree → Nat
  | .single _ => 0
  | .members ms => membersHeight ms
  | .properties ps => propertiesHeight ps

/-- The greatest height among members; values that stand for themselves have none. -/
def membersHeight : List (Member Tree) → Nat
  | [] => 0
  | .node t :: ms => max t.height (membersHeight ms)
  | .bare _ :: ms => membersHeight ms

/-- The greatest height among properties. -/
def propertiesHeight : List (String × Tree) → Nat
  | [] => 0
  | (_, t) :: ps => max t.height (propertiesHeight ps)

/-- The greatest height among trees. -/
def treesHeight : List Tree → Nat
  | [] => 0
  | t :: ts => max t.height (treesHeight ts)

end

theorem height_le_treesHeight {t : Tree} {ts : List Tree} (h : t ∈ ts) :
    t.height ≤ treesHeight ts := by
  induction ts with
  | nil => cases h
  | cons s ts ih =>
    rw [treesHeight]
    rcases List.mem_cons.1 h with rfl | h
    · exact Nat.le_max_left _ _
    · exact Nat.le_trans (ih h) (Nat.le_max_right _ _)

theorem membersHeight_eq (ms : List (Member Tree)) :
    membersHeight ms = treesHeight (ms.filterMap Member.reference?) := by
  induction ms with
  | nil => rfl
  | cons m ms ih =>
    cases m with
    | node t => rw [membersHeight, ih]; rfl
    | bare v => exact ih

theorem propertiesHeight_eq (ps : List (String × Tree)) :
    propertiesHeight ps = treesHeight (ps.map (·.2)) := by
  induction ps with
  | nil => rfl
  | cons p ps ih => rw [propertiesHeight, ih]; rfl

theorem payloadHeight_eq (pl : Payload Tree) : payloadHeight pl = treesHeight pl.references := by
  cases pl with
  | single v => rfl
  | members ms => exact membersHeight_eq ms
  | properties ps => exact propertiesHeight_eq ps

theorem treesHeight_append (ts us : List Tree) :
    treesHeight (ts ++ us) = max (treesHeight ts) (treesHeight us) := by
  induction ts with
  | nil => exact (Nat.zero_max _).symm
  | cons t ts ih => rw [List.cons_append, treesHeight, treesHeight, ih, Nat.max_assoc]

theorem treesHeight_le {ts : List Tree} {k : Nat} (h : ∀ t ∈ ts, t.height ≤ k) :
    treesHeight ts ≤ k := by
  induction ts with
  | nil => exact Nat.zero_le k
  | cons t ts ih =>
    obtain ⟨ht, hts⟩ := List.forall_mem_cons.1 h
    exact Nat.max_le.2 ⟨ht, ih hts⟩

/-- A tree is one higher than the highest of those that its root refers to. -/
theorem Tree.height_eq (t : Tree) : t.height = treesHeight t.node.references + 1 := by
  obtain ⟨⟨typeName, flags, tags, payload, fallback⟩⟩ := t
  rw [Tree.height, payloadHeight_eq, ← treesHeight_append]
  rfl

/-- A reference leads to a tree of smaller height. -/
theorem Tree.height_lt_of_child {t s : Tree} (h : t.Child s) : s.height < t.height := by
  rw [t.height_eq, Nat.lt_succ_iff]
  exact height_le_treesHeight h

/-- A tree is no higher than another if each tree that its root refers to is no higher than one that
    the other root refers to. -/
theorem Tree.height_le_of_references {n n' : Node Tree}
    (h : ∀ s' ∈ n'.references, ∃ s ∈ n.references, s'.height ≤ s.height) :
    (mk n').height ≤ (mk n).height := by
  rw [height_eq, height_eq]
  refine Nat.succ_le_succ (treesHeight_le fun s' hs' => ?_)
  obtain ⟨s, hs, hle⟩ := h s' hs'
  exact Nat.le_trans hle (height_le_treesHeight hs)

theorem Tree.height_pos (t : Tree) : 0 < t.height := by
  obtain ⟨n⟩ := t
  exact Nat.succ_pos _

end Conform.Schema
