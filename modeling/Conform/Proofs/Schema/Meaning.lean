import Conform.Proofs.Entries
import Conform.Registry
import Conform.Schema.Node
import Conform.Value.Equal

/-!
# What a schema means

A value is accepted by a node or not, whatever the order in which its parts are looked at, how deep
the node is or who asks. Acceptance is the least relation that the kinds of nodes allow, so on a
tree it is acceptance by recursion on the tree (`accepts_iff`). A registry takes part by the answers
of its rules alone.
-/

namespace Conform.Schema

variable {ι : Type}

/-- A node of the optional kind has something to fall back on. -/
theorem Node.fallback_ne_nil {n : Node ι} (hk : n.kind = .optional) : n.fallback ≠ [] := by
  intro hf
  unfold kind at hk
  rw [hf, List.isEmpty_nil, Bool.not_true, Bool.and_false, if_neg Bool.false_ne_true] at hk
  split_ifs at hk

/-- The payload stands for a value that equals the value given. -/
def Payload.Equals (pl : Payload ι) (v : Value) : Prop :=
  ∃ e, pl.value? = some e ∧ e.strictEqual v = true

/-- The value is of the primitive type that the node names, and every tag that has a rule accepts it.
    A type of another name demands nothing. -/
def Node.Refines (r : Registry) (n : Node ι) (v : Value) : Prop :=
  ∀ p, Primitive.ofName? n.typeName = some p → p.admits v = true ∧
    ∀ t ∈ n.tags, ∀ rule, (r.table p).find? t.name = some rule → rule v t.argument = .ok true

mutual

/-- A value is accepted by the node of a reference. -/
inductive Accepts (g : Graph ι) (r : Registry) : ι → Value → Prop where
  /-- An optional node accepts absence. -/
  | absent {ref : ι} {v : Value} (ho : (g ref).flags.optional = true) (hv : v.isAbsent = true) :
      Accepts g r ref v
  /-- An optional node accepts what its first fallback accepts. -/
  | fallback {ref s : ι} {v : Value} (hk : (g ref).kind = .optional)
      (hs : (g ref).fallback.head? = some s) (h : Accepts g r s v) : Accepts g r ref v
  /-- A literal accepts the values equal to it. -/
  | literal {ref : ι} {v : Value} (hk : (g ref).kind = .literal) (h : (g ref).payload.Equals v) :
      Accepts g r ref v
  /-- A primitive type accepts its values, as far as the tags do. -/
  | primitive {ref : ι} {v : Value} (hk : (g ref).kind = .primitive) (h : (g ref).Refines r v) :
      Accepts g r ref v
  /-- An array accepts the lists of which it describes every item. -/
  | array {ref : ι} {v : Value} {xs : List Value} (hk : (g ref).kind = .array)
      (hx : v.items? = some xs) (h : ∀ x ∈ xs, Describes g r (g ref).alternatives x) :
      Accepts g r ref v
  /-- An intersection accepts what all its members accept. -/
  | intersection {ref : ι} {v : Value} (hk : (g ref).kind = .intersection)
      (h : ∀ m ∈ (g ref).alternatives, Meets g r m v) : Accepts g r ref v
  /-- A union accepts what one of its alternatives accepts. -/
  | union {ref : ι} {v : Value} (hk : (g ref).kind = .union)
      (h : MeetsSome g r (g ref).alternatives v) : Accepts g r ref v
  /-- An object node accepts the objects that have every key required and whose entries are accepted
      by the properties of their keys. -/
  | object {ref : ι} {v : Value} {es : List (String × Value)} (hk : (g ref).kind = .object)
      (he : v.entries? = some es) (hr : ∀ k ∈ requiredKeys g (g ref), k ∈ es.map Prod.fst)
      (h : ∀ k x s, (k, x) ∈ es → (g ref).properties.lookup k = some s → Accepts g r s x) :
      Accepts g r ref v
  /-- A node of no kind accepts everything. -/
  | anything {ref : ι} {v : Value} (hk : (g ref).kind = .opaqueKind) : Accepts g r ref v

/-- A member accepts a value: as a node, or as the value that it stands for. -/
inductive Meets (g : Graph ι) (r : Registry) : Member ι → Value → Prop where
  /-- The member is a node that accepts the value. -/
  | node {ref : ι} {v : Value} (h : Accepts g r ref v) : Meets g r (.node ref) v
  /-- The member stands for an equal value. -/
  | bare {e v : Value} (h : e.strictEqual v = true) : Meets g r (.bare e) v

/-- One of several alternatives accepts a value. A node flagged as a literal also accepts by its
    payload, whatever its kind. -/
inductive MeetsSome (g : Graph ι) (r : Registry) : List (Member ι) → Value → Prop where
  /-- An alternative stands for an equal value. -/
  | bare {ms : List (Member ι)} {e v : Value} (hm : .bare e ∈ ms) (h : e.strictEqual v = true) :
      MeetsSome g r ms v
  /-- An alternative is flagged as a literal and its payload equals the value. -/
  | literal {ms : List (Member ι)} {ref : ι} {v : Value} (hm : .node ref ∈ ms)
      (hl : (g ref).flags.literal = true) (h : (g ref).payload.Equals v) : MeetsSome g r ms v
  /-- An alternative is a node that accepts the value. -/
  | node {ms : List (Member ι)} {ref : ι} {v : Value} (hm : .node ref ∈ ms)
      (h : Accepts g r ref v) : MeetsSome g r ms v

/-- The descriptions of items accept a value: there are none, or the only one accepts it, or one of
    several does. -/
inductive Describes (g : Graph ι) (r : Registry) : List (Member ι) → Value → Prop where
  /-- Without descriptions every value will do. -/
  | anything {v : Value} : Describes g r [] v
  /-- The only description accepts the value. -/
  | only {m : Member ι} {v : Value} (h : Meets g r m v) : Describes g r [m] v
  /-- One of several descriptions accepts the value. -/
  | some {ms : List (Member ι)} {v : Value} (hl : 2 ≤ ms.length) (h : MeetsSome g r ms v) :
      Describes g r ms v

end

section

variable {g : Graph ι} {r : Registry} {v : Value}

theorem meets_node {ref : ι} : Meets g r (.node ref) v ↔ Accepts g r ref v := by
  constructor
  · intro h
    cases h with
    | node h => exact h
  · exact .node

theorem meets_bare {e : Value} : Meets g r (.bare e) v ↔ e.strictEqual v = true := by
  constructor
  · intro h
    cases h with
    | bare h => exact h
  · exact .bare

theorem describes_singleton {m : Member ι} : Describes g r [m] v ↔ Meets g r m v := by
  constructor
  · intro h
    cases h with
    | only h => exact h
    | some hl h => exact absurd hl (by simp)
  · exact .only

theorem describes_of_two_le {ms : List (Member ι)} (hl : 2 ≤ ms.length) :
    Describes g r ms v ↔ MeetsSome g r ms v := by
  constructor
  · intro h
    cases h with
    | anything => exact absurd hl (by simp)
    | only h => exact absurd hl (by simp)
    | some _ h => exact h
  · exact .some hl

/-- Acceptance by recursion: what a node accepts in terms of what the nodes accept that it refers to,
    by its kind. -/
theorem accepts_iff {ref : ι} :
    Accepts g r ref v ↔
      (g ref).flags.optional = true ∧ v.isAbsent = true ∨
      match (g ref).kind with
      | .optional => ∃ s, (g ref).fallback.head? = some s ∧ Accepts g r s v
      | .literal => (g ref).payload.Equals v
      | .primitive => (g ref).Refines r v
      | .array => ∃ xs, v.items? = some xs ∧ ∀ x ∈ xs, Describes g r (g ref).alternatives x
      | .intersection => ∀ m ∈ (g ref).alternatives, Meets g r m v
      | .union => MeetsSome g r (g ref).alternatives v
      | .object => ∃ es, v.entries? = some es ∧
          (∀ k ∈ requiredKeys g (g ref), k ∈ es.map Prod.fst) ∧
          ∀ k x s, (k, x) ∈ es → (g ref).properties.lookup k = some s → Accepts g r s x
      | .opaqueKind => True := by
  constructor
  · intro h
    cases h with
    | absent ho hv => exact Or.inl ⟨ho, hv⟩
    | fallback hk hs h => exact Or.inr (by rw [hk]; exact ⟨_, hs, h⟩)
    | literal hk h => exact Or.inr (by rw [hk]; exact h)
    | primitive hk h => exact Or.inr (by rw [hk]; exact h)
    | array hk hx h => exact Or.inr (by rw [hk]; exact ⟨_, hx, h⟩)
    | intersection hk h => exact Or.inr (by rw [hk]; exact h)
    | union hk h => exact Or.inr (by rw [hk]; exact h)
    | object hk he hr h => exact Or.inr (by rw [hk]; exact ⟨_, he, hr, h⟩)
    | anything hk => exact Or.inr (by rw [hk]; trivial)
  · rintro (⟨ho, hv⟩ | h)
    · exact .absent ho hv
    · split at h
      · rename_i hk
        obtain ⟨s, hs, h⟩ := h
        exact .fallback hk hs h
      · rename_i hk
        exact .literal hk h
      · rename_i hk
        exact .primitive hk h
      · rename_i hk
        obtain ⟨xs, hx, h⟩ := h
        exact .array hk hx h
      · rename_i hk
        exact .intersection hk h
      · rename_i hk
        exact .union hk h
      · rename_i hk
        obtain ⟨es, he, hr, h⟩ := h
        exact .object hk he hr h
      · rename_i hk
        exact .anything hk

end

end Conform.Schema
