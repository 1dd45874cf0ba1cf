import Conform.Proofs.Schema.Weakening
import Conform.Proofs.Walk.Verdict

/-!
# Relaxed schemas

A schema is relaxed by dropping a tag, by adding an alternative to a union or a description to an
array that has some, by dropping one of the demands of an intersection or a property of an object, or
by letting a value be absent. Each of these makes the node demand no more, so a value that a validator
accepts is accepted under every schema that is relaxed in any number of places.
-/

namespace Conform.Schema

/-! ## Relaxing a node -/

/-- A node and the node after it has been relaxed in one way. -/
inductive Node.Relaxes (n : Node Tree) : Node Tree → Prop where
  /-- A tag is dropped. -/
  | tag {l₁ l₂ : List Tag} {t : Tag} (ht : n.tags = l₁ ++ t :: l₂) :
      Relaxes n { n with tags := l₁ ++ l₂ }
  /-- A member is added to the alternatives of a union or the descriptions of an array. -/
  | alternative (hk : n.kind = .union ∨ n.kind = .array) (hne : n.alternatives ≠ [])
      (m : Member Tree) : Relaxes n { n with payload := .members (n.alternatives ++ [m]) }
  /-- A member of an intersection is dropped that has at least two without it. -/
  | demand {l₁ l₂ : List (Member Tree)} {m : Member Tree} (hk : n.kind = .intersection)
      (hm : n.alternatives = l₁ ++ m :: l₂) (hl : 2 ≤ (l₁ ++ l₂).length) :
      Relaxes n { n with payload := .members (l₁ ++ l₂) }
  /-- The property under a key of an object is dropped. -/
  | property (hk : n.kind = .object) (key : String) :
      Relaxes n { n with payload := .properties (n.properties.filter (·.1 ≠ key)) }
  /-- A node that falls back on nothing becomes optional. -/
  | optional (hf : n.fallback = []) : Relaxes n { n with flags := { n.flags with optional := true } }

/-- A schema and the schema after its nodes have been relaxed any number of times. -/
def Tree.Relaxes : Tree → Tree → Prop :=
  Relation.ReflTransGen (Tree.Somewhere Node.Relaxes)

variable {r : Registry}

namespace Node

variable {n n' : Node Tree}

/-- A node that is relaxed demands no more. -/
theorem Relaxes.eases (h : n.Relaxes n') : n.Eases (Tree.Weaker r) n' := by
  have hself : n.Eases (Tree.Weaker r) n := .refl n
  cases h with
  | @tag l₁ l₂ t ht =>
    have htags : l₁ ++ l₂ ⊆ n.tags := by
      rw [ht]
      exact (List.sublist_cons_self t l₂).append_left l₁ |>.subset
    exact { hself with tags := htags }
  | alternative hk hne m =>
    have hliteral : n.flags.literal = false := by
      refine flag_eq_false (fun h => ?_) fun h => ?_
      · simp [h] at hk
      · simp [h] at hk
    refine eases_of_members (payload_of_alternatives hne) hliteral (by simp [hne])
      (fun _ => List.subset_append_left _ _) (fun _ => by simp) fun h => ?_
    simp [h] at hk
  | @demand l₁ l₂ m hk hm hl =>
    have hne : n.alternatives ≠ [] := by simp [hm]
    have hrest : l₁ ++ l₂ ≠ [] := List.ne_nil_of_length_pos (by omega)
    have hsub : l₁ ++ l₂ ⊆ n.alternatives := by
      rw [hm]
      exact (List.sublist_cons_self m l₂).append_left l₁ |>.subset
    have hliteral : n.flags.literal = false := flag_eq_false (by simp [hk]) (by simp [hk])
    refine eases_of_members (payload_of_alternatives hne) hliteral (iff_of_false hrest hne)
      (fun h => ?_) (fun h => ?_) fun _ => hsub
    · simp [hk] at h
    · simp [hk] at h
  | property hk key =>
    have hliteral : n.flags.literal = false := flag_eq_false (by simp [hk]) (by simp [hk])
    exact eases_of_properties (payload_of_kind hk) (fun hl => absurd hl (by simp [hliteral]))
      List.filter_sublist.subset fun k s hs => Entries.lookup_of_filter hs
  | optional hf =>
    have hkind : ({ n with flags := { n.flags with optional := true } } : Node Tree).kind = n.kind := by
      simp [kind, hf]
    exact { hself with kind := hkind, optional := fun _ => rfl }

end Node

/-- A tree that is relaxed demands no more. -/
theorem Tree.Relaxes.weaker {t t' : Tree} (h : t.Relaxes t') : Tree.Weaker r t t' :=
  .of_changes (fun _ _ h => h.eases) h

end Conform.Schema

namespace Conform.Validator

open Schema Walk

/-- A value that a validator accepts is accepted by the validator of every relaxed schema, as long as
    both schemas are no higher than the depth allowed, intersections have members enough and the rules
    answer for the tags. -/
theorem call_of_relaxes (t t' : Schema.Tree) (h : t.Relaxes t') (r : Registry) (maxDepth : Int)
    (ht : Checkable r maxDepth t) (ht' : Checkable r maxDepth t') (value : Value)
    (hv : (⟨.ofTree t, r, false, maxDepth⟩ : Validator Schema.Tree).call value = .ok true) :
    (⟨.ofTree t', r, false, maxDepth⟩ : Validator Schema.Tree).call value = .ok true := by
  obtain ⟨b, hb, hiff⟩ := exists_answer_of_checkable ht value
  obtain ⟨b', hb', hiff'⟩ := exists_answer_of_checkable ht' value
  obtain rfl : b = true := by simpa [hb] using hv
  have haccepts : Accepts Schema.Tree.node r t' value := h.weaker.accepts value (hiff.1 rfl)
  rw [hb', hiff'.2 haccepts]

/-- Lists of texts of at most five characters. -/
def listsOfShort : Schema.Tree :=
  .mk ⟨"list", { array := true }, [], .members [.node (textsWith "max" "5")], []⟩

/-- Lists of texts. -/
def listsOfText : Schema.Tree :=
  .mk ⟨"list", { array := true }, [], .members [.node anyText], []⟩

/-- Lists of texts and nulls. -/
def listsOfAny : Schema.Tree :=
  .mk ⟨"list", { array := true }, [], .members [.node anyText, .bare .null], []⟩

theorem call_of_relaxes_listsOfShort :
    listsOfShort.Relaxes listsOfAny ∧ Checkable ⟨Primitive.builtIn⟩ 2 listsOfShort ∧
    Checkable ⟨Primitive.builtIn⟩ 2 listsOfAny ∧
    (⟨.ofTree listsOfAny, ⟨Primitive.builtIn⟩, false, 2⟩ : Validator Schema.Tree).call
      (.list [.string "three"]) = .ok true := by
  have htags : (textsWith "max" "5").node.tags = [] ++ ⟨"max", "5"⟩ :: [] := rfl
  have htag : Schema.Tree.Somewhere Node.Relaxes (textsWith "max" "5") anyText := .root (.tag htags)
  have hinner : Schema.Tree.Somewhere Node.Relaxes listsOfShort listsOfText :=
    .child htag ⟨.members (.cons (.node .swapped) .nil), .nil⟩
  have hsome : listsOfText.node.alternatives ≠ [] := List.cons_ne_nil _ _
  have houter : listsOfText.node.Relaxes listsOfAny.node := .alternative (Or.inr rfl) hsome (.bare .null)
  have hrelaxes : listsOfShort.Relaxes listsOfAny := .tail (.single hinner) (.root houter)
  have hshort : Checkable ⟨Primitive.builtIn⟩ 2 listsOfShort := by
    refine .of_references nofun nofun fun s hs => ?_
    obtain rfl := List.mem_singleton.1 hs
    refine .of_references nofun (fun _ p hp t ht rule hr value _ => ?_) nofun
    obtain rfl := List.mem_singleton.1 ht
    exact builtIn_answers hr (by decide) value _
  have hany : Checkable ⟨Primitive.builtIn⟩ 2 listsOfAny := by
    refine .of_references nofun nofun fun s hs => ?_
    obtain rfl := List.mem_singleton.1 hs
    exact .of_references nofun (fun _ p hp t ht => by cases ht) nofun
  exact ⟨hrelaxes, hshort, hany, call_of_relaxes _ _ hrelaxes _ 2 hshort hany _ rfl⟩

end Conform.Validator
