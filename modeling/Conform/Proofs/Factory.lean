import Conform.Factory
import Conform.Proofs.Entries
import Mathlib.Data.List.Basic

/-!
# What factories are built of

Overrides are laid over the built-in rules type by type and name by name. A factory is built if they
name primitive types only and the depth is positive; without overrides it has the built-in rules.
-/

namespace Conform

/-! ## Registries -/

/-- A table laid over another has its own rule under a name, or else that of the other. -/
theorem RuleTable.find?_laidOver (table base : RuleTable) (name : String) :
    (table.laidOver base).find? name = (table.find? name).or (base.find? name) := by
  unfold laidOver find?
  rw [List.lookup_append]
  cases hl : List.lookup name table with
  | some rule => rfl
  | none =>
    have hname : name ∉ table.names := Entries.lookup_eq_none.1 hl
    rw [Option.none_or, Option.none_or]
    induction base with
    | nil => rfl
    | cons e base ih =>
      by_cases he : e.1 ∈ table.names
      · have hne : (name == e.1) = false := by
          rw [beq_eq_false_iff_ne]
          rintro rfl
          exact hname he
        rw [List.filter_cons_of_neg (by simpa using he), ih, List.lookup_cons, hne]
      · rw [List.filter_cons_of_pos (by simpa using he), List.lookup_cons, List.lookup_cons, ih]

theorem Registry.table_of_build {o : Overrides} {r : Registry} (h : Registry.build o = .ok r)
    (p : Primitive) : r.table p = (overridesFor o p).laidOver p.builtIn := by
  unfold build at h
  split at h
  · cases h
    rfl
  · cases h

/-! ## Factories -/

/-- Overrides for primitive types alone are accepted. -/
theorem Factory.build_of_known {o : Overrides} (throwing : Bool) {maxDepth : Int}
    (ho : ∀ e ∈ o, (Primitive.ofName? e.1).isSome = true) (hd : 1 ≤ maxDepth) :
    ∃ r, Registry.build o = .ok r ∧
      Factory.build o throwing maxDepth = .ok ⟨r, throwing, maxDepth⟩ := by
  have hunknown : Registry.unknownTypes o = [] := by
    have hfilter : (o.map (·.1)).filter (fun n => (Primitive.ofName? n).isNone) = [] := by
      refine List.filter_eq_nil_iff.2 fun n hn => ?_
      obtain ⟨e, he, rfl⟩ := List.mem_map.1 hn
      have hsome := ho e he
      cases h : Primitive.ofName? e.1 with
      | none =>
        rw [h] at hsome
        cases hsome
      | some p => simp
    rw [Registry.unknownTypes, hfilter, List.mergeSort_nil]
  have hbuild : Registry.build o =
      .ok ⟨fun p => (Registry.overridesFor o p).laidOver p.builtIn⟩ := by
    unfold Registry.build
    rw [hunknown]
  refine ⟨_, hbuild, ?_⟩
  unfold Factory.build
  rw [if_neg (by omega), hbuild]
  rfl

theorem Factory.registry_of_build {o : Overrides} {throwing : Bool} {maxDepth : Int} {f : Factory}
    (h : Factory.build o throwing maxDepth = .ok f) :
    ∃ r, Registry.build o = .ok r ∧ f = ⟨r, throwing, maxDepth⟩ := by
  unfold Factory.build at h
  split at h
  · cases h
  · cases hr : Registry.build o with
    | error e =>
      rw [hr] at h
      cases h
    | ok r =>
      rw [hr] at h
      cases h
      exact ⟨r, rfl, rfl⟩

/-- Without rules of the caller's own the registry is that of the built-in rules. -/
theorem Factory.build_nil {throwing : Bool} {maxDepth : Int} (h : 1 ≤ maxDepth) :
    Factory.build [] throwing maxDepth = .ok ⟨⟨Primitive.builtIn⟩, throwing, maxDepth⟩ := by
  obtain ⟨⟨table⟩, hr, hf⟩ := Factory.build_of_known throwing (List.forall_mem_nil _) h
  have htable : table = Primitive.builtIn := by
    funext p
    have hp : table p = _ := Registry.table_of_build hr p
    rw [hp]
    simp [Registry.overridesFor, RuleTable.laidOver, RuleTable.names]
  rw [hf, htable]

end Conform
