import Conform.Proofs.Walk.Simulation

/-!
# Walks through one schema in two contexts

Two walks through one schema over one value meet the same nodes in the same order, as long as each
check has outcomes in both that are alike. A `Likeness` says which contexts correspond and which
outcomes are alike, and lists what has to hold where a walk decides something by itself. From that
follows that the walks are alike throughout (`Likeness.levels`): every shape preserves likeness, so
a statement about two walks needs no further look at unions, lists or objects.

The first use is that the walk enters a node and then visits the nodes below it (`node_eq`), where
`levels` counts down the depth that the context leaves.
-/

namespace Conform.Walk

open Schema Outcome

variable {ι : Type}

/-- When two walks through the schema `g` are alike. `places` relates the contexts and marks of a
    trial of the two; `alike` relates their outcomes, where the truth value says whether the first
    walk reports failures. -/
structure Likeness (g : Graph ι) (places : Context → Bool → Context → Bool → Prop)
    (alike : Bool → Outcome → Outcome → Prop) : Prop extends Congruence alike where
  /-- A step into the value leads to corresponding contexts. -/
  into : ∀ {c p d q} (s : Segment), places c p d q → places (c.into s) p (d.into s) q
  /-- Trials of alternatives start in corresponding contexts. -/
  probing : ∀ {c p d q}, places c p d q → places c.probing true d.probing true
  /-- Failures at corresponding places are alike. -/
  fail : ∀ {c p d q} (told : Told) (value : Value), places c p d q →
    alike c.throwing (c.fail told value) (d.fail told value)
  /-- Missed literals at corresponding places are alike. -/
  missed : ∀ {c p d q} (expected value : Value), places c p d q →
    alike c.throwing (literalOutcome expected value c p) (literalOutcome expected value d q)
  /-- Intersections with too few members at corresponding places are alike. -/
  arity : ∀ {c p d q} (k : Nat), places c p d q →
    alike c.throwing (.error (.schema (.arity k c.path))) (.error (.schema (.arity k d.path)))
  /-- Primitive types at corresponding places are alike. -/
  primitive : ∀ {c p d q} (ref : ι) (value : Value), places c p d q →
    alike c.throwing (primitive (g ref) value c) (primitive (g ref) value d)

namespace Likeness

variable {g : Graph ι} {places : Context → Bool → Context → Bool → Prop}
  {alike : Bool → Outcome → Outcome → Prop} (L : Likeness g places alike)

include L

theorem literal {c d : Context} {p q : Bool} (h : places c p d q) (pl : Payload ι) (value : Value) :
    alike c.throwing (literal pl value c p) (literal pl value d q) := by
  unfold Walk.literal
  split
  · exact L.pass _
  · exact L.missed _ _ h

/-! ## Shapes -/

section Shapes

variable {visit visit' : Visit ι}
  (H : ∀ ref value c p d q, places c p d q →
    alike c.throwing (visit ref value c p) (visit' ref value d q))

include H

/-- Walks that are alike run alike, each node, member and value corresponding to itself. -/
theorem simulation : Simulation ⟨Eq, Eq, Eq, fun _ => False, places, alike⟩ g g visit visit' where
  toCongruence := L.toCongruence
  toSimilarity := Value.similarity_eq
  into := L.into
  optional_eq href := by rw [href]
  node := by
    rintro ref _ value _ c p d q rfl rfl h
    exact H ref value c p d q h
  member := by
    rintro m _ value _ c p d q rfl rfl h
    cases m with
    | node ref => exact H ref value c p d q h
    | bare expected =>
      simp only [member]
      split
      · exact L.pass _
      · exact L.missed _ _ h
  isAlternativeLiteral_eq hm hv := by rw [hm, hv]
  attempt := by
    rintro m _ value _ c p d q rfl rfl h -
    cases m with
    | node ref => exact H ref value c.probing true d.probing true (L.probing h)
    | bare expected => exact L.refuse
  mismatch := by
    rintro ms ms' value _ c p d q hms rfl h
    rw [List.forall₂_eq_eq_eq] at hms
    obtain rfl := hms
    exact L.fail _ _ h
  mistyped := by
    rintro value _ c p d q expected rfl h
    exact L.fail _ _ h
  lacking := by
    rintro value _ c p d q k rfl h
    exact L.fail _ _ (L.into _ h)
  arity := L.arity

variable {c d : Context} {p q : Bool} (h : places c p d q)

include h

theorem union (ms : List (Member ι)) (value : Value) :
    alike c.throwing (union g visit ms value c) (union g visit' ms value d) :=
  (L.simulation H).union (List.forall₂_same.2 fun _ _ => rfl) rfl h

theorem inside (ref : ι) (value : Value) :
    alike c.throwing (inside g visit (g ref) value c p) (inside g visit' (g ref) value d q) :=
  (L.simulation H).inside (.self (fun _ _ => rfl) (fun _ _ => rfl) fun _ _ => not_false)
    (fun _ => L.literal h _ value) (fun _ => L.primitive ref value h) rfl h

end Shapes

/-- Two walks with the same number of levels left are alike, if entering a node leads to
    corresponding contexts and entering one too many is alike. -/
theorem levels (entered : ∀ {c p d q}, places c p d q → places c.entered p d.entered q)
    (cycle : ∀ {c p d q}, places c p d q → alike c.throwing (.error c.cycle) (.error d.cycle))
    (k : Nat) (ref : ι) (value : Value) (c : Context) (p : Bool) (d : Context) (q : Bool)
    (h : places c p d q) :
    alike c.throwing (levels g k ref value c p) (levels g k ref value d q) := by
  induction k generalizing ref value c p d q with
  | zero => exact cycle h
  | succ k ih => exact L.inside ih (entered h) ref value

end Likeness

/-! ## One level of the walk -/

/-- Walks in the same contexts come out the same, whatever holds of the contexts from the start and is
    kept on the way. -/
theorem likeness_kept (g : Graph ι) {kept : Context → Bool → Prop}
    (hinto : ∀ {c p} (s : Segment), kept c p → kept (c.into s) p)
    (hprobing : ∀ {c p}, kept c p → kept c.probing true) :
    Likeness g (fun c p d q => c = d ∧ p = q ∧ kept c p) fun _ o o' => o = o' where
  toCongruence := congruence_eq
  into s h := by
    obtain ⟨rfl, rfl, h⟩ := h
    exact ⟨rfl, rfl, hinto s h⟩
  probing h := by
    obtain ⟨rfl, rfl, h⟩ := h
    exact ⟨rfl, rfl, hprobing h⟩
  fail _ _ h := by rw [h.1]
  missed _ _ h := by rw [h.1, h.2.1]
  arity _ h := by rw [h.1]
  primitive _ _ h := by rw [h.1]

/-- The walks with `k` levels left, taken in contexts that leave `k` levels. -/
theorem likeness_eq (g : Graph ι) (k : Nat) :
    Likeness g (fun c p d q => c = d ∧ p = q ∧ c.remaining = k) fun _ o o' => o = o' :=
  likeness_kept g (fun _ h => h) fun h => h

/-- The walk enters the node, if the context allows it, and visits the nodes below by walking. -/
theorem node_eq (g : Graph ι) (ref : ι) (value : Value) (c : Context) (p : Bool) :
    node g ref value c p =
      if c.maxDepth ≤ c.depth then .error c.cycle
      else inside g (node g) (g ref) value c.entered p := by
  split
  · rename_i h
    have hk : c.remaining = 0 := by unfold Context.remaining; omega
    unfold node
    rw [hk]
    rfl
  · rename_i h
    have hk : c.remaining = c.entered.remaining + 1 := by
      simp only [Context.remaining, Context.entered]
      omega
    have hvisit : ∀ ref value c' p' d q, c' = d ∧ p' = q ∧ c'.remaining = c.entered.remaining →
        levels g c.entered.remaining ref value c' p' = node g ref value d q := by
      rintro ref value c' p' _ _ ⟨rfl, rfl, hr⟩
      unfold node
      rw [hr]
    unfold node
    rw [hk]
    exact (likeness_eq g c.entered.remaining).inside hvisit ⟨rfl, rfl, rfl⟩ ref value

end Conform.Walk
