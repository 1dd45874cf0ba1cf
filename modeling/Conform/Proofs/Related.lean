import Mathlib.Data.List.Forall2

/-!
# Lists related item by item

Each item of one list is related to the item of the other at the same position. So every item of
either has a partner in the other, and the relation may be turned around.
-/

namespace Conform

variable {α β : Type} {R : α → β → Prop} {xs : List α} {ys : List β}

theorem exists_right_of_forall₂ (h : List.Forall₂ R xs ys) {x : α} (hx : x ∈ xs) :
    ∃ y ∈ ys, R x y := by
  induction h with
  | nil => cases hx
  | cons hxy _ ih =>
    rcases List.mem_cons.1 hx with rfl | hx
    · exact ⟨_, List.mem_cons_self, hxy⟩
    · obtain ⟨y, hy, hr⟩ := ih hx
      exact ⟨y, List.mem_cons_of_mem _ hy, hr⟩

theorem exists_left_of_forall₂ (h : List.Forall₂ R xs ys) {y : β} (hy : y ∈ ys) :
    ∃ x ∈ xs, R x y :=
  exists_right_of_forall₂ h.flip hy

/-- Lists that are related are related the other way round. -/
theorem forall₂_swap {S : β → α → Prop} (h : List.Forall₂ R xs ys) (hRS : ∀ a b, R a b → S b a) :
    List.Forall₂ S ys xs :=
  List.Forall₂.flip (h.imp hRS)

/-- Lists that are related in turn are related through the list between them. -/
theorem forall₂_chain {γ : Type} {S : β → γ → Prop} {T : α → γ → Prop} {zs : List γ}
    (hxy : List.Forall₂ R xs ys) (hyz : List.Forall₂ S ys zs)
    (hT : ∀ a ∈ xs, ∀ b c, R a b → S b c → T a c) : List.Forall₂ T xs zs := by
  induction hxy generalizing zs with
  | nil =>
    cases hyz
    exact .nil
  | cons h _ ih =>
    rw [List.forall_mem_cons] at hT
    cases hyz with
    | cons h' hyz => exact .cons (hT.1 _ _ h h') (ih hyz hT.2)

theorem eq_of_forall₂ {R : α → α → Prop} {xs ys : List α} (h : List.Forall₂ R xs ys)
    (hR : ∀ a b, R a b → a = b) : xs = ys := by
  have heq := h.imp hR
  rwa [List.forall₂_eq_eq_eq] at heq

theorem isEmpty_eq_of_forall₂ (h : List.Forall₂ R xs ys) : ys.isEmpty = xs.isEmpty := by
  cases h <;> rfl

theorem forall₂_and_mem (h : List.Forall₂ R xs ys) :
    List.Forall₂ (fun x y => R x y ∧ x ∈ xs ∧ y ∈ ys) xs ys := by
  induction h with
  | nil => exact .nil
  | cons hxy _ ih =>
    refine .cons ⟨hxy, List.mem_cons_self, List.mem_cons_self⟩ (ih.imp fun x y h => ?_)
    obtain ⟨hr, hx, hy⟩ := h
    exact ⟨hr, List.mem_cons_of_mem _ hx, List.mem_cons_of_mem _ hy⟩

/-- What may be there is related to itself. -/
theorem rel_of_refl {R : α → α → Prop} (hR : ∀ a, R a a) (o : Option α) : Option.Rel R o o := by
  cases o with
  | none => exact .none
  | some a => exact .some (hR a)

/-- Both are there and related, or neither is. -/
theorem rel_cases {o : Option α} {o' : Option β} (h : Option.Rel R o o') :
    o = none ∧ o' = none ∨ ∃ a b, o = some a ∧ o' = some b ∧ R a b := by
  cases h with
  | none => exact Or.inl ⟨rfl, rfl⟩
  | some h => exact Or.inr ⟨_, _, rfl, rfl, h⟩

/-- With their positions, the items are related at the same positions. -/
theorem forall₂_zipIdx (h : List.Forall₂ R xs ys) (n : Nat) :
    List.Forall₂ (fun x y => R x.1 y.1 ∧ x.2 = y.2) (xs.zipIdx n) (ys.zipIdx n) := by
  induction h generalizing n with
  | nil => exact .nil
  | cons hxy _ ih =>
    rw [List.zipIdx_cons, List.zipIdx_cons]
    exact .cons ⟨hxy, rfl⟩ (ih (n + 1))

end Conform
