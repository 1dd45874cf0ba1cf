import Conform.Proofs.Related
import Conform.Proofs.Value.Legible
import Conform.Value.Equal

/-!
# Values with more in them

A value extends another if it has more entries in its objects, at any depth, and is the same
otherwise. What is in both is found in the same places: lists have as many items, and under a key that
is not extra the two objects have values that are related in turn.
-/

namespace Conform.Value

/-! ## Entries among others -/

/-- The second list has the entries of the first in the same order, with values related by `R`, and
    among them entries with keys that are extra. -/
inductive Widens (R : Value → Value → Prop) (extra : String → Prop) :
    List (String × Value) → List (String × Value) → Prop where
  /-- No entries. -/
  | nil : Widens R extra [] []
  /-- An entry of both. -/
  | kept {k : String} {v w : Value} {es fs : List (String × Value)} (h : R v w)
      (hs : Widens R extra es fs) : Widens R extra ((k, v) :: es) ((k, w) :: fs)
  /-- An entry of the second only. -/
  | added {k : String} {w : Value} {es fs : List (String × Value)} (hk : extra k)
      (hs : Widens R extra es fs) : Widens R extra es ((k, w) :: fs)

section Widens

variable {R : Value → Value → Prop} {extra : String → Prop} {es fs : List (String × Value)}

theorem Widens.refl (hR : ∀ v, R v v) (es : List (String × Value)) : Widens R extra es es := by
  induction es with
  | nil => exact .nil
  | cons e es ih => exact .kept (hR e.2) ih

/-- Under a key that is not extra both have a value, and the two are related, or neither has one. -/
theorem Widens.lookup (h : Widens R extra es fs) {k : String} (hk : ¬extra k) :
    Option.Rel R (es.lookup k) (fs.lookup k) := by
  induction h with
  | nil => exact .none
  | kept h _ ih =>
    rw [List.lookup_cons, List.lookup_cons]
    split
    · exact .some h
    · exact ih
  | @added key _ _ _ hkey _ ih =>
    have hne : (k == key) = false := by
      refine beq_false_of_ne fun heq => hk ?_
      rwa [heq]
    rw [List.lookup_cons, hne]
    exact ih

/-- Each entry of the first has its counterpart in the second. -/
theorem Widens.exists_mem (h : Widens R extra es fs) {e : String × Value} (he : e ∈ es) :
    ∃ f ∈ fs, R e.2 f.2 := by
  induction h with
  | nil => cases he
  | kept h _ ih =>
    rcases List.mem_cons.1 he with rfl | he
    · exact ⟨_, List.mem_cons_self, h⟩
    · obtain ⟨f, hf, hr⟩ := ih he
      exact ⟨f, List.mem_cons_of_mem _ hf, hr⟩
  | added _ _ ih =>
    obtain ⟨f, hf, hr⟩ := ih he
    exact ⟨f, List.mem_cons_of_mem _ hf, hr⟩

/-- What holds of all values of the second is a further relation between the entries of both. -/
theorem Widens.and_right {P : Value → Prop} (h : Widens R extra es fs) (hP : ∀ f ∈ fs, P f.2) :
    Widens (fun v w => R v w ∧ P w) extra es fs := by
  induction h with
  | nil => exact .nil
  | kept h _ ih =>
    rw [List.forall_mem_cons] at hP
    exact .kept ⟨h, hP.1⟩ (ih hP.2)
  | added hk _ ih =>
    rw [List.forall_mem_cons] at hP
    exact .added hk (ih hP.2)

end Widens

/-! ## Values with the same parts -/

/-- A relation between values that are absent, lists or objects together, and whose items and entries
    are related in turn, except that objects may differ in entries with keys that are extra. -/
structure Similarity (extra : String → Prop) (R : Value → Value → Prop) : Prop where
  /-- Both are absent or neither is. -/
  isAbsent_eq : ∀ {v w}, R v w → w.isAbsent = v.isAbsent
  /-- Both have items, related one by one, or neither has. -/
  items : ∀ {v w}, R v w → Option.Rel (List.Forall₂ R) v.items? w.items?
  /-- Both have entries, those of the first among those of the second, or neither has. -/
  entries : ∀ {v w}, R v w → Option.Rel (Widens R extra) v.entries? w.entries?

theorem similarity_eq : Similarity (fun _ => False) Eq where
  isAbsent_eq h := by rw [h]
  items h := by
    rw [h]
    exact rel_of_refl (fun xs => List.forall₂_same.2 fun _ _ => rfl) _
  entries h := by
    rw [h]
    exact rel_of_refl (Widens.refl fun _ => rfl) _

/-- Along with a value all its parts can be written, if it can under a condition at all. -/
theorem Similarity.legible {extra : String → Prop} {R : Value → Value → Prop}
    (S : Similarity extra R) (L : Prop) :
    Similarity extra fun v w => R v w ∧ (L → w.isLegible = true) where
  isAbsent_eq h := S.isAbsent_eq h.1
  items h := by
    obtain ⟨hx, hy⟩ | ⟨xs, ys, hx, hy, hxy⟩ := rel_cases (S.items h.1)
    · rw [hx, hy]
      exact .none
    · rw [hx, hy]
      refine .some ((forall₂_and_mem hxy).imp fun x y hxy => ⟨hxy.1, fun hL => ?_⟩)
      exact (isLegible_of_items hy).1 (h.2 hL) y hxy.2.2
  entries h := by
    obtain ⟨he, hf⟩ | ⟨es, fs, he, hf, hes⟩ := rel_cases (S.entries h.1)
    · rw [he, hf]
      exact .none
    · rw [he, hf]
      exact .some (hes.and_right fun f hfs hL => (isLegible_of_entries hf).1 (h.2 hL) f hfs)

/-! ## Extensions -/

/-- The second value is the first with any entries added to the objects in it, at any depth, as long as
    their keys are extra. -/
inductive Extends (extra : String → Prop) : Value → Value → Prop where
  /-- Nothing is added. -/
  | refl (v : Value) : Extends extra v v
  /-- Entries are added in the items of a list. -/
  | list {xs ys : List Value} (h : List.Forall₂ (Extends extra) xs ys) :
      Extends extra (.list xs) (.list ys)
  /-- Entries are added in the items of a tuple. -/
  | tuple {xs ys : List Value} (h : List.Forall₂ (Extends extra) xs ys) :
      Extends extra (.tuple xs) (.tuple ys)
  /-- Entries are added to an object and in the values of its entries. -/
  | object {es fs : List (String × Value)} (h : Widens (Extends extra) extra es fs) :
      Extends extra (.object es) (.object fs)

variable {extra : String → Prop} {v w : Value}

theorem similarity_extends : Similarity extra (Extends extra) where
  isAbsent_eq h := by
    cases h with
    | refl v => rfl
    | list h => rfl
    | tuple h => rfl
    | object h => rfl
  items h := by
    cases h with
    | refl v => exact rel_of_refl (fun xs => List.forall₂_same.2 fun x _ => .refl x) _
    | list h => exact .some h
    | tuple h => exact .some h
    | object h => exact .none
  entries h := by
    cases h with
    | refl v => exact rel_of_refl (Widens.refl .refl) _
    | list h => exact .none
    | tuple h => exact .none
    | object h => exact .some h

/-- A value without parts is extended by itself only. -/
theorem Extends.eq_or_composite (h : v.Extends extra w) :
    w = v ∨ v.isScalar = false ∧ w.isScalar = false := by
  cases h with
  | refl v => exact Or.inl rfl
  | list h => exact Or.inr ⟨rfl, rfl⟩
  | tuple h => exact Or.inr ⟨rfl, rfl⟩
  | object h => exact Or.inr ⟨rfl, rfl⟩

/-- What is added to a value cannot make it one that can be written. -/
theorem Extends.isLegible {v w : Value} (h : v.Extends extra w) (hw : w.isLegible = true) :
    v.isLegible = true := by
  induction hk : sizeOf v using Nat.strongRecOn generalizing v w with
  | ind k ih =>
    cases h with
    | refl => exact hw
    | list h | tuple h =>
      rw [isLegible_of_items rfl] at hw ⊢
      intro x hx
      obtain ⟨y, hy, hxy⟩ := exists_right_of_forall₂ h hx
      exact ih _ (hk ▸ sizeOf_lt_of_items rfl hx) hxy (hw y hy) rfl
    | object h =>
      rw [isLegible_of_entries rfl] at hw ⊢
      intro e he
      obtain ⟨f, hf, hef⟩ := h.exists_mem he
      exact ih _ (hk ▸ sizeOf_lt_of_entries rfl he) hef (hw f hf) rfl

end Conform.Value
