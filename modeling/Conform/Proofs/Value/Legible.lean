import Conform.Value.Legible
import Mathlib.Algebra.Order.Ring.Int

/-!
# Which values can be written

A list or an object can be written exactly if all its parts can, and an integer exactly if it is less
than the power of ten that the limit on digits gives. So what is taken out of a value that can be
written can be written too.
-/

namespace Conform.Value

variable {v a : Value}

/-! ## Parts of values -/

theorem sizeOf_lt_of_items {xs : List Value} {x : Value} (hv : v.items? = some xs) (hx : x ∈ xs) :
    sizeOf x < sizeOf v := by
  have hlt := List.sizeOf_lt_of_mem hx
  cases v with
  | list =>
    cases hv
    rw [list.sizeOf_spec]
    omega
  | tuple =>
    cases hv
    rw [tuple.sizeOf_spec]
    omega
  | _ => cases hv

theorem sizeOf_lt_of_entries {es : List (String × Value)} {e : String × Value}
    (hv : v.entries? = some es) (he : e ∈ es) : sizeOf e.2 < sizeOf v := by
  have hlt := List.sizeOf_lt_of_mem he
  have hpair : sizeOf e = 1 + sizeOf e.1 + sizeOf e.2 := Prod.mk.sizeOf_spec e.1 e.2
  cases v with
  | object =>
    cases hv
    rw [object.sizeOf_spec]
    omega
  | _ => cases hv

theorem mem_itemAtoms {xs : List Value} : a ∈ itemAtoms xs ↔ ∃ x ∈ xs, a ∈ x.atoms := by
  induction xs with
  | nil => simp [itemAtoms]
  | cons x xs ih => simp [itemAtoms, ih]

theorem mem_entryAtoms {es : List (String × Value)} : a ∈ entryAtoms es ↔ ∃ e ∈ es, a ∈ e.2.atoms := by
  induction es with
  | nil => simp [entryAtoms]
  | cons e es ih => simp [entryAtoms, ih]

/-- The parts of a list are those of its items. -/
theorem mem_atoms_of_items {xs : List Value} (hx : v.items? = some xs) :
    a ∈ v.atoms ↔ ∃ x ∈ xs, a ∈ x.atoms := by
  cases v with
  | list | tuple =>
    cases hx
    exact mem_itemAtoms
  | _ => cases hx

/-- The parts of an object are those of the values in it. -/
theorem mem_atoms_of_entries {es : List (String × Value)} (he : v.entries? = some es) :
    a ∈ v.atoms ↔ ∃ e ∈ es, a ∈ e.2.atoms := by
  cases v with
  | object =>
    cases he
    exact mem_entryAtoms
  | _ => cases he

/-! ## Values that can be written -/

theorem isLegible_iff : v.isLegible = true ↔ ∀ a ∈ v.atoms, a.isShort = true := List.all_eq_true

theorem isLegible_of_items {xs : List Value} (hx : v.items? = some xs) :
    v.isLegible = true ↔ ∀ x ∈ xs, x.isLegible = true := by
  simp only [isLegible_iff, mem_atoms_of_items hx]
  exact ⟨fun h x hx a ha => h a ⟨x, hx, ha⟩, fun h a ⟨x, hx, ha⟩ => h x hx a ha⟩

theorem isLegible_of_entries {es : List (String × Value)} (he : v.entries? = some es) :
    v.isLegible = true ↔ ∀ e ∈ es, e.2.isLegible = true := by
  simp only [isLegible_iff, mem_atoms_of_entries he]
  exact ⟨fun h e he a ha => h a ⟨e, he, ha⟩, fun h a ⟨e, he, ha⟩ => h e he a ha⟩

theorem isLegible_int {n : Int} :
    (int n).isLegible = true ↔ (Text.natText n.natAbs).length ≤ Double.maxDigits := by
  simp [isLegible, atoms, isShort]

/-- An integer can be written exactly if it is less in size than the limit on digits says. -/
theorem isLegible_int_iff_lt {n : Int} :
    (int n).isLegible = true ↔ n.natAbs < 10 ^ Double.maxDigits :=
  isLegible_int.trans (Nat.length_toDigits_le_iff (by decide) (by decide))

theorem lt_length_natText {n : Nat} (hn : 10 ^ Double.maxDigits ≤ n) :
    Double.maxDigits < (Text.natText n).length := by
  rw [← Nat.not_le, Text.natText, Nat.length_toDigits_le_iff (by decide) (by decide)]
  exact Nat.not_lt.2 hn

/-- An integer that is too long to be written. -/
def tooLong : Value := .int (10 ^ Double.maxDigits)

theorem isLegible_tooLong : ¬tooLong.isLegible = true := by
  intro h
  have hsize : (10 ^ Double.maxDigits : Int).natAbs < 10 ^ Double.maxDigits := isLegible_int_iff_lt.1 h
  have hten : (10 : Int).natAbs = 10 := rfl
  rw [Int.natAbs_pow, hten] at hsize
  exact Nat.lt_irrefl _ hsize

end Conform.Value
