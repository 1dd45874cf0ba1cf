import Conform.Value.Basic
import Mathlib.Data.List.Nodup

/-!
# Entries and their keys

An association list finds one of its entries under a key, and every one if no key occurs twice.
-/

namespace Conform.Entries

variable {β : Type} {es : List (String × β)} {k : String} {b : β}

/-- What is found under a key is an entry. -/
theorem mem_of_lookup (h : es.lookup k = some b) : (k, b) ∈ es := by
  obtain ⟨l₁, l₂, rfl, -⟩ := List.lookup_eq_some_iff.1 h
  exact List.mem_append_right _ List.mem_cons_self

/-- Where no key occurs twice, an entry is what is found under its key. -/
theorem lookup_of_mem (hn : (es.map Prod.fst).Nodup) (h : (k, b) ∈ es) : es.lookup k = some b := by
  obtain ⟨l₁, l₂, rfl⟩ := List.append_of_mem h
  rw [List.map_append, List.map_cons] at hn
  have hk : k ∉ l₁.map Prod.fst := fun hmem =>
    (List.nodup_append.1 hn).2.2 k hmem k List.mem_cons_self rfl
  refine List.lookup_eq_some_iff.2 ⟨l₁, l₂, rfl, fun e he => ?_⟩
  have hne : k ≠ e.1 := fun heq => hk (heq ▸ List.mem_map_of_mem he)
  simpa using hne

/-- Nothing is found under a key exactly if no entry has it. -/
theorem lookup_eq_none : es.lookup k = none ↔ k ∉ es.map Prod.fst := by
  rw [List.lookup_eq_none_iff, List.mem_map]
  constructor
  · rintro h ⟨e, he, rfl⟩
    simpa using h e he
  · intro h e he
    have hne : k ≠ e.1 := fun heq => h ⟨e, he, heq.symm⟩
    simpa using hne

/-- What is found when the entries under one key are left out is found among all entries. -/
theorem lookup_of_filter {key : String} (h : (es.filter (·.1 ≠ key)).lookup k = some b) :
    es.lookup k = some b := by
  have hk : k ≠ key := by
    have hmem := (List.mem_filter.1 (mem_of_lookup h)).2
    simpa using hmem
  induction es with
  | nil => exact h
  | cons e es ih =>
    by_cases hkey : e.1 = key
    · have hne : (k == e.1) = false := by simp [hkey, hk]
      rw [List.filter_cons_of_neg (by simp [hkey])] at h
      rw [List.lookup_cons, hne]
      exact ih h
    · rw [List.filter_cons_of_pos (by simp [hkey]), List.lookup_cons] at h
      rw [List.lookup_cons]
      split at h
      · exact h
      · exact ih h

/-- The entries in another order have the same under each key, if no key occurs twice. -/
theorem lookup_of_perm {fs : List (String × β)} (hn : (es.map Prod.fst).Nodup) (h : es.Perm fs)
    (k : String) : fs.lookup k = es.lookup k := by
  cases hl : es.lookup k with
  | none =>
    rw [lookup_eq_none, ← (h.map Prod.fst).mem_iff, ← lookup_eq_none]
    exact hl
  | some b =>
    have hn' : (fs.map Prod.fst).Nodup := (h.map Prod.fst).nodup_iff.1 hn
    exact lookup_of_mem hn' (h.mem_iff.1 (mem_of_lookup hl))

end Conform.Entries
