import Conform.Json.Reader
import Conform.Proofs.Value.Follow

/-!
# Decoded documents

Whatever text a value is read from, no object in it has a key twice: the entries of an object are put
in one after the other, and a key that comes again replaces its value.
-/

namespace Conform.Json

/-- A value without parts. -/
def Plain (v : Value) : Prop := v.items? = none ∧ v.entries? = none

theorem Plain.distinctKeys {v : Value} (h : Plain v) : v.DistinctKeys := .plain h.1 h.2

/-- A reading that is passed through a function. -/
theorem map_eq_ok {α β : Type} {o : Except Stop α} {f : α → β} {b : β} (h : o.map f = .ok b) :
    ∃ a, o = .ok a ∧ f a = b := by
  cases o with
  | error e => cases h
  | ok a => exact ⟨a, rfl, Except.ok.inj h⟩

theorem number_plain {start s r : List Char} {negative : Bool} {v : Value}
    (h : number start negative s = .ok (v, r)) : Plain v := by
  unfold number at h
  split at h
  split at h
  · cases h
  · simp only at h
    split at h
    · split at h
      · cases h
      · cases h
        exact ⟨rfl, rfl⟩
    · cases h
      exact ⟨rfl, rfl⟩

theorem atom_plain {s r : List Char} {v : Value} (h : atom s = .ok (v, r)) : Plain v := by
  unfold atom at h
  split at h
  · rename_i p hp
    cases h
    obtain ⟨w, hw, hread⟩ := List.exists_of_findSome?_eq_some hp
    obtain ⟨r', -, hv⟩ := Option.map_eq_some_iff.1 hread
    have hwords : ∀ w ∈ wordValues, Plain w.2 := by
      simp [wordValues, Plain, Value.items?, Value.entries?]
    cases hv
    exact hwords w hw
  · split at h
    · exact number_plain h
    · exact number_plain h

/-- Values, items and entries that are read have distinct keys, whatever the fuel. -/
theorem distinctKeys_of_fuel (fuel : Nat) :
    (∀ {s v r}, value fuel s = .ok (v, r) → v.DistinctKeys) ∧
    (∀ {s xs r}, items fuel s = .ok (xs, r) → ∀ x ∈ xs, x.DistinctKeys) ∧
    (∀ {s es r}, members fuel s = .ok (es, r) → ∀ e ∈ es, e.2.DistinctKeys) := by
  induction fuel with
  | zero =>
    refine ⟨fun h => ?_, fun h => ?_, fun h => ?_⟩
    · cases h
    · cases h
    · cases h
  | succ fuel ih =>
    obtain ⟨hvalue, hitems, hmembers⟩ := ih
    refine ⟨fun {s v r} h => ?_, fun {s xs r} h => ?_, fun {s es r} h => ?_⟩
    · unfold value at h
      split at h
      · obtain ⟨p, -, hp⟩ := map_eq_ok h
        cases hp
        exact .plain rfl rfl
      · split at h
        · cases h
          exact .list rfl (by simp)
        · obtain ⟨p, hread, hp⟩ := map_eq_ok h
          cases hp
          exact .list rfl (hitems hread)
      · split at h
        · cases h
          exact .object List.nodup_nil (by simp)
        · obtain ⟨p, hread, hp⟩ := map_eq_ok h
          cases hp
          exact Value.distinctKeys_ofEntries (hmembers hread)
      · exact (atom_plain h).distinctKeys
    · unfold items at h
      split at h
      · cases h
      · rename_i v r' hv
        split at h
        · cases h
          exact List.forall_mem_singleton.2 (hvalue hv)
        · obtain ⟨p, hread, hp⟩ := map_eq_ok h
          cases hp
          exact List.forall_mem_cons.2 ⟨hvalue hv, hitems hread⟩
        · cases h
    · unfold members at h
      split at h
      · split at h
        · cases h
        · split at h
          · split at h
            · cases h
            · rename_i v r' hv
              split at h
              · cases h
                exact List.forall_mem_singleton.2 (hvalue hv)
              · obtain ⟨p, hread, hp⟩ := map_eq_ok h
                cases hp
                exact List.forall_mem_cons.2 ⟨hvalue hv, hmembers hread⟩
              · cases h
          · cases h
      · cases h

theorem distinctKeys_of_document {s : List Char} {v : Value} (h : document s = .ok v) :
    v.DistinctKeys := by
  unfold document at h
  split at h
  · cases h
  · rename_i w r hread
    split at h
    · cases h
      exact (distinctKeys_of_fuel _).1 hread
    · cases h

/-- No object in a decoded value has a key twice. -/
theorem distinctKeys_of_read {s : List Char} {v : Value} (h : read s = .ok v) : v.DistinctKeys := by
  unfold read at h
  split at h
  · cases h
  · exact distinctKeys_of_document h

end Conform.Json
