import Conform.Path
import Conform.Proofs.Entries
import Conform.Value.Basic

/-!
# Following a path into a value

A path leads from a value to at most one of its parts. The entries of an object are found under their
keys because no object has a key twice: that is how objects are built, entry by entry
(`distinctKeys_ofEntries`).
-/

namespace Conform.Value

/-! ## Distinct keys -/

theorem entries?_eq_none {v : Value} {xs : List Value} (hx : v.items? = some xs) :
    v.entries? = none := by
  cases v with
  | list xs => rfl
  | tuple xs => rfl
  | _ => cases hx

theorem entries?_eq_some {v : Value} {es : List (String × Value)} :
    v.entries? = some es ↔ v = .object es := by
  cases v <;> simp [entries?]

/-- No object in the value has a key twice. -/
inductive DistinctKeys : Value → Prop where
  /-- A value without parts. -/
  | plain {v : Value} (hx : v.items? = none) (he : v.entries? = none) : DistinctKeys v
  /-- A list of values of the kind. -/
  | list {v : Value} {xs : List Value} (hx : v.items? = some xs) (h : ∀ x ∈ xs, DistinctKeys x) :
      DistinctKeys v
  /-- An object with different keys, under each a value of the kind. -/
  | object {es : List (String × Value)} (hn : (es.map Prod.fst).Nodup)
      (h : ∀ e ∈ es, DistinctKeys e.2) : DistinctKeys (.object es)

namespace DistinctKeys

variable {v : Value} (h : v.DistinctKeys)

include h

theorem item {xs : List Value} {x : Value} (hx : v.items? = some xs) (hm : x ∈ xs) :
    x.DistinctKeys := by
  cases h with
  | plain hnone _ => simp [hnone] at hx
  | list hsome h =>
    rw [hx, Option.some.injEq] at hsome
    subst hsome
    exact h x hm
  | object hn h => cases hx

theorem nodup {es : List (String × Value)} (he : v.entries? = some es) :
    (es.map Prod.fst).Nodup := by
  cases h with
  | plain _ hnone => simp [hnone] at he
  | list hx h => simp [entries?_eq_none hx] at he
  | object hn h =>
    cases he
    exact hn

theorem entry {es : List (String × Value)} {e : String × Value} (he : v.entries? = some es)
    (hm : e ∈ es) : e.2.DistinctKeys := by
  cases h with
  | plain _ hnone => simp [hnone] at he
  | list hx h => simp [entries?_eq_none hx] at he
  | object hn h =>
    cases he
    exact h e hm

end DistinctKeys

/-- An entry that is put in comes under a key that was there or goes to the end. -/
theorem keys_putEntry (k : String) (x : Value) (es : List (String × Value)) :
    (putEntry k x es).map Prod.fst =
      if k ∈ es.map Prod.fst then es.map Prod.fst else es.map Prod.fst ++ [k] := by
  induction es with
  | nil => rfl
  | cons e es ih =>
    rw [putEntry]
    by_cases hk : e.1 = k
    · simp [hk]
    · have hk' : ¬k = e.1 := fun h => hk h.symm
      simp only [hk, if_false, List.map_cons, ih, List.mem_cons, hk', false_or]
      split <;> rfl

theorem eq_or_mem_of_mem_putEntry {k : String} {x : Value} {es : List (String × Value)}
    {e : String × Value} (h : e ∈ putEntry k x es) : e = (k, x) ∨ e ∈ es := by
  induction es with
  | nil => exact Or.inl (List.mem_singleton.1 h)
  | cons f es ih =>
    rw [putEntry] at h
    split at h
    · rename_i hk
      rcases List.mem_cons.1 h with rfl | h
      · exact Or.inl (by rw [hk])
      · exact Or.inr (List.mem_cons_of_mem _ h)
    · rcases List.mem_cons.1 h with rfl | h
      · exact Or.inr List.mem_cons_self
      · exact (ih h).imp_right (List.mem_cons_of_mem _)

/-- Putting in an entry keeps the keys distinct. -/
theorem distinctKeys_putEntry {k : String} {x : Value} {es : List (String × Value)}
    (hx : x.DistinctKeys) (h : (object es).DistinctKeys) : (object (putEntry k x es)).DistinctKeys := by
  have hn := h.nodup rfl
  refine .object ?_ fun e he => ?_
  · rw [keys_putEntry]
    split
    · exact hn
    · rename_i hk
      exact List.concat_eq_append ▸ hn.concat hk
  · rcases eq_or_mem_of_mem_putEntry he with rfl | he
    · exact hx
    · exact h.entry rfl he

/-- The object that entries build has distinct keys, whichever keys come. -/
theorem distinctKeys_ofEntries {es : List (String × Value)} (h : ∀ e ∈ es, e.2.DistinctKeys) :
    (ofEntries es).DistinctKeys := by
  have hfold : ∀ acc, (object acc).DistinctKeys →
      (object (es.foldl (fun acc e => putEntry e.1 e.2 acc) acc)).DistinctKeys := by
    induction es with
    | nil => exact fun acc hacc => hacc
    | cons e es ih =>
      intro acc hacc
      exact ih (fun e he => h e (List.mem_cons_of_mem _ he)) _
        (distinctKeys_putEntry (h e List.mem_cons_self) hacc)
  exact hfold [] (.object List.nodup_nil (by simp))

/-- An entry under a new key goes to the end. -/
theorem putEntry_of_not_mem {k : String} {es : List (String × Value)} (h : k ∉ es.map Prod.fst)
    (x : Value) : putEntry k x es = es ++ [(k, x)] := by
  induction es with
  | nil => rfl
  | cons e es ih =>
    rw [List.map_cons, List.mem_cons, not_or] at h
    have hk : e.1 ≠ k := fun heq => h.1 heq.symm
    rw [putEntry, if_neg hk, ih h.2]
    rfl

/-- Entries with distinct keys build the object that has them, in their order. -/
theorem ofEntries_of_nodup {es : List (String × Value)} (h : (es.map Prod.fst).Nodup) :
    ofEntries es = object es := by
  have hfold : ∀ acc : List (String × Value), ((acc ++ es).map Prod.fst).Nodup →
      es.foldl (fun acc e => putEntry e.1 e.2 acc) acc = acc ++ es := by
    clear h
    induction es with
    | nil => simp
    | cons e es ih =>
      intro acc hacc
      have hnew : e.1 ∉ acc.map Prod.fst := by
        rw [List.map_append, List.map_cons] at hacc
        intro hmem
        exact (List.nodup_append.1 hacc).2.2 _ hmem _ List.mem_cons_self rfl
      have hrest : acc ++ e :: es = (acc ++ [e]) ++ es := by simp
      rw [hrest] at hacc ⊢
      rw [List.foldl_cons, putEntry_of_not_mem hnew]
      exact ih _ hacc
  rw [ofEntries, hfold [] h, List.nil_append]

/-! ## Paths -/

/-- One step into a value. -/
def step? (v : Value) : Segment → Option Value
  | .key k => v.entries?.bind (List.lookup k)
  | .index i => v.items?.bind (·[i]?)

/-- The part of a value that a path leads to. -/
def follow? (v : Value) : Path → Option Value
  | [] => some v
  | s :: path => (v.step? s).bind (·.follow? path)

theorem follow?_append (v : Value) (path rest : Path) :
    v.follow? (path ++ rest) = (v.follow? path).bind (·.follow? rest) := by
  induction path generalizing v with
  | nil => rfl
  | cons s path ih =>
    rw [List.cons_append, follow?, follow?]
    cases v.step? s with
    | none => rfl
    | some w => exact ih w

/-- A path that leads to a part, and one step more. -/
theorem follow?_concat {v w : Value} {path : Path} (h : v.follow? path = some w) (s : Segment) :
    v.follow? (path ++ [s]) = w.step? s := by
  rw [follow?_append, h, Option.bind_some, follow?]
  cases w.step? s <;> rfl

/-- From a value without parts no path leads anywhere else. -/
theorem eq_of_follow? {v w : Value} {path : Path} (hx : v.items? = none) (he : v.entries? = none)
    (h : v.follow? path = some w) : w = v := by
  rcases path with _ | ⟨_ | i, path⟩
  · exact (Option.some.inj h).symm
  · rw [follow?, step?, he] at h
    cases h
  · rw [follow?, step?, hx] at h
    cases h

theorem step?_index {v x : Value} {xs : List Value} {i : Nat} (hx : v.items? = some xs)
    (hi : xs[i]? = some x) : v.step? (.index i) = some x := by
  rw [step?, hx, Option.bind_some, hi]

theorem step?_key {v x : Value} {es : List (String × Value)} {k : String} (h : v.DistinctKeys)
    (he : v.entries? = some es) (hm : (k, x) ∈ es) : v.step? (.key k) = some x := by
  rw [step?, he, Option.bind_some]
  exact Entries.lookup_of_mem (h.nodup he) hm

end Conform.Value
