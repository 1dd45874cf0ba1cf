import Conform.Proofs.Entries
import Conform.Value.Equal
import Mathlib.Logic.Relation

/-!
# The order of keys

Two values differ only in the order of keys if one becomes the other by bringing the entries of
objects in it into another order, at any depth. No key occurs twice in such an object, so each key
keeps its value, and equality with any value is kept.
-/

namespace Conform.Value

/-- A value and the value after the entries of one object, which is the value or anywhere in it, have
    been brought into another order. -/
inductive Reorders : Value → Value → Prop where
  /-- The entries of the object, which has no key twice. -/
  | entries {es fs : List (String × Value)} (hn : (es.map Prod.fst).Nodup) (h : es.Perm fs) :
      Reorders (.object es) (.object fs)
  /-- The object is in an item of a list. -/
  | item {l₁ l₂ : List Value} {x y : Value} (h : Reorders x y) :
      Reorders (.list (l₁ ++ x :: l₂)) (.list (l₁ ++ y :: l₂))
  /-- The object is in an item of a tuple. -/
  | tupleItem {l₁ l₂ : List Value} {x y : Value} (h : Reorders x y) :
      Reorders (.tuple (l₁ ++ x :: l₂)) (.tuple (l₁ ++ y :: l₂))
  /-- The object is in the value of an entry. -/
  | entry {l₁ l₂ : List (String × Value)} {k : String} {x y : Value} (h : Reorders x y) :
      Reorders (.object (l₁ ++ (k, x) :: l₂)) (.object (l₁ ++ (k, y) :: l₂))

/-- A value and the value with the keys of its objects in another order, at any depth. -/
def Reordered : Value → Value → Prop := Relation.ReflTransGen Reorders

theorem Reorders.symm {v w : Value} (h : v.Reorders w) : w.Reorders v := by
  induction h with
  | entries hn h => exact .entries ((h.map Prod.fst).nodup_iff.1 hn) h.symm
  | item _ ih => exact .item ih
  | tupleItem _ ih => exact .tupleItem ih
  | entry _ ih => exact .entry ih

/-! ## Equality -/

theorem sameItems_replace {x y : Value} (h : ∀ e, same e x = same e y) (zs l₁ l₂ : List Value) :
    sameItems zs (l₁ ++ x :: l₂) = sameItems zs (l₁ ++ y :: l₂) := by
  induction l₁ generalizing zs with
  | nil =>
    cases zs with
    | nil => rfl
    | cons z zs => simp only [List.nil_append, sameItems, h]
  | cons w l₁ ih =>
    cases zs with
    | nil => rfl
    | cons z zs => simp only [List.cons_append, sameItems, ih]

/-- Entries are compared with what is found under their keys. -/
theorem sameEntries_cons (k : String) (v : Value) (es fs : List (String × Value)) :
    sameEntries ((k, v) :: es) fs = ((fs.lookup k).any (same v) && sameEntries es fs) := by
  rw [sameEntries]
  cases fs.lookup k <;> rfl

theorem sameEntries_congr {fs fs' : List (String × Value)}
    (h : ∀ k e, (fs.lookup k).any (same e) = (fs'.lookup k).any (same e))
    (es : List (String × Value)) : sameEntries es fs = sameEntries es fs' := by
  induction es with
  | nil => rfl
  | cons e es ih => rw [sameEntries_cons, sameEntries_cons, h, ih]

/-- What is found under a key when one value has been replaced. -/
theorem lookup_replace {x y : Value} (l₁ l₂ : List (String × Value)) (k key : String) :
    (l₁ ++ (k, x) :: l₂).lookup key = (l₁ ++ (k, y) :: l₂).lookup key ∨
    (l₁ ++ (k, x) :: l₂).lookup key = some x ∧ (l₁ ++ (k, y) :: l₂).lookup key = some y := by
  simp only [List.lookup_append, List.lookup_cons]
  cases l₁.lookup key with
  | some z => exact Or.inl rfl
  | none =>
    split
    · exact Or.inr ⟨rfl, rfl⟩
    · exact Or.inl rfl

/-- A value is equal to another whatever the order of the keys in that one. -/
theorem Reorders.same_eq {v w : Value} (h : v.Reorders w) (e : Value) : same e v = same e w := by
  induction h generalizing e with
  | @entries es fs hn h =>
    cases e with
    | object ds =>
      have hlookup : ∀ k e, (es.lookup k).any (same e) = (fs.lookup k).any (same e) := by
        intro k e
        rw [Entries.lookup_of_perm hn h]
      rw [same, same, h.length_eq, sameEntries_congr hlookup]
    | _ => rfl
  | item _ ih =>
    cases e with
    | list zs => exact sameItems_replace ih zs _ _
    | _ => rfl
  | tupleItem _ ih =>
    cases e with
    | tuple zs => exact sameItems_replace ih zs _ _
    | _ => rfl
  | @entry l₁ l₂ k x y _ ih =>
    cases e with
    | object ds =>
      have hlookup : ∀ key e, ((l₁ ++ (k, x) :: l₂).lookup key).any (same e) =
          ((l₁ ++ (k, y) :: l₂).lookup key).any (same e) := by
        intro key e
        rcases lookup_replace (x := x) (y := y) l₁ l₂ k key with heq | ⟨hx, hy⟩
        · rw [heq]
        · rw [hx, hy, Option.any_some, Option.any_some, ih]
      have hlen : (l₁ ++ (k, x) :: l₂).length = (l₁ ++ (k, y) :: l₂).length := by simp
      rw [same, same, hlen, sameEntries_congr hlookup]
    | _ => rfl

/-- Strict equality with a value that is no truth value is equality, for all but truth values. -/
theorem strictEqual_eq_same {v : Value} (hv : v.isBool = false) (e : Value) :
    e.strictEqual v = (!e.isBool && e.same v) := by
  cases v with
  | bool b => cases hv
  | _ => cases e <;> rfl

theorem Reorders.strictEqual_eq {v w : Value} (h : v.Reorders w) (e : Value) :
    e.strictEqual v = e.strictEqual w := by
  have hv : v.isBool = false := by cases h <;> rfl
  have hw : w.isBool = false := by cases h <;> rfl
  rw [strictEqual_eq_same hv, strictEqual_eq_same hw, h.same_eq]

/-! ## Parts -/

/-- The items of the list that remains are those of the list, or come from them in turn. -/
theorem exists_of_mem_replace {α : Type} {R : α → α → Prop} {l₁ l₂ : List α} {x y z : α}
    (hxy : R x y) (hz : z ∈ l₁ ++ y :: l₂) :
    ∃ w ∈ l₁ ++ x :: l₂, Relation.ReflTransGen R w z := by
  rcases List.mem_append.1 hz with hz | hz
  · exact ⟨z, List.mem_append_left _ hz, .refl⟩
  · rcases List.mem_cons.1 hz with rfl | hz
    · exact ⟨x, by simp, .single hxy⟩
    · exact ⟨z, by simp [hz], .refl⟩

theorem Reorders.items {v w : Value} {xs : List Value} (h : v.Reorders w) (hx : v.items? = some xs) :
    ∃ ys, w.items? = some ys ∧ ∀ y ∈ ys, ∃ x ∈ xs, x.Reordered y := by
  cases h with
  | entries hn h => cases hx
  | item h =>
    cases hx
    exact ⟨_, rfl, fun y hy => exists_of_mem_replace h hy⟩
  | tupleItem h =>
    cases hx
    exact ⟨_, rfl, fun y hy => exists_of_mem_replace h hy⟩
  | entry h => cases hx

theorem Reorders.keys {v w : Value} {es : List (String × Value)} (h : v.Reorders w)
    (he : v.entries? = some es) :
    ∃ fs, w.entries? = some fs ∧ es.map Prod.fst ⊆ fs.map Prod.fst ∧
      ∀ k y, (k, y) ∈ fs → ∃ x, (k, x) ∈ es ∧ x.Reordered y := by
  cases h with
  | entries hn h =>
    cases he
    exact ⟨_, rfl, (h.map Prod.fst).subset, fun k y hy => ⟨y, h.mem_iff.2 hy, .refl⟩⟩
  | item h => cases he
  | tupleItem h => cases he
  | @entry l₁ l₂ k' x' y' h =>
    cases he
    refine ⟨_, rfl, by simp, fun k y hy => ?_⟩
    rcases List.mem_append.1 hy with hy | hy
    · exact ⟨y, List.mem_append_left _ hy, .refl⟩
    · rcases List.mem_cons.1 hy with hy | hy
      · obtain ⟨rfl, rfl⟩ := Prod.mk.inj hy
        exact ⟨x', by simp, .single h⟩
      · exact ⟨y, by simp [hy], .refl⟩

namespace Reordered

variable {v w : Value}

theorem symm (h : v.Reordered w) : w.Reordered v := by
  induction h with
  | refl => exact .refl
  | tail _ hstep ih => exact .head hstep.symm ih

theorem isAbsent_eq (h : v.Reordered w) : w.isAbsent = v.isAbsent := by
  induction h with
  | refl => rfl
  | tail _ hstep ih =>
    rw [← ih]
    cases hstep <;> rfl

theorem strictEqual_eq (h : v.Reordered w) (e : Value) : e.strictEqual w = e.strictEqual v := by
  induction h with
  | refl => rfl
  | tail _ hstep ih => rw [← ih, hstep.strictEqual_eq]

/-- A value without parts has no keys that could be in another order. -/
theorem eq_of_plain (h : v.Reordered w) (hx : v.items? = none) (he : v.entries? = none) : w = v := by
  rcases Relation.ReflTransGen.cases_head h with rfl | ⟨u, hstep, -⟩
  · rfl
  · cases hstep with
    | entries => cases he
    | item => cases hx
    | tupleItem => cases hx
    | entry => cases he

theorem items (h : v.Reordered w) {xs : List Value} (hx : v.items? = some xs) :
    ∃ ys, w.items? = some ys ∧ ∀ y ∈ ys, ∃ x ∈ xs, x.Reordered y := by
  induction h with
  | refl => exact ⟨xs, hx, fun x hxs => ⟨x, hxs, .refl⟩⟩
  | tail _ hstep ih =>
    obtain ⟨ys, hy, hys⟩ := ih
    obtain ⟨zs, hz, hzs⟩ := hstep.items hy
    refine ⟨zs, hz, fun z hmem => ?_⟩
    obtain ⟨y, hymem, hyz⟩ := hzs z hmem
    obtain ⟨x, hxmem, hxy⟩ := hys y hymem
    exact ⟨x, hxmem, hxy.trans hyz⟩

theorem entries (h : v.Reordered w) {es : List (String × Value)} (he : v.entries? = some es) :
    ∃ fs, w.entries? = some fs ∧ es.map Prod.fst ⊆ fs.map Prod.fst ∧
      ∀ k y, (k, y) ∈ fs → ∃ x, (k, x) ∈ es ∧ x.Reordered y := by
  induction h with
  | refl => exact ⟨es, he, List.Subset.refl _, fun k x hx => ⟨x, hx, .refl⟩⟩
  | tail _ hstep ih =>
    obtain ⟨fs, hf, hkeys, hfs⟩ := ih
    obtain ⟨gs, hg, hkeys', hgs⟩ := hstep.keys hf
    refine ⟨gs, hg, List.Subset.trans hkeys hkeys', fun k z hz => ?_⟩
    obtain ⟨y, hy, hyz⟩ := hgs k z hz
    obtain ⟨x, hx, hxy⟩ := hfs k y hy
    exact ⟨x, hx, hxy.trans hyz⟩

end Reordered

end Conform.Value
