import Conform.Proofs.Schema.Reading

/-!
# The form of schema nodes

Data in the form of a node names its type under the first of three keys, spells its flags as truth
values and has lists of tags and fallbacks; its payload is a scalar, an object of nodes or a list of
nodes and scalars. The form is described by the data alone (`NodeForm`), whatever a reader makes of
it.
-/

namespace Conform.Schema

/-! ## Truth values -/

/-- A truth value and data that spells it. -/
inductive SpellsBool : Bool → Value → Prop where
  /-- The truth value itself. -/
  | bool (b : Bool) : SpellsBool b (.bool b)
  /-- The integer zero or one. -/
  | int (b : Bool) : SpellsBool b (.int b.toInt)
  /-- A double that denotes zero or one. -/
  | double {b : Bool} {d : Double} (h : d.toInt? = some b.toInt) : SpellsBool b (.double d)
  /-- A word, in letters of any case. -/
  | word {b : Bool} {s : String} (h : s.toLower ∈ if b then trueWords else falseWords) :
      SpellsBool b (.string s)

theorem boolOfInt_eq_ok {n : Int} {b : Bool} : boolOfInt n = .ok b ↔ n = b.toInt := by
  unfold boolOfInt
  split_ifs with h₀ h₁
  · subst h₀
    cases b <;> simp
  · subst h₁
    cases b <;> simp
  · cases b
    · simpa using h₀
    · simpa using h₁

theorem not_mem_falseWords {w : String} (h : w ∈ trueWords) : w ∉ falseWords := by
  have hall : ∀ w ∈ trueWords, w ∉ falseWords := by decide
  exact hall w h

/-- The data read as a truth value are the spellings of it. -/
theorem boolOfValue_eq_ok {v : Value} {b : Bool} : boolOfValue v = .ok b ↔ SpellsBool b v := by
  constructor
  · intro h
    cases v with
    | bool c =>
      cases h
      exact .bool b
    | int n =>
      simp only [boolOfValue] at h
      split at h
      · rw [boolOfInt_eq_ok] at h
        subst h
        exact .int b
      · cases h
    | double d =>
      simp only [boolOfValue] at h
      split at h
      · rename_i n hn
        split at h
        · rw [boolOfInt_eq_ok] at h
          subst h
          exact .double hn
        · cases h
      · cases h
    | string s =>
      simp only [boolOfValue, List.contains_iff_mem] at h
      split_ifs at h with hfalse htrue
      · cases h
        exact .word hfalse
      · cases h
        exact .word htrue
    | _ => cases h
  · intro h
    cases h with
    | bool => rfl
    | int =>
      cases b
      · rfl
      · rfl
    | double hd =>
      simp only [boolOfValue, hd]
      cases b
      · rfl
      · rfl
    | word hs =>
      simp only [boolOfValue, List.contains_iff_mem]
      cases b with
      | false => exact if_pos hs
      | true => exact (if_neg (not_mem_falseWords hs)).trans (if_pos hs)

/-! ## Grammar -/

/-- The keys of the flags. -/
def flagKeys : List String := ["optional", "union", "intersection", "literal", "array", "primitive"]

/-- What stands under the first key for a type name that is present. -/
def typeNameEntry? (es : List (String × Value)) : Option Value :=
  ((es.lookup "type").or (es.lookup "typeName")).or (es.lookup "type_name")

/-- A text of which something is left as the name of a tag. -/
def NameForm (v : Value) : Prop := ∃ s, v = .string s ∧ Tag.normalName s.toList ≠ []

/-- Data in the form of a tag. The argument may be any data that can be written, as whatever is read from
    a document can. -/
inductive TagForm : Value → Prop where
  /-- A list of a name. -/
  | name {v name : Value} (hv : v.items? = some [name]) (h : NameForm name) : TagForm v
  /-- A list of a name and an argument. -/
  | pair {v name argument : Value} (hv : v.items? = some [name, argument]) (h : NameForm name)
      (ha : argument.isLegible = true) : TagForm v
  /-- An object with a name. -/
  | object {es : List (String × Value)} {name : Value} (hn : es.lookup "name" = some name)
      (h : NameForm name) (ha : ∀ v, es.lookup "argument" = some v → v.isLegible = true) :
      TagForm (.object es)

/-- Data in the form of a list of tags. -/
def TagsForm (v : Value) : Prop := ∃ vs, v.items? = some vs ∧ ∀ x ∈ vs, TagForm x

mutual

/-- Data in the form of a node. Other keys may be there as well. -/
inductive NodeForm : Value → Prop where
  /-- An object with a type name and fields of the forms asked for. -/
  | node {es : List (String × Value)} (htype : ∃ s, typeNameEntry? es = some (.string s))
      (hflags : ∀ k ∈ flagKeys, ∃ b, SpellsBool b (field es k (.bool false)))
      (htags : TagsForm (field es "tags" (.list [])))
      (hchildren : ChildrenForm (field es "children" .null))
      (hfallback : NodesForm (field es "fallback" (.list []))) : NodeForm (.object es)

/-- Data in the form of a payload. -/
inductive ChildrenForm : Value → Prop where
  /-- A scalar. -/
  | scalar {v : Value} (hs : v.isScalar = true) : ChildrenForm v
  /-- An object of nodes. -/
  | object {es : List (String × Value)} (h : ∀ e ∈ es, NodeForm e.2) : ChildrenForm (.object es)
  /-- A list of nodes and scalars. -/
  | list {v : Value} {vs : List Value} (hv : v.items? = some vs) (h : ∀ x ∈ vs, MemberForm x) :
      ChildrenForm v

/-- Data in the form of a member of a payload's list. -/
inductive MemberForm : Value → Prop where
  /-- A scalar. -/
  | scalar {v : Value} (hs : v.isScalar = true) : MemberForm v
  /-- A node. -/
  | node {v : Value} (h : NodeForm v) : MemberForm v

/-- Data in the form of a list of nodes. -/
inductive NodesForm : Value → Prop where
  /-- A list of nodes. -/
  | list {v : Value} {vs : List Value} (hv : v.items? = some vs) (h : ∀ x ∈ vs, NodeForm x) :
      NodesForm v

end

theorem tagForm_of_items {v : Value} {items : List Value} (hv : v.items? = some items) :
    TagForm v ↔ (∃ name, items = [name] ∧ NameForm name) ∨
      ∃ name argument, items = [name, argument] ∧ NameForm name ∧ argument.isLegible = true := by
  constructor
  · intro h
    cases h with
    | name hv' h =>
      rw [hv, Option.some.injEq] at hv'
      exact Or.inl ⟨_, hv', h⟩
    | pair hv' h ha =>
      rw [hv, Option.some.injEq] at hv'
      exact Or.inr ⟨_, _, hv', h, ha⟩
    | object hn h ha => cases hv
  · rintro (⟨name, rfl, h⟩ | ⟨name, argument, rfl, h, ha⟩)
    · exact .name hv h
    · exact .pair hv h ha

theorem tagForm_object {es : List (String × Value)} :
    TagForm (.object es) ↔ (∃ name, es.lookup "name" = some name ∧ NameForm name) ∧
      ∀ v, es.lookup "argument" = some v → v.isLegible = true := by
  constructor
  · intro h
    cases h with
    | name hv h => cases hv
    | pair hv h ha => cases hv
    | object hn h ha => exact ⟨⟨_, hn, h⟩, ha⟩
  · rintro ⟨⟨name, hn, h⟩, ha⟩
    exact .object hn h ha

theorem nodeForm_object {es : List (String × Value)} :
    NodeForm (.object es) ↔ (∃ s, typeNameEntry? es = some (.string s)) ∧
      (∀ k ∈ flagKeys, ∃ b, SpellsBool b (field es k (.bool false))) ∧
      TagsForm (field es "tags" (.list [])) ∧ ChildrenForm (field es "children" .null) ∧
      NodesForm (field es "fallback" (.list [])) := by
  constructor
  · intro h
    cases h with
    | node htype hflags htags hchildren hfallback =>
      exact ⟨htype, hflags, htags, hchildren, hfallback⟩
  · rintro ⟨htype, hflags, htags, hchildren, hfallback⟩
    exact .node htype hflags htags hchildren hfallback

theorem NodeForm.exists_entries {v : Value} (h : NodeForm v) : ∃ es, v = .object es := by
  cases h with
  | node => exact ⟨_, rfl⟩

theorem childrenForm_object {es : List (String × Value)} :
    ChildrenForm (.object es) ↔ ∀ e ∈ es, NodeForm e.2 := by
  constructor
  · intro h
    cases h with
    | scalar hs => cases hs
    | object h => exact h
    | list hv h => cases hv
  · exact .object

theorem childrenForm_of_items {v : Value} {vs : List Value} (hv : v.items? = some vs) :
    ChildrenForm v ↔ ∀ x ∈ vs, MemberForm x := by
  constructor
  · intro h
    cases h with
    | scalar hs => cases v <;> simp [Value.isScalar, Value.items?] at hs hv
    | object h => cases hv
    | list hv' h =>
      rw [hv, Option.some.injEq] at hv'
      subst hv'
      exact h
  · exact .list hv

theorem nodesForm_iff {v : Value} :
    NodesForm v ↔ ∃ vs, v.items? = some vs ∧ ∀ x ∈ vs, NodeForm x := by
  constructor
  · intro h
    cases h with
    | list hv h => exact ⟨_, hv, h⟩
  · rintro ⟨vs, hv, h⟩
    exact .list hv h

end Conform.Schema
