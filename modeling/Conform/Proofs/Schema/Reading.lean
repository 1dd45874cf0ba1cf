import Conform.Proofs.Outcome
import Conform.Schema.Reader
import Mathlib.Data.List.Forall2

/-!
# What is read off a node

A reading that succeeds relates data to what the data stands for: a list to as many trees, an object
to properties under the same keys, a list item to a node or to itself. Each reader yields exactly the
results so related to its data, so nothing about it has to be looked up in the reader again. The
fields of a node are independent of one another and of the order of the entries: a node is read
exactly if each of its fields is.
-/

namespace Conform.Schema

open Outcome

/-! ## Fields -/

/-- What stands under a key; the default where the key is absent. -/
def field (es : List (String × Value)) (key : String) (default : Value) : Value :=
  (es.lookup key).getD default

theorem field_cons_self {es : List (String × Value)} {key : String} {v default : Value} :
    field ((key, v) :: es) key default = v := by
  simp [field]

theorem field_cons_of_ne {es : List (String × Value)} {k key : String} {v default : Value}
    (hk : k ≠ key) : field ((k, v) :: es) key default = field es key default := by
  have hne : (key == k) = false := beq_false_of_ne hk.symm
  rw [field, field, List.lookup_cons, hne]

theorem readFlag_eq (es : List (String × Value)) (key : String) :
    readFlag es key = (boolOfValue (field es key (.bool false))).mapError (·.within key) := by
  unfold readFlag field
  cases es.lookup key <;> rfl

theorem readTags_eq (es : List (String × Value)) :
    readTags es =
      match (field es "tags" (.list [])).items? with
      | some vs => (readTagItems 0 vs).mapError (·.within "tags")
      | none => .error ((Complaint.here .notList).within "tags") := by
  unfold readTags field
  cases es.lookup "tags" <;> rfl

theorem findPayload_eq (es : List (String × Value)) :
    findPayload es =
      (readPayload (field es "children" .null)).mapError (·.within "children") := by
  induction es with
  | nil => rfl
  | cons e es ih =>
    obtain ⟨k, v⟩ := e
    rw [findPayload]
    by_cases hk : k = "children"
    · subst hk
      rw [if_pos rfl, field_cons_self]
    · rw [if_neg hk, field_cons_of_ne hk, ih]

theorem findFallback_eq (es : List (String × Value)) :
    findFallback es =
      (readFallback (field es "fallback" (.list []))).mapError (·.within "fallback") := by
  induction es with
  | nil => rfl
  | cons e es ih =>
    obtain ⟨k, v⟩ := e
    rw [findFallback]
    by_cases hk : k = "fallback"
    · subst hk
      rw [if_pos rfl, field_cons_self]
    · rw [if_neg hk, field_cons_of_ne hk, ih]

/-- A node is read exactly if each of its fields is. -/
theorem ofValue_object_eq_ok {es : List (String × Value)} {n : Node Tree} :
    Tree.ofValue (.object es) = .ok (.mk n) ↔
      readTypeName es = .ok n.typeName ∧ readFlags es = .ok n.flags ∧ readTags es = .ok n.tags ∧
      findPayload es = .ok n.payload ∧ findFallback es = .ok n.fallback := by
  obtain ⟨typeName, flags, tags, payload, fallback⟩ := n
  rw [Tree.ofValue]
  simp only [bind_eq_ok, pure, Except.pure, Except.ok.injEq, Tree.mk.injEq, Node.mk.injEq]
  constructor
  · rintro ⟨_, h₁, _, h₂, _, h₃, _, h₄, _, h₅, rfl, rfl, rfl, rfl, rfl⟩
    exact ⟨h₁, h₂, h₃, h₄, h₅⟩
  · rintro ⟨h₁, h₂, h₃, h₄, h₅⟩
    exact ⟨_, h₁, _, h₂, _, h₃, _, h₄, _, h₅, rfl, rfl, rfl, rfl, rfl⟩

/-- Only objects are read as nodes. -/
theorem exists_entries_of_ofValue {v : Value} {t : Tree} (h : Tree.ofValue v = .ok t) :
    ∃ es, v = .object es := by
  cases v with
  | object es => exact ⟨es, rfl⟩
  | _ => cases h

/-! ## Lists and objects -/

/-- A piece of data and the tree that is read off it. -/
def Reads (v : Value) (t : Tree) : Prop := Tree.ofValue v = .ok t

/-- A list item and the member that it stands for. -/
inductive ReadsMember : Value → Member Tree → Prop where
  /-- A node. -/
  | node {v : Value} {t : Tree} (h : Reads v t) : ReadsMember v (.node t)
  /-- A scalar that stands for itself. -/
  | bare {v : Value} (hs : v.isScalar = true) : ReadsMember v (.bare v)

/-- An entry of an object and the property that it stands for. -/
def ReadsProperty (e : String × Value) (p : String × Tree) : Prop := e.1 = p.1 ∧ Reads e.2 p.2

theorem ofValue_of_isScalar {v : Value} (hs : v.isScalar = true) :
    Tree.ofValue v = .error (Complaint.here .notNode) := by
  cases v with
  | missing => cases hs
  | list vs => cases hs
  | tuple vs => cases hs
  | object es => cases hs
  | _ => rfl

theorem asMember_eq_some {v : Value} {m : Member Tree} :
    asMember v (Tree.ofValue v) = some m ↔ ReadsMember v m := by
  constructor
  · intro h
    cases hv : Tree.ofValue v with
    | ok t =>
      rw [hv] at h
      cases h
      exact .node hv
    | error c =>
      rw [hv, asMember] at h
      split at h
      · rename_i hs
        cases h
        exact .bare hs
      · cases h
  · intro h
    cases h with
    | node h => rw [show Tree.ofValue v = .ok _ from h]; rfl
    | bare hs => rw [ofValue_of_isScalar hs, asMember, if_pos hs]

/-- What the items of a list stand for, by one reader for all of them; complaints name the position,
    counted from `i`. -/
def readEach {α : Type} (read : Value → Except Complaint α) (i : Nat) :
    List Value → Except Complaint (List α)
  | [] => .ok []
  | v :: vs => do
    let a ← (read v).mapError (·.within (toString i))
    let as ← readEach read (i + 1) vs
    pure (a :: as)

theorem readEach_eq_ok {α : Type} {read : Value → Except Complaint α} {i : Nat} {vs : List Value}
    {as : List α} :
    readEach read i vs = .ok as ↔ List.Forall₂ (fun v a => read v = .ok a) vs as := by
  induction vs generalizing i as with
  | nil => simp [readEach, eq_comm]
  | cons v vs ih =>
    rw [readEach, List.forall₂_cons_left_iff]
    simp only [bind_eq_ok, mapError_eq_ok, ih, pure, Except.pure, Except.ok.injEq]
    constructor
    · rintro ⟨a, ha, as, has, rfl⟩
      exact ⟨a, as, ha, has, rfl⟩
    · rintro ⟨a, as, ha, has, rfl⟩
      exact ⟨a, ha, as, has, rfl⟩

theorem readTrees_eq (i : Nat) (vs : List Value) :
    readTrees i vs = readEach Tree.ofValue i vs := by
  induction vs generalizing i with
  | nil => rfl
  | cons v vs ih => rw [readTrees, readEach, ih]

theorem readTagItems_eq (i : Nat) (vs : List Value) :
    readTagItems i vs = readEach Tag.ofValue i vs := by
  induction vs generalizing i with
  | nil => rfl
  | cons v vs ih => rw [readTagItems, readEach, ih]

theorem readTrees_eq_ok {i : Nat} {vs : List Value} {ts : List Tree} :
    readTrees i vs = .ok ts ↔ List.Forall₂ Reads vs ts := by
  rw [readTrees_eq]
  exact readEach_eq_ok

theorem readMembers_eq_some {vs : List Value} {ms : List (Member Tree)} :
    readMembers vs = some ms ↔ List.Forall₂ ReadsMember vs ms := by
  induction vs generalizing ms with
  | nil => simp [readMembers, eq_comm]
  | cons v vs ih =>
    rw [readMembers, List.forall₂_cons_left_iff]
    simp only [Option.bind_eq_bind, Option.bind_eq_some_iff, asMember_eq_some, ih, pure,
      Option.some.injEq]
    constructor
    · rintro ⟨m, hm, ms, hms, rfl⟩
      exact ⟨m, ms, hm, hms, rfl⟩
    · rintro ⟨m, ms, hm, hms, rfl⟩
      exact ⟨m, hm, ms, hms, rfl⟩

theorem readProperties_eq_ok {es : List (String × Value)} {ps : List (String × Tree)} :
    readProperties es = .ok ps ↔ List.Forall₂ ReadsProperty es ps := by
  induction es generalizing ps with
  | nil => simp [readProperties, eq_comm]
  | cons e es ih =>
    obtain ⟨k, v⟩ := e
    rw [readProperties, List.forall₂_cons_left_iff]
    simp only [bind_eq_ok, mapError_eq_ok, ih, pure, Except.pure, Except.ok.injEq]
    constructor
    · rintro ⟨t, ht, ps, hps, rfl⟩
      exact ⟨(k, t), ps, ⟨rfl, ht⟩, hps, rfl⟩
    · rintro ⟨⟨_, t⟩, ps, ⟨rfl, ht⟩, hps, rfl⟩
      exact ⟨t, ht, ps, hps, rfl⟩

/-! ## Tags, payloads and fallbacks -/

theorem readTags_eq_ok {es : List (String × Value)} {ts : List Tag} :
    readTags es = .ok ts ↔ ∃ vs, (field es "tags" (.list [])).items? = some vs ∧
      List.Forall₂ (fun v t => Tag.ofValue v = .ok t) vs ts := by
  rw [readTags_eq]
  cases (field es "tags" (.list [])).items? with
  | none => simp
  | some vs => simp [mapError_eq_ok, readTagItems_eq, readEach_eq_ok]

/-- A piece of data and the payload that it stands for. -/
inductive ReadsPayload : Value → Payload Tree → Prop where
  /-- A scalar stands for itself. -/
  | single {v : Value} (hs : v.isScalar = true) : ReadsPayload v (.single v)
  /-- A list. -/
  | members {v : Value} {vs : List Value} {ms : List (Member Tree)} (hv : v.items? = some vs)
      (h : List.Forall₂ ReadsMember vs ms) : ReadsPayload v (.members ms)
  /-- An object. -/
  | properties {es : List (String × Value)} {ps : List (String × Tree)}
      (h : List.Forall₂ ReadsProperty es ps) : ReadsPayload (.object es) (.properties ps)

theorem readPayload_of_items {v : Value} {vs : List Value} (hv : v.items? = some vs) :
    readPayload v =
      match readMembers vs with
      | some ms => .ok (.members ms)
      | none => .error notAPayload := by
  cases v with
  | list xs =>
    cases hv
    cases hms : readMembers vs <;> simp only [readPayload, hms]
  | tuple xs =>
    cases hv
    cases hms : readMembers vs <;> simp only [readPayload, hms]
  | _ => cases hv

theorem readPayload_of_isScalar {v : Value} (hs : v.isScalar = true) :
    readPayload v = .ok (.single v) := by
  cases v with
  | missing => cases hs
  | list vs => cases hs
  | tuple vs => cases hs
  | object es => cases hs
  | _ => rfl

theorem readPayload_eq_ok {v : Value} {pl : Payload Tree} :
    readPayload v = .ok pl ↔ ReadsPayload v pl := by
  have hitems : ∀ vs, v.items? = some vs → readPayload v = .ok pl → ReadsPayload v pl := by
    intro vs hv h
    rw [readPayload_of_items hv] at h
    cases hms : readMembers vs with
    | none =>
      rw [hms] at h
      cases h
    | some ms =>
      rw [hms] at h
      cases h
      exact .members hv (readMembers_eq_some.1 hms)
  constructor
  · intro h
    cases v with
    | missing => cases h
    | list vs => exact hitems vs rfl h
    | tuple vs => exact hitems vs rfl h
    | object es =>
      simp only [readPayload, bind_eq_ok, mapError_eq_ok, readProperties_eq_ok, pure,
        Except.pure, Except.ok.injEq] at h
      obtain ⟨ps, hps, rfl⟩ := h
      exact .properties hps
    | _ =>
      cases h
      exact .single rfl
  · intro h
    cases h with
    | single hs => exact readPayload_of_isScalar hs
    | members hv h => rw [readPayload_of_items hv, readMembers_eq_some.2 h]
    | properties h =>
      simp only [readPayload, readProperties_eq_ok.2 h]
      rfl

theorem readFallback_eq_ok {v : Value} {ts : List Tree} :
    readFallback v = .ok ts ↔ ∃ vs, v.items? = some vs ∧ List.Forall₂ Reads vs ts := by
  cases v with
  | list vs => simp [readFallback, readTrees_eq_ok, Value.items?]
  | tuple vs => simp [readFallback, readTrees_eq_ok, Value.items?]
  | _ => simp [readFallback, Value.items?]

theorem findPayload_eq_ok {es : List (String × Value)} {pl : Payload Tree} :
    findPayload es = .ok pl ↔ ReadsPayload (field es "children" .null) pl := by
  rw [findPayload_eq, mapError_eq_ok, readPayload_eq_ok]

theorem findFallback_eq_ok {es : List (String × Value)} {ts : List Tree} :
    findFallback es = .ok ts ↔ ∃ vs, (field es "fallback" (.list [])).items? = some vs ∧
      List.Forall₂ Reads vs ts := by
  rw [findFallback_eq, mapError_eq_ok, readFallback_eq_ok]

end Conform.Schema
