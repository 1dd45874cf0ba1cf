import Conform.Proofs.Related
import Conform.Proofs.Schema.Subtree

/-!
# Schemas that differ

Two nodes of one shape are compared part by part: they have the same name, flags and tags, and their
payloads and fallbacks are related position by position (`Node.Rel`). Trees that differ at one place
are compared along the way down to it: every node on the way has one shape in both, and at its end a
node is changed (`Tree.Somewhere`). So a fact about changed trees follows from what a change of the
root does and from what it means for a node that the nodes it refers to are related.
-/

namespace Conform.Schema

variable {ι κ : Type}

/-! ## Kinds -/

namespace Node

variable {n : Node ι} {n' : Node κ}

/-- The kind depends on the flags and on what payload and fallbacks there are at all. -/
theorem kind_congr (hflags : n'.flags = n.flags)
    (hfallback : n'.fallback.isEmpty = n.fallback.isEmpty)
    (halternatives : n'.payload.alternatives.isEmpty = n.payload.alternatives.isEmpty)
    (hproperties : n'.payload.isProperties = n.payload.isProperties) : n'.kind = n.kind := by
  unfold kind
  rw [hflags, hfallback, halternatives, hproperties]

theorem flag_of_kind (h : n.kind = .literal) : n.flags.literal = true := by
  by_contra hl
  unfold kind at h
  rw [if_neg hl] at h
  split_ifs at h

theorem optional_of_kind (h : n.kind = .optional) : n.flags.optional = true := by
  by_contra ho
  unfold kind at h
  rw [if_neg (by simp [ho])] at h
  split_ifs at h

/-- A node flagged as a literal is one, unless it has a fallback. -/
theorem kind_of_flag (h : n.flags.literal = true) : n.kind = .optional ∨ n.kind = .literal := by
  unfold kind
  rw [if_pos h]
  split
  · exact Or.inl rfl
  · exact Or.inr rfl

theorem flag_eq_false (ho : n.kind ≠ .optional) (hl : n.kind ≠ .literal) :
    n.flags.literal = false := by
  by_contra h
  rcases kind_of_flag (by simpa using h) with hk | hk
  · exact ho hk
  · exact hl hk

/-- The payload of an object node is a list of properties. -/
theorem payload_of_kind (h : n.kind = .object) : n.payload = .properties n.properties := by
  have hproperties : n.payload.isProperties = true := by
    by_contra hp
    unfold kind at h
    rw [if_neg hp] at h
    split_ifs at h
  unfold properties
  cases hp : n.payload with
  | properties ps => rfl
  | _ =>
    rw [hp] at hproperties
    cases hproperties

theorem payload_of_alternatives (h : n.alternatives ≠ []) : n.payload = .members n.alternatives := by
  unfold alternatives at h ⊢
  cases hp : n.payload with
  | members ms => rfl
  | _ =>
    rw [hp] at h
    exact absurd rfl h

end Node

/-! ## Nodes of one shape -/

/-- Two members: nodes that are related, or the same value. -/
inductive Member.Rel (T : ι → κ → Prop) : Member ι → Member κ → Prop where
  /-- Nodes that are related. -/
  | node {s : ι} {s' : κ} (h : T s s') : Rel T (.node s) (.node s')
  /-- The same value. -/
  | bare (v : Value) : Rel T (.bare v) (.bare v)

theorem Member.Rel.imp {T T' : ι → κ → Prop} (hT : ∀ s s', T s s' → T' s s') {m : Member ι}
    {m' : Member κ} (h : Member.Rel T m m') : Member.Rel T' m m' := by
  cases h with
  | node h => exact .node (hT _ _ h)
  | bare v => exact .bare v

/-- Two properties: the same key, and nodes that are related. -/
inductive Property.Rel (T : ι → κ → Prop) : String × ι → String × κ → Prop where
  /-- The key with each of the nodes. -/
  | mk {k : String} {s : ι} {s' : κ} (h : T s s') : Rel T (k, s) (k, s')

/-- Two payloads of one form, related position by position. -/
inductive Payload.Rel (M : Member ι → Member κ → Prop) (T : ι → κ → Prop) :
    Payload ι → Payload κ → Prop where
  /-- The same value. -/
  | single (v : Value) : Rel M T (.single v) (.single v)
  /-- Members that are related. -/
  | members {ms : List (Member ι)} {ms' : List (Member κ)} (h : List.Forall₂ M ms ms') :
      Rel M T (.members ms) (.members ms')
  /-- The same keys in the same order, for nodes that are related. -/
  | properties {ps : List (String × ι)} {ps' : List (String × κ)}
      (h : List.Forall₂ (Property.Rel T) ps ps') : Rel M T (.properties ps) (.properties ps')

/-- Two nodes of one shape: the members of their payloads are related by `M`, the nodes that they
    refer to by `T`, and everything else is the same. -/
inductive Node.Rel (M : Member ι → Member κ → Prop) (T : ι → κ → Prop) :
    Node ι → Node κ → Prop where
  /-- The nodes with their payloads and fallbacks. -/
  | mk {typeName : String} {flags : Flags} {tags : List Tag} {pl : Payload ι} {pl' : Payload κ}
      {fallback : List ι} {fallback' : List κ} (hp : Payload.Rel M T pl pl')
      (hf : List.Forall₂ T fallback fallback') :
      Rel M T ⟨typeName, flags, tags, pl, fallback⟩ ⟨typeName, flags, tags, pl', fallback'⟩

/-- Two nodes that differ in the nodes they refer to at most. -/
abbrev Node.Pointwise (T : ι → κ → Prop) : Node ι → Node κ → Prop := Node.Rel (Member.Rel T) T

section Lists

variable {M : Member ι → Member κ → Prop} {T : ι → κ → Prop}

theorem keys_eq_of_forall₂ {ps : List (String × ι)} {ps' : List (String × κ)}
    (h : List.Forall₂ (Property.Rel T) ps ps') : ps'.map Prod.fst = ps.map Prod.fst := by
  induction h with
  | nil => rfl
  | cons hp _ ih =>
    cases hp
    rw [List.map_cons, List.map_cons, ih]

/-- Under each key both lists have a node, and the two are related, or neither has one. -/
theorem rel_lookup_of_forall₂ {ps : List (String × ι)} {ps' : List (String × κ)}
    (h : List.Forall₂ (Property.Rel T) ps ps') (k : String) :
    Option.Rel T (ps.lookup k) (ps'.lookup k) := by
  induction h with
  | nil => exact .none
  | @cons e e' _ _ hp _ ih =>
    obtain ⟨hs⟩ := hp
    rw [List.lookup_cons, List.lookup_cons]
    split
    · exact .some hs
    · exact ih

theorem rel_head?_of_forall₂ {ts : List ι} {ts' : List κ} (h : List.Forall₂ T ts ts') :
    Option.Rel T ts.head? ts'.head? := by
  cases h with
  | nil => exact .none
  | cons hs _ => exact .some hs

/-- Lists of members that differ in nodes at most stand for the same values. -/
theorem bareValues?_eq_of_forall₂ {ms : List (Member ι)} {ms' : List (Member κ)}
    (h : List.Forall₂ (Member.Rel T) ms ms') :
    Payload.bareValues? ms' = Payload.bareValues? ms := by
  induction h with
  | nil => rfl
  | cons hm _ ih =>
    cases hm with
    | node _ => rfl
    | bare v => rw [Payload.bareValues?, Payload.bareValues?, ih]

end Lists

namespace Payload.Rel

variable {M : Member ι → Member κ → Prop} {T : ι → κ → Prop} {pl : Payload ι} {pl' : Payload κ}

theorem alternatives (h : Payload.Rel M T pl pl') :
    List.Forall₂ M pl.alternatives pl'.alternatives := by
  cases h with
  | single v => exact .nil
  | members hm => exact hm
  | properties hp => exact .nil

theorem propertyList (h : Payload.Rel M T pl pl') :
    List.Forall₂ (Property.Rel T) pl.propertyList pl'.propertyList := by
  cases h with
  | single v => exact .nil
  | members hm => exact .nil
  | properties hp => exact hp

theorem isEmpty_eq (h : Payload.Rel M T pl pl') :
    pl'.alternatives.isEmpty = pl.alternatives.isEmpty :=
  isEmpty_eq_of_forall₂ h.alternatives

theorem isProperties_eq (h : Payload.Rel M T pl pl') : pl'.isProperties = pl.isProperties := by
  cases h <;> rfl

/-- Payloads that differ in nodes at most are payloads for the same literal. -/
theorem value?_eq (h : Payload.Rel (Member.Rel T) T pl pl') : pl'.value? = pl.value? := by
  cases h with
  | single v => rfl
  | members hm => exact congrArg (Option.map Value.list) (bareValues?_eq_of_forall₂ hm)
  | properties hp => cases hp <;> rfl

end Payload.Rel

namespace Node.Rel

variable {M : Member ι → Member κ → Prop} {T : ι → κ → Prop} {n : Node ι} {n' : Node κ}

section

variable (h : Node.Rel M T n n')

include h

theorem typeName_eq : n'.typeName = n.typeName := by
  cases h
  rfl

theorem flags_eq : n'.flags = n.flags := by
  cases h
  rfl

theorem tags_eq : n'.tags = n.tags := by
  cases h
  rfl

theorem fallback : List.Forall₂ T n.fallback n'.fallback := by
  obtain ⟨hp, hf⟩ := h
  exact hf

theorem payload : Payload.Rel M T n.payload n'.payload := by
  obtain ⟨hp, hf⟩ := h
  exact hp

theorem alternatives : List.Forall₂ M n.alternatives n'.alternatives := h.payload.alternatives

theorem properties : List.Forall₂ (Property.Rel T) n.properties n'.properties :=
  h.payload.propertyList

/-- Nodes of one shape are of one kind. -/
theorem kind_eq : n'.kind = n.kind :=
  kind_congr h.flags_eq (isEmpty_eq_of_forall₂ h.fallback) h.payload.isEmpty_eq
    h.payload.isProperties_eq

end

/-- Nodes that differ in the nodes they refer to at most have payloads for the same literal. -/
theorem value?_eq (h : n.Pointwise T n') : n'.payload.value? = n.payload.value? :=
  h.payload.value?_eq

/-- The nodes that the two refer to are related position by position. -/
theorem references (h : n.Pointwise T n') : List.Forall₂ T n.references n'.references := by
  obtain ⟨hp, hf⟩ := h
  refine List.rel_append ?_ hf
  cases hp with
  | single v => exact .nil
  | members hm =>
    refine List.rel_filterMap ?_ hm
    rintro _ _ (⟨hs⟩ | ⟨v⟩)
    · exact .some hs
    · exact .none
  | properties hp =>
    refine List.rel_map ?_ hp
    rintro _ _ ⟨hs⟩
    exact hs

theorem refl {T : ι → ι → Prop} (n : Node ι) (hT : ∀ s ∈ n.references, T s s) :
    n.Pointwise T n := by
  obtain ⟨typeName, flags, tags, pl, fallback⟩ := n
  have hpayload : ∀ s ∈ pl.references, T s s := fun s hs => hT s (List.mem_append_left _ hs)
  refine ⟨?_, List.forall₂_same.2 fun s hs => hT s (List.mem_append_right _ hs)⟩
  cases pl with
  | single v => exact .single v
  | members ms =>
    refine .members (List.forall₂_same.2 fun m hm => ?_)
    cases m with
    | node s => exact .node (hpayload s (List.mem_filterMap.2 ⟨_, hm, rfl⟩))
    | bare v => exact .bare v
  | properties ps =>
    exact .properties (List.forall₂_same.2 fun e he => ⟨hpayload e.2 (List.mem_map_of_mem he)⟩)

/-- The parts that are related may be related in another way. -/
theorem imp {M' : Member ι → Member κ → Prop} {T' : ι → κ → Prop} (h : Node.Rel M T n n')
    (hM : ∀ m m', M m m' → M' m m') (hT : ∀ s s', T s s' → T' s s') : Node.Rel M' T' n n' := by
  obtain ⟨hp, hf⟩ := h
  refine ⟨?_, hf.imp hT⟩
  cases hp with
  | single v => exact .single v
  | members hm => exact .members (hm.imp hM)
  | properties hp =>
    refine .properties (hp.imp fun e e' he => ?_)
    obtain ⟨hs⟩ := he
    exact ⟨hT _ _ hs⟩

theorem mono {U : ι → κ → Prop} (h : n.Pointwise T n') (hTU : ∀ s s', T s s' → U s s') :
    n.Pointwise U n' :=
  h.imp (fun _ _ => Member.Rel.imp hTU) hTU

theorem flip (h : n.Pointwise T n') : n'.Pointwise (Function.swap T) n := by
  obtain ⟨hp, hf⟩ := h
  refine ⟨?_, hf.flip⟩
  cases hp with
  | single v => exact .single v
  | members hm =>
    refine .members (forall₂_swap hm fun m m' hm => ?_)
    cases hm with
    | node hs => exact .node hs
    | bare v => exact .bare v
  | properties hp =>
    refine .properties (forall₂_swap hp fun e e' he => ?_)
    obtain ⟨hs⟩ := he
    exact ⟨hs⟩

end Node.Rel

/-! ## Trees that differ at one place -/

namespace Tree

/-- A tree and itself, or the trees `s` and `s'`. -/
inductive Swap (s s' : Tree) : Tree → Tree → Prop where
  /-- A tree and itself. -/
  | kept (t : Tree) : Swap s s' t t
  /-- The trees that are swapped. -/
  | swapped : Swap s s' s s'

theorem Swap.symm {s s' t t' : Tree} (h : Swap s s' t t') : Swap s' s t' t := by
  cases h with
  | kept => exact .kept t
  | swapped => exact .swapped

/-- A tree and the tree after a change of nodes at one place, at the root or anywhere below it. -/
inductive Somewhere (R : Node Tree → Node Tree → Prop) : Tree → Tree → Prop where
  /-- The root is changed. -/
  | root {n n' : Node Tree} (h : R n n') : Somewhere R (.mk n) (.mk n')
  /-- A tree that the root refers to is changed at one place. -/
  | child {n n' : Node Tree} {s s' : Tree} (h : Somewhere R s s') (hn : n.Pointwise (Swap s s') n') :
      Somewhere R (.mk n) (.mk n')

namespace Somewhere

variable {R : Node Tree → Node Tree → Prop} {t t' : Tree}

theorem symm (hR : ∀ n n', R n n' → R n' n) (h : Somewhere R t t') : Somewhere R t' t := by
  induction h with
  | root h => exact .root (hR _ _ h)
  | child h hn ih => exact .child ih (hn.flip.mono fun _ _ hs => hs.symm)

/-- What holds of every node of a tree holds of every node of the changed tree, if the change keeps it
    and brings in no new trees, and if it does not depend on the trees that a node refers to. -/
theorem forall_reaches {P : Node Tree → Prop} (hchange : ∀ n n', R n n' → P n → P n')
    (hreferences : ∀ n n', R n n' → n'.references ⊆ n.references)
    (hpointwise : ∀ s s' n n', n.Pointwise (Swap s s') n' → P n → P n') (h : Somewhere R t t')
    (ht : ∀ s, t.Reaches s → P s.node) : ∀ s, t'.Reaches s → P s.node := by
  induction h with
  | root h =>
    obtain ⟨hroot, hbelow⟩ := Tree.forall_reaches.1 ht
    exact Tree.forall_reaches.2 ⟨hchange _ _ h hroot, fun c hc => hbelow c (hreferences _ _ h hc)⟩
  | child h hn ih =>
    obtain ⟨hroot, hbelow⟩ := Tree.forall_reaches.1 ht
    refine Tree.forall_reaches.2 ⟨hpointwise _ _ _ _ hn hroot, fun c hc => ?_⟩
    obtain ⟨b, hb, hbc⟩ := exists_left_of_forall₂ hn.references hc
    cases hbc with
    | kept => exact hbelow c hb
    | swapped => exact ih (hbelow _ hb)

/-- A change that brings in no new trees makes no tree higher. -/
theorem height_le (hreferences : ∀ n n', R n n' → n'.references ⊆ n.references)
    (h : Somewhere R t t') : t'.height ≤ t.height := by
  induction h with
  | root h =>
    exact height_le_of_references fun c hc => ⟨c, hreferences _ _ h hc, Nat.le_refl _⟩
  | child h hn ih =>
    refine height_le_of_references fun c hc => ?_
    obtain ⟨b, hb, hbc⟩ := exists_left_of_forall₂ hn.references hc
    refine ⟨b, hb, ?_⟩
    cases hbc with
    | kept => exact Nat.le_refl _
    | swapped => exact ih

end Somewhere

end Tree

end Conform.Schema
