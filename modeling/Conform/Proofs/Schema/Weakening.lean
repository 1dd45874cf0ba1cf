import Conform.Proofs.Schema.Change
import Conform.Proofs.Schema.Meaning

/-!
# Schemas that demand less

A tree demands no more than another if it accepts what that one accepts, stands for the literal that
that one stands for, and may be absent where that one may (`Tree.Weaker`). All three are needed for
such a tree to take the place of the other in any node. What a node demands is governed by its kind,
so a node demands no more than another of its kind if it offers more choices, asks for fewer things
at once, and refers to trees that demand no more (`Node.Eases`).
-/

namespace Conform.Schema

variable {r : Registry}

/-! ## Trees that demand no more -/

/-- The second tree demands no more of a value than the first. -/
structure Tree.Weaker (r : Registry) (t t' : Tree) : Prop where
  /-- It accepts what the first accepts. -/
  accepts : ∀ v, Accepts Tree.node r t v → Accepts Tree.node r t' v
  /-- If the first is flagged as a literal, so is the second, for the same values. -/
  literal : ∀ v, t.node.flags.literal = true → t.node.payload.Equals v →
    t'.node.flags.literal = true ∧ t'.node.payload.Equals v
  /-- It is optional if the first is. -/
  optional : t.node.flags.optional = true → t'.node.flags.optional = true

theorem Tree.Weaker.refl (t : Tree) : Tree.Weaker r t t :=
  ⟨fun _ h => h, fun _ hl h => ⟨hl, h⟩, fun h => h⟩

theorem Tree.Weaker.trans {s t u : Tree} (h : Tree.Weaker r s t) (h' : Tree.Weaker r t u) :
    Tree.Weaker r s u where
  accepts v hv := h'.accepts v (h.accepts v hv)
  literal v hl hv := by
    obtain ⟨hl', hv'⟩ := h.literal v hl hv
    exact h'.literal v hl' hv'
  optional ho := h'.optional (h.optional ho)

theorem Member.Rel.refl (m : Member Tree) : Member.Rel (Tree.Weaker r) m m := by
  cases m with
  | node s => exact .node (.refl s)
  | bare v => exact .bare v

/-! ## Members that demand no more -/

section Members

variable {ms ms' : List (Member Tree)} {v : Value}

theorem Meets.weaken {m m' : Member Tree} (hm : Member.Rel (Tree.Weaker r) m m')
    (h : Meets Tree.node r m v) : Meets Tree.node r m' v := by
  cases hm with
  | node hs => exact meets_node.2 (hs.accepts v (meets_node.1 h))
  | bare e => exact h

/-- Alternatives that include one no stricter for each of the others. -/
theorem MeetsSome.weaken (hms : ∀ m ∈ ms, ∃ m' ∈ ms', Member.Rel (Tree.Weaker r) m m')
    (h : MeetsSome Tree.node r ms v) : MeetsSome Tree.node r ms' v := by
  cases h with
  | bare hm he =>
    obtain ⟨_, hm', hrel⟩ := hms _ hm
    obtain ⟨⟩ | ⟨_⟩ := hrel
    exact .bare hm' he
  | literal hm hl he =>
    obtain ⟨_, hm', hrel⟩ := hms _ hm
    obtain ⟨hs⟩ | ⟨_⟩ := hrel
    obtain ⟨hl', he'⟩ := hs.literal v hl he
    exact .literal hm' hl' he'
  | node hm ha =>
    obtain ⟨_, hm', hrel⟩ := hms _ hm
    obtain ⟨hs⟩ | ⟨_⟩ := hrel
    exact .node hm' (hs.accepts v ha)

/-- What a member accepts is accepted by alternatives that include it or one no stricter. -/
theorem Meets.some {m m' : Member Tree} (hm' : m' ∈ ms') (hm : Member.Rel (Tree.Weaker r) m m')
    (h : Meets Tree.node r m v) : MeetsSome Tree.node r ms' v := by
  cases hm with
  | node hs => exact .node hm' (hs.accepts v (meets_node.1 h))
  | bare e => exact .bare hm' (meets_bare.1 h)

/-- Descriptions of items: there are none only where there were none, and at least as many as there
    were, including one no stricter for each of those. -/
theorem Describes.weaken (hms : ∀ m ∈ ms, ∃ m' ∈ ms', Member.Rel (Tree.Weaker r) m m')
    (hnone : ms = [] → ms' = []) (hlen : ms.length ≤ ms'.length) (h : Describes Tree.node r ms v) :
    Describes Tree.node r ms' v := by
  cases h with
  | anything =>
    rw [hnone rfl]
    exact .anything
  | @only m _ h =>
    obtain ⟨m', hm', hrel⟩ := hms m List.mem_cons_self
    match ms' with
    | [] => cases hm'
    | [_] =>
      obtain rfl := List.mem_singleton.1 hm'
      exact .only (h.weaken hrel)
    | _ :: _ :: _ => exact .some (by simp) (h.some hm' hrel)
  | some hl h => exact .some (Nat.le_trans hl hlen) (h.weaken hms)

end Members

/-! ## Nodes that demand no more -/

/-- The second node demands no more than the first, if trees related by `T` demand no more. -/
structure Node.Eases (T : Tree → Tree → Prop) (n n' : Node Tree) : Prop where
  /-- The kind is the same. -/
  kind : n'.kind = n.kind
  /-- What was optional is optional. -/
  optional : n.flags.optional = true → n'.flags.optional = true
  /-- What was flagged as a literal stands for the same value. -/
  literal : n.flags.literal = true → n'.flags.literal = true ∧ n'.payload.value? = n.payload.value?
  /-- The type has the same name. -/
  typeName : n'.typeName = n.typeName
  /-- There are no new tags. -/
  tags : n'.tags ⊆ n.tags
  /-- What was fallen back on is fallen back on. -/
  fallback : Option.Rel T n.fallback.head? n'.fallback.head?
  /-- No alternative of a union or an array is lost. -/
  choices : n.kind = .union ∨ n.kind = .array →
    ∀ m ∈ n.alternatives, ∃ m' ∈ n'.alternatives, Member.Rel T m m'
  /-- An array has as many descriptions, and descriptions only if it had some. -/
  descriptions : n.kind = .array →
    (n.alternatives = [] → n'.alternatives = []) ∧ n.alternatives.length ≤ n'.alternatives.length
  /-- There are no new demands in an intersection. -/
  demands : n.kind = .intersection →
    ∀ m' ∈ n'.alternatives, ∃ m ∈ n.alternatives, Member.Rel T m m'
  /-- There are no new properties. -/
  properties : n.kind = .object → ∀ k s', n'.properties.lookup k = some s' →
    ∃ s, n.properties.lookup k = some s ∧ T s s'
  /-- There are no new keys that are required. -/
  required : n.kind = .object → ∀ e' ∈ n'.properties, ∃ e ∈ n.properties, Property.Rel T e e'

namespace Node

variable {n n' : Node Tree}

theorem requiredKeys_subset
    (h : ∀ e' ∈ n'.properties, ∃ e ∈ n.properties, Property.Rel (Tree.Weaker r) e e') :
    requiredKeys Tree.node n' ⊆ requiredKeys Tree.node n := by
  intro k hk
  obtain ⟨e', he', rfl⟩ := List.mem_map.1 hk
  obtain ⟨hmem, hstrict⟩ := List.mem_filter.1 he'
  obtain ⟨e, he, hrel⟩ := h e' hmem
  obtain ⟨hs⟩ := hrel
  refine List.mem_map.2 ⟨_, List.mem_filter.2 ⟨he, ?_⟩, rfl⟩
  by_contra ho
  have hweak := hs.optional (by simpa using ho)
  simp [hweak] at hstrict

/-- A node that demands no more is the root of a tree that demands no more. -/
theorem Eases.weaker (h : n.Eases (Tree.Weaker r) n') : Tree.Weaker r (.mk n) (.mk n') := by
  have hequals : ∀ v, n.flags.literal = true → n.payload.Equals v → n'.payload.Equals v := by
    rintro v hl ⟨e, he, heq⟩
    exact ⟨e, (h.literal hl).2.trans he, heq⟩
  refine ⟨fun v hv => ?_, fun v hl hv => ⟨(h.literal hl).1, hequals v hl hv⟩, h.optional⟩
  rw [accepts_iff] at hv ⊢
  refine hv.imp (fun habsent => ⟨h.optional habsent.1, habsent.2⟩) fun hv => ?_
  -- both nodes are of one kind, which says what is asked for
  have hkind := h.kind
  simp only [Tree.node] at hv ⊢
  rw [hkind]
  cases hk : n.kind with
  | optional =>
    rw [hk] at hv
    obtain ⟨s, hs, ha⟩ := hv
    obtain ⟨hnone, -⟩ | ⟨t, s', ht, hs', hrel⟩ := rel_cases h.fallback
    · rw [hs] at hnone
      cases hnone
    · rw [hs] at ht
      cases ht
      exact ⟨s', hs', hrel.accepts v ha⟩
  | literal =>
    rw [hk] at hv
    exact hequals v (flag_of_kind hk) hv
  | primitive =>
    rw [hk] at hv
    intro p hp
    rw [h.typeName] at hp
    obtain ⟨hadmits, htags⟩ := hv p hp
    exact ⟨hadmits, fun t ht => htags t (h.tags ht)⟩
  | array =>
    rw [hk] at hv
    obtain ⟨xs, hx, hitems⟩ := hv
    obtain ⟨hnone, hlen⟩ := h.descriptions hk
    exact ⟨xs, hx, fun x hxs => (hitems x hxs).weaken (h.choices (Or.inr hk)) hnone hlen⟩
  | intersection =>
    rw [hk] at hv
    intro m' hm'
    obtain ⟨m, hm, hrel⟩ := h.demands hk m' hm'
    exact (hv m hm).weaken hrel
  | union =>
    rw [hk] at hv
    exact MeetsSome.weaken (h.choices (Or.inl hk)) hv
  | object =>
    rw [hk] at hv
    obtain ⟨es, he, hkeys, hentries⟩ := hv
    refine ⟨es, he, fun k hmem => hkeys k (requiredKeys_subset (h.required hk) hmem), ?_⟩
    intro k x s' hx hs'
    obtain ⟨s, hs, hrel⟩ := h.properties hk k s' hs'
    exact hrel.accepts x (hentries k x s hx hs)
  | opaqueKind => trivial

/-- A node that demands the same but refers to trees that demand no more. -/
theorem Rel.eases (h : n.Pointwise (Tree.Weaker r) n') : n.Eases (Tree.Weaker r) n' where
  kind := h.kind_eq
  optional ho := by rwa [h.flags_eq]
  literal hl := ⟨by rwa [h.flags_eq], h.value?_eq⟩
  typeName := h.typeName_eq
  tags := by rw [h.tags_eq]; exact List.Subset.refl _
  fallback := rel_head?_of_forall₂ h.fallback
  choices _ _ hm := exists_right_of_forall₂ h.alternatives hm
  descriptions _ := by
    have hlen := h.alternatives.length_eq
    refine ⟨fun hnil => ?_, Nat.le_of_eq hlen⟩
    rw [hnil] at hlen
    exact List.eq_nil_of_length_eq_zero hlen.symm
  demands _ _ hm' := exists_left_of_forall₂ h.alternatives hm'
  properties _ k s' hs' := by
    obtain ⟨-, hnone⟩ | ⟨s, t, hs, ht, hrel⟩ := rel_cases (rel_lookup_of_forall₂ h.properties k)
    · rw [hs'] at hnone
      cases hnone
    · rw [hs'] at ht
      cases ht
      exact ⟨s, hs, hrel⟩
  required _ _ he' := exists_left_of_forall₂ h.properties he'

theorem Eases.refl (n : Node Tree) : n.Eases (Tree.Weaker r) n :=
  (Rel.refl n fun s _ => Tree.Weaker.refl s).eases

/-- A node with another list of members. The new list has the alternatives of the old, or is without
    new demands, as the kind requires. -/
theorem eases_of_members {ms ms' : List (Member Tree)} (hp : n.payload = .members ms)
    (hliteral : n.flags.literal = false) (hnil : ms' = [] ↔ ms = [])
    (hchoices : n.kind = .union ∨ n.kind = .array → ms ⊆ ms')
    (hlen : n.kind = .array → ms.length ≤ ms'.length)
    (hdemands : n.kind = .intersection → ms' ⊆ ms) :
    n.Eases (Tree.Weaker r) { n with payload := .members ms' } := by
  have hself : n.Eases (Tree.Weaker r) n := .refl n
  have hms : n.alternatives = ms := by rw [alternatives, hp]; rfl
  have hps : n.properties = [] := by rw [properties, hp]; rfl
  refine { hself with
    kind := kind_congr rfl rfl ?_ (by rw [hp]; rfl)
    literal := fun hl => absurd hl (by simp [hliteral])
    choices := fun hk m hm => ⟨m, hchoices hk (hms ▸ hm), .refl m⟩
    descriptions := fun hk => ?_
    demands := fun hk m hm => ⟨m, hms ▸ hdemands hk hm, .refl m⟩
    properties := fun _ _ _ h => by cases h
    required := fun _ _ h => by cases h }
  · rw [hp]
    exact Bool.eq_iff_iff.2 (by simp only [Payload.alternatives, List.isEmpty_iff, hnil])
  · rw [hms]
    exact ⟨hnil.2, hlen hk⟩

/-- A node with another list of properties, under whose keys there are no other nodes. -/
theorem eases_of_properties {ps ps' : List (String × Tree)} (hp : n.payload = .properties ps)
    (hliteral : n.flags.literal = true →
      (Payload.properties ps').value? = (Payload.properties ps).value?)
    (hsub : ps' ⊆ ps) (hlookup : ∀ k s, ps'.lookup k = some s → ps.lookup k = some s) :
    n.Eases (Tree.Weaker r) { n with payload := .properties ps' } := by
  have hself : n.Eases (Tree.Weaker r) n := .refl n
  have hms : n.alternatives = [] := by rw [alternatives, hp]; rfl
  have hps : n.properties = ps := by rw [properties, hp]; rfl
  exact { hself with
    kind := kind_congr rfl rfl (by rw [hp]; rfl) (by rw [hp]; rfl)
    literal := fun hl => ⟨hl, by rw [hp]; exact hliteral hl⟩
    choices := fun _ m hm => by rw [hms] at hm; cases hm
    descriptions := fun _ => by rw [hms]; exact ⟨fun _ => rfl, Nat.le_refl _⟩
    demands := fun _ _ h => by cases h
    properties := fun _ k s h => ⟨s, by rw [hps]; exact hlookup k s h, .refl s⟩
    required := fun _ e he => ⟨e, by rw [hps]; exact hsub he, ⟨.refl e.2⟩⟩ }

end Node

/-! ## Changes that ease -/

/-- A change that eases a node makes every tree that it is made in demand no more. -/
theorem Tree.Somewhere.weaker {R : Node Tree → Node Tree → Prop}
    (hR : ∀ n n', R n n' → n.Eases (Tree.Weaker r) n') {t t' : Tree} (h : Tree.Somewhere R t t') :
    Tree.Weaker r t t' := by
  induction h with
  | root h => exact (hR _ _ h).weaker
  | child h hn ih =>
    refine (Node.Rel.eases (hn.mono fun s s' hs => ?_)).weaker
    cases hs with
    | kept s => exact .refl s
    | swapped => exact ih

theorem Tree.Weaker.of_changes {R : Node Tree → Node Tree → Prop}
    (hR : ∀ n n', R n n' → n.Eases (Tree.Weaker r) n') {t t' : Tree}
    (h : Relation.ReflTransGen (Tree.Somewhere R) t t') : Tree.Weaker r t t' := by
  induction h with
  | refl => exact .refl t
  | tail _ hstep ih => exact ih.trans (hstep.weaker hR)

end Conform.Schema
