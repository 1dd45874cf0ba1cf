import Conform.Proofs.Schema.Reading
import Conform.Proofs.Schema.Sound
import Conform.Proofs.Tag.Normal

/-!
# Trees that are written and read back

A tree is written as an object with all its fields: the flags as truth values, the tags as pairs, the
payload as a scalar, a list or an object, and the fallbacks as a list. Nothing gets lost: a list item
is read as a node or as the scalar that it is, with its type, and properties and members keep their
order. So a tree whose nodes could have been read at all is read back from what is written
(`load_toValue`).
-/

namespace Conform.Schema

/-! ## Writing -/

/-- The entries of a node, its payload and fallbacks given as they are written. -/
def writtenEntries (typeName : String) (flags : Flags) (tags : List Tag) (payload : Value)
    (fallback : List Value) : List (String × Value) :=
  [("type", .string typeName), ("optional", .bool flags.optional), ("union", .bool flags.union),
    ("intersection", .bool flags.intersection), ("literal", .bool flags.literal),
    ("array", .bool flags.array), ("primitive", .bool flags.primitive),
    ("tags", .list (tags.map Tag.toValue)), ("children", payload), ("fallback", .list fallback)]

mutual

/-- The document of a tree. -/
def Tree.toValue : Tree → Value
  | .mk ⟨typeName, flags, tags, payload, fallback⟩ =>
    .object (writtenEntries typeName flags tags (writtenPayload payload) (writtenTrees fallback))
termination_by structural t => t

/-- A payload as it is written. -/
def writtenPayload : Payload Tree → Value
  | .single v => v
  | .members ms => .list (writtenMembers ms)
  | .properties ps => .object (writtenProperties ps)

/-- Members as they are written: a value that stands for itself is not wrapped. -/
def writtenMembers : List (Member Tree) → List Value
  | [] => []
  | .node t :: ms => t.toValue :: writtenMembers ms
  | .bare v :: ms => v :: writtenMembers ms

/-- Properties as they are written. -/
def writtenProperties : List (String × Tree) → List (String × Value)
  | [] => []
  | (k, t) :: ps => (k, t.toValue) :: writtenProperties ps

/-- Trees as they are written. -/
def writtenTrees : List Tree → List Value
  | [] => []
  | t :: ts => t.toValue :: writtenTrees ts

end

/-- A node that can be read: it meets the demands of its flags, its tags are as they are kept, and the
    values in its payload are scalars. -/
structure Node.Canonical (n : Node Tree) : Prop where
  /-- The payload is what the flags demand. -/
  sound : n.Sound
  /-- The tags are in normal form. -/
  tags : ∀ t ∈ n.tags, t.Normal
  /-- A payload that is a single value is a scalar. -/
  single : ∀ v, n.payload = .single v → v.isScalar = true
  /-- Members that stand for themselves are scalars. -/
  bare : ∀ v, .bare v ∈ n.alternatives → v.isScalar = true

/-! ## Reading back -/

section ReadBack

/- What a tree refers to is read back, so each list of its parts is. -/

theorem reads_writtenTrees {ts : List Tree} (h : ∀ t ∈ ts, Reads t.toValue t) :
    List.Forall₂ Reads (writtenTrees ts) ts := by
  induction ts with
  | nil => exact .nil
  | cons t ts ih =>
    rw [List.forall_mem_cons] at h
    exact .cons h.1 (ih h.2)

theorem reads_writtenProperties {ps : List (String × Tree)}
    (h : ∀ t ∈ ps.map (·.2), Reads t.toValue t) :
    List.Forall₂ ReadsProperty (writtenProperties ps) ps := by
  induction ps with
  | nil => exact .nil
  | cons p ps ih =>
    rw [List.map_cons, List.forall_mem_cons] at h
    exact .cons ⟨rfl, h.1⟩ (ih h.2)

theorem reads_writtenMembers {ms : List (Member Tree)}
    (h : ∀ t ∈ ms.filterMap Member.reference?, Reads t.toValue t)
    (hbare : ∀ v, .bare v ∈ ms → v.isScalar = true) :
    List.Forall₂ ReadsMember (writtenMembers ms) ms := by
  induction ms with
  | nil => exact .nil
  | cons m ms ih =>
    have hbare' : ∀ v, .bare v ∈ ms → v.isScalar = true := fun v hv =>
      hbare v (List.mem_cons_of_mem _ hv)
    cases m with
    | node t =>
      rw [List.filterMap_cons_some (by rfl), List.forall_mem_cons] at h
      exact .cons (.node h.1) (ih h.2 hbare')
    | bare v =>
      rw [List.filterMap_cons_none (by rfl)] at h
      exact .cons (.bare (hbare v List.mem_cons_self)) (ih h hbare')

theorem reads_writtenPayload {pl : Payload Tree} (h : ∀ t ∈ pl.references, Reads t.toValue t)
    (hsingle : ∀ v, pl = .single v → v.isScalar = true)
    (hbare : ∀ v, .bare v ∈ pl.alternatives → v.isScalar = true) :
    ReadsPayload (writtenPayload pl) pl := by
  cases pl with
  | single v => exact .single (hsingle v rfl)
  | members ms => exact .members rfl (reads_writtenMembers h hbare)
  | properties ps => exact .properties (reads_writtenProperties h)

theorem reads_writtenTags {ts : List Tag} (h : ∀ t ∈ ts, t.Normal) :
    List.Forall₂ (fun v t => Tag.ofValue v = .ok t) (ts.map Tag.toValue) ts := by
  rw [List.forall₂_map_left_iff, List.forall₂_same]
  exact fun t ht => (h t ht).ofValue_toValue

end ReadBack

/-- A canonical node is read back if what it refers to is. -/
theorem reads_toValue_of_references {t : Tree} (hn : t.node.Canonical)
    (h : ∀ s ∈ t.node.references, Reads s.toValue s) : Reads t.toValue t := by
  obtain ⟨⟨typeName, flags, tags, payload, fallback⟩⟩ := t
  have hpayload : ReadsPayload (writtenPayload payload) payload :=
    reads_writtenPayload (fun s hs => h s (List.mem_append_left _ hs)) hn.single hn.bare
  have hfallback : List.Forall₂ Reads (writtenTrees fallback) fallback :=
    reads_writtenTrees fun s hs => h s (List.mem_append_right _ hs)
  rw [Reads, Tree.toValue, ofValue_object_eq_ok]
  refine ⟨rfl, rfl, readTags_eq_ok.2 ⟨_, rfl, reads_writtenTags hn.tags⟩,
    findPayload_eq_ok.2 hpayload, findFallback_eq_ok.2 ⟨_, rfl, hfallback⟩⟩

theorem reads_toValue (t : Tree) (h : ∀ s, t.Reaches s → s.node.Canonical) :
    Reads t.toValue t := by
  induction hk : t.height using Nat.strongRecOn generalizing t with
  | _ k ih =>
    obtain ⟨hroot, hbelow⟩ := Tree.forall_reaches.1 h
    refine reads_toValue_of_references hroot fun s hs => ?_
    exact ih s.height (hk ▸ Tree.height_lt_of_child hs) s (hbelow s hs) rfl

/-- A tree of canonical nodes is read back from the document that it is written as. -/
theorem load_toValue (t : Tree) (h : ∀ s, t.Reaches s → s.node.Canonical) :
    load t.toValue = .ok t := by
  have hread : Tree.ofValue t.toValue = .ok t := reads_toValue t h
  have hsound : ∀ s, t.Reaches s → s.node.Sound := fun s hs => (h s hs).sound
  obtain ⟨⟨typeName, flags, tags, payload, fallback⟩⟩ := t
  rw [Tree.toValue] at hread ⊢
  exact ofDecoded_eq_ok.2 ⟨hread, hsound⟩

/-- A number of at least one, or nothing. -/
def oneOrMore : Tree :=
  .mk ⟨"number", { optional := true, primitive := true }, [⟨"min", "1"⟩], .single .null, []⟩

/-- An object whose keys are not in alphabetical order. -/
def unordered : Tree :=
  .mk ⟨"pair", {}, [], .properties [("b", oneOrMore), ("a", oneOrMore)], []⟩

/-- Scalars that differ in type alone, and a node among them. -/
def mixture : Tree :=
  .mk ⟨"mixture", { optional := true, union := true }, [],
    .members [.bare (.int 1), .bare (.double (.finite false 4503599627370496 (-52))), .bare (.bool true),
      .bare (.string "1"), .bare .null, .node unordered], [oneOrMore]⟩

theorem load_toValue_mixture :
    (∀ s, mixture.Reaches s → s.node.Canonical) ∧ load mixture.toValue = .ok mixture := by
  have hmin : (⟨"min", "1"⟩ : Tag).Normal := by
    constructor
    · decide
    · constructor <;> simp <;> decide
    · decide
    · constructor <;> simp <;> decide
  have hnumber : ∀ s, oneOrMore.Reaches s → s.node.Canonical := by
    refine Tree.forall_reaches.2 ⟨⟨⟨nofun, nofun, nofun⟩, ?_, ?_, nofun⟩, nofun⟩
    · exact List.forall_mem_singleton.2 hmin
    · rintro v hv
      cases hv
      rfl
  have hunordered : ∀ s, unordered.Reaches s → s.node.Canonical := by
    refine Tree.forall_reaches.2 ⟨⟨⟨nofun, nofun, nofun⟩, nofun, nofun, nofun⟩, ?_⟩
    intro c hc
    have hc' : c ∈ [oneOrMore, oneOrMore] := hc
    obtain rfl : c = oneOrMore := by simpa using hc'
    exact hnumber
  have hcanonical : ∀ s, mixture.Reaches s → s.node.Canonical := by
    refine Tree.forall_reaches.2 ⟨⟨⟨nofun, nofun, nofun⟩, nofun, nofun, ?_⟩, ?_⟩
    · intro v hv
      simp only [mixture, Tree.node, Node.alternatives, Payload.alternatives, List.mem_cons,
        Member.bare.injEq, reduceCtorEq, List.not_mem_nil, or_false] at hv
      rcases hv with rfl | rfl | rfl | rfl | rfl <;> rfl
    · intro c hc
      have hc' : c ∈ [unordered, oneOrMore] := hc
      simp only [List.mem_cons, List.not_mem_nil, or_false] at hc'
      rcases hc' with rfl | rfl
      · exact hunordered
      · exact hnumber
  exact ⟨hcanonical, load_toValue mixture hcanonical⟩

end Conform.Schema
