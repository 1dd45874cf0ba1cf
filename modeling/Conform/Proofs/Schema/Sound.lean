import Conform.Proofs.Schema.Subtree
import Conform.Schema.Document

/-!
# Nodes that meet the demands of their flags

A node is sound if its payload is what its flags ask for. The search for a breach stops at the first
node that is not sound and takes the same ways down as the references of the tree, the fallbacks
included. So it finds none exactly if the tree leads to sound nodes only (`breach?_eq_none`), and a
tree that a document stands for does, in whatever form the document was given.
-/

namespace Conform.Schema

variable {ι : Type}

/-! ## Sound nodes -/

/-- A node whose payload is what its flags demand. -/
structure Node.Sound (n : Node ι) : Prop where
  /-- A literal carries a single scalar. -/
  literal : n.flags.literal = true → ∃ v, n.payload = .single v ∧ v.isScalar = true
  /-- An intersection has at least two members. -/
  intersection : n.flags.intersection = true → 2 ≤ n.alternatives.length
  /-- An array carries nothing or a list. -/
  array : n.flags.array = true → n.payload = .single .null ∨ ∃ ms, n.payload = .members ms

theorem Node.Sound.two_le_of_kind {n : Node ι} (hs : n.Sound) (hk : n.kind = .intersection) :
    2 ≤ n.alternatives.length := by
  refine hs.intersection ?_
  unfold Node.kind at hk
  split_ifs at hk
  assumption

theorem Payload.isScalar_iff {pl : Payload ι} :
    pl.isScalar = true ↔ ∃ v, pl = .single v ∧ v.isScalar = true := by
  cases pl with
  | single v => simp [isScalar]
  | members ms => simp [isScalar]
  | properties ps => simp [isScalar]

theorem Payload.isListOrNull_iff {pl : Payload ι} :
    pl.isListOrNull = true ↔ pl = .single .null ∨ ∃ ms, pl = .members ms := by
  cases pl with
  | single v => cases v <;> simp [isListOrNull]
  | members ms => simp [isListOrNull]
  | properties ps => simp [isListOrNull]

/-- A node breaks no demand exactly if it is sound. -/
theorem Node.breach?_eq_none {n : Node ι} : n.breach? = none ↔ n.Sound := by
  have hsound : n.Sound ↔ (n.flags.literal = true → n.payload.isScalar = true) ∧
      (n.flags.intersection = true → 2 ≤ n.alternatives.length) ∧
      (n.flags.array = true → n.payload.isListOrNull = true) := by
    rw [Payload.isScalar_iff, Payload.isListOrNull_iff]
    exact ⟨fun h => ⟨h.literal, h.intersection, h.array⟩, fun ⟨hl, hi, ha⟩ => ⟨hl, hi, ha⟩⟩
  rw [hsound]
  unfold breach?
  split_ifs with hl hi ha
  · obtain ⟨hflag, hno⟩ : n.flags.literal = true ∧ n.payload.isScalar = false := by simpa using hl
    exact iff_of_false nofun fun h => Bool.false_ne_true (hno.symm.trans (h.1 hflag))
  · obtain ⟨hflag, hno⟩ : n.flags.intersection = true ∧ n.alternatives.length < 2 := by
      simpa using hi
    exact iff_of_false nofun fun h => absurd (h.2.1 hflag) (by omega)
  · obtain ⟨hflag, hno⟩ : n.flags.array = true ∧ n.payload.isListOrNull = false := by simpa using ha
    exact iff_of_false nofun fun h => Bool.false_ne_true (hno.symm.trans (h.2.2 hflag))
  · refine iff_of_true rfl ⟨fun h => ?_, fun h => ?_, fun h => ?_⟩
    · simpa [h] using hl
    · exact Nat.not_lt.1 fun hlt => hi (by simp [h, hlt])
    · simpa [h] using ha

/-! ## Sound trees -/

section Search

/- Each part of a tree is searched as its references are, given that for each of these the search
   finds no breach exactly if it has the property `P`, at whatever path. -/
variable {P : Tree → Prop}

theorem treesBreach?_eq_none {ts : List Tree}
    (h : ∀ t ∈ ts, ∀ path, t.breach? path = none ↔ P t) (path : Path) :
    treesBreach? path ts = none ↔ ∀ t ∈ ts, P t := by
  induction ts with
  | nil => simp [treesBreach?]
  | cons t ts ih =>
    rw [List.forall_mem_cons] at h ⊢
    rw [treesBreach?, Option.or_eq_none_iff, h.1, ih h.2]

theorem membersBreach?_eq_none {ms : List (Member Tree)}
    (h : ∀ t ∈ ms.filterMap Member.reference?, ∀ path, t.breach? path = none ↔ P t)
    (path : Path) (i : Nat) :
    membersBreach? path i ms = none ↔ ∀ t ∈ ms.filterMap Member.reference?, P t := by
  induction ms generalizing i with
  | nil => simp [membersBreach?]
  | cons m ms ih =>
    cases m with
    | node t =>
      rw [List.filterMap_cons_some (by rfl), List.forall_mem_cons] at h ⊢
      rw [membersBreach?, Option.or_eq_none_iff, h.1, ih h.2]
    | bare v =>
      rw [List.filterMap_cons_none (by rfl)] at h ⊢
      rw [membersBreach?, ih h]

theorem propertiesBreach?_eq_none {ps : List (String × Tree)}
    (h : ∀ t ∈ ps.map (·.2), ∀ path, t.breach? path = none ↔ P t) (path : Path) :
    propertiesBreach? path ps = none ↔ ∀ t ∈ ps.map (·.2), P t := by
  induction ps with
  | nil => simp [propertiesBreach?]
  | cons p ps ih =>
    rw [List.map_cons, List.forall_mem_cons] at h ⊢
    rw [propertiesBreach?, Option.or_eq_none_iff, h.1, ih h.2]

theorem payloadBreach?_eq_none {pl : Payload Tree}
    (h : ∀ t ∈ pl.references, ∀ path, t.breach? path = none ↔ P t) (path : Path) :
    payloadBreach? path pl = none ↔ ∀ t ∈ pl.references, P t := by
  cases pl with
  | single v => simp [payloadBreach?, Payload.references]
  | members ms => exact membersBreach?_eq_none h path 0
  | properties ps => exact propertiesBreach?_eq_none h path

/-- The search finds nothing exactly if the root is sound and nothing is found from its references. -/
theorem Tree.breach?_eq_none_of_references {t : Tree}
    (h : ∀ c ∈ t.node.references, ∀ path, c.breach? path = none ↔ P c) (path : Path) :
    t.breach? path = none ↔ t.node.Sound ∧ ∀ c ∈ t.node.references, P c := by
  obtain ⟨⟨typeName, flags, tags, payload, fallback⟩⟩ := t
  have hpayload : payloadBreach? path payload = none ↔ ∀ c ∈ payload.references, P c :=
    payloadBreach?_eq_none (fun c hc => h c (List.mem_append_left _ hc)) path
  have hfallback : treesBreach? path fallback = none ↔ ∀ c ∈ fallback, P c :=
    treesBreach?_eq_none (fun c hc => h c (List.mem_append_right _ hc)) path
  rw [node, ← Node.breach?_eq_none, Node.references, List.forall_mem_append, ← hpayload,
    ← hfallback, ← Option.or_eq_none_iff, Tree.breach?]
  split
  · rename_i cause hc
    simp [hc]
  · rename_i hc
    simp [hc]

end Search

/-- The search for a breach finds none exactly if the tree leads to sound nodes only. -/
theorem Tree.breach?_eq_none (t : Tree) (path : Path) :
    t.breach? path = none ↔ ∀ s, t.Reaches s → s.node.Sound := by
  generalize hk : t.height = k
  induction k using Nat.strongRecOn generalizing t path with
  | _ k ih =>
    rw [forall_reaches]
    refine breach?_eq_none_of_references (fun c hc path => ?_) path
    have hlt : c.height < k := hk ▸ Tree.height_lt_of_child hc
    exact ih c.height hlt c path rfl

/-! ## Trees of documents -/

/-- A tree that a document stands for, given decoded, as text or as the bytes of a text. -/
def Loaded (t : Tree) : Prop :=
  (∃ document, load document = .ok t) ∨ ∃ bytes, ofBytes bytes = .ok t

/-- A tree that a text stands for is that of a decoded document. -/
theorem exists_of_ofChars {steps : Nat} {reader : List Char → Except Json.Stop Value}
    {s : List Char} {t : Tree} (h : ofChars steps reader s = .ok t) :
    ∃ document, ofDecoded document = .ok t := by
  induction steps generalizing reader s with
  | zero => cases h
  | succ steps ih =>
    rw [ofChars] at h
    split at h
    · cases h
    · exact ih h
    · exact ⟨_, h⟩

/-- Every tree that a document stands for is that of a decoded one. -/
theorem Loaded.decoded {t : Tree} (h : Loaded t) : ∃ document, ofDecoded document = .ok t := by
  rcases h with ⟨document, h⟩ | ⟨bytes, h⟩
  · unfold load at h
    split at h
    · exact exists_of_ofChars h
    · exact ⟨_, h⟩
  · unfold ofBytes at h
    split at h
    · cases h
    · exact exists_of_ofChars h

/-- A decoded object is a schema if its root is read as a tree that leads to sound nodes only. -/
theorem ofDecoded_eq_ok {es : List (String × Value)} {t : Tree} :
    ofDecoded (.object es) = .ok t ↔
      Tree.ofValue (.object (rootEntries es)) = .ok t ∧ ∀ s, t.Reaches s → s.node.Sound := by
  rw [← Tree.breach?_eq_none t [], ofDecoded]
  cases Tree.ofValue (.object (rootEntries es)) with
  | error c => simp
  | ok u =>
    cases hb : u.breach? [] with
    | none =>
      simp only [hb, Except.ok.injEq]
      constructor
      · rintro rfl
        exact ⟨rfl, hb⟩
      · exact fun h => h.1
    | some b =>
      simp only [hb, Except.ok.injEq, reduceCtorEq, false_iff, not_and]
      rintro rfl h
      rw [hb] at h
      cases h

/-- A decoded object is refused if its root cannot be read, or if it is read as a tree that leads to a
    node that is not sound. -/
theorem ofDecoded_eq_error {es : List (String × Value)} {fault : DocumentFault}
    (h : ofDecoded (.object es) = .error fault) :
    (∃ c, fault = .malformed c ∧ Tree.ofValue (.object (rootEntries es)) = .error c) ∨
      ∃ b t, fault = .breach b ∧ Tree.ofValue (.object (rootEntries es)) = .ok t ∧
        ¬∀ s, t.Reaches s → s.node.Sound := by
  rw [ofDecoded] at h
  split at h
  · rename_i c hread
    cases h
    exact Or.inl ⟨c, rfl, hread⟩
  · rename_i t hread
    split at h
    · rename_i b hb
      cases h
      refine Or.inr ⟨b, t, rfl, hread, fun hsound => ?_⟩
      rw [(Tree.breach?_eq_none t []).2 hsound] at hb
      cases hb
    · cases h

/-- A tree that a document stands for leads to sound nodes only. -/
theorem Loaded.sound {t : Tree} (h : Loaded t) : ∀ s, t.Reaches s → s.node.Sound := by
  obtain ⟨document, h⟩ := h.decoded
  cases document with
  | object es => exact (ofDecoded_eq_ok.1 h).2
  | _ => cases h

end Conform.Schema
