import Conform.Proofs.Related
import Conform.Proofs.Schema.Recognition
import Conform.Proofs.Schema.Sound

/-!
# The grammar of schema documents

A document is a node or an object of nodes. The nodes in it and what their flags demand are found in
the data alone; the tree that a document stands for follows the data node by node, in both directions,
so its nodes are sound exactly if those of the data meet their demands. Decoded data is a schema
exactly if it is of the grammar and its nodes meet their demands, and is refused in a way that tells
which of the two it lacks (`load_exact`).
-/

namespace Conform.Schema

open Outcome

/-! ## Nodes below nodes -/

/-- The data of a payload and of a node in it. -/
inductive Contains : Value → Value → Prop where
  /-- A value in an object. -/
  | entry {es : List (String × Value)} {e : String × Value} (he : e ∈ es) : Contains (.object es) e.2
  /-- An item of a list, unless it is a scalar. -/
  | item {v w : Value} {vs : List Value} (hv : v.items? = some vs) (hw : w ∈ vs)
      (hs : w.isScalar = false) : Contains v w

/-- The data of a node and of a node directly below it, in the payload or a fallback. -/
inductive Holds : Value → Value → Prop where
  /-- A node in the payload. -/
  | payload {es : List (String × Value)} {w : Value} (h : Contains (field es "children" .null) w) :
      Holds (.object es) w
  /-- A fallback. -/
  | fallback {es : List (String × Value)} {vs : List Value} {w : Value}
      (hf : (field es "fallback" (.list [])).items? = some vs) (hw : w ∈ vs) : Holds (.object es) w

theorem Reads.isScalar_eq_false {v : Value} {t : Tree} (h : Reads v t) : v.isScalar = false := by
  obtain ⟨es, rfl⟩ := exists_entries_of_ofValue h
  rfl

theorem ReadsPayload.exists_contained {v : Value} {pl : Payload Tree} {s : Tree}
    (h : ReadsPayload v pl) (hs : s ∈ pl.references) : ∃ w, Contains v w ∧ Reads w s := by
  cases h with
  | single => cases hs
  | members hv hms =>
    obtain ⟨m, hm, href⟩ := List.mem_filterMap.1 hs
    obtain ⟨w, hw, hread⟩ := exists_left_of_forall₂ hms hm
    cases hread with
    | bare => cases href
    | node hread =>
      cases href
      exact ⟨w, .item hv hw hread.isScalar_eq_false, hread⟩
  | properties hps =>
    obtain ⟨p, hp, rfl⟩ := List.mem_map.1 hs
    obtain ⟨e, he, -, hread⟩ := exists_left_of_forall₂ hps hp
    exact ⟨e.2, .entry he, hread⟩

theorem ReadsPayload.exists_reference {v w : Value} {pl : Payload Tree} (h : ReadsPayload v pl)
    (hw : Contains v w) : ∃ s ∈ pl.references, Reads w s := by
  cases hw with
  | entry he =>
    cases h with
    | single hs => cases hs
    | members hv => cases hv
    | properties hps =>
      obtain ⟨p, hp, -, hread⟩ := exists_right_of_forall₂ hps he
      exact ⟨p.2, List.mem_map.2 ⟨p, hp, rfl⟩, hread⟩
  | item hv hw hs =>
    -- an item that is no scalar can only have been read as a node
    cases h with
    | single hs => cases v <;> simp [Value.isScalar, Value.items?] at hs hv
    | properties => cases hv
    | members hv' hms =>
      rw [hv, Option.some.injEq] at hv'
      subst hv'
      obtain ⟨m, hm, hread⟩ := exists_right_of_forall₂ hms hw
      cases hread with
      | bare hs' => simp [hs] at hs'
      | node hread => exact ⟨_, List.mem_filterMap.2 ⟨_, hm, rfl⟩, hread⟩

/-- Every node below the root of a tree is read off data that the root's data holds. -/
theorem Reads.exists_held {v : Value} {t s : Tree} (h : Reads v t) (hs : t.Child s) :
    ∃ w, Holds v w ∧ Reads w s := by
  obtain ⟨es, rfl⟩ := exists_entries_of_ofValue h
  obtain ⟨n⟩ := t
  obtain ⟨-, -, -, hpayload, hfallback⟩ := ofValue_object_eq_ok.1 h
  rcases List.mem_append.1 hs with hs | hs
  · obtain ⟨w, hw, hread⟩ := (findPayload_eq_ok.1 hpayload).exists_contained hs
    exact ⟨w, .payload hw, hread⟩
  · obtain ⟨vs, hv, hts⟩ := findFallback_eq_ok.1 hfallback
    obtain ⟨w, hw, hread⟩ := exists_left_of_forall₂ hts hs
    exact ⟨w, .fallback hv hw, hread⟩

/-- All that the data of a tree's root holds is read as nodes below the root. -/
theorem Reads.exists_child {v w : Value} {t : Tree} (h : Reads v t) (hw : Holds v w) :
    ∃ s, t.Child s ∧ Reads w s := by
  obtain ⟨n⟩ := t
  cases hw with
  | payload hw =>
    obtain ⟨-, -, -, hpayload, -⟩ := ofValue_object_eq_ok.1 h
    obtain ⟨s, hs, hread⟩ := (findPayload_eq_ok.1 hpayload).exists_reference hw
    exact ⟨s, List.mem_append_left _ hs, hread⟩
  | fallback hf hw =>
    obtain ⟨-, -, -, -, hfallback⟩ := ofValue_object_eq_ok.1 h
    obtain ⟨vs, hv, hts⟩ := findFallback_eq_ok.1 hfallback
    rw [hf, Option.some.injEq] at hv
    subst hv
    obtain ⟨s, hs, hread⟩ := exists_right_of_forall₂ hts hw
    exact ⟨s, List.mem_append_right _ hs, hread⟩

/-- The nodes of a tree are read off the nodes of its data. -/
theorem Reads.exists_of_reaches {v : Value} {t s : Tree} (h : Reads v t) (hs : t.Reaches s) :
    ∃ w, Relation.ReflTransGen Holds v w ∧ Reads w s := by
  induction hs with
  | refl => exact ⟨v, .refl, h⟩
  | tail _ hchild ih =>
    obtain ⟨w, hw, hread⟩ := ih
    obtain ⟨x, hx, hread'⟩ := hread.exists_held hchild
    exact ⟨x, hw.tail hx, hread'⟩

theorem Reads.exists_reaches {v w : Value} {t : Tree} (h : Reads v t)
    (hw : Relation.ReflTransGen Holds v w) : ∃ s, t.Reaches s ∧ Reads w s := by
  induction hw with
  | refl => exact ⟨t, .refl, h⟩
  | tail _ hheld ih =>
    obtain ⟨s, hs, hread⟩ := ih
    obtain ⟨c, hc, hread'⟩ := hread.exists_child hheld
    exact ⟨c, hs.tail hc, hread'⟩

/-! ## Demands -/

/-- The flag under a key is spelled as set. -/
def Flagged (es : List (String × Value)) (key : String) : Prop :=
  SpellsBool true (field es key (.bool false))

/-- The data of a node whose payload is what its flags demand. -/
structure MeetsDemands (es : List (String × Value)) : Prop where
  /-- A literal carries a single scalar. -/
  literal : Flagged es "literal" → (field es "children" .null).isScalar = true
  /-- An intersection has at least two members. -/
  intersection : Flagged es "intersection" →
    ∃ vs, (field es "children" .null).items? = some vs ∧ 2 ≤ vs.length
  /-- An array carries nothing or a list. -/
  array : Flagged es "array" → field es "children" .null = .null ∨
    ∃ vs, (field es "children" .null).items? = some vs

theorem readFlag_eq_true {es : List (String × Value)} {key : String} {b : Bool}
    (h : readFlag es key = .ok b) : b = true ↔ Flagged es key := by
  rw [readFlag_eq, mapError_eq_ok] at h
  rw [Flagged, ← boolOfValue_eq_ok, h, Except.ok.injEq]

theorem flags_of_readFlags {es : List (String × Value)} {f : Flags} (h : readFlags es = .ok f) :
    readFlag es "literal" = .ok f.literal ∧ readFlag es "intersection" = .ok f.intersection ∧
      readFlag es "array" = .ok f.array := by
  simp only [readFlags, bind_eq_ok, pure, Except.pure, Except.ok.injEq] at h
  obtain ⟨_, -, _, -, _, hintersection, _, hliteral, _, harray, _, -, rfl⟩ := h
  exact ⟨hliteral, hintersection, harray⟩

section Payloads

variable {v : Value} {pl : Payload Tree} (h : ReadsPayload v pl)

include h

theorem ReadsPayload.single_iff : (∃ x, pl = .single x ∧ x.isScalar = true) ↔ v.isScalar = true := by
  cases h with
  | single hs => simp
  | members hv hms => cases v <;> simp [Value.isScalar, Value.items?] at hv ⊢
  | properties hps => simp [Value.isScalar]

theorem ReadsPayload.two_le_iff :
    2 ≤ pl.alternatives.length ↔ ∃ vs, v.items? = some vs ∧ 2 ≤ vs.length := by
  cases h with
  | single hs => cases v <;> simp [Payload.alternatives, Value.isScalar, Value.items?] at hs ⊢
  | members hv hms => simp [Payload.alternatives, hv, hms.length_eq]
  | properties hps => simp [Payload.alternatives, Value.items?]

theorem ReadsPayload.list_iff : (pl = .single .null ∨ ∃ ms, pl = .members ms) ↔
    v = .null ∨ ∃ vs, v.items? = some vs := by
  cases h with
  | single hs => cases v <;> simp [Value.isScalar, Value.items?] at hs ⊢
  | members hv hms => simp [hv]
  | properties hps => simp [Value.items?]

end Payloads

/-- The root of a tree is sound exactly if its data meets the demands of the flags. -/
theorem sound_iff_meetsDemands {es : List (String × Value)} {t : Tree} (h : Reads (.object es) t) :
    t.node.Sound ↔ MeetsDemands es := by
  obtain ⟨n⟩ := t
  obtain ⟨-, hflags, -, hpayload, -⟩ := ofValue_object_eq_ok.1 h
  rw [findPayload_eq_ok] at hpayload
  obtain ⟨hliteral, hintersection, harray⟩ := flags_of_readFlags hflags
  constructor
  · intro hs
    exact ⟨fun hf => hpayload.single_iff.1 (hs.literal ((readFlag_eq_true hliteral).2 hf)),
      fun hf => hpayload.two_le_iff.1 (hs.intersection ((readFlag_eq_true hintersection).2 hf)),
      fun hf => hpayload.list_iff.1 (hs.array ((readFlag_eq_true harray).2 hf))⟩
  · intro hd
    exact ⟨fun hf => hpayload.single_iff.2 (hd.literal ((readFlag_eq_true hliteral).1 hf)),
      fun hf => hpayload.two_le_iff.2 (hd.intersection ((readFlag_eq_true hintersection).1 hf)),
      fun hf => hpayload.list_iff.2 (hd.array ((readFlag_eq_true harray).1 hf))⟩

/-- A tree leads to sound nodes only exactly if all nodes of its data meet their demands. -/
theorem Reads.sound_iff {v : Value} {t : Tree} (h : Reads v t) :
    (∀ s, t.Reaches s → s.node.Sound) ↔
      ∀ es, Relation.ReflTransGen Holds v (.object es) → MeetsDemands es := by
  constructor
  · intro hsound es hes
    obtain ⟨s, hs, hread⟩ := h.exists_reaches hes
    exact (sound_iff_meetsDemands hread).1 (hsound s hs)
  · intro hdemands s hs
    obtain ⟨w, hw, hread⟩ := h.exists_of_reaches hs
    obtain ⟨es, rfl⟩ := exists_entries_of_ofValue hread
    exact (sound_iff_meetsDemands hread).2 (hdemands es hw)

/-! ## Documents -/

/-- The object has a text under the first of its two leading keys for a type name that is present. -/
def NamesType (es : List (String × Value)) : Prop :=
  ∃ s, (es.lookup "type").or (es.lookup "typeName") = some (.string s)

/-- A node at the top of a document: the document itself if it names a type, each of its values
    otherwise. -/
inductive TopNode : Value → Value → Prop where
  /-- The document is a node. -/
  | node {es : List (String × Value)} (hn : NamesType es) : TopNode (.object es) (.object es)
  /-- The document is an object of nodes. -/
  | property {es : List (String × Value)} {e : String × Value} (hn : ¬NamesType es) (he : e ∈ es) :
      TopNode (.object es) e.2

/-- Data in the form of a document. -/
def DocumentForm (d : Value) : Prop := (∃ es, d = .object es) ∧ ∀ r, TopNode d r → NodeForm r

/-- The data of a node in a document. -/
def NodeIn (d : Value) (es : List (String × Value)) : Prop :=
  ∃ r, TopNode d r ∧ Relation.ReflTransGen Holds r (.object es)

theorem looksLikeNode_iff {es : List (String × Value)} :
    looksLikeNode es = true ↔ NamesType es := by
  have hstring : ∀ v : Value, v.isString = true ↔ ∃ s, v = .string s := by
    intro v
    cases v <;> simp [Value.isString]
  unfold looksLikeNode NamesType
  cases es.lookup "type" with
  | some v => simp [hstring]
  | none =>
    cases es.lookup "typeName" with
    | some v => simp [hstring]
    | none => simp

/-- The object that is read as the root has the form of a node exactly if the document has its form. -/
theorem nodeForm_rootEntries {es : List (String × Value)} :
    NodeForm (.object (rootEntries es)) ↔ DocumentForm (.object es) := by
  unfold rootEntries
  split
  · rename_i hn
    rw [looksLikeNode_iff] at hn
    constructor
    · intro h
      refine ⟨⟨es, rfl⟩, fun r hr => ?_⟩
      cases hr with
      | node => exact h
      | property hn' => exact absurd hn hn'
    · rintro ⟨-, h⟩
      exact h _ (.node hn)
  · rename_i hn
    rw [looksLikeNode_iff] at hn
    have htype : ∃ s, typeNameEntry? [("type", .string "object"), ("children", .object es)] =
        some (.string s) := ⟨"object", rfl⟩
    constructor
    · intro h
      refine ⟨⟨es, rfl⟩, fun r hr => ?_⟩
      cases hr with
      | node hn' => exact absurd hn' hn
      | property _ he => exact childrenForm_object.1 (nodeForm_object.1 h).2.2.2.1 _ he
    · rintro ⟨-, h⟩
      refine .node htype ?_ ⟨[], rfl, by simp⟩ (.object fun e he => h _ (.property hn he))
        (.list rfl (by simp))
      simp only [flagKeys, List.mem_cons, List.not_mem_nil, or_false]
      rintro k (rfl | rfl | rfl | rfl | rfl | rfl) <;> exact ⟨false, .bool false⟩

/-- The nodes of the object that is read as the root meet their demands exactly if those of the
    document do: a root that only holds properties has no flags. -/
theorem forall_rootEntries_iff {es : List (String × Value)} :
    (∀ ns, Relation.ReflTransGen Holds (.object (rootEntries es)) (.object ns) → MeetsDemands ns) ↔
      ∀ ns, NodeIn (.object es) ns → MeetsDemands ns := by
  unfold rootEntries
  split
  · rename_i hn
    rw [looksLikeNode_iff] at hn
    constructor
    · rintro h ns ⟨r, hr, hns⟩
      cases hr with
      | node => exact h ns hns
      | property hn' => exact absurd hn hn'
    · intro h ns hns
      exact h ns ⟨_, .node hn, hns⟩
  · rename_i hn
    rw [looksLikeNode_iff] at hn
    constructor
    · rintro h ns ⟨r, hr, hns⟩
      cases hr with
      | node hn' => exact absurd hn' hn
      | property _ he => exact h ns (.head (.payload (.entry he)) hns)
    · intro h ns hns
      rcases Relation.ReflTransGen.cases_head hns with hroot | ⟨w, hw, hns⟩
      · have hunset : ¬SpellsBool true (.bool false) := by
          intro h
          cases h
        cases hroot
        exact ⟨fun hf => absurd hf hunset, fun hf => absurd hf hunset, fun hf => absurd hf hunset⟩
      · cases hw with
        | payload hw =>
          cases hw with
          | entry he => exact h ns ⟨_, .property hn he, hns⟩
          | item hv => cases hv
        | fallback hf hw =>
          cases hf
          cases hw

theorem load_of_not_string {d : Value} (hd : d.isString = false) : load d = ofDecoded d := by
  cases d with
  | string s => cases hd
  | _ => rfl

theorem isWritable_rootEntries {es : List (String × Value)}
    (hw : Json.isWritable (.object es) = true) :
    Json.isWritable (.object (rootEntries es)) = true := by
  unfold rootEntries
  split
  · exact hw
  · rw [Json.isWritable, entriesWritable_iff]
    simpa [Json.isWritable] using hw

/-- Decoded data that is no text is a schema exactly if it has the form of a document and all nodes in
    it meet the demands of their flags. It is refused in no other way than by the fault that says which
    of these it lacks, the form before the demands. Decoded data has no marks of absence. -/
theorem load_exact (d : Value) (hd : d.isString = false) (hw : Json.isWritable d = true) :
    ((∃ t, load d = .ok t) ↔ DocumentForm d ∧ ∀ ns, NodeIn d ns → MeetsDemands ns) ∧
    ∀ fault, load d = .error fault →
      (fault = .root (typeWord d) ∧ ∀ es, d ≠ .object es) ∨
      (∃ c, fault = .malformed c ∧ c.cause ≠ .unwritable ∧ (∃ es, d = .object es) ∧
        ¬DocumentForm d) ∨
      ∃ b, fault = .breach b ∧ DocumentForm d ∧ ∃ ns, NodeIn d ns ∧ ¬MeetsDemands ns := by
  rw [load_of_not_string hd]
  by_cases hobject : ∃ es, d = .object es
  · obtain ⟨es, rfl⟩ := hobject
    have hroot := recognizes_ofValue (isWritable_rootEntries hw)
    have hform : (∃ t, Tree.ofValue (.object (rootEntries es)) = .ok t) ↔
        DocumentForm (.object es) := hroot.succeeds.trans nodeForm_rootEntries
    have hdemands : ∀ t, Reads (.object (rootEntries es)) t → ((∀ s, t.Reaches s → s.node.Sound) ↔
        ∀ ns, NodeIn (.object es) ns → MeetsDemands ns) :=
      fun t ht => ht.sound_iff.trans forall_rootEntries_iff
    constructor
    · constructor
      · rintro ⟨t, ht⟩
        obtain ⟨hread, hsound⟩ := ofDecoded_eq_ok.1 ht
        exact ⟨hform.1 ⟨t, hread⟩, (hdemands t hread).1 hsound⟩
      · rintro ⟨hyes, hmeet⟩
        obtain ⟨t, hread⟩ := hform.2 hyes
        exact ⟨t, ofDecoded_eq_ok.2 ⟨hread, (hdemands t hread).2 hmeet⟩⟩
    · intro fault hfault
      rcases ofDecoded_eq_error hfault with ⟨c, rfl, hread⟩ | ⟨b, t, rfl, hread, hunsound⟩
      · have hno : ¬DocumentForm (.object es) := by
          rw [← hform, hread]
          rintro ⟨t, ht⟩
          cases ht
        exact Or.inr (Or.inl ⟨c, rfl, hroot.cause_ne c hread, ⟨es, rfl⟩, hno⟩)
      · rw [hdemands t hread] at hunsound
        push Not at hunsound
        exact Or.inr (Or.inr ⟨b, rfl, hform.1 ⟨t, hread⟩, hunsound⟩)
  · have hother : ofDecoded d = .error (.root (typeWord d)) := by
      cases d with
      | object es => exact absurd ⟨es, rfl⟩ hobject
      | _ => rfl
    rw [hother]
    refine ⟨iff_of_false (by simp) fun h => hobject h.1.1, fun fault hfault => ?_⟩
    cases hfault
    exact Or.inl ⟨rfl, fun es hes => hobject ⟨es, hes⟩⟩

/-- One property, a literal whose flag is spelled as a number and whose type name stands under the last
    of its keys. The literal carries a scalar in the first document and a list in the second. -/
theorem load_exact_literal :
    let node (payload : Value) : Value :=
      .object [("children", payload), ("type_name", .string "level"), ("literal", .int 1)]
    let document (payload : Value) : Value := .object [("level", node payload)]
    ((document (.int 5)).isString = false ∧ Json.isWritable (document (.int 5)) = true ∧
      DocumentForm (document (.int 5)) ∧ ∀ ns, NodeIn (document (.int 5)) ns → MeetsDemands ns) ∧
    (document (.list [.int 5])).isString = false ∧
      Json.isWritable (document (.list [.int 5])) = true ∧
      DocumentForm (document (.list [.int 5])) ∧
      ∃ ns, NodeIn (document (.list [.int 5])) ns ∧ ¬MeetsDemands ns := by
  intro node document
  obtain ⟨haccepted, -⟩ := load_exact (document (.int 5)) rfl rfl
  obtain ⟨-, hrefused⟩ := load_exact (document (.list [.int 5])) rfl rfl
  refine ⟨⟨rfl, rfl, haccepted.1 ⟨_, rfl⟩⟩, rfl, rfl, ?_⟩
  have hbreach : load (document (.list [.int 5])) = .error (.breach ⟨.literal, [.key "level"]⟩) := rfl
  rcases hrefused _ hbreach with ⟨h, -⟩ | ⟨c, h, -⟩ | ⟨b, -, hform, hdemands⟩
  · cases h
  · cases h
  · exact ⟨hform, hdemands⟩

end Conform.Schema
