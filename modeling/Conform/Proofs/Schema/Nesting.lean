import Conform.Proofs.Schema.FirstBreach

/-!
# Nodes at the root and in a property

An object is taken for a node at the root of a document if it names a type under one of the first two
keys, and for a node in a property if it names one under any of the three. With one of the first two it
means the same in both places: a document that holds it in a property loads as it does itself, and a
fault is the same fault seen from one property higher (`load_property`). Under the last key alone it is
refused at the root, whatever it means in a property (`load_property_iff`).
-/

namespace Conform.Schema

open Outcome

variable {es : List (String × Value)}

/-- The node of an object with a tree as its only property. -/
def Tree.inProperty (k : String) (t : Tree) : Tree := .mk ⟨"object", {}, [], .properties [(k, t)], []⟩

/-- A fault in a document, as seen from a document that holds the first one in a property. -/
def DocumentFault.inProperty (k : String) : DocumentFault → DocumentFault
  | malformed c => malformed (((c.within k).within propertiesStep).within "children")
  | breach b => breach ⟨b.cause, .key k :: b.path⟩
  | fault => fault

/-! ## Reading -/

/-- An object with an object in its only property never looks like a node. -/
theorem rootEntries_property (k : String) :
    rootEntries [(k, .object es)] =
      [("type", .string "object"), ("children", .object [(k, .object es)])] := by
  have hnot : ¬NamesType [(k, .object es)] := by
    rintro ⟨s, hs⟩
    simp only [List.lookup_cons, List.lookup_nil] at hs
    split at hs <;> split at hs <;> simp at hs
  rw [rootEntries, if_neg (mt looksLikeNode_iff.1 hnot)]

theorem rootEntries_of_namesType (h : NamesType es) : rootEntries es = es :=
  if_pos (looksLikeNode_iff.2 h)

theorem ofValue_property (k : String) :
    Tree.ofValue (.object (rootEntries [(k, .object es)])) =
      ((Tree.ofValue (.object es)).map (Tree.inProperty k)).mapError
        fun c => ((c.within k).within propertiesStep).within "children" := by
  rw [rootEntries_property]
  have hpayload : findPayload [("type", .string "object"), ("children", .object [(k, .object es)])] =
      ((Tree.ofValue (.object es)).map fun t => Payload.properties [(k, t)]).mapError
        fun c => ((c.within k).within propertiesStep).within "children" := by
    rw [findPayload_eq, show field _ "children" _ = .object [(k, .object es)] from rfl, readPayload,
      readProperties]
    cases Tree.ofValue (.object es) <;> rfl
  rw [Tree.ofValue, hpayload]
  cases Tree.ofValue (.object es) <;> rfl

theorem breach?_inProperty (k : String) (t : Tree) :
    (t.inProperty k).breach? [] = (t.breach? []).map fun b => ⟨b.cause, .key k :: b.path⟩ := by
  have hbelow : (t.inProperty k).breach? [] = t.breach? [.key k] := by
    rw [Tree.breach?_eq]
    simp [Tree.inProperty, Tree.node, Node.descents, Payload.descents, firstBreach?, Node.breach?]
  rw [hbelow, Tree.breach?_path]
  rfl

/-! ## Loading -/

/-- A node loads in a property as it does at the root of a document, and a fault in it is the same fault
    there, one property below. -/
theorem load_property (h : NamesType es) (k : String) :
    load (.object [(k, .object es)]) =
      ((load (.object es)).map (Tree.inProperty k)).mapError (DocumentFault.inProperty k) := by
  simp only [load, ofDecoded, ofValue_property, rootEntries_of_namesType h]
  cases Tree.ofValue (.object es) with
  | error c => rfl
  | ok t =>
    simp only [Except.map, Except.mapError, breach?_inProperty]
    cases t.breach? [] <;> rfl

/-- A type name that stands under none of the first two keys stands under the last. -/
theorem mem_of_not_namesType {s : String} (hs : typeNameEntry? es = some (.string s))
    (h : ¬NamesType es) : ("type_name", .string s) ∈ es := by
  have hlast : es.lookup "type_name" = some (.string s) := by
    unfold typeNameEntry? at hs
    cases hfirst : (es.lookup "type").or (es.lookup "typeName") with
    | none =>
      rw [hfirst] at hs
      exact hs
    | some v =>
      rw [hfirst] at hs
      cases hs
      exact absurd ⟨s, hfirst⟩ h
  exact Entries.mem_of_lookup hlast

/-- With its type name under the last key only, an object is taken for an object of nodes. As the type name
    is no node, that is refused. -/
theorem load_ne_ok_of_not_namesType {s : String} (hs : typeNameEntry? es = some (.string s))
    (h : ¬NamesType es) (t : Tree) : load (.object es) ≠ .ok t := by
  intro hload
  obtain ⟨hread, -⟩ := ofDecoded_eq_ok.1 hload
  rw [rootEntries, if_neg (mt looksLikeNode_iff.1 h)] at hread
  obtain ⟨_, -, hname⟩ := Reads.exists_child hread (.payload (.entry (mem_of_not_namesType hs h)))
  obtain ⟨_, hes⟩ := exists_entries_of_ofValue hname
  cases hes

/-- An object whose type name is a text loads at the root exactly if it names its type under one of the
    first two keys and loads in a property, and then the property is what it is at the root. -/
theorem load_property_iff (h : ∃ s, typeNameEntry? es = some (.string s)) (k : String) :
    ((∃ t, load (.object es) = .ok t) ↔
      NamesType es ∧ ∃ u, load (.object [(k, .object es)]) = .ok u) ∧
    ∀ t u, load (.object es) = .ok t → load (.object [(k, .object es)]) = .ok u →
      u.node.properties = [(k, t)] := by
  obtain ⟨s, hs⟩ := h
  by_cases hnames : NamesType es
  · rw [load_property hnames k]
    cases load (.object es) with
    | error fault => simp [Except.map, Except.mapError]
    | ok t =>
      refine ⟨iff_of_true ⟨t, rfl⟩ ⟨hnames, _, rfl⟩, ?_⟩
      rintro _ _ ⟨⟩ ⟨⟩
      rfl
  · have hrefused := load_ne_ok_of_not_namesType hs hnames
    refine ⟨iff_of_false (fun ⟨t, ht⟩ => hrefused t ht) fun hboth => hnames hboth.1, ?_⟩
    exact fun t _ ht => absurd ht (hrefused t)

theorem load_property_iff_optional :
    let es : List (String × Value) :=
      [("optional", .bool true), ("typeName", .string "A"), ("fallback", .list [.object
        [("type_name", .string "B"), ("literal", .int 1), ("children", .string "b")]])]
    (∃ s, typeNameEntry? es = some (.string s)) ∧
    ∃ t u, load (.object es) = .ok t ∧ load (.object [("type", .object es)]) = .ok u ∧
      u.node.properties = [("type", t)] := by
  intro es
  have htype : ∃ s, typeNameEntry? es = some (.string s) := ⟨"A", rfl⟩
  obtain ⟨hiff, hsame⟩ := load_property_iff htype "type"
  obtain ⟨t, ht⟩ : ∃ t, load (.object es) = .ok t := ⟨_, rfl⟩
  obtain ⟨-, u, hu⟩ := hiff.1 ⟨t, ht⟩
  exact ⟨htype, t, u, ht, hu, hsame t u ht hu⟩

/-- A primitive node that names its type under the last key only is refused as a document and accepted in
    a property. -/
theorem load_refused_of_lastKey :
    let es : List (String × Value) := [("type_name", .string "string"), ("primitive", .bool true)]
    typeNameEntry? es = some (.string "string") ∧
    (∀ t, load (.object es) ≠ .ok t) ∧ ∃ u, load (.object [("name", .object es)]) = .ok u := by
  intro es
  refine ⟨rfl, ?_, _, rfl⟩
  have hrefused : load (.object es) =
      .error (.malformed ⟨["children", propertiesStep, "type_name"], .notNode⟩) := rfl
  rw [hrefused]
  exact nofun

end Conform.Schema
