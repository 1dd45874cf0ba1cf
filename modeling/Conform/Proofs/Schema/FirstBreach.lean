import Conform.Failure
import Conform.Proofs.Schema.Address
import Conform.Proofs.Schema.Grammar
import Conform.Proofs.Schema.Unwrapping

/-!
# The first breach

A node breaks a demand of its flags in one way, the literal's before the intersection's before the
array's. The search goes through the descents of a node in order, so what it finds is the first node in
pre-order that breaks a demand, with the path that leads there (`Tree.breach?_eq_some`). A document
whose nodes have the form of nodes is refused for exactly that node, however the document is given
(`load_first_breach`).
-/

namespace Conform.Schema

variable {ι : Type}

/-! ## Nodes that break a demand -/

/-- A literal that carries no single scalar. -/
def Node.UnfitLiteral (n : Node ι) : Prop :=
  n.flags.literal = true ∧ ¬∃ v, n.payload = .single v ∧ v.isScalar = true

/-- An intersection with fewer than two members. -/
def Node.UnfitIntersection (n : Node ι) : Prop :=
  n.flags.intersection = true ∧ n.alternatives.length < 2

/-- An array that carries neither nothing nor a list. -/
def Node.UnfitArray (n : Node ι) : Prop :=
  n.flags.array = true ∧ ¬(n.payload = .single .null ∨ ∃ ms, n.payload = .members ms)

/-- How a node breaks a demand of its flags, where the first demand that it breaks counts. -/
def Node.Breaks (n : Node ι) : Breach.Cause → Prop
  | .literal => n.UnfitLiteral
  | .intersection members =>
    ¬n.UnfitLiteral ∧ n.UnfitIntersection ∧ members = n.alternatives.length
  | .array => ¬n.UnfitLiteral ∧ ¬n.UnfitIntersection ∧ n.UnfitArray

theorem Node.breach?_eq_some {n : Node ι} {cause : Breach.Cause} :
    n.breach? = some cause ↔ n.Breaks cause := by
  have hliteral : (n.flags.literal && !n.payload.isScalar) = true ↔ n.UnfitLiteral := by
    rw [UnfitLiteral, ← Payload.isScalar_iff]
    simp
  have hintersection : (n.flags.intersection && decide (n.alternatives.length < 2)) = true ↔
      n.UnfitIntersection := by
    simp [UnfitIntersection]
  have harray : (n.flags.array && !n.payload.isListOrNull) = true ↔ n.UnfitArray := by
    rw [UnfitArray, ← Payload.isListOrNull_iff]
    simp
  unfold breach?
  split_ifs with hl hi ha
  · rw [hliteral] at hl
    cases cause <;> simp [Breaks, hl]
  · rw [hliteral] at hl
    rw [hintersection] at hi
    cases cause <;> simp [Breaks, hl, hi, eq_comm]
  · rw [hliteral] at hl
    rw [hintersection] at hi
    rw [harray] at ha
    cases cause <;> simp [Breaks, hl, hi, ha]
  · rw [hliteral] at hl
    rw [hintersection] at hi
    rw [harray] at ha
    cases cause <;> simp [Breaks, hl, hi, ha]

theorem Node.Breaks.not_sound {n : Node ι} {cause : Breach.Cause} (h : n.Breaks cause) :
    ¬n.Sound := by
  rw [← breach?_eq_none, breach?_eq_some.2 h]
  simp

/-- A node is sound unless it breaks one of the demands. -/
theorem Node.not_sound_iff {n : Node ι} :
    ¬n.Sound ↔ n.UnfitLiteral ∨ n.UnfitIntersection ∨ n.UnfitArray := by
  constructor
  · intro h
    rw [← breach?_eq_none, ← ne_eq, Option.ne_none_iff_exists'] at h
    obtain ⟨cause, hcause⟩ := h
    have hbreaks := breach?_eq_some.1 hcause
    cases cause with
    | literal => exact Or.inl hbreaks
    | intersection members => exact Or.inr (Or.inl hbreaks.2.1)
    | array => exact Or.inr (Or.inr hbreaks.2.2)
  · rintro (⟨hf, hno⟩ | ⟨hf, hfew⟩ | ⟨hf, hno⟩) h
    · exact hno (h.literal hf)
    · exact absurd (h.intersection hf) (Nat.not_le.2 hfew)
    · exact hno (h.array hf)

/-! ## The search -/

/-- The first breach among trees, each searched at the path that its steps lead to. -/
def firstBreach? (path : Path) (ds : List (Path × Tree)) : Option Breach :=
  ds.findSome? fun d => d.2.breach? (path ++ d.1)

theorem membersBreach?_eq (path : Path) (i : Nat) (ms : List (Member Tree)) :
    membersBreach? path i ms = firstBreach? path
      ((ms.zipIdx i).filterMap fun m => m.1.reference?.map fun ref => ([.index m.2], ref)) := by
  induction ms generalizing i with
  | nil => rfl
  | cons m ms ih =>
    rw [List.zipIdx_cons]
    cases m with
    | node t =>
      rw [List.filterMap_cons_some (by rfl), membersBreach?, ih, firstBreach?, firstBreach?,
        List.findSome?_cons]
      cases t.breach? (path ++ [.index i]) <;> rfl
    | bare v => rw [List.filterMap_cons_none (by rfl), membersBreach?, ih]

theorem propertiesBreach?_eq (path : Path) (ps : List (String × Tree)) :
    propertiesBreach? path ps = firstBreach? path (ps.map fun p => ([.key p.1], p.2)) := by
  induction ps with
  | nil => rfl
  | cons p ps ih =>
    rw [List.map_cons, propertiesBreach?, ih, firstBreach?, firstBreach?, List.findSome?_cons]
    cases p.2.breach? (path ++ [.key p.1]) <;> rfl

theorem treesBreach?_eq (path : Path) (ts : List Tree) :
    treesBreach? path ts = firstBreach? path (ts.map fun t => ([], t)) := by
  induction ts with
  | nil => rfl
  | cons t ts ih =>
    rw [List.map_cons, treesBreach?, ih, firstBreach?, firstBreach?, List.findSome?_cons,
      List.append_nil]
    cases t.breach? path <;> rfl

theorem payloadBreach?_eq (path : Path) (pl : Payload Tree) :
    payloadBreach? path pl = firstBreach? path pl.descents := by
  cases pl with
  | single v => rfl
  | members ms => exact membersBreach?_eq path 0 ms
  | properties ps => exact propertiesBreach?_eq path ps

/-- A tree is searched by its root first, then by the descents of the root in order. -/
theorem Tree.breach?_eq (t : Tree) (path : Path) :
    t.breach? path =
      match t.node.breach? with
      | some cause => some ⟨cause, path⟩
      | none => firstBreach? path t.node.descents := by
  obtain ⟨⟨typeName, flags, tags, payload, fallback⟩⟩ := t
  have happend : firstBreach? path (Node.descents ⟨typeName, flags, tags, payload, fallback⟩) =
      (payloadBreach? path payload).or (treesBreach? path fallback) := by
    rw [payloadBreach?_eq, treesBreach?_eq, Node.descents, firstBreach?, List.findSome?_append]
    rfl
  rw [Tree.breach?, node]
  cases Node.breach? ⟨typeName, flags, tags, payload, fallback⟩ with
  | some cause => rfl
  | none => exact happend.symm

/-! ## The first in pre-order -/

/-- The first node of a tree in pre-order that breaks a demand does so as the breach says, where the
    breach says. -/
def Tree.FirstBreach (t : Tree) (b : Breach) : Prop :=
  ∃ address s, t.At address b.path s ∧ s.node.Breaks b.cause ∧
    ∀ address' path' s', Before address' address → t.At address' path' s' → s'.node.Sound

namespace Tree

variable {t c : Tree} {b b' : Breach}

theorem FirstBreach.not_sound (h : t.FirstBreach b) : ¬∀ s, t.Reaches s → s.node.Sound := by
  obtain ⟨address, s, hat, hbreaks, -⟩ := h
  exact fun hsound => hbreaks.not_sound (hsound s hat.reaches)

theorem FirstBreach.unique (h : t.FirstBreach b) (h' : t.FirstBreach b') : b = b' := by
  obtain ⟨address, s, hat, hbreaks, hfirst⟩ := h
  obtain ⟨address', s', hat', hbreaks', hfirst'⟩ := h'
  obtain ⟨cause, path⟩ := b
  obtain ⟨cause', path'⟩ := b'
  rcases before_trichotomy address address' with hlt | rfl | hlt
  · exact absurd (hfirst' _ _ _ hlt hat) hbreaks.not_sound
  · obtain ⟨rfl, rfl⟩ := hat.unique hat'
    have hcause := (Node.breach?_eq_some.2 hbreaks).symm.trans (Node.breach?_eq_some.2 hbreaks')
    cases hcause
    rfl
  · exact absurd (hfirst _ _ _ hlt hat') hbreaks'.not_sound

theorem firstBreach_root {cause : Breach.Cause} (h : t.node.Breaks cause) :
    t.FirstBreach ⟨cause, []⟩ := by
  refine ⟨[], t, .root t, h, ?_⟩
  rintro _ _ _ ⟨⟩

/-- The first breach below a sound root is the first of the first descent that has one. -/
theorem FirstBreach.descend {before after : List (Path × Tree)} {step : Path}
    (hroot : t.node.Sound) (hds : t.node.descents = before ++ (step, c) :: after)
    (hbefore : ∀ d ∈ before, ∀ s, d.2.Reaches s → s.node.Sound) (h : c.FirstBreach b) :
    t.FirstBreach ⟨b.cause, step ++ b.path⟩ := by
  obtain ⟨address, s, hat, hbreaks, hfirst⟩ := h
  have hhere : t.node.descents[before.length]? = some (step, c) := by simp [hds]
  refine ⟨before.length :: address, s, .descend hhere hat, hbreaks, ?_⟩
  intro address' path' s' hlt hat'
  -- before it stands the root, what is below an earlier descent, and what stands before it in its own
  cases hlt with
  | above =>
    cases hat'
    exact hroot
  | sibling hi =>
    cases hat' with
    | descend hd hat' =>
      rw [hds, List.getElem?_append_left hi] at hd
      exact hbefore _ (List.mem_of_getElem? hd) _ hat'.reaches
  | inside _ hlt =>
    cases hat' with
    | descend hd hat' =>
      rw [hhere] at hd
      cases hd
      exact hfirst _ _ _ hlt hat'

/-- What the search finds is the first breach, with the path at which the tree stands in front. -/
theorem exists_of_breach? {path : Path} (h : t.breach? path = some b) :
    ∃ b₀, t.FirstBreach b₀ ∧ b = ⟨b₀.cause, path ++ b₀.path⟩ := by
  -- on the height: the search goes on in the trees that the root refers to
  induction hk : t.height using Nat.strongRecOn generalizing t path b with
  | _ k ih =>
    rw [breach?_eq] at h
    split at h
    · rename_i cause hcause
      cases h
      exact ⟨⟨cause, []⟩, firstBreach_root (Node.breach?_eq_some.1 hcause), by simp⟩
    · rename_i hroot
      obtain ⟨before, ⟨step, c⟩, after, hds, hc, hbefore⟩ := List.findSome?_eq_some_iff.1 h
      have hchild : t.Child c := by
        rw [Child, ← Node.map_descents, hds]
        simp
      obtain ⟨b₀, hfirst, rfl⟩ := ih c.height (hk ▸ height_lt_of_child hchild) hc rfl
      refine ⟨⟨b₀.cause, step ++ b₀.path⟩, hfirst.descend (Node.breach?_eq_none.1 hroot) hds ?_, ?_⟩
      · exact fun d hd => (breach?_eq_none d.2 _).1 (hbefore d hd)
      · simp

/-- The search finds the first node in pre-order that breaks a demand. -/
theorem breach?_eq_some {path : Path} :
    t.breach? path = some b ↔ ∃ b₀, t.FirstBreach b₀ ∧ b = ⟨b₀.cause, path ++ b₀.path⟩ := by
  refine ⟨exists_of_breach?, ?_⟩
  rintro ⟨b₀, hfirst, rfl⟩
  cases hb : t.breach? path with
  | none => exact absurd ((breach?_eq_none t path).1 hb) hfirst.not_sound
  | some b =>
    obtain ⟨b₁, hfirst', rfl⟩ := exists_of_breach? hb
    rw [hfirst.unique hfirst']

/-- A tree at a path is searched as at the root, with the path in front of what is found. -/
theorem breach?_path (t : Tree) (path : Path) :
    t.breach? path = (t.breach? []).map fun b => ⟨b.cause, path ++ b.path⟩ := by
  refine Option.ext fun b => ?_
  simp only [breach?_eq_some, Option.map_eq_some_iff, List.nil_append]
  constructor
  · rintro ⟨b₀, hfirst, rfl⟩
    exact ⟨b₀, ⟨b₀, hfirst, rfl⟩, rfl⟩
  · rintro ⟨_, ⟨b₀, hfirst, rfl⟩, rfl⟩
    exact ⟨b₀, hfirst, rfl⟩

end Tree

/-! ## Documents -/

theorem ofDecoded_of_reads {es : List (String × Value)} {t : Tree}
    (h : Reads (.object (rootEntries es)) t) :
    ofDecoded (.object es) =
      match t.breach? [] with
      | some b => .error (.breach b)
      | none => .ok t := by
  have hread : Tree.ofValue (.object (rootEntries es)) = .ok t := h
  cases hb : t.breach? [] with
  | some b => simp only [ofDecoded, hread, hb]
  | none => simp only [ofDecoded, hread, hb]

/-- The details of a breach list its path, and the number of members where that is too small. -/
theorem details?_breach (b : Breach) :
    ∃ more, (SchemaError.document (.breach b)).details? =
        some (("path", Path.toValue b.path) :: more) ∧
      ∀ members : Nat, b.cause = .intersection members → more = [("arity", .int members)] := by
  obtain ⟨cause, path⟩ := b
  cases cause with
  | literal => exact ⟨[], rfl, nofun⟩
  | intersection members =>
    refine ⟨_, rfl, ?_⟩
    rintro _ ⟨⟩
    rfl
  | array => exact ⟨[], rfl, nofun⟩

/-- A document whose nodes have the form of nodes is refused exactly if one of them breaks a demand of its
    flags. The fault tells the first such node in pre-order: how it breaks the demand, with the number of
    members where that is too small, and the keys and positions that lead to it. -/
theorem load_first_breach {es : List (String × Value)} {o : Except DocumentFault Tree}
    (ho : Loads es o) (hw : Json.isWritable (.object es) = true)
    (hform : DocumentForm (.object es)) :
    ∃ t, Reads (.object (rootEntries es)) t ∧
      ((∃ fault, o = .error fault) ↔ ∃ s, t.Reaches s ∧
        (s.node.UnfitLiteral ∨ s.node.UnfitIntersection ∨ s.node.UnfitArray)) ∧
      ∀ fault, o = .error fault → ∃ b more, fault = .breach b ∧ t.FirstBreach b ∧
        (SchemaError.document fault).details? = some (("path", Path.toValue b.path) :: more) ∧
        ∀ members : Nat, b.cause = .intersection members → more = [("arity", .int members)] := by
  have hroot := recognizes_ofValue (isWritable_rootEntries hw)
  obtain ⟨t, hread⟩ := hroot.succeeds.2 (nodeForm_rootEntries.2 hform)
  rw [ho.eq, ofDecoded_of_reads hread]
  refine ⟨t, hread, ?_, ?_⟩
  · have hunsound : t.breach? [] ≠ none ↔ ∃ s, t.Reaches s ∧ ¬s.node.Sound := by
      rw [ne_eq, Tree.breach?_eq_none]
      push Not
      rfl
    simp only [← Node.not_sound_iff, ← hunsound]
    cases t.breach? [] <;> simp
  · intro fault hfault
    cases hb : t.breach? [] with
    | none =>
      rw [hb] at hfault
      cases hfault
    | some b =>
      rw [hb] at hfault
      cases hfault
      obtain ⟨b₀, hfirst, rfl⟩ := Tree.breach?_eq_some.1 hb
      obtain ⟨more, hdetails, harity⟩ := details?_breach ⟨b₀.cause, [] ++ b₀.path⟩
      exact ⟨_, more, rfl, hfirst, hdetails, harity⟩

/-- Two properties: an optional node whose fallback has an intersection of one member among its
    alternatives, and a literal that carries a list. -/
def fewAndList : List (String × Value) :=
  [("few", .object [("type", .string "A"), ("optional", .bool true),
      ("fallback", .list [.object [("type", .string "B"), ("union", .bool true),
        ("children", .list [.string "x",
          .object [("type", .string "C"), ("intersection", .bool true), ("children", .list [.int 1])]])]])]),
    ("list", .object [("type", .string "D"), ("literal", .bool true), ("children", .list [])])]

theorem load_first_breach_fewAndList :
    Loads fewAndList (load (.object fewAndList)) ∧
    Json.isWritable (.object fewAndList) = true ∧ DocumentForm (.object fewAndList) ∧
    ∃ t, Reads (.object (rootEntries fewAndList)) t ∧
      t.FirstBreach ⟨.intersection 1, [.key "few", .index 1]⟩ ∧
      (SchemaError.document (.breach ⟨.intersection 1, [.key "few", .index 1]⟩)).details? =
        some [("path", .list [.string "few", .int 1]), ("arity", .int 1)] := by
  have hloads : Loads fewAndList (load (.object fewAndList)) := .document .object
  have hwritable : Json.isWritable (.object fewAndList) = true := rfl
  have hform : DocumentForm (.object fewAndList) :=
    nodeForm_rootEntries.1 ((recognizes_ofValue (isWritable_rootEntries hwritable)).succeeds.1 ⟨_, rfl⟩)
  obtain ⟨t, hread, -, hfirst⟩ := load_first_breach hloads hwritable hform
  have hrefused : load (.object fewAndList) =
      .error (.breach ⟨.intersection 1, [.key "few", .index 1]⟩) := rfl
  obtain ⟨b, more, hb, hbreach, hdetails, harity⟩ := hfirst _ hrefused
  cases hb
  obtain rfl := harity 1 rfl
  exact ⟨hloads, hwritable, hform, t, hread, hbreach, hdetails⟩

end Conform.Schema
