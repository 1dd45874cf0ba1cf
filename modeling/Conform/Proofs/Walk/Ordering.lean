import Conform.Proofs.Schema.Weakening
import Conform.Proofs.Value.Order
import Conform.Proofs.Walk.Verdict

/-!
# The verdict does not depend on order

A walk goes through tags, members, properties and entries in order and stops at the first that decides.
Acceptance does not speak of order at all: a value with its keys in another order is accepted by the
same nodes, and a node with its tags, members or properties in another order demands no more and no
less. So where every walk answers, the order in the schema and in the value changes no answer.
-/

namespace Conform.Schema

/-! ## Values in another order -/

section Values

variable {ι : Type} {g : Graph ι} {r : Registry}

theorem Payload.Equals.reordered {pl : Payload ι} {v w : Value} (h : pl.Equals v)
    (hvw : v.Reordered w) : pl.Equals w := by
  obtain ⟨e, he, heq⟩ := h
  exact ⟨e, he, (hvw.strictEqual_eq e).trans heq⟩

/-- Values of a primitive type have no parts, so nothing in them is reordered. -/
theorem Node.Refines.reordered {n : Node ι} {v w : Value} (h : n.Refines r v) (hvw : v.Reordered w) :
    n.Refines r w := by
  intro p hp
  obtain ⟨hadmits, -⟩ := h p hp
  obtain ⟨hx, he⟩ := Primitive.plain_of_admits hadmits
  rw [hvw.eq_of_plain hx he]
  exact h p hp

mutual

/-- A node accepts a value whatever the order of its keys. -/
theorem Accepts.reordered : ∀ {ref : ι} {v w : Value}, Accepts g r ref v → v.Reordered w →
    Accepts g r ref w
  | _, _, _, .absent ho hv, hvw => .absent ho (by rw [hvw.isAbsent_eq, hv])
  | _, _, _, .fallback hk hs h, hvw => .fallback hk hs (h.reordered hvw)
  | _, _, _, .literal hk h, hvw => .literal hk (h.reordered hvw)
  | _, _, _, .primitive hk h, hvw => .primitive hk (h.reordered hvw)
  | _, _, _, .array hk hx h, hvw => by
    obtain ⟨ys, hy, hys⟩ := hvw.items hx
    refine .array hk hy fun y hymem => ?_
    obtain ⟨x, hxmem, hxy⟩ := hys y hymem
    exact (h x hxmem).reordered hxy
  | _, _, _, .intersection hk h, hvw => .intersection hk fun m hm => (h m hm).reordered hvw
  | _, _, _, .union hk h, hvw => .union hk (h.reordered hvw)
  | _, _, _, .object hk he hr h, hvw => by
    obtain ⟨fs, hf, hkeys, hfs⟩ := hvw.entries he
    refine .object hk hf (fun k hmem => hkeys (hr k hmem)) fun k y s hy hs => ?_
    obtain ⟨x, hxmem, hxy⟩ := hfs k y hy
    exact (h k x s hxmem hs).reordered hxy
  | _, _, _, .anything hk, _ => .anything hk

theorem Meets.reordered : ∀ {m : Member ι} {v w : Value}, Meets g r m v → v.Reordered w →
    Meets g r m w
  | _, _, _, .node h, hvw => .node (h.reordered hvw)
  | _, _, _, .bare h, hvw => .bare ((hvw.strictEqual_eq _).trans h)

theorem MeetsSome.reordered : ∀ {ms : List (Member ι)} {v w : Value}, MeetsSome g r ms v →
    v.Reordered w → MeetsSome g r ms w
  | _, _, _, .bare hm h, hvw => .bare hm ((hvw.strictEqual_eq _).trans h)
  | _, _, _, .literal hm hl h, hvw => .literal hm hl (h.reordered hvw)
  | _, _, _, .node hm h, hvw => .node hm (h.reordered hvw)

theorem Describes.reordered : ∀ {ms : List (Member ι)} {v w : Value}, Describes g r ms v →
    v.Reordered w → Describes g r ms w
  | _, _, _, .anything, _ => .anything
  | _, _, _, .only h, hvw => .only (h.reordered hvw)
  | _, _, _, .some hl h, hvw => .some hl (h.reordered hvw)

end

end Values

/-! ## Schemas in another order -/

/-- A node and the node with its tags, members or properties in another order. -/
inductive Node.Reorders (n : Node Tree) : Node Tree → Prop where
  /-- The tags are in another order. -/
  | tags {ts : List Tag} (h : n.tags.Perm ts) : Reorders n { n with tags := ts }
  /-- The members of a node that is not flagged as a literal, as no array, intersection or union is,
      are in another order. -/
  | members {ms ms' : List (Member Tree)} (hl : n.flags.literal = false)
      (hp : n.payload = .members ms) (h : ms.Perm ms') :
      Reorders n { n with payload := .members ms' }
  /-- The properties, among which no key occurs twice, are in another order. -/
  | properties {ps ps' : List (String × Tree)} (hp : n.payload = .properties ps)
      (hn : (ps.map Prod.fst).Nodup) (h : ps.Perm ps') :
      Reorders n { n with payload := .properties ps' }

/-- A schema and the schema with its nodes in another order, at any depth. -/
def Tree.Reordered : Tree → Tree → Prop :=
  Relation.ReflTransGen (Tree.Somewhere Node.Reorders)

namespace Node.Reorders

variable {r : Registry} {n n' : Node Tree} (h : n.Reorders n')

include h

theorem symm : n'.Reorders n := by
  obtain ⟨typeName, flags, tags, payload, fallback⟩ := n
  cases h with
  | tags h => exact .tags h.symm
  | members hl hp h =>
    cases hp
    exact .members hl rfl h.symm
  | properties hp hn h =>
    cases hp
    exact .properties rfl ((h.map Prod.fst).nodup_iff.1 hn) h.symm

theorem eases : n.Eases (Tree.Weaker r) n' := by
  cases h with
  | tags h => exact { Eases.refl n with tags := h.symm.subset }
  | members hl hp h =>
    have hnil : ∀ ms ms' : List (Member Tree), ms.Perm ms' → ms = [] → ms' = [] := by
      rintro _ ms' h rfl
      exact List.nil_perm.1 h
    exact eases_of_members hp hl ⟨hnil _ _ h.symm, hnil _ _ h⟩ (fun _ => h.subset)
      (fun _ => Nat.le_of_eq h.length_eq) fun _ => h.symm.subset
  | @properties ps ps' hp hn h =>
    have hvalue : (Payload.properties ps').value? = (Payload.properties ps).value? := by
      cases ps with
      | nil => rw [List.nil_perm.1 h]
      | cons e ps =>
        cases ps' with
        | nil => exact absurd h (by simp)
        | cons e' ps' => rfl
    refine eases_of_properties hp (fun _ => hvalue) h.symm.subset fun k s hs => ?_
    rwa [← Entries.lookup_of_perm hn h k]

theorem references_subset : n'.references ⊆ n.references := by
  have hpayload : ∀ pl : Payload Tree, pl.references ⊆ n.payload.references →
      ({ n with payload := pl } : Node Tree).references ⊆ n.references := by
    intro pl hpl
    exact List.append_subset.2
      ⟨List.Subset.trans hpl (List.subset_append_left _ _), List.subset_append_right _ _⟩
  cases h with
  | tags h => exact List.Subset.refl _
  | members hl hp h =>
    refine hpayload _ ?_
    rw [hp]
    exact (h.symm.filterMap Member.reference?).subset
  | properties hp hn h =>
    refine hpayload _ ?_
    rw [hp]
    exact (h.symm.map _).subset

theorem length_alternatives : n'.alternatives.length = n.alternatives.length := by
  cases h with
  | tags h => rfl
  | members hl hp h =>
    rw [alternatives, alternatives, hp]
    exact h.symm.length_eq
  | properties hp hn h =>
    rw [alternatives, alternatives, hp]
    rfl

end Node.Reorders

namespace Tree.Reordered

variable {r : Registry} {t t' : Tree}

theorem symm (h : t.Reordered t') : t'.Reordered t := by
  induction h with
  | refl => exact .refl
  | tail _ hstep ih => exact .head (hstep.symm fun _ _ h => h.symm) ih

/-- A tree in another order accepts the same values. -/
theorem accepts_iff (h : t.Reordered t') (v : Value) :
    Accepts Tree.node r t v ↔ Accepts Tree.node r t' v := by
  have hweaker : Tree.Weaker r t t' := .of_changes (fun _ _ h => h.eases) h
  have hweaker' : Tree.Weaker r t' t := .of_changes (fun _ _ h => h.eases) h.symm
  exact ⟨hweaker.accepts v, hweaker'.accepts v⟩

end Tree.Reordered

end Conform.Schema

namespace Conform.Walk

open Schema

variable {r : Registry} {levels : Int} {t t' : Schema.Tree}

/-- What a node needs in order that its own checks answer. -/
def Orderly (r : Registry) (n : Node Schema.Tree) : Prop :=
  (n.kind = .intersection → 2 ≤ n.alternatives.length) ∧ (n.kind = .primitive → Answering r n)

/-- It does not depend on the references, the number of alternatives being the same, nor on the order
    of the tags. -/
theorem Orderly.congr {n n' : Node Schema.Tree} (h : Orderly r n) (hkind : n'.kind = n.kind)
    (hlength : n'.alternatives.length = n.alternatives.length) (htypeName : n'.typeName = n.typeName)
    (htags : n'.tags ⊆ n.tags) : Orderly r n' := by
  obtain ⟨harity, hrules⟩ := h
  refine ⟨fun hk => ?_, fun hk p hp t ht => ?_⟩
  · rw [hlength]
    exact harity (hkind ▸ hk)
  · exact hrules (hkind ▸ hk) p (htypeName ▸ hp) t (htags ht)

theorem Checkable.orderly (h : Checkable r levels t) (s : Schema.Tree) (hs : t.Reaches s) :
    Orderly r s.node :=
  ⟨h.arity s hs, h.rules s hs⟩

/-- Where every walk through a tree answers, every walk answers through the tree in another order. -/
theorem Checkable.reordered (h : Checkable r levels t) (ht : t.Reordered t') :
    Checkable r levels t' := by
  induction ht with
  | refl => exact h
  | tail _ hstep ih =>
    have hheight := hstep.height_le fun _ _ hn => hn.references_subset
    -- a node keeps what it needs if it is changed itself, and if one is changed that it refers to
    have hchange : ∀ n n', Node.Reorders n n' → Orderly r n → Orderly r n' := by
      intro n n' hn ho
      have heases : n.Eases (Tree.Weaker r) n' := hn.eases
      exact ho.congr heases.kind hn.length_alternatives heases.typeName heases.tags
    have hpointwise : ∀ s s' n n', Node.Pointwise (Tree.Swap s s') n n' → Orderly r n →
        Orderly r n' := by
      intro s s' n n' hn ho
      have htags : n'.tags ⊆ n.tags := by
        rw [hn.tags_eq]
        exact List.Subset.refl _
      exact ho.congr hn.kind_eq hn.alternatives.length_eq.symm hn.typeName_eq htags
    have horderly := hstep.forall_reaches hchange (fun _ _ hn => hn.references_subset) hpointwise
      ih.orderly
    exact ⟨Int.le_trans (Int.ofNat_le.2 hheight) ih.height, fun s hs => (horderly s hs).1,
      fun s hs => (horderly s hs).2⟩

end Conform.Walk

namespace Conform.Validator

open Schema Walk

/-- The validators of a schema and of the schema with its tags, members and properties in another
    order give the same answer to a value and the value with its keys in another order, as long as the
    schema is no higher than the depth allowed, intersections have members enough and the rules answer
    for the tags. -/
theorem call_eq_of_reordered (t t' : Schema.Tree) (ht : t.Reordered t') (v v' : Value)
    (hv : v.Reordered v') (r : Registry) (maxDepth : Int) (h : Checkable r maxDepth t) :
    ∃ b, (⟨.ofTree t, r, false, maxDepth⟩ : Validator Schema.Tree).call v = .ok b ∧
      (⟨.ofTree t', r, false, maxDepth⟩ : Validator Schema.Tree).call v' = .ok b := by
  have h' : Checkable r maxDepth t' := h.reordered ht
  obtain ⟨b, hb, hiff⟩ := exists_answer_of_checkable h v
  obtain ⟨b', hb', hiff'⟩ := exists_answer_of_checkable h' v'
  have hvalues : Accepts Schema.Tree.node r t v ↔ Accepts Schema.Tree.node r t v' :=
    ⟨fun ha => ha.reordered hv, fun ha => ha.reordered hv.symm⟩
  have heq : b = b' := by
    rw [Bool.eq_iff_iff, hiff, hiff', hvalues, ht.accepts_iff]
  exact ⟨b, hb, heq ▸ hb'⟩

/-- Texts with tags. -/
def texts (ts : List Tag) : Schema.Tree := .mk ⟨"string", { primitive := true }, ts, .single .null, []⟩

/-- A choice of values. -/
def choices (vs : List Value) : Schema.Tree :=
  .mk ⟨"choice", { union := true }, [], .members (vs.map .bare), []⟩

/-- Objects with properties. -/
def objects (ps : List (String × Schema.Tree)) : Schema.Tree :=
  .mk ⟨"object", {}, [], .properties ps, []⟩

theorem call_eq_of_reordered_objects :
    let short : Tag := ⟨"max", "5"⟩
    let named : Tag := ⟨"min", "1"⟩
    let t := objects [("name", texts [named, short]), ("grade", choices [.int 1, .int 2])]
    let t' := objects [("grade", choices [.int 2, .int 1]), ("name", texts [short, named])]
    let v : Value := .object [("name", .string "ann"), ("grade", .int 2)]
    let v' : Value := .object [("grade", .int 2), ("name", .string "ann")]
    t.Reordered t' ∧ v.Reordered v' ∧ Checkable ⟨Primitive.builtIn⟩ 2 t ∧
    ∃ b, (⟨.ofTree t, ⟨Primitive.builtIn⟩, false, 2⟩ : Validator Schema.Tree).call v = .ok b ∧
      (⟨.ofTree t', ⟨Primitive.builtIn⟩, false, 2⟩ : Validator Schema.Tree).call v' = .ok b := by
  intro short named t t' v v'
  have htexts : Schema.Tree.Somewhere Node.Reorders (texts [named, short]) (texts [short, named]) :=
    .root (.tags (.swap _ _ _))
  have hchoices : Schema.Tree.Somewhere Node.Reorders (choices [.int 1, .int 2])
      (choices [.int 2, .int 1]) :=
    .root (.members rfl rfl (.swap _ _ _))
  have htags : Schema.Tree.Somewhere Node.Reorders t
      (objects [("name", texts [short, named]), ("grade", choices [.int 1, .int 2])]) :=
    .child htexts ⟨.properties (.cons ⟨.swapped⟩ (.cons ⟨.kept _⟩ .nil)), .nil⟩
  have hmembers : Schema.Tree.Somewhere Node.Reorders
      (objects [("name", texts [short, named]), ("grade", choices [.int 1, .int 2])])
      (objects [("name", texts [short, named]), ("grade", choices [.int 2, .int 1])]) :=
    .child hchoices ⟨.properties (.cons ⟨.kept _⟩ (.cons ⟨.swapped⟩ .nil)), .nil⟩
  have hproperties : Schema.Tree.Somewhere Node.Reorders
      (objects [("name", texts [short, named]), ("grade", choices [.int 2, .int 1])]) t' :=
    .root (.properties rfl (by decide) (.swap _ _ _))
  have ht : t.Reordered t' := .tail (.tail (.single htags) hmembers) hproperties
  have hv : v.Reordered v' := .single (.entries (by decide) (.swap _ _ _))
  have hcheckable : Checkable ⟨Primitive.builtIn⟩ 2 t := by
    refine .of_references nofun nofun fun s hs => ?_
    rcases List.mem_cons.1 hs with rfl | hs
    · refine .of_references nofun (fun _ p hp tag htag rule hr value _ => ?_) nofun
      rcases List.mem_cons.1 htag with rfl | htag
      · exact builtIn_answers hr (by decide) value _
      · obtain rfl := List.mem_singleton.1 htag
        exact builtIn_answers hr (by decide) value _
    · obtain rfl := List.mem_singleton.1 hs
      exact .of_references nofun nofun nofun
  exact ⟨ht, hv, hcheckable, call_eq_of_reordered t t' ht v v' hv _ 2 hcheckable⟩

end Conform.Validator
