import Conform.Proofs.Schema.Meaning
import Conform.Proofs.Schema.Subtree
import Conform.Proofs.Walk.Alternatives
import Conform.Proofs.Walk.Modes
import Conform.Proofs.Walk.Origin

/-!
# The verdict of a walk

On every schema a walk that answers at all answers whether the value is accepted. On a tree that is
no higher than the depth allowed, whose intersections have members enough and whose tags have rules
that answer, every walk answers. So a validator tells exactly the values that the tree accepts.
-/

namespace Conform.Walk

open Schema Outcome

variable {ι : Type} {g : Graph ι} {r : Registry}

/-! ## What single checks settle -/

theorem isLiteral_iff {pl : Payload ι} {value : Value} :
    isLiteral pl value = true ↔ pl.Equals value := by
  unfold isLiteral Payload.Equals
  cases pl.value? with
  | none => simp
  | some e => simp

/-- No property is missing exactly if every key required is there. -/
theorem missing?_eq_none {n : Node ι} {es : List (String × Value)} :
    missing? g n.properties es = none ↔ ∀ k ∈ requiredKeys g n, k ∈ es.map Prod.fst := by
  unfold missing? requiredKeys
  rw [Option.map_eq_none_iff, List.find?_eq_none, List.forall_mem_map]
  constructor
  · intro h q hq
    obtain ⟨hq, ho⟩ := List.mem_filter.1 hq
    by_contra hk
    exact h q hq (by simp [Entries.lookup_eq_none.2 hk, ho])
  · intro h q hq hm
    obtain ⟨ho, hk⟩ := Bool.and_eq_true_iff.1 hm
    exact Entries.lookup_eq_none.1 (by simpa using hk) (h q (List.mem_filter.2 ⟨hq, ho⟩))

theorem settles_fail {c : Context} {told : Told} {value : Value} {P : Prop} (h : ¬P) :
    Settles (c.fail told value) P :=
  Combinator.settles_report h

theorem settles_literalOutcome {expected value : Value} {c : Context} {p : Bool} {P : Prop}
    (h : ¬P) : Settles (literalOutcome expected value c p) P := by
  unfold literalOutcome
  split
  · exact settles_ok (by simp [h])
  · exact settles_fail h

theorem settles_literal (pl : Payload ι) (value : Value) (c : Context) (p : Bool) :
    Settles (literal pl value c p) (pl.Equals value) := by
  unfold literal
  rw [← isLiteral_iff]
  split
  · rename_i h
    exact settles_ok (by simp [h])
  · rename_i h
    exact settles_literalOutcome h

theorem settles_primitive (n : Node ι) (value : Value) (c : Context) :
    Settles (primitive n value c) (n.Refines c.registry value) := by
  unfold primitive Node.Refines
  split
  · rename_i hp
    exact settles_ok (by simp [hp])
  · rename_i p hp
    exact Combinator.settles_check.congr (by simp [hp, Combinator.ofPrimitive])

/-! ## What shapes settle -/

section Shapes

variable {visit : Visit ι} {c : Context} {p : Bool}
  (H : ∀ ref value c p, c.registry = r → Settles (visit ref value c p) (Accepts g r ref value))
  (hc : c.registry = r)

include H hc

theorem settles_member (m : Member ι) (value : Value) :
    Settles (member visit m value c p) (Meets g r m value) := by
  cases m with
  | node ref => exact (H ref value c p hc).congr meets_node.symm
  | bare e =>
    rw [meets_bare]
    simp only [member]
    split
    · rename_i h
      exact settles_ok (by simp [h])
    · rename_i h
      exact settles_literalOutcome h

theorem settles_union (ms : List (Member ι)) (value : Value) :
    Settles (union g visit ms value c) (MeetsSome g r ms value) := by
  rw [union_eq]
  split
  · rename_i hlit
    obtain ⟨m, hm, h⟩ := List.any_eq_true.1 hlit
    refine settles_ok (iff_of_true rfl ?_)
    cases m with
    | bare e => exact .bare hm h
    | node ref =>
      obtain ⟨hl, h⟩ := Bool.and_eq_true_iff.1 h
      exact .literal hm hl (isLiteral_iff.1 h)
  · rename_i hlit
    have hnone : ∀ m ∈ ms, ¬isAlternativeLiteral g value m = true := by simpa using hlit
    have htry : ∀ ref, .node ref ∈ ms →
        Settles (visit ref value c.probing true) (Accepts g r ref value) :=
      fun ref _ => H ref value c.probing true hc
    refine (settles_otherwise (settles_tryAlternatives htry) (settles_fail not_false)).congr ?_
    rw [or_false]
    constructor
    · rintro ⟨ref, hm, ha⟩
      exact .node hm ha
    · intro h
      cases h with
      | bare hm he => exact absurd he (hnone _ hm)
      | literal hm hl he =>
        exact absurd (Bool.and_eq_true_iff.2 ⟨hl, isLiteral_iff.2 he⟩) (hnone _ hm)
      | node hm ha => exact ⟨_, hm, ha⟩

theorem settles_item {ms : List (Member ι)} (hms : ms ≠ []) (value : Value) :
    Settles (item g visit ms value c p) (Describes g r ms value) := by
  unfold item
  split
  · exact (settles_member H hc _ value).congr describes_singleton.symm
  · rename_i hne
    refine (settles_union H hc ms value).congr (describes_of_two_le ?_).symm
    match ms with
    | [m] => exact absurd rfl (hne m)
    | _ :: _ :: _ => simp

theorem settles_array (ms : List (Member ι)) (value : Value) :
    Settles (array g visit ms value c p)
      (∃ xs, value.items? = some xs ∧ ∀ x ∈ xs, Describes g r ms x) := by
  unfold array
  split
  · rename_i hx
    exact settles_fail (by simp [hx])
  · rename_i xs hx
    split
    · rename_i hms
      obtain rfl := List.isEmpty_iff.1 hms
      exact settles_ok (iff_of_true rfl ⟨xs, hx, fun x _ => .anything⟩)
    · rename_i hms
      have hitem : ∀ x ∈ xs.zipIdx, Settles (item g visit ms x.1 (c.into (.index x.2)) p)
          (Describes g r ms x.1) :=
        fun x _ => settles_item H (c := c.into (.index x.2)) hc (by simpa using hms) x.1
      refine (settles_allM hitem).congr ?_
      rw [← List.forall_mem_map (P := Describes g r ms), List.zipIdx_map_fst]
      simp [hx]

theorem settles_intersection (ms : List (Member ι)) (value : Value) :
    Settles (intersection visit ms value c p) (∀ m ∈ ms, Meets g r m value) := by
  unfold intersection
  split
  · exact settles_error
  · exact settles_allM fun m _ => settles_member H hc m value

theorem settles_object (n : Node ι) (value : Value) :
    Settles (object g visit n.properties value c p)
      (∃ es, value.entries? = some es ∧ (∀ k ∈ requiredKeys g n, k ∈ es.map Prod.fst) ∧
        ∀ k x s, (k, x) ∈ es → n.properties.lookup k = some s → Accepts g r s x) := by
  unfold object
  split
  · rename_i he
    exact settles_fail (by simp [he])
  · rename_i es he
    simp only [he, Option.some.injEq, exists_eq_left', ← missing?_eq_none]
    split
    · rename_i k hm
      exact settles_fail (by simp [hm])
    · rename_i hm
      have hentry : ∀ e ∈ es, Settles (entry visit n.properties c p e)
          (∀ s, n.properties.lookup e.1 = some s → Accepts g r s e.2) := by
        rintro e -
        unfold entry
        split
        · rename_i hp
          exact settles_ok (by simp [hp])
        · rename_i s hp
          exact (H s e.2 (c.into (.key e.1)) p hc).congr (by simp [hp])
      refine (settles_allM hentry).congr ?_
      simp only [hm, true_and, Prod.forall]
      exact forall₂_congr fun k x => forall_comm

theorem settles_inside (ref : ι) (value : Value) :
    Settles (inside g visit (g ref) value c p) (Accepts g r ref value) := by
  rw [accepts_iff]
  unfold inside
  split
  · rename_i h
    exact settles_ok (iff_of_true rfl (Or.inl (by simpa using h)))
  · rename_i h
    have hno : ¬((g ref).flags.optional = true ∧ value.isAbsent = true) := by simpa using h
    rw [or_iff_right hno]
    unfold shape
    cases hk : (g ref).kind with
    | optional =>
      cases hf : (g ref).fallback with
      | nil => exact absurd hf (Node.fallback_ne_nil hk)
      | cons s rest => exact (H s value c p hc).congr (by simp)
    | literal => exact settles_literal _ value c p
    | primitive => exact hc ▸ settles_primitive (g ref) value c
    | array => exact settles_array H hc _ value
    | intersection => exact settles_intersection H hc _ value
    | union => exact settles_union H hc _ value
    | object => exact settles_object H hc (g ref) value
    | opaqueKind => exact settles_ok (iff_of_true rfl trivial)

end Shapes

/-- A walk settles whether the value is accepted, with any number of levels left. -/
theorem settles_levels (k : Nat) (ref : ι) (value : Value) (c : Context) (p : Bool)
    (hc : c.registry = r) : Settles (levels g k ref value c p) (Accepts g r ref value) := by
  induction k generalizing ref value c p with
  | zero => exact settles_error
  | succ k ih => exact settles_inside ih (c := c.entered) hc ref value

/-! ## Trees on which every walk answers -/

/-- The rules of a registry answer for the tags of a node, on all values of its primitive type. -/
def Answering (r : Registry) (n : Node ι) : Prop :=
  ∀ p, Primitive.ofName? n.typeName = some p →
    ∀ t ∈ n.tags, ∀ rule, (r.table p).find? t.name = some rule →
      ∀ value, p.admits value = true → ∃ b, rule value t.argument = .ok b

/-- What a tree needs in order that every walk through it with a number of levels left answers. -/
structure Checkable (r : Registry) (levels : Int) (t : Schema.Tree) : Prop where
  /-- The tree is no higher than the number of levels. -/
  height : t.height ≤ levels
  /-- Intersections have at least two members. -/
  arity : ∀ s, t.Reaches s → s.node.kind = .intersection → 2 ≤ s.node.alternatives.length
  /-- The rules answer for all tags. -/
  rules : ∀ s, t.Reaches s → s.node.kind = .primitive → Answering r s.node

/-- A tree needs one level more than those that its root refers to. -/
theorem Checkable.of_references {t : Schema.Tree} {k : Nat}
    (harity : t.node.kind = .intersection → 2 ≤ t.node.alternatives.length)
    (hrules : t.node.kind = .primitive → Answering r t.node)
    (h : ∀ s, t.Child s → Checkable r k s) : Checkable r (k + 1 : Nat) t := by
  refine ⟨?_, ?_, ?_⟩
  · rw [t.height_eq]
    exact Int.ofNat_le.2 (Nat.succ_le_succ (treesHeight_le fun s hs => Int.ofNat_le.1 (h s hs).height))
  · exact Schema.Tree.forall_reaches.2 ⟨harity, fun s hs => (h s hs).arity⟩
  · exact Schema.Tree.forall_reaches.2 ⟨hrules, fun s hs => (h s hs).rules⟩

theorem Descends.child {a b : Call ι} (h : Descends g a b) : b.ref ∈ (g a.ref).references := by
  cases h with
  | fallback hk hf => exact Node.mem_references_of_fallback hf
  | item hk hx hi hm => exact Node.mem_references_of_alternative (by simp [hm])
  | itemAlternative hk hx hi hl hm => exact Node.mem_references_of_alternative hm
  | demand hk hl hm => exact Node.mem_references_of_alternative hm
  | alternative hk hm => exact Node.mem_references_of_alternative hm
  | property hk he hm hx hp => exact Node.mem_references_of_property hp

namespace Call

variable {a b : Call Schema.Tree} {e : Error}

/-- The levels that the context leaves are enough for the tree that is called. -/
def Enough (a : Call Schema.Tree) : Prop :=
  Checkable a.context.registry (a.context.maxDepth - a.context.depth) a.ref

/-- A descent leaves enough levels. -/
theorem Enough.descends (h : a.Enough) (hab : Descends Schema.Tree.node a b) : b.Enough := by
  have hchild : a.ref.Child b.ref := hab.child
  refine ⟨?_, fun s hs => h.arity s (.head hchild hs), fun s hs => ?_⟩
  · have hheight := Schema.Tree.height_lt_of_child hchild
    have henough := h.height
    rw [hab.maxDepth_eq, hab.depth_eq]
    omega
  · rw [hab.registry_eq]
    exact h.rules s (.head hchild hs)

/-- Where levels are enough, nothing is raised but failures that are reported, or cannot be told of. -/
theorem Enough.raises (h : a.Enough) (hr : Raises Schema.Tree.node a e) :
    a.context.throwing = true ∧ ((∃ f, e = .failure f) ∨ e = .fault .tooLong) := by
  cases hr with
  | cycle hd =>
    have hheight := h.height
    have hpos := a.ref.height_pos
    omega
  | arity hd hk hl =>
    have hlen := h.arity a.ref .refl hk
    omega
  | rule hd hk hp ha ht hr ho =>
    obtain ⟨b, hb⟩ := h.rules a.ref .refl hk _ hp _ ht _ hr _ ha
    rw [hb] at ho
    cases ho
  | blame hd ht hb => exact ⟨ht, hb.toError_cases⟩

/-- Where levels are enough, a call answers or reports a failure, or cannot tell of it. -/
theorem Enough.outcome (h : a.Enough) (he : a.outcome Schema.Tree.node = .error e) :
    a.context.throwing = true ∧ ((∃ f, e = .failure f) ∨ e = .fault .tooLong) := by
  obtain ⟨b, hab, hr⟩ := Call.origin he
  clear he
  induction hab using Relation.ReflTransGen.head_induction_on with
  | refl => exact h.raises hr
  | head hac _ ih =>
    obtain ⟨ht, hf⟩ := ih (h.descends hac)
    exact ⟨hac.throwing_of ht, hf⟩

end Call

end Conform.Walk

namespace Conform.Validator

open Schema Walk Outcome

/-! ## Validators of trees -/

variable {t : Schema.Tree} {r : Registry} {maxDepth : Int}

/-- Whether it reports failures or not, a validator of a tree answers whether the tree accepts the
    value, or reports a failure, or cannot tell of it. -/
theorem call_of_checkable (h : Checkable r maxDepth t) (throwing : Bool) (value : Value) :
    let v : Validator Schema.Tree := ⟨.ofTree t, r, throwing, maxDepth⟩
    (∃ b, v.call value = .ok b ∧ (b = true ↔ Accepts Schema.Tree.node r t value)) ∨
    throwing = true ∧
      ((∃ f, v.call value = .error (.failure f)) ∨ v.call value = .error (.fault .tooLong)) := by
  intro v
  have henough : Call.Enough ⟨t, value, v.start throwing, false⟩ := by
    unfold Call.Enough
    rw [show (v.start throwing).maxDepth - (v.start throwing).depth = maxDepth from Int.sub_zero _]
    exact h
  have hsettles : Settles (node Schema.Tree.node t value (v.start throwing) false)
      (Accepts Schema.Tree.node r t value) := settles_levels _ _ _ _ _ rfl
  cases ho : node Schema.Tree.node t value (v.start throwing) false with
  | ok b => exact Or.inl ⟨b, callAs_of_ok ho, hsettles b ho⟩
  | error e =>
    obtain ⟨ht, ⟨f, rfl⟩ | rfl⟩ := henough.outcome ho
    · exact Or.inr ⟨ht, Or.inl ⟨f, callAs_eq_failure.2 ho⟩⟩
    · exact Or.inr ⟨ht, Or.inr (callAs_of_tooLong ho)⟩

/-- A validator of a tree that reports no failures answers whether the tree accepts the value. -/
theorem exists_answer_of_checkable (h : Checkable r maxDepth t) (value : Value) :
    ∃ b, (⟨.ofTree t, r, false, maxDepth⟩ : Validator Schema.Tree).call value = .ok b ∧
      (b = true ↔ Accepts Schema.Tree.node r t value) := by
  rcases call_of_checkable h false value with hanswer | ⟨ht, -⟩
  · exact hanswer
  · cases ht

/-- A validator of a tree that reports no failures answers every value, with yes exactly if the tree
    accepts it. One that reports them says yes to the same values and reports a failure of all others,
    if the rules report none themselves; the exceptions are values that have an integer too long to be
    written, and trees with such a literal, where it may come to grief on telling of the failure. -/
theorem call_iff_accepts (t : Schema.Tree) (r : Registry) (maxDepth : Int) (h : Checkable r maxDepth t)
    (value : Value) :
    let quiet : Validator Schema.Tree := ⟨.ofTree t, r, false, maxDepth⟩
    let loud : Validator Schema.Tree := ⟨.ofTree t, r, true, maxDepth⟩
    (quiet.call value = .ok true ↔ Accepts Schema.Tree.node r t value) ∧
    (quiet.call value = .ok false ↔ ¬Accepts Schema.Tree.node r t value) ∧
    (r.FailureFree →
      (loud.call value = .ok true ↔ Accepts Schema.Tree.node r t value) ∧
      ((∃ f, loud.call value = .error (.failure f)) ∨
          loud.call value = .error (.fault .tooLong) ∧ ¬Legible (.ofTree t) value ↔
        ¬Accepts Schema.Tree.node r t value)) := by
  intro quiet loud
  obtain ⟨b, hb, hP⟩ | ⟨ht, -⟩ := call_of_checkable h false value
  · have hquiet : quiet.call value = .ok b := hb
    refine ⟨by simp [hquiet, hP], by simp [hquiet, ← hP], fun hr => ?_⟩
    have hanswers : Answers (Legible (.ofTree t) value) (loud.call value) (quiet.call value)
        (quiet.check value) := answers quiet hr value
    have hloud := call_of_checkable h true value
    change (∃ b, loud.call value = .ok b ∧ _) ∨ _ ∧ ((∃ f, loud.call value = _) ∨ _) at hloud
    rw [hquiet] at hanswers
    generalize loud.call value = o, quiet.check value = k at hanswers hloud
    cases hanswers with
    | accepted => simp [← hP]
    | failed f => simp [← hP]
    | untold hno => simp [← hP, hno]
    | schema e => simp at hloud
  · cases ht

/-- The texts that the rule of a tag accepts. -/
def textsWith (name argument : String) : Schema.Tree :=
  .mk ⟨"string", { primitive := true }, [⟨name, argument⟩], .single .null, []⟩

/-- Texts of two to five characters. -/
def shortTexts : Schema.Tree :=
  .mk ⟨"text", { intersection := true }, [],
    .members [.node (textsWith "min" "2"), .node (textsWith "max" "5")], []⟩

theorem checkable_shortTexts : Checkable ⟨Primitive.builtIn⟩ 2 shortTexts := by
  have hreaches : ∀ s, shortTexts.Reaches s →
      s = shortTexts ∨ s = textsWith "min" "2" ∨ s = textsWith "max" "5" := by
    have hrefs : shortTexts.node.references = [textsWith "min" "2", textsWith "max" "5"] := rfl
    have hleaf : ∀ name argument s, (textsWith name argument).Reaches s → s = textsWith name argument :=
      fun name argument => Schema.Tree.forall_reaches.2 ⟨rfl, fun c hc => by cases hc⟩
    refine Schema.Tree.forall_reaches.2 ⟨Or.inl rfl, ?_⟩
    rw [hrefs]
    simp only [List.forall_mem_cons]
    exact ⟨fun s hs => Or.inr (Or.inl (hleaf _ _ s hs)),
      fun s hs => Or.inr (Or.inr (hleaf _ _ s hs)), by simp⟩
  refine ⟨by decide, fun s hs hk => ?_, fun s hs hk p hp t ht rule hr value _ => ?_⟩
  · rcases hreaches s hs with rfl | rfl | rfl
    · exact Nat.le_refl 2
    · cases hk
    · cases hk
  · rcases hreaches s hs with rfl | rfl | rfl
    · cases ht
    · obtain rfl := List.mem_singleton.1 ht
      exact builtIn_answers hr (by decide) value _
    · obtain rfl := List.mem_singleton.1 ht
      exact builtIn_answers hr (by decide) value _

theorem call_iff_accepts_shortTexts :
    Checkable ⟨Primitive.builtIn⟩ 2 shortTexts ∧ Registry.FailureFree ⟨Primitive.builtIn⟩ ∧
    Accepts Schema.Tree.node ⟨Primitive.builtIn⟩ shortTexts (.string "three") ∧
    ¬Accepts Schema.Tree.node ⟨Primitive.builtIn⟩ shortTexts (.string "twelve") ∧
    ∃ f, (⟨.ofTree shortTexts, ⟨Primitive.builtIn⟩, true, 2⟩ : Validator Schema.Tree).call
      (.string "twelve") = .error (.failure f) := by
  obtain ⟨htrue, -, -⟩ := call_iff_accepts shortTexts _ 2 checkable_shortTexts (.string "three")
  obtain ⟨-, hfalse, hloud⟩ := call_iff_accepts shortTexts _ 2 checkable_shortTexts (.string "twelve")
  have hno := hfalse.1 rfl
  have hfailure := ((hloud builtIn_failureFree).2.2 hno).resolve_right fun hlong => by cases hlong.1
  exact ⟨checkable_shortTexts, builtIn_failureFree, htrue.1 rfl, hno, hfailure⟩

/-- An integer too long to be written is no text, but a validator that reports failures reports none. -/
theorem refused_untold :
    Checkable ⟨Primitive.builtIn⟩ 2 shortTexts ∧ Registry.FailureFree ⟨Primitive.builtIn⟩ ∧
    ¬Accepts Schema.Tree.node ⟨Primitive.builtIn⟩ shortTexts Value.tooLong ∧
    ¬∃ f, (⟨.ofTree shortTexts, ⟨Primitive.builtIn⟩, true, 2⟩ : Validator Schema.Tree).call
      Value.tooLong = .error (.failure f) := by
  have hquiet : (⟨.ofTree shortTexts, ⟨Primitive.builtIn⟩, false, 2⟩ : Validator Schema.Tree).call
      Value.tooLong = .ok false := rfl
  have hloud : (⟨.ofTree shortTexts, ⟨Primitive.builtIn⟩, true, 2⟩ : Validator Schema.Tree).call
      Value.tooLong = .error (.fault .tooLong) :=
    callAs_of_untold (Told.worded_typeMismatch "string" Value.tooLong)
      Value.isLegible_tooLong rfl
  obtain ⟨b, hb, hP⟩ := exists_answer_of_checkable checkable_shortTexts Value.tooLong
  rw [hquiet, Except.ok.injEq] at hb
  refine ⟨checkable_shortTexts, builtIn_failureFree, by simp [← hP, ← hb], ?_⟩
  rintro ⟨f, hf⟩
  cases hloud.symm.trans hf

end Conform.Validator
