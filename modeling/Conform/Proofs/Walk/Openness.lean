import Conform.Proofs.Report.Words
import Conform.Proofs.Rule.Judgement
import Conform.Proofs.Validator
import Conform.Proofs.Walk.Simulation
import Mathlib.Logic.Relation

/-!
# Keys that no schema declares

Objects are open: an entry is checked against the property of its key, and passed over where there is
none. So entries whose keys no node of the schema declares make no difference, wherever in the value
they stand, as long as no literal of the schema could be equal to a value with entries in it. They
change no answer and no error; only the message of a failure and the value that it shows tell of them.
-/

namespace Conform.Schema

variable {ι : Type}

/-- A key that no node of the schema declares. -/
def Undeclared (s : Schema ι) (k : String) : Prop :=
  ∀ ref, s.Reaches ref → k ∉ (s.graph ref).properties.map Prod.fst

/-- A schema whose literals are scalars, those of its literal nodes and those that are members. -/
structure ScalarLiterals (s : Schema ι) : Prop where
  /-- A node flagged as a literal stands for a scalar, if for any value. -/
  literal : ∀ ref, s.Reaches ref → (s.graph ref).flags.literal = true →
    ∀ e, (s.graph ref).payload.value? = some e → e.isScalar = true
  /-- A member that stands for itself is a scalar. -/
  bare : ∀ ref, s.Reaches ref → ∀ e, .bare e ∈ (s.graph ref).alternatives → e.isScalar = true

end Conform.Schema

namespace Conform.Value

variable {extra : String → Prop} {v w : Value}

/-- A scalar is equal to no value that is none. -/
theorem strictEqual_eq_false {e : Value} (he : e.isScalar = true) (hv : v.isScalar = false) :
    e.strictEqual v = false := by
  cases v with
  | missing | list | tuple | object =>
    cases e with
    | missing | list | tuple | object => cases he
    | _ => rfl
  | _ => cases hv

/-- A scalar is equal to the same values whatever has been added to them. -/
theorem Extends.strictEqual_eq {e : Value} (he : e.isScalar = true) (h : v.Extends extra w) :
    e.strictEqual w = e.strictEqual v := by
  rcases h.eq_or_composite with rfl | ⟨hv, hw⟩
  · rfl
  · rw [strictEqual_eq_false he hv, strictEqual_eq_false he hw]

end Conform.Value

namespace Conform.Walk

open Schema Outcome

variable {ι : Type}

/-! ## Outcomes that resemble each other -/

/-- The same outcome, or failures for the same cause at the same place, or a failure and the fault of not
    being able to tell of it, unless what the second one has to show can be written. -/
inductive Resembles (L : Prop) : Outcome → Outcome → Prop where
  /-- The outcome is the same. -/
  | same (o : Outcome) : Resembles L o o
  /-- The failures have the same cause and place. -/
  | failure {f f' : Failure} (hcause : f'.cause = f.cause) (hpath : f'.path = f.path) :
      Resembles L (.error (.failure f)) (.error (.failure f'))
  /-- The second failure cannot be told of. -/
  | untold {f : Failure} (h : ¬L) : Resembles L (.error (.failure f)) (.error (.fault .tooLong))

theorem congruence_resembles (L : Prop) : Congruence fun _ => Resembles L where
  pass _ := .same _
  refuse := .same _
  also {_ o _ _ _} h h' := by
    cases h with
    | same =>
      rcases o with e | _ | _
      · exact .same _
      · exact .same _
      · exact h'
    | failure hcause hpath => exact .failure hcause hpath
    | untold hL => exact .untold hL
  otherwise {_ o _ _ _} h h' := by
    cases h with
    | same =>
      rcases o with e | _ | _
      · exact .same _
      · exact h'
      · exact .same _
    | failure hcause hpath => exact .failure hcause hpath
    | untold hL => exact .untold hL

section Failures

variable {L : Prop} {extra : String → Prop} {v w : Value}

/-- Failures with the same cause resemble each other, if only the second one may be without words. -/
theorem resembles_report {told told' : Told} {P P' : Prop} (h : Worded told P) (h' : Worded told' P')
    (hP : P' → P) (hL : L → P → P') (hcause : ∀ a b, told = .ok a → told' = .ok b → b.1 = a.1)
    (b : Bool) (value value' : Value) (path : Path) :
    Resembles L (Combinator.report b told value path) (Combinator.report b told' value' path) := by
  cases b with
  | false => exact .same _
  | true =>
    cases h with
    | given a hp =>
      cases h' with
      | given b hp' => exact .failure (hcause a b rfl rfl) rfl
      | lacking hno => exact .untold fun hl => hno (hL hl hp)
    | lacking hno =>
      cases h' with
      | given b hp' => exact absurd (hP hp') hno
      | lacking _ => exact .same _

variable (h : v.Extends extra w) (hw : L → w.isLegible = true)

include h hw

theorem resembles_typeMismatch (expected : String) (b : Bool) (path : Path) :
    Resembles L (Combinator.report b (.typeMismatch expected v) v path)
      (Combinator.report b (.typeMismatch expected w) w path) := by
  refine resembles_report (Told.worded_typeMismatch expected v) (Told.worded_typeMismatch expected w)
    h.isLegible (fun hl _ => hw hl) (fun a a' ha ha' => ?_) b v w path
  exact (Told.cause_of_typeMismatch ha').trans (Told.cause_of_typeMismatch ha).symm

theorem resembles_literalOutcome (expected : Value) (c : Context) (p : Bool) :
    Resembles L (literalOutcome expected v c p) (literalOutcome expected w c p) := by
  unfold literalOutcome
  split
  · exact .same _
  · refine resembles_report (Told.worded_literalMismatch expected v)
      (Told.worded_literalMismatch expected w) (fun hp => ⟨hp.1, h.isLegible hp.2⟩)
      (fun hl hp => ⟨hp.1, hw hl⟩) (fun a a' ha ha' => ?_) _ v w _
    exact (Told.cause_of_literalMismatch ha').trans (Told.cause_of_literalMismatch ha).symm

theorem resembles_unionOutcome (g : Graph ι) (ms : List (Member ι)) (c : Context) :
    Resembles L (unionOutcome g ms v c) (unionOutcome g ms w c) := by
  refine resembles_report (Told.worded_unionMismatch g ms v) (Told.worded_unionMismatch g ms w)
    (fun hp => ⟨hp.1, h.isLegible hp.2⟩) (fun hl hp => ⟨hp.1, hw hl⟩) (fun a a' ha ha' => ?_) _ v w _
  obtain ⟨⟨described, hd, hcause⟩, -⟩ := Told.unionMismatch_eq_ok.1 ha
  obtain ⟨⟨described', hd', hcause'⟩, -⟩ := Told.unionMismatch_eq_ok.1 ha'
  rw [hcause, hcause', Except.ok.inj (hd'.symm.trans hd)]

end Failures

/-! ## Literals and primitive types -/

section Parts

variable {L : Prop} {extra : String → Prop} {v w : Value} (h : v.Extends extra w)

include h

theorem isLiteral_extends {pl : Payload ι} (hpl : ∀ e, pl.value? = some e → e.isScalar = true) :
    isLiteral pl w = isLiteral pl v := by
  unfold isLiteral
  cases he : pl.value? with
  | none => rfl
  | some e => exact h.strictEqual_eq (hpl e he)

theorem resembles_literal (hw : L → w.isLegible = true) {pl : Payload ι}
    (hpl : ∀ e, pl.value? = some e → e.isScalar = true) (c : Context) (p : Bool) :
    Resembles L (literal pl v c p) (literal pl w c p) := by
  unfold literal
  rw [isLiteral_extends h hpl]
  split
  · exact .same _
  · exact resembles_literalOutcome h hw _ c p

/-- A value that something has been added to is of no primitive type, before or after. -/
theorem resembles_primitive (hw : L → w.isLegible = true) (n : Node ι) (c : Context) :
    Resembles L (primitive n v c) (primitive n w c) := by
  rcases h.eq_or_composite with rfl | ⟨hv, hw'⟩
  · exact .same _
  · unfold primitive
    split
    · exact .same _
    · rename_i t _
      have hno : ∀ x : Value, x.isScalar = false →
          ¬(Combinator.ofPrimitive c.registry t).admits x = true := by
        intro x hx ha
        rw [Primitive.isScalar_of_admits ha] at hx
        cases hx
      rw [Combinator.check_eq, Combinator.check_eq, if_neg (hno v hv), if_neg (hno w hw')]
      exact resembles_typeMismatch h hw _ _ _

end Parts

/-! ## Walks over values that have been extended -/

/-- The members of a schema with literals that are scalars. -/
inductive Scalars (s : Schema ι) : Member ι → Member ι → Prop where
  /-- A node of the schema. -/
  | node {ref : ι} (h : s.Reaches ref) : Scalars s (.node ref) (.node ref)
  /-- A scalar. -/
  | bare {e : Value} (h : e.isScalar = true) : Scalars s (.bare e) (.bare e)

theorem Scalars.eq {s : Schema ι} {m m' : Member ι} (h : Scalars s m m') : m = m' := by
  cases h with
  | node h => rfl
  | bare h => rfl

/-- The nodes of a schema each with itself, and a value with the same value in which there are more
    keys, of which the second can be written if what is shown of it can. -/
def extensions (s : Schema ι) (L : Prop) : Pairing ι ι where
  refs ref ref' := ref = ref' ∧ s.Reaches ref
  members := Scalars s
  values v w := v.Extends s.Undeclared w ∧ (L → w.isLegible = true)
  extra := s.Undeclared
  places c p d q := c = d ∧ p = q
  alike _ := Resembles L

section Walks

variable {s : Schema ι} {L : Prop} (hs : s.ScalarLiterals)

include hs

theorem simulation_extensions {visit : Visit ι}
    (H : ∀ ref v w c p, s.Reaches ref → v.Extends s.Undeclared w → (L → w.isLegible = true) →
      Resembles L (visit ref v c p) (visit ref w c p)) :
    Simulation (extensions s L) s.graph s.graph visit visit where
  toCongruence := congruence_resembles L
  toSimilarity := Value.similarity_extends.legible L
  into := by
    rintro c p _ _ segment ⟨rfl, rfl⟩
    exact ⟨rfl, rfl⟩
  optional_eq := by
    rintro ref _ ⟨rfl, -⟩
    rfl
  node := by
    rintro ref _ v w c p _ _ ⟨rfl, hr⟩ ⟨hv, hw⟩ ⟨rfl, rfl⟩
    exact H ref v w c p hr hv hw
  member := by
    rintro _ _ v w c p _ _ (⟨hr⟩ | ⟨he⟩) ⟨hv, hw⟩ ⟨rfl, rfl⟩
    · exact H _ v w c p hr hv hw
    · simp only [member, hv.strictEqual_eq he]
      split
      · exact .same _
      · exact resembles_literalOutcome hv hw _ c p
  isAlternativeLiteral_eq := by
    rintro _ _ v w (⟨hr⟩ | ⟨he⟩) ⟨hv, -⟩
    · rename_i ref
      simp only [isAlternativeLiteral]
      cases hl : (s.graph ref).flags.literal with
      | false => rfl
      | true => exact isLiteral_extends hv (hs.literal ref hr hl)
    · exact hv.strictEqual_eq he
  attempt := by
    rintro _ _ v w c p _ _ (⟨hr⟩ | ⟨he⟩) ⟨hv, hw⟩ ⟨rfl, rfl⟩ -
    · exact H _ v w c.probing true hr hv hw
    · exact .same _
  mismatch := by
    rintro ms ms' v w c p _ _ hms ⟨hv, hw⟩ ⟨rfl, rfl⟩
    obtain rfl := eq_of_forall₂ hms fun _ _ hm => hm.eq
    exact resembles_unionOutcome hv hw s.graph ms c
  mistyped := by
    rintro v w c p _ _ expected ⟨hv, hw⟩ ⟨rfl, rfl⟩
    exact resembles_typeMismatch hv hw expected _ _
  lacking := by
    rintro v w c p _ _ k - ⟨rfl, rfl⟩
    refine resembles_report (.given _ trivial) (.given _ trivial) id (fun _ h => h) ?_ _ v w _
    rintro _ _ ⟨⟩ ⟨⟩
    rfl
  arity := by
    rintro c p _ _ k ⟨rfl, rfl⟩
    exact .same _

theorem levels_extensions (k : Nat) (ref : ι) (v w : Value) (c : Context) (p : Bool)
    (hr : s.Reaches ref) (hv : v.Extends s.Undeclared w) (hw : L → w.isLegible = true) :
    Resembles L (levels s.graph k ref v c p) (levels s.graph k ref w c p) := by
  -- on the levels left; the nodes visited stay among those that the root leads to
  induction k generalizing ref v w c p with
  | zero => exact .same _
  | succ k ih =>
    have hmembers : ∀ m ∈ (s.graph ref).alternatives, Scalars s m m := by
      intro m hm
      cases m with
      | node ref' => exact .node (hr.tail (Node.mem_references_of_alternative hm))
      | bare e => exact .bare (hs.bare ref hr e hm)
    refine (simulation_extensions hs ih).inside
      (.self hmembers (fun _ href => ⟨rfl, hr.tail href⟩) fun k hk hextra => hextra ref hr hk)
      (fun hk => ?_) (fun _ => resembles_primitive hv hw _ _) ⟨hv, hw⟩ ⟨rfl, rfl⟩
    exact resembles_literal hv hw (hs.literal ref hr (Node.flag_of_kind hk)) _ p

end Walks

end Conform.Walk

namespace Conform.Validator

open Schema Walk Outcome

/-! ## Validators -/

variable {ι : Type}

theorem resembles_callAs (v : Validator ι) {L : Prop} {throwing : Bool} {x y : Value}
    (h : Resembles L (node v.schema.graph v.schema.root x (v.start throwing) false)
      (node v.schema.graph v.schema.root y (v.start throwing) false)) :
    Resembles L (v.callAs throwing x) (v.callAs throwing y) := by
  unfold callAs walk
  generalize node v.schema.graph v.schema.root x (v.start throwing) false = o,
    node v.schema.graph v.schema.root y (v.start throwing) false = o' at h ⊢
  cases h with
  | same => exact .same _
  | failure hcause hpath => exact .failure hcause hpath
  | untold hL => exact .untold hL

/-- A validator of a schema with literals that are scalars gives the same answer to a value whatever
    entries are added to the objects in it, if no node of the schema declares their keys; where it
    ends in an error, this has the same cause and the same place. Only if the larger value has an
    integer too long to be written, a failure may give way to the fault of showing that value. -/
theorem call_of_extends (v : Validator ι) (hs : v.schema.ScalarLiterals) (x y : Value)
    (h : x.Extends v.schema.Undeclared y) :
    Resembles (y.isLegible = true) (v.call x) (v.call y) :=
  v.resembles_callAs (levels_extensions hs _ _ x y _ _ .refl h id)

/-- Lists linked by a key, of numbers up to nine, each with one of two units. -/
def linkedNumbers : Schema Nat :=
  .ofTable #[⟨"link", {}, [], .properties [("value", 1), ("unit", 2), ("next", 3)], []⟩,
    ⟨"number", { primitive := true }, [⟨"max", "9"⟩], .single .null, []⟩,
    ⟨"unit", { union := true }, [], .members [.bare (.string "cm"), .bare (.string "in")], []⟩,
    ⟨"next", { optional := true }, [], .single .null, [0]⟩] 0

theorem linkedNumbers_reaches {ref : Nat} (h : linkedNumbers.Reaches ref) :
    ref = 0 ∨ ref = 1 ∨ ref = 2 ∨ ref = 3 := by
  induction h with
  | refl => exact Or.inl rfl
  | tail _ hstep ih =>
    rcases ih with rfl | rfl | rfl | rfl
    · have hmem : _ ∈ [1, 2, 3] := hstep
      simpa using Or.inr hmem
    · cases hstep
    · cases hstep
    · have hmem : _ ∈ [0] := hstep
      simpa using Or.inl hmem

theorem linkedNumbers_scalarLiterals : linkedNumbers.ScalarLiterals := by
  refine ⟨fun ref href hl => ?_, fun ref href e he => ?_⟩
  · rcases linkedNumbers_reaches href with rfl | rfl | rfl | rfl <;> cases hl
  · rcases linkedNumbers_reaches href with rfl | rfl | rfl | rfl
    · cases he
    · cases he
    · have hmem : Member.bare e ∈ [.bare (.string "cm"), .bare (.string "in")] := he
      simp only [List.mem_cons, List.not_mem_nil, Member.bare.injEq, or_false] at hmem
      rcases hmem with rfl | rfl <;> rfl
    · cases he

theorem linkedNumbers_undeclared {k : String} (hk : k ∉ ["value", "unit", "next"]) :
    linkedNumbers.Undeclared k := by
  intro ref href
  rcases linkedNumbers_reaches href with rfl | rfl | rfl | rfl
  · exact hk
  · exact List.not_mem_nil
  · exact List.not_mem_nil
  · exact List.not_mem_nil

theorem call_of_extends_linkedNumbers :
    let v : Validator Nat := ⟨linkedNumbers, ⟨Primitive.builtIn⟩, true, 8⟩
    let x : Value := .object [("value", .int 1), ("unit", .string "in"),
      ("next", .object [("value", .int 12), ("unit", .string "cm")])]
    let y : Value := .object [("id", .null), ("value", .int 1), ("unit", .string "in"),
      ("next", .object [("value", .int 12), ("tags", .object [("value", .null)]),
        ("unit", .string "cm")])]
    v.schema.ScalarLiterals ∧ x.Extends v.schema.Undeclared y ∧
    Resembles (y.isLegible = true) (v.call x) (v.call y) ∧
    ∃ f, v.call x = .error (.failure f) ∧ f.path = [.key "next", .key "value"] := by
  intro v x y
  have hnext : Value.Extends v.schema.Undeclared
      (.object [("value", .int 12), ("unit", .string "cm")])
      (.object [("value", .int 12), ("tags", .object [("value", .null)]), ("unit", .string "cm")]) :=
    .object (.kept (.refl _) (.added (linkedNumbers_undeclared (by decide)) (.kept (.refl _) .nil)))
  have hxy : x.Extends v.schema.Undeclared y :=
    .object (.added (linkedNumbers_undeclared (by decide))
      (.kept (.refl _) (.kept (.refl _) (.kept hnext .nil))))
  have hs : v.schema.ScalarLiterals := linkedNumbers_scalarLiterals
  exact ⟨hs, hxy, call_of_extends v hs x y hxy, _, rfl, rfl⟩

/-- Where an object is expected, a list of objects is a failure, and with an integer too long to be
    written under a key that is not declared it is a fault. -/
theorem call_parts_undeclared :
    let v : Validator Nat := ⟨linkedNumbers, ⟨Primitive.builtIn⟩, true, 8⟩
    let x : Value := .list [.object []]
    let y : Value := .list [.object [("id", Value.tooLong)]]
    v.schema.ScalarLiterals ∧ x.Extends v.schema.Undeclared y ∧
    (∃ f, v.call x = .error (.failure f)) ∧ v.call y = .error (.fault .tooLong) := by
  intro v x y
  have hobject : Value.Extends v.schema.Undeclared (.object []) (.object [("id", Value.tooLong)]) :=
    .object (.added (linkedNumbers_undeclared (by decide)) .nil)
  have hy : ¬y.isLegible = true := by
    rw [Value.isLegible_of_items rfl, List.forall_mem_singleton, Value.isLegible_of_entries rfl,
      List.forall_mem_singleton]
    exact Value.isLegible_tooLong
  exact ⟨linkedNumbers_scalarLiterals, .list (.cons hobject .nil), ⟨_, rfl⟩,
    callAs_of_untold (Told.worded_typeMismatch "object" y) hy rfl⟩

end Conform.Validator
