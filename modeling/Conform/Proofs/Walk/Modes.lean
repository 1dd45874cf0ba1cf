import Conform.Proofs.Report.Words
import Conform.Proofs.Rule.Judgement
import Conform.Proofs.Validator
import Conform.Proofs.Walk.Simulation

/-!
# With and without reports of failures

A walk that reports failures and the same walk with failures only answered with no go through the
same checks and part only at the first failure. So a validator that reports failures never answers
no; where it reports a failure, the other answers no, and everything else comes out the same, with one
exception: a failure that cannot be told of, because an integer in the value or in a literal of the
schema is too long to be written, is a fault for the one and no for the other. Schema errors are one
more way to answer no for a validator that does not report.

All of it rests on rules that end in no failure themselves: such a failure would pass through a
union that is only being tried.
-/

namespace Conform.Schema

variable {ι : Type}

/-- A schema whose literals can be written, those of its literal nodes and those that are members. -/
structure LegibleLiterals (s : Schema ι) : Prop where
  /-- The literal of a node flagged as one can be written. -/
  literal : ∀ ref, s.Reaches ref → (s.graph ref).flags.literal = true →
    (Report.literalValue (s.graph ref).payload).isLegible = true
  /-- A member that stands for itself can be written. -/
  bare : ∀ ref, s.Reaches ref → ∀ e, .bare e ∈ (s.graph ref).alternatives → e.isLegible = true

/-- The members of a node that the root leads to can be listed. -/
theorem LegibleLiterals.listable {s : Schema ι} (h : s.LegibleLiterals) {ref : ι} (hr : s.Reaches ref)
    {m : Member ι} (hm : m ∈ (s.graph ref).alternatives) : Report.Listable s.graph m := by
  cases m with
  | bare e => exact h.bare ref hr e hm
  | node ref' => exact h.literal ref' (hr.tail (Node.mem_references_of_alternative hm))

end Conform.Schema

namespace Conform.Walk

open Schema Outcome

variable {ι : Type}

/-! ## Outcomes that agree -/

/-- The outcomes of one check in a walk and in the same walk with failures only answered with no. The
    truth value says whether the first walk reports failures; if it does, it never answers no. The
    proposition says that whatever it may have to put into words can be. -/
inductive Agrees (L : Prop) : Bool → Outcome → Outcome → Prop where
  /-- Both say yes. -/
  | accepted (b : Bool) : Agrees L b (.ok true) (.ok true)
  /-- Both say no. -/
  | refused : Agrees L false (.ok false) (.ok false)
  /-- The first reports the failure that the second answers with no. -/
  | failed (f : Failure) : Agrees L true (.error (.failure f)) (.ok false)
  /-- The first cannot tell of the failure that the second answers with no. -/
  | untold (h : ¬L) : Agrees L true (.error (.fault .tooLong)) (.ok false)
  /-- Both end in the same schema error. -/
  | schema (b : Bool) (e : SchemaError) : Agrees L b (.error (.schema e)) (.error (.schema e))
  /-- Both end in the same fault. -/
  | fault (b : Bool) (e : Fault) : Agrees L b (.error (.fault e)) (.error (.fault e))

section Agrees

variable {L : Prop}

theorem Agrees.of_ne_failure {b : Bool} {e : Error} (h : ∀ f, e ≠ .failure f) :
    Agrees L b (.error e) (.error e) := by
  cases e with
  | schema e => exact .schema b e
  | failure f => exact absurd rfl (h f)
  | fault e => exact .fault b e

theorem congruence_agrees (L : Prop) : Congruence (Agrees L) where
  pass b := .accepted b
  refuse := .refused
  also h h' := by
    cases h with
    | accepted => exact h'
    | refused => exact .refused
    | failed f => exact .failed f
    | untold hL => exact .untold hL
    | schema _ e => exact .schema _ e
    | fault _ e => exact .fault _ e
  otherwise h h' := by
    cases h with
    | accepted => exact .accepted _
    | refused => exact h'
    | schema _ e => exact .schema _ e
    | fault _ e => exact .fault _ e

theorem agrees_report {told told' : Told} {P : Prop} (h : Worded told P) (hP : L → P) (b : Bool)
    (value value' : Value) (path path' : Path) :
    Agrees L b (Combinator.report b told value path) (Combinator.report false told' value' path') := by
  cases b with
  | false => exact .refused
  | true =>
    cases h with
    | given a _ => exact .failed _
    | lacking h => exact .untold fun hL => h (hP hL)

/-- A combinator whose rules end in no failure agrees with itself. -/
theorem agrees_check {k : Combinator}
    (hk : ∀ name rule, k.rules.find? name = some rule →
      ∀ value argument f, rule value argument ≠ .error (.failure f))
    {value : Value} (hL : L → value.isLegible = true) (tags : List Tag) (b : Bool) (path path' : Path) :
    Agrees L b (k.check value tags b path) (k.check value tags false path') := by
  rw [Combinator.check_eq, Combinator.check_eq]
  split
  · by_cases hj : (k.rules.judge value tags).2 = .accepted
    · rw [hj]
      exact .accepted b
    · obtain ⟨t, -, rule, hr, ⟨-, hj⟩ | ⟨e, ho, hj⟩⟩ := RuleTable.exists_of_judge hj
      · rw [hj]
        exact agrees_report (Told.worded_tagViolation tags t value) hL _ _ _ _ _
      · rw [hj]
        exact Agrees.of_ne_failure fun f hf => hk t.name rule hr value t.argument f (hf ▸ ho)
  · exact agrees_report (Told.worded_typeMismatch k.name value) hL _ _ _ _ _

end Agrees

/-! ## Walks that agree -/

/-- The second context is the first with failures only answered with no, and only a walk that
    answers them so is marked as a trial. -/
def Muted (c : Context) (p : Bool) (d : Context) (q : Bool) : Prop :=
  c.registry.FailureFree ∧ d = c.probing ∧ p = q ∧ (c.throwing = true → p = false)

/-- The nodes of a schema, their members and the values each with itself, of which the last two can be
    written if all that the walk may have to put into words can be. -/
def muting (s : Schema ι) (L : Prop) : Pairing ι ι where
  refs ref ref' := ref = ref' ∧ s.Reaches ref
  members m m' := m = m' ∧ (∀ ref, m = .node ref → s.Reaches ref) ∧ (L → Report.Listable s.graph m)
  values v w := v = w ∧ (L → w.isLegible = true)
  extra _ := False
  places := Muted
  alike := Agrees L

section Walks

variable {s : Schema ι} {L : Prop}

theorem agrees_fail {told : Told} {P : Prop} (h : Worded told P) (hP : L → P) (c : Context)
    (value : Value) : Agrees L c.throwing (c.fail told value) (c.probing.fail told value) :=
  agrees_report h hP _ _ _ _ _

theorem agrees_literalOutcome {expected value : Value} (he : L → expected.isLegible = true)
    (hv : L → value.isLegible = true) {c : Context} {p : Bool} (hp : c.throwing = true → p = false) :
    Agrees L c.throwing (literalOutcome expected value c p)
      (literalOutcome expected value c.probing p) := by
  cases p with
  | false =>
    exact agrees_fail (Told.worded_literalMismatch expected value) (fun hL => ⟨he hL, hv hL⟩) c value
  | true =>
    have ht : c.throwing = false := by simpa using hp
    rw [ht]
    exact .refused

theorem simulation_muting {visit : Visit ι}
    (H : ∀ ref value c p, s.Reaches ref → (L → value.isLegible = true) → Muted c p c.probing p →
      Agrees L c.throwing (visit ref value c p) (visit ref value c.probing p)) :
    Simulation (muting s L) s.graph s.graph visit visit where
  toCongruence := congruence_agrees L
  toSimilarity := Value.similarity_eq.legible L
  into := by
    rintro c p _ _ segment ⟨hr, rfl, rfl, hp⟩
    exact ⟨hr, rfl, rfl, hp⟩
  optional_eq := by
    rintro ref _ ⟨rfl, -⟩
    rfl
  node := by
    rintro ref _ value _ c p _ _ ⟨rfl, href⟩ ⟨rfl, hv⟩ ⟨hr, rfl, rfl, hp⟩
    exact H ref value c p href hv ⟨hr, rfl, rfl, hp⟩
  member := by
    rintro m _ value _ c p _ _ ⟨rfl, href, hlist⟩ ⟨rfl, hv⟩ ⟨hr, rfl, rfl, hp⟩
    cases m with
    | node ref => exact H ref value c p (href ref rfl) hv ⟨hr, rfl, rfl, hp⟩
    | bare expected =>
      simp only [member]
      split
      · exact .accepted _
      · exact agrees_literalOutcome hlist hv hp
  isAlternativeLiteral_eq := by
    rintro m _ value _ ⟨rfl, -⟩ ⟨rfl, -⟩
    rfl
  attempt := by
    rintro m _ value _ c p _ _ ⟨rfl, href, -⟩ ⟨rfl, hv⟩ ⟨hr, rfl, rfl, -⟩ -
    cases m with
    | node ref => exact H ref value c.probing true (href ref rfl) hv ⟨hr, rfl, rfl, nofun⟩
    | bare expected => exact .refused
  mismatch := by
    rintro ms ms' value _ c p _ _ hms ⟨rfl, hv⟩ ⟨-, rfl, rfl, -⟩
    obtain rfl := eq_of_forall₂ hms fun _ _ hm => hm.1
    have hlist : ∀ m ∈ ms, L → Report.Listable s.graph m :=
      fun m hm => (List.forall₂_same.1 hms m hm).2.2
    exact agrees_fail (Told.worded_unionMismatch s.graph ms value)
      (fun hL => ⟨fun m hm => hlist m hm hL, hv hL⟩) c value
  mistyped := by
    rintro value _ c p _ _ expected ⟨rfl, hv⟩ ⟨-, rfl, rfl, -⟩
    exact agrees_fail (Told.worded_typeMismatch expected value) hv c value
  lacking := by
    rintro value _ c p _ _ k ⟨rfl, -⟩ ⟨-, rfl, rfl, -⟩
    exact agrees_fail (Worded.given _ trivial) (fun _ => trivial) (c.into (.key k)) value
  arity := by
    rintro c p _ _ k ⟨-, rfl, rfl, -⟩
    exact .schema _ _

/-- A walk agrees with the walk in which failures are only answered with no, where the literals of the
    schema can be written if all that may have to be put into words can. -/
theorem levels_agree (hs : L → s.LegibleLiterals) (k : Nat) (ref : ι) (value : Value) (c : Context)
    (p : Bool) (href : s.Reaches ref) (hv : L → value.isLegible = true) (h : Muted c p c.probing p) :
    Agrees L c.throwing (levels s.graph k ref value c p) (levels s.graph k ref value c.probing p) := by
  -- on the levels left; the nodes visited stay among those that the root leads to
  induction k generalizing ref value c p with
  | zero => exact .schema _ _
  | succ k ih =>
    obtain ⟨hr, -, -, hp⟩ := h
    have hmembers : ∀ m ∈ (s.graph ref).alternatives, (muting s L).members m m := by
      refine fun m hm => ⟨rfl, ?_, fun hL => (hs hL).listable href hm⟩
      rintro ref' rfl
      exact href.tail (Node.mem_references_of_alternative hm)
    refine (simulation_muting ih).inside (c := c.entered)
      (.self hmembers (fun _ href' => ⟨rfl, href.tail href'⟩) fun _ _ => not_false)
      (fun hk => ?_) (fun _ => ?_) ⟨rfl, hv⟩ ⟨hr, rfl, rfl, hp⟩
    · unfold literal
      split
      · exact .accepted _
      · exact agrees_literalOutcome
          (fun hL => (hs hL).literal ref href (Node.flag_of_kind hk)) hv (c := c.entered) hp
    · unfold primitive
      split
      · exact .accepted _
      · rename_i t _
        exact agrees_check (hr t) hv _ _ _ _

end Walks

end Conform.Walk

namespace Conform.Validator

open Walk Schema

variable {ι : Type}

/-! ## Validators that agree -/

theorem agrees_mapError {L : Prop} {b : Bool} {o o' : Outcome} (v : Validator ι)
    (h : Agrees L b o o') : Agrees L b (o.mapError v.reported) (o'.mapError v.reported) := by
  cases h with
  | accepted => exact .accepted b
  | refused => exact .refused
  | failed f => exact .failed f
  | untold hL => exact .untold hL
  | schema b e => exact Agrees.of_ne_failure fun f hf => by cases reported_eq_failure.1 hf
  | fault b e => exact Agrees.of_ne_failure fun f hf => by cases reported_eq_failure.1 hf

/-- What a walk may have to put into words: the value, and the literals of the schema. -/
def Legible (s : Schema ι) (value : Value) : Prop := value.isLegible = true ∧ s.LegibleLiterals

/-- The walks of a validator with and without reports agree. -/
theorem walk_agrees (v : Validator ι) (hr : v.registry.FailureFree) (value : Value) :
    Agrees (Legible v.schema value) true (v.walk true value) (v.walk false value) :=
  agrees_mapError v (levels_agree And.right (v.start true).remaining v.schema.root value (v.start true)
    false .refl And.left ⟨hr, rfl, rfl, fun _ => rfl⟩)

/-- What a value can come to: the answer with failures reported, the answer without, and the failure
    that is asked for. -/
inductive Answers (L : Prop) : Outcome → Outcome → Except Error (Option Failure) → Prop where
  /-- The value matches. -/
  | accepted : Answers L (.ok true) (.ok true) (.ok none)
  /-- The value does not match. -/
  | failed (f : Failure) : Answers L (.error (.failure f)) (.ok false) (.ok (some f))
  /-- The value does not match, but that cannot be told. -/
  | untold (h : ¬L) :
    Answers L (.error (.fault .tooLong)) (.ok false) (.error (.fault .tooLong))
  /-- The schema cannot be judged against. -/
  | schema (e : SchemaError) : Answers L (.error (.schema e)) (.ok false) (.error (.schema e))
  /-- A rule came to grief. -/
  | fault (e : Fault) : Answers L (.error (.fault e)) (.error (.fault e)) (.error (.fault e))

theorem answers (v : Validator ι) (hr : v.registry.FailureFree) (value : Value) :
    Answers (Legible v.schema value) (v.callAs true value) (v.callAs false value) (v.check value) := by
  have h := v.walk_agrees hr value
  unfold check callAs
  generalize v.walk true value = o, v.walk false value = o' at h
  cases h with
  | accepted => exact .accepted
  | failed f => exact .failed f
  | untold h => exact .untold h
  | schema _ e => exact .schema e
  | fault _ e => exact .fault e

/-- The validator that reports failures, the one that does not, and the failure asked for agree on
    every value: the first never answers no, both accept the same values, which are those without a
    failure, and the failure reported is the one asked for, where the other answers no. A schema error
    is answered with no where failures are not reported, and a fault comes out everywhere. The one
    fault that only comes out where failures are told of is an integer too long to be written, in the
    value or in a literal of the schema. -/
theorem modes_agree (s : Schema ι) (r : Registry) (hr : r.FailureFree) (maxDepth : Int)
    (value : Value) :
    let quiet : Validator ι := ⟨s, r, false, maxDepth⟩
    let loud : Validator ι := ⟨s, r, true, maxDepth⟩
    loud.call value ≠ .ok false ∧
    (loud.call value = .ok true ↔ quiet.call value = .ok true) ∧
    (quiet.call value = .ok true ↔ quiet.check value = .ok none) ∧
    (∀ f, loud.call value = .error (.failure f) ↔ quiet.check value = .ok (some f)) ∧
    (∀ f, loud.call value = .error (.failure f) → quiet.call value = .ok false) ∧
    (∀ e, loud.call value = .error (.schema e) ↔ quiet.check value = .error (.schema e)) ∧
    (∀ e, loud.call value = .error (.schema e) → quiet.call value = .ok false) ∧
    (∀ e, loud.call value = .error (.fault e) ↔ quiet.check value = .error (.fault e)) ∧
    (∀ e, quiet.call value = .error (.fault e) → loud.call value = .error (.fault e)) ∧
    ∀ e, loud.call value = .error (.fault e) → quiet.call value = .error (.fault e) ∨
      quiet.call value = .ok false ∧ e = .tooLong ∧ ¬Legible s value := by
  intro quiet loud
  have h : Answers (Legible s value) (loud.call value) (quiet.call value) (quiet.check value) :=
    answers quiet hr value
  generalize loud.call value = t, quiet.call value = b, quiet.check value = k at h
  cases h with
  | untold h => simpa using h
  | _ => simp

/-- A single node, for texts. -/
def loneTexts : Schema Nat := .ofTable #[⟨"string", { primitive := true }, [], .single .null, []⟩] 0

/-- Where a text is expected, an integer too long to be written is no match, but the validator that
    reports failures cannot say so. -/
theorem modes_part_tooLong :
    (⟨loneTexts, ⟨Primitive.builtIn⟩, false, 8⟩ : Validator Nat).call Value.tooLong = .ok false ∧
    (⟨loneTexts, ⟨Primitive.builtIn⟩, true, 8⟩ : Validator Nat).call Value.tooLong =
      .error (.fault .tooLong) := by
  have hword := Told.worded_typeMismatch "string" Value.tooLong
  exact ⟨rfl, callAs_of_untold hword Value.isLegible_tooLong rfl⟩

/-- Lists of lists of any depth, in which null may stand for a list: the union refers to the lists,
    these to the union. -/
def nestedLists : Schema Nat :=
  .ofTable #[⟨"nested", { union := true }, [], .members [.node 1, .bare .null], []⟩,
    ⟨"list", { array := true }, [], .members [.node 0], []⟩] 0

theorem modes_agree_nestedLists :
    Registry.FailureFree ⟨Primitive.builtIn⟩ ∧
    (⟨nestedLists, ⟨Primitive.builtIn⟩, true, 8⟩ : Validator Nat).call
      (.list [.list [.null], .null]) = .ok true ∧
    (⟨nestedLists, ⟨Primitive.builtIn⟩, false, 8⟩ : Validator Nat).check
      (.list [.list [.null], .null]) = .ok none := by
  obtain ⟨-, hloud, hquiet, -⟩ :=
    modes_agree nestedLists ⟨Primitive.builtIn⟩ builtIn_failureFree 8 (.list [.list [.null], .null])
  exact ⟨builtIn_failureFree, hloud.2 rfl, hquiet.1 rfl⟩

end Conform.Validator
